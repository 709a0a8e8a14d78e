import IsaTftp.Wire.Cut
import IsaTftp.Wire.OptionParsers
import IsaTftp.Wire.Replies

/-!
# Packets of every class

The factory looks at the opcode and calls the constructor of its class.  What
it accepts is either a packet which cannot be encoded, since it has an option
which the program does not know, or it is encoded to a datagram of which the
factory makes the same packet.
-/

namespace IsaTftp.Wire

/-- A packet of one of the classes. -/
inductive TftpPacket where
  | readWrite (packet : ReadWritePacket)
  | data (packet : DataPacket)
  | ack (packet : AckPacket)
  | error (packet : ErrorPacket)
  | oack (packet : OackPacket)
deriving DecidableEq

namespace TftpPacket

/-- The virtual `TftpPacket::MakeRaw`. -/
def makeRaw : TftpPacket → Except Exception Bytes
  | .readWrite packet => packet.makeRaw
  | .data packet => .ok packet.makeRaw
  | .ack packet => .ok packet.makeRaw
  | .error packet => .ok packet.makeRaw
  | .oack packet => packet.makeRaw

/-- The options, of the classes which have some. -/
def options : TftpPacket → List TftpOption
  | .readWrite packet => packet.options
  | .oack packet => packet.options
  | _ => []

/-- The switch of the factory: the constructor of a class. -/
def ofRaw (raw : Bytes) : Opcode → Except Exception TftpPacket
  | .RRQ => (ReadWritePacket.ofRaw raw).map .readWrite
  | .WRQ => (ReadWritePacket.ofRaw raw).map .readWrite
  -- the default argument `blksize = 512`
  | .DATA => (DataPacket.ofRaw raw 512).map .data
  | .ACK => (AckPacket.ofRaw raw).map .ack
  | .ERROR => (ErrorPacket.ofRaw raw).map .error
  | .OACK => (OackPacket.ofRaw raw).map .oack

end TftpPacket

/-- `TftpPacketFactory::CreatePacket`. -/
def createPacket (raw : Bytes) : Except Exception TftpPacket :=
  (getOpcodeFromRaw raw).bind (TftpPacket.ofRaw raw)

theorem createPacket_of_opcode
    {raw : Bytes} {opcode : Opcode}
    (known : getOpcodeFromRaw raw = .ok opcode) :
    createPacket raw = TftpPacket.ofRaw raw opcode := by
  rw [createPacket, known]
  rfl

/-! ## Options which were parsed -/

/-- Lowering a text makes it plain. -/
theorem plain_map_toLower {bytes : Bytes} (nulFree : nul ∉ bytes) :
    Plain (bytes.map toLower) where
  nulFree := by
    intro member
    obtain ⟨byte, inside, lowered⟩ := List.mem_map.mp member
    obtain rfl := toLower_eq_nul lowered
    exact nulFree inside
  lowered := map_toLower_toLower bytes

/-- An option which the program knows has a value. -/
theorem TftpOption.value_ne_nil
    {option : TftpOption} (supported : option.name ≠ .UNSUPPORTED) :
    option.value ≠ [] := by
  intro isEmpty
  have valid := option.valid
  rw [isEmpty] at valid
  cases known : option.name with
  | BLKSIZE =>
      rw [known] at valid
      cases valid
  | TIMEOUT =>
      rw [known] at valid
      cases valid
  | TSIZE =>
      rw [known] at valid
      cases valid
  | UNSUPPORTED => exact supported known

/-- A pair is parsed to an option which can be encoded, if it is known. -/
theorem OptionText.encodable_option
    (pair : OptionText) (valid : pair.checked = .ok ())
    (supported : pair.optionName ≠ .UNSUPPORTED) :
    (pair.option valid).Encodable where
  constructed := by
    rcases pair.make with ⟨_, made⟩ | ⟨exception, invalid, _⟩
    · exact ⟨pair.lowered, made⟩
    · rw [valid] at invalid
      cases invalid
  supported := supported
  nonempty := TftpOption.value_ne_nil supported
  plain := plain_map_toLower pair.valueFree

section Scan

variable {checkValue : Bytes → Bytes → Except Exception Unit}

/-- The check of a value refuses, but it never alters an option. -/
theorem addOption_of_readPair
    {pair : OptionText} {parsed next : List TftpOption}
    (read : readPair checkValue parsed pair = .ok next) :
    addOption pair.lowered (pair.value.map toLower) parsed = .ok next := by
  unfold readPair at read
  cases checked : checkValue pair.lowered (pair.value.map toLower) with
  | error exception =>
      rw [checked] at read
      cases read
  | ok accepted =>
      rw [checked] at read
      exact read

theorem addPairs_of_readPairs
    {pairs : List OptionText} {parsed options : List TftpOption}
    (read : pairs.foldlM (readPair checkValue) parsed = .ok options) :
    addPairs parsed pairs = .ok options := by
  induction pairs generalizing parsed with
  | nil => exact read
  | cons pair pairs induction =>
      rw [List.foldlM_cons] at read
      rw [addPairs_cons]
      cases first : readPair checkValue parsed pair with
      | error exception =>
          rw [first] at read
          cases read
      | ok next =>
          rw [first] at read
          rw [addOption_of_readPair first]
          exact induction read

/-- What the loop accepts is a text of pairs. -/
theorem accepted_of_parseOptionsFrom
    {raw : Bytes} {options : List TftpOption}
    (parsed :
      parseOptionsFrom checkValue raw (.readingName []) [] = .ok options) :
    ∃ (pairs : List OptionText) (accepted : OptionText.Accepted pairs),
      raw = OptionText.rawOf pairs ∧
        options = optionsOf pairs accepted.valid := by
  obtain ⟨pairs, rest, rfl, ending⟩ := exists_pairs raw
  rw [parseOptionsFrom_rawOf] at parsed
  cases read : pairs.foldlM (readPair checkValue) [] with
  | error exception =>
      rw [read] at parsed
      cases parsed
  | ok next =>
      rw [read] at parsed
      have added := addPairs_of_readPairs read
      have accepted := OptionText.Accepted.of_addPairs added
      rcases ending with rfl | open_
      · cases parsed
        rw [accepted.addPairs] at added
        cases added
        exact ⟨pairs, accepted, List.append_nil _, rfl⟩
      · obtain ⟨operation, refused⟩ := open_.refused next
        have thrown := (refused checkValue).symm.trans parsed
        cases thrown

end Scan

namespace OptionText.Accepted

variable {pairs : List OptionText}

/-- Every parsed option can be encoded, if it is known. -/
theorem encodable (accepted : Accepted pairs)
    (supported : ∀ option ∈ optionsOf pairs accepted.valid,
      option.name ≠ .UNSUPPORTED) :
    ∀ option ∈ optionsOf pairs accepted.valid, option.Encodable := by
  intro option member
  have known := supported option member
  obtain ⟨pair, inside, rfl⟩ := List.mem_pmap.mp member
  exact pair.encodable_option (accepted.valid pair inside) known

theorem distinctOptions (accepted : Accepted pairs) :
    ((optionsOf pairs accepted.valid).map
      fun option => option.name).Nodup := by
  have names := map_name_optionsOf accepted.valid
  rw [show (fun option : TftpOption => option.name) = TftpOption.name
    from rfl, names]
  exact accepted.distinct

end OptionText.Accepted

/-- A pair and its option have the same length. -/
theorem OptionText.length_makeRaw
    (pair : OptionText) (valid : pair.checked = .ok ())
    (supported : pair.optionName ≠ .UNSUPPORTED) :
    ∃ raw, (pair.option valid).makeRaw = .ok raw ∧
      raw.length = pair.raw.length := by
  refine ⟨_, (pair.encodable_option valid supported).makeRaw, ?_⟩
  simp [OptionText.option, OptionText.lowered, OptionText.raw,
    stringToVectorNullTerminated]

/-- So have a text of pairs and the options which it was parsed to. -/
theorem length_makeRawOptions
    {pairs : List OptionText}
    (valid : ∀ pair ∈ pairs, pair.checked = .ok ())
    (supported : ∀ option ∈ optionsOf pairs valid,
      option.name ≠ .UNSUPPORTED)
    {raw : Bytes}
    (encoded : makeRawOptions (optionsOf pairs valid) = .ok raw) :
    raw.length = (OptionText.rawOf pairs).length := by
  induction pairs generalizing raw with
  | nil =>
      cases encoded
      rfl
  | cons pair pairs induction =>
      have here := valid pair List.mem_cons_self
      have known := supported (pair.option here) List.mem_cons_self
      obtain ⟨first, made, length⟩ := pair.length_makeRaw here known
      have later : ∀ other ∈ pairs, other.checked = .ok () :=
        fun other member => valid other (List.mem_cons_of_mem _ member)
      have whole :
          makeRawOptions (pair.option here :: optionsOf pairs later) =
            .ok raw :=
        encoded
      cases rest : makeRawOptions (optionsOf pairs later) with
      | error exception =>
          simp [makeRawOptions, made, rest, bind, Except.bind] at whole
      | ok bytes =>
          simp only [makeRawOptions, made, rest, bind, Except.bind, pure,
            Except.pure, Except.ok.injEq] at whole
          have tail :=
            induction later
              (fun option member =>
                supported option (List.mem_cons_of_mem _ member))
              rest
          rw [← whole, OptionText.rawOf_cons, List.length_append,
            List.length_append, length, tail]

/-- One option which is not known is enough to fail. -/
theorem makeRawOptions_of_unsupported
    {options : List TftpOption}
    (unknown : ∃ option ∈ options, option.name = .UNSUPPORTED) :
    makeRawOptions options = .error .unsupportedOption := by
  induction options with
  | nil =>
      obtain ⟨option, member, _⟩ := unknown
      cases member
  | cons option options induction =>
      rw [makeRawOptions]
      by_cases here : option.name = .UNSUPPORTED
      · have thrown : option.makeRaw = .error .unsupportedOption := by
          simp only [TftpOption.makeRaw, here]
        rw [thrown]
        rfl
      · have later : ∃ other ∈ options, other.name = .UNSUPPORTED := by
          obtain ⟨other, member, isUnknown⟩ := unknown
          rcases List.mem_cons.mp member with rfl | inside
          · exact absurd isUnknown here
          · exact ⟨other, inside, isUnknown⟩
        obtain ⟨raw, made⟩ : ∃ raw, option.makeRaw = .ok raw := by
          unfold TftpOption.makeRaw
          cases known : option.name with
          | BLKSIZE => exact ⟨_, rfl⟩
          | TIMEOUT => exact ⟨_, rfl⟩
          | TSIZE => exact ⟨_, rfl⟩
          | UNSUPPORTED => exact absurd known here
        rw [made, induction later]
        rfl

/-! ## What is accepted is encoded again -/

/-- A packet of a datagram is encoded, or it has an option not known. -/
structure Reencodes (raw : Bytes) (packet : TftpPacket) : Prop where
  refuses : (∃ option ∈ packet.options, option.name = .UNSUPPORTED) →
    packet.makeRaw = .error .unsupportedOption
  encodes : (∀ option ∈ packet.options, option.name ≠ .UNSUPPORTED) →
    ∃ again, packet.makeRaw = .ok again ∧ again.length ≤ raw.length ∧
      createPacket again = .ok packet

/-- A packet without options is encoded in any case. -/
theorem Reencodes.of_encoded
    {raw : Bytes} {packet : TftpPacket} (again : Bytes)
    (none_ : packet.options = []) (encoded : packet.makeRaw = .ok again)
    (shorter : again.length ≤ raw.length)
    (created : createPacket again = .ok packet) : Reencodes raw packet where
  refuses := by
    rintro ⟨option, member, _⟩
    rw [none_] at member
    cases member
  encodes _ := ⟨again, encoded, shorter, created⟩

theorem DataPacket.reencodes
    {raw : Bytes} {packet : DataPacket}
    (accepted : DataPacket.ofRaw raw 512 = .ok packet) :
    Reencodes raw (.data packet) := by
  have encoded := DataPacket.makeRaw_of_ofRaw accepted
  obtain ⟨high, low, payload, rfl, rfl⟩ :=
    DataPacket.ofRaw_eq_ok accepted
  apply Reencodes.of_encoded _ rfl rfl
  · rw [encoded, List.length_take]
    exact Nat.min_le_right _ _
  · rw [createPacket_of_opcode (DataPacket.getOpcode_makeRaw _)]
    have decoded :=
      DataPacket.ofRaw_makeRaw
        ⟨parseBlockNumber high low, payload.take 512⟩
        (show (payload.take 512).length ≤ 512 from
          List.length_take_le 512 payload)
    rw [TftpPacket.ofRaw, decoded]
    rfl

theorem AckPacket.reencodes
    {raw : Bytes} {packet : AckPacket}
    (accepted : AckPacket.ofRaw raw = .ok packet) :
    Reencodes raw (.ack packet) := by
  have encoded := AckPacket.makeRaw_of_ofRaw accepted
  apply Reencodes.of_encoded _ rfl rfl
  · rw [encoded, List.length_take]
    exact Nat.min_le_right _ _
  · rw [createPacket_of_opcode packet.getOpcode_makeRaw,
      TftpPacket.ofRaw, AckPacket.ofRaw_makeRaw]
    rfl

theorem ErrorPacket.reencodes
    {raw : Bytes} {packet : ErrorPacket}
    (accepted : ErrorPacket.ofRaw raw = .ok packet) :
    Reencodes raw (.error packet) := by
  have encoded := ErrorPacket.makeRaw_of_ofRaw accepted
  apply Reencodes.of_encoded _ rfl rfl
  · obtain ⟨byte, message, rfl, _⟩ := ErrorPacket.ofRaw_eq_ok accepted
    rw [encoded]
    simp
  · rw [createPacket_of_opcode packet.getOpcode_makeRaw,
      TftpPacket.ofRaw, ErrorPacket.ofRaw_makeRaw]
    rfl

theorem OackPacket.reencodes
    {raw : Bytes} {packet : OackPacket}
    (accepted : OackPacket.ofRaw raw = .ok packet) :
    Reencodes raw (.oack packet) := by
  obtain ⟨rest, rfl⟩ :=
    getOpcodeFromRaw_eq_ok (OackPacket.getOpcode_ofRaw accepted)
  obtain ⟨pairs, parsed, rfl, rfl⟩ :
      ∃ (pairs : List OptionText) (parsed : OptionText.Accepted pairs),
        rest = OptionText.rawOf pairs ∧
          packet = ⟨optionsOf pairs parsed.valid⟩ := by
    cases read : OackPacket.parseOptions rest with
    | error exception =>
        simp only [OackPacket.ofRaw, List.cons_append, List.nil_append,
          getOpcodeFromRaw_toByte, bind, Except.bind, List.drop_succ_cons,
          List.drop_zero, read] at accepted
        cases exception <;> cases accepted
    | ok options =>
        obtain ⟨pairs, parsed, rfl, rfl⟩ :=
          accepted_of_parseOptionsFrom read
        simp only [OackPacket.ofRaw, List.cons_append, List.nil_append,
          getOpcodeFromRaw_toByte, bind, Except.bind, List.drop_succ_cons,
          List.drop_zero, read] at accepted
        cases accepted
        exact ⟨pairs, parsed, rfl, rfl⟩
  constructor
  · intro unknown
    have failed :
        makeRawOptions (optionsOf pairs parsed.valid) =
          .error .unsupportedOption :=
      makeRawOptions_of_unsupported unknown
    show OackPacket.makeRaw _ = _
    rw [OackPacket.makeRaw, failed]
    rfl
  · intro supported
    obtain ⟨again, encoded, decoded⟩ :
        ∃ again,
          OackPacket.makeRaw ⟨optionsOf pairs parsed.valid⟩ = .ok again ∧
            OackPacket.ofRaw again =
              .ok ⟨optionsOf pairs parsed.valid⟩ :=
      OackPacket.ofRaw_makeRaw (parsed.encodable supported)
        parsed.distinctOptions
    refine ⟨again, encoded, ?_, ?_⟩
    · cases options : makeRawOptions (optionsOf pairs parsed.valid) with
      | error exception =>
          rw [OackPacket.makeRaw, options] at encoded
          cases encoded
      | ok bytes =>
          have length := length_makeRawOptions parsed.valid supported options
          rw [OackPacket.makeRaw, options] at encoded
          cases encoded
          rw [List.length_append, List.length_append, length]
    · rw [createPacket_of_opcode (OackPacket.getOpcode_makeRaw encoded),
        TftpPacket.ofRaw, decoded]
      rfl

/-- The mode has one length, however it is spelled. -/
theorem RequestHead.length_modeText (head : RequestHead) :
    head.modeText.length = head.mode.toBytes.length := by
  rw [← head.isMode, List.length_map]

theorem ReadWritePacket.reencodes
    {raw : Bytes} {packet : ReadWritePacket}
    (accepted : ReadWritePacket.ofRaw raw = .ok packet) :
    Reencodes raw (.readWrite packet) := by
  have looked : (raw.take maxRequestLength).length ≤ maxRequestLength :=
    List.length_take_le _ raw
  rw [← ReadWritePacket.ofRaw_take] at accepted
  obtain ⟨request, text_, rfl, names⟩ :=
    ReadWritePacket.means_of_ofRaw looked accepted
  have parsed : OptionText.Accepted request.pairs :=
    ⟨request.valid, names⟩
  constructor
  · intro unknown
    have failed :
        makeRawOptions request.packet.options =
          .error .unsupportedOption :=
      makeRawOptions_of_unsupported unknown
    show ReadWritePacket.makeRaw _ = _
    rw [ReadWritePacket.makeRaw, failed]
    rfl
  · intro supported
    obtain ⟨again, encoded, decoded⟩ :
        ∃ again, request.packet.makeRaw = .ok again ∧
          (again.length ≤ maxRequestLength →
            ReadWritePacket.ofRaw again = .ok request.packet) :=
      ReadWritePacket.ofRaw_makeRaw request.isRequest request.pathFree
        (parsed.encodable supported) parsed.distinctOptions
    have length : again.length = (raw.take maxRequestLength).length := by
      cases options :
          makeRawOptions (optionsOf request.pairs request.valid) with
      | error exception =>
          rw [ReadWritePacket.makeRaw, RequestText.packet, options]
            at encoded
          cases encoded
      | ok bytes =>
          have rest :=
            length_makeRawOptions parsed.valid supported options
          rw [ReadWritePacket.makeRaw, RequestText.packet, options]
            at encoded
          cases encoded
          rw [text_, RequestText.raw, RequestHead.raw]
          simp only [stringToVectorNullTerminated, List.length_append,
            request.length_modeText, rest]
    refine ⟨again, encoded, ?_, ?_⟩
    · rw [length, List.length_take]
      exact Nat.min_le_right _ _
    · have known := ReadWritePacket.getOpcode_makeRaw encoded
      have whole := decoded (Nat.le_of_eq length |>.trans looked)
      rw [createPacket_of_opcode known]
      rcases request.isRequest with isRead | isWrite
      · have opcode : request.packet.opcode = .RRQ := isRead
        rw [opcode, TftpPacket.ofRaw, whole]
        rfl
      · have opcode : request.packet.opcode = .WRQ := isWrite
        rw [opcode, TftpPacket.ofRaw, whole]
        rfl

/--
Whatever the factory accepts is encoded again, to a datagram which is not
longer and of which the factory makes the same packet; only a packet with an
option which is not known cannot be encoded.
-/
theorem created_packets_are_encoded_again
    {raw : Bytes} {packet : TftpPacket}
    (created : createPacket raw = .ok packet) : Reencodes raw packet := by
  cases known : getOpcodeFromRaw raw with
  | error exception =>
      rw [createPacket, known] at created
      cases created
  | ok opcode =>
      rw [createPacket_of_opcode known] at created
      cases opcode with
      | RRQ =>
          obtain ⟨request, accepted, rfl⟩ := map_eq_ok created
          exact ReadWritePacket.reencodes accepted
      | WRQ =>
          obtain ⟨request, accepted, rfl⟩ := map_eq_ok created
          exact ReadWritePacket.reencodes accepted
      | DATA =>
          obtain ⟨data, accepted, rfl⟩ := map_eq_ok created
          exact DataPacket.reencodes accepted
      | ACK =>
          obtain ⟨ack, accepted, rfl⟩ := map_eq_ok created
          exact AckPacket.reencodes accepted
      | ERROR =>
          obtain ⟨error, accepted, rfl⟩ := map_eq_ok created
          exact ErrorPacket.reencodes accepted
      | OACK =>
          obtain ⟨oack, accepted, rfl⟩ := map_eq_ok created
          exact OackPacket.reencodes accepted

/-- A request to read `f`, with capital letters in its mode and option. -/
def capitalRequest : Bytes :=
  [0, 1] ++ text "f" ++ [nul] ++ text "Octet" ++ [nul] ++
    text "BlkSize" ++ [nul] ++ text "1024" ++ [nul]

/-- The theorem at this request, which is encoded without them. -/
theorem created_packets_are_encoded_again_small :
    Reencodes capitalRequest (.readWrite (blockSizeRequest (text "f"))) ∧
      (blockSizeRequest (text "f")).makeRaw ≠ .ok capitalRequest := by
  have created :
      createPacket capitalRequest =
        .ok (.readWrite (blockSizeRequest (text "f"))) := by
    decide +kernel
  exact ⟨created_packets_are_encoded_again created, by decide +kernel⟩

end IsaTftp.Wire
