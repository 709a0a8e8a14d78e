import IsaTftp.Wire.Grammar

/-!
# Requests which are cut

The constructor of a request looks at the first 512 bytes only.  Where they end
behind an option, what was cut off is not missed.
-/

namespace IsaTftp.Wire

/-! ## Texts which begin in the same way -/

/-- What stands before the first NUL is determined. -/
theorem append_nul_inj
    {first second before after : Bytes}
    (firstFree : nul ∉ first) (secondFree : nul ∉ second)
    (same : first ++ nul :: before = second ++ nul :: after) :
    first = second ∧ before = after := by
  have split_ := splitAtNul_append firstFree before
  rw [same, splitAtNul_append secondFree] at split_
  cases split_
  exact ⟨rfl, rfl⟩

/-- Pairs in front of other bytes are the first pairs of the whole. -/
theorem prefix_of_rawOf
    {first second : List OptionText} {rest : Bytes}
    (same : OptionText.rawOf first ++ rest = OptionText.rawOf second) :
    first <+: second := by
  induction first generalizing second with
  | nil => exact List.nil_prefix
  | cons pair pairs induction =>
      cases second with
      | nil =>
          simp [OptionText.raw, stringToVectorNullTerminated] at same
      | cons other others =>
          simp only [OptionText.rawOf_cons, OptionText.raw,
            stringToVectorNullTerminated, List.append_assoc,
            List.cons_append, List.nil_append] at same
          obtain ⟨names, values⟩ :=
            append_nul_inj pair.nameFree other.nameFree same
          obtain ⟨texts, later⟩ :=
            append_nul_inj pair.valueFree other.valueFree values
          obtain ⟨name, value, _, _⟩ := pair
          obtain ⟨otherName, otherValue, _, _⟩ := other
          obtain rfl : name = otherName := names
          obtain rfl : value = otherValue := texts
          exact (List.prefix_cons_inj _).mpr (induction later)

theorem opcode_toByte_injective
    {first second : Opcode} (same : first.toByte = second.toByte) :
    first = second := by
  cases first <;> cases second <;> first | rfl | cases same

theorem mode_toBytes_injective
    {first second : Mode} (same : first.toBytes = second.toBytes) :
    first = second := by
  cases first <;> cases second <;> first | rfl | exact absurd same (by decide)

/-- So is the head of a request. -/
theorem RequestHead.raw_inj
    {first second : RequestHead} {before after : Bytes}
    (same : first.raw ++ before = second.raw ++ after) :
    first = second ∧ before = after := by
  simp only [RequestHead.raw, stringToVectorNullTerminated,
    List.append_assoc, List.cons_append, List.nil_append,
    List.cons.injEq, true_and] at same
  obtain ⟨opcodes, texts⟩ := same
  obtain ⟨paths, modes⟩ :=
    append_nul_inj first.pathFree second.pathFree texts
  obtain ⟨modeTexts, rest⟩ :=
    append_nul_inj first.modeFree second.modeFree modes
  refine ⟨?_, rest⟩
  obtain ⟨opcode, _, filepath, _, modeText, mode, isMode⟩ := first
  obtain ⟨otherOpcode, _, otherPath, _, otherText, otherMode, otherIs⟩ :=
    second
  obtain rfl : opcode = otherOpcode := opcode_toByte_injective opcodes
  obtain rfl : filepath = otherPath := paths
  obtain rfl : modeText = otherText := modeTexts
  obtain rfl : mode = otherMode :=
    mode_toBytes_injective (isMode.symm.trans otherIs)
  rfl

/-! ## What is read of a long request -/

/-- Only the first 512 bytes are looked at. -/
theorem ReadWritePacket.ofRaw_take (raw : Bytes) :
    ReadWritePacket.ofRaw (raw.take maxRequestLength) =
      ReadWritePacket.ofRaw raw := by
  have opcode :
      getOpcodeFromRaw (raw.take maxRequestLength) =
        getOpcodeFromRaw raw :=
    getOpcodeFromRaw_take raw (by decide)
  have small :
      (raw.take maxRequestLength).length < 4 ↔ raw.length < 4 := by
    rw [List.length_take, maxRequestLength]
    omega
  unfold ReadWritePacket.ofRaw
  simp only [opcode, small, List.take_take, Nat.min_self]

/-- An option with a number as its value, which a request can carry. -/
structure TftpOption.Decimal (option : TftpOption) : Prop where
  constructed : ∃ given, TftpOption.make given option.value = .ok option
  supported : option.name ≠ .UNSUPPORTED
  numeral : IsNumeral option.value

theorem TftpOption.Decimal.encodable
    {option : TftpOption} (decimal : option.Decimal) :
    option.Encodable where
  constructed := decimal.constructed
  supported := decimal.supported
  nonempty := decimal.numeral.nonempty
  plain := decimal.numeral.plain

/-- A request which a client can make. -/
structure ReadWritePacket.Sendable (packet : ReadWritePacket) : Prop where
  isRequest : packet.opcode = .RRQ ∨ packet.opcode = .WRQ
  pathFree : nul ∉ packet.filepath
  decimal : ∀ option ∈ packet.options, option.Decimal
  distinct : (packet.options.map fun option => option.name).Nodup

/-- A pair which an option is encoded as. -/
structure Spells (pair : OptionText) (option : TftpOption) : Prop where
  name : pair.name = option.nameStr
  value : pair.value = option.value

/-- Every option has its pair. -/
theorem exists_spells
    {options : List TftpOption}
    (encodable : ∀ option ∈ options, option.Encodable) :
    ∃ pairs, List.Forall₂ Spells pairs options := by
  induction options with
  | nil => exact ⟨[], .nil⟩
  | cons option options induction =>
      have here := encodable option List.mem_cons_self
      obtain ⟨pairs, spells⟩ := induction fun other member =>
        encodable other (List.mem_cons_of_mem _ member)
      exact
        ⟨⟨option.nameStr, option.value, here.plain_nameStr.nulFree,
            here.plain.nulFree⟩ :: pairs, .cons ⟨rfl, rfl⟩ spells⟩

/-- `MakeRaw` writes the pairs. -/
theorem makeRawOptions_of_spells
    {pairs : List OptionText} {options : List TftpOption}
    (spells : List.Forall₂ Spells pairs options)
    (encodable : ∀ option ∈ options, option.Encodable) :
    makeRawOptions options = .ok (OptionText.rawOf pairs) := by
  induction spells with
  | nil => rfl
  | @cons pair option pairs options here _ induction =>
      have rest := induction fun other member =>
        encodable other (List.mem_cons_of_mem _ member)
      have first := (encodable option List.mem_cons_self).makeRaw
      rw [← here.name, ← here.value] at first
      simp only [makeRawOptions, first, rest, bind, Except.bind, pure,
        Except.pure]
      rfl

namespace ReadWritePacket.Sendable

variable {packet : ReadWritePacket}

theorem encodable (sendable : packet.Sendable) :
    ∀ option ∈ packet.options, option.Encodable :=
  fun option member => (sendable.decimal option member).encodable

def head (sendable : packet.Sendable) : RequestHead where
  opcode := packet.opcode
  isRequest := sendable.isRequest
  filepath := packet.filepath
  pathFree := sendable.pathFree
  modeText := packet.mode.toBytes
  mode := packet.mode
  isMode := by
    cases packet.mode with
    | NETASCII => decide
    | OCTET => decide

/-- The request with its first options only. -/
theorem take (sendable : packet.Sendable) (count : Nat) :
    Sendable { packet with options := packet.options.take count } where
  isRequest := sendable.isRequest
  pathFree := sendable.pathFree
  decimal option member :=
    sendable.decimal option (List.mem_of_mem_take member)
  distinct := by
    rw [List.map_take]
    exact sendable.distinct.sublist (List.take_sublist _ _)

theorem makeRaw (sendable : packet.Sendable) {pairs : List OptionText}
    (spells : List.Forall₂ Spells pairs packet.options) :
    packet.makeRaw = .ok (sendable.head.raw ++ OptionText.rawOf pairs) := by
  rw [ReadWritePacket.makeRaw,
    makeRawOptions_of_spells spells sendable.encodable]
  rfl

/-- A request which is short enough is decoded as it is. -/
theorem ofRaw (sendable : packet.Sendable) {raw : Bytes}
    (encoded : packet.makeRaw = .ok raw)
    (short : raw.length ≤ maxRequestLength) :
    ReadWritePacket.ofRaw raw = .ok packet := by
  obtain ⟨again, same, decoded⟩ :=
    ReadWritePacket.ofRaw_makeRaw sendable.isRequest sendable.pathFree
      sendable.encodable sendable.distinct
  rw [encoded] at same
  cases same
  exact decoded short

end ReadWritePacket.Sendable

/-! ## Requests are kept or refused -/

/-- Decoding gives the request back, or throws if the request is too long. -/
structure KeptOrRefused (packet : ReadWritePacket) (raw : Bytes) :
    Prop where
  unaltered : ∀ decoded, ReadWritePacket.ofRaw raw = .ok decoded →
    decoded = packet
  kept : raw.length ≤ maxRequestLength →
    ReadWritePacket.ofRaw raw = .ok packet

/-- A request which is too long but still read was cut behind an option. -/
theorem exists_cut_of_ofRaw
    {head : RequestHead} {pairs : List OptionText}
    (long :
      maxRequestLength < (head.raw ++ OptionText.rawOf pairs).length)
    {decoded : ReadWritePacket}
    (result :
      ReadWritePacket.ofRaw (head.raw ++ OptionText.rawOf pairs) =
        .ok decoded) :
    ∃ count < pairs.length,
      (head.raw ++ OptionText.rawOf (pairs.take count)).length =
        maxRequestLength := by
  have looked :=
    List.take_append_drop maxRequestLength
      (head.raw ++ OptionText.rawOf pairs)
  have full :
      ((head.raw ++ OptionText.rawOf pairs).take
        maxRequestLength).length = maxRequestLength := by
    rw [List.length_take]
    omega
  rw [← ReadWritePacket.ofRaw_take] at result
  obtain ⟨request, text_, _, _⟩ :=
    ReadWritePacket.means_of_ofRaw (Nat.le_of_eq full) result
  rw [text_] at looked full
  rw [RequestText.raw, List.append_assoc] at looked
  obtain ⟨same, options⟩ := RequestHead.raw_inj looked
  have first := List.prefix_iff_eq_take.mp (prefix_of_rawOf options)
  rw [RequestText.raw, same, first] at full
  by_cases fewer : request.pairs.length < pairs.length
  · exact ⟨_, fewer, full⟩
  · rw [List.take_of_length_le (by omega)] at full
    omega

/--
A request is not altered exactly if the 512 bytes which are looked at do not
end behind its mode or one of its options, with options cut off.
-/
theorem kept_or_refused_iff
    {packet : ReadWritePacket} (sendable : packet.Sendable)
    {raw : Bytes} (encoded : packet.makeRaw = .ok raw) :
    KeptOrRefused packet raw ↔
      ∀ count < packet.options.length, ∀ start,
        ReadWritePacket.makeRaw
            { packet with options := packet.options.take count } =
          .ok start →
          start.length ≠ maxRequestLength := by
  obtain ⟨pairs, spells⟩ := exists_spells sendable.encodable
  have whole := sendable.makeRaw spells
  rw [encoded] at whole
  obtain rfl := Except.ok.inj whole
  have started (count : Nat) :
      ReadWritePacket.makeRaw
          { packet with options := packet.options.take count } =
        .ok (sendable.head.raw ++
          OptionText.rawOf (pairs.take count)) :=
    (sendable.take count).makeRaw (List.forall₂_take count spells)
  have length : pairs.length = packet.options.length := spells.length_eq
  constructor
  · intro kept count fewer start begun full
    rw [started count] at begun
    obtain rfl := Except.ok.inj begun
    have parts :
        sendable.head.raw ++ OptionText.rawOf pairs =
          (sendable.head.raw ++ OptionText.rawOf (pairs.take count)) ++
            OptionText.rawOf (pairs.drop count) := by
      rw [List.append_assoc, ← OptionText.rawOf_append,
        List.take_append_drop]
    have looked :
        (sendable.head.raw ++ OptionText.rawOf pairs).take
            maxRequestLength =
          sendable.head.raw ++ OptionText.rawOf (pairs.take count) := by
      rw [parts, ← full, List.take_left]
    have decoded :=
      (sendable.take count).ofRaw (started count) (Nat.le_of_eq full)
    rw [← looked, ReadWritePacket.ofRaw_take] at decoded
    have same := kept.unaltered _ decoded
    have options : packet.options.take count = packet.options :=
      congrArg ReadWritePacket.options same
    have lengths := congrArg List.length options
    rw [List.length_take] at lengths
    omega
  · intro noCut
    by_cases short :
        (sendable.head.raw ++ OptionText.rawOf pairs).length ≤
          maxRequestLength
    · have decoded := sendable.ofRaw encoded short
      constructor
      · intro other result
        rw [decoded] at result
        exact (Except.ok.inj result).symm
      · intro _
        exact decoded
    · constructor
      · intro decoded result
        obtain ⟨count, fewer, full⟩ :=
          exists_cut_of_ofRaw (Nat.lt_of_not_le short) result
        rw [length] at fewer
        exact absurd full (noCut count fewer _ (started count))
      · intro fits
        exact absurd fits short

/-! ## A request which loses its option -/

/-- A request to read a file, with a block size. -/
def blockSizeRequest (filepath : Bytes) : ReadWritePacket :=
  ⟨.RRQ, filepath, .OCTET, [⟨.BLKSIZE, text "blksize", text "1024", rfl⟩]⟩

theorem sendable_blockSizeRequest
    {filepath : Bytes} (pathFree : nul ∉ filepath) :
    (blockSizeRequest filepath).Sendable where
  isRequest := Or.inl rfl
  pathFree := pathFree
  decimal := by
    intro option member
    obtain rfl := List.mem_singleton.mp member
    constructor
    · exact ⟨text "blksize", rfl⟩
    · intro unknown
      cases unknown
    · exact IsNumeral.of_all (by decide) (by decide)
  distinct := List.nodup_singleton _

/-- The datagram of a request without options. -/
def octetRaw (filepath : Bytes) : Bytes :=
  [0, 1] ++ stringToVectorNullTerminated filepath ++
    stringToVectorNullTerminated (text "octet")

theorem length_octetRaw (filepath : Bytes) :
    (octetRaw filepath).length = filepath.length + 9 := by
  have mode : (text "octet").length = 5 := by
    decide
  simp only [octetRaw, List.length_append, stringToVectorNullTerminated,
    List.length_cons, List.length_nil, mode]
  omega

/-- The datagram of a request with a block size. -/
def blockSizeRaw (filepath : Bytes) : Bytes :=
  octetRaw filepath ++
    (stringToVectorNullTerminated (text "blksize") ++
      stringToVectorNullTerminated (text "1024"))

theorem makeRaw_blockSizeRequest (filepath : Bytes) :
    (blockSizeRequest filepath).makeRaw = .ok (blockSizeRaw filepath) :=
  rfl

theorem makeRaw_without_options (filepath : Bytes) :
    ReadWritePacket.makeRaw
        { blockSizeRequest filepath with options := [] } =
      .ok (octetRaw filepath) := by
  simp only [ReadWritePacket.makeRaw, makeRawOptions]
  exact congrArg _ (List.append_nil _)

/-- A short request is kept, and one which is cut in its option refused. -/
theorem kept_or_refused_small :
    ReadWritePacket.ofRaw (blockSizeRaw (text "f")) =
        .ok (blockSizeRequest (text "f")) ∧
      KeptOrRefused (blockSizeRequest (text "f"))
          (blockSizeRaw (text "f")) ∧
        KeptOrRefused (blockSizeRequest (List.replicate 495 97))
          (blockSizeRaw (List.replicate 495 97)) := by
  have apart {filepath : Bytes} (other : filepath.length ≠ 503) :
      ∀ count < (blockSizeRequest filepath).options.length, ∀ start,
        ReadWritePacket.makeRaw
            { blockSizeRequest filepath with
              options := (blockSizeRequest filepath).options.take count } =
          .ok start →
          start.length ≠ maxRequestLength := by
    intro count below start begun
    obtain rfl : count = 0 := Nat.lt_one_iff.mp below
    obtain rfl :=
      Except.ok.inj ((makeRaw_without_options filepath).symm.trans begun)
    rw [length_octetRaw, maxRequestLength]
    omega
  have short :=
    (kept_or_refused_iff
      (sendable_blockSizeRequest (show nul ∉ text "f" by decide))
      (makeRaw_blockSizeRequest (text "f"))).mpr
      (apart (by decide))
  have pathFree : nul ∉ List.replicate 495 97 := by
    intro member
    cases List.eq_of_mem_replicate member
  have other : (List.replicate 495 (97 : UInt8)).length ≠ 503 := by
    rw [List.length_replicate]
    decide
  have long :=
    (kept_or_refused_iff (sendable_blockSizeRequest pathFree)
      (makeRaw_blockSizeRequest _)).mpr (apart other)
  exact ⟨short.kept (by decide), short, long⟩

/-- A path behind which the mode ends at the last byte which is looked at. -/
def longPath : Bytes :=
  List.replicate 503 97

/-- The block size is cut off, and nothing is thrown. -/
theorem block_size_is_lost :
    (blockSizeRequest longPath).Sendable ∧
      (blockSizeRequest longPath).makeRaw = .ok (blockSizeRaw longPath) ∧
        ReadWritePacket.ofRaw (blockSizeRaw longPath) =
          .ok { blockSizeRequest longPath with options := [] } ∧
            ¬ KeptOrRefused (blockSizeRequest longPath)
              (blockSizeRaw longPath) := by
  have pathFree : nul ∉ longPath := by
    intro member
    cases List.eq_of_mem_replicate member
  have sendable := sendable_blockSizeRequest pathFree
  have full : (octetRaw longPath).length = maxRequestLength := by
    rw [length_octetRaw, longPath, List.length_replicate]
    rfl
  have looked :
      (blockSizeRaw longPath).take maxRequestLength = octetRaw longPath :=
    List.take_left' full
  have decoded :
      ReadWritePacket.ofRaw ((blockSizeRaw longPath).take maxRequestLength) =
        .ok { blockSizeRequest longPath with options := [] } := by
    rw [looked]
    apply (sendable.take 0).ofRaw
    · exact makeRaw_without_options longPath
    · exact Nat.le_of_eq full
  rw [ReadWritePacket.ofRaw_take] at decoded
  refine ⟨sendable, makeRaw_blockSizeRequest _, decoded, ?_⟩
  intro kept
  have same := congrArg ReadWritePacket.options (kept.unaltered _ decoded)
  cases same

end IsaTftp.Wire
