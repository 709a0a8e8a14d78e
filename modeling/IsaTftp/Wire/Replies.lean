import IsaTftp.Wire.Grammar

/-!
# DATA, ACK, ERROR and OACK packets as datagrams

Each constructor asks for its opcode first, so that a datagram is accepted by
one of them at most.  What is accepted is encoded to the same datagram again,
as far as the constructor has looked at it.
-/

namespace IsaTftp.Wire

/-! ## What is accepted -/

@[simp]
theorem blockNumberBytes_parse (high low : UInt8) :
    blockNumberBytes (parseBlockNumber high low) = [high, low] := by
  have number := toNat_parseBlockNumber high low
  have highBound := high.toNat_lt
  have lowBound := low.toNat_lt
  have first : (parseBlockNumber high low >>> 8).toUInt8 = high := by
    apply UInt8.toNat_inj.mp
    simp only [UInt16.toNat_toUInt8, UInt16.toNat_shiftRight,
      Nat.shiftRight_eq_div_pow, number]
    change (high.toNat * 256 + low.toNat) / 2 ^ 8 % 2 ^ 8 = _
    omega
  have second : (parseBlockNumber high low).toUInt8 = low := by
    apply UInt8.toNat_inj.mp
    rw [UInt16.toNat_toUInt8, number]
    omega
  rw [blockNumberBytes, first, second]

@[simp]
theorem parseErrorCode_toByte (errorCode : ErrorCode) :
    parseErrorCode 0 errorCode.toByte = .ok errorCode := by
  cases errorCode <;> simp [parseErrorCode, ErrorCode.toByte]

/-- The two bytes of an error code. -/
theorem parseErrorCode_eq_ok
    {high low : UInt8} {errorCode : ErrorCode}
    (parsed : parseErrorCode high low = .ok errorCode) :
    high = 0 ∧ low = errorCode.toByte := by
  have bytes : high.toNat = 0 ∧ low.toNat = errorCode.toByte.toNat := by
    have lowBound := low.toNat_lt
    unfold parseErrorCode at parsed
    split at parsed
    all_goals
      rename_i number
      cases parsed
    all_goals
      simp only [ErrorCode.toByte, UInt8.reduceToNat]
      omega
  exact ⟨UInt8.toNat_inj.mp bytes.1, UInt8.toNat_inj.mp bytes.2⟩

/-- An accepted ACK begins with its opcode and a block number. -/
theorem AckPacket.ofRaw_eq_ok
    {raw : Bytes} {packet : AckPacket}
    (accepted : AckPacket.ofRaw raw = .ok packet) :
    ∃ high low rest,
      raw = 0 :: Opcode.ACK.toByte :: high :: low :: rest ∧
        packet = ⟨parseBlockNumber high low⟩ := by
  unfold AckPacket.ofRaw at accepted
  cases known : getOpcodeFromRaw raw with
  | error exception =>
      rw [known] at accepted
      cases accepted
  | ok opcode =>
      obtain ⟨after, rfl⟩ := getOpcodeFromRaw_eq_ok known
      simp only [known, bind, Except.bind, pure, Except.pure, throw,
        throwThe, MonadExceptOf.throw] at accepted
      split_ifs at accepted with isAck
      obtain rfl : opcode = .ACK := not_not.mp isAck
      match after, accepted with
      | high :: low :: rest, accepted =>
          cases accepted
          exact ⟨high, low, rest, rfl, rfl⟩

/-- An accepted DATA packet begins in the same way. -/
theorem DataPacket.ofRaw_eq_ok
    {raw : Bytes} {blksize : Nat} {packet : DataPacket}
    (accepted : DataPacket.ofRaw raw blksize = .ok packet) :
    ∃ high low payload,
      raw = 0 :: Opcode.DATA.toByte :: high :: low :: payload ∧
        packet = ⟨parseBlockNumber high low, payload.take blksize⟩ := by
  have whole := accepted
  unfold DataPacket.ofRaw at accepted
  cases known : getOpcodeFromRaw raw with
  | error exception =>
      rw [known] at accepted
      cases accepted
  | ok opcode =>
      obtain ⟨after, rfl⟩ := getOpcodeFromRaw_eq_ok known
      simp only [known, bind, Except.bind, pure, Except.pure, throw,
        throwThe, MonadExceptOf.throw] at accepted
      split at accepted
      · cases accepted
      · rename_i isData
        obtain rfl : opcode = .DATA := not_not.mp isData
        match after, accepted with
        | high :: low :: payload, _ =>
            refine ⟨high, low, payload, rfl, ?_⟩
            have again := DataPacket.ofRaw_cons high low payload blksize
            exact (Except.ok.inj (again.symm.trans whole)).symm

/-- An accepted ERROR packet has an error code and one more byte at least. -/
theorem ErrorPacket.ofRaw_eq_ok
    {raw : Bytes} {packet : ErrorPacket}
    (accepted : ErrorPacket.ofRaw raw = .ok packet) :
    ∃ byte message,
      raw =
          0 :: Opcode.ERROR.toByte :: 0 :: packet.errorCode.toByte :: byte ::
            message ∧
        packet.errorMessage = (byte :: message).dropLast := by
  unfold ErrorPacket.ofRaw at accepted
  cases known : getOpcodeFromRaw raw with
  | error exception =>
      rw [known] at accepted
      cases accepted
  | ok opcode =>
      obtain ⟨after, rfl⟩ := getOpcodeFromRaw_eq_ok known
      simp only [known, bind, Except.bind, pure, Except.pure, throw,
        throwThe, MonadExceptOf.throw] at accepted
      split_ifs at accepted with isError
      obtain rfl : opcode = .ERROR := not_not.mp isError
      match after, accepted with
      | high :: low :: byte :: message, accepted =>
          cases parsed : parseErrorCode high low with
          | error exception =>
              simp [parsed] at accepted
          | ok errorCode =>
              simp only [List.cons_append, List.nil_append, parsed]
                at accepted
              cases accepted
              obtain ⟨rfl, rfl⟩ := parseErrorCode_eq_ok parsed
              exact ⟨byte, message, rfl, rfl⟩

/-- An accepted OACK begins with its opcode. -/
theorem OackPacket.getOpcode_ofRaw
    {raw : Bytes} {packet : OackPacket}
    (accepted : OackPacket.ofRaw raw = .ok packet) :
    getOpcodeFromRaw raw = .ok .OACK := by
  unfold OackPacket.ofRaw at accepted
  cases known : getOpcodeFromRaw raw with
  | error exception =>
      rw [known] at accepted
      cases accepted
  | ok opcode =>
      simp only [known, bind, Except.bind, pure, Except.pure, throw,
        throwThe, MonadExceptOf.throw] at accepted
      split at accepted
      · cases accepted
      · rename_i isOack
        rw [not_not.mp isOack]

/-! ## Encoding what was accepted -/

theorem AckPacket.makeRaw_of_ofRaw
    {raw : Bytes} {packet : AckPacket}
    (accepted : AckPacket.ofRaw raw = .ok packet) :
    packet.makeRaw = raw.take 4 := by
  obtain ⟨high, low, rest, rfl, rfl⟩ := AckPacket.ofRaw_eq_ok accepted
  simp [AckPacket.makeRaw]

theorem DataPacket.makeRaw_of_ofRaw
    {raw : Bytes} {blksize : Nat} {packet : DataPacket}
    (accepted : DataPacket.ofRaw raw blksize = .ok packet) :
    packet.makeRaw = raw.take (4 + blksize) := by
  obtain ⟨high, low, payload, rfl, rfl⟩ :=
    DataPacket.ofRaw_eq_ok accepted
  rw [Nat.add_comm]
  simp [DataPacket.makeRaw]

theorem ErrorPacket.makeRaw_of_ofRaw
    {raw : Bytes} {packet : ErrorPacket}
    (accepted : ErrorPacket.ofRaw raw = .ok packet) :
    packet.makeRaw = raw.dropLast ++ [nul] := by
  obtain ⟨byte, message, rfl, text_⟩ := ErrorPacket.ofRaw_eq_ok accepted
  rw [ErrorPacket.makeRaw, text_]
  rfl

/--
A datagram which is accepted is encoded again as far as it was looked at: a
DATA packet up to the block size, an ACK up to its block number, and an ERROR
packet completely if its message is terminated.
-/
theorem accepted_packets_are_encoded_again (raw : Bytes) (blksize : Nat) :
    (∀ packet, DataPacket.ofRaw raw blksize = .ok packet →
        packet.makeRaw = raw.take (4 + blksize) ∧
          (raw.length ≤ 4 + blksize → packet.makeRaw = raw)) ∧
      (∀ packet, AckPacket.ofRaw raw = .ok packet →
          packet.makeRaw = raw.take 4 ∧
            (raw.length = 4 → packet.makeRaw = raw)) ∧
        ∀ packet, ErrorPacket.ofRaw raw = .ok packet →
          raw.getLast? = some nul → packet.makeRaw = raw := by
  constructor
  · intro packet accepted
    have encoded := DataPacket.makeRaw_of_ofRaw accepted
    constructor
    · exact encoded
    · intro short
      rw [encoded, List.take_of_length_le short]
  constructor
  · intro packet accepted
    have encoded := AckPacket.makeRaw_of_ofRaw accepted
    constructor
    · exact encoded
    · intro four
      rw [encoded, List.take_of_length_le (Nat.le_of_eq four)]
  · intro packet accepted terminated
    rw [ErrorPacket.makeRaw_of_ofRaw accepted]
    exact List.dropLast_append_getLast? nul terminated

/-- A DATA packet with nine bytes of payload. -/
def nineBytes : DataPacket :=
  ⟨1, text "abcdefghi"⟩

/-- A long payload is cut, and what follows an ACK is dropped. -/
theorem long_packets_are_accepted :
    DataPacket.ofRaw nineBytes.makeRaw 8 = .ok ⟨1, text "abcdefgh"⟩ ∧
      DataPacket.makeRaw ⟨1, text "abcdefgh"⟩ ≠ nineBytes.makeRaw ∧
        AckPacket.ofRaw [0, 4, 0, 1, 7] = .ok ⟨1⟩ ∧
          AckPacket.makeRaw ⟨1⟩ ≠ [0, 4, 0, 1, 7] := by
  decide

/-! ## The four classes -/

/-- A packet which answers another one. -/
inductive Reply where
  | data (packet : DataPacket)
  | ack (packet : AckPacket)
  | error (packet : ErrorPacket)
  | oack (packet : OackPacket)

/-- The class of a reply. -/
inductive ReplyClass where
  | data
  | ack
  | error
  | oack
deriving DecidableEq, Repr

def ReplyClass.opcode : ReplyClass → Opcode
  | .data => .DATA
  | .ack => .ACK
  | .error => .ERROR
  | .oack => .OACK

/-- The constructor of a class. -/
def ReplyClass.ofRaw (raw : Bytes) (blksize : Nat) :
    ReplyClass → Except Exception Reply
  | .data => (DataPacket.ofRaw raw blksize).map .data
  | .ack => (AckPacket.ofRaw raw).map .ack
  | .error => (ErrorPacket.ofRaw raw).map .error
  | .oack => (OackPacket.ofRaw raw).map .oack

namespace Reply

def class_ : Reply → ReplyClass
  | .data _ => .data
  | .ack _ => .ack
  | .error _ => .error
  | .oack _ => .oack

def makeRaw : Reply → Except Exception Bytes
  | .data packet => .ok packet.makeRaw
  | .ack packet => .ok packet.makeRaw
  | .error packet => .ok packet.makeRaw
  | .oack packet => packet.makeRaw

end Reply

theorem map_eq_ok
    {α β : Type} {result : Except Exception α} {function : α → β} {value : β}
    (mapped : result.map function = .ok value) :
    ∃ inner, result = .ok inner ∧ function inner = value := by
  cases result with
  | error exception => cases mapped
  | ok inner =>
      cases mapped
      exact ⟨inner, rfl, rfl⟩

/-- A constructor accepts datagrams with the opcode of its class only. -/
theorem ReplyClass.getOpcode_ofRaw
    {raw : Bytes} {blksize : Nat} {class_ : ReplyClass} {reply : Reply}
    (accepted : class_.ofRaw raw blksize = .ok reply) :
    getOpcodeFromRaw raw = .ok class_.opcode := by
  cases class_ with
  | data =>
      obtain ⟨packet, decoded, _⟩ := map_eq_ok accepted
      obtain ⟨_, _, _, rfl, _⟩ := DataPacket.ofRaw_eq_ok decoded
      exact getOpcodeFromRaw_toByte .DATA _
  | ack =>
      obtain ⟨packet, decoded, _⟩ := map_eq_ok accepted
      obtain ⟨_, _, _, rfl, _⟩ := AckPacket.ofRaw_eq_ok decoded
      exact getOpcodeFromRaw_toByte .ACK _
  | error =>
      obtain ⟨packet, decoded, _⟩ := map_eq_ok accepted
      obtain ⟨_, _, rfl, _⟩ := ErrorPacket.ofRaw_eq_ok decoded
      exact getOpcodeFromRaw_toByte .ERROR _
  | oack =>
      obtain ⟨packet, decoded, _⟩ := map_eq_ok accepted
      exact OackPacket.getOpcode_ofRaw decoded

/-- So a datagram of one class is refused by the other three. -/
theorem ReplyClass.refused
    {raw : Bytes} {own other : ReplyClass}
    (opcode : getOpcodeFromRaw raw = .ok own.opcode) (differs : other ≠ own)
    (blksize : Nat) :
    ∃ exception, other.ofRaw raw blksize = .error exception := by
  cases result : other.ofRaw raw blksize with
  | error exception => exact ⟨exception, rfl⟩
  | ok reply =>
      have same := getOpcode_ofRaw result
      rw [opcode] at same
      have opcodes := Except.ok.inj same
      exfalso
      apply differs
      cases own <;> cases other <;> first | rfl | cases opcodes

/-- `MakeRaw` writes the opcode of the class. -/
theorem Reply.getOpcode_makeRaw
    {reply : Reply} {raw : Bytes} (encoded : reply.makeRaw = .ok raw) :
    getOpcodeFromRaw raw = .ok reply.class_.opcode := by
  cases reply with
  | data packet =>
      cases encoded
      exact packet.getOpcode_makeRaw
  | ack packet =>
      cases encoded
      exact packet.getOpcode_makeRaw
  | error packet =>
      cases encoded
      exact packet.getOpcode_makeRaw
  | oack packet => exact OackPacket.getOpcode_makeRaw encoded

theorem ErrorPacket.ofRaw_makeRaw (packet : ErrorPacket) :
    ErrorPacket.ofRaw packet.makeRaw = .ok packet := by
  obtain ⟨errorCode, message⟩ := packet
  have decoded (byte : UInt8) (rest : Bytes) :
      ErrorPacket.ofRaw
          (0 :: Opcode.ERROR.toByte :: 0 :: errorCode.toByte :: byte ::
            rest) =
        .ok ⟨errorCode, (byte :: rest).dropLast⟩ := by
    simp [ErrorPacket.ofRaw, getOpcodeFromRaw_toByte, bind, Except.bind,
      pure, Except.pure]
  cases message with
  | nil => exact decoded 0 []
  | cons byte rest =>
      have encoded : ErrorPacket.makeRaw ⟨errorCode, byte :: rest⟩ =
          0 :: Opcode.ERROR.toByte :: 0 :: errorCode.toByte :: byte ::
            (rest ++ [0]) := by
        simp only [ErrorPacket.makeRaw, List.cons_append, List.nil_append]
      rw [encoded, decoded, ← List.cons_append, List.dropLast_concat]

end IsaTftp.Wire
