import IsaTftp.Wire.Exceptions

/-!
# ACK, DATA and ERROR packets

Each packet class has a constructor from raw bytes, here `ofRaw`, and
`makeRaw`.  A packet built from fields is just the structure value.
-/

namespace IsaTftp.Wire

/-! ## Opcodes -/

inductive Opcode where
  | RRQ
  | WRQ
  | DATA
  | ACK
  | ERROR
  | OACK
deriving DecidableEq, Repr

/-- The number of an opcode on the wire. -/
def Opcode.toByte : Opcode → UInt8
  | .RRQ => 1
  | .WRQ => 2
  | .DATA => 3
  | .ACK => 4
  | .ERROR => 5
  | .OACK => 6

/-- `TftpPacket::ParseOpcode`. -/
def parseOpcode (first second : UInt8) : Except Exception Opcode :=
  if first = 0 ∧ second = 1 then .ok .RRQ
  else if first = 0 ∧ second = 2 then .ok .WRQ
  else if first = 0 ∧ second = 3 then .ok .DATA
  else if first = 0 ∧ second = 4 then .ok .ACK
  else if first = 0 ∧ second = 5 then .ok .ERROR
  else if first = 0 ∧ second = 6 then .ok .OACK
  else .error (illegalOperation (text "Invalid opcode"))

/-- `TftpPacket::GetOpcodeFromRaw`. -/
def getOpcodeFromRaw : Bytes → Except Exception Opcode
  | first :: second :: _ => parseOpcode first second
  | _ =>
      .error
        (illegalOperation
          (text "Invalid packet: packet is too short to contain opcode"))

@[simp]
theorem getOpcodeFromRaw_toByte (opcode : Opcode) (rest : Bytes) :
    getOpcodeFromRaw (0 :: opcode.toByte :: rest) = .ok opcode := by
  cases opcode <;> rfl

/-- The opcode stands in the first two bytes. -/
theorem getOpcodeFromRaw_take (raw : Bytes) {count : Nat}
    (two : 2 ≤ count) :
    getOpcodeFromRaw (raw.take count) = getOpcodeFromRaw raw := by
  obtain ⟨rest, rfl⟩ := Nat.exists_eq_add_of_le two
  rw [Nat.add_comm]
  cases raw with
  | nil => rfl
  | cons first raw =>
      cases raw with
      | nil => rfl
      | cons second raw => rfl

theorem parseOpcode_eq_ok
    {first second : UInt8} {opcode : Opcode}
    (parsed : parseOpcode first second = .ok opcode) :
    first = 0 ∧ second = opcode.toByte := by
  unfold parseOpcode at parsed
  split_ifs at parsed with one two three four five six <;> cases parsed
  all_goals assumption

/-! ## Block numbers -/

/-- `ParseBlockNumber`, the same in the ACK and the DATA packet. -/
def parseBlockNumber (high low : UInt8) : UInt16 :=
  (high.toUInt16 <<< 8) + low.toUInt16

/-- The two bytes which `MakeRaw` pushes for a block number. -/
def blockNumberBytes (blockNumber : UInt16) : Bytes :=
  [(blockNumber >>> 8).toUInt8, blockNumber.toUInt8]

theorem toNat_parseBlockNumber (high low : UInt8) :
    (parseBlockNumber high low).toNat = high.toNat * 256 + low.toNat := by
  have highBound := high.toNat_lt
  have lowBound := low.toNat_lt
  simp only [parseBlockNumber, UInt16.toNat_add, UInt16.toNat_shiftLeft,
    UInt8.toNat_toUInt16, Nat.shiftLeft_eq]
  change (high.toNat * 2 ^ 8 % 2 ^ 16 + low.toNat) % 2 ^ 16 = _
  omega

@[simp]
theorem parseBlockNumber_bytes (blockNumber : UInt16) :
    parseBlockNumber (blockNumber >>> 8).toUInt8 blockNumber.toUInt8 =
      blockNumber := by
  apply UInt16.toNat_inj.mp
  have bound := blockNumber.toNat_lt
  rw [toNat_parseBlockNumber]
  simp only [UInt16.toNat_toUInt8, UInt16.toNat_shiftRight,
    Nat.shiftRight_eq_div_pow]
  change blockNumber.toNat / 2 ^ 8 % 2 ^ 8 * 256 +
    blockNumber.toNat % 2 ^ 8 = _
  omega

/-! ## ACK -/

structure AckPacket where
  blockNumber : UInt16
deriving DecidableEq, Repr

/-- `AckPacket(raw)`: bytes after the fourth are ignored. -/
def AckPacket.ofRaw (raw : Bytes) : Except Exception AckPacket := do
  let opcode ← getOpcodeFromRaw raw
  if opcode ≠ .ACK then
    throw (illegalOperation (text "Invalid opcode for AckPacket"))
  match raw with
  | _ :: _ :: high :: low :: _ => pure ⟨parseBlockNumber high low⟩
  | _ => throw (illegalOperation (text "Invalid ACK packet"))

def AckPacket.makeRaw (packet : AckPacket) : Bytes :=
  [0, Opcode.ACK.toByte] ++ blockNumberBytes packet.blockNumber

@[simp]
theorem AckPacket.getOpcode_makeRaw (packet : AckPacket) :
    getOpcodeFromRaw packet.makeRaw = .ok .ACK :=
  getOpcodeFromRaw_toByte .ACK _

theorem AckPacket.ofRaw_cons (high low : UInt8) (rest : Bytes) :
    AckPacket.ofRaw (0 :: Opcode.ACK.toByte :: high :: low :: rest) =
      .ok ⟨parseBlockNumber high low⟩ :=
  rfl

@[simp]
theorem AckPacket.ofRaw_makeRaw (packet : AckPacket) :
    AckPacket.ofRaw packet.makeRaw = .ok packet := by
  change AckPacket.ofRaw (0 :: _ :: _ :: _ :: []) = _
  rw [AckPacket.ofRaw_cons, parseBlockNumber_bytes]

@[simp]
theorem AckPacket.length_makeRaw (packet : AckPacket) :
    packet.makeRaw.length = 4 :=
  rfl

/-! ## DATA -/

structure DataPacket where
  blockNumber : UInt16
  data : Bytes
deriving DecidableEq, Repr

/-- `DataPacket(raw, blksize)`: a longer payload is cut to `blksize` bytes. -/
def DataPacket.ofRaw (raw : Bytes) (blksize : Nat) :
    Except Exception DataPacket := do
  let opcode ← getOpcodeFromRaw raw
  if opcode ≠ .DATA then
    throw (illegalOperation (text "Invalid opcode for DataPacket"))
  match raw with
  | _ :: _ :: high :: low :: payload =>
      -- `raw.resize(2 + 2 + blksize)` keeps the four bytes before the payload
      let data :=
        if raw.length > 2 + 2 + blksize then payload.take blksize
        else payload
      pure ⟨parseBlockNumber high low, data⟩
  | _ => throw (illegalOperation (text "Invalid DATA packet"))

def DataPacket.makeRaw (packet : DataPacket) : Bytes :=
  [0, Opcode.DATA.toByte] ++ blockNumberBytes packet.blockNumber ++
    packet.data

@[simp]
theorem DataPacket.getOpcode_makeRaw (packet : DataPacket) :
    getOpcodeFromRaw packet.makeRaw = .ok .DATA :=
  getOpcodeFromRaw_toByte .DATA _

@[simp]
theorem DataPacket.length_makeRaw (packet : DataPacket) :
    packet.makeRaw.length = packet.data.length + 4 := by
  simp [DataPacket.makeRaw, blockNumberBytes]

theorem DataPacket.ofRaw_cons
    (high low : UInt8) (payload : Bytes) (blksize : Nat) :
    DataPacket.ofRaw
        (0 :: Opcode.DATA.toByte :: high :: low :: payload) blksize =
      .ok ⟨parseBlockNumber high low, payload.take blksize⟩ := by
  change Except.ok _ = Except.ok _
  congr 2
  split_ifs with long
  · rfl
  · simp only [List.length_cons] at long
    exact (List.take_of_length_le (by omega)).symm

/-- Decoding a DATA packet whose payload fits gives the packet back. -/
theorem DataPacket.ofRaw_makeRaw
    (packet : DataPacket) {blksize : Nat}
    (fits : packet.data.length ≤ blksize) :
    DataPacket.ofRaw packet.makeRaw blksize = .ok packet := by
  change DataPacket.ofRaw (0 :: _ :: _ :: _ :: packet.data) _ = _
  rw [DataPacket.ofRaw_cons, parseBlockNumber_bytes,
    List.take_of_length_le fits]

/-! ## ERROR -/

inductive ErrorCode where
  | NOT_DEFINED
  | FILE_NOT_FOUND
  | ACCESS_VIOLATION
  | DISK_FULL
  | ILLEGAL_OPERATION
  | UNKNOWN_TID
  | FILE_ALREADY_EXISTS
  | NO_SUCH_USER
  | FAILED_NEGOTIATION
deriving DecidableEq, Repr

def ErrorCode.toByte : ErrorCode → UInt8
  | .NOT_DEFINED => 0
  | .FILE_NOT_FOUND => 1
  | .ACCESS_VIOLATION => 2
  | .DISK_FULL => 3
  | .ILLEGAL_OPERATION => 4
  | .UNKNOWN_TID => 5
  | .FILE_ALREADY_EXISTS => 6
  | .NO_SUCH_USER => 7
  | .FAILED_NEGOTIATION => 8

structure ErrorPacket where
  errorCode : ErrorCode
  errorMessage : Bytes
deriving DecidableEq, Repr

/-- `ErrorPacket::ParseErrorCode`. -/
def parseErrorCode (high low : UInt8) : Except Exception ErrorCode :=
  match high.toNat * 256 + low.toNat with
  | 0 => .ok .NOT_DEFINED
  | 1 => .ok .FILE_NOT_FOUND
  | 2 => .ok .ACCESS_VIOLATION
  | 3 => .ok .DISK_FULL
  | 4 => .ok .ILLEGAL_OPERATION
  | 5 => .ok .UNKNOWN_TID
  | 6 => .ok .FILE_ALREADY_EXISTS
  | 7 => .ok .NO_SUCH_USER
  | 8 => .ok .FAILED_NEGOTIATION
  | errorCode =>
      .error
        (illegalOperation
          (text "Invalid error code: " ++ toString errorCode))

/-- `ErrorPacket(raw)`: the last byte is dropped whatever it is. -/
def ErrorPacket.ofRaw (raw : Bytes) : Except Exception ErrorPacket := do
  let opcode ← getOpcodeFromRaw raw
  if opcode ≠ .ERROR then
    throw (illegalOperation (text "Invalid opcode for ErrorPacket"))
  match raw with
  | _ :: _ :: high :: low :: byte :: message =>
      let errorCode ← parseErrorCode high low
      pure ⟨errorCode, (byte :: message).dropLast⟩
  | _ => throw (illegalOperation (text "Invalid ERROR packet"))

def ErrorPacket.makeRaw (packet : ErrorPacket) : Bytes :=
  [0, Opcode.ERROR.toByte, 0, packet.errorCode.toByte] ++
    packet.errorMessage ++ [0]

@[simp]
theorem ErrorPacket.getOpcode_makeRaw (packet : ErrorPacket) :
    getOpcodeFromRaw packet.makeRaw = .ok .ERROR :=
  getOpcodeFromRaw_toByte .ERROR _

end IsaTftp.Wire
