import IsaTftp.Wire.Options

/-!
# RRQ, WRQ and OACK packets
-/

namespace IsaTftp.Wire

/-- The bytes before the first NUL, and the bytes after it. -/
def splitAtNul (raw : Bytes) : Option (Bytes × Bytes) :=
  match raw.dropWhile fun byte => byte ≠ nul with
  | [] => none
  | _ :: rest => some (raw.takeWhile fun byte => byte ≠ nul, rest)

inductive Mode where
  | NETASCII
  | OCTET
deriving DecidableEq, Repr

/-- `ReadWritePacket::ParseMode`. -/
def parseMode (mode : Bytes) : Except Exception Mode :=
  let modeStr := mode.map toLower
  if modeStr = text "netascii" then .ok .NETASCII
  else if modeStr = text "octet" then .ok .OCTET
  else .error (illegalOperation (text "Invalid mode: " ++ modeStr))

/-- `ReadWritePacket::ModeToString`. -/
def Mode.toBytes : Mode → Bytes
  | .NETASCII => text "netascii"
  | .OCTET => text "octet"

structure ReadWritePacket where
  opcode : Opcode
  filepath : Bytes
  mode : Mode
  options : List TftpOption
deriving DecidableEq

def maxRequestLength : Nat := 512

/-- `ReadWritePacket::ParseOptions`, which accepts every value. -/
def ReadWritePacket.parseOptions (options : Bytes) :
    Except Exception (List TftpOption) :=
  parseOptionsFrom (fun _ _ => .ok ()) options (.readingName []) []

/-- `catch (InvalidOptionValueException)` of the two packet constructors. -/
def rethrowInvalidValue {α : Type*} (result : Except Exception α) :
    Except Exception α :=
  match result with
  | .error (.invalidOptionValue _ _) => .error (.tftp .optionNegotiationError)
  | other => other

/-- `ReadWritePacket(raw)`: a request is cut to 512 bytes before parsing. -/
def ReadWritePacket.ofRaw (raw : Bytes) :
    Except Exception ReadWritePacket := do
  let opcode ← getOpcodeFromRaw raw
  if opcode ≠ .RRQ ∧ opcode ≠ .WRQ then
    throw
      (illegalOperation (text "Invalid opcode for Read or Write Packet"))
  if raw.length < 4 then
    throw (illegalOperation (text "Invalid Read or Write packet"))
  let raw := raw.take maxRequestLength
  match splitAtNul (raw.drop 2) with
  | none => throw (illegalOperation (text "Invalid filepath in packet"))
  | some (filepath, afterFilepath) =>
      match splitAtNul afterFilepath with
      | none => throw (illegalOperation (text "Invalid mode in packet"))
      | some (modeBytes, afterMode) =>
          let mode ← parseMode modeBytes
          if afterMode = [] then
            pure ⟨opcode, filepath, mode, []⟩
          else
            let options ←
              rethrowInvalidValue (ReadWritePacket.parseOptions afterMode)
            pure ⟨opcode, filepath, mode, options⟩

/-- A parsed request has the opcode of the datagram, which is RRQ or WRQ. -/
theorem ReadWritePacket.getOpcode_ofRaw
    {raw : Bytes} {packet : ReadWritePacket}
    (parsed : ReadWritePacket.ofRaw raw = .ok packet) :
    getOpcodeFromRaw raw = .ok packet.opcode ∧
      (packet.opcode = .RRQ ∨ packet.opcode = .WRQ) := by
  unfold ReadWritePacket.ofRaw at parsed
  cases known : getOpcodeFromRaw raw with
  | error exception => simp [known, bind, Except.bind] at parsed
  | ok opcode =>
      simp only [known, bind, Except.bind, pure, Except.pure, throw,
        throwThe, MonadExceptOf.throw] at parsed
      have request : opcode = .RRQ ∨ opcode = .WRQ := by
        by_contra other
        rw [if_pos (not_or.mp other)] at parsed
        cases parsed
      have same : packet.opcode = opcode := by
        repeat' split at parsed
        all_goals cases parsed
        all_goals rfl
      rw [same]
      exact ⟨rfl, request⟩

/-- `ReadWritePacket::MakeRaw`. -/
def ReadWritePacket.makeRaw (packet : ReadWritePacket) :
    Except Exception Bytes := do
  let options ← makeRawOptions packet.options
  pure
    ([0, packet.opcode.toByte] ++
      stringToVectorNullTerminated packet.filepath ++
      stringToVectorNullTerminated packet.mode.toBytes ++ options)

theorem ReadWritePacket.getOpcode_makeRaw
    {packet : ReadWritePacket} {raw : Bytes}
    (encoded : packet.makeRaw = .ok raw) :
    getOpcodeFromRaw raw = .ok packet.opcode := by
  rw [ReadWritePacket.makeRaw] at encoded
  cases options : makeRawOptions packet.options with
  | error exception =>
      rw [options] at encoded
      cases encoded
  | ok bytes =>
      rw [options] at encoded
      cases encoded
      exact getOpcodeFromRaw_toByte packet.opcode _

structure OackPacket where
  options : List TftpOption
deriving DecidableEq

/-- `OackPacket::ParseOptions`, which rejects an empty value. -/
def OackPacket.parseOptions (options : Bytes) :
    Except Exception (List TftpOption) :=
  parseOptionsFrom
    (fun optionName optionValue =>
      if optionValue = [] then
        .error
          (illegalOperation
            (text "TFTP Illegal Operation: missing value for option " ++
              optionName))
      else .ok ())
    options (.readingName []) []

/-- `OackPacket(raw)`. -/
def OackPacket.ofRaw (raw : Bytes) : Except Exception OackPacket := do
  let opcode ← getOpcodeFromRaw raw
  if opcode ≠ .OACK then
    throw (illegalOperation (text "Invalid opcode for OackPacket"))
  let options ←
    rethrowInvalidValue (OackPacket.parseOptions (raw.drop 2))
  pure ⟨options⟩

/-- `OackPacket::MakeRaw`. -/
def OackPacket.makeRaw (packet : OackPacket) : Except Exception Bytes := do
  let options ← makeRawOptions packet.options
  pure ([0, Opcode.OACK.toByte] ++ options)

theorem OackPacket.getOpcode_makeRaw
    {packet : OackPacket} {raw : Bytes}
    (encoded : packet.makeRaw = .ok raw) :
    getOpcodeFromRaw raw = .ok .OACK := by
  rw [OackPacket.makeRaw] at encoded
  cases options : makeRawOptions packet.options with
  | error exception =>
      rw [options] at encoded
      cases encoded
  | ok bytes =>
      rw [options] at encoded
      cases encoded
      exact getOpcodeFromRaw_toByte .OACK _

/-! ## Small requests -/

/-- The option `timeout` with 5. -/
def patientOption : TftpOption :=
  ⟨.TIMEOUT, text "timeout", text "5", rfl⟩

/-- The option `blksize` with 8, for small transfers. -/
def optionOfEight : TftpOption :=
  ⟨.BLKSIZE, text "blksize", text "8", rfl⟩

/-- The request for the file `f` in octet mode with this option. -/
def requestOfEight (opcode : Opcode) : Bytes :=
  [0, opcode.toByte] ++ text "f" ++ [0] ++ text "octet" ++ [0] ++
    text "blksize" ++ [0] ++ text "8" ++ [0]

end IsaTftp.Wire
