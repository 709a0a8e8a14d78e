import Mathlib.Data.List.Basic

/-!
# Bytes, texts and exceptions

A `std::string` and a `std::vector<uint8_t>` are both lists of bytes.  The
exception classes of the program are the constructors of `Exception`, each
with the arguments of its class; `Exception.what` is the text of `what()`.

Exceptions of the standard library appear where the program lets them escape:
the conversions of `stoi` and its siblings, and the file system library.
-/

namespace IsaTftp.Wire

abbrev Bytes := List UInt8

abbrev nul : UInt8 := 0
abbrev lf : UInt8 := 10
abbrev cr : UInt8 := 13

/-- The bytes of an ASCII text. -/
def text (literal : String) : Bytes :=
  literal.toList.map fun character => UInt8.ofNat character.toNat

/-- `std::to_string` of a number which is not negative. -/
def toString (number : Nat) : Bytes :=
  (Nat.toDigits 10 number).map fun character =>
    UInt8.ofNat character.toNat

/-- `std::tolower` in the C locale. -/
def toLower (byte : UInt8) : UInt8 :=
  if 65 ≤ byte ∧ byte ≤ 90 then byte + 32 else byte

/-- The exceptions of `TftpPacket.h`. -/
inductive TftpException where
  | unknownError
  | fileNotFoundError (filename : Bytes)
  | accessViolationError
  | diskFullError
  | illegalOperationError (operation : Bytes)
  | unknownTransferIDError
  | fileAlreadyExistsError (filename : Bytes)
  | noSuchUserError
  | optionNegotiationError
deriving DecidableEq, Repr

/-- The exceptions of `FileHandler.h` which the program throws. -/
inductive FileHandlerException where
  | failedToOpenFile (filename : Bytes)
  | failedToWriteToFile
  | failedToReadFromFile
  | fileDoesNotExist (filename : Bytes)
  | notEnoughSpace
deriving DecidableEq, Repr

/-- Everything the modelled code can throw. -/
inductive Exception where
  | tftp (exception : TftpException)
  | fileHandler (exception : FileHandlerException)
  | unsupportedOption
  | invalidOptionValue (optionName optionValue : Bytes)
  | udp (message : Bytes)
  | udpTimeout
  | udpSigint
  | recievedErrorPacket (errorMessage : Bytes)
  | failedToReadFromStdin
  | stdInvalidArgument
  | stdOutOfRange
  | filesystemError
deriving DecidableEq, Repr

/-- `TFTPIllegalOperationError(operation)`, by far the most common one. -/
def illegalOperation (operation : Bytes) : Exception :=
  .tftp (.illegalOperationError operation)

def TftpException.what : TftpException → Bytes
  | .unknownError => text "Unknown error."
  | .fileNotFoundError filename => text "File not found: " ++ filename
  | .accessViolationError =>
      text "Access violation: You don't have permission to access this file."
  | .diskFullError =>
      text "Disk full or allocation exceeded: Unable to write the file."
  | .illegalOperationError operation =>
      text "Illegal TFTP operation: " ++ operation
  | .unknownTransferIDError =>
      text "Unknown transfer ID: The server did not recognize your request."
  | .fileAlreadyExistsError filename =>
      text "File already exists: " ++ filename
  | .noSuchUserError =>
      text
        "No such user: The user specified does not exist or is not allowed access."
  | .optionNegotiationError => text "Option negotiation failed."

/-- How a modelled call can end. -/
inductive Outcome where
  /-- the function returned to its caller -/
  | returned
  /-- the function ended by an exception -/
  | threw (exception : Exception)
  /-- the process was ended by `std::terminate` or `exit` -/
  | terminated
  /-- a vector was accessed outside its bounds -/
  | undefined
  /-- the function loops forever without looking at the network -/
  | diverged
deriving DecidableEq, Repr

end IsaTftp.Wire
