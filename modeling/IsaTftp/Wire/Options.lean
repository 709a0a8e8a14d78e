import Mathlib.Algebra.Group.Int.Defs
import Mathlib.Algebra.Group.Nat.Defs
import IsaTftp.Wire.Packets

/-!
# Options

An `Option` of the program, here `TftpOption`, exists only after its
constructor has validated the value, so the structure carries the validation
as a field.  The conversions `stoi`, `stoll` and `stoull` follow the standard:
leading blanks, one sign, then as many digits as there are; what comes after
the digits is ignored.

`parseOptionsFrom` is the scanning loop shared by the two packet classes which
have options.  The only difference between the copies is a check of the value
which `OackPacket` makes and `ReadWritePacket` does not.
-/

namespace IsaTftp.Wire

/-! ## String conversions -/

def isSpace (byte : UInt8) : Bool :=
  byte = 32 ∨ (9 ≤ byte ∧ byte ≤ 13)

def isDigit (byte : UInt8) : Bool :=
  48 ≤ byte ∧ byte ≤ 57

/-- The value of a list of digits, on top of what was read before. -/
def digitsValue (read : Nat) : Bytes → Nat
  | [] => read
  | digit :: digits =>
      digitsValue (read * 10 + (digit.toNat - 48)) digits

/-- The sign of a numeral and the bytes after it. -/
def splitSign : Bytes → Bool × Bytes
  | [] => (false, [])
  | byte :: rest =>
      if byte = 45 then (true, rest)
      else if byte = 43 then (false, rest)
      else (false, byte :: rest)

/--
What `strtol` and its siblings read in base ten: whether there was a minus
sign, and the magnitude; nothing if there is no digit.
-/
def scanInteger (str : Bytes) : Option (Bool × Nat) :=
  let (negative, unsigned) := splitSign (str.dropWhile isSpace)
  match unsigned.takeWhile isDigit with
  | [] => none
  | digits => some (negative, digitsValue 0 digits)

/-- A signed conversion to `bits` bits. -/
def stoSigned (bits : Nat) (str : Bytes) : Except Exception Int :=
  match scanInteger str with
  | none => .error .stdInvalidArgument
  | some (negative, magnitude) =>
      let value : Int := if negative then -magnitude else magnitude
      if -(2 ^ (bits - 1) : Int) ≤ value ∧ value < 2 ^ (bits - 1) then
        .ok value
      else .error .stdOutOfRange

def stoi (str : Bytes) : Except Exception Int :=
  stoSigned 32 str

def stoll (str : Bytes) : Except Exception Int :=
  stoSigned 64 str

/-- `std::stoull`: a minus sign negates modulo `2 ^ 64`. -/
def stoull (str : Bytes) : Except Exception Nat :=
  match scanInteger str with
  | none => .error .stdInvalidArgument
  | some (negative, magnitude) =>
      if magnitude < 2 ^ 64 then
        .ok (if negative then (2 ^ 64 - magnitude) % 2 ^ 64 else magnitude)
      else .error .stdOutOfRange

/-! ## The option class -/

inductive OptionName where
  | BLKSIZE
  | TIMEOUT
  | TSIZE
  | UNSUPPORTED
deriving DecidableEq, Repr

def minBlockSize : Int := 8
def maxBlockSize : Int := 65464
def minTimeout : Int := 1
def maxTimeout : Int := 255

/-- Which option a name in lower case stands for. -/
def OptionName.ofName (name : Bytes) : OptionName :=
  if name = text "blksize" then .BLKSIZE
  else if name = text "timeout" then .TIMEOUT
  else if name = text "tsize" then .TSIZE
  else .UNSUPPORTED

/--
One case of the switch which validates a value.  Only `std::invalid_argument`
is caught there, so `std::out_of_range` escapes.
-/
def checkRange (optionName value : Bytes)
    (converted : Except Exception Int) (least most : Int) :
    Except Exception Unit :=
  match converted with
  | .ok number =>
      if least ≤ number ∧ number ≤ most then .ok ()
      else .error (.invalidOptionValue optionName value)
  | .error .stdInvalidArgument =>
      .error (.invalidOptionValue optionName value)
  | .error exception => .error exception

/-- The switch of the `Option` constructor: "Validate option value". -/
def OptionName.validate (name : OptionName) (value : Bytes) :
    Except Exception Unit :=
  match name with
  | .BLKSIZE =>
      checkRange (text "BLKSIZE") value (stoi value)
        minBlockSize maxBlockSize
  | .TIMEOUT =>
      checkRange (text "TIMEOUT") value (stoll value)
        minTimeout maxTimeout
  | .TSIZE =>
      -- an unsigned number is never below `MIN_TSIZE = 0`
      checkRange (text "TSIZE") value
        ((stoull value).map Int.ofNat) 0 (2 ^ 64 - 1)
  | .UNSUPPORTED => .ok ()

structure TftpOption where
  name : OptionName
  nameStr : Bytes
  value : Bytes
  valid : name.validate value = .ok ()
deriving DecidableEq

/-- The constructor `Option(name, value)`. -/
def TftpOption.make (name value : Bytes) : Except Exception TftpOption :=
  let lowered := name.map toLower
  match validated : (OptionName.ofName lowered).validate value with
  | .ok () => .ok ⟨.ofName lowered, lowered, value, validated⟩
  | .error exception => .error exception

/-- A validated block size is a number between the two limits. -/
theorem TftpOption.blksize_value
    (option : TftpOption) (isBlksize : option.name = .BLKSIZE) :
    ∃ number : Int, stoi option.value = .ok number ∧
      minBlockSize ≤ number ∧ number ≤ maxBlockSize := by
  have valid := option.valid
  rw [isBlksize] at valid
  unfold OptionName.validate checkRange at valid
  cases converted : stoi option.value with
  | ok number =>
      simp only [converted] at valid
      split_ifs at valid with bounds
      exact ⟨number, rfl, bounds⟩
  | error exception =>
      cases exception <;> simp [converted] at valid

/-- A number which fits into an `int` is converted by `stoi` as well. -/
theorem stoi_of_stoll
    {str : Bytes} {number : Int} (converted : stoll str = .ok number)
    (least : -2147483648 ≤ number) (most : number < 2147483648) :
    stoi str = .ok number := by
  unfold stoll stoSigned at converted
  unfold stoi stoSigned
  cases scanned : scanInteger str with
  | none => simp [scanned] at converted
  | some pair =>
      obtain ⟨negative, magnitude⟩ := pair
      simp only [scanned] at converted ⊢
      generalize (if negative then -(magnitude : Int) else magnitude) =
        value at converted ⊢
      have same : value = number := by
        by_cases inRange :
            -(2 ^ (64 - 1) : Int) ≤ value ∧ value < 2 ^ (64 - 1)
        · rw [if_pos inRange] at converted
          exact Except.ok.inj converted
        · rw [if_neg inRange] at converted
          cases converted
      subst same
      exact if_pos ⟨by simpa using least, by simpa using most⟩

/-- A validated timeout is a number of seconds between the two limits. -/
theorem TftpOption.timeout_value
    (option : TftpOption) (isTimeout : option.name = .TIMEOUT) :
    ∃ number : Int, stoi option.value = .ok number ∧
      minTimeout ≤ number ∧ number ≤ maxTimeout := by
  have valid := option.valid
  rw [isTimeout] at valid
  unfold OptionName.validate checkRange at valid
  cases converted : stoll option.value with
  | ok number =>
      simp only [converted] at valid
      split_ifs at valid with bounds
      simp only [minTimeout, maxTimeout] at bounds
      exact
        ⟨number, stoi_of_stoll converted (by omega) (by omega), bounds⟩
  | error exception =>
      cases exception <;> simp [converted] at valid

/-! ## What a list of options says -/

/-- The value of an option as a number; zero if it is none. -/
def numberOf (value : Bytes) : Nat :=
  match stoi value with
  | .ok number => number.toNat
  | .error _ => 0

/-- The number which the last option with a name carries, or `start`. -/
def lastNumber (name : OptionName) (start : Nat)
    (options : List TftpOption) : Nat :=
  options.foldl
    (fun number option =>
      if option.name = name then numberOf option.value else number)
    start

@[simp]
theorem lastNumber_nil (name : OptionName) (start : Nat) :
    lastNumber name start [] = start :=
  rfl

theorem lastNumber_cons (name : OptionName) (start : Nat)
    (option : TftpOption) (options : List TftpOption) :
    lastNumber name start (option :: options) =
      lastNumber name
        (if option.name = name then numberOf option.value else start)
        options :=
  rfl

/-- If an option with the name is there, where the scan starts is no matter. -/
theorem lastNumber_of_mem
    {name : OptionName} {options : List TftpOption}
    {option : TftpOption} (member : option ∈ options)
    (named : option.name = name) (first second : Nat) :
    lastNumber name first options = lastNumber name second options := by
  induction options generalizing first second with
  | nil => cases member
  | cons head options induction =>
      rw [lastNumber_cons, lastNumber_cons]
      rcases List.mem_cons.mp member with rfl | later
      · rw [if_pos named, if_pos named]
      · exact induction later _ _

/-- If no option has the name, nothing is said. -/
theorem lastNumber_of_absent
    {name : OptionName} {options : List TftpOption}
    (absent : ∀ option ∈ options, option.name ≠ name) (start : Nat) :
    lastNumber name start options = start := by
  induction options with
  | nil => rfl
  | cons option options induction =>
      rw [lastNumber_cons, if_neg (absent option List.mem_cons_self)]
      apply induction
      intro other later
      exact absent other (List.mem_cons_of_mem _ later)

/-- If an option with the name is there, one of these says the number. -/
theorem exists_lastNumber
    {name : OptionName} {options : List TftpOption}
    (named : ∃ option ∈ options, option.name = name) (start : Nat) :
    ∃ option ∈ options, option.name = name ∧
      lastNumber name start options = numberOf option.value := by
  induction options generalizing start with
  | nil =>
      obtain ⟨_, member, _⟩ := named
      cases member
  | cons head options induction =>
      by_cases later : ∃ option ∈ options, option.name = name
      · obtain ⟨option, member, named, value⟩ := induction later _
        exact ⟨option, List.mem_cons_of_mem _ member, named, value⟩
      · have absent : ∀ option ∈ options, option.name ≠ name :=
          fun option member named => later ⟨option, member, named⟩
        obtain ⟨option, member, isNamed⟩ := named
        rcases List.mem_cons.mp member with rfl | member
        · refine ⟨option, List.mem_cons_self, isNamed, ?_⟩
          rw [lastNumber_cons, lastNumber_of_absent absent, if_pos isNamed]
        · exact absurd isNamed (absent option member)

/-- A block size among the options lies between the two limits. -/
theorem numberOf_blksize
    {option : TftpOption} (isBlksize : option.name = .BLKSIZE) :
    stoi option.value = .ok (numberOf option.value : Int) ∧
      8 ≤ numberOf option.value ∧ numberOf option.value ≤ 65464 := by
  obtain ⟨number, converted, least, most⟩ :=
    option.blksize_value isBlksize
  simp only [minBlockSize] at least
  simp only [maxBlockSize] at most
  have same : numberOf option.value = number.toNat := by
    simp only [numberOf, converted]
  refine ⟨?_, by omega, by omega⟩
  rw [converted, same, Int.toNat_of_nonneg (by omega)]

/-- A timeout among the options lies between the two limits. -/
theorem numberOf_timeout
    {option : TftpOption} (isTimeout : option.name = .TIMEOUT) :
    stoi option.value = .ok (numberOf option.value : Int) ∧
      1 ≤ numberOf option.value ∧ numberOf option.value ≤ 255 := by
  obtain ⟨number, converted, least, most⟩ :=
    option.timeout_value isTimeout
  simp only [minTimeout] at least
  simp only [maxTimeout] at most
  have same : numberOf option.value = number.toNat := by
    simp only [numberOf, converted]
  refine ⟨?_, by omega, by omega⟩
  rw [converted, same, Int.toNat_of_nonneg (by omega)]

/-! ## Encoding -/

/-- `StringToVectorNullTerminated`. -/
def stringToVectorNullTerminated (str : Bytes) : Bytes :=
  str ++ [0]

/-- `Option::MakeRaw`. -/
def TftpOption.makeRaw (option : TftpOption) : Except Exception Bytes :=
  let encoded (name : String) : Bytes :=
    stringToVectorNullTerminated (text name) ++
      stringToVectorNullTerminated option.value
  match option.name with
  | .BLKSIZE => .ok (encoded "blksize")
  | .TIMEOUT => .ok (encoded "timeout")
  | .TSIZE => .ok (encoded "tsize")
  | .UNSUPPORTED => .error .unsupportedOption

/-- The encodings of the options, one after the other. -/
def makeRawOptions : List TftpOption → Except Exception Bytes
  | [] => .ok []
  | option :: options => do
      let encoded ← option.makeRaw
      let rest ← makeRawOptions options
      pure (encoded ++ rest)

/-! ## Parsing a list of options -/

/-- Where the scanning loop stands: inside a name, or inside a value. -/
inductive OptionScan where
  | readingName (name : Bytes)
  | readingValue (name value : Bytes)
deriving DecidableEq, Repr

/-- Construct the option just read and add it, unless its name is taken. -/
def addOption (optionName optionValue : Bytes)
    (parsed : List TftpOption) : Except Exception (List TftpOption) := do
  let option ← TftpOption.make optionName optionValue
  if parsed.any fun earlier => earlier.name = option.name then
    throw
      (illegalOperation
        (text "TFTP Illegal Operation: duplicate option name " ++ optionName))
  pure (parsed ++ [option])

/--
The loop of the two functions `ParseOptions`, byte by byte.  `checkValue` is
what a class checks between reading a value and constructing the option.
-/
def parseOptionsFrom
    (checkValue : Bytes → Bytes → Except Exception Unit) :
    Bytes → OptionScan → List TftpOption →
      Except Exception (List TftpOption)
  | [], .readingName [], parsed =>
      -- the outer loop is at its head and all bytes are read
      .ok parsed
  | [], .readingName (_ :: _), _ =>
      .error
        (illegalOperation
          (text
            "TFTP Illegal Operation: option name not terminated with null byte"))
  | [], .readingValue _ _, _ =>
      .error
        (illegalOperation
          (text
            "TFTP Illegal Operation: option value not terminated with null byte"))
  | byte :: rest, .readingName name, parsed =>
      if byte = nul then
        parseOptionsFrom checkValue rest (.readingValue name []) parsed
      else
        parseOptionsFrom checkValue rest
          (.readingName (name ++ [toLower byte])) parsed
  | byte :: rest, .readingValue name value, parsed =>
      if byte = nul then
        match checkValue name value with
        | .error exception => .error exception
        | .ok () =>
            match addOption name value parsed with
            | .error exception => .error exception
            | .ok parsed =>
                parseOptionsFrom checkValue rest (.readingName []) parsed
      else
        parseOptionsFrom checkValue rest
          (.readingValue name (value ++ [toLower byte])) parsed

end IsaTftp.Wire
