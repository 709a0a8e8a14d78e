import IsaTftp.Wire.Requests

/-!
# What the parsers throw

A parser throws an illegal operation, except where it converts a number: there
`std::out_of_range` escapes, since the constructor of an option catches
`std::invalid_argument` only.
-/

namespace IsaTftp.Wire

/-- The exception which most parsers throw. -/
def Exception.IsIllegal (exception : Exception) : Prop :=
  ∃ operation, exception = illegalOperation operation

theorem isIllegal_illegalOperation (operation : Bytes) :
    (illegalOperation operation).IsIllegal :=
  ⟨operation, rfl⟩

variable {raw : Bytes} {exception : Exception}

/-! ## Packets without options -/

theorem getOpcodeFromRaw_error
    (result : getOpcodeFromRaw raw = .error exception) :
    exception.IsIllegal := by
  unfold getOpcodeFromRaw at result
  split at result
  · unfold parseOpcode at result
    split_ifs at result
    cases result
    exact isIllegal_illegalOperation _
  · cases result
    exact isIllegal_illegalOperation _

theorem AckPacket.ofRaw_error
    (result : AckPacket.ofRaw raw = .error exception) :
    exception.IsIllegal := by
  unfold AckPacket.ofRaw at result
  cases known : getOpcodeFromRaw raw with
  | error thrown =>
      simp only [known, bind, Except.bind] at result
      cases result
      exact getOpcodeFromRaw_error known
  | ok opcode =>
      simp only [known, bind, Except.bind, pure, Except.pure, throw,
        throwThe, MonadExceptOf.throw] at result
      repeat' split at result
      all_goals cases result
      all_goals exact isIllegal_illegalOperation _

theorem DataPacket.ofRaw_error {blksize : Nat}
    (result : DataPacket.ofRaw raw blksize = .error exception) :
    exception.IsIllegal := by
  unfold DataPacket.ofRaw at result
  cases known : getOpcodeFromRaw raw with
  | error thrown =>
      simp only [known, bind, Except.bind] at result
      cases result
      exact getOpcodeFromRaw_error known
  | ok opcode =>
      simp only [known, bind, Except.bind, pure, Except.pure, throw,
        throwThe, MonadExceptOf.throw] at result
      repeat' split at result
      all_goals cases result
      all_goals exact isIllegal_illegalOperation _

theorem parseErrorCode_error {high low : UInt8}
    (result : parseErrorCode high low = .error exception) :
    exception.IsIllegal := by
  unfold parseErrorCode at result
  split at result
  all_goals cases result
  exact isIllegal_illegalOperation _

theorem ErrorPacket.ofRaw_error
    (result : ErrorPacket.ofRaw raw = .error exception) :
    exception.IsIllegal := by
  unfold ErrorPacket.ofRaw at result
  cases known : getOpcodeFromRaw raw with
  | error thrown =>
      simp only [known, bind, Except.bind] at result
      cases result
      exact getOpcodeFromRaw_error known
  | ok opcode =>
      simp only [known, bind, Except.bind, pure, Except.pure, throw,
        throwThe, MonadExceptOf.throw] at result
      split at result
      · cases result
        exact isIllegal_illegalOperation _
      · split at result
        · rename_i high low byte message
          cases code : parseErrorCode high low with
          | error thrown =>
              rw [code] at result
              cases result
              exact parseErrorCode_error code
          | ok errorCode =>
              rw [code] at result
              cases result
        · cases result
          exact isIllegal_illegalOperation _

/-! ## Numbers -/

/-- The two exceptions of `stoi` and its siblings. -/
def Exception.IsConversion (exception : Exception) : Prop :=
  exception = .stdInvalidArgument ∨ exception = .stdOutOfRange

theorem stoSigned_error {bits : Nat}
    (result : stoSigned bits raw = .error exception) :
    exception.IsConversion := by
  unfold stoSigned at result
  split at result
  · cases result
    exact Or.inl rfl
  · dsimp only at result
    split_ifs at result
    all_goals cases result
    all_goals exact Or.inr rfl

theorem stoull_error
    (result : stoull raw = .error exception) :
    exception.IsConversion := by
  unfold stoull at result
  split at result
  · cases result
    exact Or.inl rfl
  · split_ifs at result
    cases result
    exact Or.inr rfl

/-! ## Options -/

theorem checkRange_error
    {optionName value : Bytes} {converted : Except Exception Int}
    {least most : Int}
    (conversion :
      ∀ thrown, converted = .error thrown → thrown.IsConversion)
    (result :
      checkRange optionName value converted least most =
        .error exception) :
    (∃ name value, exception = .invalidOptionValue name value) ∨
      exception = .stdOutOfRange := by
  unfold checkRange at result
  split at result
  · split_ifs at result
    cases result
    exact Or.inl ⟨_, _, rfl⟩
  · cases result
    exact Or.inl ⟨_, _, rfl⟩
  · rename_i thrown other
    cases result
    rcases conversion exception rfl with invalid | range
    · exact absurd invalid other
    · exact Or.inr range

theorem validate_error {name : OptionName} {value : Bytes}
    (result : name.validate value = .error exception) :
    (∃ name value, exception = .invalidOptionValue name value) ∨
      exception = .stdOutOfRange := by
  unfold OptionName.validate at result
  cases name with
  | BLKSIZE =>
      exact checkRange_error (fun _ failed => stoSigned_error failed) result
  | TIMEOUT =>
      exact checkRange_error (fun _ failed => stoSigned_error failed) result
  | TSIZE =>
      apply checkRange_error _ result
      intro thrown failed
      cases converted : stoull value with
      | error conversion =>
          rw [converted] at failed
          cases failed
          exact stoull_error converted
      | ok number =>
          rw [converted] at failed
          cases failed
  | UNSUPPORTED => cases result

/-- What the scan of the options of a request can throw. -/
inductive Exception.OfOptions : Exception → Prop where
  | illegal (operation : Bytes) : OfOptions (illegalOperation operation)
  | value (name value : Bytes) : OfOptions (.invalidOptionValue name value)
  | range : OfOptions .stdOutOfRange

theorem addOption_error
    {name value : Bytes} {parsed : List TftpOption}
    (result : addOption name value parsed = .error exception) :
    exception.OfOptions := by
  unfold addOption at result
  cases made : TftpOption.make name value with
  | error thrown =>
      rw [made] at result
      cases result
      unfold TftpOption.make at made
      dsimp only at made
      split at made
      · cases made
      · rename_i invalid
        cases made
        rcases validate_error invalid with ⟨name, value, rfl⟩ | rfl
        · exact .value name value
        · exact .range
  | ok option =>
      simp only [made, bind, Except.bind, pure, Except.pure, throw,
        throwThe, MonadExceptOf.throw] at result
      split at result
      · cases result
        exact .illegal _
      · cases result

theorem ReadWritePacket.parseOptions_error
    {scan : OptionScan} {parsed : List TftpOption}
    (result :
      parseOptionsFrom (fun _ _ => .ok ()) raw scan parsed =
        .error exception) :
    exception.OfOptions := by
  induction raw generalizing scan parsed with
  | nil =>
      cases scan with
      | readingName name =>
          cases name with
          | nil => cases result
          | cons byte name =>
              cases result
              exact .illegal _
      | readingValue name value =>
          cases result
          exact .illegal _
  | cons byte rest induction =>
      cases scan with
      | readingName name =>
          rw [parseOptionsFrom] at result
          split_ifs at result
          · exact induction result
          · exact induction result
      | readingValue name value =>
          rw [parseOptionsFrom] at result
          split_ifs at result
          · cases added : addOption name value parsed with
            | error thrown =>
                simp only [added] at result
                cases result
                exact addOption_error added
            | ok more =>
                simp only [added] at result
                exact induction result
          · exact induction result

/-! ## Requests -/

theorem parseMode_error
    (result : parseMode raw = .error exception) :
    exception.IsIllegal := by
  unfold parseMode at result
  dsimp only at result
  split_ifs at result
  cases result
  exact isIllegal_illegalOperation _

/-- What the constructor of a request can throw. -/
inductive Exception.OfRequest : Exception → Prop where
  | illegal (operation : Bytes) : OfRequest (illegalOperation operation)
  | negotiation : OfRequest (.tftp .optionNegotiationError)
  | range : OfRequest .stdOutOfRange

theorem Exception.IsIllegal.ofRequest (illegal : exception.IsIllegal) :
    exception.OfRequest := by
  obtain ⟨operation, rfl⟩ := illegal
  exact .illegal operation

theorem rethrowInvalidValue_error
    (result :
      rethrowInvalidValue (ReadWritePacket.parseOptions raw) =
        .error exception) :
    exception.OfRequest := by
  cases parsed : ReadWritePacket.parseOptions raw with
  | ok options =>
      rw [parsed] at result
      cases result
  | error thrown =>
      rw [parsed] at result
      cases ReadWritePacket.parseOptions_error parsed with
      | illegal operation =>
          cases result
          exact .illegal operation
      | value name value =>
          cases result
          exact .negotiation
      | range =>
          cases result
          exact .range

theorem ReadWritePacket.ofRaw_error
    (result : ReadWritePacket.ofRaw raw = .error exception) :
    exception.OfRequest := by
  unfold ReadWritePacket.ofRaw at result
  cases known : getOpcodeFromRaw raw with
  | error thrown =>
      simp only [known, bind, Except.bind] at result
      cases result
      exact (getOpcodeFromRaw_error known).ofRequest
  | ok opcode =>
      simp only [known, bind, Except.bind, pure, Except.pure, throw,
        throwThe, MonadExceptOf.throw] at result
      split at result
      · cases result
        exact .illegal _
      · split at result
        · cases result
          exact .illegal _
        · split at result
          · cases result
            exact .illegal _
          · rename_i filepath afterFilepath _
            split at result
            · cases result
              exact .illegal _
            · rename_i modeBytes afterMode _
              cases mode : parseMode modeBytes with
              | error thrown =>
                  rw [mode] at result
                  cases result
                  exact (parseMode_error mode).ofRequest
              | ok mode =>
                  simp only [mode] at result
                  split_ifs at result
                  cases options :
                      rethrowInvalidValue
                        (ReadWritePacket.parseOptions afterMode) with
                  | error thrown =>
                      rw [options] at result
                      cases result
                      exact rethrowInvalidValue_error options
                  | ok parsed =>
                      rw [options] at result
                      cases result

/-- Only in a request a number is converted. -/
theorem ReadWritePacket.getOpcode_of_range
    (result : ReadWritePacket.ofRaw raw = .error .stdOutOfRange) :
    getOpcodeFromRaw raw = .ok .RRQ ∨ getOpcodeFromRaw raw = .ok .WRQ := by
  unfold ReadWritePacket.ofRaw at result
  cases known : getOpcodeFromRaw raw with
  | error thrown =>
      obtain ⟨operation, rfl⟩ := getOpcodeFromRaw_error known
      rw [known] at result
      cases result
  | ok opcode =>
      cases opcode with
      | RRQ => exact Or.inl rfl
      | WRQ => exact Or.inr rfl
      | _ =>
          rw [known] at result
          cases result

end IsaTftp.Wire
