import IsaTftp.Wire.Failures
import IsaTftp.Wire.RoundTrip
import IsaTftp.Client.Session
import IsaTftp.Server.Session

/-!
# Validated values of options

The constructor of an option converts its value with `stoi`, `stoll` or
`stoull`, and everybody else converts it with `stoi` again.  The conversions
stop at the first byte which is no digit, and a number which does not fit is
reported by an exception which the constructor does not catch.
-/

namespace IsaTftp

open IsaTftp.Wire

/-! ## What is validated -/

/-- The number with its sign. -/
def signed (negative : Bool) (magnitude : Nat) : Int :=
  if negative then -magnitude else magnitude

/-- The number fits into the type which the value is converted to. -/
def FitsType (negative : Bool) (magnitude : Nat) : OptionName → Prop
  | .BLKSIZE =>
      -2 ^ 31 ≤ signed negative magnitude ∧
        signed negative magnitude < 2 ^ 31
  | .TIMEOUT =>
      -2 ^ 63 ≤ signed negative magnitude ∧
        signed negative magnitude < 2 ^ 63
  | .TSIZE => magnitude < 2 ^ 64
  | .UNSUPPORTED => True

/-- The number lies between the two limits of the option. -/
def InLimits (number : Int) : OptionName → Prop
  | .BLKSIZE => minBlockSize ≤ number ∧ number ≤ maxBlockSize
  | .TIMEOUT => minTimeout ≤ number ∧ number ≤ maxTimeout
  | .TSIZE => True
  | .UNSUPPORTED => True

/-- What is said about a value which begins with a number. -/
inductive Verdict (value : Bytes) (fits inside : Prop) :
    Except Exception Unit → Prop where
  | overflow : ¬ fits → Verdict value fits inside (.error .stdOutOfRange)
  | outside (optionName : Bytes) : fits → ¬ inside →
      Verdict value fits inside
        (.error (.invalidOptionValue optionName value))
  | valid : fits → inside → Verdict value fits inside (.ok ())

/-- The range is checked after the conversion. -/
theorem checkRange_verdict
    {optionName value : Bytes} {converted : Except Exception Int}
    {least most number : Int} {fits : Prop}
    (converts : fits → converted = .ok number)
    (overflows : ¬ fits → converted = .error .stdOutOfRange) :
    Verdict value fits (least ≤ number ∧ number ≤ most)
      (checkRange optionName value converted least most) := by
  by_cases isFit : fits
  · rw [converts isFit]
    by_cases bounded : least ≤ number ∧ number ≤ most
    · rw [checkRange, if_pos bounded]
      exact .valid isFit bounded
    · rw [checkRange, if_neg bounded]
      exact .outside _ isFit bounded
  · rw [overflows isFit]
    exact .overflow isFit

section Scanned

variable {value : Bytes} {negative : Bool} {magnitude : Nat}

theorem stoSigned_of_fits
    (scanned : scanInteger value = some (negative, magnitude)) (bits : Nat)
    (fits : -(2 ^ (bits - 1) : Int) ≤ signed negative magnitude ∧
      signed negative magnitude < 2 ^ (bits - 1)) :
    stoSigned bits value = .ok (signed negative magnitude) := by
  simp only [stoSigned, scanned]
  exact if_pos fits

theorem stoSigned_of_overflow
    (scanned : scanInteger value = some (negative, magnitude)) (bits : Nat)
    (overflows : ¬ (-(2 ^ (bits - 1) : Int) ≤ signed negative magnitude ∧
      signed negative magnitude < 2 ^ (bits - 1))) :
    stoSigned bits value = .error .stdOutOfRange := by
  simp only [stoSigned, scanned]
  exact if_neg overflows

/-- What the validation says when a number can be read. -/
theorem validate_verdict
    {name : OptionName} (supported : name ≠ .UNSUPPORTED)
    (scanned : scanInteger value = some (negative, magnitude)) :
    Verdict value (FitsType negative magnitude name)
      (InLimits (signed negative magnitude) name) (name.validate value) := by
  cases name with
  | BLKSIZE =>
      exact
        checkRange_verdict (stoSigned_of_fits scanned 32)
          (stoSigned_of_overflow scanned 32)
  | TIMEOUT =>
      exact
        checkRange_verdict (stoSigned_of_fits scanned 64)
          (stoSigned_of_overflow scanned 64)
  | TSIZE =>
      -- a number which was converted is never out of the limits
      by_cases fits : magnitude < 2 ^ 64
      · have number :
            stoull value =
              .ok (if negative then (2 ^ 64 - magnitude) % 2 ^ 64
                else magnitude) := by
          simp only [stoull, scanned]
          exact if_pos fits
        have bounded :
            (0 : Int) ≤
                ((if negative then (2 ^ 64 - magnitude) % 2 ^ 64
                  else magnitude : Nat) : Int) ∧
              ((if negative then (2 ^ 64 - magnitude) % 2 ^ 64
                else magnitude : Nat) : Int) ≤ 2 ^ 64 - 1 := by
          split_ifs <;> omega
        have valid : OptionName.validate .TSIZE value = .ok () := by
          rw [OptionName.validate, number]
          exact if_pos bounded
        rw [valid]
        exact .valid fits trivial
      · have failed : stoull value = .error .stdOutOfRange := by
          simp only [stoull, scanned]
          exact if_neg fits
        have overflow :
            OptionName.validate .TSIZE value = .error .stdOutOfRange := by
          rw [OptionName.validate, failed]
          rfl
        rw [overflow]
        exact .overflow fits
  | UNSUPPORTED => exact absurd rfl supported

end Scanned

/-- A value without a number at its start is refused. -/
theorem validate_of_scanInteger_none
    {name : OptionName} (supported : name ≠ .UNSUPPORTED) {value : Bytes}
    (scanned : scanInteger value = none) :
    ∃ optionName,
      name.validate value =
        .error (.invalidOptionValue optionName value) := by
  cases name with
  | BLKSIZE =>
      refine ⟨text "BLKSIZE", ?_⟩
      simp only [OptionName.validate, stoi, stoSigned, scanned, checkRange]
  | TIMEOUT =>
      refine ⟨text "TIMEOUT", ?_⟩
      simp only [OptionName.validate, stoll, stoSigned, scanned, checkRange]
  | TSIZE =>
      refine ⟨text "TSIZE", ?_⟩
      simp only [OptionName.validate, stoull, scanned, checkRange,
        Except.map]
  | UNSUPPORTED => exact absurd rfl supported

/-! ## Usable options -/

/-- The value is a numeral which everybody reads in the same way. -/
structure Usable (option : TftpOption) : Prop where
  numeral : IsNumeral option.value
  limits : InLimits (digitsValue 0 option.value : Nat) option.name
  converted : stoi option.value = .ok (digitsValue 0 option.value : Nat)
  negotiated : ∀ session : Server.Session, ∃ next,
    session.negotiateOption option = .ok next ∧
      (option.name = .BLKSIZE →
          next.blksize = digitsValue 0 option.value) ∧
        (option.name = .TIMEOUT →
            next.timeout = digitsValue 0 option.value) ∧
          (option.name = .TSIZE →
            next.tsize = (digitsValue 0 option.value : Nat))
  setUp : ∀ session : Client.Session, ∃ next,
    Client.Session.setupOption session option = .ok next ∧
      (option.name = .BLKSIZE →
          next.blksize.toNat = digitsValue 0 option.value) ∧
        (option.name = .TIMEOUT →
          next.timeout = digitsValue 0 option.value)
  compared : Client.Session.compareOptions option option = .ok ()

/-- The constructor accepts usable values, and says so of the others. -/
structure ValidatedMeansUsable (name value : Bytes) : Prop where
  accepted : ∀ option, TftpOption.make name value = .ok option →
    Usable option
  refused : ∀ exception, TftpOption.make name value = .error exception →
    ∃ optionName, exception = .invalidOptionValue optionName value

/--
The number at the start of the value fits into its type; if it lies between
the limits there is nothing else in the value, and it fits into an `int`.
-/
def PlainNumber (name : OptionName) (value : Bytes) : Prop :=
  ∀ negative magnitude, scanInteger value = some (negative, magnitude) →
    FitsType negative magnitude name ∧
      (InLimits (signed negative magnitude) name →
        IsNumeral value ∧ magnitude < 2 ^ 31)

theorem IsNumeral.stoi_eq
    {value : Bytes} (numeral : IsNumeral value)
    (small : digitsValue 0 value < 2 ^ 31) :
    stoi value = .ok (digitsValue 0 value : Nat) := by
  have fits : -(2 ^ (32 - 1) : Int) ≤ signed false (digitsValue 0 value) ∧
      signed false (digitsValue 0 value) < 2 ^ (32 - 1) := by
    simp only [signed, Bool.false_eq_true, if_false]
    omega
  exact stoSigned_of_fits numeral.scanInteger 32 fits

/-- A numeral which is small enough is usable. -/
theorem usable_of_numeral
    {option : TftpOption} (supported : option.name ≠ .UNSUPPORTED)
    (numeral : IsNumeral option.value)
    (small : digitsValue 0 option.value < 2 ^ 31)
    (limits : InLimits (digitsValue 0 option.value : Nat) option.name) :
    Usable option := by
  have converted := IsNumeral.stoi_eq numeral small
  constructor
  · exact numeral
  · exact limits
  · exact converted
  · intro session
    unfold Server.Session.negotiateOption
    rw [converted]
    cases name : option.name with
    | BLKSIZE => exact ⟨_, rfl, fun _ => rfl, nofun, nofun⟩
    | TIMEOUT => exact ⟨_, rfl, nofun, fun _ => rfl, nofun⟩
    | TSIZE => exact ⟨_, rfl, nofun, nofun, fun _ => rfl⟩
    | UNSUPPORTED => exact absurd name supported
  · intro session
    unfold Client.Session.setupOption
    rw [converted]
    cases name : option.name with
    | BLKSIZE =>
        refine ⟨_, rfl, fun _ => ?_, nofun⟩
        rw [name] at limits
        simp only [InLimits, minBlockSize, maxBlockSize] at limits
        show (UInt16.ofNat _).toNat = _
        rw [UInt16.toNat_ofNat']
        omega
    | TIMEOUT => exact ⟨_, rfl, nofun, fun _ => rfl⟩
    | TSIZE => exact ⟨_, rfl, nofun, nofun⟩
    | UNSUPPORTED => exact absurd name supported
  · unfold Client.Session.compareOptions
    rw [converted]
    cases name : option.name with
    | BLKSIZE => exact if_neg (Int.lt_irrefl _)
    | TIMEOUT => exact if_neg (not_not.mpr rfl)
    | TSIZE => exact if_neg (not_not.mpr rfl)
    | UNSUPPORTED => exact absurd name supported

theorem make_of_error
    {name value : Bytes} {exception : Exception}
    (invalid : (OptionName.ofName (name.map toLower)).validate value =
      .error exception) :
    TftpOption.make name value = .error exception := by
  unfold TftpOption.make
  dsimp only
  split
  · rename_i valid
    rw [invalid] at valid
    cases valid
  · rename_i thrown failed
    rw [invalid] at failed
    rw [Except.error.inj failed]

/-- A value which is refused by its name has nothing to be used for. -/
theorem ValidatedMeansUsable.of_refused
    {name value optionName : Bytes}
    (invalid : (OptionName.ofName (name.map toLower)).validate value =
      .error (.invalidOptionValue optionName value)) :
    ValidatedMeansUsable name value := by
  have refused := make_of_error invalid
  constructor
  · intro option made
    rw [refused] at made
    cases made
  · intro exception made
    rw [refused] at made
    cases made
    exact ⟨optionName, rfl⟩

/-- A valid value is all right if it can be used. -/
theorem ValidatedMeansUsable.of_valid
    {name value : Bytes}
    (valid : (OptionName.ofName (name.map toLower)).validate value =
      .ok ())
    (usable : Usable ⟨_, name.map toLower, value, valid⟩) :
    ValidatedMeansUsable name value := by
  have made := TftpOption.make_of_valid valid
  constructor
  · intro option again
    rw [made] at again
    cases again
    exact usable
  · intro exception again
    rw [made] at again
    cases again

/--
What is validated can be used exactly if the value is plain: no number which
is too large for its type, and nothing but digits when it is accepted.
-/
theorem validated_means_usable_iff
    (name value : Bytes)
    (supported : OptionName.ofName (name.map toLower) ≠ .UNSUPPORTED) :
    ValidatedMeansUsable name value ↔
      PlainNumber (OptionName.ofName (name.map toLower)) value := by
  constructor
  · rintro ⟨accepted, refused⟩ negative magnitude scanned
    have verdict := validate_verdict supported scanned
    generalize result :
        (OptionName.ofName (name.map toLower)).validate value = outcome
      at verdict
    cases verdict with
    | overflow large =>
        obtain ⟨_, same⟩ := refused _ (make_of_error result)
        cases same
    | outside optionName fits outside =>
        exact ⟨fits, fun inside => absurd inside outside⟩
    | valid fits inside =>
        have usable := accepted _ (TftpOption.make_of_valid result)
        have numeral : IsNumeral value := usable.numeral
        have converted : stoi value = .ok (digitsValue 0 value : Nat) :=
          usable.converted
        refine ⟨fits, fun _ => ⟨numeral, ?_⟩⟩
        rw [numeral.scanInteger] at scanned
        cases scanned
        by_contra large
        have overflows := stoSigned_of_overflow numeral.scanInteger 32
          (by
            simp only [signed, Bool.false_eq_true, if_false]
            omega)
        rw [stoi, overflows] at converted
        cases converted
  · intro plain
    cases scanned : scanInteger value with
    | none =>
        obtain ⟨optionName, invalid⟩ :=
          validate_of_scanInteger_none supported scanned
        exact .of_refused invalid
    | some pair =>
        obtain ⟨negative, magnitude⟩ := pair
        obtain ⟨fits, digits⟩ := plain negative magnitude scanned
        have verdict := validate_verdict supported scanned
        generalize result :
            (OptionName.ofName (name.map toLower)).validate value = outcome
          at verdict
        cases verdict with
        | overflow large => exact absurd fits large
        | outside => exact .of_refused result
        | valid _ inside =>
            obtain ⟨numeral, small⟩ := digits inside
            rw [numeral.scanInteger] at scanned
            cases scanned
            exact
              .of_valid result
                (usable_of_numeral supported numeral small inside)

/-- The block size 1024 can be used everywhere. -/
theorem validated_means_usable_small :
    ValidatedMeansUsable (text "blksize") (text "1024") := by
  have supported :
      OptionName.ofName ((text "blksize").map toLower) ≠ .UNSUPPORTED := by
    decide
  have numeral : IsNumeral (text "1024") :=
    .of_all (by decide) (by decide)
  apply (validated_means_usable_iff _ _ supported).mpr
  intro negative magnitude scanned
  cases numeral.scanInteger.symm.trans scanned
  have fits :
      -2 ^ 31 ≤ signed false (digitsValue 0 (text "1024")) ∧
        signed false (digitsValue 0 (text "1024")) < 2 ^ 31 := by
    decide
  exact ⟨fits, fun _ => ⟨numeral, by decide⟩⟩

/--
A value which goes on behind its digits is accepted; a number which is too
large escapes as `std::out_of_range`, and a size may be too large for `stoi`.
-/
theorem values_are_accepted_and_not_usable :
    (∃ option, TftpOption.make (text "blksize") (text "16x") = .ok option) ∧
      ¬ IsNumeral (text "16x") ∧
        ¬ ValidatedMeansUsable (text "blksize") (text "16x") ∧
          TftpOption.make (text "blksize") (text "99999999999") =
              .error .stdOutOfRange ∧
            ¬ ValidatedMeansUsable (text "blksize") (text "99999999999") ∧
              (∃ option,
                TftpOption.make (text "tsize") (text "4294967296") =
                  .ok option) ∧
                stoi (text "4294967296") = .error .stdOutOfRange ∧
                  ¬ ValidatedMeansUsable (text "tsize")
                    (text "4294967296") := by
  have trailing : TftpOption.make (text "blksize") (text "16x") =
      .ok ⟨.BLKSIZE, text "blksize", text "16x", rfl⟩ := by
    rfl
  have letters : ¬ IsNumeral (text "16x") := by
    intro numeral
    have digit := numeral.digits 120 (by decide)
    revert digit
    decide
  have large : TftpOption.make (text "blksize") (text "99999999999") =
      .error .stdOutOfRange := by
    decide +kernel
  have size : TftpOption.make (text "tsize") (text "4294967296") =
      .ok ⟨.TSIZE, text "tsize", text "4294967296", by decide +kernel⟩ := by
    decide +kernel
  have unread : stoi (text "4294967296") = .error .stdOutOfRange := by
    decide +kernel
  refine
    ⟨⟨_, trailing⟩, letters, ?_, large, ?_, ⟨_, size⟩, unread, ?_⟩
  · rintro ⟨accepted, _⟩
    exact letters (accepted _ trailing).numeral
  · rintro ⟨_, refused⟩
    obtain ⟨_, same⟩ := refused _ large
    cases same
  · rintro ⟨accepted, _⟩
    have converted := (accepted _ size).converted
    have failed :
        stoi (text "4294967296") =
          .ok (digitsValue 0 (text "4294967296") : Nat) :=
      converted
    rw [unread] at failed
    cases failed

end IsaTftp
