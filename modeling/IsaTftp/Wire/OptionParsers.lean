import IsaTftp.Wire.Grammar

/-!
# The two option parsers

The loop which reads options stands twice in the program, in the class of a
request and in the class of an OACK.  Only the second copy has the guard
"Check if option value is missing".  So the two do the same until a value is
empty behind options which both accept; there the OACK is refused, and a
request only if something else is wrong.
-/

namespace IsaTftp.Wire

open Library.GuardedFolds

/-! ## Types of exceptions -/

/-- An exception without the arguments of its class. -/
def TftpException.bare : TftpException → TftpException
  | .fileNotFoundError _ => .fileNotFoundError []
  | .illegalOperationError _ => .illegalOperationError []
  | .fileAlreadyExistsError _ => .fileAlreadyExistsError []
  | other => other

def FileHandlerException.bare :
    FileHandlerException → FileHandlerException
  | .failedToOpenFile _ => .failedToOpenFile []
  | .fileDoesNotExist _ => .fileDoesNotExist []
  | other => other

def Exception.bare : Exception → Exception
  | .tftp exception => .tftp exception.bare
  | .fileHandler exception => .fileHandler exception.bare
  | .invalidOptionValue _ _ => .invalidOptionValue [] []
  | .udp _ => .udp []
  | .recievedErrorPacket _ => .recievedErrorPacket []
  | other => other

/-- Two exceptions are of one class. -/
def Exception.SameType (first second : Exception) : Prop :=
  first.bare = second.bare

theorem Exception.IsIllegal.sameType
    {first second : Exception}
    (illegal : first.IsIllegal) (illegalToo : second.IsIllegal) :
    first.SameType second := by
  obtain ⟨operation, rfl⟩ := illegal
  obtain ⟨other, rfl⟩ := illegalToo
  rfl

theorem Exception.SameType.isIllegal
    {first : Exception} {operation : Bytes}
    (same : first.SameType (illegalOperation operation)) :
    first.IsIllegal := by
  cases first with
  | tftp exception =>
      cases exception with
      | illegalOperationError other => exact ⟨other, rfl⟩
      | _ => cases same
  | _ => cases same

/-- Two calls return the same, or throw exceptions of one class. -/
inductive SameOutcome {α : Type*} :
    Except Exception α → Except Exception α → Prop where
  | returned (value : α) : SameOutcome (.ok value) (.ok value)
  | threw {first second : Exception} (same : first.SameType second) :
      SameOutcome (.error first) (.error second)

theorem SameOutcome.refl {α : Type*} (result : Except Exception α) :
    SameOutcome result result := by
  cases result with
  | ok value => exact .returned value
  | error exception => exact .threw rfl

/-! ## Where the copies differ -/

/-- Pairs which the loop accepts: valid values, and no option twice. -/
structure OptionText.Accepted (pairs : List OptionText) : Prop where
  valid : ∀ pair ∈ pairs, pair.checked = .ok ()
  distinct : (pairs.map OptionText.optionName).Nodup

/--
The options go on with a pair whose value is empty behind pairs which are
accepted and have values.
-/
structure EmptyValueAt (options : Bytes) (before : List OptionText)
    (empty : OptionText) (rest : Bytes) : Prop where
  reads : options = OptionText.rawOf before ++ (empty.raw ++ rest)
  accepted : OptionText.Accepted before
  filled : ∀ pair ∈ before, pair.value ≠ []
  isEmpty : empty.value = []

def ReachesEmptyValue (options : Bytes) : Prop :=
  ∃ before empty rest, EmptyValueAt options before empty rest

/--
Behind pairs which are accepted, whether they have values or not, there is a
text without its NUL, or an option which is among these pairs.
-/
def BreaksOff (options : Bytes) : Prop :=
  ∃ before rest, options = OptionText.rawOf before ++ rest ∧
    OptionText.Accepted before ∧
      (Unterminated rest ∨
        ∃ (again : OptionText) (later : Bytes),
          rest = again.raw ++ later ∧ again.checked = .ok () ∧
            again.optionName ∈ before.map OptionText.optionName)

/-- "Check if option value is missing", the guard of the second copy. -/
def checkMissing (optionName optionValue : Bytes) :
    Except Exception Unit :=
  if optionValue = [] then
    .error
      (illegalOperation
        (text "TFTP Illegal Operation: missing value for option " ++
          optionName))
  else .ok ()

theorem OackPacket.parseOptions_eq (options : Bytes) :
    OackPacket.parseOptions options =
      parseOptionsFrom checkMissing options (.readingName []) [] :=
  rfl

/-- With a value the guard does nothing. -/
theorem readPair_checkMissing
    {pair : OptionText} (filled : pair.value ≠ [])
    (parsed : List TftpOption) :
    readPair (fun _ _ => .ok ()) parsed pair =
      readPair checkMissing parsed pair := by
  have lowered : pair.value.map toLower ≠ [] := by
    simpa using filled
  rw [readPair, readPair, checkMissing, if_neg lowered]

theorem readPair_of_empty
    {pair : OptionText} (isEmpty : pair.value = [])
    (parsed : List TftpOption) :
    readPair checkMissing parsed pair =
      .error
        (illegalOperation
          (text "TFTP Illegal Operation: missing value for option " ++
            pair.lowered)) := by
  rw [readPair, isEmpty]
  rfl

/-- An option which the program knows has no empty value. -/
theorem addOption_of_empty
    {pair : OptionText} (isEmpty : pair.value = [])
    (supported : pair.optionName ≠ .UNSUPPORTED)
    (parsed : List TftpOption) :
    ∃ name, addOption pair.lowered (pair.value.map toLower) parsed =
      .error (.invalidOptionValue name []) := by
  have invalid : ∃ name,
      pair.checked = .error (.invalidOptionValue name []) := by
    rw [OptionText.checked, isEmpty]
    cases known : pair.optionName with
    | BLKSIZE => exact ⟨_, rfl⟩
    | TIMEOUT => exact ⟨_, rfl⟩
    | TSIZE => exact ⟨_, rfl⟩
    | UNSUPPORTED => exact absurd known supported
  obtain ⟨name, invalid⟩ := invalid
  rcases addOption_pair pair parsed with
    ⟨valid, _⟩ | ⟨valid, _⟩ | ⟨exception, same, thrown⟩
  · rw [invalid] at valid
    cases valid
  · rw [invalid] at valid
    cases valid
  · rw [invalid] at same
    cases same
    exact ⟨name, thrown⟩

namespace OptionText.Accepted

variable {pairs : List OptionText}

theorem addPairs (accepted : Accepted pairs) :
    addPairs [] pairs = .ok (optionsOf pairs accepted.valid) :=
  addPairs_of_nodup accepted.valid accepted.distinct

theorem of_addPairs {options : List TftpOption}
    (added : Wire.addPairs [] pairs = .ok options) : Accepted pairs := by
  obtain ⟨valid, distinct⟩ := nodup_of_addPairs added List.nodup_nil
  exact ⟨valid, distinct⟩

/-- What the loop has parsed are options of these names. -/
theorem names {parsed : List TftpOption}
    (accepted : Accepted pairs)
    (added : Wire.addPairs [] pairs = .ok parsed) :
    parsed.map TftpOption.name = pairs.map OptionText.optionName := by
  rw [accepted.addPairs] at added
  cases added
  exact map_name_optionsOf accepted.valid

/-- If the next option cannot be added, a request is refused there. -/
theorem refuses (accepted : Accepted pairs) {next : OptionText}
    {exception : Exception}
    (thrown :
      addOption next.lowered (next.value.map toLower)
          (optionsOf pairs accepted.valid) =
        .error exception)
    (rest : Bytes) :
    ReadWritePacket.parseOptions (rawOf pairs ++ (next.raw ++ rest)) =
      .error exception := by
  rw [parseOptions_rawOf, accepted.addPairs]
  show parseOptionsFrom _ (next.raw ++ rest) _ _ = _
  rw [parseOptionsFrom_pair, readPair]
  show Except.bind (addOption next.lowered _ _) _ = _
  rw [thrown]
  rfl

end OptionText.Accepted

/-! ## What the two parsers do -/

variable {options : Bytes}

/-- The copies do the same as long as no empty value is reached. -/
theorem parseOptions_eq_of_filled (never : ¬ ReachesEmptyValue options) :
    ReadWritePacket.parseOptions options =
      OackPacket.parseOptions options := by
  obtain ⟨pairs, rest, rfl, ending⟩ := exists_pairs options
  rcases foldlM_eq_or_reaches (fun pair : OptionText => pair.value = [])
      pairs [] fun _ _ filled parsed =>
        readPair_checkMissing filled parsed with
    same | ⟨before, empty, after, parsed, reached⟩
  · rw [ReadWritePacket.parseOptions, OackPacket.parseOptions_eq,
      parseOptionsFrom_rawOf, parseOptionsFrom_rawOf, same]
    cases pairs.foldlM (readPair checkMissing) [] with
    | error exception => rfl
    | ok parsed =>
        rcases ending with rfl | open_
        · rfl
        · obtain ⟨operation, refused⟩ := open_.refused parsed
          exact (refused _).trans (refused _).symm
  · refine
      absurd ⟨before, empty, OptionText.rawOf after ++ rest, ?_⟩ never
    constructor
    · rw [reached.split, OptionText.rawOf_append]
      simp only [OptionText.rawOf_cons, List.append_assoc]
    · exact .of_addPairs reached.accepted
    · exact reached.ordinary
    · exact reached.isSpecial

namespace EmptyValueAt

variable {before : List OptionText} {empty : OptionText} {rest : Bytes}

/-- Both loops come to the pair with the empty value. -/
theorem comes_to (found : EmptyValueAt options before empty rest) :
    before.foldlM (readPair checkMissing) [] =
      .ok (optionsOf before found.accepted.valid) := by
  rcases foldlM_eq_or_reaches (fun pair : OptionText => pair.value = [])
      before [] fun _ _ filled parsed =>
        readPair_checkMissing filled parsed with
    same | ⟨earlier, special, later, parsed, reached⟩
  · rw [← same]
    exact found.accepted.addPairs
  · refine absurd reached.isSpecial (found.filled special ?_)
    rw [reached.split]
    exact List.mem_append_right earlier List.mem_cons_self

/-- An OACK is refused at the empty value. -/
theorem oack (found : EmptyValueAt options before empty rest) :
    OackPacket.parseOptions options =
      .error
        (illegalOperation
          (text "TFTP Illegal Operation: missing value for option " ++
            empty.lowered)) := by
  rw [OackPacket.parseOptions_eq, found.reads, parseOptionsFrom_rawOf,
    found.comes_to]
  show parseOptionsFrom checkMissing (empty.raw ++ rest) _ _ = _
  rw [parseOptionsFrom_pair, readPair_of_empty found.isEmpty]
  rfl

/-- A request has an invalid value there if the program knows the option. -/
theorem request (found : EmptyValueAt options before empty rest)
    (supported : empty.optionName ≠ .UNSUPPORTED) :
    ∃ name, ReadWritePacket.parseOptions options =
      .error (.invalidOptionValue name []) := by
  obtain ⟨rfl, accepted, _, isEmpty⟩ := found
  obtain ⟨name, thrown⟩ :=
    addOption_of_empty isEmpty supported (optionsOf before accepted.valid)
  exact ⟨name, accepted.refuses thrown rest⟩

end EmptyValueAt

/-- If adding fails as an illegal operation, an option came before. -/
theorem breaksOff_of_addPairs
    {pairs : List OptionText} {exception : Exception}
    (failed : addPairs [] pairs = .error exception)
    (illegal : exception.IsIllegal) (rest : Bytes) :
    BreaksOff (OptionText.rawOf pairs ++ rest) := by
  obtain ⟨before, again, after, parsed, rfl, earlier, refused⟩ :=
    foldlM_eq_error_iff.mp failed
  have accepted := OptionText.Accepted.of_addPairs earlier
  rcases addOption_pair again parsed with
    ⟨_, _, result⟩ | ⟨valid, taken, _⟩ | ⟨thrown, invalid, result⟩
  · rw [result] at refused
    cases refused
  · rw [accepted.names earlier] at taken
    refine ⟨before, again.raw ++ (OptionText.rawOf after ++ rest), ?_,
      accepted, Or.inr ⟨again, _, rfl, valid, taken⟩⟩
    rw [OptionText.rawOf_append]
    simp only [OptionText.rawOf_cons, List.append_assoc]
  · -- an invalid value is no illegal operation
    rw [result] at refused
    cases refused
    obtain ⟨operation, rfl⟩ := illegal
    rcases validate_error invalid with ⟨_, _, same⟩ | same
    · cases same
    · cases same

/-- A request ends in an illegal operation only where it breaks off. -/
theorem breaksOff_of_isIllegal
    {exception : Exception}
    (refused : ReadWritePacket.parseOptions options = .error exception)
    (illegal : exception.IsIllegal) : BreaksOff options := by
  obtain ⟨pairs, rest, rfl, ending⟩ := exists_pairs options
  rw [parseOptions_rawOf] at refused
  cases added : addPairs [] pairs with
  | error thrown =>
      rw [added] at refused
      cases refused
      exact breaksOff_of_addPairs added illegal rest
  | ok parsed =>
      rcases ending with rfl | open_
      · rw [added] at refused
        cases refused
      · exact ⟨pairs, rest, rfl, .of_addPairs added, Or.inl open_⟩

/-- And where it breaks off, it does end like that. -/
theorem BreaksOff.isIllegal (breaksOff : BreaksOff options) :
    ∃ exception,
      ReadWritePacket.parseOptions options = .error exception ∧
        exception.IsIllegal := by
  obtain ⟨before, rest, rfl, accepted, wrong⟩ := breaksOff
  rcases wrong with open_ | ⟨again, later, rfl, valid, taken⟩
  · obtain ⟨operation, refused⟩ :=
      open_.refused (optionsOf before accepted.valid)
    refine ⟨_, ?_, isIllegal_illegalOperation operation⟩
    rw [parseOptions_rawOf, accepted.addPairs]
    exact refused _
  · rw [← accepted.names accepted.addPairs] at taken
    rcases addOption_pair again (optionsOf before accepted.valid) with
      ⟨_, free, _⟩ | ⟨_, _, exception, thrown, illegal⟩ |
        ⟨_, invalid, _⟩
    · exact absurd taken free
    · exact ⟨exception, accepted.refuses thrown later, illegal⟩
    · rw [valid] at invalid
      cases invalid

/--
The two parsers do the same unless an empty value is reached.  There an OACK
is refused by the guard, and a request has an invalid value if its option is
known; the outcomes are of one kind if the request breaks off elsewhere.
-/
theorem option_parsers_agree (options : Bytes) :
    (¬ ReachesEmptyValue options →
        ReadWritePacket.parseOptions options =
          OackPacket.parseOptions options) ∧
      (∀ before empty rest, EmptyValueAt options before empty rest →
        OackPacket.parseOptions options =
            .error
              (illegalOperation
                (text "TFTP Illegal Operation: missing value for option " ++
                  empty.lowered)) ∧
          (empty.optionName ≠ .UNSUPPORTED →
            ∃ name, ReadWritePacket.parseOptions options =
              .error (.invalidOptionValue name []))) ∧
        (SameOutcome (ReadWritePacket.parseOptions options)
            (OackPacket.parseOptions options) ↔
          ¬ ReachesEmptyValue options ∨ BreaksOff options) := by
  refine ⟨parseOptions_eq_of_filled, ?_, ?_, ?_⟩
  · intro before empty rest found
    exact ⟨found.oack, found.request⟩
  · intro same
    by_cases reached : ReachesEmptyValue options
    · -- the guard throws an illegal operation, so the request does as well
      obtain ⟨before, empty, rest, found⟩ := reached
      rw [found.oack] at same
      right
      cases request : ReadWritePacket.parseOptions options with
      | ok parsed =>
          rw [request] at same
          cases same
      | error exception =>
          rw [request] at same
          cases same with
          | threw type_ =>
              exact breaksOff_of_isIllegal request type_.isIllegal
    · exact Or.inl reached
  · intro condition
    by_cases reached : ReachesEmptyValue options
    · obtain ⟨before, empty, rest, found⟩ := reached
      have breaksOff : BreaksOff options :=
        condition.resolve_left (not_not_intro ⟨before, empty, rest, found⟩)
      obtain ⟨exception, refused, illegal⟩ := breaksOff.isIllegal
      rw [refused, found.oack]
      exact .threw (illegal.sameType (isIllegal_illegalOperation _))
    · rw [parseOptions_eq_of_filled reached]
      exact .refl _

/-- A name without a value, and nothing else. -/
def nameAlone (name : Bytes) : Bytes :=
  name ++ [nul, nul]

/-- It is an empty value which both loops come to. -/
theorem emptyValueAt_nameAlone {name : Bytes} (nameFree : nul ∉ name) :
    EmptyValueAt (nameAlone name) []
      ⟨name, [], nameFree, List.not_mem_nil⟩ [] where
  reads := by
    simp [nameAlone, OptionText.raw, stringToVectorNullTerminated]
  accepted := ⟨by simp, List.nodup_nil⟩
  filled := by simp
  isEmpty := rfl

/--
Without its value `blksize` is invalid in a request and illegal in an OACK; an
option which is not known is read in a request and illegal in an OACK.
-/
theorem option_parsers_differ :
    ¬ SameOutcome (ReadWritePacket.parseOptions (nameAlone (text "blksize")))
        (OackPacket.parseOptions (nameAlone (text "blksize"))) ∧
      ¬ SameOutcome
        (ReadWritePacket.parseOptions (nameAlone (text "rollover")))
        (OackPacket.parseOptions (nameAlone (text "rollover"))) := by
  have blksize : nul ∉ text "blksize" := by
    decide
  have rollover : nul ∉ text "rollover" := by
    decide
  have supported :
      OptionName.ofName ((text "blksize").map toLower) ≠ .UNSUPPORTED := by
    decide
  constructor
  · intro same
    obtain ⟨name, invalid⟩ :=
      (emptyValueAt_nameAlone blksize).request supported
    rw [invalid, (emptyValueAt_nameAlone blksize).oack] at same
    cases same with
    | threw type_ => cases type_
  · intro same
    have accepted :
        ReadWritePacket.parseOptions (nameAlone (text "rollover")) =
          .ok [⟨.UNSUPPORTED, text "rollover", [], rfl⟩] := by
      decide +kernel
    rw [accepted, (emptyValueAt_nameAlone rollover).oack] at same
    cases same

end IsaTftp.Wire
