import Mathlib.Data.List.Nodup
import IsaTftp.Library.GuardedFolds
import IsaTftp.Wire.Failures
import IsaTftp.Wire.RoundTrip

/-!
# The grammar of a request

A request is an opcode, a path and a mode, and then pairs of a name and a
value; each text is followed by a NUL.  `RequestText` is such a request, with
what makes it valid as fields, and `RequestText.packet` is what it means.
-/

namespace IsaTftp.Wire

/-! ## Pairs of a name and a value -/

/-- A name and a value as they stand in a datagram. -/
structure OptionText where
  name : Bytes
  value : Bytes
  nameFree : nul ∉ name
  valueFree : nul ∉ value

namespace OptionText

def raw (pair : OptionText) : Bytes :=
  stringToVectorNullTerminated pair.name ++
    stringToVectorNullTerminated pair.value

def rawOf (pairs : List OptionText) : Bytes :=
  (pairs.map raw).flatten

/-- The name without regard to case. -/
def lowered (pair : OptionText) : Bytes :=
  pair.name.map toLower

/-- The option which the name stands for. -/
def optionName (pair : OptionText) : OptionName :=
  .ofName pair.lowered

/-- What the constructor of an option says about the value. -/
def checked (pair : OptionText) : Except Exception Unit :=
  pair.optionName.validate (pair.value.map toLower)

/-- The option which a pair with a valid value stands for. -/
def option (pair : OptionText) (valid : pair.checked = .ok ()) :
    TftpOption :=
  ⟨pair.optionName, pair.lowered, pair.value.map toLower, valid⟩

@[simp]
theorem rawOf_nil : rawOf [] = [] :=
  rfl

@[simp]
theorem rawOf_cons (pair : OptionText) (pairs : List OptionText) :
    rawOf (pair :: pairs) = pair.raw ++ rawOf pairs :=
  rfl

theorem rawOf_append (first second : List OptionText) :
    rawOf (first ++ second) = rawOf first ++ rawOf second := by
  simp [rawOf]

end OptionText

theorem toLower_toLower (byte : UInt8) :
    toLower (toLower byte) = toLower byte := by
  by_cases letter : 65 ≤ byte ∧ byte ≤ 90
  · have lowered : toLower byte = byte + 32 := if_pos letter
    rw [lowered]
    refine if_neg ?_
    rintro ⟨_, most⟩
    have first := UInt8.le_iff_toNat_le.mp letter.1
    have last := UInt8.le_iff_toNat_le.mp letter.2
    have sum := UInt8.le_iff_toNat_le.mp most
    rw [UInt8.toNat_add] at sum
    simp only [UInt8.reduceToNat] at first last sum
    omega
  · have same : toLower byte = byte := if_neg letter
    rw [same, same]

/-- Lowering makes no NUL. -/
theorem toLower_eq_nul {byte : UInt8} (lowered : toLower byte = nul) :
    byte = nul := by
  by_cases letter : 65 ≤ byte ∧ byte ≤ 90
  · have sum : toLower byte = byte + 32 := if_pos letter
    have least := UInt8.le_iff_toNat_le.mp letter.1
    have most := UInt8.le_iff_toNat_le.mp letter.2
    rw [sum] at lowered
    have number := congrArg UInt8.toNat lowered
    rw [UInt8.toNat_add] at number
    simp only [UInt8.reduceToNat, nul, UInt8.toNat_zero] at least most number
    omega
  · have same : toLower byte = byte := if_neg letter
    rw [← same, lowered]

theorem map_toLower_toLower (bytes : Bytes) :
    (bytes.map toLower).map toLower = bytes.map toLower := by
  rw [List.map_map]
  exact List.map_congr_left fun byte _ => toLower_toLower byte

/-! ## Reading pairs -/

/-- The options of some pairs are added one after the other. -/
def addPairs (parsed : List TftpOption) (pairs : List OptionText) :
    Except Exception (List TftpOption) :=
  pairs.foldlM
    (fun parsed pair =>
      addOption pair.lowered (pair.value.map toLower) parsed)
    parsed

section Scan

variable {checkValue : Bytes → Bytes → Except Exception Unit}

/-- What the loop does with a pair. -/
def readPair (checkValue : Bytes → Bytes → Except Exception Unit)
    (parsed : List TftpOption) (pair : OptionText) :
    Except Exception (List TftpOption) :=
  (checkValue pair.lowered (pair.value.map toLower)).bind fun _ =>
    addOption pair.lowered (pair.value.map toLower) parsed

/-- The loop reads one pair and goes on behind it. -/
theorem parseOptionsFrom_pair
    (pair : OptionText) (rest : Bytes) (parsed : List TftpOption) :
    parseOptionsFrom checkValue (pair.raw ++ rest) (.readingName [])
        parsed =
      (readPair checkValue parsed pair).bind fun next =>
        parseOptionsFrom checkValue rest (.readingName []) next := by
  simp only [OptionText.raw, stringToVectorNullTerminated,
    List.append_assoc, List.cons_append, List.nil_append]
  rw [parseOptionsFrom_name pair.nameFree, List.nil_append,
    parseOptionsFrom_value pair.valueFree, List.nil_append]
  rfl

/-- Pairs are read one after the other. -/
theorem parseOptionsFrom_rawOf
    (pairs : List OptionText) (rest : Bytes) (parsed : List TftpOption) :
    parseOptionsFrom checkValue (OptionText.rawOf pairs ++ rest)
        (.readingName []) parsed =
      (pairs.foldlM (readPair checkValue) parsed).bind fun next =>
        parseOptionsFrom checkValue rest (.readingName []) next := by
  induction pairs generalizing parsed with
  | nil => rfl
  | cons pair pairs induction =>
      rw [OptionText.rawOf_cons, List.append_assoc, parseOptionsFrom_pair,
        List.foldlM_cons]
      cases readPair checkValue parsed pair with
      | error exception => rfl
      | ok next => exact induction next

/-- A name without its NUL is refused. -/
theorem parseOptionsFrom_open_name
    {rest read : Bytes} (nulFree : nul ∉ rest) (some_ : read ++ rest ≠ [])
    (parsed : List TftpOption) :
    parseOptionsFrom checkValue rest (.readingName read) parsed =
      .error
        (illegalOperation
          (text
            "TFTP Illegal Operation: option name not terminated with null byte")) := by
  induction rest generalizing read with
  | nil =>
      cases read with
      | nil => simp at some_
      | cons byte read => rfl
  | cons byte rest induction =>
      simp only [List.mem_cons, not_or] at nulFree
      rw [parseOptionsFrom, if_neg (Ne.symm nulFree.1)]
      exact induction nulFree.2 (by simp)

/-- A value without its NUL is refused. -/
theorem parseOptionsFrom_open_value
    {rest : Bytes} (nulFree : nul ∉ rest) (name read : Bytes)
    (parsed : List TftpOption) :
    parseOptionsFrom checkValue rest (.readingValue name read) parsed =
      .error
        (illegalOperation
          (text
            "TFTP Illegal Operation: option value not terminated with null byte")) := by
  induction rest generalizing read with
  | nil => rfl
  | cons byte rest induction =>
      simp only [List.mem_cons, not_or] at nulFree
      rw [parseOptionsFrom, if_neg (Ne.symm nulFree.1)]
      exact induction nulFree.2 _

end Scan

/-- A name, or a value behind a name, which no NUL ends. -/
inductive Unterminated : Bytes → Prop where
  | name {name : Bytes} (some_ : name ≠ []) (nameFree : nul ∉ name) :
      Unterminated name
  | value {name value : Bytes} (nameFree : nul ∉ name)
      (valueFree : nul ∉ value) : Unterminated (name ++ nul :: value)

/-- The loop refuses it, whatever it checks of a value. -/
theorem Unterminated.refused {rest : Bytes} (open_ : Unterminated rest)
    (parsed : List TftpOption) :
    ∃ operation, ∀ checkValue,
      parseOptionsFrom checkValue rest (.readingName []) parsed =
        .error (illegalOperation operation) := by
  cases open_ with
  | name some_ nameFree =>
      exact
        ⟨_, fun _ =>
          parseOptionsFrom_open_name nameFree (by simpa using some_) parsed⟩
  | value nameFree valueFree =>
      exact
        ⟨_, fun _ =>
          (parseOptionsFrom_name nameFree _ _ parsed).trans
            (parseOptionsFrom_open_value valueFree _ _ parsed)⟩

/-- Every text begins with as many pairs as there are. -/
theorem exists_pairs (raw : Bytes) :
    ∃ pairs rest, raw = OptionText.rawOf pairs ++ rest ∧
      (rest = [] ∨ Unterminated rest) := by
  induction length : raw.length using Nat.strong_induction_on
    generalizing raw with
  | _ size induction =>
      by_cases named : nul ∈ raw
      · obtain ⟨name, after, rfl, nameFree⟩ :=
          List.eq_append_cons_of_mem named
        by_cases valued : nul ∈ after
        · obtain ⟨value, later, rfl, valueFree⟩ :=
            List.eq_append_cons_of_mem valued
          obtain ⟨pairs, rest, rfl, open_⟩ :=
            induction later.length
              (by simp [← length]; omega) later rfl
          refine ⟨⟨name, value, nameFree, valueFree⟩ :: pairs, rest, ?_, open_⟩
          simp [OptionText.raw, stringToVectorNullTerminated]
        · exact ⟨[], _, rfl, Or.inr (.value nameFree valued)⟩
      · by_cases none_ : raw = []
        · exact ⟨[], raw, rfl, Or.inl none_⟩
        · exact ⟨[], raw, rfl, Or.inr (.name none_ named)⟩

/-! ## Which pairs are accepted -/

/-- The constructor fails exactly as the check of the value does. -/
theorem OptionText.make (pair : OptionText) :
    (∃ valid : pair.checked = .ok (),
        TftpOption.make pair.lowered (pair.value.map toLower) =
          .ok (pair.option valid)) ∨
      ∃ exception, pair.checked = .error exception ∧
        TftpOption.make pair.lowered (pair.value.map toLower) =
          .error exception := by
  have same : pair.lowered.map toLower = pair.lowered :=
    map_toLower_toLower pair.name
  have check :
      (OptionName.ofName (pair.lowered.map toLower)).validate
          (pair.value.map toLower) =
        pair.checked := by
    rw [same]
    rfl
  by_cases checked : pair.checked = .ok ()
  · refine Or.inl ⟨checked, ?_⟩
    rw [TftpOption.make_of_valid (check.trans checked)]
    have lowered : ∀ name (valid : (OptionName.ofName name).validate
        (pair.value.map toLower) = .ok ()), name = pair.lowered →
          (⟨.ofName name, name, pair.value.map toLower, valid⟩ :
            TftpOption) = pair.option checked := by
      rintro name valid rfl
      rfl
    rw [lowered _ _ same]
  · obtain ⟨exception, invalid⟩ :
        ∃ exception, pair.checked = .error exception := by
      cases result : pair.checked with
      | ok => exact absurd result checked
      | error exception => exact ⟨exception, rfl⟩
    refine Or.inr ⟨exception, invalid, ?_⟩
    unfold TftpOption.make
    dsimp only
    split
    · rename_i valid
      rw [check, invalid] at valid
      cases valid
    · rename_i thrown failed
      rw [check, invalid] at failed
      rw [Except.error.inj failed]

/-- What adding one pair does. -/
theorem addOption_pair (pair : OptionText) (parsed : List TftpOption) :
    (∃ valid : pair.checked = .ok (),
        pair.optionName ∉ parsed.map TftpOption.name ∧
          addOption pair.lowered (pair.value.map toLower) parsed =
            .ok (parsed ++ [pair.option valid])) ∨
      (pair.checked = .ok () ∧
        pair.optionName ∈ parsed.map TftpOption.name ∧
          ∃ exception,
            addOption pair.lowered (pair.value.map toLower) parsed =
                .error exception ∧ exception.IsIllegal) ∨
        ∃ exception, pair.checked = .error exception ∧
          addOption pair.lowered (pair.value.map toLower) parsed =
            .error exception := by
  unfold addOption
  rcases pair.make with ⟨valid, made⟩ | ⟨exception, invalid, made⟩
  · by_cases taken : pair.optionName ∈ parsed.map TftpOption.name
    · have any : (parsed.any fun earlier =>
          earlier.name = (pair.option valid).name) = true := by
        rw [List.any_eq_true]
        obtain ⟨earlier, member, same⟩ := List.mem_map.mp taken
        exact ⟨earlier, member, decide_eq_true same⟩
      refine Or.inr (Or.inl ⟨valid, taken, ?_⟩)
      simp only [made, bind, Except.bind, any, if_true, throw, throwThe,
        MonadExceptOf.throw]
      exact ⟨_, rfl, isIllegal_illegalOperation _⟩
    · refine Or.inl ⟨valid, taken, ?_⟩
      have none_ : (parsed.any fun earlier =>
          earlier.name = (pair.option valid).name) = false := by
        rw [List.any_eq_false]
        intro earlier member same
        exact
          taken (List.mem_map.mpr ⟨earlier, member, of_decide_eq_true same⟩)
      simp only [made, bind, Except.bind, none_, Bool.false_eq_true,
        if_false, pure, Except.pure]
  · refine Or.inr (Or.inr ⟨exception, invalid, ?_⟩)
    rw [made]
    rfl

/-- Pairs with valid values, and what they stand for. -/
def optionsOf (pairs : List OptionText)
    (valid : ∀ pair ∈ pairs, pair.checked = .ok ()) : List TftpOption :=
  pairs.pmap OptionText.option valid

@[simp]
theorem map_name_optionsOf
    {pairs : List OptionText}
    (valid : ∀ pair ∈ pairs, pair.checked = .ok ()) :
    (optionsOf pairs valid).map TftpOption.name =
      pairs.map OptionText.optionName := by
  rw [optionsOf, List.map_pmap]
  exact List.pmap_eq_map _

theorem addPairs_cons
    (pair : OptionText) (pairs : List OptionText)
    (parsed : List TftpOption) :
    addPairs parsed (pair :: pairs) =
      (addOption pair.lowered (pair.value.map toLower) parsed).bind
        fun next => addPairs next pairs :=
  List.foldlM_cons

/-- All pairs are added if the values are valid and no option comes twice. -/
theorem addPairs_of_nodup
    {pairs : List OptionText} {parsed : List TftpOption}
    (valid : ∀ pair ∈ pairs, pair.checked = .ok ())
    (distinct :
      (parsed.map TftpOption.name ++
        pairs.map OptionText.optionName).Nodup) :
    addPairs parsed pairs = .ok (parsed ++ optionsOf pairs valid) := by
  induction pairs generalizing parsed with
  | nil => simp [addPairs, optionsOf, pure, Except.pure]
  | cons pair pairs induction =>
      have here := valid pair List.mem_cons_self
      rw [addPairs_cons]
      rcases addOption_pair pair parsed with
        ⟨_, _, added⟩ | ⟨_, taken, _⟩ | ⟨_, invalid, _⟩
      · have further :
            ((parsed ++ [pair.option here]).map TftpOption.name ++
              pairs.map OptionText.optionName).Nodup := by
          simpa [OptionText.option] using distinct
        rw [added]
        show addPairs (parsed ++ [pair.option here]) pairs = _
        rw [induction
          (fun other member => valid other (List.mem_cons_of_mem _ member))
          further]
        simp [optionsOf]
      · rw [List.nodup_append] at distinct
        exact
          absurd rfl
            (distinct.2.2 _ taken _ (by simp))
      · rw [here] at invalid
        cases invalid

/-- Nothing else is added. -/
theorem nodup_of_addPairs
    {pairs : List OptionText} {parsed options : List TftpOption}
    (added : addPairs parsed pairs = .ok options)
    (distinct : (parsed.map TftpOption.name).Nodup) :
    (∀ pair ∈ pairs, pair.checked = .ok ()) ∧
      (parsed.map TftpOption.name ++
        pairs.map OptionText.optionName).Nodup := by
  induction pairs generalizing parsed with
  | nil => simpa using distinct
  | cons pair pairs induction =>
      rw [addPairs_cons] at added
      rcases addOption_pair pair parsed with
        ⟨valid, free, first⟩ | ⟨_, _, _, first, _⟩ | ⟨_, _, first⟩
      · rw [first] at added
        have longer : ((parsed ++ [pair.option valid]).map
            TftpOption.name).Nodup := by
          rw [List.map_append, List.nodup_append]
          refine ⟨distinct, by simp, ?_⟩
          intro name member other last
          obtain rfl : other = pair.optionName := by
            simpa [OptionText.option] using last
          rintro rfl
          exact free member
        obtain ⟨rest, names⟩ := induction added longer
        refine ⟨?_, by simpa [OptionText.option] using names⟩
        intro other member
        rcases List.mem_cons.mp member with rfl | later
        · exact valid
        · exact rest other later
      · rw [first] at added
        cases added
      · rw [first] at added
        cases added

/-- A number out of range is found behind pairs which can be added. -/
theorem addPairs_eq_range_iff
    {pairs : List OptionText} {parsed : List TftpOption} :
    addPairs parsed pairs = .error .stdOutOfRange ↔
      ∃ before bad after options, pairs = before ++ bad :: after ∧
        addPairs parsed before = .ok options ∧
          bad.checked = .error .stdOutOfRange := by
  have added (pair : OptionText) (options : List TftpOption) :
      addOption pair.lowered (pair.value.map toLower) options =
          .error .stdOutOfRange ↔
        pair.checked = .error .stdOutOfRange := by
    rcases addOption_pair pair options with
      ⟨valid, _, result⟩ | ⟨valid, _, _, result, operation, rfl⟩ |
        ⟨exception, invalid, result⟩
    · rw [result, valid]
      exact iff_of_false (fun same => by cases same) (fun same => by cases same)
    · rw [result, valid]
      exact iff_of_false (fun same => by cases same) (fun same => by cases same)
    · rw [result, invalid]
      constructor
      · intro same
        cases same
        rfl
      · intro same
        cases same
        rfl
  unfold addPairs
  rw [Library.GuardedFolds.foldlM_eq_error_iff]
  simp only [added]

/-! ## Requests -/

/-- The opcode, the path and the mode of a request. -/
structure RequestHead where
  opcode : Opcode
  isRequest : opcode = .RRQ ∨ opcode = .WRQ
  filepath : Bytes
  pathFree : nul ∉ filepath
  modeText : Bytes
  mode : Mode
  isMode : modeText.map toLower = mode.toBytes

namespace RequestHead

def raw (head : RequestHead) : Bytes :=
  [0, head.opcode.toByte] ++ stringToVectorNullTerminated head.filepath ++
    stringToVectorNullTerminated head.modeText

theorem parseMode (head : RequestHead) :
    parseMode head.modeText = .ok head.mode := by
  unfold Wire.parseMode
  rw [head.isMode]
  cases head.mode with
  | NETASCII => rfl
  | OCTET => rfl

theorem modeFree (head : RequestHead) : nul ∉ head.modeText := by
  intro member
  have lowered : nul ∈ head.modeText.map toLower :=
    List.mem_map.mpr ⟨nul, member, rfl⟩
  rw [head.isMode] at lowered
  exact (parseMode_toBytes head.mode).1 lowered

/-- Behind a head the constructor reads options. -/
theorem ofRaw (head : RequestHead) {options : Bytes}
    (short : (head.raw ++ options).length ≤ maxRequestLength) :
    ReadWritePacket.ofRaw (head.raw ++ options) =
      (rethrowInvalidValue (ReadWritePacket.parseOptions options)).map
        fun parsed => ⟨head.opcode, head.filepath, head.mode, parsed⟩ :=
  ReadWritePacket.ofRaw_head head.isRequest head.pathFree head.modeFree
    head.parseMode short

end RequestHead

theorem splitAtNul_eq_some
    {raw first rest : Bytes} (split_ : splitAtNul raw = some (first, rest)) :
    raw = first ++ nul :: rest ∧ nul ∉ first := by
  by_cases member : nul ∈ raw
  · obtain ⟨before, after, rfl, free⟩ := List.eq_append_cons_of_mem member
    rw [splitAtNul_append free] at split_
    cases split_
    exact ⟨rfl, free⟩
  · have none_ : raw.dropWhile (fun byte => decide (byte ≠ nul)) = [] := by
      rw [List.dropWhile_eq_nil_iff]
      intro byte inside
      refine decide_eq_true ?_
      rintro rfl
      exact member inside
    rw [splitAtNul, none_] at split_
    cases split_

theorem parseMode_eq_ok
    {modeText : Bytes} {mode : Mode}
    (parsed : parseMode modeText = .ok mode) :
    modeText.map toLower = mode.toBytes := by
  unfold parseMode at parsed
  dsimp only at parsed
  split_ifs at parsed with netascii octet
  · cases parsed
    exact netascii
  · cases parsed
    exact octet

theorem getOpcodeFromRaw_eq_ok
    {raw : Bytes} {opcode : Opcode}
    (known : getOpcodeFromRaw raw = .ok opcode) :
    ∃ rest, raw = [0, opcode.toByte] ++ rest := by
  unfold getOpcodeFromRaw at known
  split at known
  · rename_i first second rest
    obtain ⟨rfl, rfl⟩ := parseOpcode_eq_ok known
    exact ⟨rest, rfl⟩
  · cases known

/-- What does not begin with a head is refused as an illegal operation. -/
theorem ReadWritePacket.ofRaw_cases
    {raw : Bytes} (short : raw.length ≤ maxRequestLength) :
    (∃ exception, ReadWritePacket.ofRaw raw = .error exception ∧
        exception.IsIllegal) ∨
      ∃ (head : RequestHead) (options : Bytes),
        raw = head.raw ++ options := by
  unfold ReadWritePacket.ofRaw
  rw [List.take_of_length_le short]
  cases known : getOpcodeFromRaw raw with
  | error exception =>
      exact Or.inl ⟨exception, rfl, getOpcodeFromRaw_error known⟩
  | ok opcode =>
      obtain ⟨rest, rfl⟩ := getOpcodeFromRaw_eq_ok known
      simp only [bind, Except.bind, pure, Except.pure, throw, throwThe,
        MonadExceptOf.throw, List.cons_append, List.nil_append,
        List.drop_succ_cons, List.drop_zero]
      split
      · exact Or.inl ⟨_, rfl, isIllegal_illegalOperation _⟩
      · rename_i request
        split
        · exact Or.inl ⟨_, rfl, isIllegal_illegalOperation _⟩
        · split
          · exact Or.inl ⟨_, rfl, isIllegal_illegalOperation _⟩
          · rename_i filepath afterFilepath path
            split
            · exact Or.inl ⟨_, rfl, isIllegal_illegalOperation _⟩
            · rename_i modeText afterMode modeSplit
              cases isMode : parseMode modeText with
              | error exception =>
                  exact Or.inl ⟨exception, rfl, parseMode_error isMode⟩
              | ok mode =>
                  right
                  obtain ⟨rfl, pathFree⟩ := splitAtNul_eq_some path
                  obtain ⟨rfl, _⟩ := splitAtNul_eq_some modeSplit
                  have isRequest : opcode = .RRQ ∨ opcode = .WRQ := by
                    by_contra other
                    exact request (not_or.mp other)
                  refine
                    ⟨⟨opcode, isRequest, filepath, pathFree, modeText, mode,
                      parseMode_eq_ok isMode⟩, afterMode, ?_⟩
                  simp [RequestHead.raw, stringToVectorNullTerminated]

/-- A request as the grammar describes it. -/
structure RequestText extends RequestHead where
  pairs : List OptionText
  valid : ∀ pair ∈ pairs, pair.checked = .ok ()
  distinct : (pairs.map OptionText.lowered).Nodup

namespace RequestText

def raw (request : RequestText) : Bytes :=
  request.toRequestHead.raw ++ OptionText.rawOf request.pairs

/-- What a request means; names and values are read in lower case. -/
def packet (request : RequestText) : ReadWritePacket :=
  ⟨request.opcode, request.filepath, request.mode,
    optionsOf request.pairs request.valid⟩

/-- How many options the server does not know. -/
def unsupported (request : RequestText) : Nat :=
  request.pairs.countP fun pair => pair.optionName = .UNSUPPORTED

end RequestText

/-- The constructor accepts what the grammar describes and nothing else. -/
structure ParsesByGrammar (raw : Bytes) : Prop where
  accepts : ∀ request : RequestText, raw = request.raw →
    ReadWritePacket.ofRaw raw = .ok request.packet
  means : ∀ packet, ReadWritePacket.ofRaw raw = .ok packet →
    ∃ request : RequestText, raw = request.raw ∧ packet = request.packet
  rejects : ∀ exception, ReadWritePacket.ofRaw raw = .error exception →
    ∃ tftp, exception = .tftp tftp

/--
Behind a head and pairs which are accepted there is a value whose number does
not fit into the type it is converted to.
-/
def HasHugeNumber (raw : Bytes) : Prop :=
  ∃ (head : RequestHead) (before : List OptionText) (huge : OptionText)
    (rest : Bytes),
    raw = head.raw ++ (OptionText.rawOf before ++ (huge.raw ++ rest)) ∧
      (∀ pair ∈ before, pair.checked = .ok ()) ∧
        (before.map OptionText.optionName).Nodup ∧
          huge.checked = .error .stdOutOfRange

/-! ## What the constructor accepts -/

theorem parseOptions_rawOf (pairs : List OptionText) (rest : Bytes) :
    ReadWritePacket.parseOptions (OptionText.rawOf pairs ++ rest) =
      (addPairs [] pairs).bind fun next =>
        parseOptionsFrom (fun _ _ => .ok ()) rest (.readingName []) next :=
  parseOptionsFrom_rawOf pairs rest []

/-- Pairs alone are read completely. -/
theorem parseOptions_rawOf_nil (pairs : List OptionText) :
    ReadWritePacket.parseOptions (OptionText.rawOf pairs) =
      addPairs [] pairs := by
  have parsed := parseOptions_rawOf pairs []
  rw [List.append_nil] at parsed
  rw [parsed]
  cases addPairs [] pairs <;> rfl

/-- Bytes which are not pairs are refused. -/
theorem parseOptions_cases (options : Bytes) :
    (∃ pairs, options = OptionText.rawOf pairs) ∨
      ∃ pairs rest, options = OptionText.rawOf pairs ++ rest ∧
        ∀ parsed, ∃ exception,
          parseOptionsFrom (fun _ _ => .ok ()) rest (.readingName [])
              parsed = .error exception ∧ exception.IsIllegal := by
  obtain ⟨pairs, rest, rfl, rfl | open_⟩ := exists_pairs options
  · exact Or.inl ⟨pairs, by simp⟩
  · refine Or.inr ⟨pairs, rest, rfl, fun parsed => ?_⟩
    obtain ⟨operation, refused⟩ := open_.refused parsed
    exact ⟨_, refused _, isIllegal_illegalOperation operation⟩

/-- An accepted request is one of the grammar. -/
theorem ReadWritePacket.means_of_ofRaw
    {raw : Bytes} (short : raw.length ≤ maxRequestLength)
    {packet : ReadWritePacket}
    (accepted : ReadWritePacket.ofRaw raw = .ok packet) :
    ∃ request : RequestText, raw = request.raw ∧
      packet = request.packet ∧
        (request.pairs.map OptionText.optionName).Nodup := by
  rcases ofRaw_cases short with
    ⟨exception, refused, _⟩ | ⟨head, options, rfl⟩
  · rw [refused] at accepted
    cases accepted
  · rw [head.ofRaw short] at accepted
    rcases parseOptions_cases options with
      ⟨pairs, rfl⟩ | ⟨pairs, rest, rfl, refused⟩
    · rw [parseOptions_rawOf_nil] at accepted
      cases added : addPairs [] pairs with
      | error exception =>
          rw [added] at accepted
          cases exception <;> cases accepted
      | ok parsed =>
          obtain ⟨valid, names⟩ := nodup_of_addPairs added List.nodup_nil
          have names : (pairs.map OptionText.optionName).Nodup := names
          have distinct : (pairs.map OptionText.lowered).Nodup := by
            refine List.Nodup.of_map OptionName.ofName ?_
            rw [List.map_map]
            exact names
          have same :
              addPairs [] pairs = .ok ([] ++ optionsOf pairs valid) :=
            addPairs_of_nodup valid names
          rw [same] at accepted
          cases accepted
          exact
            ⟨⟨head, pairs, valid, distinct⟩, rfl, rfl, names⟩
    · rw [parseOptions_rawOf] at accepted
      cases added : addPairs [] pairs with
      | error exception =>
          rw [added] at accepted
          cases exception <;> cases accepted
      | ok parsed =>
          obtain ⟨_, thrown, operation, rfl⟩ := refused parsed
          rw [added] at accepted
          simp only [Except.bind, thrown] at accepted
          cases accepted

theorem rethrowInvalidValue_eq_range_iff
    {result : Except Exception (List TftpOption)}
    {packet : List TftpOption → ReadWritePacket} :
    (rethrowInvalidValue result).map packet = .error .stdOutOfRange ↔
      result = .error .stdOutOfRange := by
  cases result with
  | ok options =>
      exact iff_of_false (fun same => by cases same) (fun same => by cases same)
  | error exception =>
      constructor
      · intro same
        cases exception <;> cases same
        rfl
      · intro same
        cases same
        rfl

/-- `std::out_of_range` escapes exactly at a huge number. -/
theorem ReadWritePacket.ofRaw_eq_range_iff
    {raw : Bytes} (short : raw.length ≤ maxRequestLength) :
    ReadWritePacket.ofRaw raw = .error .stdOutOfRange ↔
      HasHugeNumber raw := by
  constructor
  · intro failed
    rcases ofRaw_cases short with
      ⟨exception, refused, operation, rfl⟩ | ⟨head, options, rfl⟩
    · rw [refused] at failed
      cases failed
    · rw [head.ofRaw short, rethrowInvalidValue_eq_range_iff] at failed
      obtain ⟨pairs, rest, rfl, none_⟩ :
          ∃ pairs rest, options = OptionText.rawOf pairs ++ rest ∧
            addPairs [] pairs = .error .stdOutOfRange := by
        rcases parseOptions_cases options with
          ⟨pairs, rfl⟩ | ⟨pairs, rest, rfl, refused⟩
        · rw [parseOptions_rawOf_nil] at failed
          exact ⟨pairs, [], by simp, failed⟩
        · rw [parseOptions_rawOf] at failed
          refine ⟨pairs, rest, rfl, ?_⟩
          cases added : addPairs [] pairs with
          | error exception =>
              rw [added] at failed
              exact congrArg _ (Except.error.inj failed)
          | ok parsed =>
              obtain ⟨_, thrown, operation, rfl⟩ := refused parsed
              rw [added] at failed
              simp only [Except.bind, thrown] at failed
              cases failed
      obtain ⟨before, huge, after, earlier, rfl, added, range⟩ :=
        addPairs_eq_range_iff.mp none_
      obtain ⟨valid, names⟩ := nodup_of_addPairs added List.nodup_nil
      refine ⟨head, before, huge, OptionText.rawOf after ++ rest, ?_, valid,
        names, range⟩
      simp [OptionText.rawOf_append]
  · rintro ⟨head, before, huge, rest, rfl, valid, names, range⟩
    have added : addPairs [] before = .ok ([] ++ optionsOf before valid) :=
      addPairs_of_nodup valid names
    have failed : addPairs [] (before ++ [huge]) = .error .stdOutOfRange :=
      addPairs_eq_range_iff.mpr
        ⟨before, huge, [], _, rfl, added, range⟩
    rw [head.ofRaw short, rethrowInvalidValue_eq_range_iff]
    have parts : OptionText.rawOf before ++ (huge.raw ++ rest) =
        OptionText.rawOf (before ++ [huge]) ++ rest := by
      simp [OptionText.rawOf_append]
    rw [parts, parseOptions_rawOf, failed]
    rfl

/-- Every other exception is one of TFTP. -/
theorem ReadWritePacket.ofRaw_error_cases
    {raw : Bytes} {exception : Exception}
    (refused : ReadWritePacket.ofRaw raw = .error exception) :
    exception = .stdOutOfRange ∨ ∃ tftp, exception = .tftp tftp := by
  cases ReadWritePacket.ofRaw_error refused with
  | illegal operation => exact Or.inr ⟨_, rfl⟩
  | negotiation => exact Or.inr ⟨_, rfl⟩
  | range => exact Or.inl rfl

/-- A name which is known has one spelling. -/
theorem OptionName.ofName_injective
    {first second : Bytes}
    (supported : OptionName.ofName first ≠ .UNSUPPORTED)
    (same : OptionName.ofName first = OptionName.ofName second) :
    first = second := by
  have other := supported
  rw [same] at other
  rcases OptionName.ofName_supported supported with rfl | rfl | rfl
  · rcases OptionName.ofName_supported other with rfl | rfl | rfl
    · rfl
    · exact absurd same (by decide)
    · exact absurd same (by decide)
  · rcases OptionName.ofName_supported other with rfl | rfl | rfl
    · exact absurd same (by decide)
    · rfl
    · exact absurd same (by decide)
  · rcases OptionName.ofName_supported other with rfl | rfl | rfl
    · exact absurd same (by decide)
    · exact absurd same (by decide)
    · rfl

/-- Among different names the option comes twice if two are not known. -/
theorem nodup_optionName_iff
    {pairs : List OptionText}
    (distinct : (pairs.map OptionText.lowered).Nodup) :
    (pairs.map OptionText.optionName).Nodup ↔
      pairs.countP (fun pair => pair.optionName = .UNSUPPORTED) ≤ 1 := by
  induction pairs with
  | nil => simp
  | cons pair pairs induction =>
      rw [List.map_cons, List.nodup_cons] at distinct
      obtain ⟨alone, rest⟩ := distinct
      rw [List.map_cons, List.nodup_cons, List.countP_cons,
        induction rest]
      by_cases unknown : pair.optionName = .UNSUPPORTED
      · have free : pair.optionName ∉ pairs.map OptionText.optionName ↔
            pairs.countP (fun pair => pair.optionName = .UNSUPPORTED) =
              0 := by
          rw [List.countP_eq_zero, unknown]
          simp [eq_comm]
        rw [free]
        simp only [unknown, decide_true, if_true]
        omega
      · have free : pair.optionName ∉ pairs.map OptionText.optionName := by
          intro member
          obtain ⟨other, inside, same⟩ := List.mem_map.mp member
          have spelled := OptionName.ofName_injective unknown same.symm
          exact alone (List.mem_map.mpr ⟨other, inside, spelled.symm⟩)
        simp [free, unknown]

/-- A request which is accepted has at most one unknown option. -/
theorem RequestText.unsupported_le_one (request : RequestText)
    (short : request.raw.length ≤ maxRequestLength)
    {packet : ReadWritePacket}
    (accepted : ReadWritePacket.ofRaw request.raw = .ok packet) :
    request.unsupported ≤ 1 := by
  rw [RequestText.raw, request.toRequestHead.ofRaw short,
    parseOptions_rawOf_nil] at accepted
  cases added : addPairs [] request.pairs with
  | error exception =>
      rw [added] at accepted
      cases exception <;> cases accepted
  | ok parsed =>
      have names := (nodup_of_addPairs added List.nodup_nil).2
      exact (nodup_optionName_iff request.distinct).mp names

/--
The constructor follows the grammar exactly if the request has no two options
which the server does not know, and no number which does not fit into its type.
-/
theorem parses_by_grammar_iff
    (raw : Bytes) (short : raw.length ≤ maxRequestLength) :
    ParsesByGrammar raw ↔
      (∀ request : RequestText, raw = request.raw →
          request.unsupported ≤ 1) ∧
        ¬ HasHugeNumber raw := by
  constructor
  · intro parses
    constructor
    · rintro request rfl
      exact request.unsupported_le_one short (parses.accepts request rfl)
    · intro huge
      have failed := (ReadWritePacket.ofRaw_eq_range_iff short).mpr huge
      obtain ⟨tftp, same⟩ := parses.rejects _ failed
      cases same
  · rintro ⟨few, noHuge⟩
    constructor
    · rintro request rfl
      have names := (nodup_optionName_iff request.distinct).mpr
        (few request rfl)
      have added : addPairs [] request.pairs =
          .ok ([] ++ optionsOf request.pairs request.valid) :=
        addPairs_of_nodup request.valid names
      rw [RequestText.raw, request.toRequestHead.ofRaw short,
        parseOptions_rawOf_nil, added]
      rfl
    · intro packet accepted
      obtain ⟨request, same, means, _⟩ :=
        ReadWritePacket.means_of_ofRaw short accepted
      exact ⟨request, same, means⟩
    · intro exception refused
      rcases ReadWritePacket.ofRaw_error_cases refused with rfl | tftp
      · exact
          absurd ((ReadWritePacket.ofRaw_eq_range_iff short).mp refused)
            noHuge
      · exact tftp

/-! ## Small requests -/

/-- A request to read `f`, and the options of another server behind it. -/
def plainRequest : RequestText where
  opcode := .RRQ
  isRequest := Or.inl rfl
  filepath := text "f"
  pathFree := by decide
  modeText := text "Octet"
  mode := .OCTET
  isMode := by decide
  pairs := [⟨text "rollover", text "1", by decide, by decide⟩]
  valid := by
    intro pair member
    obtain rfl := List.mem_singleton.mp member
    rfl
  distinct := List.nodup_singleton _

/-- A request with one option which is not known is read by the grammar. -/
theorem parses_by_grammar_small : ParsesByGrammar plainRequest.raw := by
  have short : plainRequest.raw.length ≤ maxRequestLength := by
    decide
  have accepted :
      ReadWritePacket.ofRaw plainRequest.raw =
        .ok ⟨.RRQ, text "f", .OCTET,
          [⟨.UNSUPPORTED, text "rollover", text "1", rfl⟩]⟩ := by
    decide
  apply (parses_by_grammar_iff plainRequest.raw short).mpr
  constructor
  · intro request same
    rw [same] at short accepted
    exact request.unsupported_le_one short accepted
  · intro huge
    have failed := (ReadWritePacket.ofRaw_eq_range_iff short).mpr huge
    cases accepted.symm.trans failed

/-- The same request with one more such option. -/
def twoUnknownOptions : RequestText where
  toRequestHead := plainRequest.toRequestHead
  pairs :=
    [⟨text "rollover", text "1", by decide, by decide⟩,
      ⟨text "windowsize", text "4", by decide, by decide⟩]
  valid := by
    intro pair member
    simp only [List.mem_cons, List.not_mem_nil, or_false] at member
    rcases member with rfl | rfl
    · rfl
    · rfl
  distinct := by decide

/-- A block size which does not fit into an `int`. -/
def hugeBlockSize : Bytes :=
  plainRequest.toRequestHead.raw ++ text "blksize" ++ [nul] ++
    text "4294967296" ++ [nul]

/--
Two different options which the server does not know are taken for duplicates,
and a number which is too large ends the constructor by `std::out_of_range`.
-/
theorem grammar_is_not_followed :
    twoUnknownOptions.raw.length ≤ maxRequestLength ∧
      ReadWritePacket.ofRaw twoUnknownOptions.raw =
          .error
            (illegalOperation
              (text
                "TFTP Illegal Operation: duplicate option name windowsize")) ∧
        ¬ ParsesByGrammar twoUnknownOptions.raw ∧
          ReadWritePacket.ofRaw hugeBlockSize = .error .stdOutOfRange ∧
            ¬ ParsesByGrammar hugeBlockSize := by
  have refused :
      ReadWritePacket.ofRaw twoUnknownOptions.raw =
        .error
          (illegalOperation
            (text
              "TFTP Illegal Operation: duplicate option name windowsize")) := by
    decide +kernel
  have escaped :
      ReadWritePacket.ofRaw hugeBlockSize = .error .stdOutOfRange := by
    decide +kernel
  refine ⟨by decide, refused, ?_, escaped, ?_⟩
  · intro parses
    have accepted := parses.accepts twoUnknownOptions rfl
    rw [refused] at accepted
    cases accepted
  · intro parses
    obtain ⟨tftp, same⟩ := parses.rejects _ escaped
    cases same

end IsaTftp.Wire
