import Mathlib.Data.List.TakeWhile
import IsaTftp.Wire.Requests

/-!
# Round trips of requests and OACKs

What `MakeRaw` encodes the constructors from raw bytes decode again, if the
option values are not changed by lowering and hold no NUL, and if the request
is not cut.
-/

namespace IsaTftp.Wire

/-- Bytes which can stand before a NUL, and which lowering does not change. -/
structure Plain (bytes : Bytes) : Prop where
  nulFree : nul ∉ bytes
  lowered : bytes.map toLower = bytes

/-! ## One option -/

theorem TftpOption.make_of_valid
    {name value : Bytes}
    (valid :
      (OptionName.ofName (name.map toLower)).validate value = .ok ()) :
    TftpOption.make name value =
      .ok ⟨.ofName (name.map toLower), name.map toLower, value, valid⟩ := by
  unfold TftpOption.make
  dsimp only
  split
  · rfl
  · rename_i exception invalid
    rw [valid] at invalid
    cases invalid

/-- What the constructor makes of a name and a value. -/
theorem TftpOption.of_make
    {name value : Bytes} {option : TftpOption}
    (made : TftpOption.make name value = .ok option) :
    option.name = .ofName (name.map toLower) ∧
      option.nameStr = name.map toLower ∧ option.value = value := by
  unfold TftpOption.make at made
  dsimp only at made
  split at made
  · cases made
    exact ⟨rfl, rfl, rfl⟩
  · cases made

/-- An option which a packet can carry unchanged. -/
structure TftpOption.Encodable (option : TftpOption) : Prop where
  constructed : ∃ given, TftpOption.make given option.value = .ok option
  supported : option.name ≠ .UNSUPPORTED
  nonempty : option.value ≠ []
  plain : Plain option.value

/-- The only texts which name a supported option. -/
theorem OptionName.ofName_supported
    {name : Bytes} (supported : OptionName.ofName name ≠ .UNSUPPORTED) :
    name = text "blksize" ∨ name = text "timeout" ∨
      name = text "tsize" := by
  unfold OptionName.ofName at supported
  split_ifs at supported with blksize timeout tsize
  · exact Or.inl blksize
  · exact Or.inr (Or.inl timeout)
  · exact Or.inr (Or.inr tsize)
  · exact absurd rfl supported

namespace TftpOption.Encodable

variable {option : TftpOption}

theorem name_eq (encodable : option.Encodable) :
    option.name = .ofName option.nameStr := by
  obtain ⟨given, made⟩ := encodable.constructed
  obtain ⟨name, nameStr, _⟩ := TftpOption.of_make made
  rw [name, nameStr]

theorem nameStr_cases (encodable : option.Encodable) :
    option.nameStr = text "blksize" ∨ option.nameStr = text "timeout" ∨
      option.nameStr = text "tsize" := by
  apply OptionName.ofName_supported
  rw [← encodable.name_eq]
  exact encodable.supported

theorem plain_nameStr (encodable : option.Encodable) :
    Plain option.nameStr := by
  rcases encodable.nameStr_cases with blksize | timeout | tsize
  · rw [blksize]
    exact ⟨by decide, by decide⟩
  · rw [timeout]
    exact ⟨by decide, by decide⟩
  · rw [tsize]
    exact ⟨by decide, by decide⟩

theorem makeRaw (encodable : option.Encodable) :
    option.makeRaw =
      .ok
        (stringToVectorNullTerminated option.nameStr ++
          stringToVectorNullTerminated option.value) := by
  have name := encodable.name_eq
  unfold TftpOption.makeRaw
  rcases encodable.nameStr_cases with blksize | timeout | tsize
  · rw [name, blksize]
    rfl
  · rw [name, timeout]
    rfl
  · rw [name, tsize]
    rfl

/-- Constructing the option from its own texts gives it back. -/
theorem make (encodable : option.Encodable) :
    TftpOption.make option.nameStr option.value = .ok option := by
  have lowered := encodable.plain_nameStr.lowered
  have name := encodable.name_eq
  have valid :
      (OptionName.ofName (option.nameStr.map toLower)).validate
          option.value =
        .ok () := by
    rw [lowered, ← name]
    exact option.valid
  rw [TftpOption.make_of_valid valid]
  obtain ⟨optionName, nameStr, value, _⟩ := option
  dsimp only at lowered name ⊢
  simp only [Except.ok.injEq, TftpOption.mk.injEq, and_true]
  rw [lowered]
  exact ⟨name.symm, rfl⟩

end TftpOption.Encodable

/-! ## A list of options -/

section Scan

variable {checkValue : Bytes → Bytes → Except Exception Unit}

/-- The loop reads a name up to its NUL. -/
theorem parseOptionsFrom_name
    {name : Bytes} (nulFree : nul ∉ name) (rest read : Bytes)
    (parsed : List TftpOption) :
    parseOptionsFrom checkValue (name ++ nul :: rest) (.readingName read)
        parsed =
      parseOptionsFrom checkValue rest
        (.readingValue (read ++ name.map toLower) []) parsed := by
  induction name generalizing read with
  | nil => simp [parseOptionsFrom]
  | cons byte name induction =>
      simp only [List.mem_cons, not_or] at nulFree
      simp only [List.cons_append, parseOptionsFrom,
        if_neg (Ne.symm nulFree.1)]
      rw [induction nulFree.2]
      simp

/-- The loop reads a value up to its NUL, checks it and adds the option. -/
theorem parseOptionsFrom_value
    {value : Bytes} (nulFree : nul ∉ value) (name read rest : Bytes)
    (parsed : List TftpOption) :
    parseOptionsFrom checkValue (value ++ nul :: rest)
        (.readingValue name read) parsed =
      ((checkValue name (read ++ value.map toLower)).bind fun _ =>
          addOption name (read ++ value.map toLower) parsed).bind
        fun next =>
          parseOptionsFrom checkValue rest (.readingName []) next := by
  induction value generalizing read with
  | nil =>
      simp only [List.nil_append, List.map_nil, List.append_nil,
        parseOptionsFrom, if_true]
      cases checkValue name read with
      | error exception => rfl
      | ok =>
          simp only [Except.bind]
          cases addOption name read parsed <;> rfl
  | cons byte value induction =>
      simp only [List.mem_cons, not_or] at nulFree
      rw [List.map_cons, List.append_cons read (toLower byte)]
      simp only [List.cons_append, parseOptionsFrom,
        if_neg (Ne.symm nulFree.1)]
      exact induction nulFree.2 _

/-- An option is added if its name is not taken. -/
theorem addOption_of_absent
    {option : TftpOption} (encodable : option.Encodable)
    {parsed : List TftpOption}
    (absent : ∀ earlier ∈ parsed, earlier.name ≠ option.name) :
    addOption option.nameStr option.value parsed =
      .ok (parsed ++ [option]) := by
  have free :
      (parsed.any fun earlier => earlier.name = option.name) = false := by
    rw [List.any_eq_false]
    intro earlier member
    simpa using absent earlier member
  simp [addOption, encodable.make, bind, Except.bind, free, pure,
    Except.pure]

/-- The loop reads what `MakeRaw` has written, behind what it has read. -/
theorem parseOptionsFrom_makeRawOptions
    (accepts : ∀ name value, value ≠ [] → checkValue name value = .ok ())
    {options parsed : List TftpOption}
    (encodable : ∀ option ∈ options, option.Encodable)
    (distinct : ((parsed ++ options).map fun option => option.name).Nodup) :
    ∃ raw, makeRawOptions options = .ok raw ∧
      parseOptionsFrom checkValue raw (.readingName []) parsed =
        .ok (parsed ++ options) := by
  induction options generalizing parsed with
  | nil =>
      refine ⟨[], rfl, ?_⟩
      rw [List.append_nil]
      rfl
  | cons option options induction =>
      have here := encodable option List.mem_cons_self
      have absent : ∀ earlier ∈ parsed, earlier.name ≠ option.name := by
        intro earlier member same
        rw [List.map_append, List.nodup_append] at distinct
        exact
          distinct.2.2 _ (List.mem_map_of_mem member) _
            (List.mem_map_of_mem List.mem_cons_self) same
      have further :
          ((parsed ++ [option] ++ options).map
            fun option => option.name).Nodup := by
        rw [List.append_assoc]
        exact distinct
      obtain ⟨raw, encoded, decoded⟩ :=
        induction
          (fun other member =>
            encodable other (List.mem_cons_of_mem _ member))
          further
      refine
        ⟨stringToVectorNullTerminated option.nameStr ++
            stringToVectorNullTerminated option.value ++ raw, ?_, ?_⟩
      · simp only [makeRawOptions, here.makeRaw, encoded, bind, Except.bind,
          pure, Except.pure]
      · simp only [stringToVectorNullTerminated, List.append_assoc,
          List.cons_append, List.nil_append]
        rw [parseOptionsFrom_name here.plain_nameStr.nulFree,
          here.plain_nameStr.lowered, List.nil_append]
        have lowered := here.plain.lowered
        rw [parseOptionsFrom_value here.plain.nulFree, List.nil_append,
          lowered, accepts _ _ here.nonempty]
        simp only [Except.bind, addOption_of_absent here absent]
        rw [decoded, List.append_assoc]
        rfl

end Scan

/-! ## Packets -/

theorem splitAtNul_append
    {bytes : Bytes} (nulFree : nul ∉ bytes) (rest : Bytes) :
    splitAtNul (bytes ++ nul :: rest) = some (bytes, rest) := by
  have each : ∀ byte ∈ bytes, decide (byte ≠ nul) = true := by
    intro byte member
    refine decide_eq_true ?_
    rintro rfl
    exact nulFree member
  unfold splitAtNul
  rw [List.dropWhile_append_of_pos each, List.takeWhile_append_of_pos each]
  simp

theorem parseMode_toBytes (mode : Mode) :
    nul ∉ mode.toBytes ∧ parseMode mode.toBytes = .ok mode := by
  cases mode with
  | NETASCII => exact ⟨by decide, by rfl⟩
  | OCTET => exact ⟨by decide, by rfl⟩

/-- Behind an opcode, a path and a mode the constructor reads options. -/
theorem ReadWritePacket.ofRaw_head
    {opcode : Opcode} (isRequest : opcode = .RRQ ∨ opcode = .WRQ)
    {filepath modeText options : Bytes} (pathFree : nul ∉ filepath)
    (modeFree : nul ∉ modeText) {mode : Mode}
    (isMode : parseMode modeText = .ok mode)
    (short :
      ([0, opcode.toByte] ++ stringToVectorNullTerminated filepath ++
        stringToVectorNullTerminated modeText ++ options).length ≤
        maxRequestLength) :
    ReadWritePacket.ofRaw
        ([0, opcode.toByte] ++ stringToVectorNullTerminated filepath ++
          stringToVectorNullTerminated modeText ++ options) =
      (rethrowInvalidValue (ReadWritePacket.parseOptions options)).map
        fun parsed => ⟨opcode, filepath, mode, parsed⟩ := by
  unfold ReadWritePacket.ofRaw
  rw [List.take_of_length_le short]
  simp only [stringToVectorNullTerminated, List.append_assoc,
    List.cons_append, List.nil_append, getOpcodeFromRaw_toByte, bind,
    Except.bind, List.drop_succ_cons, List.drop_zero]
  rw [if_neg (by
    rintro ⟨notRead, notWrite⟩
    exact isRequest.elim notRead notWrite)]
  rw [if_neg (by simp only [List.length_cons, List.length_append]; omega)]
  simp only [splitAtNul_append pathFree, splitAtNul_append modeFree,
    isMode, pure, Except.pure]
  split_ifs with none_
  · rw [none_]
    rfl
  · cases rethrowInvalidValue (ReadWritePacket.parseOptions options) <;> rfl

/-- A request which is not cut is decoded to what was encoded. -/
theorem ReadWritePacket.ofRaw_makeRaw
    {packet : ReadWritePacket}
    (isRequest : packet.opcode = .RRQ ∨ packet.opcode = .WRQ)
    (nulFree : nul ∉ packet.filepath)
    (encodable : ∀ option ∈ packet.options, option.Encodable)
    (distinct : (packet.options.map fun option => option.name).Nodup) :
    ∃ raw, packet.makeRaw = .ok raw ∧
      (raw.length ≤ maxRequestLength →
        ReadWritePacket.ofRaw raw = .ok packet) := by
  obtain ⟨options, encoded, decoded⟩ :
      ∃ options, makeRawOptions packet.options = .ok options ∧
        ReadWritePacket.parseOptions options = .ok packet.options :=
    parseOptionsFrom_makeRawOptions (fun _ _ _ => rfl) encodable distinct
  obtain ⟨modeFree, isMode⟩ := parseMode_toBytes packet.mode
  refine
    ⟨[0, packet.opcode.toByte] ++
        stringToVectorNullTerminated packet.filepath ++
          stringToVectorNullTerminated packet.mode.toBytes ++ options,
      ?_, ?_⟩
  · simp only [ReadWritePacket.makeRaw, encoded, bind, Except.bind, pure,
      Except.pure]
  · intro fits
    rw [ReadWritePacket.ofRaw_head isRequest nulFree modeFree isMode fits,
      decoded]
    rfl

/-- An OACK is decoded to what was encoded. -/
theorem OackPacket.ofRaw_makeRaw
    {packet : OackPacket}
    (encodable : ∀ option ∈ packet.options, option.Encodable)
    (distinct : (packet.options.map fun option => option.name).Nodup) :
    ∃ raw, packet.makeRaw = .ok raw ∧
      OackPacket.ofRaw raw = .ok packet := by
  obtain ⟨options, encoded, decoded⟩ :
      ∃ options, makeRawOptions packet.options = .ok options ∧
        OackPacket.parseOptions options = .ok packet.options :=
    parseOptionsFrom_makeRawOptions
      (fun _ _ nonempty => if_neg nonempty) encodable distinct
  refine ⟨[0, Opcode.OACK.toByte] ++ options, ?_, ?_⟩
  · simp only [OackPacket.makeRaw, encoded, bind, Except.bind, pure,
      Except.pure]
  · simp only [OackPacket.ofRaw, bind, Except.bind, List.cons_append,
      List.nil_append, List.drop_succ_cons, List.drop_zero, decoded,
      rethrowInvalidValue]
    rfl

/-! ## Decimal numerals -/

/-- A value which consists of digits. -/
structure IsNumeral (value : Bytes) : Prop where
  nonempty : value ≠ []
  digits : ∀ byte ∈ value, isDigit byte = true

theorem IsNumeral.of_all {value : Bytes} (some_ : value ≠ [])
    (digits : value.all isDigit = true) : IsNumeral value :=
  ⟨some_, List.all_eq_true.mp digits⟩

/-- Digits are neither blanks nor signs nor letters. -/
theorem isDigit_bounds
    {byte : UInt8} (digit : isDigit byte = true) :
    48 ≤ byte.toNat ∧ byte.toNat ≤ 57 := by
  simp only [isDigit, decide_eq_true_eq] at digit
  exact ⟨UInt8.le_iff_toNat_le.mp digit.1, UInt8.le_iff_toNat_le.mp digit.2⟩

theorem toLower_digit
    {byte : UInt8} (digit : isDigit byte = true) :
    toLower byte = byte := by
  obtain ⟨_, most⟩ := isDigit_bounds digit
  unfold toLower
  rw [if_neg]
  rintro ⟨letter, _⟩
  have := UInt8.le_iff_toNat_le.mp letter
  simp only [UInt8.reduceToNat] at this
  omega

namespace IsNumeral

variable {value : Bytes}

theorem plain (numeral : IsNumeral value) : Plain value where
  nulFree := by
    intro member
    have digit := numeral.digits nul member
    revert digit
    decide
  lowered := by
    have same : value.map toLower = value.map id :=
      List.map_congr_left fun byte member =>
        toLower_digit (numeral.digits byte member)
    rw [same, List.map_id]

/-- The conversions read a numeral to its end. -/
theorem scanInteger (numeral : IsNumeral value) :
    scanInteger value = some (false, digitsValue 0 value) := by
  obtain ⟨nonempty, digits⟩ := numeral
  cases value with
  | nil => exact absurd rfl nonempty
  | cons byte rest =>
      obtain ⟨least, most⟩ := isDigit_bounds (digits byte List.mem_cons_self)
      have noSpace : isSpace byte = false := by
        simp only [isSpace, decide_eq_false_iff_not]
        rintro (rfl | ⟨_, blank⟩)
        · exact absurd least (by decide)
        · have := UInt8.le_iff_toNat_le.mp blank
          simp only [UInt8.reduceToNat] at this
          omega
      have noMinus : byte ≠ 45 := by
        rintro rfl
        exact absurd least (by decide)
      have noPlus : byte ≠ 43 := by
        rintro rfl
        exact absurd least (by decide)
      have all :
          (byte :: rest).takeWhile isDigit = byte :: rest :=
        List.takeWhile_eq_self_iff.mpr digits
      unfold Wire.scanInteger
      rw [List.dropWhile_cons_of_neg (by rw [noSpace]; exact Bool.false_ne_true)]
      simp only [splitSign, if_neg noMinus, if_neg noPlus, all]

/-- A size which is small enough is converted by `stoi` as well. -/
theorem stoi_of_stoull
    (numeral : IsNumeral value) {number : Nat}
    (converted : stoull value = .ok number) (small : number < 2 ^ 31) :
    stoi value = .ok (number : Int) := by
  simp only [stoull, numeral.scanInteger, Bool.false_eq_true,
    if_false] at converted
  split_ifs at converted with fits
  cases converted
  simp only [stoi, stoSigned, numeral.scanInteger, Bool.false_eq_true,
    if_false]
  rw [if_pos]
  constructor
  · simp only [Nat.add_one_sub_one]
    omega
  · simp only [Nat.add_one_sub_one]
    omega

end IsNumeral

end IsaTftp.Wire
