import IsaTftp.Files.Sending

/-!
# What one call of ReadFile encodes

A call takes the overflow buffer and bytes of the file.  It goes on while the
last byte is a CR or an LF, and pushes a stray byte at the end of the file.
What of the overflow buffer it did not take is overwritten.
-/

namespace IsaTftp.Files

open IsaTftp.Wire

/-! ## The extending loops -/

/-- The last byte, if there is one, is neither a CR nor an LF. -/
structure EndsPlain (raw : Bytes) : Prop where
  notCr : ¬ [cr] <:+ raw
  notLf : ¬ [lf] <:+ raw

/-- A CR or an LF, which the extending loops do not stop at. -/
def IsLineByte (byte : UInt8) : Prop :=
  byte = cr ∨ byte = lf

theorem endsInLineByte_concat (raw : Bytes) (byte : UInt8) :
    endsInLineByte (raw ++ [byte]) = true ↔ IsLineByte byte := by
  simp [endsInLineByte, IsLineByte]

theorem endsPlain_concat {raw : Bytes} {byte : UInt8}
    (plain : ¬ IsLineByte byte) : EndsPlain (raw ++ [byte]) := by
  constructor
  · rw [suffix_singleton_concat]
    exact fun same => plain (Or.inl same.symm)
  · rw [suffix_singleton_concat]
    exact fun same => plain (Or.inr same.symm)

variable {failure : Exception} {stray : UInt8}

/-- The loop stops behind a plain byte, or pushes a stray byte at the end. -/
theorem extendFromRest_cases
    {before rest buffer : Bytes} {byte : UInt8} {stream : Stream}
    (result :
      extendFromRest false failure stray (before ++ [byte]) rest =
        .ok (buffer, stream)) :
    (∃ taken left,
      rest = taken ++ left ∧ buffer = before ++ byte :: taken ∧
        stream = ⟨left, false⟩ ∧ EndsPlain buffer) ∨
      (buffer = before ++ byte :: rest ++ [stray] ∧
        stream = ⟨[], true⟩ ∧ ∀ next ∈ byte :: rest, IsLineByte next) := by
  induction rest generalizing before byte with
  | nil =>
      rw [extendFromRest] at result
      split_ifs at result with line
      · cases result
        refine Or.inr ⟨rfl, rfl, ?_⟩
        simpa using (endsInLineByte_concat before byte).mp line
      · cases result
        refine Or.inl ⟨[], [], rfl, rfl, rfl, endsPlain_concat ?_⟩
        rwa [endsInLineByte_concat] at line
  | cons next rest induction =>
      rw [extendFromRest] at result
      split_ifs at result with line
      · rcases induction result with
          ⟨taken, left, rfl, rfl, rfl, plain⟩ | ⟨rfl, rfl, lines⟩
        · refine Or.inl ⟨next :: taken, left, rfl, by simp, rfl, ?_⟩
          simpa using plain
        · refine Or.inr ⟨by simp, rfl, ?_⟩
          intro other member
          rcases List.mem_cons.mp member with rfl | later
          · exact (endsInLineByte_concat before other).mp line
          · exact lines other later
      · cases result
        refine
          Or.inl ⟨[], next :: rest, rfl, rfl, rfl, endsPlain_concat ?_⟩
        rwa [endsInLineByte_concat] at line

/-- The same on a stream of which nothing is left once its end was hit. -/
theorem extendFromStream_cases
    {before buffer : Bytes} {byte : UInt8} {stream next : Stream}
    (atEnd : stream.eof = true → stream.rest = [])
    (result :
      extendFromStream false failure stray (before ++ [byte]) stream =
        .ok (buffer, next)) :
    (∃ taken left,
      stream.rest = taken ++ left ∧ buffer = before ++ byte :: taken ∧
        next = ⟨left, stream.eof⟩ ∧ EndsPlain buffer) ∨
      (buffer = before ++ byte :: stream.rest ++ [stray] ∧
        next = ⟨[], true⟩ ∧
          ∀ other ∈ byte :: stream.rest, IsLineByte other) := by
  obtain ⟨rest, eof⟩ := stream
  cases eof with
  | false => exact extendFromRest_cases result
  | true =>
      obtain rfl : rest = [] := atEnd rfl
      rw [extendFromStream, if_pos rfl] at result
      split_ifs at result with line
      · cases result
        refine Or.inr ⟨rfl, rfl, ?_⟩
        simpa using (endsInLineByte_concat before byte).mp line
      · cases result
        refine Or.inl ⟨[], [], rfl, rfl, rfl, endsPlain_concat ?_⟩
        rwa [endsInLineByte_concat] at line

/-- With an overflow buffer the loop may stop within it. -/
theorem extendFromOverflow_cases
    {before overflow buffer left : Bytes} {byte : UInt8}
    {stream next : Stream}
    (atEnd : stream.eof = true → stream.rest = [])
    (result :
      extendFromOverflow false failure stray (before ++ [byte]) overflow
        stream = .ok (buffer, left, next)) :
    (∃ taken,
      overflow = taken ++ left ∧ buffer = before ++ byte :: taken ∧
        next = stream ∧ EndsPlain buffer) ∨
      (left = [] ∧
        ((∃ taken rest,
          stream.rest = taken ++ rest ∧ taken ≠ [] ∧
            buffer = before ++ byte :: overflow ++ taken ∧
              next = ⟨rest, stream.eof⟩ ∧ EndsPlain buffer) ∨
          (buffer = before ++ byte :: overflow ++ stream.rest ++ [stray] ∧
            next = ⟨[], true⟩ ∧
              ∀ other ∈ byte :: overflow ++ stream.rest,
                IsLineByte other))) := by
  induction overflow generalizing before byte with
  | nil =>
      rw [extendFromOverflow] at result
      split at result
      · cases result
      · rename_i extended
        cases result
        rcases extendFromStream_cases atEnd extended with
          ⟨taken, rest, parts, rfl, rfl, plain⟩ | ⟨rfl, rfl, lines⟩
        · cases taken with
          | nil =>
              obtain rfl : stream.rest = rest := parts
              exact Or.inl ⟨[], rfl, rfl, rfl, plain⟩
          | cons first taken =>
              refine Or.inr ⟨rfl, Or.inl ⟨first :: taken, rest, parts, ?_⟩⟩
              exact ⟨by simp, by simp, rfl, plain⟩
        · exact Or.inr ⟨rfl, Or.inr ⟨by simp, rfl, lines⟩⟩
  | cons other overflow induction =>
      rw [extendFromOverflow] at result
      split_ifs at result with line
      · rcases induction result with
          ⟨taken, rfl, rfl, rfl, plain⟩ |
            ⟨rfl, ⟨taken, rest, parts, some_, rfl, rfl, plain⟩ |
              ⟨rfl, rfl, lines⟩⟩
        · refine Or.inl ⟨other :: taken, rfl, by simp, rfl, ?_⟩
          simpa using plain
        · refine Or.inr ⟨rfl, Or.inl ⟨taken, rest, parts, some_, ?_⟩⟩
          exact ⟨by simp, rfl, by simpa using plain⟩
        · refine Or.inr ⟨rfl, Or.inr ⟨by simp, rfl, ?_⟩⟩
          intro next member
          rcases List.mem_cons.mp member with rfl | later
          · exact (endsInLineByte_concat before next).mp line
          · exact lines next later
      · cases result
        refine Or.inl ⟨[], rfl, rfl, rfl, endsPlain_concat ?_⟩
        rwa [endsInLineByte_concat] at line

/-! ## What the loops pass -/

/-- A loop which began behind `byte` has passed nothing but CR and LF. -/
def Passed (before : Bytes) (byte : UInt8) (buffer : Bytes) : Prop :=
  ∃ more, buffer = before ++ byte :: more ∧
    ∀ other ∈ (byte :: more).dropLast, IsLineByte other

theorem Passed.refl (before : Bytes) (byte : UInt8) :
    Passed before byte (before ++ [byte]) :=
  ⟨[], rfl, by simp⟩

/-- One byte further. -/
theorem Passed.cons
    {before buffer : Bytes} {byte next : UInt8} (line : IsLineByte byte)
    (passed : Passed (before ++ [byte]) next buffer) :
    Passed before byte buffer := by
  obtain ⟨more, rfl, lines⟩ := passed
  refine ⟨next :: more, by simp, ?_⟩
  rw [List.dropLast_cons_cons]
  exact List.forall_mem_cons.mpr ⟨line, lines⟩

theorem extendFromRest_passed
    {before rest buffer : Bytes} {byte : UInt8} {stream : Stream}
    (result :
      extendFromRest false failure stray (before ++ [byte]) rest =
        .ok (buffer, stream)) :
    Passed before byte buffer := by
  induction rest generalizing before byte with
  | nil =>
      rw [extendFromRest] at result
      split_ifs at result with line
      · cases result
        exact .cons ((endsInLineByte_concat before byte).mp line) (.refl _ _)
      · cases result
        exact .refl _ _
  | cons next rest induction =>
      rw [extendFromRest] at result
      split_ifs at result with line
      · exact
          .cons ((endsInLineByte_concat before byte).mp line)
            (induction result)
      · cases result
        exact .refl _ _

theorem extendFromStream_passed
    {before buffer : Bytes} {byte : UInt8} {stream next : Stream}
    (result :
      extendFromStream false failure stray (before ++ [byte]) stream =
        .ok (buffer, next)) :
    Passed before byte buffer := by
  unfold extendFromStream at result
  split_ifs at result with atEnd line
  · cases result
    exact .cons ((endsInLineByte_concat before byte).mp line) (.refl _ _)
  · cases result
    exact .refl _ _
  · exact extendFromRest_passed result

theorem extendFromOverflow_passed
    {before overflow buffer left : Bytes} {byte : UInt8}
    {stream next : Stream}
    (result :
      extendFromOverflow false failure stray (before ++ [byte]) overflow
        stream = .ok (buffer, left, next)) :
    Passed before byte buffer := by
  induction overflow generalizing before byte with
  | nil =>
      rw [extendFromOverflow] at result
      split at result
      · cases result
      · rename_i extended
        cases result
        exact extendFromStream_passed extended
  | cons other overflow induction =>
      rw [extendFromOverflow] at result
      split_ifs at result with line
      · exact
          .cons ((endsInLineByte_concat before byte).mp line)
            (induction result)
      · cases result
        exact .refl _ _

/-! ## The buffer of one call -/

/--
The bytes which one call encodes, what it leaves of the overflow buffer, and
the stream behind them.
-/
inductive Fill (stray : UInt8) (numBytes : Nat) :
    Bytes → Stream → Bytes → Bytes → Stream → Prop where
  /-- everything, and it is too little -/
  | short {overflow rest : Bytes} {eof : Bool}
      (few : (overflow ++ rest).length < numBytes) :
      Fill stray numBytes overflow ⟨rest, eof⟩ (overflow ++ rest) []
        ⟨[], true⟩
  /-- bytes of the file up to a plain one -/
  | stops {overflow taken rest : Bytes}
      (some_ : taken ≠ [])
      (enough : numBytes ≤ (overflow ++ taken).length)
      (plain : EndsPlain (overflow ++ taken)) :
      Fill stray numBytes overflow ⟨taken ++ rest, false⟩
        (overflow ++ taken) [] ⟨rest, false⟩
  /-- everything, and a stray byte because it ends in a CR or an LF -/
  | ends {overflow rest before line : Bytes} {eof : Bool}
      (parts : overflow ++ rest = before ++ line)
      (few : before.length < numBytes)
      (enough : numBytes ≤ (overflow ++ rest).length)
      (lines : ∀ byte ∈ line, IsLineByte byte) :
      Fill stray numBytes overflow ⟨rest, eof⟩
        (overflow ++ rest ++ [stray]) [] ⟨[], true⟩
  /-- bytes of the overflow buffer up to a plain one -/
  | cut {taken left : Bytes} {stream : Stream}
      (enough : numBytes ≤ taken.length)
      (plain : EndsPlain taken) :
      Fill stray numBytes (taken ++ left) stream taken left stream

section

variable {numBytes : Nat} {overflow : Bytes} {stream : Stream}

/-- An overflow buffer which is large enough is used alone, if it can be. -/
theorem exists_fill_of_overflow
    {buffer left : Bytes} {next : Stream}
    (least : 0 < numBytes) (large : numBytes ≤ overflow.length)
    (atEnd : stream.eof = true → stream.rest = [])
    (result :
      extendFromOverflow false failure stray (overflow.take numBytes)
        (overflow.drop numBytes) stream = .ok (buffer, left, next)) :
    Fill stray numBytes overflow stream buffer left next := by
  have length : (overflow.take numBytes).length = numBytes := by
    simp [large]
  have whole : overflow.take numBytes ++ overflow.drop numBytes = overflow :=
    List.take_append_drop numBytes overflow
  generalize overflow.take numBytes = first at *
  generalize overflow.drop numBytes = second at *
  obtain ⟨before, byte, rfl⟩ :=
    (List.eq_nil_or_concat' first).resolve_left
      (List.ne_nil_of_length_pos (by omega))
  simp only [List.length_append, List.length_cons, List.length_nil] at length
  subst whole
  rcases extendFromOverflow_cases atEnd result with
    ⟨taken, rfl, rfl, rfl, plain⟩ |
      ⟨rfl, ⟨taken, rest, parts, some_, rfl, rfl, plain⟩ | ⟨rfl, rfl, lines⟩⟩
  · have same : before ++ [byte] ++ (taken ++ left) =
        before ++ byte :: taken ++ left := by
      simp
    rw [same]
    refine .cut ?_ plain
    simp only [List.length_append, List.length_cons]
    omega
  · obtain ⟨_, eof⟩ := stream
    obtain rfl : _ = taken ++ rest := parts
    cases eof with
    | true => simp [some_] at atEnd
    | false =>
        have same : before ++ byte :: second ++ taken =
            before ++ [byte] ++ second ++ taken := by
          simp
        rw [same]
        refine .stops some_ ?_ (by simpa using plain)
        simp only [List.length_append, List.length_cons]
        omega
  · obtain ⟨rest, eof⟩ := stream
    have same : before ++ byte :: second ++ rest ++ [stray] =
        before ++ [byte] ++ second ++ rest ++ [stray] := by
      simp
    have parts : before ++ [byte] ++ second ++ rest =
        before ++ (byte :: second ++ rest) := by
      simp
    rw [same]
    refine .ends parts (by omega) ?_ lines
    simp only [List.length_append, List.length_cons]
    omega

/-- Otherwise the file follows the whole overflow buffer. -/
theorem exists_fill_of_stream
    {buffer : Bytes} {next : Stream}
    (small : overflow.length < numBytes)
    (atEnd : stream.eof = true → stream.rest = [])
    (result :
      Reader.fillBuffer false stray numBytes overflow stream =
        .ok (buffer, next)) :
    Fill stray numBytes overflow stream buffer [] next := by
  obtain ⟨rest, eof⟩ := stream
  rw [Reader.fillBuffer, if_pos small] at result
  cases eof with
  | true =>
      obtain rfl : rest = [] := atEnd rfl
      simp only [Stream.read, if_true, List.append_nil,
        Nat.ne_of_lt small, false_and, if_false] at result
      cases result
      have few : (overflow ++ []).length < numBytes := by
        simpa using small
      simpa using Fill.short few
  | false =>
      simp only [Stream.read, Bool.false_eq_true, if_false] at result
      by_cases few : rest.length < numBytes - overflow.length
      · have whole : rest.take (numBytes - overflow.length) = rest :=
          List.take_of_length_le (Nat.le_of_lt few)
        have none_ : rest.drop (numBytes - overflow.length) = [] :=
          List.drop_of_length_le (Nat.le_of_lt few)
        simp only [few, whole, none_, decide_true, Bool.true_eq_false,
          and_false, if_false] at result
        cases result
        refine .short ?_
        simp only [List.length_append]
        omega
      · have parts := List.take_append_drop (numBytes - overflow.length) rest
        have length : (rest.take (numBytes - overflow.length)).length =
            numBytes - overflow.length := by
          rw [List.length_take]
          omega
        generalize rest.take (numBytes - overflow.length) = first at *
        generalize rest.drop (numBytes - overflow.length) = second at *
        subst parts
        have full : (overflow ++ first).length = numBytes := by
          rw [List.length_append]
          omega
        simp only [few, full, decide_false, and_self, if_true] at result
        obtain ⟨before, byte, rfl⟩ :=
          (List.eq_nil_or_concat' first).resolve_left
            (List.ne_nil_of_length_pos (by omega))
        rw [← List.append_assoc] at result
        rcases extendFromStream_cases (by simp) result with
          ⟨taken, left, parts, rfl, rfl, plain⟩ | ⟨rfl, rfl, lines⟩
        · obtain rfl : second = taken ++ left := parts
          have same : overflow ++ before ++ byte :: taken =
              overflow ++ (before ++ byte :: taken) := by
            simp
          have cut : before ++ [byte] ++ (taken ++ left) =
              before ++ byte :: taken ++ left := by
            simp
          rw [same] at plain ⊢
          rw [cut]
          refine .stops (by simp) ?_ plain
          simp only [List.length_append, List.length_cons,
            List.length_nil] at full ⊢
          omega
        · have same : overflow ++ before ++ byte :: second ++ [stray] =
              overflow ++ (before ++ [byte] ++ second) ++ [stray] := by
            simp
          dsimp only
          rw [same]
          simp only [List.length_append, List.length_cons,
            List.length_nil] at full
          have parts : overflow ++ (before ++ [byte] ++ second) =
              overflow ++ before ++ byte :: second := by
            simp
          refine .ends parts ?_ ?_ lines
          · rw [List.length_append]
            omega
          · simp only [List.length_append, List.length_cons,
              List.length_nil]
            omega

/-- Nothing of a stream is left once its end was hit. -/
theorem Fill.atEnd
    {buffer left : Bytes} {next : Stream}
    (fill : Fill stray numBytes overflow stream buffer left next)
    (atEnd : stream.eof = true → stream.rest = []) :
    next.eof = true → next.rest = [] := by
  cases fill with
  | short => simp
  | stops => simp
  | ends => simp
  | cut => exact atEnd

/-- A large overflow buffer fills the buffer. -/
theorem Fill.enough
    {buffer left : Bytes} {next : Stream}
    (fill : Fill stray numBytes overflow stream buffer left next)
    (large : numBytes ≤ overflow.length) : numBytes ≤ buffer.length := by
  cases fill with
  | short few =>
      rw [List.length_append] at few
      omega
  | stops _ enough => exact enough
  | ends _ _ enough =>
      rw [List.length_append]
      omega
  | cut enough => exact enough

/-- In front of its last byte such a buffer ends in CR and LF only. -/
theorem lines_of_extendFromOverflow
    {buffer left : Bytes} {next : Stream}
    (least : 0 < numBytes) (large : numBytes ≤ overflow.length)
    (result :
      extendFromOverflow false failure stray (overflow.take numBytes)
        (overflow.drop numBytes) stream = .ok (buffer, left, next)) :
    ∀ byte ∈ buffer.dropLast.drop (numBytes - 1), IsLineByte byte := by
  have length : (overflow.take numBytes).length = numBytes := by
    simp [large]
  generalize overflow.take numBytes = first at *
  obtain ⟨before, byte, rfl⟩ :=
    (List.eq_nil_or_concat' first).resolve_left
      (List.ne_nil_of_length_pos (by omega))
  obtain ⟨more, rfl, lines⟩ := extendFromOverflow_passed result
  rw [List.length_append, List.length_singleton] at length
  have same : numBytes - 1 = before.length := by
    omega
  rw [List.dropLast_append_of_ne_nil (by simp), same, List.drop_left]
  exact lines

/--
Every call returns, and its chunk is cut from one encoded buffer.  If the
overflow buffer was large enough, the buffer goes on for line bytes only.
-/
theorem exists_fill_lines
    {chunk left : Bytes} {next : Stream}
    (least : 0 < numBytes)
    (atEnd : stream.eof = true → stream.rest = [])
    (read :
      Reader.readNetascii false stray numBytes overflow stream =
        .ok (chunk, left, next)) :
    ∃ buffer kept,
      Fill stray numBytes overflow stream buffer kept next ∧
        (chunk, left) =
            splitChunk numBytes (encodeAndEndLine numBytes buffer) kept ∧
          (numBytes ≤ overflow.length →
            ∀ byte ∈ buffer.dropLast.drop (numBytes - 1),
              IsLineByte byte) := by
  unfold Reader.readNetascii at read
  split at read
  · cases read
  · rename_i first kept after taken
    split at read
    · cases read
    · rename_i buffer last filled
      dsimp only at read
      cases read
      refine ⟨buffer, kept, ?_⟩
      unfold takeFromOverflow at taken
      split_ifs at taken with some_ large
      · have fill := exists_fill_of_overflow least large atEnd taken
        have lines := lines_of_extendFromOverflow least large taken
        rw [Reader.fillBuffer,
          if_neg (Nat.not_lt.mpr (fill.enough large))] at filled
        cases filled
        exact ⟨fill, rfl, fun _ => lines⟩
      · cases taken
        exact
          ⟨exists_fill_of_stream (by omega) atEnd filled, rfl,
            fun enough => absurd enough large⟩
      · cases taken
        obtain rfl : overflow = [] := by
          simpa using some_
        exact
          ⟨exists_fill_of_stream least atEnd filled, rfl,
            fun enough => absurd enough (Nat.not_le.mpr least)⟩

/-- Every call returns, and its chunk is cut from one encoded buffer. -/
theorem exists_fill
    {chunk left : Bytes} {next : Stream}
    (least : 0 < numBytes)
    (atEnd : stream.eof = true → stream.rest = [])
    (read :
      Reader.readNetascii false stray numBytes overflow stream =
        .ok (chunk, left, next)) :
    ∃ buffer kept,
      Fill stray numBytes overflow stream buffer kept next ∧
        (chunk, left) =
          splitChunk numBytes (encodeAndEndLine numBytes buffer) kept := by
  obtain ⟨buffer, kept, fill, split, _⟩ :=
    exists_fill_lines least atEnd read
  exact ⟨buffer, kept, fill, split⟩

end

/-! ## The chunk of one call -/

theorem endsInCrLf_iff (raw : Bytes) :
    endsInCrLf raw = true ↔ crLf <:+ raw := by
  rw [endsInCrLf, decide_eq_true_iff, List.suffix_iff_eq_drop]
  exact eq_comm

section

variable {numBytes : Nat} {buffer : Bytes}

/-- A short buffer gets a line end. -/
theorem encodeAndEndLine_of_few
    (few : (formatToNETASCII buffer).length < numBytes) :
    encodeAndEndLine numBytes buffer = formatToNETASCII buffer ++ crLf := by
  rw [encodeAndEndLine, if_pos (Or.inl few)]

/-- So does every buffer which does not end in one. -/
theorem encodeAndEndLine_of_open
    (least : 2 ≤ numBytes) (open_ : ¬ [lf] <:+ buffer) :
    encodeAndEndLine numBytes buffer = formatToNETASCII buffer ++ crLf := by
  rw [encodeAndEndLine]
  by_cases few : (formatToNETASCII buffer).length < numBytes
  · rw [if_pos (Or.inl few)]
  · refine if_pos (Or.inr ⟨by omega, fun ends => ?_⟩)
    have last := (endsInCrLf_iff _).mp ends
    exact open_ ((lf_suffix_formatToNETASCII buffer).mp
      (List.IsSuffix.trans ⟨[cr], rfl⟩ last))

/-- What is cut is an encoded buffer with a line end behind it. -/
theorem exists_encodeAndEndLine
    (least : 2 ≤ numBytes) (buffer : Bytes) :
    ∃ count, encodeAndEndLine numBytes buffer =
        formatToNETASCII buffer ++ lineEnds count ∧
      crLf <:+ encodeAndEndLine numBytes buffer := by
  by_cases appended :
      encodeAndEndLine numBytes buffer = formatToNETASCII buffer ++ crLf
  · exact ⟨1, by simpa [lineEnds] using appended,
      appended ▸ List.suffix_append _ _⟩
  · have whole : encodeAndEndLine numBytes buffer =
        formatToNETASCII buffer := by
      rw [encodeAndEndLine]
      refine if_neg fun line => appended ?_
      rw [encodeAndEndLine, if_pos line]
    have ends : [lf] <:+ buffer := by
      by_contra open_
      exact appended (encodeAndEndLine_of_open least open_)
    refine ⟨0, by simpa using whole, ?_⟩
    rw [whole]
    exact crLf_suffix_formatToNETASCII ends

theorem length_le_encodeAndEndLine
    (least : 2 ≤ numBytes) (buffer : Bytes) :
    (formatToNETASCII buffer).length ≤
      (encodeAndEndLine numBytes buffer).length := by
  obtain ⟨count, encoded, _⟩ := exists_encodeAndEndLine least buffer
  rw [encoded, List.length_append]
  exact Nat.le_add_right _ _

/-- A chunk is short only if everything fits into it. -/
theorem Fill.short_of_length
    {overflow kept : Bytes} {stream next : Stream}
    (least : 2 ≤ numBytes)
    (fill : Fill stray numBytes overflow stream buffer kept next)
    (few : (encodeAndEndLine numBytes buffer).length < numBytes) :
    buffer = overflow ++ stream.rest ∧
      encodeAndEndLine numBytes buffer = formatToNETASCII buffer ++ crLf := by
  have encoded := length_le_encodeAndEndLine least buffer
  have longer := length_le_formatToNETASCII buffer
  have small : buffer.length < numBytes := by
    omega
  refine ⟨?_, encodeAndEndLine_of_few (by omega)⟩
  cases fill with
  | short => rfl
  | stops _ enough => exact absurd enough (Nat.not_le.mpr small)
  | ends _ _ enough =>
      rw [List.length_append] at small
      omega
  | cut enough => exact absurd enough (Nat.not_le.mpr small)

/-- The chunk and the next overflow buffer are what was encoded. -/
theorem Fill.splitChunk
    {overflow kept : Bytes} {stream next : Stream}
    (least : 2 ≤ numBytes)
    (fill : Fill stray numBytes overflow stream buffer kept next) :
    splitChunk numBytes (encodeAndEndLine numBytes buffer) kept =
      ((encodeAndEndLine numBytes buffer).take numBytes,
        (encodeAndEndLine numBytes buffer).drop numBytes) := by
  rw [Files.splitChunk]
  split_ifs with large
  · rfl
  · have none_ : kept = [] := by
      cases fill with
      | short => rfl
      | stops => rfl
      | ends => rfl
      | cut enough plain =>
          have longer := length_le_formatToNETASCII buffer
          rw [encodeAndEndLine_of_open least plain.notLf,
            List.length_append] at large
          have two : crLf.length = 2 := rfl
          omega
    rw [none_, List.take_of_length_le (Nat.not_lt.mp large),
      List.drop_of_length_le (Nat.not_lt.mp large)]

end

/-- What a reader sends, by the buffers which are encoded. -/
inductive Encoded (stray : UInt8) (numBytes : Nat) :
    Bytes → Stream → Bytes → Prop where
  | last {overflow rest : Bytes} {eof : Bool}
      (few : (formatToNETASCII (overflow ++ rest)).length + 2 < numBytes) :
      Encoded stray numBytes overflow ⟨rest, eof⟩
        (formatToNETASCII (overflow ++ rest) ++ crLf)
  | more {overflow buffer kept later : Bytes} {stream next : Stream}
      (fill : Fill stray numBytes overflow stream buffer kept next)
      (rest :
        Encoded stray numBytes
          ((encodeAndEndLine numBytes buffer).drop numBytes) next later) :
      Encoded stray numBytes overflow stream
        ((encodeAndEndLine numBytes buffer).take numBytes ++ later)

/-- All chunks are cut from encoded buffers. -/
theorem Chunks.encoded
    {numBytes : Nat} {overflow sent : Bytes} {stream : Stream}
    (least : 2 ≤ numBytes)
    (chunks : Chunks stray numBytes overflow stream sent)
    (atEnd : stream.eof = true → stream.rest = []) :
    Encoded stray numBytes overflow stream sent := by
  induction chunks with
  | last read short =>
      obtain ⟨buffer, kept, fill, split⟩ :=
        exists_fill (by omega) atEnd read
      rw [fill.splitChunk least] at split
      obtain ⟨rfl, rfl⟩ := Prod.mk.inj split
      have few : (encodeAndEndLine numBytes buffer).length < numBytes := by
        rw [List.length_take] at short
        omega
      obtain ⟨rfl, ended⟩ := fill.short_of_length least few
      rw [List.take_of_length_le (Nat.le_of_lt few), ended]
      refine .last ?_
      rw [ended, List.length_append] at few
      exact few
  | more read full _ induction =>
      obtain ⟨buffer, kept, fill, split⟩ :=
        exists_fill (by omega) atEnd read
      rw [fill.splitChunk least] at split
      obtain ⟨rfl, rfl⟩ := Prod.mk.inj split
      exact .more fill (induction (fill.atEnd atEnd))

end IsaTftp.Files
