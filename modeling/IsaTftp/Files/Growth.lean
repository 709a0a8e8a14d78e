import IsaTftp.Files.Filling

/-!
# How a text grows when it is encoded again

The overflow buffer holds bytes which were encoded already, and the next call
encodes them again.  Only a CR NUL grows, and an LF whose CR was sent before.
Where nothing but CR and LF follows, there is no CR NUL.
-/

namespace IsaTftp.Files

open IsaTftp.Wire

/-! ## Encoded texts -/

/-- A text in which every CR and every LF belongs to a CR LF or a CR NUL. -/
inductive NetasciiText : Bytes → Prop where
  | nil : NetasciiText []
  | lineEnd {rest : Bytes} (text : NetasciiText rest) :
      NetasciiText (cr :: lf :: rest)
  | loneCr {rest : Bytes} (text : NetasciiText rest) :
      NetasciiText (cr :: nul :: rest)
  | plain {byte : UInt8} {rest : Bytes} (other : ¬ IsLineByte byte)
      (text : NetasciiText rest) : NetasciiText (byte :: rest)

/-- What is left of such a text behind a cut; the CR of an LF may be gone. -/
def TextEnd (raw : Bytes) : Prop :=
  NetasciiText raw ∨ ∃ rest, raw = lf :: rest ∧ NetasciiText rest

theorem nul_not_lineByte : ¬ IsLineByte nul := by
  rintro (isCr | isLf)
  · exact nul_ne_cr isCr
  · exact nul_ne_lf isLf

theorem netasciiText_formatToNETASCII (raw : Bytes) :
    NetasciiText (formatToNETASCII raw) := by
  fun_induction formatToNETASCII raw with
  | case1 => exact .nil
  | case2 after induction => exact .lineEnd induction
  | case3 next after _ induction => exact .loneCr induction
  | case4 => exact .loneCr .nil
  | case5 after _ induction => exact .lineEnd induction
  | case6 byte after notCr notLf induction =>
      refine .plain ?_ induction
      rintro (isCr | isLf)
      · exact notCr isCr
      · exact notLf isLf

theorem NetasciiText.append {first rest : Bytes}
    (text : NetasciiText first) (more : NetasciiText rest) :
    NetasciiText (first ++ rest) := by
  induction text with
  | nil => exact more
  | lineEnd _ induction => exact .lineEnd induction
  | loneCr _ induction => exact .loneCr induction
  | plain other _ induction => exact .plain other induction

theorem NetasciiText.lineEnds (count : Nat) :
    NetasciiText (lineEnds count) := by
  rw [← formatToNETASCII_lineEnds]
  exact netasciiText_formatToNETASCII _

/-- A cut leaves the end of a text. -/
theorem NetasciiText.drop {raw : Bytes} (text : NetasciiText raw)
    (count : Nat) : TextEnd (raw.drop count) := by
  induction text generalizing count with
  | nil =>
      rw [List.drop_nil]
      exact Or.inl .nil
  | @lineEnd rest text induction =>
      rcases count with _ | _ | count
      · exact Or.inl (.lineEnd text)
      · exact Or.inr ⟨rest, rfl, text⟩
      · exact induction count
  | loneCr text induction =>
      rcases count with _ | _ | count
      · exact Or.inl (.loneCr text)
      · exact Or.inl (.plain nul_not_lineByte text)
      · exact induction count
  | plain other text induction =>
      rcases count with _ | count
      · exact Or.inl (.plain other text)
      · exact induction count

/-- What a call keeps is the end of a text. -/
theorem textEnd_drop_encodeAndEndLine
    {numBytes : Nat} (least : 2 ≤ numBytes) (buffer : Bytes) :
    TextEnd ((encodeAndEndLine numBytes buffer).drop numBytes) := by
  obtain ⟨count, ended, _⟩ := exists_encodeAndEndLine least buffer
  rw [ended]
  exact ((netasciiText_formatToNETASCII buffer).append (.lineEnds count)).drop _

theorem not_cr_suffix_cons {byte : UInt8} {raw : Bytes}
    (other : byte ≠ cr ∨ raw ≠ []) (whole : ¬ [cr] <:+ raw) :
    ¬ [cr] <:+ byte :: raw := by
  rw [List.suffix_cons_iff]
  rintro (same | inside)
  · obtain ⟨rfl, rfl⟩ := List.cons.inj same
    simp at other
  · exact whole inside

/-- It does not end in a CR. -/
theorem NetasciiText.whole {raw : Bytes} (text : NetasciiText raw) :
    ¬ [cr] <:+ raw := by
  induction text with
  | nil => simp
  | lineEnd _ induction =>
      apply not_cr_suffix_cons (Or.inr (by simp))
      exact not_cr_suffix_cons (Or.inl lf_ne_cr) induction
  | loneCr _ induction =>
      apply not_cr_suffix_cons (Or.inr (by simp))
      exact not_cr_suffix_cons (Or.inl nul_ne_cr) induction
  | plain other _ induction =>
      exact
        not_cr_suffix_cons (Or.inl fun isCr => other (Or.inl isCr))
          induction

theorem TextEnd.whole {raw : Bytes} (ends : TextEnd raw) :
    ¬ [cr] <:+ raw := by
  rcases ends with text | ⟨rest, rfl, text⟩
  · exact text.whole
  · exact not_cr_suffix_cons (Or.inl lf_ne_cr) text.whole

/-! ## Lengths -/

/-- From this place on there is nothing but CR and LF. -/
def LinesFrom (count : Nat) (raw : Bytes) : Prop :=
  ∀ byte ∈ raw.drop count, IsLineByte byte

@[simp]
theorem linesFrom_zero_cons (byte : UInt8) (raw : Bytes) :
    LinesFrom 0 (byte :: raw) ↔ IsLineByte byte ∧ LinesFrom 0 raw := by
  simp [LinesFrom]

@[simp]
theorem linesFrom_succ_cons (count : Nat) (byte : UInt8) (raw : Bytes) :
    LinesFrom (count + 1) (byte :: raw) ↔ LinesFrom count raw :=
  Iff.rfl

theorem LinesFrom.of_append {count : Nat} {first rest : Bytes}
    (lines : LinesFrom count (first ++ rest)) : LinesFrom count first := by
  intro byte member
  apply lines
  rw [List.drop_append]
  exact List.mem_append_left _ member

theorem linesFrom_append {count : Nat} {before line : Bytes}
    (few : before.length ≤ count) (lines : ∀ byte ∈ line, IsLineByte byte) :
    LinesFrom count (before ++ line) := by
  intro byte member
  rw [List.drop_append, List.drop_of_length_le few, List.nil_append]
    at member
  exact lines byte (List.mem_of_mem_drop member)

/-- Behind the end of a text there is nothing. -/
theorem linesFrom_of_length_le {count : Nat} {raw : Bytes}
    (few : raw.length ≤ count) : LinesFrom count raw := by
  rw [← List.append_nil raw]
  exact linesFrom_append few (by simp)

theorem formatToNETASCII_cr_nul (rest : Bytes) :
    formatToNETASCII (cr :: nul :: rest) =
      cr :: nul :: nul :: formatToNETASCII rest := by
  rw [formatToNETASCII_cr (by simp [nul_ne_lf]),
    formatToNETASCII_plain nul_ne_cr nul_ne_lf]

theorem formatToNETASCII_of_not_lineByte {byte : UInt8}
    (other : ¬ IsLineByte byte) (rest : Bytes) :
    formatToNETASCII (byte :: rest) = byte :: formatToNETASCII rest :=
  formatToNETASCII_plain (fun isCr => other (Or.inl isCr))
    (fun isLf => other (Or.inr isLf)) rest

/-- One if the last byte is a CR, without the second byte of its pair. -/
def lastCr (raw : Bytes) : Nat :=
  if raw.getLast? = some cr then 1 else 0

@[simp]
theorem lastCr_cons_cons (byte next : UInt8) (raw : Bytes) :
    lastCr (byte :: next :: raw) = lastCr (next :: raw) := by
  simp [lastCr]

theorem lastCr_cons_of_ne {byte : UInt8} (other : byte ≠ cr)
    (raw : Bytes) : lastCr (byte :: raw) = lastCr raw := by
  cases raw with
  | nil => simp [lastCr, other]
  | cons next raw => exact lastCr_cons_cons byte next raw

theorem lastCr_of_whole {raw : Bytes} (whole : ¬ [cr] <:+ raw) :
    lastCr raw = 0 := by
  apply if_neg
  rw [List.getLast?_eq_some_iff]
  rintro ⟨start, same⟩
  exact whole ⟨start, same.symm⟩

/--
In front of that place only every second byte can be a lone CR.  The text may
be cut behind it.
-/
theorem NetasciiText.growth_of_prefix
    {raw first rest : Bytes} (text : NetasciiText raw)
    (parts : raw = first ++ rest) {count : Nat}
    (lines : LinesFrom count first) :
    2 * (formatToNETASCII first).length ≤
      2 * first.length + count + 2 * lastCr first := by
  induction text generalizing first count with
  | nil =>
      obtain ⟨rfl, _⟩ := List.append_eq_nil_iff.mp parts.symm
      simp
  | lineEnd _ induction =>
      rcases first with _ | ⟨byte, _ | ⟨next, first⟩⟩
      · simp
      · obtain rfl := (List.cons.inj parts).1
        simp [lastCr, formatToNETASCII]
      · simp only [List.cons_append, List.cons.injEq] at parts
        obtain ⟨rfl, rfl, parts⟩ := parts
        rw [formatToNETASCII_cr_lf, lastCr_cons_cons,
          lastCr_cons_of_ne lf_ne_cr]
        simp only [List.length_cons]
        rcases count with _ | _ | count
        · simp only [linesFrom_zero_cons] at lines
          have later := induction parts lines.2.2
          omega
        · simp only [linesFrom_succ_cons, linesFrom_zero_cons] at lines
          have later := induction parts lines.2
          omega
        · have later := induction parts lines
          omega
  | loneCr _ induction =>
      rcases first with _ | ⟨byte, _ | ⟨next, first⟩⟩
      · simp
      · obtain rfl := (List.cons.inj parts).1
        simp [lastCr, formatToNETASCII]
      · simp only [List.cons_append, List.cons.injEq] at parts
        obtain ⟨rfl, rfl, parts⟩ := parts
        rw [formatToNETASCII_cr_nul, lastCr_cons_cons,
          lastCr_cons_of_ne nul_ne_cr]
        simp only [List.length_cons]
        rcases count with _ | _ | count
        · simp only [linesFrom_zero_cons] at lines
          exact absurd lines.2.1 nul_not_lineByte
        · simp only [linesFrom_succ_cons, linesFrom_zero_cons] at lines
          exact absurd lines.1 nul_not_lineByte
        · have later := induction parts lines
          omega
  | plain other _ induction =>
      rcases first with _ | ⟨byte, first⟩
      · simp
      · simp only [List.cons_append, List.cons.injEq] at parts
        obtain ⟨rfl, parts⟩ := parts
        rw [formatToNETASCII_of_not_lineByte other,
          lastCr_cons_of_ne fun isCr => other (Or.inl isCr)]
        simp only [List.length_cons]
        rcases count with _ | count
        · simp only [linesFrom_zero_cons] at lines
          exact absurd lines.1 other
        · have later := induction parts lines
          omega

theorem NetasciiText.growth {raw : Bytes} (text : NetasciiText raw)
    {count : Nat} (lines : LinesFrom count raw) :
    2 * (formatToNETASCII raw).length ≤ 2 * raw.length + count := by
  have general :=
    text.growth_of_prefix (List.append_nil raw).symm lines
  rw [lastCr_of_whole text.whole] at general
  exact general

/-- Only a lone CR at the beginning lets a text grow as much as it can. -/
theorem NetasciiText.loneCr_of_growth {raw : Bytes}
    (text : NetasciiText raw) {count : Nat}
    (lines : LinesFrom (count + 2) raw)
    (most : 2 * raw.length + (count + 2) ≤
      2 * (formatToNETASCII raw).length) :
    ∃ rest, raw = cr :: nul :: rest ∧ NetasciiText rest ∧
      LinesFrom count rest ∧
        2 * rest.length + count ≤ 2 * (formatToNETASCII rest).length := by
  cases text with
  | nil => simp at most
  | lineEnd text =>
      have less := text.growth (show LinesFrom count _ from lines)
      rw [formatToNETASCII_cr_lf] at most
      simp only [List.length_cons] at most
      omega
  | @loneCr rest text =>
      rw [formatToNETASCII_cr_nul] at most
      simp only [List.length_cons] at most
      exact ⟨rest, rfl, text, lines, by omega⟩
  | plain other text =>
      have less := text.growth (show LinesFrom (count + 1) _ from lines)
      rw [formatToNETASCII_of_not_lineByte other] at most
      simp only [List.length_cons] at most
      omega

/-- One if the CR in front of the first byte was sent, without its LF. -/
def openLine (raw : Bytes) : Nat :=
  if raw.head? = some lf then 1 else 0

theorem openLine_le (raw : Bytes) : openLine raw ≤ 1 := by
  unfold openLine
  split_ifs
  · exact Nat.le_refl 1
  · exact Nat.zero_le 1

/-- The end of a text grows by as much, and by its open line. -/
theorem TextEnd.growth_of_prefix
    {first rest : Bytes} (ends : TextEnd (first ++ rest)) {count : Nat}
    (lines : LinesFrom (count + 1) first) :
    2 * (formatToNETASCII first).length ≤
      2 * first.length + (count + 1) + openLine first +
        2 * lastCr first := by
  rcases ends with text | ⟨later, parts, text⟩
  · have general := text.growth_of_prefix rfl lines
    omega
  · rcases first with _ | ⟨byte, first⟩
    · simp
    · simp only [List.cons_append, List.cons.injEq] at parts
      obtain ⟨rfl, parts⟩ := parts
      have general :=
        text.growth_of_prefix parts.symm
          (show LinesFrom count first from lines)
      have isOpen : openLine (lf :: first) = 1 := rfl
      rw [formatToNETASCII_lf, isOpen, lastCr_cons_of_ne lf_ne_cr]
      simp only [List.length_cons]
      omega

theorem TextEnd.growth {raw : Bytes} (ends : TextEnd raw) {count : Nat}
    (lines : LinesFrom (count + 1) raw) :
    2 * (formatToNETASCII raw).length ≤
      2 * raw.length + (count + 1) + openLine raw := by
  rw [← List.append_nil raw] at ends
  have general := ends.growth_of_prefix lines
  rw [List.append_nil] at ends
  rw [lastCr_of_whole ends.whole] at general
  exact general

/-- No encoded text begins with an LF. -/
theorem openLine_formatToNETASCII (raw rest : Bytes)
    (closed : openLine rest = 0) :
    openLine (formatToNETASCII raw ++ rest) = 0 := by
  fun_cases formatToNETASCII raw with
  | case1 => exact closed
  | case6 byte after notCr notLf => simp [openLine, notLf]
  | _ => simp [openLine, lf_ne_cr.symm]

end IsaTftp.Files
