import IsaTftp.Files.Growth

/-!
# What a NETASCII reader has left to return

A call of `ReadFile` can put more bytes into the overflow buffer than it takes
out of it.  Still something gets smaller with every full chunk: twice the
bytes of the overflow buffer, four times the bytes left in the file, and one
more if an LF is kept whose CR was sent.
-/

namespace IsaTftp.Files

open IsaTftp.Wire

/-! ## One call -/

/-- What is left to return, by the overflow buffer and the rest of the file. -/
def pending (overflow rest : Bytes) : Nat :=
  2 * overflow.length + openLine overflow + 4 * rest.length

section

variable {numBytes : Nat} {overflow taken : Bytes}

theorem length_encodeAndEndLine_le (numBytes : Nat) (buffer : Bytes) :
    (encodeAndEndLine numBytes buffer).length ≤
      (formatToNETASCII buffer).length + 2 := by
  unfold encodeAndEndLine
  dsimp only
  split_ifs
  · simp
  · exact Nat.le_add_right _ 2

/-- Bytes which were not encoded before can become twice as many. -/
theorem length_encodeAndEndLine_append_le
    (numBytes : Nat) (ends : TextEnd overflow) (taken : Bytes) :
    (encodeAndEndLine numBytes (overflow ++ taken)).length ≤
      (formatToNETASCII overflow).length + 2 * taken.length + 2 := by
  have whole := length_encodeAndEndLine_le numBytes (overflow ++ taken)
  have twice := length_formatToNETASCII_le taken
  rw [formatToNETASCII_append_of_whole ends.whole, List.length_append]
    at whole
  omega

/-- Where a buffer of eight bytes grows most, the next line is not open. -/
theorem openLine_drop_of_most
    (ends : TextEnd overflow) (lines : LinesFrom 7 overflow)
    (isOpen : openLine overflow = 1)
    (most : 2 * overflow.length + 8 ≤
      2 * (formatToNETASCII overflow).length)
    (taken : Bytes) :
    openLine ((encodeAndEndLine 8 (overflow ++ taken)).drop 8) = 0 := by
  rcases ends with text | ⟨first, rfl, text⟩
  · have less := text.growth lines
    omega
  · rw [formatToNETASCII_lf] at most
    simp only [List.length_cons] at most
    obtain ⟨second, rfl, text, lines, most⟩ :=
      text.loneCr_of_growth (show LinesFrom (4 + 2) first from lines)
        (by omega)
    obtain ⟨third, rfl, text, lines, most⟩ :=
      text.loneCr_of_growth (show LinesFrom (2 + 2) second from lines)
        most
    obtain ⟨count, ended, _⟩ :=
      exists_encodeAndEndLine (show 2 ≤ 8 by omega)
        (lf :: cr :: nul :: cr :: nul :: third ++ taken)
    rw [ended]
    simp only [List.cons_append, formatToNETASCII_lf,
      formatToNETASCII_cr_nul, List.drop_succ_cons, List.drop_zero]
    apply openLine_formatToNETASCII
    cases count with
    | zero => rfl
    | succ count => simp [lineEnds_succ', openLine, lf_ne_cr.symm]

/-- A full chunk takes away more than the encoding adds. -/
theorem pending_drop_lt
    {rest left : Bytes} {strays : Nat} (atLeast : 8 ≤ numBytes)
    (ends : TextEnd overflow) (lines : LinesFrom (numBytes - 1) overflow)
    (full : numBytes ≤
      (encodeAndEndLine numBytes (overflow ++ taken)).length)
    (parts : taken.length + left.length ≤ rest.length + strays)
    (single : strays ≤ 1) :
    pending ((encodeAndEndLine numBytes (overflow ++ taken)).drop numBytes)
        left <
      pending overflow rest := by
  have long := length_encodeAndEndLine_append_le numBytes ends taken
  have small := openLine_le overflow
  have next :=
    openLine_le
      ((encodeAndEndLine numBytes (overflow ++ taken)).drop numBytes)
  have before : numBytes - 1 = numBytes - 2 + 1 := by
    omega
  have grows := ends.growth (before ▸ lines)
  unfold pending
  rw [List.length_drop]
  by_cases critical :
      numBytes = 8 ∧ openLine overflow = 1 ∧
        2 * overflow.length + 8 ≤ 2 * (formatToNETASCII overflow).length
  · obtain ⟨rfl, isOpen, most⟩ := critical
    have closed := openLine_drop_of_most ends lines isOpen most taken
    omega
  · omega

/-- A buffer which was cut from a text and ends in a plain byte. -/
theorem pending_drop_lt_of_cut
    {left rest : Bytes} (atLeast : 8 ≤ numBytes)
    (ends : TextEnd (taken ++ left)) (plain : EndsPlain taken)
    (enough : numBytes ≤ taken.length)
    (lines : LinesFrom (numBytes - 1) taken.dropLast) :
    pending ((encodeAndEndLine numBytes taken).drop numBytes) rest <
      pending (taken ++ left) rest := by
  obtain ⟨before, last, rfl⟩ :=
    (List.eq_nil_or_concat' taken).resolve_left
      (List.ne_nil_of_length_pos (by omega))
  have other : ¬ IsLineByte last := by
    rintro (rfl | rfl)
    · exact plain.notCr (List.suffix_append _ _)
    · exact plain.notLf (List.suffix_append _ _)
  rw [List.dropLast_concat] at lines
  have encoded :
      formatToNETASCII (before ++ [last]) =
        formatToNETASCII before ++ [last] := by
    rw [formatToNETASCII_append_of_head
        (by simpa using fun isLf => other (Or.inr isLf)),
      formatToNETASCII_of_not_lineByte other]
    rfl
  have one : numBytes - 1 = numBytes - 2 + 1 := by
    omega
  rw [List.append_assoc] at ends
  have grows := ends.growth_of_prefix (one ▸ lines)
  have long := length_encodeAndEndLine_le numBytes (before ++ [last])
  have next :=
    openLine_le
      ((encodeAndEndLine numBytes (before ++ [last])).drop numBytes)
  have small := openLine_le before
  have cutCr : lastCr before ≤ 1 := by
    unfold lastCr
    split_ifs
    · exact Nat.le_refl 1
    · exact Nat.zero_le 1
  unfold pending
  rw [encoded] at long
  simp only [List.length_append, List.length_drop,
    List.length_singleton] at long enough ⊢
  omega

/-- Whatever a full chunk was made of, less is left afterwards. -/
theorem Fill.pending_lt
    {stray : UInt8} {buffer kept : Bytes} {stream next : Stream}
    (atLeast : 8 ≤ numBytes) (ends : TextEnd overflow)
    (fill : Fill stray numBytes overflow stream buffer kept next)
    (passed : numBytes ≤ overflow.length →
      LinesFrom (numBytes - 1) buffer.dropLast)
    (full : numBytes ≤ (encodeAndEndLine numBytes buffer).length) :
    pending ((encodeAndEndLine numBytes buffer).drop numBytes) next.rest <
      pending overflow stream.rest := by
  cases fill with
  | @short _ rest _ few =>
      rw [List.length_append] at few
      have lines : LinesFrom (numBytes - 1) overflow :=
        linesFrom_of_length_le (by omega)
      exact
        pending_drop_lt atLeast ends lines full
          (show rest.length + 0 ≤ rest.length + 0 from Nat.le_refl _)
          (Nat.zero_le 1)
  | @stops _ taken rest some_ enough plain =>
      have lines : LinesFrom (numBytes - 1) overflow := by
        by_cases large : numBytes ≤ overflow.length
        · have all := passed large
          rw [List.dropLast_append_of_ne_nil some_] at all
          exact all.of_append
        · exact linesFrom_of_length_le (by omega)
      refine
        pending_drop_lt atLeast ends lines full ?_ (Nat.zero_le 1)
      rw [List.length_append]
      exact Nat.le_refl _
  | @ends _ rest before line _ parts few enough lines =>
      have lines : LinesFrom (numBytes - 1) overflow := by
        have all : LinesFrom (numBytes - 1) (overflow ++ rest) := by
          rw [parts]
          exact linesFrom_append (by omega) lines
        exact all.of_append
      rw [List.append_assoc] at full ⊢
      refine pending_drop_lt atLeast ends lines full ?_ (Nat.le_refl 1)
      rw [List.length_append]
      exact Nat.le_refl _
  | cut enough plain =>
      refine pending_drop_lt_of_cut atLeast ends plain enough (passed ?_)
      rw [List.length_append]
      omega

end

end IsaTftp.Files
