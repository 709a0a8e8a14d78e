import Mathlib.Data.List.Chain
import IsaTftp.Files.Netascii

/-!
# Line ends in an encoded text

In an encoded text every CR is the first byte of a pair, CR LF or CR NUL.  The
encoding of a text can be cut wherever the text is not cut inside CR LF.
-/

namespace IsaTftp.Files

open IsaTftp.Wire

/-- The two bytes which stand for the end of a line. -/
abbrev crLf : Bytes := [cr, lf]

/-! ## Encoding in two parts -/

/-- Two texts can be encoded one after the other, unless a CR LF is cut. -/
theorem formatToNETASCII_append
    {first rest : Bytes}
    (apart : [cr] <:+ first → rest.head? ≠ some lf) :
    formatToNETASCII (first ++ rest) =
      formatToNETASCII first ++ formatToNETASCII rest := by
  induction first using formatToNETASCII.induct with
  | case1 => rfl
  | case2 after induction =>
      have later := induction fun ends =>
        apart (ends.trans (List.suffix_append crLf after))
      simp [later]
  | case3 next after notLf induction =>
      have later := induction fun ends =>
        apart (ends.trans (List.suffix_append [cr] _))
      rw [List.cons_append, formatToNETASCII_cr (by simpa using notLf),
        later, formatToNETASCII_cr (by simpa using notLf)]
      rfl
  | case4 =>
      rw [List.singleton_append,
        formatToNETASCII_cr (apart (List.suffix_refl _)),
        formatToNETASCII_cr (by simp)]
      rfl
  | case5 after _ induction =>
      have later := induction fun ends =>
        apart (ends.trans (List.suffix_append [lf] _))
      simp [later]
  | case6 byte after notCr notLf induction =>
      have later := induction fun ends =>
        apart (ends.trans (List.suffix_append [byte] _))
      rw [List.cons_append, formatToNETASCII_plain notCr notLf, later,
        formatToNETASCII_plain notCr notLf]
      rfl

/-- A text which does not end in a CR is encoded by itself. -/
theorem formatToNETASCII_append_of_whole
    {first : Bytes} (whole : ¬ [cr] <:+ first) (rest : Bytes) :
    formatToNETASCII (first ++ rest) =
      formatToNETASCII first ++ formatToNETASCII rest :=
  formatToNETASCII_append fun ends => absurd ends whole

/-- So is a text in front of anything but an LF. -/
theorem formatToNETASCII_append_of_head
    {rest : Bytes} (other : rest.head? ≠ some lf) (first : Bytes) :
    formatToNETASCII (first ++ rest) =
      formatToNETASCII first ++ formatToNETASCII rest :=
  formatToNETASCII_append fun _ => other

/-! ## The last byte -/

@[simp]
theorem suffix_singleton_concat (raw : Bytes) (first byte : UInt8) :
    [first] <:+ raw ++ [byte] ↔ first = byte := by
  rw [List.suffix_concat_iff]
  constructor
  · rintro (impossible | ⟨before, same, _⟩)
    · cases impossible
    · cases before with
      | nil => exact (List.cons.inj same).1
      | cons _ before => simp at same
  · rintro rfl
    exact Or.inr ⟨[], rfl, List.nil_suffix⟩

/-- How an encoded text ends. -/
theorem formatToNETASCII_concat (raw : Bytes) (byte : UInt8) :
    ∃ before, formatToNETASCII (raw ++ [byte]) =
      before ++
        (if byte = lf then crLf else if byte = cr then [cr, nul]
          else [byte]) := by
  by_cases isLf : byte = lf
  · subst isLf
    by_cases ends : [cr] <:+ raw
    · obtain ⟨start, rfl⟩ := ends
      refine ⟨formatToNETASCII start, ?_⟩
      rw [List.append_assoc,
        formatToNETASCII_append_of_head (by simp [lf_ne_cr.symm])]
      simp
    · refine ⟨formatToNETASCII raw, ?_⟩
      rw [formatToNETASCII_append_of_whole ends]
      simp
  · refine ⟨formatToNETASCII raw, ?_⟩
    rw [formatToNETASCII_append_of_head (by simpa using isLf)]
    by_cases isCr : byte = cr
    · subst isCr
      simp [formatToNETASCII, isLf]
    · rw [formatToNETASCII_plain isCr isLf]
      simp [isCr, isLf]

theorem suffix_singleton_append
    {byte : UInt8} {first rest : Bytes} (some_ : rest ≠ []) :
    [byte] <:+ first ++ rest ↔ [byte] <:+ rest := by
  obtain ⟨before, last, rfl⟩ := List.eq_nil_or_concat' rest |>.resolve_left some_
  rw [← List.append_assoc, suffix_singleton_concat, suffix_singleton_concat]

/-- An encoded text ends in an LF where the text does, and so in CR LF. -/
theorem lf_suffix_formatToNETASCII (raw : Bytes) :
    [lf] <:+ formatToNETASCII raw ↔ [lf] <:+ raw := by
  rcases List.eq_nil_or_concat' raw with rfl | ⟨before, byte, rfl⟩
  · rfl
  · obtain ⟨start, same⟩ := formatToNETASCII_concat before byte
    rw [same, suffix_singleton_concat]
    split_ifs with isLf isCr
    · subst isLf
      exact
        iff_of_true ⟨start ++ [cr], by simp⟩ rfl
    · rw [show start ++ [cr, nul] = (start ++ [cr]) ++ [nul] by simp,
        suffix_singleton_concat]
      exact iff_of_false nul_ne_lf.symm (Ne.symm isLf)
    · rw [suffix_singleton_concat]

/-- An encoded text does not end in a CR. -/
theorem not_cr_suffix_formatToNETASCII (raw : Bytes) :
    ¬ [cr] <:+ formatToNETASCII raw := by
  rcases List.eq_nil_or_concat' raw with rfl | ⟨before, byte, rfl⟩
  · simp
  · obtain ⟨start, same⟩ := formatToNETASCII_concat before byte
    rw [same]
    split_ifs with isLf isCr
    · rw [show start ++ crLf = (start ++ [cr]) ++ [lf] by simp,
        suffix_singleton_concat]
      exact lf_ne_cr.symm
    · rw [show start ++ [cr, nul] = (start ++ [cr]) ++ [nul] by simp,
        suffix_singleton_concat]
      exact nul_ne_cr.symm
    · rw [suffix_singleton_concat]
      exact Ne.symm isCr

theorem crLf_suffix_formatToNETASCII
    {raw : Bytes} (ends : [lf] <:+ raw) :
    crLf <:+ formatToNETASCII raw := by
  obtain ⟨before, rfl⟩ := ends
  obtain ⟨start, same⟩ := formatToNETASCII_concat before lf
  exact ⟨start, by rw [same, if_pos rfl]⟩

/-- The encoding of the end of a text ends the encoding of the text. -/
theorem formatToNETASCII_suffix (first rest : Bytes) :
    formatToNETASCII rest <:+ formatToNETASCII (first ++ rest) := by
  by_cases apart : [cr] <:+ first → rest.head? ≠ some lf
  · rw [formatToNETASCII_append apart]
    exact List.suffix_append _ _
  · obtain ⟨⟨start, rfl⟩, cut⟩ := Classical.not_imp.mp apart
    cases rest with
    | nil => simp at cut
    | cons byte after =>
        obtain rfl : byte = lf := by simpa using cut
        have head : (cr :: lf :: after).head? ≠ some lf := by
          intro same
          exact lf_ne_cr (Option.some.inj same).symm
        rw [List.append_assoc, List.singleton_append,
          formatToNETASCII_append_of_head head, formatToNETASCII_cr_lf,
          formatToNETASCII_lf]
        exact List.suffix_append _ _

/-! ## Lengths -/

/-- Every byte becomes one byte or two, and CR LF stays. -/
theorem length_formatToNETASCII_bounds (raw : Bytes) :
    raw.length ≤ (formatToNETASCII raw).length ∧
      (formatToNETASCII raw).length ≤ 2 * raw.length := by
  induction raw using formatToNETASCII.induct with
  | case1 => simp
  | case2 after induction =>
      rw [formatToNETASCII_cr_lf]
      simp only [List.length_cons]
      omega
  | case3 next after notLf induction =>
      rw [formatToNETASCII_cr (by simpa using notLf)]
      simp only [List.length_cons] at induction ⊢
      omega
  | case4 => decide
  | case5 after _ induction =>
      rw [formatToNETASCII_lf]
      simp only [List.length_cons]
      omega
  | case6 byte after notCr notLf induction =>
      rw [formatToNETASCII_plain notCr notLf]
      simp only [List.length_cons]
      omega

theorem length_le_formatToNETASCII (raw : Bytes) :
    raw.length ≤ (formatToNETASCII raw).length :=
  (length_formatToNETASCII_bounds raw).1

theorem length_formatToNETASCII_le (raw : Bytes) :
    (formatToNETASCII raw).length ≤ 2 * raw.length :=
  (length_formatToNETASCII_bounds raw).2

/-! ## Pairs -/

/-- After a CR the second byte of its pair comes. -/
def PairOf (first second : UInt8) : Prop :=
  first = cr → second = lf ∨ second = nul

/-- Every CR has the second byte of its pair behind it. -/
structure Paired (raw : Bytes) : Prop where
  chain : raw.IsChain PairOf
  whole : ¬ [cr] <:+ raw

theorem Paired.nil : Paired [] :=
  ⟨List.isChain_nil, by simp⟩

theorem Paired.suffix {raw rest : Bytes} (paired : Paired raw)
    (ends : rest <:+ raw) : Paired rest :=
  ⟨paired.chain.suffix ends, fun last => paired.whole (last.trans ends)⟩

theorem Paired.drop {raw : Bytes} (paired : Paired raw) (count : Nat) :
    Paired (raw.drop count) :=
  paired.suffix (List.drop_suffix count raw)

theorem isChain_formatToNETASCII (raw : Bytes) :
    (formatToNETASCII raw).IsChain PairOf := by
  fun_induction formatToNETASCII raw with
  | case1 => exact List.isChain_nil
  | case2 after induction =>
      refine List.isChain_cons.mpr ⟨?_, List.isChain_cons.mpr ⟨?_, induction⟩⟩
      · simp [PairOf]
      · simp [PairOf, lf_ne_cr]
  | case3 next after notLf induction =>
      refine List.isChain_cons.mpr ⟨?_, List.isChain_cons.mpr ⟨?_, induction⟩⟩
      · simp [PairOf]
      · simp [PairOf, nul_ne_cr]
  | case4 => simp [PairOf]
  | case5 after _ induction =>
      refine List.isChain_cons.mpr ⟨?_, List.isChain_cons.mpr ⟨?_, induction⟩⟩
      · simp [PairOf]
      · simp [PairOf, lf_ne_cr]
  | case6 byte after notCr notLf induction =>
      refine List.isChain_cons.mpr ⟨?_, induction⟩
      simp [PairOf, notCr]

theorem paired_formatToNETASCII (raw : Bytes) :
    Paired (formatToNETASCII raw) :=
  ⟨isChain_formatToNETASCII raw, not_cr_suffix_formatToNETASCII raw⟩

/-- A line end can be added. -/
theorem Paired.append_crLf {raw : Bytes} (paired : Paired raw) :
    Paired (raw ++ crLf) where
  chain := by
    refine List.isChain_append.mpr ⟨paired.chain, by simp [PairOf], ?_⟩
    intro last isLast next _ isCr
    subst isCr
    exact absurd (List.getLast?_eq_some_iff.mp isLast)
      (fun ⟨start, same⟩ => paired.whole ⟨start, same.symm⟩)
  whole := by
    rw [show raw ++ crLf = (raw ++ [cr]) ++ [lf] by simp,
      suffix_singleton_concat]
    exact lf_ne_cr.symm

/-! ## Runs of line ends -/

/-- So many line ends. -/
def lineEnds (count : Nat) : Bytes :=
  (List.replicate count crLf).flatten

@[simp]
theorem lineEnds_zero : lineEnds 0 = [] :=
  rfl

theorem lineEnds_succ (count : Nat) :
    lineEnds (count + 1) = lineEnds count ++ crLf := by
  simp [lineEnds, List.replicate_succ']

theorem lineEnds_succ' (count : Nat) :
    lineEnds (count + 1) = crLf ++ lineEnds count := by
  simp [lineEnds, List.replicate_succ]

/-- Line ends are encoded as themselves. -/
@[simp]
theorem formatToNETASCII_lineEnds (count : Nat) :
    formatToNETASCII (lineEnds count) = lineEnds count := by
  induction count with
  | zero => rfl
  | succ count induction =>
      rw [lineEnds_succ', List.cons_append, List.cons_append,
        List.nil_append, formatToNETASCII_cr_lf, induction]

/-- The line ends behind a text which does not end in one can be counted. -/
theorem lineEnds_unique
    {first second : Bytes} {few many : Nat}
    (same : first ++ lineEnds few = second ++ lineEnds many)
    (firstOpen : ¬ [lf] <:+ first) (secondOpen : ¬ [lf] <:+ second) :
    first = second ∧ few = many := by
  induction few generalizing many with
  | zero =>
      cases many with
      | zero => simpa using same
      | succ many =>
          rw [lineEnds_zero, List.append_nil, lineEnds_succ] at same
          rw [same] at firstOpen
          exact absurd ⟨second ++ lineEnds many ++ [cr], by simp⟩ firstOpen
  | succ few induction =>
      cases many with
      | zero =>
          rw [lineEnds_zero, List.append_nil, lineEnds_succ] at same
          rw [← same] at secondOpen
          exact absurd ⟨first ++ lineEnds few ++ [cr], by simp⟩ secondOpen
      | succ many =>
          rw [lineEnds_succ, lineEnds_succ, ← List.append_assoc,
            ← List.append_assoc] at same
          obtain ⟨texts, counts⟩ :=
            induction (List.append_cancel_right same)
          exact ⟨texts, congrArg _ counts⟩

/-- The line ends at the end of a text, by what is encoded before them. -/
theorem exists_lineEnds (raw : Bytes) :
    ∃ start count, start <+: raw ∧
      formatToNETASCII raw = formatToNETASCII start ++ lineEnds count ∧
        ¬ [lf] <:+ start := by
  induction length : raw.length using Nat.strong_induction_on
    generalizing raw with
  | _ size induction =>
      by_cases ends : [lf] <:+ raw
      · obtain ⟨before, rfl⟩ := ends
        by_cases pair : [cr] <:+ before
        · obtain ⟨first, rfl⟩ := pair
          obtain ⟨start, count, inside, same, open_⟩ :=
            induction first.length (by simp [← length]) first rfl
          refine ⟨start, count + 1, ?_, ?_, open_⟩
          · exact inside.trans ⟨[cr] ++ [lf], by simp⟩
          · rw [List.append_assoc,
              formatToNETASCII_append_of_head (by simp [lf_ne_cr.symm]),
              same, lineEnds_succ]
            simp
        · obtain ⟨start, count, inside, same, open_⟩ :=
            induction before.length (by simp [← length]) before rfl
          refine ⟨start, count + 1, ?_, ?_, open_⟩
          · exact inside.trans (List.prefix_append _ _)
          · rw [formatToNETASCII_append_of_whole pair, same,
              lineEnds_succ]
            simp
      · exact ⟨raw, 0, List.prefix_refl _, by simp, ends⟩

end IsaTftp.Files
