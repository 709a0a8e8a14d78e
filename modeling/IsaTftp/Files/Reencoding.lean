import IsaTftp.Files.Filling

/-!
# Bytes which are encoded twice

What did not fit into a chunk is encoded once more by the next call.  Line
ends are encoded as themselves, so those at the end of a text stay there; a
CR NUL gets a second NUL.
-/

namespace IsaTftp.Files

open IsaTftp.Wire

/-! ## The end of a text -/

/-- Bytes at the end which the encoding keeps are kept at the end. -/
theorem suffix_append_formatToNETASCII
    {last done overflow : Bytes}
    (kept : formatToNETASCII last = last)
    (head : last.head? ≠ some lf)
    (apart : [cr] <:+ done → overflow.head? ≠ some lf)
    (ends : last <:+ done ++ overflow) :
    last <:+ done ++ formatToNETASCII overflow := by
  rcases List.suffix_or_suffix_of_suffix ends
      (List.suffix_append done overflow) with
    ⟨before, rfl⟩ | ⟨before, rfl⟩
  · rw [formatToNETASCII_append_of_head head, kept, ← List.append_assoc]
    exact List.suffix_append _ _
  · obtain ⟨start, same⟩ := ends
    rw [← List.append_assoc] at same
    obtain rfl : start ++ before = done := List.append_cancel_right same
    have parts :
        formatToNETASCII before ++ formatToNETASCII overflow =
          before ++ overflow := by
      rw [← kept, formatToNETASCII_append fun ends =>
        apart (ends.trans (List.suffix_append _ _))]
    have lengths := congrArg List.length parts
    simp only [List.length_append] at lengths
    have first := length_le_formatToNETASCII before
    have second := length_le_formatToNETASCII overflow
    have whole : formatToNETASCII overflow = overflow :=
      (List.append_inj parts (by omega)).2
    exact ⟨start, by rw [whole, List.append_assoc]⟩

/-- A NUL in an encoded text was there before, or a CR lost its pair. -/
theorem nul_mem_of_formatToNETASCII
    {raw : Bytes} (paired : Paired raw)
    (member : nul ∈ formatToNETASCII raw) : nul ∈ raw := by
  induction raw using formatToNETASCII.induct with
  | case1 => simp at member
  | case2 after induction =>
      have later := paired.suffix (List.suffix_append [cr, lf] after)
      simp only [formatToNETASCII_cr_lf, List.mem_cons, nul_ne_cr,
        nul_ne_lf, false_or] at member ⊢
      exact induction later member
  | case3 next after notLf _ =>
      have pair := (List.isChain_cons_cons.mp paired.chain).1 rfl
      simp [pair.resolve_left notLf]
  | case4 => exact absurd (List.suffix_refl _) paired.whole
  | case5 after _ induction =>
      have later := paired.suffix (List.suffix_append [lf] after)
      simp only [formatToNETASCII_lf, List.mem_cons, nul_ne_cr,
        nul_ne_lf, false_or] at member ⊢
      exact induction later member
  | case6 byte after notCr notLf induction =>
      have later := paired.suffix (List.suffix_append [byte] after)
      rw [formatToNETASCII_plain notCr notLf] at member
      rcases List.mem_cons.mp member with rfl | inside
      · exact List.mem_cons_self
      · exact List.mem_cons_of_mem _ (induction later inside)

/-! ## Tails -/

/-- A NUL comes behind a CR or another NUL. -/
def NulBehind (first second : UInt8) : Prop :=
  second = nul → first = cr ∨ first = nul

/-- What the encoding makes of line bytes, also when it is repeated. -/
structure Tail (raw : Bytes) : Prop where
  bytes : ∀ byte ∈ raw, IsLineByte byte ∨ byte = nul
  chain : raw.IsChain NulBehind

theorem Tail.nil : Tail [] :=
  ⟨by simp, List.isChain_nil⟩

theorem Tail.inside {raw part : Bytes} (tail : Tail raw)
    (inside : part <:+: raw) : Tail part := by
  constructor
  · exact fun byte member => tail.bytes byte (inside.subset member)
  · obtain ⟨before, after, rfl⟩ := inside
    exact tail.chain.left_of_append.right_of_append

theorem IsLineByte.ne_nul {byte : UInt8} (line : IsLineByte byte) :
    byte ≠ nul := by
  rintro rfl
  rcases line with same | same
  · exact nul_ne_cr same
  · exact nul_ne_lf same

/-- Line bytes can be added to a tail. -/
theorem Tail.append_lines {raw line : Bytes} (tail : Tail raw)
    (lines : ∀ byte ∈ line, IsLineByte byte) : Tail (raw ++ line) where
  bytes := by
    intro byte member
    rcases List.mem_append.mp member with before | after
    · exact tail.bytes byte before
    · exact Or.inl (lines byte after)
  chain := by
    have behind : line.IsChain NulBehind := by
      induction line with
      | nil => exact List.isChain_nil
      | cons first rest induction =>
          refine List.isChain_cons.mpr ⟨?_, ?_⟩
          · intro next head isNul
            have member := List.mem_of_mem_head? head
            exact absurd isNul
              (lines next (List.mem_cons_of_mem _ member)).ne_nul
          · exact induction fun byte member =>
              lines byte (List.mem_cons_of_mem _ member)
    refine tail.chain.append behind ?_
    intro last _ next head isNul
    exact absurd isNul (lines next (List.mem_of_mem_head? head)).ne_nul

/-- Line bytes alone are a tail. -/
theorem Tail.of_lines {line : Bytes}
    (lines : ∀ byte ∈ line, IsLineByte byte) : Tail line :=
  Tail.nil.append_lines lines

theorem isLineByte_of_mem_lineEnds {count : Nat} {byte : UInt8}
    (member : byte ∈ lineEnds count) : IsLineByte byte := by
  obtain ⟨pair, repeated, inside⟩ := List.mem_flatten.mp member
  obtain rfl := List.eq_of_mem_replicate repeated
  simpa [IsLineByte] using inside

theorem Tail.append_lineEnds {raw : Bytes} (tail : Tail raw)
    (count : Nat) : Tail (raw ++ lineEnds count) :=
  tail.append_lines fun _ => isLineByte_of_mem_lineEnds

theorem head_formatToNETASCII_eq_nul {raw : Bytes}
    (head : (formatToNETASCII raw).head? = some nul) :
    raw.head? = some nul := by
  induction raw using formatToNETASCII.induct with
  | case1 => simp at head
  | case2 after _ => simp [nul_ne_cr.symm] at head
  | case3 next after notLf _ =>
      rw [formatToNETASCII_cr (by simpa using notLf)] at head
      simp [nul_ne_cr.symm] at head
  | case4 => exact absurd head (by decide)
  | case5 after _ _ => simp [nul_ne_cr.symm] at head
  | case6 byte after notCr notLf _ =>
      rw [formatToNETASCII_plain notCr notLf] at head
      exact head

/-- Behind an LF of a tail no NUL comes, also when the rest is encoded. -/
theorem Tail.head_ne_nul {raw : Bytes} (tail : Tail (lf :: raw)) :
    (formatToNETASCII raw).head? ≠ some nul := by
  intro head
  have behind := (List.isChain_cons.mp tail.chain).1 nul
    (head_formatToNETASCII_eq_nul head) rfl
  rcases behind with same | same
  · exact lf_ne_cr same
  · exact nul_ne_lf same.symm

/-- A line end can be put in front of anything but a NUL. -/
theorem Tail.crLf_cons {raw : Bytes} (tail : Tail raw)
    (head : raw.head? ≠ some nul) : Tail (cr :: lf :: raw) where
  bytes := by
    simpa [IsLineByte] using tail.bytes
  chain := by
    refine List.isChain_cons_cons.mpr
      ⟨fun same => absurd same nul_ne_lf.symm,
        List.isChain_cons.mpr ⟨?_, tail.chain⟩⟩
    intro next isHead same
    subst same
    exact absurd isHead head

/-- CR NUL can be put in front of everything. -/
theorem Tail.nul_cons {raw : Bytes} (tail : Tail raw) :
    Tail (nul :: raw) where
  bytes := by
    simpa using tail.bytes
  chain := List.isChain_cons.mpr ⟨fun _ _ _ => Or.inr rfl, tail.chain⟩

theorem Tail.cr_cons {raw : Bytes} (tail : Tail raw) :
    Tail (cr :: raw) where
  bytes := by
    simpa [IsLineByte] using tail.bytes
  chain := List.isChain_cons.mpr ⟨fun _ _ _ => Or.inl rfl, tail.chain⟩

/-- The encoding of a tail is a tail. -/
theorem Tail.encode {raw : Bytes} (tail : Tail raw) :
    Tail (formatToNETASCII raw) := by
  induction raw using formatToNETASCII.induct with
  | case1 => exact .nil
  | case2 after induction =>
      have pair := tail.inside (List.suffix_cons cr _).isInfix
      have later := induction (pair.inside (List.suffix_cons lf _).isInfix)
      rw [formatToNETASCII_cr_lf]
      exact later.crLf_cons pair.head_ne_nul
  | case3 next after notLf induction =>
      have later := induction (tail.inside (List.suffix_cons cr _).isInfix)
      rw [formatToNETASCII_cr (by simpa using notLf)]
      exact later.nul_cons.cr_cons
  | case4 => exact Tail.nil.nul_cons.cr_cons
  | case5 after _ induction =>
      have later := induction (tail.inside (List.suffix_cons lf _).isInfix)
      rw [formatToNETASCII_lf]
      exact later.crLf_cons tail.head_ne_nul
  | case6 byte after notCr notLf induction =>
      have later := induction (tail.inside (List.suffix_cons byte _).isInfix)
      have isNul : byte = nul :=
        (tail.bytes byte List.mem_cons_self).resolve_left
          (not_or.mpr ⟨notCr, notLf⟩)
      rw [formatToNETASCII_plain notCr notLf, isNul]
      exact later.nul_cons

/-! ## What is left for the next call -/

/--
A text of which all bytes but the first `count` are a tail, without a NUL
unless `nuls` holds.
-/
def Settled (count : Nat) (nuls : Prop) (raw : Bytes) : Prop :=
  ∃ start last, raw = start ++ last ∧ start.length ≤ count ∧ Tail last ∧
    (nul ∈ last → nuls)

/-- The encoding at most doubles the first bytes. -/
theorem exists_formatToNETASCII_append
    {last : Bytes} (start : Bytes) (tail : Tail last) :
    ∃ first second,
      formatToNETASCII (start ++ last) = first ++ second ∧
        first.length ≤ 2 * start.length ∧ Tail second ∧
          (nul ∈ second → nul ∈ formatToNETASCII last) := by
  have encoded := tail.encode
  by_cases apart : [cr] <:+ start → last.head? ≠ some lf
  · exact
      ⟨_, _, formatToNETASCII_append apart,
        length_formatToNETASCII_le start, encoded, id⟩
  · obtain ⟨⟨before, rfl⟩, head⟩ := Classical.not_imp.mp apart
    cases last with
    | nil => simp at head
    | cons byte rest =>
        obtain rfl : byte = lf := by
          simpa using head
        rw [formatToNETASCII_lf] at encoded ⊢
        refine
          ⟨formatToNETASCII before ++ [cr], lf :: formatToNETASCII rest,
            ?_, ?_, encoded.inside (List.suffix_cons cr _).isInfix,
            List.mem_cons_of_mem cr⟩
        · rw [List.append_assoc,
            formatToNETASCII_append_of_head (by simp [lf_ne_cr.symm])]
          simp
        · have doubled := length_formatToNETASCII_le before
          simp only [List.length_append, List.length_singleton]
          omega

/-- What is left of an encoded text is settled, with two bytes to spare. -/
theorem settled_drop
    {numBytes count : Nat} {nuls : Prop} {start last : Bytes}
    (few : start.length < numBytes) (tail : Tail last)
    (only : nul ∈ formatToNETASCII last → nuls) :
    Settled (numBytes - 2) nuls
      ((formatToNETASCII (start ++ last) ++ lineEnds count).drop
        numBytes) := by
  obtain ⟨first, second, parts, doubled, encoded, same⟩ :=
    exists_formatToNETASCII_append start tail
  rw [parts, List.append_assoc, List.drop_append]
  refine ⟨_, _, rfl, ?_, ?_, ?_⟩
  · rw [List.length_drop]
    omega
  · exact (encoded.append_lineEnds count).inside
      (List.drop_suffix _ _).isInfix
  · intro member
    rcases List.mem_append.mp (List.mem_of_mem_drop member) with
      inside | ended
    · exact only (same inside)
    · exact absurd rfl (isLineByte_of_mem_lineEnds ended).ne_nul

end IsaTftp.Files
