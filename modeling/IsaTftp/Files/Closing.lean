import IsaTftp.Files.Reencoding

/-!
# Calls after the end of the file

Once the end of the file was hit, a call encodes what the overflow buffer
holds and adds a line end to it.  The line ends of the file are then followed
by one more, unless the buffer was cut at a NUL; then two NULs come before
them, where the file has a CR NUL.
-/

namespace IsaTftp.Files

open IsaTftp.Wire

section

variable {base : Bytes} {count : Nat}

/--
The line ends of the file are there already, or they are not all there and
something else comes before them.
-/
def Ending (base : Bytes) (count : Nat) (done : Bytes) : Prop :=
  lineEnds count <:+ done ∨
    [cr, nul] <:+ base ∧ ∃ more, [nul, nul] ++ lineEnds more <:+ done

/-- A line end can be added. -/
theorem Ending.append_crLf {done : Bytes}
    (ending : Ending base count done) :
    Ending base count (done ++ crLf) := by
  rcases ending with ⟨before, rfl⟩ | ⟨pair, more, before, rfl⟩
  · refine Or.inl ⟨before ++ crLf, ?_⟩
    rw [List.append_assoc, List.append_assoc, ← lineEnds_succ,
      ← lineEnds_succ']
  · refine Or.inr ⟨pair, more + 1, before, ?_⟩
    rw [lineEnds_succ]
    simp

theorem Ending.append_lineEnds {done : Bytes}
    (ending : Ending base count done) (more : Nat) :
    Ending base count (done ++ lineEnds more) := by
  induction more with
  | zero => simpa using ending
  | succ more induction =>
      rw [lineEnds_succ, ← List.append_assoc]
      exact induction.append_crLf

/-- Encoding the overflow buffer keeps the end. -/
theorem Ending.encode {done overflow : Bytes}
    (ending : Ending base count (done ++ overflow))
    (apart : [cr] <:+ done → overflow.head? ≠ some lf) :
    Ending base count (done ++ formatToNETASCII overflow) := by
  rcases ending with last | ⟨pair, more, last⟩
  · refine Or.inl (suffix_append_formatToNETASCII (by simp) ?_ apart last)
    cases count with
    | zero => simp
    | succ count => simp [lineEnds_succ', lf_ne_cr.symm]
  · refine
      Or.inr
        ⟨pair, more, suffix_append_formatToNETASCII ?_ ?_ apart last⟩
    · rw [List.cons_append, List.cons_append, List.nil_append,
        formatToNETASCII_plain nul_ne_cr nul_ne_lf,
        formatToNETASCII_plain nul_ne_cr nul_ne_lf,
        formatToNETASCII_lineEnds]
    · simp [nul_ne_lf]

/-- With one more line end it is not the end of the file. -/
theorem Ending.overdone {done : Bytes}
    (ending : Ending base count done) (open_ : ¬ [lf] <:+ base) :
    done ++ crLf ≠ base ++ lineEnds count := by
  intro same
  rcases ending with ⟨before, rfl⟩ | ⟨⟨start, rfl⟩, more, before, rfl⟩
  · rw [List.append_assoc, ← lineEnds_succ, lineEnds_succ',
      ← List.append_assoc] at same
    have ends := List.append_cancel_right same
    exact open_ (ends ▸ ⟨before ++ [cr], by simp⟩)
  · have two : before ++ [nul, nul] ++ lineEnds (more + 1) =
        start ++ [cr, nul] ++ lineEnds count := by
      rw [← same, lineEnds_succ]
      simp
    have nuls : ¬ [lf] <:+ before ++ [nul, nul] := by
      rw [suffix_singleton_append (by simp)]
      exact (suffix_singleton_concat [nul] lf nul).not.mpr nul_ne_lf.symm
    obtain ⟨texts, _⟩ := lineEnds_unique two nuls open_
    have pairs := (List.append_inj' texts rfl).2
    exact nul_ne_cr (List.cons.inj pairs).1

end

/-! ## No LF behind a CR which was sent -/

theorem head_formatToNETASCII_of_lf
    {raw : Bytes} (head : raw.head? = some lf) :
    (formatToNETASCII raw).head? = some cr := by
  cases raw with
  | nil => simp at head
  | cons byte rest =>
      obtain rfl : byte = lf := by
        simpa using head
      simp

variable {stray : UInt8} {numBytes : Nat}

/-- A call encodes the overflow buffer from its first byte on. -/
theorem Fill.head
    {overflow buffer kept : Bytes} {stream next : Stream}
    (fill : Fill stray numBytes overflow stream buffer kept next)
    (least : 0 < numBytes) (head : overflow.head? = some lf) :
    buffer.head? = some lf := by
  cases fill with
  | short => simp [head]
  | stops => simp [head]
  | ends => simp [head]
  | cut enough =>
      cases buffer with
      | nil => simp at enough; omega
      | cons => simpa using head

/-- An overflow buffer which begins with an LF is sent with a CR. -/
theorem Encoded.head
    {overflow sent : Bytes} {stream : Stream}
    (encoded : Encoded stray numBytes overflow stream sent)
    (least : 2 ≤ numBytes) (head : overflow.head? = some lf) :
    sent.head? = some cr := by
  cases encoded with
  | last =>
      rw [List.head?_append, head_formatToNETASCII_of_lf (by simp [head])]
      rfl
  | @more _ buffer _ _ _ _ fill _ =>
      obtain ⟨count, ended, _⟩ := exists_encodeAndEndLine least buffer
      have first :=
        head_formatToNETASCII_of_lf (fill.head (by omega) head)
      rw [ended, List.head?_append, List.head?_take, if_neg (by omega),
        List.head?_append, first]
      rfl

/-- So a text which pairs every CR was not cut inside a CR LF. -/
theorem Encoded.apart
    {done overflow sent : Bytes} {stream : Stream}
    (encoded : Encoded stray numBytes overflow stream sent)
    (least : 2 ≤ numBytes) (paired : Paired (done ++ sent)) :
    [cr] <:+ done → overflow.head? ≠ some lf := by
  rintro ⟨before, rfl⟩ head
  have first := encoded.head least head
  cases sent with
  | nil => simp at first
  | cons byte rest =>
      obtain rfl : byte = cr := by
        simpa using first
      have chain : (before ++ [cr, cr] ++ rest).IsChain PairOf := by
        simpa using paired.chain
      have pair : [cr, cr].IsChain PairOf :=
        chain.left_of_append.right_of_append
      rcases (List.isChain_cons_cons.mp pair).1 rfl with same | same
      · exact lf_ne_cr same.symm
      · exact nul_ne_cr same.symm

/-! ## Runs after the end of the file -/

/-- A reader at the end of the file, and what it sent so far. -/
structure Closing (base : Bytes) (count numBytes : Nat)
    (done overflow : Bytes) : Prop where
  paired : Paired overflow
  ending : Ending base count (done ++ overflow)
  settled : Settled (numBytes - 2) ([cr, nul] <:+ base) overflow

section

variable {base done overflow : Bytes} {count : Nat}

theorem Paired.append_lineEnds {raw : Bytes} (paired : Paired raw)
    (more : Nat) : Paired (raw ++ lineEnds more) := by
  induction more with
  | zero => simpa using paired
  | succ more induction =>
      rw [lineEnds_succ, ← List.append_assoc]
      exact induction.append_crLf

/-- The next overflow buffer is at the end too, if what is encoded is. -/
theorem Closing.next
    {start last : Bytes}
    (least : 2 ≤ numBytes)
    (ending : Ending base count
      (done ++ encodeAndEndLine numBytes (start ++ last)))
    (few : start.length < numBytes) (tail : Tail last)
    (only : nul ∈ formatToNETASCII last → [cr, nul] <:+ base) :
    Closing base count numBytes
      (done ++ (encodeAndEndLine numBytes (start ++ last)).take numBytes)
      ((encodeAndEndLine numBytes (start ++ last)).drop numBytes) := by
  obtain ⟨more, ended, _⟩ := exists_encodeAndEndLine least (start ++ last)
  constructor
  · rw [ended]
    exact ((paired_formatToNETASCII _).append_lineEnds more).drop numBytes
  · rw [List.append_assoc, List.take_append_drop]
    exact ending
  · rw [ended]
    exact settled_drop few tail only

/-- A NUL behind a CR or a NUL gets another one in front of it. -/
theorem exists_formatToNETASCII_nul
    {byte : UInt8} (behind : NulBehind byte nul) (before : Bytes) :
    ∃ start, formatToNETASCII (before ++ [byte, nul]) =
      start ++ [nul, nul] := by
  rcases behind rfl with rfl | rfl
  · refine ⟨formatToNETASCII before ++ [cr], ?_⟩
    rw [formatToNETASCII_append_of_head (by simp [lf_ne_cr.symm]),
      formatToNETASCII_cr (by simp [nul_ne_lf]),
      formatToNETASCII_plain nul_ne_cr nul_ne_lf]
    simp
  · refine ⟨formatToNETASCII before, ?_⟩
    rw [formatToNETASCII_append_of_head (by simp [nul_ne_lf]),
      formatToNETASCII_plain nul_ne_cr nul_ne_lf,
      formatToNETASCII_plain nul_ne_cr nul_ne_lf]
    rfl

/-- A tail which ends in a plain byte ends in a NUL. -/
theorem Tail.nul_of_plain
    {raw : Bytes} (tail : Tail raw) (many : 2 ≤ raw.length)
    (plain : EndsPlain raw) :
    ∃ before byte, raw = before ++ [byte, nul] ∧ NulBehind byte nul := by
  obtain ⟨rest, last, rfl⟩ :=
    (List.eq_nil_or_concat' raw).resolve_left
      (List.ne_nil_of_length_pos (by omega))
  rw [List.length_append, List.length_singleton] at many
  obtain ⟨before, byte, rfl⟩ :=
    (List.eq_nil_or_concat' rest).resolve_left
      (List.ne_nil_of_length_pos (by omega))
  have isNul : last = nul := by
    refine (tail.bytes last (by simp)).resolve_left ?_
    rintro (rfl | rfl)
    · exact plain.notCr (List.suffix_append _ _)
    · exact plain.notLf (List.suffix_append _ _)
  subst isNul
  have inside : [byte, nul] <:+: before ++ [byte] ++ [nul] :=
    ⟨before, [], by simp⟩
  have pair := List.isChain_cons_cons.mp (tail.inside inside).chain
  exact ⟨before, byte, by simp, pair.1⟩

/-- A call after the end of the file does not come back from there. -/
theorem Closing.step
    {buffer kept : Bytes} {next : Stream}
    (least : 2 ≤ numBytes)
    (closing : Closing base count numBytes done overflow)
    (apart : [cr] <:+ done → overflow.head? ≠ some lf)
    (fill : Fill lf numBytes overflow ⟨[], true⟩ buffer kept next) :
    next = ⟨[], true⟩ ∧
      Closing base count numBytes
        (done ++ (encodeAndEndLine numBytes buffer).take numBytes)
        ((encodeAndEndLine numBytes buffer).drop numBytes) := by
  obtain ⟨more, ended, _⟩ := exists_encodeAndEndLine least buffer
  obtain ⟨start, last, rfl, few, tail, only⟩ := closing.settled
  have encoded := closing.ending.encode apart
  have pairedLast : Paired last :=
    closing.paired.suffix (List.suffix_append start last)
  have onlyEncoded : nul ∈ formatToNETASCII last → [cr, nul] <:+ base :=
    fun member => only (nul_mem_of_formatToNETASCII pairedLast member)
  generalize atEnd : (⟨[], true⟩ : Stream) = stream at fill
  generalize whole : start ++ last = given at fill
  cases fill with
  | short =>
      obtain ⟨rfl, rfl⟩ := Stream.mk.inj atEnd
      subst whole
      rw [List.append_nil] at ended ⊢
      refine ⟨rfl, Closing.next least ?_ (by omega) tail onlyEncoded⟩
      rw [ended, ← List.append_assoc]
      exact encoded.append_lineEnds more
  | stops some_ =>
      have none_ := (Stream.mk.inj atEnd).1
      simp [some_] at none_
  | ends =>
      obtain ⟨rfl, rfl⟩ := Stream.mk.inj atEnd
      subst whole
      have lines : Tail (last ++ [lf]) :=
        tail.append_lines (by simp [IsLineByte])
      have same : formatToNETASCII (start ++ last ++ [lf]) =
          formatToNETASCII (start ++ last) ++ crLf := by
        rw [formatToNETASCII_append_of_whole closing.paired.whole]
        rfl
      rw [List.append_nil] at ended ⊢
      rw [same] at ended
      rw [List.append_assoc] at ended ⊢
      refine ⟨rfl, Closing.next least ?_ (by omega) lines ?_⟩
      · rw [ended, ← List.append_assoc, ← List.append_assoc]
        exact encoded.append_crLf.append_lineEnds more
      · rw [formatToNETASCII_append_of_whole pairedLast.whole]
        intro member
        rcases List.mem_append.mp member with inside | added
        · exact onlyEncoded inside
        · simp [nul_ne_cr, nul_ne_lf] at added
  | cut enough plain =>
      obtain ⟨left, whole⟩ : ∃ left, start ++ last = buffer ++ left :=
        ⟨_, whole⟩
      obtain ⟨middle, rfl⟩ : start <+: buffer :=
        List.prefix_of_prefix_length_le ⟨last, whole⟩ ⟨left, rfl⟩
          (by omega)
      obtain rfl : last = middle ++ left := by
        rw [List.append_assoc] at whole
        exact List.append_cancel_left whole
      rw [List.length_append] at enough
      have some_ : middle ≠ [] := List.ne_nil_of_length_pos (by omega)
      have plainMiddle : EndsPlain middle :=
        ⟨fun ends => plain.notCr (ends.trans (List.suffix_append _ _)),
          fun ends => plain.notLf (ends.trans (List.suffix_append _ _))⟩
      have inside : middle <:+: middle ++ left :=
        (List.prefix_append _ _).isInfix
      obtain ⟨before, byte, rfl, behind⟩ :=
        (tail.inside inside).nul_of_plain (by omega) plainMiddle
      have nuls : [cr, nul] <:+ base :=
        only (by simp)
      refine
        ⟨rfl, Closing.next least ?_ (by omega) (tail.inside inside)
          fun _ => nuls⟩
      obtain ⟨first, twice⟩ :=
        exists_formatToNETASCII_nul behind (start ++ before)
      rw [encodeAndEndLine_of_open least plain.notLf,
        ← List.append_assoc start, twice]
      refine Or.inr ⟨nuls, 1, done ++ first, ?_⟩
      simp [lineEnds]

/-- Nothing of the file is sent as it is from there on. -/
theorem Closing.run
    {sent : Bytes} {stream : Stream}
    (closing : Closing base count numBytes done overflow)
    (least : 2 ≤ numBytes)
    (encoded : Encoded lf numBytes overflow stream sent)
    (atEnd : stream = ⟨[], true⟩)
    (open_ : ¬ [lf] <:+ base)
    (paired : Paired (done ++ sent)) :
    done ++ sent ≠ base ++ lineEnds count := by
  have apart := encoded.apart least paired
  induction encoded generalizing done with
  | last few =>
      obtain ⟨rfl, rfl⟩ := Stream.mk.inj atEnd
      rw [List.append_nil, ← List.append_assoc]
      exact (closing.ending.encode apart).overdone open_
  | more fill rest induction =>
      subst atEnd
      obtain ⟨same, later⟩ := closing.step least apart fill
      rw [← List.append_assoc] at paired ⊢
      exact
        induction later same paired (rest.apart least paired)

end

end IsaTftp.Files
