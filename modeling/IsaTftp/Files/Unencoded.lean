import IsaTftp.Files.Codec
import IsaTftp.Files.Splitting

/-!
# A text which was never encoded

A NETASCII writer also decodes what was sent as it is.  A CR LF becomes an LF,
as it would on the way through the codec; a CR NUL of the text however is taken
for an encoded CR, and the NUL is lost.
-/

namespace IsaTftp.Files

open IsaTftp.Wire

/-- Two texts are the same, but for the CR LF which the codec replaces. -/
def SameUpToLineEnds (first second : Bytes) : Prop :=
  second = normalise first ∨ normalise second = normalise first

theorem SameUpToLineEnds.refl (text : Bytes) :
    SameUpToLineEnds text text :=
  Or.inr rfl

theorem length_normalise_le (raw : Bytes) :
    (normalise raw).length ≤ raw.length := by
  induction raw using normalise.induct with
  | case1 => exact le_rfl
  | case2 byte => exact le_rfl
  | case3 byte next rest pair induction =>
      obtain ⟨rfl, rfl⟩ := pair
      rw [normalise_cr_lf]
      simp only [List.length_cons]
      omega
  | case4 byte next rest other induction =>
      rw [normalise, if_neg other]
      exact Nat.succ_le_succ induction

/-- A text which is shorter than the normalised one is another text. -/
theorem not_sameUpToLineEnds_of_length
    {first second : Bytes}
    (shorter : second.length < (normalise first).length) :
    ¬ SameUpToLineEnds first second := by
  have bound := length_normalise_le second
  rintro (same | same)
  · rw [same] at shorter
    exact absurd shorter (lt_irrefl _)
  · rw [same] at bound
    exact absurd shorter (Nat.not_lt.mpr bound)

/-- An encoded text with one more line end is longer than the text. -/
theorem length_normalise_lt_encoded (raw : Bytes) :
    (normalise raw).length <
      (normalise (formatToNETASCII raw ++ crLf)).length := by
  induction raw using formatToNETASCII.induct with
  | case1 => decide
  | case2 after induction => simpa using induction
  | case3 next after notLf induction =>
      have lone : (next :: after).head? ≠ some lf := by
        simpa using notLf
      rw [formatToNETASCII_cr lone, normalise_cr lone, List.cons_append,
        List.cons_append, normalise_cr (by simpa using nul_ne_lf),
        normalise_plain nul_ne_cr]
      simp only [List.length_cons]
      omega
  | case4 => decide
  | case5 after _ induction =>
      rw [formatToNETASCII_lf, normalise_plain lf_ne_cr]
      simpa using induction
  | case6 byte after notCr notLf induction =>
      rw [formatToNETASCII_plain notCr notLf, normalise_plain notCr,
        List.cons_append, normalise_plain notCr]
      exact Nat.succ_lt_succ induction

/-- So it is not the text. -/
theorem not_sameUpToLineEnds_encoded (raw : Bytes) :
    ¬ SameUpToLineEnds raw (formatToNETASCII raw ++ crLf) := by
  have longer := length_normalise_lt_encoded raw
  have bound := length_normalise_le (formatToNETASCII raw ++ crLf)
  rintro (same | same)
  · rw [same] at bound longer
    exact absurd (longer.trans_le bound) (lt_irrefl _)
  · rw [same] at longer
    exact absurd longer (lt_irrefl _)

/-! ## Decoding a text -/

/-- Without a CR NUL, decoding a text normalises it. -/
theorem formatFromNETASCII_eq_normalise
    {raw : Bytes} (without : ¬ [cr, nul] <:+: raw) :
    formatFromNETASCII raw = normalise raw := by
  induction raw using formatFromNETASCII.induct with
  | case1 => rfl
  | case2 byte => rfl
  | case3 after induction =>
      have later := induction fun inside =>
        without (inside.trans (List.suffix_append [cr, lf] after).isInfix)
      simp [later]
  | case4 after _ induction =>
      exact absurd (List.prefix_append [cr, nul] after).isInfix without
  | case5 next after notLf notNul induction =>
      have later := induction fun inside =>
        without (inside.trans (List.suffix_cons cr _).isInfix)
      rw [formatFromNETASCII_cr (by simpa using notLf)
        (by simpa using notNul), later, normalise_cr (by simpa using notLf)]
  | case6 byte next after notCr induction =>
      have later := induction fun inside =>
        without (inside.trans (List.suffix_cons byte _).isInfix)
      rw [formatFromNETASCII_plain notCr, later, normalise_plain notCr]

theorem length_formatFromNETASCII_le (raw : Bytes) :
    (formatFromNETASCII raw).length ≤ (normalise raw).length := by
  induction raw using formatFromNETASCII.induct with
  | case1 => exact le_rfl
  | case2 byte => exact le_rfl
  | case3 after induction => simpa using induction
  | case4 after _ induction =>
      rw [formatFromNETASCII_cr_nul,
        normalise_cr (by simpa using nul_ne_lf), normalise_plain nul_ne_cr]
      simp only [List.length_cons]
      omega
  | case5 next after notLf notNul induction =>
      rw [formatFromNETASCII_cr (by simpa using notLf)
        (by simpa using notNul), normalise_cr (by simpa using notLf)]
      exact Nat.succ_le_succ induction
  | case6 byte next after notCr induction =>
      rw [formatFromNETASCII_plain notCr, normalise_plain notCr]
      exact Nat.succ_le_succ induction

/-- Every CR NUL loses its NUL. -/
theorem length_formatFromNETASCII_lt
    {raw : Bytes} (inside : [cr, nul] <:+: raw) :
    (formatFromNETASCII raw).length < (normalise raw).length := by
  induction raw using formatFromNETASCII.induct with
  | case1 => simp at inside
  | case2 byte => simp [List.infix_cons_iff] at inside
  | case3 after induction =>
      have later : [cr, nul] <:+: after := by
        simpa [List.infix_cons_iff, nul_ne_lf, lf_ne_cr.symm] using inside
      simpa using induction later
  | case4 after _ induction =>
      have bound := length_formatFromNETASCII_le after
      rw [formatFromNETASCII_cr_nul,
        normalise_cr (by simpa using nul_ne_lf), normalise_plain nul_ne_cr]
      simp only [List.length_cons]
      omega
  | case5 next after notLf notNul induction =>
      have later : [cr, nul] <:+: next :: after := by
        rcases List.infix_cons_iff.mp inside with first | later
        · simp [Ne.symm notNul] at first
        · exact later
      rw [formatFromNETASCII_cr (by simpa using notLf)
        (by simpa using notNul), normalise_cr (by simpa using notLf)]
      exact Nat.succ_lt_succ (induction later)
  | case6 byte next after notCr induction =>
      have later : [cr, nul] <:+: next :: after := by
        rcases List.infix_cons_iff.mp inside with first | later
        · simp [Ne.symm notCr] at first
        · exact later
      rw [formatFromNETASCII_plain notCr, normalise_plain notCr]
      exact Nat.succ_lt_succ (induction later)

/-! ## Block by block -/

theorem heldAfter_suffix
    {raw : Bytes} (unpaired : ¬ [cr, nul] <:+ raw) :
    heldAfter raw <:+ raw := by
  unfold heldAfter
  split_ifs with ends
  · exact ends.resolve_right unpaired
  · exact List.nil_suffix

/-- Where no CR NUL comes, the blocks give what their stream gives. -/
theorem decodeBlocks_of_no_cr_nul
    {before written held : Bytes} {blocks : List Bytes}
    (without : ¬ [cr, nul] <:+: heldAfter before ++ blocks.flatten)
    (result :
      decodeBlocks (heldAfter before) blocks = some (written, held)) :
    written ++ held =
      formatFromNETASCII (heldAfter before ++ blocks.flatten) := by
  induction blocks generalizing before written with
  | nil =>
      cases result
      unfold heldAfter
      split_ifs <;> rfl
  | cons block blocks induction =>
      rw [List.flatten_cons, ← List.append_assoc] at without ⊢
      rw [decodeBlocks] at result
      by_cases some_ : heldAfter before ++ block = []
      · rw [List.append_eq_nil_iff] at some_
        rw [some_.1, some_.2] at result
        cases result
      · obtain ⟨bytes, decodes, whole⟩ := decodeBlock_netascii some_
        have unpaired : ¬ [cr, nul] <:+ heldAfter before ++ block := by
          intro pair
          exact without
            (pair.isInfix.trans (List.prefix_append _ _).isInfix)
        simp only [decodes] at result
        cases rest : decodeBlocks (heldAfter (heldAfter before ++ block))
            blocks with
        | none =>
            rw [rest] at result
            cases result
        | some pair =>
            obtain ⟨more, last⟩ := pair
            rw [rest] at result
            cases result
            obtain ⟨start, ends⟩ := heldAfter_suffix unpaired
            have inside :
                heldAfter (heldAfter before ++ block) ++ blocks.flatten <:+:
                  heldAfter before ++ block ++ blocks.flatten :=
              List.IsSuffix.isInfix
                ⟨start, by rw [← List.append_assoc, ends]⟩
            have later :=
              induction (fun pair => without (pair.trans inside)) rest
            rw [formatFromNETASCII_remaining whole, List.append_assoc, later,
              remaining, if_neg unpaired]

/--
Exactly when a text which was not encoded goes through the writer's decoder
unharmed: it contains no CR NUL.
-/
theorem sameUpToLineEnds_decodeBlocks_iff
    {blocks : List Bytes} {written held : Bytes}
    (result : decodeBlocks [] blocks = some (written, held)) :
    SameUpToLineEnds blocks.flatten (written ++ held) ↔
      ¬ [cr, nul] <:+: blocks.flatten := by
  have nothing : heldAfter [] = [] := rfl
  rw [← nothing] at result
  constructor
  · intro same inside
    have bound := length_decodeBlocks_le result
    rw [nothing, List.nil_append] at bound
    have lost := length_formatFromNETASCII_lt inside
    exact not_sameUpToLineEnds_of_length (bound.trans_lt lost) same
  · intro without
    have stream :
        written ++ held =
          formatFromNETASCII (heldAfter [] ++ blocks.flatten) :=
      decodeBlocks_of_no_cr_nul without result
    rw [nothing, List.nil_append,
      formatFromNETASCII_eq_normalise without] at stream
    exact Or.inl stream

/-! ## Successive calls of WriteFile -/

namespace Writer

variable {writer next : Writer} {storage stored : Storage}
  {host : HostChoice} {block : Bytes}

/-- A call which succeeds does so wherever nothing fails. -/
theorem writeFile_of_done
    (result : writer.writeFile storage host block = (.done, next, stored)) :
    writer.writeFile storage {} block = (.done, next, stored) := by
  have opened : ∀ (writer : Writer) (storage : Storage) position,
      writer.writeOpened storage host position block =
          (.done, next, stored) →
        writer.writeOpened storage {} position block =
          (.done, next, stored) := by
    intro writer storage position result
    unfold writeOpened at result ⊢
    cases decodes :
        decodeBlock writer.mode writer.tbwLaterBuffer block with
    | none => simp [decodes] at result
    | some pair =>
        cases fails : host.writeFails with
        | none => simpa [decodes, fails] using result
        | some count => simp [decodes, fails] at result
  rcases writer.writeFile_cases storage host block with
    ⟨position, isOpen, wrote⟩ | ⟨_, _, wrote⟩ | ⟨unopened, opens, wrote⟩
  · rw [wrote] at result
    rw [writeFile_of_open isOpen]
    exact opened writer storage position result
  · rw [wrote] at result
    cases result
  · rw [wrote] at result
    obtain ⟨_, notDirectory⟩ := not_or.mp opens
    rw [writeFile_of_opens unopened (by simp [notDirectory])]
    exact opened _ _ 0 result

/-- Such a call has written its whole block. -/
theorem writeFails_of_done
    (result : writer.writeFile storage host block = (.done, next, stored)) :
    host.writeFails = none := by
  cases fails : host.writeFails with
  | none => rfl
  | some count =>
      have opened : ∀ (writer : Writer) (storage : Storage) position,
          writer.writeOpened storage host position block ≠
            (.done, next, stored) := by
        intro writer storage position
        unfold writeOpened
        cases decodes :
            decodeBlock writer.mode writer.tbwLaterBuffer block with
        | none => simp
        | some pair => simp [fails]
      rcases writer.writeFile_cases storage host block with
        ⟨position, _, wrote⟩ | ⟨_, _, wrote⟩ | ⟨_, _, wrote⟩
      · rw [wrote] at result
        exact absurd result (opened writer storage position)
      · rw [wrote] at result
        cases result
      · rw [wrote] at result
        exact absurd result (opened _ _ 0)

theorem writeAll_concat
    {blocks : List Bytes}
    (earlier : writer.writeAll storage {} blocks = (.done, next, stored))
    {last : Writer} {after : Storage}
    (result : next.writeFile stored {} block = (.done, last, after)) :
    writer.writeAll storage {} (blocks ++ [block]) =
      (.done, last, after) := by
  induction blocks generalizing writer storage with
  | nil =>
      cases earlier
      rw [List.nil_append, writeAll, result]
      rfl
  | cons first blocks induction =>
      rw [List.cons_append]
      unfold writeAll at earlier ⊢
      cases wrote : writer.writeFile storage {} first with
      | mk status rest =>
          obtain ⟨reached, middle⟩ := rest
          rw [wrote] at earlier
          cases status with
          | done => exact induction earlier
          | threw => cases earlier
          | undefined => cases earlier

/-- The destructor, where the byte held back reaches the file. -/
theorem close_of_takes
    (writes : host.writeFails = none) (closes : host.closeFails = false) :
    writer.close storage host = writer.close storage {} := by
  unfold close
  simp [writes, closes]

/-- What a NETASCII writer leaves behind, if no call fails. -/
theorem content_of_writeAll
    {path : Path} {blocks : List Bytes} (some_ : blocks ≠ [])
    (result :
      (Writer.make path .NETASCII).writeAll storage {} blocks =
        (.done, writer, stored)) :
    ∃ written held, decodeBlocks [] blocks = some (written, held) ∧
      (writer.close stored {}).files.content path =
        some (written ++ held) := by
  cases blocks with
  | nil => exact absurd rfl some_
  | cons block blocks =>
      have notDirectory : storage.files.lookup path ≠ some .directory := by
        intro isDirectory
        simp [writeAll, writeFile, openFile, Writer.make,
          isDirectory] at result
      obtain ⟨emptied, filled, same⟩ :=
        writeAll_make notDirectory block blocks
      have all := filled.writeAll (block :: blocks)
      rw [← same, result] at all
      have nothing : (Writer.opened path).tbwLaterBuffer = [] := rfl
      rw [nothing] at all
      cases decodes : decodeBlocks [] (block :: blocks) with
      | none =>
          rw [decodes] at all
          obtain ⟨_, _, undefined_⟩ := all
          cases undefined_
      | some pair =>
          obtain ⟨written, held⟩ := pair
          rw [decodes] at all
          obtain ⟨_, _, ended, content⟩ := all
          cases ended
          exact ⟨written, held, rfl, content⟩

end Writer

end IsaTftp.Files
