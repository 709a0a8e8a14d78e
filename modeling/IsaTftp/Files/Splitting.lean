import IsaTftp.Files.Codec
import IsaTftp.Files.Writer

/-!
# NETASCII blocks and the stream they are cut from

A writer decodes each block by itself and holds a CR back at its end.  It does
not know whether this CR is half of a pair or the result of CR NUL; in the
second case it joins it once more with the first byte of the next block.
-/

namespace IsaTftp.Files

open IsaTftp.Wire

/-! ## Decoding in two parts -/

/-- What comes before a CR is decoded without looking behind it. -/
theorem exists_formatFromNETASCII_cr (first : Bytes) :
    ∃ decoded, ∀ rest,
      formatFromNETASCII (first ++ cr :: rest) =
        decoded ++ formatFromNETASCII (cr :: rest) := by
  induction first using formatFromNETASCII.induct with
  | case1 => exact ⟨[], fun rest => rfl⟩
  | case2 byte =>
      refine ⟨[byte], fun rest => ?_⟩
      by_cases isCr : byte = cr
      · subst isCr
        exact
          formatFromNETASCII_cr
            (fun same => lf_ne_cr (Option.some.inj same).symm)
            (fun same => nul_ne_cr (Option.some.inj same).symm)
      · exact formatFromNETASCII_plain isCr _
  | case3 after induction =>
      obtain ⟨decoded, later⟩ := induction
      exact ⟨lf :: decoded, fun rest => by simp [later]⟩
  | case4 after _ induction =>
      obtain ⟨decoded, later⟩ := induction
      exact ⟨cr :: decoded, fun rest => by simp [later]⟩
  | case5 next after notLf notNul induction =>
      obtain ⟨decoded, later⟩ := induction
      refine ⟨cr :: decoded, fun rest => ?_⟩
      rw [List.cons_append, formatFromNETASCII_cr (by simpa using notLf)
        (by simpa using notNul), later]
      rfl
  | case6 byte next after notCr induction =>
      obtain ⟨decoded, later⟩ := induction
      refine ⟨byte :: decoded, fun rest => ?_⟩
      rw [List.cons_append, formatFromNETASCII_plain notCr, later]
      rfl

/-! ## What a writer holds back -/

@[simp]
theorem cr_suffix_concat (raw : Bytes) (byte : UInt8) :
    [cr] <:+ raw ++ [byte] ↔ byte = cr :=
  (suffix_singleton_concat raw cr byte).trans eq_comm

@[simp]
theorem cr_nul_suffix_concat (raw : Bytes) (byte : UInt8) :
    [cr, nul] <:+ raw ++ [byte] ↔ byte = nul ∧ [cr] <:+ raw := by
  rw [List.suffix_concat_iff]
  constructor
  · rintro (impossible | ⟨before, same, ends⟩)
    · cases impossible
    · have both : [cr] ++ [nul] = before ++ [byte] := same
      obtain ⟨rfl, last⟩ := List.append_inj' both rfl
      exact ⟨(List.cons.inj last).1.symm, ends⟩
  · rintro ⟨rfl, ends⟩
    exact Or.inr ⟨[cr], rfl, ends⟩

/-- The CR which is held back after these bytes. -/
def heldAfter (raw : Bytes) : Bytes :=
  if [cr] <:+ raw ∨ [cr, nul] <:+ raw then [cr] else []

theorem heldAfter_congr
    {first second : Bytes} (lone : [cr] <:+ first ↔ [cr] <:+ second)
    (pair : [cr, nul] <:+ first ↔ [cr, nul] <:+ second) :
    heldAfter first = heldAfter second := by
  unfold heldAfter
  simp only [lone, pair]

/-- The last decoded byte is a CR exactly after a CR or after CR NUL. -/
theorem getLast_formatFromNETASCII (raw : Bytes) :
    (formatFromNETASCII raw).getLast? = some cr ↔
      [cr] <:+ raw ∨ [cr, nul] <:+ raw := by
  induction raw using List.reverseRecOn with
  | nil => simp
  | append_singleton before byte _ =>
      rw [cr_suffix_concat, cr_nul_suffix_concat]
      by_cases isCr : byte = cr
      · obtain ⟨decoded, later⟩ := exists_formatFromNETASCII_cr before
        subst isCr
        rw [later []]
        simp
      · by_cases ends : [cr] <:+ before
        · obtain ⟨start, rfl⟩ := ends
          obtain ⟨decoded, later⟩ := exists_formatFromNETASCII_cr start
          rw [List.append_assoc, List.singleton_append, later]
          by_cases isNul : byte = nul
          · subst isNul
            simp
          · by_cases isLf : byte = lf
            · subst isLf
              simp [lf_ne_cr, nul_ne_lf.symm]
            · rw [formatFromNETASCII_cr (by simpa using isLf)
                (by simpa using isNul)]
              simp [isCr, isNul]
        · rw [formatFromNETASCII_append ends]
          simp [isCr, ends]

theorem formatFromNETASCII_ne_nil {raw : Bytes} (some_ : raw ≠ []) :
    formatFromNETASCII raw ≠ [] := by
  fun_cases formatFromNETASCII raw
  · exact absurd rfl some_
  all_goals simp

/-- What a block contributes, unless it is empty and nothing is held. -/
theorem decodeBlock_netascii
    {held block : Bytes} (some_ : held ++ block ≠ []) :
    ∃ bytes,
      Writer.decodeBlock .NETASCII held block =
          some (bytes, heldAfter (held ++ block)) ∧
        formatFromNETASCII (held ++ block) =
          bytes ++ heldAfter (held ++ block) := by
  have last := getLast_formatFromNETASCII (held ++ block)
  unfold Writer.decodeBlock heldAfter
  dsimp only
  cases found : (formatFromNETASCII (held ++ block)).getLast? with
  | none =>
      exact
        absurd (List.getLast?_eq_none_iff.mp found)
          (formatFromNETASCII_ne_nil some_)
  | some byte =>
      rw [found, Option.some.injEq] at last
      by_cases isCr : byte = cr
      · rw [if_pos (last.mp isCr), isCr]
        refine ⟨_, rfl, ?_⟩
        rw [isCr] at found
        exact (List.dropLast_append_getLast? cr found).symm
      · rw [if_neg (mt last.mpr isCr)]
        refine ⟨_, if_neg isCr, ?_⟩
        rw [List.append_nil]

/-! ## The condition on the blocks -/

/--
After the bytes `before` have come, the blocks are cut where the writer does
not notice: behind CR NUL neither an LF nor a NUL comes first, and an empty
block follows a CR which is held back.
-/
structure SplitSafe (before : Bytes) (blocks : List Bytes) : Prop where
  pairs : ∀ earlier later, blocks = earlier ++ later →
    [cr, nul] <:+ before ++ earlier.flatten →
      later.flatten.head? ≠ some lf ∧ later.flatten.head? ≠ some nul
  empties : ∀ earlier later, blocks = earlier ++ [] :: later →
    heldAfter (before ++ earlier.flatten) = [cr]

theorem SplitSafe.nil (before : Bytes) : SplitSafe before [] where
  pairs earlier later same _ := by
    obtain ⟨-, rfl⟩ := List.nil_eq_append_iff.mp same
    simp
  empties earlier later same := by
    simp at same

theorem splitSafe_cons
    {before block : Bytes} {blocks : List Bytes} :
    SplitSafe before (block :: blocks) ↔
      ([cr, nul] <:+ before →
          (block ++ blocks.flatten).head? ≠ some lf ∧
            (block ++ blocks.flatten).head? ≠ some nul) ∧
        (block = [] → heldAfter before = [cr]) ∧
          SplitSafe (before ++ block) blocks := by
  constructor
  · intro safe
    refine ⟨?_, ?_, ?_, ?_⟩
    · intro ends
      exact safe.pairs [] (block :: blocks) rfl (by simpa using ends)
    · rintro rfl
      simpa using safe.empties [] blocks rfl
    · intro earlier later same ends
      refine safe.pairs (block :: earlier) later (by rw [same]; rfl) ?_
      simpa using ends
    · intro earlier later same
      have held :=
        safe.empties (block :: earlier) later (by rw [same]; rfl)
      simpa using held
  · rintro ⟨pair, empty, safe⟩
    constructor
    · intro earlier later same ends
      cases earlier with
      | nil =>
          rw [List.nil_append] at same
          rw [← same]
          exact pair (by simpa using ends)
      | cons first earlier =>
          obtain ⟨rfl, rest⟩ := List.cons.inj same
          exact safe.pairs earlier later rest (by simpa using ends)
    · intro earlier later same
      cases earlier with
      | nil =>
          obtain ⟨rfl, _⟩ := List.cons.inj same
          simpa using empty rfl
      | cons first earlier =>
          obtain ⟨rfl, rest⟩ := List.cons.inj same
          simpa using safe.empties earlier later rest

/-! ## A whole list of blocks -/

/-- What a writer has written after some blocks, and what it holds back. -/
def decodeBlocks (held : Bytes) : List Bytes → Option (Bytes × Bytes)
  | [] => some ([], held)
  | block :: blocks =>
      match Writer.decodeBlock .NETASCII held block with
      | none => none
      | some (bytes, held) =>
          match decodeBlocks held blocks with
          | none => none
          | some (written, held) => some (bytes ++ written, held)

/-- How the decoded stream goes on after what was written of `before`. -/
def remaining (before rest : Bytes) : Bytes :=
  if [cr, nul] <:+ before then cr :: formatFromNETASCII rest
  else formatFromNETASCII (heldAfter before ++ rest)

theorem length_cr_le (rest : Bytes) :
    (formatFromNETASCII (cr :: rest)).length ≤
      (formatFromNETASCII rest).length + 1 := by
  cases rest with
  | nil => simp
  | cons next after =>
      by_cases isLf : next = lf
      · subst isLf
        rw [formatFromNETASCII_cr_lf, formatFromNETASCII_plain lf_ne_cr]
        simp
      · by_cases isNul : next = nul
        · subst isNul
          rw [formatFromNETASCII_cr_nul,
            formatFromNETASCII_plain nul_ne_cr]
          simp
        · rw [formatFromNETASCII_cr (by simpa using isLf)
            (by simpa using isNul)]
          simp

/-- Where the writer joins a CR wrongly, one byte is lost. -/
theorem length_cr_lt {rest : Bytes}
    (joins : rest.head? = some lf ∨ rest.head? = some nul) :
    (formatFromNETASCII (cr :: rest)).length <
      (formatFromNETASCII rest).length + 1 := by
  cases rest with
  | nil => simp at joins
  | cons next after =>
      rcases joins with isLf | isNul
      · obtain rfl : next = lf := by simpa using isLf
        rw [formatFromNETASCII_cr_lf, formatFromNETASCII_plain lf_ne_cr]
        simp
      · obtain rfl : next = nul := by simpa using isNul
        rw [formatFromNETASCII_cr_nul, formatFromNETASCII_plain nul_ne_cr]
        simp

theorem not_cr_suffix_of_pair {raw : Bytes} (pair : [cr, nul] <:+ raw) :
    ¬ [cr] <:+ raw := by
  obtain ⟨start, rfl⟩ := pair
  rw [show start ++ [cr, nul] = (start ++ [cr]) ++ [nul] by simp,
    cr_suffix_concat]
  exact nul_ne_cr

/-- The stream after a block which was decoded. -/
theorem formatFromNETASCII_remaining
    {raw bytes : Bytes}
    (decoded : formatFromNETASCII raw = bytes ++ heldAfter raw)
    (rest : Bytes) :
    formatFromNETASCII (raw ++ rest) = bytes ++ remaining raw rest := by
  unfold remaining
  by_cases pair : [cr, nul] <:+ raw
  · rw [if_pos pair, formatFromNETASCII_append (not_cr_suffix_of_pair pair),
      decoded, heldAfter, if_pos (Or.inr pair), List.append_assoc]
    rfl
  · rw [if_neg pair]
    by_cases lone : [cr] <:+ raw
    · have held : heldAfter raw = [cr] := if_pos (Or.inl lone)
      rw [held] at decoded ⊢
      obtain ⟨start, rfl⟩ := lone
      obtain ⟨before, later⟩ := exists_formatFromNETASCII_cr start
      rw [later [], formatFromNETASCII_singleton] at decoded
      obtain ⟨rfl, _⟩ := List.append_inj' decoded rfl
      rw [List.append_assoc]
      exact later rest
    · have held : heldAfter raw = [] := if_neg (not_or.mpr ⟨lone, pair⟩)
      rw [held] at decoded ⊢
      rw [formatFromNETASCII_append lone, decoded, List.append_nil]
      rfl

theorem length_remaining (raw rest : Bytes) :
    (formatFromNETASCII (heldAfter raw ++ rest)).length ≤
      (remaining raw rest).length := by
  unfold remaining
  split_ifs with pair
  · rw [heldAfter, if_pos (Or.inr pair)]
    exact length_cr_le rest
  · exact le_rfl

/-- A writer never writes more than the stream which it sees. -/
theorem length_decodeBlocks_le
    {before written held : Bytes} {blocks : List Bytes}
    (result :
      decodeBlocks (heldAfter before) blocks = some (written, held)) :
    (written ++ held).length ≤
      (formatFromNETASCII (heldAfter before ++ blocks.flatten)).length := by
  induction blocks generalizing before written with
  | nil =>
      cases result
      unfold heldAfter
      split_ifs <;> simp
  | cons block blocks induction =>
      rw [decodeBlocks] at result
      by_cases some_ : heldAfter before ++ block = []
      · rw [List.append_eq_nil_iff] at some_
        rw [some_.1, some_.2] at result
        cases result
      · obtain ⟨bytes, decodes, whole⟩ := decodeBlock_netascii some_
        simp only [decodes] at result
        cases rest : decodeBlocks
            (heldAfter (heldAfter before ++ block)) blocks with
        | none =>
            rw [rest] at result
            cases result
        | some pair =>
            obtain ⟨more, last⟩ := pair
            rw [rest] at result
            cases result
            have later := induction rest
            have bound :=
              length_remaining (heldAfter before ++ block) blocks.flatten
            rw [List.flatten_cons, ← List.append_assoc,
              formatFromNETASCII_remaining whole]
            simp only [List.length_append] at later bound ⊢
            omega

/-- A writer which joins no pair wrongly has read what came before. -/
theorem remaining_of_apart
    {before rest : Bytes}
    (apart : [cr, nul] <:+ before →
      rest.head? ≠ some lf ∧ rest.head? ≠ some nul) :
    remaining before rest =
      formatFromNETASCII (heldAfter before ++ rest) := by
  unfold remaining
  split_ifs with pair
  · obtain ⟨notLf, notNul⟩ := apart pair
    rw [heldAfter, if_pos (Or.inr pair)]
    exact (formatFromNETASCII_cr notLf notNul).symm
  · rfl

/-- A block which is not empty decides how the bytes so far end. -/
theorem suffix_after_block
    {before block : Bytes} (some_ : block ≠ [])
    (apart : [cr, nul] <:+ before → block.head? ≠ some nul) :
    ([cr] <:+ heldAfter before ++ block ↔ [cr] <:+ before ++ block) ∧
      ([cr, nul] <:+ heldAfter before ++ block ↔
        [cr, nul] <:+ before ++ block) := by
  induction block using List.reverseRecOn with
  | nil => exact absurd rfl some_
  | append_singleton start byte _ =>
      rw [← List.append_assoc, ← List.append_assoc]
      simp only [cr_suffix_concat, cr_nul_suffix_concat, true_and]
      apply and_congr_right
      rintro rfl
      induction start using List.reverseRecOn with
      | nil =>
          have alone : ¬ [cr, nul] <:+ before := by
            intro pair
            exact apart pair rfl
          rw [List.append_nil, List.append_nil]
          unfold heldAfter
          by_cases lone : [cr] <:+ before
          · simp [lone]
          · simp [lone, alone]
      | append_singleton start last _ =>
          rw [← List.append_assoc, ← List.append_assoc, cr_suffix_concat,
            cr_suffix_concat]

theorem decodeBlocks_cons
    {held block bytes next target : Bytes} {blocks : List Bytes}
    (decodes :
      Writer.decodeBlock .NETASCII held block = some (bytes, next)) :
    (∃ written last,
        decodeBlocks held (block :: blocks) = some (written, last) ∧
          written ++ last = bytes ++ target) ↔
      ∃ written last, decodeBlocks next blocks = some (written, last) ∧
        written ++ last = target := by
  simp only [decodeBlocks, decodes]
  cases decodeBlocks next blocks with
  | none => simp
  | some pair =>
      obtain ⟨written, last⟩ := pair
      constructor
      · rintro ⟨_, _, result, whole⟩
        cases result
        rw [List.append_assoc] at whole
        exact ⟨written, last, rfl, List.append_cancel_left whole⟩
      · rintro ⟨_, _, result, whole⟩
        cases result
        refine ⟨_, _, rfl, ?_⟩
        rw [List.append_assoc, whole]

/-- An empty block is decoded only if a CR is held back, and changes nothing. -/
theorem decodeBlocks_empty_iff
    {before target : Bytes} {blocks : List Bytes} :
    (∃ written held,
        decodeBlocks (heldAfter before) ([] :: blocks) =
            some (written, held) ∧
          written ++ held = target) ↔
      heldAfter before = [cr] ∧
        ∃ written held,
          decodeBlocks (heldAfter before) blocks = some (written, held) ∧
            written ++ held = target := by
  by_cases holds : heldAfter before = [cr]
  · have stays :
        Writer.decodeBlock .NETASCII (heldAfter before) [] =
          some ([], heldAfter before) := by
      rw [holds]
      decide
    rw [and_iff_right holds]
    exact decodeBlocks_cons stays
  · have nothing : heldAfter before = [] := by
      unfold heldAfter at holds ⊢
      split_ifs at holds ⊢
      · exact absurd rfl holds
      · rfl
    refine iff_of_false ?_ fun both => holds both.1
    rintro ⟨_, _, result, _⟩
    rw [nothing] at result
    cases result

/-- Behind a CR NUL which was already read the writer would read on. -/
theorem not_decodes_of_joins
    {before : Bytes} {blocks : List Bytes}
    (joins : ¬ ([cr, nul] <:+ before →
      blocks.flatten.head? ≠ some lf ∧ blocks.flatten.head? ≠ some nul)) :
    ¬ ∃ written held,
      decodeBlocks (heldAfter before) blocks = some (written, held) ∧
        written ++ held = remaining before blocks.flatten := by
  rintro ⟨written, held, result, whole⟩
  obtain ⟨pair, joins⟩ := Classical.not_imp.mp joins
  have bound := length_decodeBlocks_le result
  have joined :
      blocks.flatten.head? = some lf ∨ blocks.flatten.head? = some nul := by
    by_contra neither
    exact joins (not_or.mp neither)
  have fewer := length_cr_lt joined
  rw [whole, remaining, if_pos pair, heldAfter,
    if_pos (Or.inr pair)] at bound
  exact absurd bound (Nat.not_le_of_lt fewer)

/--
The blocks give what their stream gives exactly if they are cut safely; an
empty block at a wrong place is not decoded at all.
-/
theorem decodeBlocks_iff (before : Bytes) (blocks : List Bytes) :
    (∃ written held,
        decodeBlocks (heldAfter before) blocks = some (written, held) ∧
          written ++ held = remaining before blocks.flatten) ↔
      SplitSafe before blocks := by
  induction blocks generalizing before with
  | nil =>
      refine iff_of_true ?_ (.nil before)
      refine ⟨[], heldAfter before, rfl, ?_⟩
      rw [remaining_of_apart (by simp)]
      unfold heldAfter
      split_ifs <;> simp
  | cons block blocks induction =>
      rw [splitSafe_cons, List.flatten_cons]
      by_cases apart :
          [cr, nul] <:+ before →
            (block ++ blocks.flatten).head? ≠ some lf ∧
              (block ++ blocks.flatten).head? ≠ some nul
      · rw [and_iff_right apart, remaining_of_apart apart]
        by_cases empty : block = []
        · subst empty
          simp only [List.nil_append, List.append_nil,
            true_implies] at apart ⊢
          rw [decodeBlocks_empty_iff, ← remaining_of_apart apart, induction]
        · have some_ : heldAfter before ++ block ≠ [] := by
            intro none_
            exact empty (List.append_eq_nil_iff.mp none_).2
          obtain ⟨bytes, decodes, whole⟩ := decodeBlock_netascii some_
          have noNul : [cr, nul] <:+ before → block.head? ≠ some nul := by
            intro pair isNul
            apply (apart pair).2
            rw [List.head?_append, isNul]
            rfl
          obtain ⟨lone, pair⟩ := suffix_after_block empty noNul
          have held :
              heldAfter (heldAfter before ++ block) =
                heldAfter (before ++ block) :=
            heldAfter_congr lone pair
          rw [← List.append_assoc, formatFromNETASCII_remaining whole,
            decodeBlocks_cons decodes, held]
          have same :
              remaining (heldAfter before ++ block) blocks.flatten =
                remaining (before ++ block) blocks.flatten := by
            simp only [remaining, pair, held]
          rw [same, induction]
          simp [empty]
      · refine iff_of_false ?_ fun safe => apart safe.1
        exact not_decodes_of_joins apart

/-! ## Files -/

/-- Successive calls of `WriteFile`, up to the first which fails. -/
def Writer.writeAll (writer : Writer) (storage : Storage)
    (host : HostChoice) : List Bytes → WriteStatus × Writer × Storage
  | [] => (.done, writer, storage)
  | block :: blocks =>
      match writer.writeFile storage host block with
      | (.done, writer, storage) => writer.writeAll storage host blocks
      | stopped => stopped

/-- A NETASCII writer whose open file holds these bytes and no others. -/
structure Writer.Filled (writer : Writer) (storage : Storage)
    (content : Bytes) : Prop where
  netascii : writer.mode = .NETASCII
  opened : writer.file = some content.length
  stored : storage.files.content writer.filepath = some content

namespace Writer.Filled

variable {writer : Writer} {storage : Storage} {content : Bytes}

/-- When the writer is destroyed, the CR held back is written. -/
theorem close (filled : writer.Filled storage content) :
    (writer.close storage {}).files.content writer.filepath =
      some (content ++ writer.tbwLaterBuffer) := by
  unfold Writer.close
  rw [filled.opened]
  dsimp only
  by_cases nothing : writer.tbwLaterBuffer = []
  · rw [if_pos (Or.inl nothing), nothing, List.append_nil]
    exact filled.stored
  · rw [if_neg (by simp [nothing])]
    exact Storage.writeAt_end filled.stored _

theorem writeFile (filled : writer.Filled storage content)
    (block : Bytes) :
    match Writer.decodeBlock .NETASCII writer.tbwLaterBuffer block with
    | none =>
        writer.writeFile storage {} block = (.undefined, writer, storage)
    | some (bytes, held) =>
        ∃ next stored,
          writer.writeFile storage {} block = (.done, next, stored) ∧
            next.filepath = writer.filepath ∧
              next.tbwLaterBuffer = held ∧
                next.Filled stored (content ++ bytes) := by
  unfold Writer.writeFile
  rw [filled.opened]
  dsimp only
  unfold Writer.writeOpened
  rw [filled.netascii]
  cases Writer.decodeBlock .NETASCII writer.tbwLaterBuffer block with
  | none => rfl
  | some pair =>
      obtain ⟨bytes, held⟩ := pair
      refine ⟨_, _, rfl, rfl, rfl, rfl, ?_, ?_⟩
      · simp
      · exact Storage.writeAt_end filled.stored bytes

theorem writeAll (filled : writer.Filled storage content)
    (blocks : List Bytes) :
    match decodeBlocks writer.tbwLaterBuffer blocks with
    | none => ∃ next stored,
        writer.writeAll storage {} blocks = (.undefined, next, stored)
    | some (written, held) =>
        ∃ next stored,
          writer.writeAll storage {} blocks = (.done, next, stored) ∧
            (next.close stored {}).files.content writer.filepath =
              some (content ++ (written ++ held)) := by
  induction blocks generalizing writer storage content with
  | nil => exact ⟨writer, storage, rfl, filled.close⟩
  | cons block blocks induction =>
      have step := filled.writeFile block
      unfold decodeBlocks Writer.writeAll
      cases decodes :
          Writer.decodeBlock .NETASCII writer.tbwLaterBuffer block with
      | none =>
          rw [decodes] at step
          dsimp only at step ⊢
          rw [step]
          exact ⟨_, _, rfl⟩
      | some pair =>
          obtain ⟨bytes, held⟩ := pair
          rw [decodes] at step
          obtain ⟨next, stored, result, path, later, after⟩ := step
          have rest := induction after
          rw [later, path] at rest
          dsimp only
          rw [result]
          dsimp only
          cases more : decodeBlocks held blocks with
          | none =>
              rw [more] at rest
              exact rest
          | some pair =>
              obtain ⟨written, last⟩ := pair
              rw [more] at rest
              obtain ⟨reached, final, all, whole⟩ := rest
              refine ⟨reached, final, all, ?_⟩
              rw [whole]
              simp

end Writer.Filled

/-- A writer which is open at the start of its empty file. -/
def Writer.opened (path : Path) : Writer :=
  { Writer.make path .NETASCII with file := some 0 }

/-- The first call of `WriteFile` empties the file. -/
theorem writeAll_make
    {path : Path} {storage : Storage}
    (notDirectory : storage.files.lookup path ≠ some .directory)
    (block : Bytes) (blocks : List Bytes) :
    ∃ emptied, (Writer.opened path).Filled emptied [] ∧
      (Writer.make path .NETASCII).writeAll storage {}
          (block :: blocks) =
        (Writer.opened path).writeAll emptied {} (block :: blocks) := by
  refine
    ⟨storage.emptied path, ⟨rfl, rfl, storage.content_emptied path⟩, ?_⟩
  unfold Writer.writeAll
  rw [Writer.writeFile_of_opens rfl (by simpa [Writer.make] using notDirectory)]
  rfl

/--
Exactly when a fresh NETASCII writer stores what the blocks encode together:
all calls succeed and, if there was a block, the file holds the decoded stream.
-/
theorem stores_decoded_stream_iff
    {path : Path} {storage : Storage}
    (notDirectory : storage.files.lookup path ≠ some .directory)
    (blocks : List Bytes) :
    (∃ writer stored,
        (Writer.make path .NETASCII).writeAll storage {} blocks =
            (.done, writer, stored) ∧
          (blocks ≠ [] →
            (writer.close stored {}).files.content path =
              some (formatFromNETASCII blocks.flatten))) ↔
      SplitSafe [] blocks := by
  cases blocks with
  | nil =>
      exact iff_of_true ⟨_, _, rfl, fun some_ => absurd rfl some_⟩ (.nil _)
  | cons block blocks =>
      obtain ⟨emptied, filled, same⟩ :=
        writeAll_make notDirectory block blocks
      have whole :
          remaining [] (block :: blocks).flatten =
            formatFromNETASCII (block :: blocks).flatten :=
        remaining_of_apart (by simp)
      rw [same, ← decodeBlocks_iff, whole]
      have nothing : (Writer.opened path).tbwLaterBuffer = heldAfter [] :=
        rfl
      have all := filled.writeAll (block :: blocks)
      rw [nothing] at all
      cases decodes : decodeBlocks (heldAfter []) (block :: blocks) with
      | none =>
          rw [decodes] at all
          obtain ⟨next, stored, result⟩ := all
          rw [result]
          simp
      | some pair =>
          obtain ⟨written, held⟩ := pair
          rw [decodes] at all
          obtain ⟨next, stored, result, content⟩ := all
          rw [result]
          constructor
          · rintro ⟨_, _, ended, holds⟩
            cases ended
            refine ⟨written, held, rfl, ?_⟩
            have both := (holds (by simp)).symm.trans content
            exact (Option.some.inj both).symm
          · rintro ⟨_, _, result, stream⟩
            cases result
            refine ⟨next, stored, rfl, fun _ => ?_⟩
            rw [← stream]
            exact content

/-- Three blocks, one of which is empty and comes while a CR is held back. -/
theorem stores_decoded_stream_small :
    ∃ writer stored,
      (Writer.make (text "r/f") .NETASCII).writeAll
            ⟨smallDisk none, []⟩ {} [[97, cr], [], [lf]] =
          (.done, writer, stored) ∧
        (writer.close stored {}).files.content (text "r/f") =
          some [97, lf] := by
  have notDirectory :
      (⟨smallDisk none, []⟩ : Storage).files.lookup (text "r/f") ≠
        some .directory := by
    decide
  have safe : SplitSafe [] [[97, cr], [], [lf]] := by
    rw [splitSafe_cons, splitSafe_cons, splitSafe_cons]
    refine ⟨?_, ?_, ⟨?_, ?_, ⟨?_, ?_, .nil _⟩⟩⟩
    all_goals decide
  obtain ⟨writer, stored, done, content⟩ :=
    (stores_decoded_stream_iff notDirectory [[97, cr], [], [lf]]).mpr safe
  exact ⟨writer, stored, done, content (by simp)⟩

/--
A text with a CR and a NUL, sent in blocks of eight bytes, loses its last byte;
an empty last block makes the writer look at a byte which is not there.
-/
theorem split_blocks_differ :
    let encoded := formatToNETASCII (text "abcdef" ++ [cr, nul])
    let blocks := [text "abcdef" ++ [cr, nul], [nul]]
    let writer := Writer.make (text "r/f") .NETASCII
    let disk : Storage := ⟨smallDisk none, []⟩
    let cut := writer.writeAll disk {} blocks
    let empty := writer.writeAll disk {} [text "abcdefgh", []]
    encoded = blocks.flatten ∧
      formatFromNETASCII blocks.flatten = text "abcdef" ++ [cr, nul] ∧
        cut.1 = .done ∧
          (cut.2.1.close cut.2.2 {}).files.content (text "r/f") =
              some (text "abcdef" ++ [cr]) ∧
            empty.1 = .undefined := by
  decide +kernel

end IsaTftp.Files
