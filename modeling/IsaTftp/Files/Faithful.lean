import IsaTftp.Files.Closing

/-!
# NETASCII sending and the encoded file

A file is sent as it is encoded, apart from a line end at its end, exactly if
its encoding and that line end fit into one short chunk and the file does not
end in a line end itself.
-/

namespace IsaTftp.Files

open IsaTftp.Wire

/-! ## Before the end of the file -/

/-- A reader which took these bytes of the file and has the rest before it. -/
structure Behind (content before overflow rest : Bytes) : Prop where
  parts : content = before ++ rest
  apart : [cr] <:+ before → rest.head? ≠ some lf
  notLf : ¬ [lf] <:+ before
  paired : Paired overflow

section

variable {content before overflow rest : Bytes}

theorem Behind.start (content : Bytes) : Behind content [] [] content where
  parts := rfl
  apart := by simp
  notLf := by simp
  paired := .nil

/-- What was taken and the rest are encoded one after the other. -/
theorem Behind.encode
    (behind : Behind content before overflow rest) :
    formatToNETASCII content =
      formatToNETASCII before ++ formatToNETASCII rest := by
  rw [behind.parts, formatToNETASCII_append behind.apart]

/-- So are the overflow buffer and the rest. -/
theorem Behind.encodeOverflow
    (behind : Behind content before overflow rest) :
    formatToNETASCII (overflow ++ rest) =
      formatToNETASCII overflow ++ formatToNETASCII rest :=
  formatToNETASCII_append_of_whole behind.paired.whole rest

/-- A call which stops at a plain byte leaves the rest of the file. -/
theorem Behind.stops
    {taken next : Bytes}
    (behind : Behind content before overflow (taken ++ rest))
    (some_ : taken ≠ []) (plain : EndsPlain (overflow ++ taken))
    (paired : Paired next) : Behind content (before ++ taken) next rest where
  parts := by
    rw [behind.parts, List.append_assoc]
  apart := by
    have notCr := plain.notCr
    rw [suffix_singleton_append some_] at notCr ⊢
    exact fun ends => absurd ends notCr
  notLf := by
    have notLf := plain.notLf
    rw [suffix_singleton_append some_] at notLf ⊢
    exact notLf
  paired := paired

end

/-- An overflow buffer is a part of an encoded text. -/
theorem paired_drop_encodeAndEndLine
    {numBytes : Nat} (least : 2 ≤ numBytes) (buffer : Bytes) :
    Paired ((encodeAndEndLine numBytes buffer).drop numBytes) := by
  obtain ⟨count, ended, _⟩ := exists_encodeAndEndLine least buffer
  rw [ended]
  exact ((paired_formatToNETASCII buffer).append_lineEnds count).drop _

/-- What was sent and what is left over end in a line end. -/
theorem lf_suffix_encodeAndEndLine
    {numBytes : Nat} (least : 2 ≤ numBytes) (done buffer : Bytes) :
    [lf] <:+ (done ++ (encodeAndEndLine numBytes buffer).take numBytes) ++
      (encodeAndEndLine numBytes buffer).drop numBytes := by
  obtain ⟨_, _, ends⟩ := exists_encodeAndEndLine least buffer
  rw [List.append_assoc, List.take_append_drop]
  exact
    (List.IsSuffix.trans ⟨[cr], rfl⟩ ends).trans (List.suffix_append _ _)

/-! ## A file which does not end in a line end -/

theorem lf_suffix_append_formatToNETASCII
    {done overflow : Bytes} (ends : [lf] <:+ done ++ overflow) :
    [lf] <:+ done ++ formatToNETASCII overflow := by
  by_cases none_ : overflow = []
  · subst none_
    exact ends
  · rw [suffix_singleton_append none_] at ends
    exact
      ((lf_suffix_formatToNETASCII overflow).mpr ends).trans
        (List.suffix_append _ _)

section

variable {content before done overflow sent : Bytes} {stray : UInt8}
  {numBytes : Nat} {stream : Stream}

/-- Once the end was hit the whole file was taken. -/
theorem Behind.finished
    (open_ : ¬ [lf] <:+ content) (paired : Paired overflow) :
    Behind content content overflow [] where
  parts := by simp
  apart := by simp
  notLf := open_
  paired := paired

/-- A call of such a file goes on behind what it took. -/
theorem Behind.next
    {buffer kept : Bytes} {next : Stream}
    (least : 2 ≤ numBytes)
    (behind : Behind content before overflow stream.rest)
    (open_ : ¬ [lf] <:+ content)
    (fill : Fill stray numBytes overflow stream buffer kept next) :
    ∃ taken,
      Behind content taken
        ((encodeAndEndLine numBytes buffer).drop numBytes) next.rest := by
  have paired := paired_drop_encodeAndEndLine least buffer
  cases fill with
  | short => exact ⟨content, .finished open_ paired⟩
  | stops some_ _ plain =>
      exact ⟨_, behind.stops some_ plain paired⟩
  | ends => exact ⟨content, .finished open_ paired⟩
  | cut => exact ⟨before, { behind with paired := paired }⟩

/-- After the first call a line end is sent inside of the file. -/
theorem Encoded.open_run
    (least : 2 ≤ numBytes)
    (encoded : Encoded stray numBytes overflow stream sent)
    (open_ : ¬ [lf] <:+ content)
    (behind : Behind content before overflow stream.rest)
    (ended : [lf] <:+ done ++ overflow) :
    done ++ sent ≠ formatToNETASCII content ++ crLf := by
  induction encoded generalizing done before with
  | last few =>
      rw [behind.encodeOverflow, behind.encode,
        ← List.append_assoc, ← List.append_assoc]
      intro same
      have texts := List.append_cancel_right (List.append_cancel_right same)
      have last := lf_suffix_append_formatToNETASCII ended
      rw [texts, lf_suffix_formatToNETASCII] at last
      exact behind.notLf last
  | more fill _ induction =>
      obtain ⟨taken, later⟩ := behind.next least open_ fill
      rw [← List.append_assoc]
      exact induction later (lf_suffix_encodeAndEndLine least done _)

/-! ## A file which ends in a line end -/

/-- Only line ends are moved to the right by a line end. -/
theorem suffix_of_overlap
    {first second text : Bytes}
    (same : first ++ text ++ crLf = second ++ text) :
    [lf] <:+ second ∨ [cr] <:+ second := by
  induction length : text.length using Nat.strong_induction_on
    generalizing text with
  | _ size induction =>
      rcases List.eq_nil_or_concat' text with rfl | ⟨rest, last, rfl⟩
      · rw [List.append_nil, List.append_nil] at same
        exact Or.inl (same ▸ ⟨first ++ [cr], by simp⟩)
      · have ends : first ++ rest ++ [last, cr] ++ [lf] =
            second ++ rest ++ [last] := by
          simpa using same
        obtain ⟨shorter, isLf⟩ := List.append_inj' ends rfl
        obtain rfl : lf = last := by
          simpa using isLf
        rcases List.eq_nil_or_concat' rest with rfl | ⟨before, byte, rfl⟩
        · rw [List.append_nil, List.append_nil] at shorter
          exact Or.inr (shorter ▸ ⟨first ++ [lf], by simp⟩)
        · have twice : first ++ before ++ [byte, lf] ++ [cr] =
              second ++ before ++ [byte] := by
            simpa using shorter
          obtain ⟨again, isCr⟩ := List.append_inj' twice rfl
          obtain rfl : cr = byte := by
            simpa using isCr
          exact
            induction before.length (by simp [← length]) again rfl

/-- A NUL which the encoding makes of the line bytes at the end of a file. -/
theorem Behind.nul_of_lines
    {rest start line base : Bytes} {count : Nat}
    (behind : Behind content before overflow rest)
    (parts : overflow ++ rest = start ++ line)
    (lines : ∀ byte ∈ line, IsLineByte byte)
    (ends : formatToNETASCII content = base ++ lineEnds count)
    (open_ : ¬ [lf] <:+ base)
    (member : nul ∈ formatToNETASCII line) : [cr, nul] <:+ base := by
  -- the overflow buffer has a NUL behind every CR without an LF
  have inside : ∃ last, last <:+ rest ∧ nul ∈ formatToNETASCII last ∧
      ∀ byte ∈ last, IsLineByte byte := by
    rcases List.suffix_or_suffix_of_suffix ⟨start, parts.symm⟩
        (List.suffix_append overflow rest) with ofRest | ⟨other, rfl⟩
    · exact ⟨line, ofRest, member, lines⟩
    · rw [← List.append_assoc] at parts
      have whole := List.append_cancel_right parts
      have paired := behind.paired.suffix ⟨start, whole.symm⟩
      rw [formatToNETASCII_append_of_whole paired.whole] at member
      rcases List.mem_append.mp member with first | second
      · have isNul := nul_mem_of_formatToNETASCII paired first
        exact absurd rfl (lines nul (List.mem_append_left _ isNul)).ne_nul
      · exact
          ⟨rest, List.suffix_refl _, second, fun byte later =>
            lines byte (List.mem_append_right _ later)⟩
  obtain ⟨last, ⟨earlier, rfl⟩, made, linesLast⟩ := inside
  obtain ⟨first, few, isPrefix, encoded, firstOpen⟩ := exists_lineEnds last
  rcases List.eq_nil_or_concat' first with rfl | ⟨text, byte, rfl⟩
  · rw [encoded] at made
    exact absurd rfl (isLineByte_of_mem_lineEnds made).ne_nul
  · have isCr : byte = cr := by
      have line := linesLast byte (isPrefix.subset (by simp))
      refine line.resolve_right ?_
      rintro rfl
      exact firstOpen (List.suffix_append _ _)
    subst isCr
    have pair : formatToNETASCII (text ++ [cr]) =
        formatToNETASCII text ++ [cr, nul] := by
      rw [formatToNETASCII_append_of_head (by simp [lf_ne_cr.symm])]
      simp [formatToNETASCII]
    obtain ⟨start, whole⟩ :=
      formatToNETASCII_suffix (before ++ earlier) last
    rw [List.append_assoc, ← behind.parts, ends, encoded, pair,
      ← List.append_assoc] at whole
    have closed :
        ¬ [lf] <:+ start ++ (formatToNETASCII text ++ [cr, nul]) := by
      rw [suffix_singleton_append (by simp),
        suffix_singleton_append (by simp)]
      exact (suffix_singleton_concat [cr] lf nul).not.mpr nul_ne_lf.symm
    obtain ⟨rfl, _⟩ := lineEnds_unique whole closed open_
    exact ⟨start ++ formatToNETASCII text, by simp⟩

/-- The call which hits the end of the file. -/
theorem Behind.closing
    {rest start line extra : Bytes}
    (least : 2 ≤ numBytes)
    (behind : Behind content before overflow rest)
    (closed : [lf] <:+ content)
    (parts : overflow ++ rest = start ++ line)
    (few : start.length < numBytes)
    (lines : ∀ byte ∈ line, IsLineByte byte)
    (added : extra = [] ∨ extra = [lf]) :
    ∃ base count,
      formatToNETASCII content = base ++ lineEnds count ∧
        ¬ [lf] <:+ base ∧
          Closing base count numBytes
            (done ++
              (encodeAndEndLine numBytes (start ++ (line ++ extra))).take
                numBytes)
            ((encodeAndEndLine numBytes (start ++ (line ++ extra))).drop
              numBytes) := by
  obtain ⟨first, count, _, encoded, firstOpen⟩ := exists_lineEnds rest
  have ends : formatToNETASCII content =
      formatToNETASCII before ++ formatToNETASCII first ++
        lineEnds count := by
    rw [behind.encode, encoded, List.append_assoc]
  have open_ :
      ¬ [lf] <:+ formatToNETASCII before ++ formatToNETASCII first := by
    by_cases none_ : formatToNETASCII first = []
    · rw [none_, List.append_nil, lf_suffix_formatToNETASCII]
      exact behind.notLf
    · rw [suffix_singleton_append none_, lf_suffix_formatToNETASCII]
      exact firstOpen
  have last : [lf] <:+ overflow ++ rest := by
    have some_ : rest ≠ [] := by
      rintro rfl
      rw [behind.parts, List.append_nil] at closed
      exact behind.notLf closed
    rw [behind.parts, suffix_singleton_append some_] at closed
    exact closed.trans (List.suffix_append _ _)
  have whole : ¬ [cr] <:+ overflow ++ rest := by
    obtain ⟨text, same⟩ := last
    rw [← same]
    exact (suffix_singleton_concat text cr lf).not.mpr lf_ne_cr.symm
  obtain ⟨more, same⟩ :
      ∃ more, formatToNETASCII extra = lineEnds more := by
    rcases added with rfl | rfl
    · exact ⟨0, rfl⟩
    · exact ⟨1, rfl⟩
  refine ⟨_, count, ends, open_, Closing.next least ?_ few ?_ ?_⟩
  · obtain ⟨again, ended, _⟩ :=
      exists_encodeAndEndLine least (start ++ (line ++ extra))
    rw [ended, ← List.append_assoc start, ← parts,
      formatToNETASCII_append_of_whole whole, behind.encodeOverflow,
      encoded, same]
    have ending : Ending
        (formatToNETASCII before ++ formatToNETASCII first) count
        (done ++ (formatToNETASCII overflow ++
          (formatToNETASCII first ++ lineEnds count))) :=
      Or.inl
        ⟨done ++ formatToNETASCII overflow ++ formatToNETASCII first,
          by simp⟩
    simpa using (ending.append_lineEnds more).append_lineEnds again
  · refine (Tail.of_lines lines).append_lines ?_
    rcases added with rfl | rfl
    · simp
    · simp [IsLineByte]
  · have wholeLine : ¬ [cr] <:+ line := fun ends =>
      whole (parts ▸ ends.trans (List.suffix_append start line))
    rw [formatToNETASCII_append_of_whole wholeLine, same]
    intro member
    rcases List.mem_append.mp member with inside | outside
    · exact behind.nul_of_lines parts lines ends open_ inside
    · exact absurd rfl (isLineByte_of_mem_lineEnds outside).ne_nul

/-- A file which ends in a line end gets one more, or is sent differently. -/
theorem Encoded.closed_run
    (least : 2 ≤ numBytes)
    (encoded : Encoded lf numBytes overflow stream sent)
    (inside : stream.eof = false)
    (closed : [lf] <:+ content)
    (behind : Behind content before overflow stream.rest) :
    done ++ sent ≠ formatToNETASCII content := by
  induction encoded generalizing done before with
  | last =>
      intro same
      rw [behind.encodeOverflow, behind.encode, ← List.append_assoc,
        ← List.append_assoc] at same
      rcases suffix_of_overlap same with last | last
      · rw [lf_suffix_formatToNETASCII] at last
        exact behind.notLf last
      · exact not_cr_suffix_formatToNETASCII before last
  | more fill later induction =>
      rw [← List.append_assoc]
      cases fill with
      | short few =>
          obtain ⟨base, count, ends, open_, closing⟩ :=
            behind.closing least closed (List.append_nil _).symm few
              (by simp) (Or.inl rfl)
          rw [List.append_nil, List.append_nil] at closing
          intro same
          have run :=
            closing.run least later rfl open_
              (same ▸ paired_formatToNETASCII content)
          exact run (same.trans ends)
      | stops some_ _ plain =>
          exact
            induction rfl
              (behind.stops some_ plain
                (paired_drop_encodeAndEndLine least _))
      | ends parts few _ lines =>
          obtain ⟨base, count, ends, open_, closing⟩ :=
            behind.closing least closed parts few lines (Or.inr rfl)
          rw [← List.append_assoc, ← parts] at closing
          intro same
          have run :=
            closing.run least later rfl open_
              (same ▸ paired_formatToNETASCII content)
          exact run (same.trans ends)
      | cut =>
          exact
            induction inside
              { behind with
                paired := paired_drop_encodeAndEndLine least _ }

end

/-! ## What is sent of a file -/

/-- A reader which has not read yet. -/
theorem Reader.At.make
    {filepath : Path} {files : FileSystem} {content : Bytes}
    (found : files.content filepath = some content) :
    (Reader.make filepath .NETASCII).At files content []
      ⟨content, false⟩ where
  netascii := rfl
  found := found
  overflow := rfl
  stream := Or.inr ⟨rfl, rfl⟩

theorem Encoded.lf_suffix
    {numBytes : Nat} {stray : UInt8} {overflow sent : Bytes}
    {stream : Stream}
    (encoded : Encoded stray numBytes overflow stream sent) :
    [lf] <:+ sent := by
  induction encoded with
  | last => exact List.IsSuffix.trans ⟨[cr], rfl⟩ (List.suffix_append _ _)
  | more _ _ induction => exact induction.trans (List.suffix_append _ _)

/-- One call sends a file which does not end in a line end as it is. -/
theorem Encoded.fits
    {numBytes : Nat} {stray : UInt8} {content : Bytes}
    (encoded :
      Encoded stray numBytes [] ⟨content, false⟩
        (formatToNETASCII content ++ crLf))
    (least : 2 ≤ numBytes) (open_ : ¬ [lf] <:+ content) :
    (formatToNETASCII content).length + 3 ≤ numBytes := by
  generalize same : formatToNETASCII content ++ crLf = sent at encoded
  cases encoded with
  | last few => exact few
  | more fill later =>
      obtain ⟨taken, behind⟩ :=
        (Behind.start content).next least open_ fill
      have run :=
        later.open_run least open_ behind
          (lf_suffix_encodeAndEndLine least [] _)
      exact absurd same.symm run

/--
A file is sent faithfully, whatever bytes from outside the file the buffer
may get, exactly if it and a line end fit into one short chunk and it does
not end in a line end.
-/
theorem sends_faithfully_iff
    (filepath : Path) (storage : Storage) (content : Bytes)
    (numBytes : Nat)
    (found : storage.files.content filepath = some content)
    (least : 8 ≤ numBytes) :
    (∀ stray, ∃ sent,
      Reader.Sends { stray := stray } numBytes
          (Reader.make filepath .NETASCII) storage sent ∧
        Faithful content sent) ↔
      (formatToNETASCII content).length + 3 ≤ numBytes ∧
        ¬ [lf] <:+ content := by
  have here := Reader.At.make found
  constructor
  · intro faithful
    obtain ⟨sent, sends, same⟩ := faithful lf
    have encoded :=
      ((here.sends_iff lf numBytes sent).mp sends).encoded (by omega)
        (by simp)
    by_cases closed : [lf] <:+ content
    · have ends :=
        (endsInCrLf_iff _).mpr (crLf_suffix_formatToNETASCII closed)
      rcases same with whole | ⟨other, _⟩
      · exact
          absurd whole
            (encoded.closed_run (by omega) rfl closed (.start content) :
              [] ++ sent ≠ formatToNETASCII content)
      · rw [ends] at other
        cases other
    · rcases same with rfl | ⟨_, rfl⟩
      · exact
          absurd
            ((lf_suffix_formatToNETASCII content).mp encoded.lf_suffix)
            closed
      · exact ⟨encoded.fits (by omega) closed, closed⟩
  · rintro ⟨fits, open_⟩ stray
    have read := readNetascii_of_fits fits stray
    refine ⟨formatToNETASCII content ++ crLf, ?_, Or.inr ⟨?_, rfl⟩⟩
    · refine (here.sends_iff stray numBytes _).mpr (.last read ?_)
      simp only [List.length_append, List.length_cons, List.length_nil]
      omega
    · rw [← Bool.not_eq_true, endsInCrLf_iff]
      intro ends
      exact open_ ((lf_suffix_formatToNETASCII content).mp
        (List.IsSuffix.trans ⟨[cr], rfl⟩ ends))

/-- A file of five bytes and its line end fit into one chunk of eight. -/
theorem sends_faithfully_small :
    (smallDisk (some (text "hello"))).content (text "r/f") =
        some (text "hello") ∧
      ∀ stray, ∃ sent,
        Reader.Sends { stray := stray } 8
            (Reader.make (text "r/f") .NETASCII)
            ⟨smallDisk (some (text "hello")), []⟩ sent ∧
          Faithful (text "hello") sent := by
  have found :
      (smallDisk (some (text "hello"))).content (text "r/f") =
        some (text "hello") := by
    decide
  refine ⟨found, ?_⟩
  apply
    (sends_faithfully_iff (text "r/f")
      ⟨smallDisk (some (text "hello")), []⟩ (text "hello") 8 found
      (le_refl 8)).mpr
  constructor
  · decide
  · decide

/-- A file of nine bytes gets a line end in front of the last of them. -/
theorem chunks_get_line_ends :
    let sent := text "abcdefgh" ++ (crLf ++ text "i" ++ crLf)
    Reader.Sends { stray := 0 } 8 (Reader.make (text "r/f") .NETASCII)
        ⟨smallDisk (some (text "abcdefghi")), []⟩ sent ∧
      formatToNETASCII (text "abcdefghi") = text "abcdefghi" ∧
        ¬ Faithful (text "abcdefghi") sent := by
  have found :
      (smallDisk (some (text "abcdefghi"))).content (text "r/f") =
        some (text "abcdefghi") := by
    decide
  refine ⟨?_, by decide +kernel, ?_⟩
  · refine ((Reader.At.make found).sends_iff 0 8 _).mpr ?_
    have first : Reader.readNetascii false 0 8 []
        ⟨text "abcdefghi", false⟩ =
          .ok (text "abcdefgh", crLf, ⟨text "i", false⟩) := by
      decide +kernel
    have second : Reader.readNetascii false 0 8 crLf
        ⟨text "i", false⟩ =
          .ok (crLf ++ text "i" ++ crLf, [], ⟨[], true⟩) := by
      decide +kernel
    exact .more first (by decide +kernel) (.last second (by decide +kernel))
  · rintro (same | ⟨_, same⟩)
    · exact absurd same (by decide +kernel)
    · exact absurd same (by decide +kernel)

end IsaTftp.Files
