import IsaTftp.Files.LineEnds

/-!
# The NETASCII conversions as a codec

The encoding of a text is a sequence of pairs and plain bytes.  Decoding it
gives the text back, except that a CR LF in the text has become an LF: the
encoding takes it for a line end which is encoded already.
-/

namespace IsaTftp.Files

open IsaTftp.Wire

/-! ## Decoding in two parts -/

/-- A stream which does not end in a CR can be decoded by itself. -/
theorem formatFromNETASCII_append
    {first : Bytes} (whole : ¬ [cr] <:+ first) (rest : Bytes) :
    formatFromNETASCII (first ++ rest) =
      formatFromNETASCII first ++ formatFromNETASCII rest := by
  induction first using formatFromNETASCII.induct with
  | case1 => rfl
  | case2 byte =>
      have notCr : byte ≠ cr := by
        rintro rfl
        exact whole (List.suffix_refl _)
      exact formatFromNETASCII_plain notCr rest
  | case3 after induction =>
      have later := induction fun ends =>
        whole (ends.trans (List.suffix_append [cr, lf] after))
      simp [later]
  | case4 after _ induction =>
      have later := induction fun ends =>
        whole (ends.trans (List.suffix_append [cr, nul] after))
      simp [later]
  | case5 next after notLf notNul induction =>
      have later := induction fun ends =>
        whole (ends.trans (List.suffix_append [cr] _))
      rw [List.cons_append, formatFromNETASCII_cr (by simpa using notLf)
        (by simpa using notNul), later, formatFromNETASCII_cr
          (by simpa using notLf) (by simpa using notNul)]
      rfl
  | case6 byte next after notCr induction =>
      have later := induction fun ends =>
        whole (ends.trans (List.suffix_append [byte] _))
      rw [List.cons_append, formatFromNETASCII_plain notCr, later,
        formatFromNETASCII_plain notCr]
      rfl

/--
Both conversions can be done in two parts behind anything but a CR.  Behind a
CR the encoding still can, unless an LF follows.
-/
theorem conversions_append (first rest : Bytes) :
    (¬ [cr] <:+ first →
        formatFromNETASCII (first ++ rest) =
            formatFromNETASCII first ++ formatFromNETASCII rest ∧
          formatToNETASCII (first ++ rest) =
            formatToNETASCII first ++ formatToNETASCII rest) ∧
      ([cr] <:+ first → rest.head? ≠ some lf →
        formatToNETASCII (first ++ rest) =
          formatToNETASCII first ++ formatToNETASCII rest) := by
  constructor
  · intro whole
    constructor
    · exact formatFromNETASCII_append whole rest
    · exact formatToNETASCII_append_of_whole whole rest
  · intro _ other
    exact formatToNETASCII_append_of_head other first

/-! ## Well-formed NETASCII -/

/-- Every CR has LF or NUL behind it, and every LF has a CR in front. -/
structure WellFormed (raw : Bytes) : Prop where
  pairs : ∀ index, raw[index]? = some cr →
    raw[index + 1]? = some lf ∨ raw[index + 1]? = some nul
  lines : ∀ index, raw[index]? = some lf →
    ∃ before, index = before + 1 ∧ raw[before]? = some cr

theorem WellFormed.nil : WellFormed [] where
  pairs _ isCr := by simp at isCr
  lines _ isLf := by simp at isLf

/-- A plain byte can be put in front. -/
theorem WellFormed.plain_cons {byte : UInt8} {raw : Bytes}
    (later : WellFormed raw) (notCr : byte ≠ cr) (notLf : byte ≠ lf) :
    WellFormed (byte :: raw) where
  pairs index isCr := by
    cases index with
    | zero => exact absurd (Option.some.inj isCr) notCr
    | succ index => exact later.pairs index isCr
  lines index isLf := by
    cases index with
    | zero => exact absurd (Option.some.inj isLf) notLf
    | succ index =>
        obtain ⟨before, rfl, isCr⟩ := later.lines index isLf
        exact ⟨before + 1, rfl, isCr⟩

/-- So can a pair. -/
theorem WellFormed.pair_cons {second : UInt8} {raw : Bytes}
    (later : WellFormed raw) (pair : second = lf ∨ second = nul) :
    WellFormed (cr :: second :: raw) where
  pairs index isCr := by
    cases index with
    | zero =>
        rcases pair with rfl | rfl
        · exact Or.inl rfl
        · exact Or.inr rfl
    | succ index =>
        cases index with
        | zero =>
            obtain rfl : second = cr := Option.some.inj isCr
            rcases pair with same | same
            · exact absurd same lf_ne_cr.symm
            · exact absurd same nul_ne_cr.symm
        | succ index => exact later.pairs index isCr
  lines index isLf := by
    cases index with
    | zero => exact absurd (Option.some.inj isLf) lf_ne_cr.symm
    | succ index =>
        cases index with
        | zero => exact ⟨0, rfl, rfl⟩
        | succ index =>
            obtain ⟨before, rfl, isCr⟩ := later.lines index isLf
            exact ⟨before + 2, rfl, isCr⟩

theorem wellFormed_formatToNETASCII (raw : Bytes) :
    WellFormed (formatToNETASCII raw) := by
  induction raw using formatToNETASCII.induct with
  | case1 => exact .nil
  | case2 after induction =>
      rw [formatToNETASCII_cr_lf]
      exact induction.pair_cons (Or.inl rfl)
  | case3 next after notLf induction =>
      rw [formatToNETASCII_cr (by simpa using notLf)]
      exact induction.pair_cons (Or.inr rfl)
  | case4 => exact WellFormed.nil.pair_cons (Or.inr rfl)
  | case5 after _ induction =>
      rw [formatToNETASCII_lf]
      exact induction.pair_cons (Or.inl rfl)
  | case6 byte after notCr notLf induction =>
      rw [formatToNETASCII_plain notCr notLf]
      exact induction.plain_cons notCr notLf

/-! ## The normalised text -/

/-- From left to right, every CR LF is replaced by an LF. -/
def normalise : Bytes → Bytes
  | [] => []
  | [byte] => [byte]
  | byte :: next :: rest =>
      if byte = cr ∧ next = lf then lf :: normalise rest
      else byte :: normalise (next :: rest)

@[simp]
theorem normalise_cr_lf (rest : Bytes) :
    normalise (cr :: lf :: rest) = lf :: normalise rest := by
  simp [normalise]

/-- A CR which no LF follows is kept. -/
theorem normalise_cr {rest : Bytes} (lone : rest.head? ≠ some lf) :
    normalise (cr :: rest) = cr :: normalise rest := by
  cases rest with
  | nil => rfl
  | cons next after =>
      have other : next ≠ lf := by
        simpa using lone
      simp [normalise, other]

theorem normalise_plain {byte : UInt8} (notCr : byte ≠ cr)
    (rest : Bytes) : normalise (byte :: rest) = byte :: normalise rest := by
  cases rest with
  | nil => rfl
  | cons next after => simp [normalise, notCr]

/-- Only CR CR LF begins with CR LF once it is normalised. -/
theorem head_normalise_eq_lf_iff {next : UInt8} {rest : Bytes}
    (notLf : next ≠ lf) :
    (normalise (next :: rest)).head? = some lf ↔
      [cr, lf] <+: next :: rest := by
  cases rest with
  | nil => simp [normalise, notLf]
  | cons second rest =>
      rw [normalise]
      split_ifs with pair
      · obtain ⟨rfl, rfl⟩ := pair
        simp
      · simp only [List.head?_cons, Option.some.injEq, notLf, false_iff,
          List.cons_prefix_cons, List.nil_prefix, and_true]
        rintro ⟨rfl, rfl⟩
        exact pair ⟨rfl, rfl⟩

/-- A text without CR LF is kept as it is. -/
theorem normalise_of_no_crLf {raw : Bytes} (without : ¬ crLf <:+: raw) :
    normalise raw = raw := by
  induction raw using normalise.induct with
  | case1 => rfl
  | case2 byte => rfl
  | case3 byte next rest pair _ =>
      obtain ⟨rfl, rfl⟩ := pair
      exact absurd (List.prefix_append crLf rest).isInfix without
  | case4 byte next rest other induction =>
      rw [normalise, if_neg other, induction]
      intro inside
      exact without (inside.trans (List.suffix_cons byte _).isInfix)

theorem formatFromNETASCII_formatToNETASCII (raw : Bytes) :
    formatFromNETASCII (formatToNETASCII raw) = normalise raw := by
  induction raw using formatToNETASCII.induct with
  | case1 => rfl
  | case2 after induction => simp [induction]
  | case3 next after notLf induction =>
      have lone : (next :: after).head? ≠ some lf := by
        simpa using notLf
      rw [formatToNETASCII_cr lone, formatFromNETASCII_cr_nul, induction,
        normalise_cr lone]
  | case4 => rfl
  | case5 after _ induction =>
      rw [formatToNETASCII_lf, formatFromNETASCII_cr_lf, induction,
        normalise_plain lf_ne_cr]
  | case6 byte after notCr notLf induction =>
      rw [formatToNETASCII_plain notCr notLf,
        formatFromNETASCII_plain notCr, induction, normalise_plain notCr]

/--
The encoding is well-formed and decodes to the normalised text, which is the
text itself if it contains no CR LF.
-/
theorem decodes_to_normalised (raw : Bytes) :
    WellFormed (formatToNETASCII raw) ∧
      formatFromNETASCII (formatToNETASCII raw) = normalise raw ∧
        (¬ crLf <:+: raw →
          formatFromNETASCII (formatToNETASCII raw) = raw) := by
  have decoded := formatFromNETASCII_formatToNETASCII raw
  refine ⟨wellFormed_formatToNETASCII raw, decoded, ?_⟩
  intro without
  exact decoded.trans (normalise_of_no_crLf without)

/-! ## Encoding a decoded stream -/

/-- The normalised text has the same encoding, unless a CR comes to an LF. -/
theorem formatToNETASCII_normalise_iff (raw : Bytes) :
    formatToNETASCII (normalise raw) = formatToNETASCII raw ↔
      ¬ [cr, cr, lf] <:+: raw := by
  induction raw using formatToNETASCII.induct with
  | case1 => simp [normalise]
  | case2 after induction =>
      simp [List.infix_cons_iff, lf_ne_cr.symm, induction]
  | case3 next after notLf induction =>
      have lone : (next :: after).head? ≠ some lf := by
        simpa using notLf
      rw [normalise_cr lone, formatToNETASCII_cr lone, List.infix_cons_iff,
        not_or, List.cons_prefix_cons]
      by_cases joins : [cr, lf] <+: next :: after
      · -- the CR is not lone any more in the normalised text
        refine iff_of_false ?_ fun without => without.1 ⟨rfl, joins⟩
        obtain ⟨rest, same⟩ := joins
        rw [← same]
        simp [nul_ne_lf.symm]
      · have head := mt (head_normalise_eq_lf_iff notLf).mp joins
        rw [formatToNETASCII_cr head, List.cons_inj_right,
          List.cons_inj_right, induction]
        exact ⟨fun later => ⟨fun both => joins both.2, later⟩, And.right⟩
  | case4 => decide
  | case5 after _ induction =>
      rw [normalise_plain lf_ne_cr, formatToNETASCII_lf,
        formatToNETASCII_lf, List.infix_cons_iff]
      simp [lf_ne_cr.symm, induction]
  | case6 byte after notCr notLf induction =>
      rw [normalise_plain notCr, formatToNETASCII_plain notCr notLf,
        formatToNETASCII_plain notCr notLf, List.infix_cons_iff]
      simp [Ne.symm notCr, induction]

/--
What was decoded has the encoding which it was decoded from, exactly if no CR
stands in front of a CR LF in the text.
-/
theorem encodes_again_iff (raw : Bytes) :
    let encoded := formatToNETASCII raw
    formatToNETASCII (formatFromNETASCII encoded) = encoded ↔
      ¬ [cr, cr, lf] <:+: raw := by
  intro encoded
  rw [formatFromNETASCII_formatToNETASCII]
  exact formatToNETASCII_normalise_iff raw

/-- CR CR LF comes back as one line end. -/
theorem cr_in_front_of_line_end_is_lost :
    let encoded := formatToNETASCII [cr, cr, lf]
    encoded = [cr, nul, cr, lf] ∧
      formatToNETASCII (formatFromNETASCII encoded) = [cr, lf] ∧
        formatToNETASCII (formatFromNETASCII encoded) ≠ encoded := by
  decide

end IsaTftp.Files
