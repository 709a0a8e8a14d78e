import IsaTftp.Wire.Exceptions

/-!
# The NETASCII conversions

`formatToNETASCII` and `formatFromNETASCII` scan with one byte of lookahead
and skip the second byte of a pair.  The recursion follows the index of the
source loop: what is left of the list is what the index has not passed.
-/

namespace IsaTftp.Files

open IsaTftp.Wire

inductive DataFormat where
  | NETASCII
  | OCTET
deriving DecidableEq, Repr

/-- Line ends become CR LF and a lone CR becomes CR NUL. -/
def formatToNETASCII : Bytes → Bytes
  | [] => []
  | byte :: rest =>
      if byte = cr then
        match rest with
        | next :: after =>
            if next = lf then cr :: lf :: formatToNETASCII after
            else cr :: nul :: formatToNETASCII (next :: after)
        | [] => [cr, nul]
      else if byte = lf then cr :: lf :: formatToNETASCII rest
      else byte :: formatToNETASCII rest

/-- CR LF becomes LF, CR NUL becomes CR, and any other CR stays. -/
def formatFromNETASCII : Bytes → Bytes
  | [] => []
  | byte :: rest =>
      match rest with
      | [] => [byte]
      | next :: after =>
          if byte = cr then
            if next = lf then lf :: formatFromNETASCII after
            else if next = nul then cr :: formatFromNETASCII after
            else byte :: formatFromNETASCII (next :: after)
          else byte :: formatFromNETASCII (next :: after)

/-! ## Equations by the first byte -/

theorem lf_ne_cr : lf ≠ cr := by
  decide

theorem nul_ne_cr : nul ≠ cr := by
  decide

theorem nul_ne_lf : nul ≠ lf := by
  decide

@[simp]
theorem formatToNETASCII_nil : formatToNETASCII [] = [] :=
  rfl

@[simp]
theorem formatToNETASCII_cr_lf (rest : Bytes) :
    formatToNETASCII (cr :: lf :: rest) =
      cr :: lf :: formatToNETASCII rest := by
  simp [formatToNETASCII]

/-- A CR which no LF follows gets a NUL. -/
theorem formatToNETASCII_cr
    {rest : Bytes} (lone : rest.head? ≠ some lf) :
    formatToNETASCII (cr :: rest) = cr :: nul :: formatToNETASCII rest := by
  cases rest with
  | nil => simp [formatToNETASCII]
  | cons next after =>
      have other : next ≠ lf := by
        simpa using lone
      simp [formatToNETASCII, other]

@[simp]
theorem formatToNETASCII_lf (rest : Bytes) :
    formatToNETASCII (lf :: rest) = cr :: lf :: formatToNETASCII rest := by
  rw [formatToNETASCII.eq_def]
  simp [lf_ne_cr]

theorem formatToNETASCII_plain
    {byte : UInt8} (notCr : byte ≠ cr) (notLf : byte ≠ lf)
    (rest : Bytes) :
    formatToNETASCII (byte :: rest) = byte :: formatToNETASCII rest := by
  rw [formatToNETASCII.eq_def]
  simp [notCr, notLf]

@[simp]
theorem formatFromNETASCII_nil : formatFromNETASCII [] = [] :=
  rfl

@[simp]
theorem formatFromNETASCII_singleton (byte : UInt8) :
    formatFromNETASCII [byte] = [byte] :=
  rfl

@[simp]
theorem formatFromNETASCII_cr_lf (rest : Bytes) :
    formatFromNETASCII (cr :: lf :: rest) =
      lf :: formatFromNETASCII rest := by
  simp [formatFromNETASCII]

@[simp]
theorem formatFromNETASCII_cr_nul (rest : Bytes) :
    formatFromNETASCII (cr :: nul :: rest) =
      cr :: formatFromNETASCII rest := by
  simp [formatFromNETASCII, nul_ne_lf]

/-- A CR in front of anything else is copied. -/
theorem formatFromNETASCII_cr
    {rest : Bytes} (notLf : rest.head? ≠ some lf)
    (notNul : rest.head? ≠ some nul) :
    formatFromNETASCII (cr :: rest) = cr :: formatFromNETASCII rest := by
  cases rest with
  | nil => rfl
  | cons next after =>
      have otherLf : next ≠ lf := by
        simpa using notLf
      have otherNul : next ≠ nul := by
        simpa using notNul
      simp [formatFromNETASCII, otherLf, otherNul]

theorem formatFromNETASCII_plain
    {byte : UInt8} (notCr : byte ≠ cr) (rest : Bytes) :
    formatFromNETASCII (byte :: rest) =
      byte :: formatFromNETASCII rest := by
  cases rest with
  | nil => rfl
  | cons next after => simp [formatFromNETASCII, notCr]

end IsaTftp.Files
