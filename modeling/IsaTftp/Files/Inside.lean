import IsaTftp.Files.Confinement

/-!
# Files inside the root

`isFilePathUnderDirectory` looks at the first two bytes of the relative path.
They are dots if the path climbs out of the directory; but one of them is also
a dot for names like `.f` and `a.b`.
-/

namespace IsaTftp.Files

open IsaTftp.Wire
open IsaTftp.Library.RelativePath

/-- Neither of the first two bytes of a name is a dot. -/
def FileName.NoEarlyDot (name : FileName) : Prop :=
  name.bytes[0]? ≠ some dot ∧ name.bytes[1]? ≠ some dot

instance (name : FileName) : Decidable name.NoEarlyDot :=
  inferInstanceAs (Decidable (_ ∧ _))

/-- A name of one byte is not a dot. -/
theorem FileName.noEarlyDot_of_single {name : FileName}
    (single : name.bytes.length = 1) : name.NoEarlyDot := by
  obtain ⟨byte, only⟩ := List.length_eq_one_iff.mp single
  constructor
  · intro isDot
    rw [only] at isDot
    apply name.notSpecial.1
    rw [only, Option.some.inj isDot]
  · simp [only]

/-- Below the directory the relative path is written from its first name. -/
theorem FileSystem.relativeString_of_inside
    {files : FileSystem} {filePath directoryPath : Path}
    {first : FileName} {rest : CanonicalPath}
    (inside : files.weaklyCanonical filePath =
      files.weaklyCanonical directoryPath ++ first :: rest) :
    files.relativeString filePath directoryPath =
      joinComponents ((first :: rest).map .name) := by
  rw [relativeString, inside, relative_append]
  rfl

/-- The first two bytes are those of the first name, or its end. -/
theorem check_joinComponents_iff (first : FileName) (rest : CanonicalPath) :
    let written := joinComponents ((first :: rest).map .name)
    (written.length = 1 ∨
        (written[0]? ≠ some dot ∧ written[1]? ≠ some dot)) ↔
      first.NoEarlyDot := by
  intro written
  cases rest with
  | nil =>
      have same : written = first.bytes := rfl
      rw [same]
      constructor
      · rintro (single | early)
        · exact first.noEarlyDot_of_single single
        · exact early
      · exact Or.inr
  | cons second rest =>
      have same : written =
          first.bytes ++ slash :: joinComponents
            ((second :: rest).map .name) :=
        rfl
      have some_ : first.bytes ≠ [] := first.nonempty
      have long : written.length ≠ 1 := by
        have positive := List.length_pos_of_ne_nil some_
        rw [same, List.length_append, List.length_cons]
        omega
      rw [or_iff_right long, same, FileName.NoEarlyDot]
      cases bytes : first.bytes with
      | nil => exact absurd bytes some_
      | cons byte more =>
          cases more with
          | nil =>
              -- the second byte is a slash
              have apart : slash ≠ dot := by decide
              simp [apart]
          | cons next more => simp

/--
Exactly which paths at or below the directory pass the check: the directory
itself, and those of which the first name has no dot among its first two bytes.
-/
theorem FileSystem.inside_passes_iff
    {files : FileSystem} {filePath directoryPath : Path}
    {below : CanonicalPath}
    (inside : files.weaklyCanonical filePath =
      files.weaklyCanonical directoryPath ++ below) :
    files.isFilePathUnderDirectory filePath directoryPath = true ↔
      ∀ name, below.head? = some name → name.NoEarlyDot := by
  cases below with
  | nil =>
      rw [List.append_nil] at inside
      have itself :
          files.relativeString filePath directoryPath = [dot] := by
        rw [relativeString, inside, relative_self]
      simp [isFilePathUnderDirectory, itself]
  | cons first rest =>
      have early := check_joinComponents_iff first rest
      rw [← relativeString_of_inside inside] at early
      rw [isFilePathUnderDirectory, decide_eq_true_iff]
      simpa using early

/-! ## A file with a dot in its name -/

/-- The name `a.b`. -/
def dottedName : FileName :=
  ⟨text "a.b", by decide, by decide, by decide⟩

/-- A disk with one directory, called `r`, and this file in it. -/
def diskWith (name : FileName) : FileSystem where
  node place :=
    if place = [] then some .directory
    else if place = [name] then some (.file [])
    else none
  entry path := if path = text "r" then [] else [name]
  available _ := none
  resolved place target further linked := by
    split_ifs at linked
    · cases linked
    · cases linked

/-- The theorem at a file with a plain name. -/
theorem FileSystem.inside_passes_small :
    (diskWith smallName).isFilePathUnderDirectory (text "r/f")
      (text "r") = true := by
  have inside : (diskWith smallName).weaklyCanonical (text "r/f") =
      (diskWith smallName).weaklyCanonical (text "r") ++ [smallName] := by
    decide
  rw [FileSystem.inside_passes_iff inside]
  intro name isFirst
  cases isFirst
  decide

/-- The file `a.b` lies below the root and does not pass. -/
theorem dotted_name_is_refused :
    (diskWith dottedName).Under (text "r/a.b") (text "r") ∧
      (diskWith dottedName).lookup (text "r/a.b") = some (.file []) ∧
        (diskWith dottedName).isFilePathUnderDirectory (text "r/a.b")
          (text "r") = false := by
  refine ⟨⟨[dottedName], ?_⟩, ?_, ?_⟩
  · decide
  · decide
  · decide

end IsaTftp.Files
