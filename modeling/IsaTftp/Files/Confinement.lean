import IsaTftp.Files.Storage
import IsaTftp.Library.RelativePath

/-!
# The confinement check

`isFilePathUnderDirectory` asks `std::filesystem::relative` how to get from
the directory to the path.  Both are brought into a canonical form before, but
only as far as they exist: `weakly_canonical` follows no link which leads
nowhere, while opening such a link for writing creates its target.
-/

namespace IsaTftp.Files

open IsaTftp.Wire
open IsaTftp.Library.RelativePath

/-! ## Weakly canonical paths -/

/--
The elements over which a `std::filesystem::path` iterates: the root
directory, the names, and an empty one for a slash at the end.
-/
def elements (path : Path) : List Bytes :=
  let names := (path.splitOn slash).filter (· ≠ [])
  let root := if path.head? = some slash then [[slash]] else []
  let trailing :=
    if names ≠ [] ∧ path.getLast? = some slash then [[]] else []
  root ++ names ++ trailing

/-- `operator/=` of `std::filesystem::path`. -/
def appendElement (path element : Path) : Path :=
  if element.head? = some slash then element
  else if path = [] ∨ path.getLast? = some slash then path ++ element
  else path ++ slash :: element

namespace FileSystem

/-- The leading elements which exist, put behind a path, and the others. -/
def leadingPart (files : FileSystem) :
    Path → List Bytes → Path × List Bytes
  | result, [] => (result, [])
  | result, element :: rest =>
      let longer := appendElement result element
      if (files.lookup longer).isSome then files.leadingPart longer rest
      else (result, element :: rest)

end FileSystem

/-- Where an element leads which does not exist: `lexically_normal`. -/
def descend (place : CanonicalPath) (element : Bytes) : CanonicalPath :=
  if isName :
      element ≠ [] ∧ slash ∉ element ∧
        (element ≠ [dot] ∧ element ≠ [dot, dot]) then
    place ++ [⟨element, isName.1, isName.2.1, isName.2.2⟩]
  else if element = [dot, dot] then place.dropLast
  else place

namespace FileSystem

/--
`std::filesystem::weakly_canonical`: links are followed in the leading part
which exists, and the rest is appended as it is written.  Without such a part
the rest is taken from the working directory, which the empty path stands for.
-/
def weaklyCanonical (files : FileSystem) (path : Path) :
    CanonicalPath :=
  if (files.lookup path).isSome then files.canonical path
  else
    let (leading, rest) := files.leadingPart [] (elements path)
    rest.foldl descend (files.canonical leading)

/-- What exists is brought into its canonical form. -/
theorem weaklyCanonical_of_found
    {files : FileSystem} {path : Path}
    (found : files.lookup path ≠ none) :
    files.weaklyCanonical path = files.canonical path := by
  rw [weaklyCanonical, if_pos (Option.isSome_iff_ne_none.mpr found)]

end FileSystem

/-! ## Relative paths -/

/-- How `std::filesystem` writes one component. -/
def componentBytes : Component FileName → Bytes
  | .up => [dot, dot]
  | .name name => name.bytes

/-- Components joined by slashes. -/
def joinComponents : List (Component FileName) → Bytes
  | [] => []
  | [component] => componentBytes component
  | component :: rest =>
      componentBytes component ++ slash :: joinComponents rest

/-- `std::filesystem::relative(path, base)` as a string. -/
def FileSystem.relativeString (files : FileSystem)
    (path base : Path) : Bytes :=
  match
      relative (files.weaklyCanonical base) (files.weaklyCanonical path)
    with
  | [] => [dot]
  | components => joinComponents components

/-- `FileHandler::isFilePathUnderDirectory`. -/
def FileSystem.isFilePathUnderDirectory (files : FileSystem)
    (filePath directoryPath : Path) : Bool :=
  let relative := files.relativeString filePath directoryPath
  relative.length = 1 ∨
    (relative[0]? ≠ some dot ∧ relative[1]? ≠ some dot)

/-- By its weakly canonical form the path is not outside the directory. -/
def FileSystem.Lies (files : FileSystem)
    (filePath directoryPath : Path) : Prop :=
  files.weaklyCanonical directoryPath <+: files.weaklyCanonical filePath

/-- Opening the path leads to the directory itself or below it. -/
def FileSystem.Under (files : FileSystem)
    (filePath directoryPath : Path) : Prop :=
  files.weaklyCanonical directoryPath <+: files.canonical filePath

instance (files : FileSystem) (filePath directoryPath : Path) :
    Decidable (files.Lies filePath directoryPath) :=
  inferInstanceAs (Decidable (_ <+: _))

instance (files : FileSystem) (filePath directoryPath : Path) :
    Decidable (files.Under filePath directoryPath) :=
  inferInstanceAs (Decidable (_ <+: _))

/-- The two agree on what exists. -/
theorem FileSystem.lies_iff_under
    {files : FileSystem} {filePath directoryPath : Path}
    (found : files.lookup filePath ≠ none) :
    files.Lies filePath directoryPath ↔
      files.Under filePath directoryPath := by
  rw [Lies, Under, weaklyCanonical_of_found found]

/-- Neither by its weakly canonical form nor by opening it is it outside. -/
def FileSystem.Inside (files : FileSystem)
    (filePath directoryPath : Path) : Prop :=
  files.Lies filePath directoryPath ∧ files.Under filePath directoryPath

instance (files : FileSystem) (filePath directoryPath : Path) :
    Decidable (files.Inside filePath directoryPath) :=
  inferInstanceAs (Decidable (_ ∧ _))

/-- A relative path which climbs is written with two dots in front. -/
theorem joinComponents_of_head_up
    {components : List (Component FileName)}
    (climbs : components.head? = some .up) :
    ∃ rest, joinComponents components = dot :: dot :: rest := by
  cases components with
  | nil => simp at climbs
  | cons first rest =>
      simp only [List.head?_cons, Option.some.injEq] at climbs
      subst climbs
      cases rest with
      | nil => exact ⟨[], rfl⟩
      | cons second rest => exact ⟨_, rfl⟩

/-- Whatever passes the check is not outside by its weakly canonical form. -/
theorem FileSystem.lies_of_check
    {files : FileSystem} {filePath directoryPath : Path}
    (passed :
      files.isFilePathUnderDirectory filePath directoryPath = true) :
    files.Lies filePath directoryPath := by
  by_contra outside
  have climbs :=
    (head_relative_eq_up_iff (files.weaklyCanonical directoryPath)
      (files.weaklyCanonical filePath)).mpr outside
  obtain ⟨rest, written⟩ := joinComponents_of_head_up climbs
  have dots :
      files.relativeString filePath directoryPath =
        dot :: dot :: rest := by
    rw [FileSystem.relativeString]
    split
    · rename_i empty
      rw [empty] at climbs
      cases climbs
    · exact written
  simp [FileSystem.isFilePathUnderDirectory, dots] at passed

/-- What exists and passes the check is opened at or below the directory. -/
theorem FileSystem.under_of_check
    {files : FileSystem} {filePath directoryPath : Path}
    (found : files.lookup filePath ≠ none)
    (passed :
      files.isFilePathUnderDirectory filePath directoryPath = true) :
    files.Under filePath directoryPath :=
  (lies_iff_under found).mp (lies_of_check passed)

end IsaTftp.Files
