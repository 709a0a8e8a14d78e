import IsaTftp.Wire.Exceptions
import Mathlib.Logic.Function.Basic

/-!
# The file system

A path as the program writes it is a byte string.  `FileSystem.entry` is the
directory entry it names, with every symbolic link but one in the last place
resolved; a link in the last place is a node of its own, which opening follows
and removing does not.  The modelled code never makes or retargets a link, so
`entry` never changes.

`Storage` keeps the files together with the accesses made so far.  What the
program cannot foresee, such as a full disk, is decided by a `HostChoice`.
-/

namespace IsaTftp.Files

open IsaTftp.Wire

abbrev Path := Bytes

/-- The byte `/`. -/
abbrev slash : UInt8 := 47

/-- The byte `.`. -/
abbrev dot : UInt8 := 46

/-- A name which a directory can contain. -/
structure FileName where
  bytes : Bytes
  nonempty : bytes ≠ []
  noSlash : slash ∉ bytes
  notSpecial : bytes ≠ [dot] ∧ bytes ≠ [dot, dot]
deriving DecidableEq

/-- A path from the file system's root without links, `.` and `..`. -/
abbrev CanonicalPath := List FileName

inductive Node where
  | file (content : Bytes)
  | directory
  /-- a symbolic link, with the place it finally leads to -/
  | link (target : CanonicalPath)
deriving DecidableEq

structure FileSystem where
  node : CanonicalPath → Option Node
  entry : Path → CanonicalPath
  /-- the free bytes which `statvfs` reports, if it succeeds -/
  available : Path → Option Nat
  /-- where a link finally leads to there is no other link -/
  resolved : ∀ place target further,
    node place = some (.link target) → node target ≠ some (.link further)

namespace FileSystem

/-- Where opening a path leads: a link in the last place is followed. -/
def canonical (files : FileSystem) (path : Path) : CanonicalPath :=
  match files.node (files.entry path) with
  | some (.link target) => target
  | _ => files.entry path

/-- What a path denotes. -/
def lookup (files : FileSystem) (path : Path) : Option Node :=
  files.node (files.canonical path)

/-- A regular file is put at a place, or what is there is removed. -/
def setFile (files : FileSystem) (place : CanonicalPath)
    (content : Option Bytes) : FileSystem where
  node := Function.update files.node place (content.map .file)
  entry := files.entry
  available := files.available
  resolved := by
    intro other target further linked
    by_cases changed : other = place
    · subst changed
      cases content <;> simp at linked
    · rw [Function.update_of_ne changed] at linked
      by_cases here : target = place
      · subst here
        cases content <;> simp
      · rw [Function.update_of_ne here]
        exact files.resolved other target further linked

/-- The bytes of the regular file at a path. -/
def content (files : FileSystem) (path : Path) : Option Bytes :=
  match files.lookup path with
  | some (.file content) => some content
  | _ => none

@[simp]
theorem entry_setFile (files : FileSystem) (place : CanonicalPath)
    (content : Option Bytes) :
    (files.setFile place content).entry = files.entry :=
  rfl

@[simp]
theorem node_setFile_self (files : FileSystem) (place : CanonicalPath)
    (content : Option Bytes) :
    (files.setFile place content).node place = content.map .file := by
  simp [setFile]

theorem node_setFile_of_ne
    (files : FileSystem) {place other : CanonicalPath}
    (different : other ≠ place) (content : Option Bytes) :
    (files.setFile place content).node other = files.node other := by
  simp [setFile, different]

theorem canonical_of_link
    {files : FileSystem} {path : Path} {target : CanonicalPath}
    (linked : files.node (files.entry path) = some (.link target)) :
    files.canonical path = target := by
  simp [canonical, linked]

theorem canonical_of_not_link
    {files : FileSystem} {path : Path}
    (plain : ∀ target,
      files.node (files.entry path) ≠ some (.link target)) :
    files.canonical path = files.entry path := by
  unfold canonical
  split
  · rename_i target linked
    exact absurd linked (plain target)
  · rfl

theorem canonical_setFile_of_ne
    (files : FileSystem) {place : CanonicalPath} {path : Path}
    (different : files.entry path ≠ place) (content : Option Bytes) :
    (files.setFile place content).canonical path =
      files.canonical path := by
  simp only [canonical, entry_setFile,
    node_setFile_of_ne files different]

/-- At a canonical path there is no link. -/
theorem lookup_ne_link (files : FileSystem) (path : Path)
    (target : CanonicalPath) :
    files.lookup path ≠ some (.link target) := by
  by_cases linked :
      ∃ place, files.node (files.entry path) = some (.link place)
  · obtain ⟨place, linked⟩ := linked
    rw [lookup, canonical_of_link linked]
    exact files.resolved _ _ _ linked
  · have plain := not_exists.mp linked
    rw [lookup, canonical_of_not_link plain]
    exact plain target

/-- A file put where a path leads to changes no canonical path. -/
@[simp]
theorem canonical_setFile_canonical (files : FileSystem)
    (path other : Path) (content : Bytes) :
    (files.setFile (files.canonical path) (some content)).canonical
        other = files.canonical other := by
  by_cases here : files.entry other = files.canonical path
  · have plain : ∀ target,
        files.node (files.entry other) ≠ some (.link target) := by
      rw [here]
      exact files.lookup_ne_link path
    rw [canonical_of_not_link plain]
    exact canonical_of_not_link (by simp [here])
  · exact canonical_setFile_of_ne files here (some content)

/-- Such a file is found under every path which leads there. -/
theorem lookup_setFile_of_eq
    {files : FileSystem} {path other : Path}
    (same : files.canonical other = files.canonical path)
    (content : Bytes) :
    (files.setFile (files.canonical path) (some content)).lookup other =
      some (.file content) := by
  rw [lookup, canonical_setFile_canonical, same, node_setFile_self]
  rfl

/-- Nothing changes under the other paths. -/
theorem lookup_setFile_of_ne
    {files : FileSystem} {path other : Path}
    (different : files.canonical other ≠ files.canonical path)
    (content : Bytes) :
    (files.setFile (files.canonical path) (some content)).lookup other =
      files.lookup other := by
  rw [lookup, canonical_setFile_canonical,
    node_setFile_of_ne files different, lookup]

@[simp]
theorem lookup_setFile_canonical (files : FileSystem) (path : Path)
    (content : Bytes) :
    (files.setFile (files.canonical path) (some content)).lookup path =
      some (.file content) :=
  lookup_setFile_of_eq rfl content

@[simp]
theorem content_setFile_canonical (files : FileSystem) (path : Path)
    (bytes : Bytes) :
    (files.setFile (files.canonical path) (some bytes)).content path =
      some bytes := by
  simp [content]

/-- After the directory entry is gone, nothing is found. -/
@[simp]
theorem lookup_setFile_entry (files : FileSystem) (path : Path) :
    (files.setFile (files.entry path) none).lookup path = none := by
  rw [lookup, canonical_of_not_link (by simp), entry_setFile,
    node_setFile_self]
  rfl

theorem content_eq_some_iff
    {files : FileSystem} {path : Path} {bytes : Bytes} :
    files.content path = some bytes ↔
      files.lookup path = some (.file bytes) := by
  unfold content
  split <;> simp_all

theorem lookup_ne_none_of_content
    {files : FileSystem} {path : Path}
    (stored : files.content path ≠ none) :
    files.lookup path ≠ none := by
  intro missing
  exact stored (by simp [content, missing])

/-- A file stays as it is when the entry of a path to elsewhere goes. -/
theorem content_setFile_entry_of_ne
    {files : FileSystem} {path other : Path}
    (different : files.canonical other ≠ files.canonical path)
    {bytes : Bytes} (stored : files.content other = some bytes) :
    (files.setFile (files.entry path) none).content other =
      some bytes := by
  have found := content_eq_some_iff.mp stored
  have otherEntry : files.entry other ≠ files.entry path := by
    intro same
    apply different
    rw [canonical, canonical, same]
  have otherPlace : files.canonical other ≠ files.entry path := by
    intro same
    have plain : ∀ target,
        files.node (files.entry path) ≠ some (.link target) := by
      rw [← same]
      exact files.lookup_ne_link other
    rw [canonical_of_not_link plain] at different
    exact different same
  rw [content_eq_some_iff, lookup,
    canonical_setFile_of_ne files otherEntry,
    node_setFile_of_ne files otherPlace]
  exact found

/-- Files have changed at most where a path leads to, and no link has. -/
structure ChangesAt (before : FileSystem) (path : Path)
    (after : FileSystem) : Prop where
  canonical : ∀ other, after.canonical other = before.canonical other
  elsewhere : ∀ other,
    before.canonical other ≠ before.canonical path →
      after.lookup other = before.lookup other

theorem ChangesAt.refl (path : Path) (files : FileSystem) :
    files.ChangesAt path files :=
  ⟨fun _ => rfl, fun _ _ => rfl⟩

theorem ChangesAt.trans
    {first second third : FileSystem} {path : Path}
    (earlier : first.ChangesAt path second)
    (later : second.ChangesAt path third) :
    first.ChangesAt path third where
  canonical other :=
    (later.canonical other).trans (earlier.canonical other)
  elsewhere other different := by
    rw [← earlier.elsewhere other different]
    apply later.elsewhere
    rwa [earlier.canonical, earlier.canonical]

theorem changesAt_setFile (files : FileSystem) (path : Path)
    (content : Bytes) :
    files.ChangesAt path
      (files.setFile (files.canonical path) (some content)) where
  canonical other := files.canonical_setFile_canonical path other content
  elsewhere _ different := lookup_setFile_of_ne different content

theorem ChangesAt.content
    {before after : FileSystem} {path other : Path}
    (changes : before.ChangesAt path after)
    (different : before.canonical other ≠ before.canonical path) :
    after.content other = before.content other := by
  simp only [FileSystem.content, changes.elsewhere other different]

end FileSystem

/-! ## A small disk -/

/-- The name `f`. -/
def smallName : FileName :=
  ⟨text "f", by decide, by decide, by decide⟩

/--
A disk with one directory, called `r`, and in it at most the file `f`; every
other path is taken for the path of this file.
-/
def smallDisk (stored : Option Bytes) : FileSystem where
  node place :=
    if place = [] then some .directory
    else if place = [smallName] then stored.map .file
    else none
  entry path := if path = text "r" then [] else [smallName]
  available _ := none
  resolved place target further linked := by
    split_ifs at linked
    · cases linked
    · cases stored <;> cases linked

/-! ## Accesses and choices -/

/-- An access to the files, by the path which the program used. -/
inductive Access where
  | openRead (path : Path)
  | openWrite (path : Path)
  | write (path : Path) (bytes : Bytes)
  | remove (path : Path)
deriving DecidableEq

/-- The path of an access. -/
def Access.path : Access → Path
  | .openRead path => path
  | .openWrite path => path
  | .write path _ => path
  | .remove path => path

structure Storage where
  files : FileSystem
  accesses : List Access

/-- What the operating system decides during one step of the program. -/
structure HostChoice where
  /-- `std::filesystem` throws while it looks a path up -/
  statFails : Bool := false
  openFails : Bool := false
  readFails : Bool := false
  /-- a failing write, with the number of bytes which still reach the file -/
  writeFails : Option Nat := none
  /-- the held-back byte does not reach the file when it is closed -/
  closeFails : Bool := false
  removeFails : Bool := false
  /-- the uninitialised byte which a read past the end leaves behind -/
  stray : UInt8 := 0
deriving DecidableEq, Repr

namespace Storage

/-- Note an access. -/
def access (storage : Storage) (access : Access) : Storage :=
  { storage with accesses := storage.accesses ++ [access] }

@[simp]
theorem files_access (storage : Storage) (access : Access) :
    (storage.access access).files = storage.files :=
  rfl

@[simp]
theorem accesses_access (storage : Storage) (access : Access) :
    (storage.access access).accesses = storage.accesses ++ [access] :=
  rfl

/-- `FileHandler::FileExists`: links are followed. -/
def fileExists (storage : Storage) (host : HostChoice) (path : Path) :
    Except Exception Bool :=
  if host.statFails then .error .filesystemError
  else .ok (storage.files.lookup path).isSome

/-- The check says whether something is found, if it says anything. -/
theorem isSome_of_fileExists
    {storage : Storage} {host : HostChoice} {path : Path}
    {found : Bool} (result : storage.fileExists host path = .ok found) :
    (storage.files.lookup path).isSome = found := by
  unfold fileExists at result
  split_ifs at result
  exact Except.ok.inj result

/-- `FileHandler::DeleteFile`: a link itself is removed, not its target. -/
def deleteFile (storage : Storage) (host : HostChoice) (path : Path) :
    Except Exception Unit × Storage :=
  let noted := storage.access (.remove path)
  if host.removeFails then (.error .filesystemError, noted)
  else
    (.ok (),
      { noted with
        files := storage.files.setFile (storage.files.entry path) none })

/-- `FileHandler::HasEnoughSpace`. -/
def hasEnoughSpace (storage : Storage) (path : Path)
    (requiredBytes : Nat) : Bool :=
  match storage.files.available path with
  | none => false
  | some availableBytes => requiredBytes ≤ availableBytes

/-- Bytes written at a position; a gap before them is filled with zeros. -/
def overlay (content : Bytes) (position : Nat) (bytes : Bytes) : Bytes :=
  content.take position ++
    List.replicate (position - content.length) 0 ++ bytes ++
      content.drop (position + bytes.length)

/-- Writing at the end appends. -/
theorem overlay_at_end (content bytes : Bytes) :
    overlay content content.length bytes = content ++ bytes := by
  simp [overlay]

/--
Write through a stream which was opened on a path.  If the file has been
removed in between, the bytes go to a file without a name.
-/
def writeAt (storage : Storage) (path : Path) (position : Nat)
    (bytes : Bytes) : Storage :=
  let noted := storage.access (.write path bytes)
  match storage.files.lookup path with
  | some (.file content) =>
      { noted with
        files := storage.files.setFile (storage.files.canonical path)
          (some (overlay content position bytes)) }
  | _ => noted

/-- Writing at the end of a file appends to it. -/
theorem writeAt_end
    {storage : Storage} {path : Path} {content : Bytes}
    (stored : storage.files.content path = some content)
    (bytes : Bytes) :
    (storage.writeAt path content.length bytes).files.content path =
      some (content ++ bytes) := by
  have found := FileSystem.content_eq_some_iff.mp stored
  simp [writeAt, found, overlay_at_end]

theorem accesses_writeAt (storage : Storage) (path : Path)
    (position : Nat) (bytes : Bytes) :
    (storage.writeAt path position bytes).accesses =
      storage.accesses ++ [.write path bytes] := by
  unfold writeAt
  split <;> rfl

/-- The blocks handed to the operating system so far, oldest first. -/
def writtenBlocks (storage : Storage) : List Bytes :=
  storage.accesses.filterMap fun
    | .write _ bytes => some bytes
    | _ => none

@[simp]
theorem writtenBlocks_access_openRead (storage : Storage)
    (path : Path) :
    (storage.access (.openRead path)).writtenBlocks =
      storage.writtenBlocks := by
  simp [writtenBlocks]

@[simp]
theorem writtenBlocks_access_openWrite (storage : Storage)
    (path : Path) :
    (storage.access (.openWrite path)).writtenBlocks =
      storage.writtenBlocks := by
  simp [writtenBlocks]

@[simp]
theorem writtenBlocks_access_remove (storage : Storage)
    (path : Path) :
    (storage.access (.remove path)).writtenBlocks =
      storage.writtenBlocks := by
  simp [writtenBlocks]

@[simp]
theorem writtenBlocks_writeAt (storage : Storage) (path : Path)
    (position : Nat) (bytes : Bytes) :
    (storage.writeAt path position bytes).writtenBlocks =
      storage.writtenBlocks ++ [bytes] := by
  simp [writtenBlocks, accesses_writeAt]

@[simp]
theorem writtenBlocks_deleteFile (storage : Storage)
    (host : HostChoice) (path : Path) :
    (storage.deleteFile host path).2.writtenBlocks =
      storage.writtenBlocks := by
  unfold deleteFile
  split_ifs <;> simp [writtenBlocks]

/-- Nothing has happened but that a path was opened for reading. -/
structure OnlyReads (before : Storage) (path : Path) (after : Storage) : Prop where
  files : after.files = before.files
  accesses : ∃ reads, after.accesses = before.accesses ++ reads ∧
    ∀ access ∈ reads, access = .openRead path

theorem OnlyReads.refl (path : Path) (storage : Storage) :
    OnlyReads storage path storage :=
  ⟨rfl, [], by simp, by simp⟩

theorem OnlyReads.openRead (path : Path) (storage : Storage) :
    OnlyReads storage path (storage.access (.openRead path)) :=
  ⟨rfl, [.openRead path], rfl, by simp⟩

theorem OnlyReads.trans
    {path : Path} {first second third : Storage}
    (earlier : OnlyReads first path second)
    (later : OnlyReads second path third) :
    OnlyReads first path third := by
  obtain ⟨sameEarlier, reads, notedEarlier, onlyEarlier⟩ := earlier
  obtain ⟨sameLater, more, notedLater, onlyLater⟩ := later
  refine
    ⟨sameLater.trans sameEarlier, reads ++ more,
      by rw [notedLater, notedEarlier, List.append_assoc], ?_⟩
  intro access member
  exact
    (List.mem_append.mp member).elim (onlyEarlier access)
      (onlyLater access)

/-- Nothing has been accessed but one path. -/
def Touches (before : Storage) (path : Path) (after : Storage) : Prop :=
  ∃ more, after.accesses = before.accesses ++ more ∧
    ∀ access ∈ more, access.path = path

theorem OnlyReads.writtenBlocks
    {path : Path} {before after : Storage}
    (reads : before.OnlyReads path after) :
    after.writtenBlocks = before.writtenBlocks := by
  obtain ⟨more, noted, only⟩ := reads.accesses
  simp only [Storage.writtenBlocks, noted, List.filterMap_append,
    List.append_right_eq_self, List.filterMap_eq_nil_iff]
  intro access member
  rw [only access member]

/-- A block was written through this path. -/
def Wrote (storage : Storage) (path : Path) : Prop :=
  ∃ bytes, Access.write path bytes ∈ storage.accesses

theorem Wrote.writtenBlocks_ne_nil
    {storage : Storage} {path : Path} (wrote : storage.Wrote path) :
    storage.writtenBlocks ≠ [] := by
  obtain ⟨bytes, member⟩ := wrote
  exact List.ne_nil_of_mem (List.mem_filterMap.mpr ⟨_, member, rfl⟩)

theorem exists_wrote
    {storage : Storage} (some_ : storage.writtenBlocks ≠ []) :
    ∃ path, storage.Wrote path := by
  obtain ⟨bytes, member⟩ := List.exists_mem_of_ne_nil _ some_
  obtain ⟨access, noted, written⟩ := List.mem_filterMap.mp member
  cases access with
  | write path block =>
      cases written
      exact ⟨path, bytes, noted⟩
  | openRead path => cases written
  | openWrite path => cases written
  | remove path => cases written

theorem Touches.refl (path : Path) (storage : Storage) :
    storage.Touches path storage :=
  ⟨[], by simp, by simp⟩

theorem Touches.trans
    {path : Path} {first second third : Storage}
    (earlier : first.Touches path second)
    (later : second.Touches path third) :
    first.Touches path third := by
  obtain ⟨some_, notedEarlier, onlyEarlier⟩ := earlier
  obtain ⟨more, notedLater, onlyLater⟩ := later
  refine
    ⟨some_ ++ more,
      by rw [notedLater, notedEarlier, List.append_assoc], ?_⟩
  intro access member
  exact
    (List.mem_append.mp member).elim (onlyEarlier access)
      (onlyLater access)

theorem Touches.mem
    {before after : Storage} {path : Path} {access : Access}
    (touches : before.Touches path after)
    (noted : access ∈ before.accesses) : access ∈ after.accesses := by
  obtain ⟨more, accesses, _⟩ := touches
  rw [accesses]
  exact List.mem_append_left more noted

theorem OnlyReads.touches
    {path : Path} {before after : Storage}
    (reads : before.OnlyReads path after) :
    before.Touches path after := by
  obtain ⟨more, noted, only⟩ := reads.accesses
  refine ⟨more, noted, fun access member => ?_⟩
  rw [only access member]
  rfl

theorem touches_access (storage : Storage) (access : Access) :
    storage.Touches access.path (storage.access access) :=
  ⟨[access], rfl, by simp⟩

theorem touches_writeAt (storage : Storage) (path : Path)
    (position : Nat) (bytes : Bytes) :
    storage.Touches path (storage.writeAt path position bytes) :=
  ⟨[.write path bytes], accesses_writeAt storage path position bytes,
    by simp [Access.path]⟩

theorem changesAt_writeAt (storage : Storage) (path : Path)
    (position : Nat) (bytes : Bytes) :
    storage.files.ChangesAt path
      (storage.writeAt path position bytes).files := by
  unfold writeAt
  split
  · exact storage.files.changesAt_setFile path _
  · exact .refl path storage.files

theorem touches_deleteFile (storage : Storage) (host : HostChoice)
    (path : Path) :
    storage.Touches path (storage.deleteFile host path).2 := by
  refine ⟨[.remove path], ?_, by simp [Access.path]⟩
  unfold deleteFile
  split_ifs <;> rfl

/--
Blocks may have been written through a path; if none was, the files are as
they were.
-/
structure Advances (before : Storage) (path : Path) (after : Storage) :
    Prop where
  changes : before.files.ChangesAt path after.files
  silent : after.writtenBlocks = [] → after.files = before.files
  grows : before.writtenBlocks ≠ [] → after.writtenBlocks ≠ []

theorem Advances.of_quiet
    {before after : Storage} (files : after.files = before.files)
    (blocks : after.writtenBlocks = before.writtenBlocks)
    (path : Path) :
    before.Advances path after where
  changes := by
    rw [files]
    exact .refl path before.files
  silent _ := files
  grows := by
    rw [blocks]
    exact id

theorem Advances.trans
    {first second third : Storage} {path : Path}
    (earlier : first.Advances path second)
    (later : second.Advances path third) :
    first.Advances path third where
  changes := earlier.changes.trans later.changes
  silent nothing := by
    rw [later.silent nothing]
    apply earlier.silent
    by_contra some_
    exact later.grows some_ nothing
  grows some_ := later.grows (earlier.grows some_)

theorem advances_writeAt (storage : Storage) (path : Path)
    (position : Nat) (bytes : Bytes) :
    storage.Advances path (storage.writeAt path position bytes) where
  changes := storage.changesAt_writeAt path position bytes
  silent nothing := by simp at nothing
  grows _ := by simp

end Storage

end IsaTftp.Files
