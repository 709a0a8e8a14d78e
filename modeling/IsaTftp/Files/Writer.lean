import IsaTftp.Files.Netascii
import IsaTftp.Files.Storage

/-!
# Writing blocks to a file

A `Writer` opens its file, and truncates it, when the first block is written.
In NETASCII mode every block is decoded on its own; a CR at the end of the
decoded block is held back until the next block or the end.
-/

namespace IsaTftp.Files

open IsaTftp.Wire

structure Writer where
  filepath : Path
  mode : DataFormat
  /-- the put position of the open file, if it is open -/
  file : Option Nat
  tbwLaterBuffer : Bytes
deriving DecidableEq, Repr

def Writer.make (filepath : Path) (mode : DataFormat) : Writer :=
  ⟨filepath, mode, none, []⟩

/-- How a call of `WriteFile` ends. -/
inductive WriteStatus where
  | done
  | threw (exception : Exception)
  | undefined
deriving DecidableEq, Repr

/-- `Writer::OpenFile`: the file is created, or emptied if it exists. -/
def Writer.openFile (writer : Writer) (storage : Storage)
    (host : HostChoice) : Except Exception Writer × Storage :=
  let noted := storage.access (.openWrite writer.filepath)
  if host.openFails ∨
      storage.files.lookup writer.filepath = some .directory then
    (.error (.fileHandler (.failedToOpenFile writer.filepath)), noted)
  else
    (.ok { writer with file := some 0 },
      { noted with
        files :=
          storage.files.setFile (storage.files.canonical writer.filepath)
            (some []) })

/--
What a block contributes: the bytes to write now and those to hold back.
In NETASCII mode the source looks at the last decoded byte without asking
whether there is one; without one the access is out of bounds.
-/
def Writer.decodeBlock (mode : DataFormat) (held block : Bytes) :
    Option (Bytes × Bytes) :=
  let data := held ++ block
  match mode with
  | .OCTET => some (data, [])
  | .NETASCII =>
      let decoded := formatFromNETASCII data
      match decoded.getLast? with
      | none => none
      | some last =>
          if last = cr then some (decoded.dropLast, [cr])
          else some (decoded, [])

/-- `WriteFile` on an open file. -/
def Writer.writeOpened (writer : Writer) (storage : Storage)
    (host : HostChoice) (position : Nat) (block : Bytes) :
    WriteStatus × Writer × Storage :=
  match Writer.decodeBlock writer.mode writer.tbwLaterBuffer block with
  | none => (.undefined, writer, storage)
  | some (bytes, held) =>
      match host.writeFails with
      | none =>
          (.done,
            { writer with
              file := some (position + bytes.length)
              tbwLaterBuffer := held },
            storage.writeAt writer.filepath position bytes)
      | some count =>
          (.threw (.fileHandler .failedToWriteToFile),
            { writer with
              file := some (position + (bytes.take count).length)
              tbwLaterBuffer := held },
            storage.writeAt writer.filepath position (bytes.take count))

/-- `Writer::WriteFile(data)`. -/
def Writer.writeFile (writer : Writer) (storage : Storage)
    (host : HostChoice) (block : Bytes) :
    WriteStatus × Writer × Storage :=
  match writer.file with
  | some position => writer.writeOpened storage host position block
  | none =>
      match writer.openFile storage host with
      | (.error exception, storage) => (.threw exception, writer, storage)
      | (.ok opened, storage) => opened.writeOpened storage host 0 block

/--
`Writer::~Writer`: a byte held back is written before the file is closed.
Nothing is written through a stream on which a write has failed.
-/
def Writer.close (writer : Writer) (storage : Storage)
    (host : HostChoice) : Storage :=
  match writer.file with
  | none => storage
  | some position =>
      if writer.tbwLaterBuffer = [] ∨ host.closeFails ∨
          host.writeFails ≠ none then
        storage
      else
        storage.writeAt writer.filepath position writer.tbwLaterBuffer

/-! ## Opening the file -/

/-- What opening leaves: the file is created, or emptied if it exists. -/
def Storage.emptied (storage : Storage) (path : Path) : Storage :=
  { storage.access (.openWrite path) with
    files :=
      storage.files.setFile (storage.files.canonical path) (some []) }

@[simp]
theorem Storage.content_emptied (storage : Storage) (path : Path) :
    (storage.emptied path).files.content path = some [] :=
  storage.files.content_setFile_canonical path []

@[simp]
theorem Storage.writtenBlocks_emptied (storage : Storage) (path : Path) :
    (storage.emptied path).writtenBlocks = storage.writtenBlocks := by
  simp [Storage.emptied, Storage.writtenBlocks, Storage.access]

section WriteFile

variable {writer : Writer} {storage : Storage} {host : HostChoice}

theorem Writer.writeFile_of_open
    {position : Nat} (isOpen : writer.file = some position)
    (block : Bytes) :
    writer.writeFile storage host block =
      writer.writeOpened storage host position block := by
  rw [Writer.writeFile, isOpen]

theorem Writer.writeFile_of_refused
    (unopened : writer.file = none)
    (refused : host.openFails ∨
      storage.files.lookup writer.filepath = some .directory)
    (block : Bytes) :
    writer.writeFile storage host block =
      (.threw (.fileHandler (.failedToOpenFile writer.filepath)), writer,
        storage.access (.openWrite writer.filepath)) := by
  simp only [Writer.writeFile, unopened, Writer.openFile, if_pos refused]

theorem Writer.writeFile_of_opens
    (unopened : writer.file = none)
    (opens : ¬ (host.openFails ∨
      storage.files.lookup writer.filepath = some .directory))
    (block : Bytes) :
    writer.writeFile storage host block =
      { writer with file := some 0 }.writeOpened
        (storage.emptied writer.filepath) host 0 block := by
  simp only [Writer.writeFile, unopened, Writer.openFile, if_neg opens,
    Storage.emptied]

/-- A call writes to an open file, cannot open the file, or opens it. -/
theorem Writer.writeFile_cases (writer : Writer)
    (storage : Storage) (host : HostChoice) (block : Bytes) :
    (∃ position, writer.file = some position ∧
        writer.writeFile storage host block =
          writer.writeOpened storage host position block) ∨
      (writer.file = none ∧
        (host.openFails ∨
          storage.files.lookup writer.filepath = some .directory) ∧
          writer.writeFile storage host block =
            (.threw (.fileHandler (.failedToOpenFile writer.filepath)),
              writer, storage.access (.openWrite writer.filepath))) ∨
        (writer.file = none ∧
          ¬ (host.openFails ∨
            storage.files.lookup writer.filepath = some .directory) ∧
            writer.writeFile storage host block =
              { writer with file := some 0 }.writeOpened
                (storage.emptied writer.filepath) host 0 block) := by
  cases isOpen : writer.file with
  | some position =>
      exact Or.inl ⟨position, rfl, writeFile_of_open isOpen block⟩
  | none =>
      by_cases refused : host.openFails ∨
          storage.files.lookup writer.filepath = some .directory
      · exact
          Or.inr
            (Or.inl ⟨rfl, refused, writeFile_of_refused isOpen refused block⟩)
      · exact
          Or.inr
            (Or.inr ⟨rfl, refused, writeFile_of_opens isOpen refused block⟩)

end WriteFile

/-! ## What a writer touches -/

@[simp]
theorem Writer.filepath_writeOpened (writer : Writer)
    (storage : Storage) (host : HostChoice) (position : Nat)
    (block : Bytes) :
    (writer.writeOpened storage host position block).2.1.filepath =
      writer.filepath := by
  unfold writeOpened
  split
  · rfl
  · split <;> rfl

theorem Writer.touches_writeOpened (writer : Writer)
    (storage : Storage) (host : HostChoice) (position : Nat)
    (block : Bytes) :
    storage.Touches writer.filepath
      (writer.writeOpened storage host position block).2.2 := by
  unfold writeOpened
  split
  · exact .refl _ _
  · split <;> exact storage.touches_writeAt _ _ _

@[simp]
theorem Writer.filepath_writeFile (writer : Writer)
    (storage : Storage) (host : HostChoice) (block : Bytes) :
    (writer.writeFile storage host block).2.1.filepath =
      writer.filepath := by
  rcases writer.writeFile_cases storage host block with
    ⟨position, _, result⟩ | ⟨_, _, result⟩ | ⟨_, _, result⟩
  · rw [result, filepath_writeOpened]
  · rw [result]
  · rw [result, filepath_writeOpened]

/-- A call of `WriteFile` touches the path of the writer only. -/
theorem Writer.touches_writeFile (writer : Writer)
    (storage : Storage) (host : HostChoice) (block : Bytes) :
    storage.Touches writer.filepath
      (writer.writeFile storage host block).2.2 := by
  have opening := storage.touches_access (.openWrite writer.filepath)
  rcases writer.writeFile_cases storage host block with
    ⟨position, _, result⟩ | ⟨_, _, result⟩ | ⟨_, _, result⟩
  · rw [result]
    exact writer.touches_writeOpened storage host position block
  · rw [result]
    exact opening
  · rw [result]
    exact
      opening.trans
        (touches_writeOpened { writer with file := some 0 }
          (storage.emptied writer.filepath) host 0 block)

/-- A writer without an open file tries to open it. -/
theorem Writer.opens_writeFile
    {writer : Writer} (unopened : writer.file = none)
    (storage : Storage) (host : HostChoice) (block : Bytes) :
    Access.openWrite writer.filepath ∈
      (writer.writeFile storage host block).2.2.accesses := by
  have noted :
      Access.openWrite writer.filepath ∈
        (storage.access (.openWrite writer.filepath)).accesses := by
    simp
  rcases writer.writeFile_cases storage host block with
    ⟨position, isOpen, _⟩ | ⟨_, _, result⟩ | ⟨_, _, result⟩
  · rw [unopened] at isOpen
    cases isOpen
  · rw [result]
    exact noted
  · rw [result]
    exact
      Storage.Touches.mem
        (Writer.touches_writeOpened { writer with file := some 0 }
          (storage.emptied writer.filepath) host 0 block)
        noted

theorem Writer.touches_close (writer : Writer) (storage : Storage)
    (host : HostChoice) :
    storage.Touches writer.filepath (writer.close storage host) := by
  unfold close
  split
  · exact .refl _ _
  · split_ifs
    · exact .refl _ _
    · exact storage.touches_writeAt _ _ _

/-- A call of `WriteFile` changes the file of the writer only. -/
theorem Writer.changesAt_writeFile (writer : Writer)
    (storage : Storage) (host : HostChoice) (block : Bytes) :
    storage.files.ChangesAt writer.filepath
      (writer.writeFile storage host block).2.2.files := by
  have written : ∀ (opened : Writer) (storage : Storage) position,
      storage.files.ChangesAt opened.filepath
        (opened.writeOpened storage host position block).2.2.files := by
    intro opened storage position
    unfold writeOpened
    split
    · exact .refl _ _
    · split <;> exact storage.changesAt_writeAt _ _ _
  rcases writer.writeFile_cases storage host block with
    ⟨position, _, result⟩ | ⟨_, _, result⟩ | ⟨_, _, result⟩
  · rw [result]
    exact written writer storage position
  · rw [result]
    exact .refl _ _
  · rw [result]
    exact
      (storage.files.changesAt_setFile writer.filepath []).trans
        (written { writer with file := some 0 }
          (storage.emptied writer.filepath) 0)

/-! ## What a writer has stored -/

/-- Whether the call of `WriteFile` on an open file succeeds. -/
def Writer.Accepts (writer : Writer) (host : HostChoice)
    (block : Bytes) : Prop :=
  Writer.decodeBlock writer.mode writer.tbwLaterBuffer block ≠ none ∧
    host.writeFails = none

/--
The file of a writer holds what was written to the storage so far, and the
next bytes go to its end.
-/
structure Writer.Holds (writer : Writer) (storage : Storage) : Prop where
  unopened : writer.file = none → storage.writtenBlocks = []
  opened : ∀ position, writer.file = some position →
    storage.files.content writer.filepath =
        some storage.writtenBlocks.flatten ∧
      position = storage.writtenBlocks.flatten.length

theorem Writer.Holds.make
    {storage : Storage} (nothing : storage.writtenBlocks = [])
    (filepath : Path) (mode : DataFormat) :
    (Writer.make filepath mode).Holds storage where
  unopened _ := nothing
  opened _ isOpen := by cases isOpen

/-- Writing at the end keeps the file equal to what was written. -/
theorem content_writeAt_end
    {storage : Storage} {path : Path}
    (stored : storage.files.content path =
      some storage.writtenBlocks.flatten)
    (bytes : Bytes) :
    (storage.writeAt path storage.writtenBlocks.flatten.length
        bytes).files.content path =
      some
        (storage.writeAt path storage.writtenBlocks.flatten.length
          bytes).writtenBlocks.flatten := by
  rw [Storage.writeAt_end stored]
  simp

/-- A write to an open file, whether it succeeds or not. -/
theorem Writer.Holds.writeOpened
    {writer : Writer} {storage : Storage} {position : Nat}
    (holds : writer.Holds storage) (isOpen : writer.file = some position)
    (host : HostChoice) (block : Bytes) :
    ∃ status next stored,
      writer.writeOpened storage host position block =
          (status, next, stored) ∧
        next.filepath = writer.filepath ∧ next.Holds stored ∧
          next.file ≠ none ∧
            (status = .done ↔ writer.Accepts host block) ∧
              (status ≠ .undefined → stored.writtenBlocks ≠ []) := by
  obtain ⟨content, atEnd⟩ := holds.opened position isOpen
  have appended := fun bytes => content_writeAt_end content bytes
  unfold Writer.writeOpened Writer.Accepts
  cases Writer.decodeBlock writer.mode writer.tbwLaterBuffer block with
  | none =>
      exact
        ⟨.undefined, writer, storage, rfl, rfl, holds, by simp [isOpen],
          by simp, by simp⟩
  | some pair =>
      obtain ⟨bytes, held⟩ := pair
      subst atEnd
      cases fails : host.writeFails with
      | none =>
          refine
            ⟨.done, _, _, rfl, rfl, ⟨by simp, ?_⟩, by simp, by simp,
              by simp⟩
          intro reached opened
          cases opened
          exact ⟨appended bytes, by simp⟩
      | some count =>
          refine
            ⟨.threw _, _, _, rfl, rfl, ⟨by simp, ?_⟩, by simp, by simp,
              by simp⟩
          intro reached opened
          cases opened
          exact ⟨appended (bytes.take count), by simp⟩

/-- A call of `WriteFile`: the file cannot be opened, or it is written. -/
theorem Writer.Holds.writeFile
    {writer : Writer} {storage : Storage} (holds : writer.Holds storage)
    (host : HostChoice) (block : Bytes) :
    (writer.file = none ∧
        (host.openFails ∨
          storage.files.lookup writer.filepath = some .directory) ∧
          ∃ exception,
            writer.writeFile storage host block =
              (.threw exception, writer,
                storage.access (.openWrite writer.filepath))) ∨
      ((writer.file ≠ none ∨
          ¬ (host.openFails ∨
            storage.files.lookup writer.filepath = some .directory)) ∧
        ∃ status next stored,
          writer.writeFile storage host block = (status, next, stored) ∧
            next.filepath = writer.filepath ∧ next.Holds stored ∧
              next.file ≠ none ∧
                (status = .done ↔ writer.Accepts host block) ∧
                  (status ≠ .undefined →
                    stored.writtenBlocks ≠ [])) := by
  rcases writer.writeFile_cases storage host block with
    ⟨position, isOpen, result⟩ | ⟨unopened, refused, result⟩ |
      ⟨unopened, opens, result⟩
  · rw [result]
    exact Or.inr ⟨by simp [isOpen], holds.writeOpened isOpen host block⟩
  · exact Or.inl ⟨unopened, refused, _, result⟩
  · have nothing := holds.unopened unopened
    have opened :
        ({ writer with file := some 0 } : Writer).Holds
          (storage.emptied writer.filepath) := by
      refine ⟨by simp, ?_⟩
      intro position isOpen
      cases isOpen
      simp [nothing]
    rw [result]
    exact Or.inr ⟨Or.inr opens, opened.writeOpened rfl host block⟩

/-- Closing the file, too, keeps it equal to what was written. -/
theorem Writer.Holds.close
    {writer : Writer} {storage : Storage} (holds : writer.Holds storage)
    (isOpen : writer.file ≠ none) (host : HostChoice) :
    (writer.close storage host).files.content writer.filepath =
      some (writer.close storage host).writtenBlocks.flatten := by
  obtain ⟨position, opened⟩ := Option.ne_none_iff_exists'.mp isOpen
  obtain ⟨content, atEnd⟩ := holds.opened position opened
  subst atEnd
  unfold Writer.close
  rw [opened]
  dsimp only
  split_ifs
  · exact content
  · exact content_writeAt_end content _

/-- A writer which has not opened its file has nothing to close. -/
theorem Writer.close_of_unopened
    {writer : Writer} (unopened : writer.file = none)
    (storage : Storage) (host : HostChoice) :
    writer.close storage host = storage := by
  simp [Writer.close, unopened]

/-- What a call of `WriteFile` does to the storage, unless it is undefined. -/
theorem Writer.Holds.advances_writeFile
    {writer next : Writer} {storage stored : Storage}
    (holds : writer.Holds storage) {host : HostChoice} {block : Bytes}
    {status : WriteStatus}
    (result :
      writer.writeFile storage host block = (status, next, stored))
    (defined : status ≠ .undefined) :
    storage.Advances writer.filepath stored := by
  have changes := writer.changesAt_writeFile storage host block
  rcases holds.writeFile host block with
    ⟨_, _, exception, refused⟩ |
      ⟨_, status', next', stored', written, _, _, _, _, some_⟩
  · cases result.symm.trans refused
    have blocks :=
      storage.writtenBlocks_access_openWrite writer.filepath
    exact .of_quiet (storage.files_access _) blocks _
  · rw [result] at changes
    cases result.symm.trans written
    exact
      ⟨changes, fun nothing => absurd nothing (some_ defined),
        fun _ => some_ defined⟩

theorem Writer.advances_close (writer : Writer) (storage : Storage)
    (host : HostChoice) :
    storage.Advances writer.filepath (writer.close storage host) := by
  unfold close
  split
  · exact .of_quiet rfl rfl _
  · split_ifs
    · exact .of_quiet rfl rfl _
    · exact storage.advances_writeAt _ _ _

/-! ## Octet mode -/

/--
A writer in octet mode which has put exactly `written` into its file; before
the file is opened nothing is written.
-/
structure Writer.Stores (writer : Writer) (files : FileSystem)
    (written : Bytes) : Prop where
  octet : writer.mode = .OCTET
  nothingHeld : writer.tbwLaterBuffer = []
  unopened : writer.file = none → written = []
  opened : ∀ position, writer.file = some position →
    position = written.length ∧
      files.content writer.filepath = some written

theorem Writer.Stores.make (filepath : Path) (files : FileSystem) :
    (Writer.make filepath .OCTET).Stores files [] where
  octet := rfl
  nothingHeld := rfl
  unopened _ := rfl
  opened _ isOpen := by cases isOpen

/-- An octet writer has nothing left to write when it is closed. -/
theorem Writer.Stores.close
    {writer : Writer} {storage : Storage} {written : Bytes}
    (stores : writer.Stores storage.files written) (host : HostChoice) :
    writer.close storage host = storage := by
  unfold Writer.close
  split
  · rfl
  · simp [stores.nothingHeld]

theorem Writer.Stores.content
    {writer : Writer} {files : FileSystem} {written : Bytes}
    (stores : writer.Stores files written)
    (isOpen : writer.file ≠ none) :
    files.content writer.filepath = some written := by
  obtain ⟨position, opened⟩ := Option.ne_none_iff_exists'.mp isOpen
  exact (stores.opened position opened).2

/-- Writing a block to an open file in octet mode. -/
theorem Writer.Stores.writeOpened
    {writer : Writer} {storage : Storage} {written : Bytes}
    {position : Nat} {host : HostChoice}
    (stores : writer.Stores storage.files written)
    (isOpen : writer.file = some position)
    (diskAccepts : host.writeFails = none) (block : Bytes) :
    ∃ next stored,
      writer.writeOpened storage host position block =
          (.done, next, stored) ∧
        next.Stores stored.files (written ++ block) ∧
          next.file ≠ none ∧ next.filepath = writer.filepath ∧
            stored.writtenBlocks = storage.writtenBlocks ++ [block] := by
  obtain ⟨atEnd, content⟩ := stores.opened position isOpen
  refine
    ⟨{ writer with
        file := some (position + block.length)
        tbwLaterBuffer := [] },
      storage.writeAt writer.filepath position block, ?_, ?_, by simp, rfl,
      by simp⟩
  · simp [Writer.writeOpened, Writer.decodeBlock, stores.octet,
      stores.nothingHeld, diskAccepts]
  · refine ⟨stores.octet, rfl, by simp, ?_⟩
    intro reached opened
    cases opened
    subst atEnd
    exact ⟨by simp, Storage.writeAt_end content block⟩

/--
Writing a block in octet mode: the file cannot be opened, or the block is
appended to what has been written before.
-/
theorem Writer.Stores.writeFile
    {writer : Writer} {storage : Storage} {written : Bytes}
    {host : HostChoice}
    (stores : writer.Stores storage.files written)
    (diskAccepts : host.writeFails = none) (block : Bytes) :
    (writer.file = none ∧
        (host.openFails ∨
          storage.files.lookup writer.filepath = some .directory) ∧
          ∃ exception,
            writer.writeFile storage host block =
              (.threw exception, writer,
                storage.access (.openWrite writer.filepath))) ∨
      ∃ next stored,
        writer.writeFile storage host block = (.done, next, stored) ∧
          next.Stores stored.files (written ++ block) ∧
            next.file ≠ none ∧ next.filepath = writer.filepath ∧
              stored.writtenBlocks =
                storage.writtenBlocks ++ [block] := by
  rcases writer.writeFile_cases storage host block with
    ⟨position, isOpen, result⟩ | ⟨unopened, refused, result⟩ |
      ⟨unopened, _, result⟩
  · rw [result]
    exact Or.inr (stores.writeOpened isOpen diskAccepts block)
  · exact Or.inl ⟨unopened, refused, _, result⟩
  · have nothing := stores.unopened unopened
    subst nothing
    have opened :
        ({ writer with file := some 0 } : Writer).Stores
          (storage.emptied writer.filepath).files [] := by
      refine ⟨stores.octet, stores.nothingHeld, by simp, ?_⟩
      intro position isOpen
      cases isOpen
      exact ⟨rfl, by simp⟩
    have written := opened.writeOpened rfl diskAccepts block
    rw [Storage.writtenBlocks_emptied] at written
    rw [result]
    exact Or.inr written

end IsaTftp.Files
