import IsaTftp.Files.ReadFailures

/-!
# How much a transfer reads

A transfer reads a file block by block up to the first one which is short.  In
octet mode the number of blocks and the number of bytes follow from the file
alone; in NETASCII mode they depend on the byte which a read leaves behind at
the end of the file.
-/

namespace IsaTftp.Files

open IsaTftp.Wire
open IsaTftp.Library.Chunking

/--
How many blocks successive calls of `ReadFile` can return, the short one
included, and how many bytes.  Meanwhile the files stay as they are.
-/
inductive Reader.Yields (files : FileSystem) (numBytes : Nat) :
    Reader → Nat → Nat → Prop where
  | last {reader next : Reader} {storage stored : Storage}
      {host : HostChoice} {chunk : Bytes} (same : storage.files = files)
      (read : reader.readFile storage host numBytes =
        (.ok (chunk, next), stored))
      (short : chunk.length < numBytes) :
      Yields files numBytes reader 1 chunk.length
  | more {reader next : Reader} {storage stored : Storage}
      {host : HostChoice} {chunk : Bytes} {count total : Nat}
      (same : storage.files = files)
      (read : reader.readFile storage host numBytes =
        (.ok (chunk, next), stored))
      (full : ¬ chunk.length < numBytes)
      (rest : Yields files numBytes next count total) :
      Yields files numBytes reader (count + 1) (chunk.length + total)

namespace Reader

variable {reader next : Reader} {storage stored : Storage}
  {host : HostChoice} {numBytes : Nat} {chunk : Bytes}

theorem Yields.positive
    {files : FileSystem} {count total : Nat}
    (yields : Yields files numBytes reader count total) : 0 < count := by
  cases yields with
  | last => exact Nat.one_pos
  | more => exact Nat.succ_pos _

/-- What is read depends on the files, not on who has opened them before. -/
theorem readFile_of_files
    (same : storage.files = stored.files) (reader : Reader)
    (host : HostChoice) (numBytes : Nat) :
    (reader.readFile storage host numBytes).1 =
      (reader.readFile stored host numBytes).1 := by
  have existence :
      storage.fileExists host reader.filepath =
        stored.fileExists host reader.filepath := by
    simp only [Storage.fileExists, same]
  unfold readFile openFile
  rw [existence, same]
  split
  · rfl
  · rfl
  · split
    · rfl
    · dsimp only
      split_ifs
      · rfl
      · rfl

theorem files_of_readFile
    {result : Except Exception (Bytes × Reader)}
    (read : reader.readFile storage host numBytes = (result, stored)) :
    stored.files = storage.files := by
  have reads := reader.readFile_onlyReads storage host numBytes
  rw [read] at reads
  exact reads.files

/-- The first read finds a file. -/
theorem exists_content
    (unopened : reader.file = none) (nothing : reader.overflowBuffer = [])
    (positive : 0 < numBytes)
    (read :
      reader.readFile storage host numBytes =
        (.ok (chunk, next), stored)) :
    ∃ content, storage.files.content reader.filepath = some content := by
  unfold readFile at read
  cases existence : storage.fileExists host reader.filepath with
  | error thrown => simp [existence] at read
  | ok isThere =>
      cases isThere with
      | false => simp [existence] at read
      | true =>
          cases found : storage.files.content reader.filepath with
          | some content => exact ⟨content, rfl⟩
          | none =>
              have fails :=
                readStream_of_fails nothing positive host.stray []
              simp only [existence, unopened, openFile, found, or_true,
                decide_true, Option.getD_none] at read
              split_ifs at read
              · cases read
              · simp only [fails, Prod.mk.injEq, reduceCtorEq,
                  false_and] at read

/-! ## Octet mode -/

variable {files : FileSystem} {size index : Nat} {content : Bytes}

/-- A file which is there can be read on. -/
theorem Behind.exists_readFile
    (behind : reader.Behind files size content index) :
    ∃ chunk next stored,
      reader.readFile ⟨files, []⟩ {} size = (.ok (chunk, next), stored) := by
  have there :
      Storage.fileExists ⟨files, []⟩ {} reader.filepath = .ok true := by
    have found := FileSystem.content_eq_some_iff.mp behind.found
    simp [Storage.fileExists, found]
  let rest := content.drop (index * size)
  let after : Stream := ⟨rest.drop size, decide (rest.length < size)⟩
  have read :
      reader.readStream false 0 size (Stream.behind size content index) =
        .ok (rest.take size, { reader with file := some after }) := by
    simp [Reader.readStream, behind.octet, Stream.read, Stream.behind,
      rest, after]
  refine
    ⟨rest.take size, { reader with file := some after },
      (reader.readFile ⟨files, []⟩ {} size).2, ?_⟩
  unfold Reader.readFile
  simp only [there, behind.found, Bool.false_eq_true, reduceCtorEq,
    or_self, decide_false]
  cases opened : reader.file with
  | some stream =>
      obtain rfl := behind.opened stream opened
      simp only [read]
  | none =>
      obtain rfl := behind.unopened opened
      rw [Stream.behind_zero] at read
      simp only [openFile, Bool.false_eq_true, if_false, behind.found,
        Option.getD_some, read]

/-- In octet mode it is what is left of the file, in blocks. -/
theorem Behind.yields
    (behind : reader.Behind files size content index)
    (positive : 0 < size) (within : index * size ≤ content.length)
    {count total : Nat} (yields : Yields files size reader count total) :
    index + count = chunkCount size content ∧
      index * size + total = content.length := by
  induction yields generalizing index with
  | last same read short =>
      subst same
      obtain ⟨rfl, _, _⟩ := behind.readFile read
      have few := (length_chunk_lt_iff positive content index).mp short
      have many : index ≤ content.length / size :=
        (Nat.le_div_iff_mul_le positive).mpr within
      rw [length_chunk] at short ⊢
      unfold chunkCount at few ⊢
      omega
  | more same read full _ induction =>
      subst same
      obtain ⟨rfl, _, onward⟩ := behind.readFile read
      have later := onward full
      rw [length_chunk] at full ⊢
      rw [files_of_readFile read] at later
      have further : (index + 1) * size ≤ content.length := by
        rw [Nat.succ_mul]
        omega
      obtain ⟨blocks, bytes⟩ := induction later further
      rw [Nat.succ_mul] at bytes
      omega

/-- And all of it can be read. -/
theorem Behind.exists_yields
    (behind : reader.Behind files size content index)
    (positive : 0 < size) {left : Nat}
    (remains : chunkCount size content ≤ index + left) :
    ∃ count total, Yields files size reader count total := by
  induction left generalizing reader index with
  | zero =>
      obtain ⟨chunk, next, stored, read⟩ := behind.exists_readFile
      obtain ⟨rfl, _, _⟩ := behind.readFile read
      have short :=
        (length_chunk_lt_iff positive content index).mpr (by omega)
      exact ⟨_, _, .last rfl read short⟩
  | succ left induction =>
      obtain ⟨chunk, next, stored, read⟩ := behind.exists_readFile
      by_cases short : chunk.length < size
      · exact ⟨_, _, .last rfl read short⟩
      · obtain ⟨_, _, onward⟩ := behind.readFile read
        have later := onward short
        rw [files_of_readFile read] at later
        obtain ⟨count, total, rest⟩ := induction later (by omega)
        exact ⟨_, _, .more rfl read short rest⟩

/-- What a transfer of a file in octet mode reads. -/
theorem yields_octet_iff
    {filepath : Path} (found : files.content filepath = some content)
    (positive : 0 < size) {count total : Nat} :
    Yields files size (Reader.make filepath .OCTET) count total ↔
      count = chunkCount size content ∧ total = content.length := by
  have behind := Behind.make found size
  constructor
  · intro yields
    have sums := behind.yields positive (by omega) yields
    omega
  · rintro ⟨rfl, rfl⟩
    obtain ⟨count, total, yields⟩ :=
      behind.exists_yields positive (Nat.le_add_left _ _)
    have sums := behind.yields positive (by omega) yields
    rw [Nat.zero_mul, Nat.zero_add, Nat.zero_add] at sums
    rw [← sums.1, ← sums.2]
    exact yields

/-! ## NETASCII mode -/

/-- A chunk always has a line end. -/
theorem encodeAndEndLine_ne_nil
    (positive : 0 < numBytes) (buffer : Bytes) :
    encodeAndEndLine numBytes buffer ≠ [] := by
  unfold encodeAndEndLine
  dsimp only
  split_ifs with ends_
  · simp
  · intro empty
    rw [empty] at ends_
    exact ends_ (Or.inl positive)

/-- So it is not empty. -/
theorem readNetascii_ne_nil
    (positive : 0 < numBytes) {fails : Bool} {stray : UInt8}
    {overflow left chunk : Bytes} {stream rest : Stream}
    (read :
      readNetascii fails stray numBytes overflow stream =
        .ok (chunk, left, rest)) :
    chunk ≠ [] := by
  unfold readNetascii at read
  split at read
  · cases read
  · split at read
    · cases read
    · rename_i buffer _ _
      have some_ := encodeAndEndLine_ne_nil positive buffer
      unfold splitChunk at read
      split_ifs at read
      · cases read
        simpa [Nat.pos_iff_ne_zero.mp positive] using some_
      · cases read
        exact some_

theorem readFile_ne_nil
    (netascii : reader.mode = .NETASCII) (positive : 0 < numBytes)
    (read :
      reader.readFile storage host numBytes =
        (.ok (chunk, next), stored)) :
    chunk ≠ [] ∧ next.mode = .NETASCII := by
  obtain ⟨fails, stream, result, _⟩ := readStream_of_readFile read
  simp only [readStream, netascii] at result
  split at result
  · cases result
  · rename_i encoded
    cases result
    exact ⟨readNetascii_ne_nil positive encoded, rfl⟩

end Reader

end IsaTftp.Files
