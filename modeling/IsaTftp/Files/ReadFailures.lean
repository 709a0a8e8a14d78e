import IsaTftp.Files.Readers

/-!
# Reads which fail

A read throws when the file is not there or cannot be opened, and otherwise
only if the operating system fails it.  A reader which has read one block
therefore reads the next one too, under the same circumstances.
-/

namespace IsaTftp.Files

open IsaTftp.Wire

variable {fails : Bool} {failure exception : Exception} {stray : UInt8}

/-! ## The loops of a read -/

theorem extendFromRest_error {buffer rest : Bytes}
    (result :
      extendFromRest fails failure stray buffer rest = .error exception) :
    exception = failure ∧ fails = true := by
  induction rest generalizing buffer with
  | nil =>
      rw [extendFromRest] at result
      split_ifs at result with _ failing
      cases result
      exact ⟨rfl, failing⟩
  | cons byte rest induction =>
      rw [extendFromRest] at result
      split_ifs at result with _ failing
      · cases result
        exact ⟨rfl, failing⟩
      · exact induction result

theorem extendFromStream_error {buffer : Bytes} {stream : Stream}
    (result :
      extendFromStream fails failure stray buffer stream =
        .error exception) :
    exception = failure ∧ fails = true := by
  unfold extendFromStream at result
  split_ifs at result
  exact extendFromRest_error result

theorem extendFromOverflow_error {buffer overflow : Bytes}
    {stream : Stream}
    (result :
      extendFromOverflow fails failure stray buffer overflow stream =
        .error exception) :
    exception = failure ∧ fails = true := by
  induction overflow generalizing buffer with
  | nil =>
      rw [extendFromOverflow] at result
      split at result
      · rename_i extended
        cases result
        exact extendFromStream_error extended
      · cases result
  | cons byte overflow induction =>
      rw [extendFromOverflow] at result
      split_ifs at result
      exact induction result

theorem takeFromOverflow_error {numBytes : Nat} {overflow : Bytes}
    {stream : Stream}
    (result :
      takeFromOverflow fails failure stray numBytes overflow stream =
        .error exception) :
    exception = failure ∧ fails = true := by
  unfold takeFromOverflow at result
  split_ifs at result
  exact extendFromOverflow_error result

/-! ## Reads which return all the same -/

/-- Where a failing system call is never made, it does not matter. -/
theorem extendFromRest_of_ok {buffer rest : Bytes}
    {result : Bytes × Stream}
    (returned :
      extendFromRest fails failure stray buffer rest = .ok result) :
    extendFromRest false failure stray buffer rest = .ok result := by
  induction rest generalizing buffer with
  | nil =>
      rw [extendFromRest] at returned ⊢
      split_ifs at returned with line failing
      · simpa [line] using returned
      · simpa [line] using returned
  | cons byte rest induction =>
      rw [extendFromRest] at returned ⊢
      split_ifs at returned with line failing
      · simpa [line] using induction returned
      · simpa [line] using returned

theorem extendFromStream_of_ok {buffer : Bytes} {stream : Stream}
    {result : Bytes × Stream}
    (returned :
      extendFromStream fails failure stray buffer stream = .ok result) :
    extendFromStream false failure stray buffer stream = .ok result := by
  unfold extendFromStream at returned ⊢
  by_cases atEnd : stream.eof = true
  · rw [if_pos atEnd] at returned ⊢
    exact returned
  · rw [if_neg atEnd] at returned ⊢
    exact extendFromRest_of_ok returned

theorem extendFromOverflow_of_ok {buffer overflow : Bytes}
    {stream : Stream} {result : Bytes × Bytes × Stream}
    (returned :
      extendFromOverflow fails failure stray buffer overflow stream =
        .ok result) :
    extendFromOverflow false failure stray buffer overflow stream =
      .ok result := by
  induction overflow generalizing buffer with
  | nil =>
      rw [extendFromOverflow] at returned ⊢
      cases extended :
          extendFromStream fails failure stray buffer stream with
      | error exception => simp [extended] at returned
      | ok pair =>
          rw [extended] at returned
          rw [extendFromStream_of_ok extended]
          exact returned
  | cons byte overflow induction =>
      rw [extendFromOverflow] at returned ⊢
      by_cases line : endsInLineByte buffer = true
      · rw [if_pos line] at returned ⊢
        exact induction returned
      · rw [if_neg line] at returned ⊢
        exact returned

theorem takeFromOverflow_of_ok {numBytes : Nat} {overflow : Bytes}
    {stream : Stream} {result : Bytes × Bytes × Stream}
    (returned :
      takeFromOverflow fails failure stray numBytes overflow stream =
        .ok result) :
    takeFromOverflow false failure stray numBytes overflow stream =
      .ok result := by
  unfold takeFromOverflow at returned ⊢
  split_ifs at returned ⊢
  · exact extendFromOverflow_of_ok returned
  · exact returned
  · exact returned

/-! ## The reader -/

namespace Reader

theorem fillBuffer_error {numBytes : Nat} {buffer : Bytes}
    {stream : Stream}
    (result :
      fillBuffer fails stray numBytes buffer stream = .error exception) :
    exception = .fileHandler .failedToReadFromFile ∧ fails = true := by
  unfold fillBuffer at result
  split_ifs at result
  split at result
  · rename_i read
    cases result
    exact Stream.read_error read
  · dsimp only at result
    split_ifs at result
    exact extendFromStream_error result

theorem readNetascii_error {numBytes : Nat} {overflow : Bytes}
    {stream : Stream}
    (result :
      readNetascii fails stray numBytes overflow stream =
        .error exception) :
    exception = .fileHandler .failedToReadFromFile ∧ fails = true := by
  unfold readNetascii at result
  split at result
  · rename_i taken
    cases result
    exact takeFromOverflow_error taken
  · split at result
    · rename_i filled
      cases result
      exact fillBuffer_error filled
    · cases result

theorem fillBuffer_of_ok {numBytes : Nat} {buffer : Bytes}
    {stream : Stream} {result : Bytes × Stream}
    (returned :
      fillBuffer fails stray numBytes buffer stream = .ok result) :
    fillBuffer false stray numBytes buffer stream = .ok result := by
  unfold fillBuffer at returned ⊢
  by_cases few : buffer.length < numBytes
  · rw [if_pos few] at returned ⊢
    cases read :
        stream.read fails (.fileHandler .failedToReadFromFile)
          (numBytes - buffer.length) with
    | error exception => simp [read] at returned
    | ok pair =>
        obtain ⟨data, next⟩ := pair
        rw [read] at returned
        rw [Stream.read_of_ok read]
        dsimp only at returned ⊢
        split_ifs at returned ⊢
        · exact extendFromStream_of_ok returned
        · exact returned
  · rw [if_neg few] at returned ⊢
    exact returned

theorem readNetascii_of_ok {numBytes : Nat} {overflow : Bytes}
    {stream : Stream} {result : Bytes × Bytes × Stream}
    (returned :
      readNetascii fails stray numBytes overflow stream = .ok result) :
    readNetascii false stray numBytes overflow stream = .ok result := by
  unfold readNetascii at returned ⊢
  cases taken :
      takeFromOverflow fails (.fileHandler .failedToReadFromFile) stray
        numBytes overflow stream with
  | error exception => simp [taken] at returned
  | ok first =>
      obtain ⟨buffer, kept, next⟩ := first
      rw [taken] at returned
      rw [takeFromOverflow_of_ok taken]
      dsimp only at returned ⊢
      cases filled : fillBuffer fails stray numBytes buffer next with
      | error exception => simp [filled] at returned
      | ok pair =>
          rw [filled] at returned
          rw [fillBuffer_of_ok filled]
          exact returned

variable {reader : Reader} {storage : Storage} {host : HostChoice}
  {numBytes : Nat} {stream : Stream}

theorem readStream_error
    (result :
      reader.readStream fails stray numBytes stream = .error exception) :
    exception = .fileHandler .failedToReadFromFile ∧ fails = true := by
  unfold readStream at result
  split at result
  · split at result
    · rename_i read
      cases result
      exact readNetascii_error read
    · cases result
  · split at result
    · rename_i read
      cases result
      exact Stream.read_error read
    · cases result

/-- The first bytes of a file cannot be had from a read which fails. -/
theorem readStream_of_fails
    (nothing : reader.overflowBuffer = []) (positive : 0 < numBytes)
    (stray : UInt8) (content : Bytes) :
    reader.readStream true stray numBytes ⟨content, false⟩ =
      .error (.fileHandler .failedToReadFromFile) := by
  unfold readStream
  cases reader.mode with
  | NETASCII =>
      simp [readNetascii, takeFromOverflow, nothing, fillBuffer, positive,
        Stream.read]
  | OCTET => simp [Stream.read]

/-- The next read of a file throws. -/
def unreadable (reader : Reader) (storage : Storage)
    (host : HostChoice) (numBytes : Nat) : Bool :=
  match (reader.readFile storage host numBytes).1 with
  | .error _ => true
  | .ok _ => false

/-- The exceptions of a read are none of those in `TftpPacket.h`. -/
theorem readFile_error
    (result :
      (reader.readFile storage host numBytes).1 = .error exception) :
    exception = .filesystemError ∨
      ∃ failure, exception = .fileHandler failure := by
  unfold readFile at result
  cases existence : storage.fileExists host reader.filepath with
  | error thrown =>
      simp only [existence] at result
      cases result
      unfold Storage.fileExists at existence
      split_ifs at existence
      cases existence
      exact Or.inl rfl
  | ok isThere =>
      right
      cases isThere with
      | false =>
          simp only [existence] at result
          cases result
          exact ⟨_, rfl⟩
      | true =>
          cases opened : reader.file with
          | some stream =>
              simp only [existence, opened] at result
              exact ⟨_, (readStream_error result).1⟩
          | none =>
              simp only [existence, opened, openFile] at result
              split_ifs at result
              · cases result
                exact ⟨_, rfl⟩
              · exact ⟨_, (readStream_error result).1⟩

theorem isSome_file_readStream {next : Reader} {data : Bytes}
    (result :
      reader.readStream fails stray numBytes stream = .ok (data, next)) :
    ∃ rest, next.file = some rest := by
  unfold readStream at result
  split at result <;> split at result <;> cases result <;>
    exact ⟨_, rfl⟩

/-- An open file whose reads do not fail can be read. -/
theorem unreadable_of_open
    (there : storage.fileExists host reader.filepath = .ok true)
    (opened : reader.file = some stream)
    (reads :
      ¬ (host.readFails ∨
        storage.files.content reader.filepath = none)) :
    reader.unreadable storage host numBytes = false := by
  unfold unreadable readFile
  simp only [there, opened, decide_eq_false reads]
  split
  · rename_i failed
    cases (readStream_error failed).2
  · rfl

/-- After the first block of a file the second one can be read as well. -/
theorem unreadable_again {next : Reader} {data : Bytes}
    {stored : Storage} (unopened : reader.file = none)
    (nothing : reader.overflowBuffer = []) (positive : 0 < numBytes)
    (result :
      reader.readFile storage host numBytes =
        (.ok (data, next), stored)) :
    next.unreadable stored host numBytes = false := by
  have samePath : next.filepath = reader.filepath :=
    filepath_readFile result
  unfold readFile at result
  cases existence : storage.fileExists host reader.filepath with
  | error thrown => simp [existence] at result
  | ok isThere =>
      cases isThere with
      | false => simp [existence] at result
      | true =>
          simp only [existence, unopened, openFile] at result
          split_ifs at result
          · cases result
          · simp only [Prod.mk.injEq] at result
            obtain ⟨read, rfl⟩ := result
            obtain ⟨rest, opened⟩ := isSome_file_readStream read
            refine unreadable_of_open ?_ opened ?_
            · rw [samePath]
              exact existence
            · rw [samePath, Storage.files_access]
              intro failing
              rw [decide_eq_true failing,
                readStream_of_fails nothing positive] at read
              cases read

end Reader

end IsaTftp.Files
