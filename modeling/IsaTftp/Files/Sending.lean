import IsaTftp.Files.LineEnds
import IsaTftp.Files.ReadFailures

/-!
# The chunks of a NETASCII transfer

`FollowOnRRQ` sends what successive calls of `ReadFile` return, up to the first
chunk which is short.  In NETASCII mode every call ends its chunk with a line
end of its own, so only a file which fits into one chunk is sent as it is.
-/

namespace IsaTftp.Files

open IsaTftp.Wire

/-! ## Calls of ReadFile -/

/-- What successive calls of `ReadFile` return together. -/
inductive Reader.Sends (host : HostChoice) (numBytes : Nat) :
    Reader → Storage → Bytes → Prop where
  | last {reader next : Reader} {storage stored : Storage} {chunk : Bytes}
      (read : reader.readFile storage host numBytes =
        (.ok (chunk, next), stored))
      (short : chunk.length < numBytes) :
      Sends host numBytes reader storage chunk
  | more {reader next : Reader} {storage stored : Storage}
      {chunk later : Bytes}
      (read : reader.readFile storage host numBytes =
        (.ok (chunk, next), stored))
      (full : ¬ chunk.length < numBytes)
      (rest : Sends host numBytes next stored later) :
      Sends host numBytes reader storage (chunk ++ later)

/-- The encoded file, with a line end added if it does not end in one. -/
def Faithful (content sent : Bytes) : Prop :=
  sent = formatToNETASCII content ∨
    (endsInCrLf (formatToNETASCII content) = false ∧
      sent = formatToNETASCII content ++ [cr, lf])

/-- The same chunks, by the overflow buffer and the stream alone. -/
inductive Chunks (stray : UInt8) (numBytes : Nat) :
    Bytes → Stream → Bytes → Prop where
  | last {overflow next chunk : Bytes} {stream rest : Stream}
      (read : Reader.readNetascii false stray numBytes overflow stream =
        .ok (chunk, next, rest))
      (short : chunk.length < numBytes) :
      Chunks stray numBytes overflow stream chunk
  | more {overflow next chunk later : Bytes} {stream rest : Stream}
      (read : Reader.readNetascii false stray numBytes overflow stream =
        .ok (chunk, next, rest))
      (full : ¬ chunk.length < numBytes)
      (more : Chunks stray numBytes next rest later) :
      Chunks stray numBytes overflow stream (chunk ++ later)

/-- Where nothing fails, a call of `ReadFile` is a read of the stream. -/
theorem Reader.readFile_of_readStream
    {reader next : Reader} {storage : Storage} {content chunk : Bytes}
    {stream : Stream} {stray : UInt8} {numBytes : Nat}
    (found : storage.files.content reader.filepath = some content)
    (place : reader.file = some stream ∨
      reader.file = none ∧ stream = ⟨content, false⟩)
    (step :
      reader.readStream false stray numBytes stream = .ok (chunk, next)) :
    ∃ stored,
      reader.readFile storage { stray := stray } numBytes =
          (.ok (chunk, next), stored) ∧
        stored.files = storage.files := by
  have there :
      storage.fileExists { stray := stray } reader.filepath = .ok true := by
    have isThere := FileSystem.content_eq_some_iff.mp found
    simp [Storage.fileExists, isThere]
  unfold Reader.readFile
  simp only [there, found, Bool.false_eq_true, reduceCtorEq,
    or_self, decide_false]
  rcases place with opened | ⟨unopened, rfl⟩
  · rw [opened]
    simp only [step]
    exact ⟨_, rfl, rfl⟩
  · rw [unopened]
    simp only [openFile, Bool.false_eq_true, if_false, found,
      Option.getD_some, step]
    exact ⟨_, rfl, rfl⟩

/-- A NETASCII reader which stands at this place of a file. -/
structure Reader.At (reader : Reader) (files : FileSystem)
    (content overflow : Bytes) (stream : Stream) : Prop where
  netascii : reader.mode = .NETASCII
  found : files.content reader.filepath = some content
  overflow : reader.overflowBuffer = overflow
  stream : reader.file = some stream ∨
    reader.file = none ∧ stream = ⟨content, false⟩

namespace Reader.At

variable {reader : Reader} {storage : Storage} {content overflow : Bytes}
  {stream : Stream}

/-- Nothing fails, so a call of `ReadFile` is a NETASCII read. -/
theorem readFile
    (here : reader.At storage.files content overflow stream)
    (stray : UInt8) (numBytes : Nat) :
    ∃ chunk left rest next stored,
      Reader.readNetascii false stray numBytes overflow stream =
          .ok (chunk, left, rest) ∧
        reader.readFile storage { stray := stray } numBytes =
            (.ok (chunk, next), stored) ∧
          next.At stored.files content left rest := by
  cases read :
      Reader.readNetascii false stray numBytes overflow stream with
  | error exception => cases (readNetascii_error read).2
  | ok result =>
      obtain ⟨chunk, left, rest⟩ := result
      have step : reader.readStream false stray numBytes stream =
          .ok (chunk,
            { reader with
              file := some rest
              overflowBuffer := left }) := by
        simp [readStream, here.netascii, here.overflow, read]
      obtain ⟨stored, whole, files⟩ :=
        readFile_of_readStream here.found here.stream step
      refine ⟨chunk, left, rest, _, stored, rfl, whole, ?_⟩
      rw [files]
      exact ⟨here.netascii, here.found, rfl, Or.inl rfl⟩

/-- What a reader sends depends on its place in the file only. -/
theorem sends_iff
    (here : reader.At storage.files content overflow stream)
    (stray : UInt8) (numBytes : Nat) (sent : Bytes) :
    Reader.Sends { stray := stray } numBytes reader storage sent ↔
      Chunks stray numBytes overflow stream sent := by
  constructor
  · intro sends
    induction sends generalizing overflow stream with
    | last read short =>
        obtain ⟨chunk, left, rest, next, stored, result, same, _⟩ :=
          here.readFile stray numBytes
        cases read.symm.trans same
        exact .last result short
    | more read full _ induction =>
        obtain ⟨chunk, left, rest, next, stored, result, same, after⟩ :=
          here.readFile stray numBytes
        cases read.symm.trans same
        exact .more result full (induction after)
  · intro chunks
    induction chunks generalizing reader storage with
    | last read short =>
        obtain ⟨chunk, left, rest, next, stored, result, same, _⟩ :=
          here.readFile stray numBytes
        cases read.symm.trans result
        exact .last same short
    | more read full _ induction =>
        obtain ⟨chunk, left, rest, next, stored, result, same, after⟩ :=
          here.readFile stray numBytes
        cases read.symm.trans result
        exact .more same full (induction after)

end Reader.At

/-! ## A file which fits into one chunk -/

/-- A file with room for its line end is read by one call. -/
theorem readNetascii_of_fits
    {content : Bytes} {numBytes : Nat}
    (fits : (formatToNETASCII content).length + 3 ≤ numBytes)
    (stray : UInt8) :
    Reader.readNetascii false stray numBytes [] ⟨content, false⟩ =
      .ok (formatToNETASCII content ++ [cr, lf], [], ⟨[], true⟩) := by
  have shorter := length_le_formatToNETASCII content
  have least : 0 < numBytes := by omega
  have small : content.length < numBytes := by omega
  have encoded : (formatToNETASCII content).length < numBytes := by omega
  have room : ¬ numBytes < (formatToNETASCII content).length + 2 := by
    omega
  simp [Reader.readNetascii, takeFromOverflow, Reader.fillBuffer, least,
    Stream.read, small, Nat.ne_of_lt small, encodeAndEndLine, encoded,
    splitChunk, room, List.take_of_length_le (Nat.le_of_lt small),
    List.drop_of_length_le (Nat.le_of_lt small)]

end IsaTftp.Files
