import IsaTftp.Library.Chunking
import IsaTftp.Files.Netascii
import IsaTftp.Files.Storage

/-!
# Reading in blocks

`Reader::ReadFile` and `StdHandler::ReadBytesFromStdin` return the next block
of a file and of standard input.  In NETASCII mode both keep bytes which did
not fit in an overflow buffer.  They are near-copies; the parts which they
share are defined once, the parts in which they differ are separate.
-/

namespace IsaTftp.Files

open IsaTftp.Wire
open IsaTftp.Library.Chunking

/-! ## Input streams -/

/-- An open `std::istream`: the bytes not read yet, and `eof()`. -/
structure Stream where
  rest : Bytes
  eof : Bool
deriving DecidableEq, Repr

/--
`read(data, count)` followed by `data.resize(gcount())`.  After the end was
hit a read does nothing; a failing read throws `failure`.
-/
def Stream.read (stream : Stream) (fails : Bool) (failure : Exception)
    (count : Nat) : Except Exception (Bytes × Stream) :=
  if stream.eof then .ok ([], stream)
  else if fails then .error failure
  else
    .ok
      (stream.rest.take count,
        ⟨stream.rest.drop count, decide (stream.rest.length < count)⟩)

/-- The last byte is a CR or an LF. -/
def endsInLineByte (buffer : Bytes) : Bool :=
  buffer.getLast? = some cr ∨ buffer.getLast? = some lf

/--
Read byte by byte until the buffer no longer ends in a CR or an LF.  At the
end of the stream the byte which was not read is pushed all the same.
-/
def extendFromRest (fails : Bool) (failure : Exception) (stray : UInt8) :
    Bytes → Bytes → Except Exception (Bytes × Stream)
  | buffer, [] =>
      if endsInLineByte buffer then
        if fails then .error failure else .ok (buffer ++ [stray], ⟨[], true⟩)
      else .ok (buffer, ⟨[], false⟩)
  | buffer, byte :: rest =>
      if endsInLineByte buffer then
        if fails then .error failure
        else extendFromRest fails failure stray (buffer ++ [byte]) rest
      else .ok (buffer, ⟨byte :: rest, false⟩)

/-- The same loop on a stream which may already have hit its end. -/
def extendFromStream (fails : Bool) (failure : Exception) (stray : UInt8)
    (buffer : Bytes) (stream : Stream) :
    Except Exception (Bytes × Stream) :=
  if stream.eof then
    if endsInLineByte buffer then .ok (buffer ++ [stray], stream)
    else .ok (buffer, stream)
  else extendFromRest fails failure stray buffer stream.rest

/-- The first extending loop: bytes come from the overflow buffer first. -/
def extendFromOverflow (fails : Bool) (failure : Exception)
    (stray : UInt8) :
    Bytes → Bytes → Stream → Except Exception (Bytes × Bytes × Stream)
  | buffer, [], stream =>
      match extendFromStream fails failure stray buffer stream with
      | .error exception => .error exception
      | .ok (buffer, stream) => .ok (buffer, [], stream)
  | buffer, byte :: overflow, stream =>
      if endsInLineByte buffer then
        extendFromOverflow fails failure stray (buffer ++ [byte]) overflow
          stream
      else .ok (buffer, byte :: overflow, stream)

/-- The first part of a NETASCII read: what the overflow buffer provides. -/
def takeFromOverflow (fails : Bool) (failure : Exception)
    (stray : UInt8) (numBytes : Nat) (overflow : Bytes)
    (stream : Stream) : Except Exception (Bytes × Bytes × Stream) :=
  if overflow.length > 0 then
    if overflow.length ≥ numBytes then
      extendFromOverflow fails failure stray (overflow.take numBytes)
        (overflow.drop numBytes) stream
    else .ok (overflow, [], stream)
  else .ok ([], overflow, stream)

/-- The last two bytes are CR LF. -/
def endsInCrLf (buffer : Bytes) : Bool :=
  buffer.drop (buffer.length - 2) = [cr, lf]

/-- The last part of a NETASCII read: encode and end the line. -/
def encodeAndEndLine (numBytes : Nat) (buffer : Bytes) : Bytes :=
  let encoded := formatToNETASCII buffer
  if encoded.length < numBytes ∨
      (2 ≤ encoded.length ∧ ¬ endsInCrLf encoded) then
    encoded ++ [cr, lf]
  else encoded

/-- Return `numBytes` bytes; the rest overwrites the overflow buffer. -/
def splitChunk (numBytes : Nat) (buffer overflow : Bytes) :
    Bytes × Bytes :=
  if buffer.length > numBytes then
    (buffer.take numBytes, buffer.drop numBytes)
  else (buffer, overflow)

/-! ## Reader -/

structure Reader where
  filepath : Path
  mode : DataFormat
  /-- the open file, if it has been opened -/
  file : Option Stream
  overflowBuffer : Bytes
deriving DecidableEq, Repr

/-- The constructor; the file is opened by the first read. -/
def Reader.make (filepath : Path) (mode : DataFormat) : Reader :=
  ⟨filepath, mode, none, []⟩

/-- The second part of a NETASCII read of a file. -/
def Reader.fillBuffer (fails : Bool) (stray : UInt8) (numBytes : Nat)
    (buffer : Bytes) (stream : Stream) :
    Except Exception (Bytes × Stream) :=
  if buffer.length < numBytes then
    match stream.read fails (.fileHandler .failedToReadFromFile)
        (numBytes - buffer.length) with
    | .error exception => .error exception
    | .ok (data, stream) =>
        let buffer := buffer ++ data
        if buffer.length = numBytes ∧ stream.eof = false then
          extendFromStream fails (.fileHandler .failedToReadFromFile)
            stray buffer stream
        else .ok (buffer, stream)
  else .ok (buffer, stream)

/-- The NETASCII branch of `ReadFile`: chunk, overflow buffer, stream. -/
def Reader.readNetascii (fails : Bool) (stray : UInt8) (numBytes : Nat)
    (overflow : Bytes) (stream : Stream) :
    Except Exception (Bytes × Bytes × Stream) :=
  match takeFromOverflow fails (.fileHandler .failedToReadFromFile) stray
      numBytes overflow stream with
  | .error exception => .error exception
  | .ok (buffer, overflow, stream) =>
      match Reader.fillBuffer fails stray numBytes buffer stream with
      | .error exception => .error exception
      | .ok (buffer, stream) =>
          let (chunk, overflow) :=
            splitChunk numBytes (encodeAndEndLine numBytes buffer) overflow
          .ok (chunk, overflow, stream)

/-- `Reader::OpenFile`; a directory opens too, but cannot be read. -/
def Reader.openFile (reader : Reader) (storage : Storage)
    (host : HostChoice) : Except Exception Stream × Storage :=
  let noted := storage.access (.openRead reader.filepath)
  if host.openFails then
    (.error (.fileHandler (.failedToOpenFile reader.filepath)), noted)
  else
    (.ok ⟨(storage.files.content reader.filepath).getD [], false⟩, noted)

/-- The part of `ReadFile` after the file was opened. -/
def Reader.readStream (reader : Reader) (fails : Bool) (stray : UInt8)
    (numBytes : Nat) (stream : Stream) :
    Except Exception (Bytes × Reader) :=
  match reader.mode with
  | .NETASCII =>
      match Reader.readNetascii fails stray numBytes
          reader.overflowBuffer stream with
      | .error exception => .error exception
      | .ok (chunk, overflow, stream) =>
          .ok
            (chunk,
              { reader with
                file := some stream
                overflowBuffer := overflow })
  | .OCTET =>
      match stream.read fails (.fileHandler .failedToReadFromFile)
          numBytes with
      | .error exception => .error exception
      | .ok (chunk, stream) =>
          .ok (chunk, { reader with file := some stream })

/-- `Reader::ReadFile(num_bytes)`. -/
def Reader.readFile (reader : Reader) (storage : Storage)
    (host : HostChoice) (numBytes : Nat) :
    Except Exception (Bytes × Reader) × Storage :=
  match storage.fileExists host reader.filepath with
  | .error exception => (.error exception, storage)
  | .ok false =>
      (.error (.fileHandler (.fileDoesNotExist reader.filepath)), storage)
  | .ok true =>
      let fails :=
        host.readFails ∨ storage.files.content reader.filepath = none
      match reader.file with
      | some stream =>
          (reader.readStream fails host.stray numBytes stream, storage)
      | none =>
          match reader.openFile storage host with
          | (.error exception, storage) => (.error exception, storage)
          | (.ok stream, storage) =>
              (reader.readStream fails host.stray numBytes stream, storage)

/-! ## Standard input -/

structure StdHandler where
  mode : DataFormat
  overflowBuffer : Bytes
  stdin : Stream
deriving DecidableEq, Repr

/-- The constructor, in a process whose standard input is `stdin`. -/
def StdHandler.make (mode : DataFormat) (stdin : Stream) : StdHandler :=
  ⟨mode, [], stdin⟩

/--
The second part of a NETASCII read of standard input.  Here the loop keeps
looking at the same byte, so once it starts it reads all of the input.
-/
def StdHandler.fillBuffer (fails : Bool) (stray : UInt8)
    (numBytes : Nat) (buffer : Bytes) (stream : Stream) :
    Except Exception (Bytes × Stream) :=
  if buffer.length < numBytes then
    match stream.read fails .failedToReadFromStdin
        (numBytes - buffer.length) with
    | .error exception => .error exception
    | .ok (data, stream) =>
        let buffer := buffer ++ data
        if buffer.length = numBytes ∧ stream.eof = false ∧
            endsInLineByte buffer then
          if fails then .error .failedToReadFromStdin
          else .ok (buffer ++ stream.rest ++ [stray], ⟨[], true⟩)
        else .ok (buffer, stream)
  else .ok (buffer, stream)

/-- The NETASCII branch of `ReadBytesFromStdin`. -/
def StdHandler.readNetascii (fails : Bool) (stray : UInt8)
    (numBytes : Nat) (overflow : Bytes) (stream : Stream) :
    Except Exception (Bytes × Bytes × Stream) :=
  match takeFromOverflow fails .failedToReadFromStdin stray numBytes
      overflow stream with
  | .error exception => .error exception
  | .ok (buffer, overflow, stream) =>
      match StdHandler.fillBuffer fails stray numBytes buffer stream with
      | .error exception => .error exception
      | .ok (buffer, stream) =>
          let (chunk, overflow) :=
            splitChunk numBytes (encodeAndEndLine numBytes buffer) overflow
          .ok (chunk, overflow, stream)

/-- `StdHandler::ReadBytesFromStdin(num_bytes)`. -/
def StdHandler.readBytesFromStdin (handler : StdHandler)
    (host : HostChoice) (numBytes : Nat) :
    Except Exception (Bytes × StdHandler) :=
  match handler.mode with
  | .NETASCII =>
      match StdHandler.readNetascii host.readFails host.stray numBytes
          handler.overflowBuffer handler.stdin with
      | .error exception => .error exception
      | .ok (chunk, overflow, stream) =>
          .ok
            (chunk,
              { handler with
                stdin := stream
                overflowBuffer := overflow })
  | .OCTET =>
      match handler.stdin.read host.readFails .failedToReadFromStdin
          numBytes with
      | .error exception => .error exception
      | .ok (chunk, stream) =>
          .ok (chunk, { handler with stdin := stream })

/-! ## Octet mode -/

/-- A stream of which `index` blocks have been read, all of them full. -/
def Stream.behind (size : Nat) (content : Bytes) (index : Nat) : Stream :=
  ⟨content.drop (index * size), false⟩

@[simp]
theorem Stream.behind_zero (size : Nat) (content : Bytes) :
    Stream.behind size content 0 = ⟨content, false⟩ := by
  simp [Stream.behind]

/-- A read of one block returns the next block, if it succeeds. -/
theorem Stream.read_behind
    {size index : Nat} {content data : Bytes} {fails : Bool}
    {failure : Exception} {next : Stream}
    (result :
      (Stream.behind size content index).read fails failure size =
        .ok (data, next)) :
    data = chunk size content index ∧
      (¬ data.length < size →
        next = Stream.behind size content (index + 1)) := by
  unfold Stream.read Stream.behind at result
  simp only [Bool.false_eq_true, if_false] at result
  split_ifs at result
  simp only [Except.ok.injEq, Prod.mk.injEq] at result
  obtain ⟨rfl, rfl⟩ := result
  refine ⟨rfl, fun full => ?_⟩
  have enough : ¬ (content.drop (index * size)).length < size := by
    rw [List.length_take] at full
    omega
  rw [drop_succ_mul, decide_eq_false enough]
  rfl

/-- Only a failing read throws. -/
theorem Stream.read_error
    {stream : Stream} {fails : Bool} {failure exception : Exception}
    {count : Nat}
    (result : stream.read fails failure count = .error exception) :
    exception = failure ∧ fails = true := by
  unfold Stream.read at result
  split_ifs at result with atEnd failing
  · cases result
    exact ⟨rfl, failing⟩

/-- Where the system call is not made, or does not fail. -/
theorem Stream.read_of_ok
    {stream : Stream} {fails : Bool} {failure : Exception} {count : Nat}
    {result : Bytes × Stream}
    (returned : stream.read fails failure count = .ok result) :
    stream.read false failure count = .ok result := by
  unfold Stream.read at returned ⊢
  rw [if_neg Bool.false_ne_true]
  split_ifs at returned ⊢
  · exact returned
  · exact returned

/-- `Reader::ReadFile` changes no file; at most it opens its own. -/
theorem Reader.readFile_onlyReads (reader : Reader) (storage : Storage)
    (host : HostChoice) (numBytes : Nat) :
    storage.OnlyReads reader.filepath
      (reader.readFile storage host numBytes).2 := by
  unfold Reader.readFile
  split
  · exact .refl _ _
  · exact .refl _ _
  · split
    · exact .refl _ _
    · unfold Reader.openFile
      dsimp only
      split_ifs
      · exact .openRead _ _
      · exact .openRead _ _

theorem Reader.filepath_readStream
    {reader next : Reader} {fails : Bool} {stray : UInt8}
    {numBytes : Nat} {stream : Stream} {data : Bytes}
    (result :
      reader.readStream fails stray numBytes stream = .ok (data, next)) :
    next.filepath = reader.filepath := by
  unfold Reader.readStream at result
  split at result <;> split at result <;> cases result <;> rfl

/-- A successful read is a read of the stream, opened if it has to be. -/
theorem Reader.readStream_of_readFile
    {reader next : Reader} {storage stored : Storage}
    {host : HostChoice} {numBytes : Nat} {data : Bytes}
    (result :
      reader.readFile storage host numBytes =
        (.ok (data, next), stored)) :
    ∃ fails stream,
      reader.readStream fails host.stray numBytes stream =
          .ok (data, next) ∧
        (reader.file = some stream ∨
          reader.file = none ∧
            stream =
              ⟨(storage.files.content reader.filepath).getD [],
                false⟩) := by
  unfold Reader.readFile at result
  cases existence : storage.fileExists host reader.filepath with
  | error exception => simp [existence] at result
  | ok isThere =>
      cases isThere with
      | false => simp [existence] at result
      | true =>
          cases opened : reader.file with
          | some stream =>
              simp only [existence, opened, Prod.mk.injEq] at result
              exact ⟨_, stream, result.1, Or.inl rfl⟩
          | none =>
              simp only [existence, opened, Reader.openFile] at result
              split_ifs at result
              · cases result
              · simp only [Prod.mk.injEq] at result
                exact ⟨_, _, result.1, Or.inr ⟨rfl, rfl⟩⟩

/-- A reader keeps its path. -/
theorem Reader.filepath_readFile
    {reader next : Reader} {storage stored : Storage}
    {host : HostChoice} {numBytes : Nat} {data : Bytes}
    (result :
      reader.readFile storage host numBytes =
        (.ok (data, next), stored)) :
    next.filepath = reader.filepath := by
  obtain ⟨_, _, read, _⟩ := Reader.readStream_of_readFile result
  exact Reader.filepath_readStream read

/-- A reader in octet mode which has read `index` full blocks of a file. -/
structure Reader.Behind (reader : Reader) (files : FileSystem)
    (size : Nat) (content : Bytes) (index : Nat) : Prop where
  octet : reader.mode = .OCTET
  found : files.content reader.filepath = some content
  unopened : reader.file = none → index = 0
  opened : ∀ stream, reader.file = some stream →
    stream = Stream.behind size content index

theorem Reader.Behind.make
    {filepath : Path} {files : FileSystem} {content : Bytes}
    (found : files.content filepath = some content) (size : Nat) :
    (Reader.make filepath .OCTET).Behind files size content 0 where
  octet := rfl
  found := found
  unopened _ := rfl
  opened _ isOpen := by cases isOpen

theorem Reader.Behind.readStream
    {reader next : Reader} {files : FileSystem} {size index : Nat}
    {content data : Bytes} {fails : Bool} {stray : UInt8}
    (behind : reader.Behind files size content index)
    (result :
      reader.readStream fails stray size
          (Stream.behind size content index) = .ok (data, next)) :
    data = chunk size content index ∧
      next.filepath = reader.filepath ∧
        (¬ data.length < size →
          next.Behind files size content (index + 1)) := by
  unfold Reader.readStream at result
  rw [behind.octet] at result
  dsimp only at result
  split at result
  · cases result
  · rename_i stream read
    simp only [Except.ok.injEq, Prod.mk.injEq] at result
    obtain ⟨rfl, rfl⟩ := result
    obtain ⟨block, continues⟩ := Stream.read_behind read
    refine ⟨block, rfl, fun full => ?_⟩
    refine ⟨rfl, behind.found, by simp, ?_⟩
    intro opened isOpen
    cases isOpen
    exact continues full

/-- `ReadFile` in octet mode returns the next block, if it succeeds. -/
theorem Reader.Behind.readFile
    {reader next : Reader} {storage stored : Storage}
    {host : HostChoice} {size index : Nat} {content data : Bytes}
    (behind : reader.Behind storage.files size content index)
    (result :
      reader.readFile storage host size = (.ok (data, next), stored)) :
    data = chunk size content index ∧
      next.filepath = reader.filepath ∧
        (¬ data.length < size →
          next.Behind stored.files size content (index + 1)) := by
  have sameFiles : stored.files = storage.files := by
    have reads := reader.readFile_onlyReads storage host size
    rw [result] at reads
    exact reads.files
  rw [sameFiles]
  obtain ⟨fails, stream, read, opened | ⟨unopened, whole⟩⟩ :=
    Reader.readStream_of_readFile result
  · rw [behind.opened stream opened] at read
    exact behind.readStream read
  · have first := behind.unopened unopened
    subst first
    rw [behind.found, Option.getD_some,
      ← Stream.behind_zero size content] at whole
    rw [whole] at read
    exact behind.readStream read

/-- `ReadBytesFromStdin` in octet mode returns the next block. -/
theorem StdHandler.readBytesFromStdin_behind
    {handler next : StdHandler} {host : HostChoice} {size index : Nat}
    {content data : Bytes}
    (octet : handler.mode = .OCTET)
    (behind : handler.stdin = Stream.behind size content index)
    (result : handler.readBytesFromStdin host size = .ok (data, next)) :
    data = chunk size content index ∧ next.mode = .OCTET ∧
      (¬ data.length < size →
        next.stdin = Stream.behind size content (index + 1)) := by
  unfold StdHandler.readBytesFromStdin at result
  simp only [octet, behind] at result
  split at result
  · cases result
  · rename_i stream read
    simp only [Except.ok.injEq, Prod.mk.injEq] at result
    obtain ⟨rfl, rfl⟩ := result
    obtain ⟨block, continues⟩ := Stream.read_behind read
    exact ⟨block, rfl, continues⟩

end IsaTftp.Files
