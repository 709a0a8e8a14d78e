import IsaTftp.Library.Runs
import IsaTftp.Files.Indexed
import IsaTftp.Files.Splitting

/-!
# Accesses in range

`ReadFile`, `ReadBytesFromStdin` and `WriteFile` with the accesses of
`Indexed`.  The readers never leave their vectors.  `WriteFile` looks at
`data[data.size() - 1]` of a decoded block, which is out of range if the block
is empty and no CR was held back.
-/

namespace IsaTftp.Files.Indexed

open IsaTftp.Wire
open IsaTftp.Library.Runs

/-! ## The readers -/

/-- The part of `ReadFile` after the file was opened. -/
def Reader.readStream (reader : Files.Reader) (fails : Bool)
    (stray : UInt8) (numBytes : Nat) (stream : Stream) :
    Option (Except Exception (Bytes × Files.Reader)) :=
  match reader.mode with
  | .NETASCII =>
      match Reader.readNetascii fails (.fileHandler .failedToReadFromFile)
          stray numBytes reader.overflowBuffer stream with
      | none => none
      | some (.error exception) => some (.error exception)
      | some (.ok (chunk, overflow, stream)) =>
          some
            (.ok
              (chunk,
                { reader with
                  file := some stream
                  overflowBuffer := overflow }))
  | .OCTET =>
      match stream.read fails (.fileHandler .failedToReadFromFile)
          numBytes with
      | .error exception => some (.error exception)
      | .ok (chunk, stream) =>
          some (.ok (chunk, { reader with file := some stream }))

/-- `Reader::ReadFile(num_bytes)`. -/
def Reader.readFile (reader : Files.Reader) (storage : Storage)
    (host : HostChoice) (numBytes : Nat) :
    Option (Except Exception (Bytes × Files.Reader) × Storage) :=
  match storage.fileExists host reader.filepath with
  | .error exception => some (.error exception, storage)
  | .ok false =>
      some
        (.error (.fileHandler (.fileDoesNotExist reader.filepath)), storage)
  | .ok true =>
      let fails :=
        host.readFails ∨ storage.files.content reader.filepath = none
      match reader.file with
      | some stream =>
          match readStream reader fails host.stray numBytes stream with
          | none => none
          | some result => some (result, storage)
      | none =>
          match reader.openFile storage host with
          | (.error exception, storage) => some (.error exception, storage)
          | (.ok stream, storage) =>
              match readStream reader fails host.stray numBytes stream with
              | none => none
              | some result => some (result, storage)

/-- `StdHandler::ReadBytesFromStdin(num_bytes)`. -/
def StdHandler.readBytesFromStdin (handler : Files.StdHandler)
    (host : HostChoice) (numBytes : Nat) :
    Option (Except Exception (Bytes × Files.StdHandler)) :=
  match handler.mode with
  | .NETASCII =>
      match StdHandler.readNetascii host.readFails .failedToReadFromStdin
          host.stray numBytes handler.overflowBuffer handler.stdin with
      | none => none
      | some (.error exception) => some (.error exception)
      | some (.ok (chunk, overflow, stream)) =>
          some
            (.ok
              (chunk,
                { handler with
                  stdin := stream
                  overflowBuffer := overflow }))
  | .OCTET =>
      match handler.stdin.read host.readFails .failedToReadFromStdin
          numBytes with
      | .error exception => some (.error exception)
      | .ok (chunk, stream) =>
          some (.ok (chunk, { handler with stdin := stream }))

theorem Reader.readStream_eq {numBytes : Nat} (least : 0 < numBytes)
    (reader : Files.Reader) (fails : Bool) (stray : UInt8)
    (stream : Stream) :
    Reader.readStream reader fails stray numBytes stream =
      some (reader.readStream fails stray numBytes stream) := by
  unfold Reader.readStream Files.Reader.readStream
  cases reader.mode with
  | NETASCII =>
      dsimp only
      rw [Reader.readNetascii_eq least]
      cases Files.Reader.readNetascii fails stray numBytes
          reader.overflowBuffer stream with
      | error exception => rfl
      | ok result => rfl
  | OCTET =>
      cases stream.read fails (.fileHandler .failedToReadFromFile)
          numBytes with
      | error exception => rfl
      | ok result => rfl

/-- `ReadFile` never leaves a vector. -/
theorem Reader.readFile_eq {numBytes : Nat} (least : 0 < numBytes)
    (reader : Files.Reader) (storage : Storage) (host : HostChoice) :
    Reader.readFile reader storage host numBytes =
      some (reader.readFile storage host numBytes) := by
  unfold Reader.readFile Files.Reader.readFile
  cases storage.fileExists host reader.filepath with
  | error exception => rfl
  | ok there =>
      cases there with
      | false => rfl
      | true =>
          cases reader.file with
          | some stream => simp only [Reader.readStream_eq least]
          | none =>
              dsimp only
              obtain ⟨opened, storage⟩ := reader.openFile storage host
              cases opened with
              | error exception => rfl
              | ok stream => simp only [Reader.readStream_eq least]

/-- `ReadBytesFromStdin` never leaves a vector. -/
theorem StdHandler.readBytesFromStdin_eq {numBytes : Nat}
    (least : 0 < numBytes) (handler : Files.StdHandler)
    (host : HostChoice) :
    StdHandler.readBytesFromStdin handler host numBytes =
      some (handler.readBytesFromStdin host numBytes) := by
  unfold StdHandler.readBytesFromStdin Files.StdHandler.readBytesFromStdin
  cases handler.mode with
  | NETASCII =>
      dsimp only
      rw [StdHandler.readNetascii_eq least]
      cases Files.StdHandler.readNetascii host.readFails host.stray
          numBytes handler.overflowBuffer handler.stdin with
      | error exception => rfl
      | ok result => rfl
  | OCTET =>
      cases handler.stdin.read host.readFails .failedToReadFromStdin
          numBytes with
      | error exception => rfl
      | ok result => rfl

/-! ## The writer -/

/-- What a block contributes, with the access to its last byte. -/
def Writer.decodeBlock (mode : DataFormat) (held block : Bytes) :
    Option (Bytes × Bytes) :=
  let data := held ++ block
  match mode with
  | .OCTET => some (data, [])
  | .NETASCII =>
      match formatFromNETASCII data with
      | none => none
      | some data =>
          match data[sizeMinus data.length 1]? with
          | none => none
          | some last =>
              if last = cr then some (data.dropLast, [cr])
              else some (data, [])

/-- `WriteFile` on an open file; what follows the decoding accesses nothing. -/
def Writer.writeOpened (writer : Files.Writer) (storage : Storage)
    (host : HostChoice) (position : Nat) (block : Bytes) :
    Option (WriteStatus × Files.Writer × Storage) :=
  match decodeBlock writer.mode writer.tbwLaterBuffer block with
  | none => none
  | some _ => some (writer.writeOpened storage host position block)

/-- `Writer::WriteFile(data)`. -/
def Writer.writeFile (writer : Files.Writer) (storage : Storage)
    (host : HostChoice) (block : Bytes) :
    Option (WriteStatus × Files.Writer × Storage) :=
  match writer.file with
  | some position => writeOpened writer storage host position block
  | none =>
      match writer.openFile storage host with
      | (.error exception, storage) =>
          some (.threw exception, writer, storage)
      | (.ok opened, storage) => writeOpened opened storage host 0 block

/-- A vector without bytes has no byte before its end. -/
theorem getElem?_sizeMinus_one (data : Bytes) :
    data[sizeMinus data.length 1]? = data.getLast? := by
  rcases List.eq_nil_or_concat' data with rfl | ⟨before, last, rfl⟩
  · rfl
  · rw [getElem?_last, List.getLast?_concat]

theorem Writer.decodeBlock_eq (mode : DataFormat) (held block : Bytes) :
    Writer.decodeBlock mode held block =
      Files.Writer.decodeBlock mode held block := by
  unfold Writer.decodeBlock Files.Writer.decodeBlock
  cases mode with
  | NETASCII =>
      cases last :
          (Files.formatFromNETASCII (held ++ block)).getLast? with
      | none =>
          simp only [formatFromNETASCII_eq, getElem?_sizeMinus_one, last]
      | some byte =>
          simp only [formatFromNETASCII_eq, getElem?_sizeMinus_one, last]
  | OCTET => rfl

/-- Only from nothing nothing is decoded. -/
theorem Writer.isSome_decodeBlock_iff
    (mode : DataFormat) (held block : Bytes) :
    (Writer.decodeBlock mode held block).isSome ↔
      mode = .OCTET ∨ block ≠ [] ∨ held ≠ [] := by
  rw [Writer.decodeBlock_eq]
  unfold Files.Writer.decodeBlock
  cases mode with
  | OCTET => simp
  | NETASCII =>
      by_cases some_ : held ++ block = []
      · have both := List.append_eq_nil_iff.mp some_
        simp [both.1, both.2]
      · have decoded := formatFromNETASCII_ne_nil some_
        have nothing : ¬ (held = [] ∧ block = []) :=
          fun both => some_ (List.append_eq_nil_iff.mpr both)
        dsimp only
        cases last : (Files.formatFromNETASCII (held ++ block)).getLast? with
        | none => exact absurd (List.getLast?_eq_none_iff.mp last) decoded
        | some byte =>
            have either : block ≠ [] ∨ held ≠ [] := by
              by_cases empty : block = []
              · exact Or.inr fun other => nothing ⟨other, empty⟩
              · exact Or.inl empty
            simp only [either, or_true, iff_true]
            split_ifs <;> rfl

/-- A call of `WriteFile`: how the host behaves, and the block. -/
abbrev Write : Type := HostChoice × Bytes

/-- A writer and the files it writes to, after one more call. -/
def writeStep (state : Files.Writer × Storage) (write : Write) :
    Files.Writer × Storage :=
  (state.1.writeFile state.2 write.1 write.2).2

/-- Every access of this call is in range. -/
def WriteInRange (state : Files.Writer × Storage) (write : Write) : Prop :=
  (Writer.writeFile state.1 state.2 write.1 write.2).isSome

instance (state : Files.Writer × Storage) (write : Write) :
    Decidable (WriteInRange state write) :=
  inferInstanceAs (Decidable (_ = true))

/-- The file is not open yet and cannot be opened. -/
def CannotOpen (state : Files.Writer × Storage) (write : Write) : Prop :=
  state.1.file = none ∧
    (write.1.openFails ∨
      state.2.files.lookup state.1.filepath = some .directory)

/-- There is a byte to decode, or nothing is decoded. -/
def HasByte (state : Files.Writer × Storage) (write : Write) : Prop :=
  state.1.mode = .OCTET ∨ write.2 ≠ [] ∨ state.1.tbwLaterBuffer ≠ []

theorem isSome_writeOpened_iff (writer : Files.Writer)
    (storage : Storage) (host : HostChoice) (position : Nat)
    (block : Bytes) :
    (Writer.writeOpened writer storage host position block).isSome ↔
      HasByte (writer, storage) (host, block) := by
  rw [HasByte, ← Writer.isSome_decodeBlock_iff]
  unfold Writer.writeOpened
  cases Writer.decodeBlock writer.mode writer.tbwLaterBuffer block with
  | none => simp
  | some pair => simp

/-- One call of `WriteFile`. -/
theorem writeInRange_iff (state : Files.Writer × Storage)
    (write : Write) :
    WriteInRange state write ↔
      CannotOpen state write ∨ HasByte state write := by
  obtain ⟨writer, storage⟩ := state
  obtain ⟨host, block⟩ := write
  unfold WriteInRange Writer.writeFile CannotOpen
  cases opened : writer.file with
  | some position => simp [isSome_writeOpened_iff]
  | none =>
      unfold Files.Writer.openFile
      by_cases refused : host.openFails ∨
          storage.files.lookup writer.filepath = some .directory
      · simp [refused]
      · simp only [refused, if_false, isSome_writeOpened_iff, and_false,
          false_or]
        rfl

/--
The conversions and the readers never leave their vectors.  A writer does
not if and only if in no call it decodes an empty block with no CR held back.
-/
theorem accesses_in_range_iff
    (data : Bytes) (reader : Files.Reader) (handler : Files.StdHandler)
    (storage : Storage) (host : HostChoice) (numBytes : Nat)
    (atLeast : 8 ≤ numBytes) (path : Path) (mode : DataFormat)
    (writes : List Write) :
    let calls :=
      stepsOf writeStep (Files.Writer.make path mode, storage) writes
    (formatToNETASCII data).isSome ∧
      (formatFromNETASCII data).isSome ∧
      (Reader.readFile reader storage host numBytes).isSome ∧
      (StdHandler.readBytesFromStdin handler host numBytes).isSome ∧
      ((∀ call ∈ calls, WriteInRange call.1 call.2) ↔
        ∀ call ∈ calls,
          CannotOpen call.1 call.2 ∨ HasByte call.1 call.2) := by
  intro calls
  have least : 0 < numBytes := Nat.zero_lt_of_lt atLeast
  constructor
  · rw [formatToNETASCII_eq]
    rfl
  constructor
  · rw [formatFromNETASCII_eq]
    rfl
  constructor
  · rw [Reader.readFile_eq least]
    rfl
  constructor
  · rw [StdHandler.readBytesFromStdin_eq least]
    rfl
  · simp only [writeInRange_iff]

/-- An empty block is in range behind a CR which the writer holds back. -/
theorem accesses_in_range_small :
    let path := text "r/f"
    let storage : Storage := ⟨smallDisk (some [cr]), []⟩
    let calls :=
      stepsOf writeStep (Files.Writer.make path .NETASCII, storage)
        [({}, [97, cr]), ({}, [])]
    (formatToNETASCII [cr]).isSome ∧
      (formatFromNETASCII [cr]).isSome ∧
      (Reader.readFile (Files.Reader.make path .NETASCII) storage {}
        8).isSome ∧
      (StdHandler.readBytesFromStdin
        (Files.StdHandler.make .NETASCII ⟨[cr], false⟩) {} 8).isSome ∧
      ∀ call ∈ calls, WriteInRange call.1 call.2 := by
  intro path storage calls
  obtain ⟨encodes, decodes, reads, scans, writes⟩ :=
    accesses_in_range_iff [cr] (Files.Reader.make path .NETASCII)
      (Files.StdHandler.make .NETASCII ⟨[cr], false⟩) storage {} 8
      (by decide) path .NETASCII [({}, [97, cr]), ({}, [])]
  refine ⟨encodes, decodes, reads, scans, writes.mpr ?_⟩
  intro call member
  rw [stepsOf_cons, stepsOf_cons, stepsOf_nil, List.mem_cons,
    List.mem_singleton] at member
  rcases member with rfl | rfl
  · exact Or.inr (Or.inr (Or.inl (by simp)))
  · exact Or.inr (Or.inr (Or.inr (by decide)))

/-- The last block of a file of eight bytes, in blocks of eight, is empty. -/
theorem empty_block_is_indexed :
    ¬ ∀ call ∈
        stepsOf writeStep
          (Files.Writer.make (text "r/f") .NETASCII,
            ⟨smallDisk none, []⟩)
          [({}, text "abcdefgh"), ({}, [])],
      WriteInRange call.1 call.2 := by
  decide +kernel

end IsaTftp.Files.Indexed
