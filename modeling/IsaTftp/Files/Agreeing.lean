import IsaTftp.Library.Runs
import IsaTftp.Files.Growth

/-!
# The file reader and the reader of standard input

`ReadFile` and `ReadBytesFromStdin` do the same, but for one loop: behind a
chunk which ends in a CR or an LF, `ReadFile` reads up to the next other byte,
and `ReadBytesFromStdin` reads all that is left.
-/

namespace IsaTftp.Files

open IsaTftp.Wire
open IsaTftp.Library.Runs

/-! ## One call -/

section

variable {stray : UInt8} {numBytes : Nat} {overflow : Bytes}
  {stream : Stream}

/-- A loop which does not fail does not use its exception. -/
theorem extendFromRest_failure (failure other : Exception)
    (stray : UInt8) (buffer rest : Bytes) :
    extendFromRest false failure stray buffer rest =
      extendFromRest false other stray buffer rest := by
  induction rest generalizing buffer with
  | nil => rfl
  | cons byte rest induction =>
      rw [extendFromRest, extendFromRest]
      simp only [Bool.false_eq_true, if_false, induction]

theorem extendFromStream_failure (failure other : Exception)
    (stray : UInt8) (buffer : Bytes) (stream : Stream) :
    extendFromStream false failure stray buffer stream =
      extendFromStream false other stray buffer stream := by
  unfold extendFromStream
  rw [extendFromRest_failure failure other]

theorem extendFromOverflow_failure (failure other : Exception)
    (stray : UInt8) (buffer overflow : Bytes) (stream : Stream) :
    extendFromOverflow false failure stray buffer overflow stream =
      extendFromOverflow false other stray buffer overflow stream := by
  induction overflow generalizing buffer with
  | nil =>
      rw [extendFromOverflow, extendFromOverflow,
        extendFromStream_failure failure other]
  | cons byte overflow induction =>
      rw [extendFromOverflow, extendFromOverflow, induction]

theorem takeFromOverflow_failure (failure other : Exception)
    (stray : UInt8) (numBytes : Nat) (overflow : Bytes)
    (stream : Stream) :
    takeFromOverflow false failure stray numBytes overflow stream =
      takeFromOverflow false other stray numBytes overflow stream := by
  unfold takeFromOverflow
  rw [extendFromOverflow_failure failure other]

/-- Behind a plain byte the loop does not begin. -/
theorem extendFromRest_of_plain
    {failure : Exception} {buffer : Bytes}
    (plain : endsInLineByte buffer = false) (rest : Bytes) :
    extendFromRest false failure stray buffer rest =
      .ok (buffer, ⟨rest, false⟩) := by
  cases rest with
  | nil => simp [extendFromRest, plain]
  | cons byte rest => simp [extendFromRest, plain]

/-- Where only CR and LF are left, it reads all of them. -/
theorem extendFromRest_of_lines
    {failure : Exception} {buffer rest : Bytes}
    (line : endsInLineByte buffer = true)
    (lines : ∀ byte ∈ rest, IsLineByte byte) :
    extendFromRest false failure stray buffer rest =
      .ok (buffer ++ rest ++ [stray], ⟨[], true⟩) := by
  induction rest generalizing buffer with
  | nil => simp [extendFromRest, line]
  | cons byte rest induction =>
      obtain ⟨first, others⟩ := List.forall_mem_cons.mp lines
      have later :=
        induction ((endsInLineByte_concat buffer byte).mpr first) others
      simp [extendFromRest, line, later]

/--
A call which reads standard input to its end, though there are bytes left
which are neither CR nor LF.
-/
def Slurps (numBytes : Nat) (overflow : Bytes) (stream : Stream) : Prop :=
  overflow.length < numBytes ∧ stream.eof = false ∧
    numBytes ≤ overflow.length + stream.rest.length ∧
      endsInLineByte
          (overflow ++ stream.rest.take (numBytes - overflow.length)) ∧
        ∃ byte ∈ stream.rest.drop (numBytes - overflow.length),
          ¬ IsLineByte byte

/-- Apart from that the second parts do the same. -/
theorem fillBuffer_eq
    (calm : ¬ Slurps numBytes overflow stream) :
    StdHandler.fillBuffer false stray numBytes overflow stream =
      Reader.fillBuffer false stray numBytes overflow stream := by
  obtain ⟨rest, eof⟩ := stream
  unfold StdHandler.fillBuffer Reader.fillBuffer
  by_cases few : overflow.length < numBytes
  · rw [if_pos few, if_pos few]
    cases eof with
    | true => simp [Stream.read]
    | false =>
        by_cases enough : numBytes ≤ overflow.length + rest.length
        · have full :
              (overflow ++ rest.take (numBytes - overflow.length)).length =
                numBytes := by
            rw [List.length_append, List.length_take]
            omega
          have more : ¬ rest.length < numBytes - overflow.length := by
            omega
          simp only [Stream.read, Bool.false_eq_true, if_false, full, more,
            decide_false, true_and, if_true, extendFromStream]
          by_cases line :
              endsInLineByte
                (overflow ++ rest.take (numBytes - overflow.length)) = true
          · have lines :
                ∀ byte ∈ rest.drop (numBytes - overflow.length),
                  IsLineByte byte := by
              by_contra other
              simp only [not_forall, exists_prop] at other
              exact calm ⟨few, rfl, enough, line, other⟩
            rw [if_pos line, extendFromRest_of_lines line lines]
          · rw [if_neg line,
              extendFromRest_of_plain (by simpa using line)]
        · have less :
              (overflow ++ rest.take (numBytes - overflow.length)).length ≠
                numBytes := by
            rw [List.length_append, List.length_take]
            omega
          simp only [Stream.read, Bool.false_eq_true, if_false, less,
            false_and]
  · rw [if_neg few, if_neg few]

/-- The first part leaves a buffer which is too small as it is. -/
theorem takeFromOverflow_cases
    {failure : Exception} {buffer kept : Bytes} {next : Stream}
    (least : 0 < numBytes)
    (taken :
      takeFromOverflow false failure stray numBytes overflow stream =
        .ok (buffer, kept, next)) :
    (buffer = overflow ∧ next = stream) ∨ numBytes ≤ buffer.length := by
  unfold takeFromOverflow at taken
  split_ifs at taken with some_ large
  · right
    have length : (overflow.take numBytes).length = numBytes := by
      simpa using large
    generalize overflow.take numBytes = first at *
    obtain ⟨before, byte, rfl⟩ :=
      (List.eq_nil_or_concat' first).resolve_left
        (List.ne_nil_of_length_pos (by omega))
    obtain ⟨more, rfl, _⟩ := extendFromOverflow_passed taken
    simp only [List.length_append, List.length_cons,
      List.length_nil] at length ⊢
    omega
  · cases taken
    exact Or.inl ⟨rfl, rfl⟩
  · cases taken
    obtain rfl : overflow = [] := by
      simpa using some_
    exact Or.inl ⟨rfl, rfl⟩

/-- So do the NETASCII branches. -/
theorem readNetascii_eq
    (least : 0 < numBytes) (calm : ¬ Slurps numBytes overflow stream) :
    StdHandler.readNetascii false stray numBytes overflow stream =
      Reader.readNetascii false stray numBytes overflow stream := by
  unfold StdHandler.readNetascii Reader.readNetascii
  rw [takeFromOverflow_failure .failedToReadFromStdin
    (.fileHandler .failedToReadFromFile)]
  cases taken :
      takeFromOverflow false (.fileHandler .failedToReadFromFile) stray
        numBytes overflow stream with
  | error exception => rfl
  | ok triple =>
      obtain ⟨buffer, kept, next⟩ := triple
      dsimp only
      have same :
          StdHandler.fillBuffer false stray numBytes buffer next =
            Reader.fillBuffer false stray numBytes buffer next := by
        rcases takeFromOverflow_cases least taken with
          ⟨rfl, rfl⟩ | enough
        · exact fillBuffer_eq calm
        · rw [StdHandler.fillBuffer, Reader.fillBuffer,
            if_neg (Nat.not_lt.mpr enough), if_neg (Nat.not_lt.mpr enough)]
      rw [same]

end

/-! ## Successive calls -/

/-- A call with a size, and the byte which a read past the end leaves behind. -/
structure ReadCall where
  numBytes : Nat
  stray : UInt8
  atLeast : 8 ≤ numBytes

/-- Nothing fails. -/
def ReadCall.host (call : ReadCall) : HostChoice :=
  { stray := call.stray }

/-- The chunks of a file, each with the number of bytes not read yet. -/
def Reader.returns (reader : Reader) (storage : Storage) :
    List ReadCall → List (Bytes × Nat)
  | [] => []
  | call :: calls =>
      match reader.readFile storage call.host call.numBytes with
      | (.error _, _) => []
      | (.ok (chunk, next), stored) =>
          (chunk, (next.file.map fun stream => stream.rest.length).getD 0) ::
            next.returns stored calls

/-- The chunks of standard input. -/
def StdHandler.returns (handler : StdHandler) :
    List ReadCall → List (Bytes × Nat)
  | [] => []
  | call :: calls =>
      match handler.readBytesFromStdin call.host call.numBytes with
      | .error _ => []
      | .ok (chunk, next) =>
          (chunk, next.stdin.rest.length) :: next.returns calls

/-- The state after a call. -/
def StdHandler.after (handler : StdHandler) (call : ReadCall) :
    StdHandler :=
  match handler.readBytesFromStdin call.host call.numBytes with
  | .error _ => handler
  | .ok (_, next) => next

/-- This call of `ReadBytesFromStdin` reads too much. -/
def StdHandler.Slurps (handler : StdHandler) (call : ReadCall) : Prop :=
  handler.mode = .NETASCII ∧
    Files.Slurps call.numBytes handler.overflowBuffer handler.stdin

/-- A reader and a handler at the same place of the same content. -/
structure SamePlace (reader : Reader) (handler : StdHandler)
    (files : FileSystem) (content : Bytes) : Prop where
  mode : handler.mode = reader.mode
  overflow : handler.overflowBuffer = reader.overflowBuffer
  found : files.content reader.filepath = some content
  place : reader.file = some handler.stdin ∨
    reader.file = none ∧ handler.stdin = ⟨content, false⟩

section

variable {reader : Reader} {handler : StdHandler} {storage : Storage}
  {content : Bytes}

theorem SamePlace.make {files : FileSystem} {path : Path}
    (found : files.content path = some content) (mode : DataFormat) :
    SamePlace (Reader.make path mode)
      (StdHandler.make mode ⟨content, false⟩) files content where
  mode := rfl
  overflow := rfl
  found := found
  place := Or.inr ⟨rfl, rfl⟩

/-- The stream of a handler is read like that of a reader. -/
theorem SamePlace.readStream
    (same : SamePlace reader handler storage.files content)
    {call : ReadCall} (calm : ¬ handler.Slurps call) :
    ∃ chunk next after,
      reader.readStream false call.stray call.numBytes handler.stdin =
          .ok (chunk, next) ∧
        handler.readBytesFromStdin call.host call.numBytes =
            .ok (chunk, after) ∧
          next.file = some after.stdin ∧
            SamePlace next after storage.files content := by
  unfold Reader.readStream StdHandler.readBytesFromStdin
  rw [same.mode, same.overflow]
  cases mode : reader.mode with
  | NETASCII =>
      have quiet : ¬ Files.Slurps call.numBytes reader.overflowBuffer
          handler.stdin := by
        intro slurps
        apply calm
        rw [StdHandler.Slurps, same.mode, same.overflow]
        exact ⟨mode, slurps⟩
      have least : 0 < call.numBytes := Nat.zero_lt_of_lt call.atLeast
      simp only [ReadCall.host, readNetascii_eq least quiet]
      cases read : Reader.readNetascii false call.stray call.numBytes
          reader.overflowBuffer handler.stdin with
      | error exception => cases (Reader.readNetascii_error read).2
      | ok result =>
          obtain ⟨chunk, left, rest⟩ := result
          exact
            ⟨chunk, _, _, rfl, rfl, rfl, rfl, rfl, same.found,
              Or.inl rfl⟩
  | OCTET =>
      obtain ⟨rest, eof⟩ : Stream := handler.stdin
      cases eof with
      | true =>
          exact
            ⟨[], _, _, rfl, rfl, rfl, rfl, rfl, same.found, Or.inl rfl⟩
      | false =>
          exact
            ⟨rest.take call.numBytes, _, _, rfl, rfl, rfl, rfl, rfl,
              same.found, Or.inl rfl⟩

/-- Where no call reads too much, both return the same. -/
theorem SamePlace.returns
    (same : SamePlace reader handler storage.files content)
    {calls : List ReadCall}
    (calm : ∀ taken ∈ stepsOf StdHandler.after handler calls,
      ¬ taken.1.Slurps taken.2) :
    reader.returns storage calls = handler.returns calls := by
  induction calls generalizing reader handler storage with
  | nil => rfl
  | cons call calls induction =>
      rw [stepsOf_cons, List.forall_mem_cons] at calm
      obtain ⟨chunk, next, after, step, input, there, onward⟩ :=
        same.readStream calm.1
      obtain ⟨stored, file, files⟩ :=
        Reader.readFile_of_readStream same.found same.place step
      have state : handler.after call = after := by
        rw [StdHandler.after, input]
      rw [state] at calm
      rw [← files] at onward
      have file : reader.readFile storage call.host call.numBytes =
          (.ok (chunk, next), stored) := file
      rw [Reader.returns, StdHandler.returns, file, input]
      dsimp only
      rw [there, induction onward calm.2]
      rfl

end

end IsaTftp.Files
