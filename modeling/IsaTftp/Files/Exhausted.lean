import IsaTftp.Files.Pending
import IsaTftp.Files.Yields

/-!
# Reading to the end

The loops of `ReadFile` take one byte in each turn, and stop at the end of
the file at the latest.  Calls of `ReadFile` in NETASCII mode come to a short
chunk after at most four full chunks for each byte of the file.
-/

namespace IsaTftp.Files

open IsaTftp.Wire

/-! ## The loops of one call -/

/--
The loop of `ReadFile` which looks at the last byte, with a bound on its
turns.  The second loop of `ReadFile` is this one without overflow buffer.
-/
def extendLoop (fails : Bool) (failure : Exception) (stray : UInt8) :
    Nat → Bytes → Bytes → Stream →
      Option (Except Exception (Bytes × Bytes × Stream))
  | 0, _, _, _ => none
  | turns + 1, buffer, overflow, stream =>
      if endsInLineByte buffer then
        match overflow with
        | byte :: overflow =>
            extendLoop fails failure stray turns (buffer ++ [byte]) overflow
              stream
        | [] =>
            -- behind the end of the file the byte is not written to
            if stream.eof then some (.ok (buffer ++ [stray], [], stream))
            else if fails then some (.error failure)
            else
              match stream.rest with
              | [] => some (.ok (buffer ++ [stray], [], ⟨[], true⟩))
              | byte :: rest =>
                  extendLoop fails failure stray turns (buffer ++ [byte]) []
                    ⟨rest, false⟩
      else some (.ok (buffer, overflow, stream))

variable {fails : Bool} {failure : Exception} {stray : UInt8}

/-- It ends after as many turns as there are bytes, and one more. -/
theorem extendLoop_eq
    {turns : Nat} {buffer overflow : Bytes} {stream : Stream}
    (many : overflow.length + stream.rest.length < turns) :
    extendLoop fails failure stray turns buffer overflow stream =
      some
        (extendFromOverflow fails failure stray buffer overflow
          stream) := by
  induction turns generalizing buffer overflow stream with
  | zero => exact absurd many (Nat.not_lt_zero _)
  | succ turns induction =>
      unfold extendLoop
      by_cases line : endsInLineByte buffer = true
      · rw [if_pos line]
        cases overflow with
        | cons byte overflow =>
            rw [extendFromOverflow, if_pos line]
            apply induction
            simp only [List.length_cons] at many
            omega
        | nil =>
            obtain ⟨rest, eof⟩ := stream
            rw [extendFromOverflow, extendFromStream]
            cases eof with
            | true => simp [line]
            | false =>
                cases rest with
                | nil => cases fails <;> simp [extendFromRest, line]
                | cons byte rest =>
                    have later :=
                      @induction (buffer ++ [byte]) [] ⟨rest, false⟩
                        (by simpa using many)
                    rw [extendFromOverflow, extendFromStream] at later
                    cases fails with
                    | true => simp [extendFromRest, line]
                    | false => simpa [extendFromRest, line] using later
      · rw [if_neg line]
        cases overflow with
        | cons byte overflow => rw [extendFromOverflow, if_neg line]
        | nil =>
            obtain ⟨rest, eof⟩ := stream
            rw [extendFromOverflow, extendFromStream]
            cases eof with
            | true => simp [line]
            | false => cases rest <;> simp [extendFromRest, line]

/-! ## Successive calls -/

/-- A NETASCII reader which can return at most so many full chunks. -/
structure Reader.AtMost (reader : Reader) (files : FileSystem)
    (count : Nat) : Prop where
  netascii : reader.mode = .NETASCII
  text : TextEnd reader.overflowBuffer
  place : ∃ stream,
    (reader.file = some stream ∨
      reader.file = none ∧
        stream = ⟨(files.content reader.filepath).getD [], false⟩) ∧
      (stream.eof = true → stream.rest = []) ∧
        pending reader.overflowBuffer stream.rest ≤ count

namespace Reader

variable {reader next : Reader} {storage stored : Storage}
  {host : HostChoice} {numBytes count : Nat} {chunk content : Bytes}

/-- A new reader has four chunks for each byte of the file. -/
theorem AtMost.make {files : FileSystem} {path : Path}
    (found : files.content path = some content) :
    (Reader.make path .NETASCII).AtMost files (4 * content.length) where
  netascii := rfl
  text := Or.inl .nil
  place := by
    refine ⟨⟨content, false⟩, Or.inr ⟨rfl, ?_⟩, by simp, ?_⟩
    · simp [Reader.make, found]
    · simp [Reader.make, pending, openLine]

/-- Every full chunk is one of them. -/
theorem AtMost.readFile
    (atMost : reader.AtMost storage.files count)
    (atLeast : 8 ≤ numBytes)
    (read :
      reader.readFile storage host numBytes = (.ok (chunk, next), stored))
    (full : ¬ chunk.length < numBytes) :
    ∃ fewer < count, next.AtMost stored.files fewer := by
  obtain ⟨fails, stream, result, place⟩ := readStream_of_readFile read
  obtain ⟨start, here, atEnd, few⟩ := atMost.place
  obtain rfl : start = stream := by
    rcases place with opened | ⟨unopened, rfl⟩
    · rcases here with same | ⟨closed, _⟩
      · exact Option.some.inj (same.symm.trans opened)
      · cases closed.symm.trans opened
    · rcases here with same | ⟨_, rfl⟩
      · cases same.symm.trans unopened
      · rfl
  simp only [readStream, atMost.netascii] at result
  cases encoded : readNetascii fails host.stray numBytes
      reader.overflowBuffer start with
  | error exception => simp [encoded] at result
  | ok triple =>
      obtain ⟨first, left, rest⟩ := triple
      simp only [encoded, Except.ok.injEq, Prod.mk.injEq] at result
      obtain ⟨rfl, rfl⟩ := result
      obtain ⟨buffer, kept, fill, split, passed⟩ :=
        exists_fill_lines (by omega) atEnd (readNetascii_of_ok encoded)
      rw [fill.splitChunk (by omega)] at split
      obtain ⟨rfl, rfl⟩ := Prod.mk.inj split
      rw [List.length_take] at full
      have less := fill.pending_lt atLeast atMost.text passed (by omega)
      refine ⟨_, less.trans_le few, rfl, ?_, ?_⟩
      · exact textEnd_drop_encodeAndEndLine (by omega) buffer
      · exact ⟨rest, Or.inl rfl, fill.atEnd atEnd, Nat.le_refl _⟩

/-- How calls of `ReadFile`, one after the other, have gone. -/
inductive Reading where
  /-- a chunk was short -/
  | ended
  | threw (exception : Exception)
  /-- every chunk was full -/
  | goesOn
deriving DecidableEq, Repr

/-- Calls of `ReadFile(num_bytes)` up to the first short chunk. -/
def readOn (reader : Reader) (storage : Storage) (numBytes : Nat) :
    List HostChoice → Reading
  | [] => .goesOn
  | host :: hosts =>
      match reader.readFile storage host numBytes with
      | (.error exception, _) => .threw exception
      | (.ok (chunk, next), stored) =>
          if chunk.length < numBytes then .ended
          else next.readOn stored numBytes hosts

/-- They do not go on for more calls than there can be full chunks. -/
theorem AtMost.readOn {hosts : List HostChoice}
    (atMost : reader.AtMost storage.files count)
    (atLeast : 8 ≤ numBytes) (many : count < hosts.length) :
    reader.readOn storage numBytes hosts ≠ .goesOn := by
  induction hosts generalizing reader storage count with
  | nil => exact absurd many (Nat.not_lt_zero _)
  | cons host hosts induction =>
      rw [Reader.readOn]
      cases read : reader.readFile storage host numBytes with
      | mk result stored =>
          cases result with
          | error exception => simp
          | ok pair =>
              obtain ⟨chunk, next⟩ := pair
              dsimp only
              split_ifs with short
              · simp
              · obtain ⟨fewer, less, later⟩ :=
                  atMost.readFile atLeast read short
                apply induction later
                rw [List.length_cons] at many
                omega

/-- Where nothing fails, no call throws. -/
theorem At.readOn_ne_threw {overflow : Bytes} {stream : Stream}
    (here : reader.At storage.files content overflow stream)
    (numBytes : Nat) (strays : List UInt8) (exception : Exception) :
    reader.readOn storage numBytes
        (strays.map fun stray => { stray := stray }) ≠
      .threw exception := by
  induction strays generalizing reader storage overflow stream with
  | nil => simp [Reader.readOn]
  | cons stray strays induction =>
      obtain ⟨chunk, left, rest, next, stored, _, read, after⟩ :=
        here.readFile stray numBytes
      rw [List.map_cons, Reader.readOn, read]
      dsimp only
      split_ifs
      · simp
      · exact induction after

end Reader

end IsaTftp.Files
