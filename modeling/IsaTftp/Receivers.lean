import IsaTftp.Library.Runs
import IsaTftp.Network
import IsaTftp.Wire.Replies
import IsaTftp.Files.Writer

/-!
# Receiving blocks in order

Both receivers of the program accept the block which follows the last one they
have accepted, and nothing else.  Here it is said what this means for a party
of which only its steps, its storage and the blocks it hears and accepts are
known, and what a writer in octet mode knows about the blocks accepted so far.
-/

namespace IsaTftp.Transfer

open IsaTftp.Wire
open IsaTftp.Files
open IsaTftp.Library.Runs

/-! ## Parties which receive -/

/-- A party which receives a file; a block is its number and its payload. -/
structure ReceivingParty (State : Type) where
  step : State → Event → State
  /-- the DATA packet which a reception brings, cut to the block size -/
  hears : State → Event → Option (Nat × Bytes)
  /-- the same, if it is accepted -/
  accepts : State → Event → Option (Nat × Bytes)
  storage : State → Storage
  blksize : State → Nat
  outcome : State → Option Outcome

/-- A block is accepted if it is the next one and `WriteFile` takes it. -/
def acceptBlock (expected : Nat) (writer : Writer) (storage : Storage)
    (host : HostChoice) (block : Nat × Bytes) : Option (Nat × Bytes) :=
  if block.1 = expected ∧
      (writer.writeFile storage host block.2).1 = .done then
    some block
  else none

namespace ReceivingParty

variable {State : Type} (party : ReceivingParty State)

/-- The blocks which are accepted in a run, oldest first. -/
def accepted (start : State) (events : List Event) : List (Nat × Bytes) :=
  observed party.accepts party.step start events

/-- The payloads which have been written, oldest first. -/
def written (state : State) : List Bytes :=
  (party.storage state).writtenBlocks

/-- An exception has ended the transfer. -/
def Failed (state : State) : Prop :=
  ∃ exception, party.outcome state = some (.threw exception)

/--
What is written in a run.  Only a disk which does not take all of a block
leaves a part of it behind.
-/
structure WritesInOrder (path : Path) (start : State)
    (events : List Event) : Prop where
  numbered :
    (party.accepted start events).map Prod.fst =
      List.range' 1 (party.accepted start events).length
  full : ∀ block ∈ (party.accepted start events).dropLast,
    block.2.length = party.blksize (run party.step start events)
  written : ∃ torn,
    party.written (run party.step start events) =
        (party.accepted start events).map Prod.snd ++ torn ∧
      (torn ≠ [] → party.Failed (run party.step start events)) ∧
        ((∀ event ∈ events, event.host.writeFails = none) → torn = [])
  file :
    (∀ event ∈ events,
        event.reception ≠ .sigint ∧ event.sigintFrom = none) →
      party.accepted start events ≠ [] →
        (party.storage (run party.step start events)).files.content
            path =
          some (party.written (run party.step start events)).flatten

/-- What the next reception can bring, after some events. -/
structure AcceptsInOrder (start : State) (events : List Event) : Prop where
  lower : ∀ event number data,
    party.hears (run party.step start events) event =
        some (number, data) →
      number ≤ (party.accepted start events).length →
        party.written
            (party.step (run party.step start events) event) =
          party.written (run party.step start events)
  higher : ∀ event number data,
    party.hears (run party.step start events) event =
        some (number, data) →
      (party.accepted start events).length + 1 < number →
        party.Failed (party.step (run party.step start events) event) ∧
          party.written
              (party.step (run party.step start events) event) =
            party.written (run party.step start events)
  short : ∀ block ∈ (party.accepted start events).getLast?,
    block.2.length < party.blksize (run party.step start events) →
      (party.outcome (run party.step start events)).isSome ∧
        ∀ later,
          run party.step start (events ++ later) =
            run party.step start events

end ReceivingParty

/-! ## Writers in octet mode -/

/-- The accepted blocks, and nothing else, have gone through the writer. -/
structure StoredBlocks (path : Path) (storage : Storage) (writer : Writer)
    (accepted : List (Nat × Bytes)) : Prop where
  octet : writer.mode = .OCTET
  nothingHeld : writer.tbwLaterBuffer = []
  samePath : writer.filepath = path
  holds : writer.Holds storage
  blocks : storage.writtenBlocks = accepted.map Prod.snd
  isOpen : accepted ≠ [] → writer.file ≠ none

/-- Numbered blocks, of which only the last one may be short. -/
structure InOrder (size : Nat) (accepted : List (Nat × Bytes)) : Prop where
  numbered :
    accepted.map Prod.fst = List.range' 1 accepted.length
  full : ∀ block ∈ accepted.dropLast, block.2.length = size

/-- No block is short. -/
def AllFull (size : Nat) (accepted : List (Nat × Bytes)) : Prop :=
  ∀ block ∈ accepted, block.2.length = size

/-- The transfer has ended; `disk` and `calm` say what did not happen. -/
structure StoppedWith (disk calm : Prop) (path : Path) (size : Nat)
    (storage : Storage) (outcome : Outcome)
    (accepted : List (Nat × Bytes)) : Prop where
  inOrder : InOrder size accepted
  written : ∃ torn,
    storage.writtenBlocks = accepted.map Prod.snd ++ torn ∧
      (torn ≠ [] → ∃ exception, outcome = .threw exception) ∧
        (disk → torn = [])
  file : calm → accepted ≠ [] →
    storage.files.content path = some storage.writtenBlocks.flatten

/-! ## Classifying a packet -/

/-- What a wait loop makes of a packet depends on the block it carries. -/
theorem classifyData_cases
    (responder : Bytes) (expected announced blksize : Nat)
    (packet : Bytes) :
    (dataIn blksize packet = none ∧
        (classifyData responder expected announced blksize packet =
            .ok .ignored ∨
          ∃ exception,
            classifyData responder expected announced blksize packet =
              .error exception)) ∨
      ∃ number data, dataIn blksize packet = some (number, data) ∧
        ((number = expected ∧
            classifyData responder expected announced blksize packet =
              .ok (.accepted data)) ∨
          (number < expected ∧
              classifyData responder expected announced blksize packet =
                .ok .old) ∨
            (expected < number ∧ ∃ exception,
              classifyData responder expected announced blksize packet =
                .error exception)) := by
  unfold classifyData
  cases known : getOpcodeFromRaw packet with
  | error exception =>
      left
      constructor
      · simp [dataIn, DataPacket.ofRaw, known, bind, Except.bind]
      · exact Or.inr ⟨exception, rfl⟩
  | ok opcode =>
      have other : opcode ≠ .DATA → dataIn blksize packet = none :=
        fun other => dataIn_of_opcode known other blksize
      cases opcode with
      | DATA =>
          cases parsed : DataPacket.ofRaw packet blksize with
          | error exception =>
              left
              constructor
              · simp [dataIn, parsed]
              · exact Or.inr ⟨exception, by simp [bind, Except.bind]⟩
          | ok block =>
              right
              refine
                ⟨block.blockNumber.toNat, block.data,
                  by simp [dataIn, parsed], ?_⟩
              simp only [bind, Except.bind]
              split_ifs with equal lower
              · exact Or.inl ⟨equal, rfl⟩
              · exact Or.inr (Or.inl ⟨lower, rfl⟩)
              · exact Or.inr (Or.inr ⟨by omega, _, rfl⟩)
      | ERROR =>
          left
          refine ⟨other (by decide), Or.inr ?_⟩
          cases parsed : ErrorPacket.ofRaw packet with
          | error exception => exact ⟨exception, rfl⟩
          | ok error => exact ⟨_, rfl⟩
      | _ => exact Or.inl ⟨other (by decide), Or.inl rfl⟩

/-- A block before the expected one. -/
theorem classifyData_of_lower
    {blksize number expected : Nat} {data packet : Bytes}
    (carried : dataIn blksize packet = some (number, data))
    (lower : number < expected) (responder : Bytes) (announced : Nat) :
    classifyData responder expected announced blksize packet =
      .ok .old := by
  rcases classifyData_cases responder expected announced blksize packet
    with ⟨silent, _⟩ | ⟨number, data, same, outcome⟩
  · cases silent.symm.trans carried
  · cases same.symm.trans carried
    rcases outcome with ⟨equal, _⟩ | ⟨_, old⟩ | ⟨higher, _⟩
    · omega
    · exact old
    · omega

/-- A block behind the expected one. -/
theorem classifyData_of_higher
    {blksize number expected : Nat} {data packet : Bytes}
    (carried : dataIn blksize packet = some (number, data))
    (higher : expected < number) (responder : Bytes) (announced : Nat) :
    ∃ exception,
      classifyData responder expected announced blksize packet =
        .error exception := by
  rcases classifyData_cases responder expected announced blksize packet
    with ⟨silent, _⟩ | ⟨number, data, same, outcome⟩
  · cases silent.symm.trans carried
  · cases same.symm.trans carried
    rcases outcome with ⟨equal, _⟩ | ⟨lower, _⟩ | ⟨_, refused⟩
    · omega
    · omega
    · exact refused

/-! ## Blocks in order -/

variable {disk calm : Prop} {path : Path} {size : Nat}
variable {storage : Storage} {writer : Writer}
variable {accepted : List (Nat × Bytes)}

theorem InOrder.nil (size : Nat) : InOrder size [] where
  numbered := rfl
  full := by simp

/-- One more block, of whatever length, after full ones. -/
theorem InOrder.append
    (inOrder : InOrder size accepted) (allFull : AllFull size accepted)
    (data : Bytes) :
    InOrder size (accepted ++ [(accepted.length + 1, data)]) where
  numbered := by
    rw [List.map_append, inOrder.numbered, List.length_append,
      List.length_singleton, List.range'_concat]
    simp [Nat.add_comm]
  full := by
    rw [List.dropLast_concat]
    exact allFull

theorem AllFull.append
    (allFull : AllFull size accepted) {number : Nat} {data : Bytes}
    (full : data.length = size) :
    AllFull size (accepted ++ [(number, data)]) := by
  intro block member
  rcases List.mem_append.mp member with old | new
  · exact allFull block old
  · rw [List.mem_singleton.mp new]
    exact full

/-- A payload is not longer than the block size. -/
theorem length_le_of_dataIn
    {blksize number : Nat} {data raw : Bytes}
    (carried : dataIn blksize raw = some (number, data)) :
    data.length ≤ blksize := by
  unfold dataIn at carried
  split at carried
  · rename_i packet parsed
    cases carried
    obtain ⟨_, _, payload, _, rfl⟩ := DataPacket.ofRaw_eq_ok parsed
    exact List.length_take_le blksize payload
  · cases carried

/-- Without a byte which is held back, closing the file writes nothing. -/
theorem close_of_nothingHeld
    (nothingHeld : writer.tbwLaterBuffer = []) (storage : Storage)
    (host : HostChoice) :
    writer.close storage host = storage := by
  unfold Writer.close
  split
  · rfl
  · simp [nothingHeld]

namespace StoredBlocks

theorem make
    (nothing : storage.writtenBlocks = []) (path : Path) :
    StoredBlocks path storage (Writer.make path .OCTET) [] where
  octet := rfl
  nothingHeld := rfl
  samePath := rfl
  holds := .make nothing path .OCTET
  blocks := nothing
  isOpen some_ := absurd rfl some_

theorem content
    (stored : StoredBlocks path storage writer accepted)
    (some_ : accepted ≠ []) :
    storage.files.content path = some storage.writtenBlocks.flatten := by
  obtain ⟨position, opened⟩ :=
    Option.ne_none_iff_exists'.mp (stored.isOpen some_)
  have content := (stored.holds.opened position opened).1
  rw [stored.samePath] at content
  exact content

/-- The transfer can end here, if the files stay as they are in calm. -/
theorem stopped
    (stored : StoredBlocks path storage writer accepted)
    (inOrder : InOrder size accepted) {later : Storage}
    (blocks : later.writtenBlocks = storage.writtenBlocks)
    (files : calm → later.files = storage.files) (outcome : Outcome) :
    StoppedWith disk calm path size later outcome accepted where
  inOrder := inOrder
  written := by
    refine ⟨[], ?_, fun some_ => absurd rfl some_, fun _ => rfl⟩
    rw [blocks, stored.blocks, List.append_nil]
  file isCalm some_ := by
    rw [files isCalm, blocks]
    exact stored.content some_

/-- Writing a block to the open file. -/
theorem writeOpened
    (stored : StoredBlocks path storage writer accepted) {position : Nat}
    (opened : writer.file = some position) (host : HostChoice)
    (block : Nat × Bytes) :
    (∃ exception next after torn,
        writer.writeOpened storage host position block.2 =
            (.threw exception, next, after) ∧
          next.tbwLaterBuffer = [] ∧
            after.writtenBlocks = accepted.map Prod.snd ++ torn ∧
              (host.writeFails = none → torn = []) ∧
                after.files.content path =
                  some after.writtenBlocks.flatten) ∨
      ∃ next after,
        writer.writeOpened storage host position block.2 =
            (.done, next, after) ∧
          StoredBlocks path after next (accepted ++ [block]) := by
  obtain ⟨content, atEnd⟩ := stored.holds.opened position opened
  have appended := fun bytes => content_writeAt_end content bytes
  subst atEnd
  cases fails : host.writeFails with
  | none =>
      right
      refine
        ⟨{ writer with
            file :=
              some (storage.writtenBlocks.flatten.length + block.2.length)
            tbwLaterBuffer := [] },
          storage.writeAt writer.filepath
            storage.writtenBlocks.flatten.length block.2, ?_, ?_⟩
      · simp only [Writer.writeOpened, Writer.decodeBlock, stored.octet,
          stored.nothingHeld, fails, List.nil_append]
      · refine
          ⟨stored.octet, rfl, stored.samePath, ⟨by simp, ?_⟩, ?_, by simp⟩
        · intro reached isOpen
          cases isOpen
          exact ⟨appended block.2, by simp⟩
        · simp [stored.blocks]
  | some count =>
      left
      refine
        ⟨.fileHandler .failedToWriteToFile,
          { writer with
            file :=
              some
                (storage.writtenBlocks.flatten.length +
                  (block.2.take count).length)
            tbwLaterBuffer := [] },
          storage.writeAt writer.filepath
            storage.writtenBlocks.flatten.length (block.2.take count),
          [block.2.take count], ?_, rfl, ?_, ?_, ?_⟩
      · simp only [Writer.writeOpened, Writer.decodeBlock, stored.octet,
          stored.nothingHeld, fails, List.nil_append]
      · simp [stored.blocks]
      · intro none_
        cases none_
      · rw [← stored.samePath]
        exact appended (block.2.take count)

/-- A call of `WriteFile` throws, or it appends the block. -/
theorem writeFile
    (stored : StoredBlocks path storage writer accepted) (host : HostChoice)
    (block : Nat × Bytes) :
    (∃ exception next after torn,
        writer.writeFile storage host block.2 =
            (.threw exception, next, after) ∧
          next.tbwLaterBuffer = [] ∧
            after.writtenBlocks = accepted.map Prod.snd ++ torn ∧
              (host.writeFails = none → torn = []) ∧
                (accepted ≠ [] →
                  after.files.content path =
                    some after.writtenBlocks.flatten)) ∨
      ∃ next after,
        writer.writeFile storage host block.2 = (.done, next, after) ∧
          StoredBlocks path after next (accepted ++ [block]) := by
  have wrote {first : Writer} {before : Storage} {position : Nat}
      (stored : StoredBlocks path before first accepted)
      (isOpen : first.file = some position) :
      (∃ exception next after torn,
          first.writeOpened before host position block.2 =
              (.threw exception, next, after) ∧
            next.tbwLaterBuffer = [] ∧
              after.writtenBlocks = accepted.map Prod.snd ++ torn ∧
                (host.writeFails = none → torn = []) ∧
                  (accepted ≠ [] →
                    after.files.content path =
                      some after.writtenBlocks.flatten)) ∨
        ∃ next after,
          first.writeOpened before host position block.2 =
              (.done, next, after) ∧
            StoredBlocks path after next (accepted ++ [block]) := by
    rcases stored.writeOpened isOpen host block with
      ⟨exception, next, after, torn, result, held, blocks, whole,
        content⟩ | done
    · exact
        Or.inl
          ⟨exception, next, after, torn, result, held, blocks, whole,
            fun _ => content⟩
    · exact Or.inr done
  rcases writer.writeFile_cases storage host block.2 with
    ⟨position, isOpen, result⟩ | ⟨unopened, refused, result⟩ |
      ⟨unopened, _, result⟩
  · rw [result]
    exact wrote stored isOpen
  · have none_ : accepted = [] := by
      by_contra some_
      exact stored.isOpen some_ unopened
    subst none_
    left
    refine
      ⟨.fileHandler (.failedToOpenFile writer.filepath), writer,
        storage.access (.openWrite writer.filepath), [], result,
        stored.nothingHeld, ?_, fun _ => rfl,
        fun some_ => absurd rfl some_⟩
    simpa using stored.blocks
  · have none_ : accepted = [] := by
      by_contra some_
      exact stored.isOpen some_ unopened
    subst none_
    have nothing : storage.writtenBlocks = [] := stored.blocks
    rw [result]
    refine wrote ?_ rfl
    refine
      ⟨stored.octet, stored.nothingHeld, stored.samePath,
        ⟨by simp, ?_⟩, by simpa using nothing, by simp⟩
    intro position isOpen
    cases isOpen
    simp [nothing]

end StoredBlocks

/-! ## Where a transfer stands -/

/-- What is known about a transfer which goes on or has ended. -/
def Standing (disk calm : Prop) (path : Path) (size : Nat)
    (storage : Storage) (outcome : Option Outcome)
    (accepted : List (Nat × Bytes)) : Prop :=
  match outcome with
  | none =>
      (∃ writer, StoredBlocks path storage writer accepted) ∧
        AllFull size accepted
  | some outcome => StoppedWith disk calm path size storage outcome accepted

namespace Standing

variable {outcome : Option Outcome}

/-- Everything accepted has been written, and nothing else in full. -/
theorem written
    (standing :
      Standing disk calm path size storage outcome accepted) :
    ∃ torn,
      storage.writtenBlocks = accepted.map Prod.snd ++ torn ∧
        (torn ≠ [] → ∃ exception, outcome = some (.threw exception)) ∧
          (disk → torn = []) := by
  cases outcome with
  | none =>
      obtain ⟨⟨writer, stored⟩, _⟩ := standing
      refine ⟨[], ?_, fun some_ => absurd rfl some_, fun _ => rfl⟩
      rw [stored.blocks, List.append_nil]
  | some outcome =>
      obtain ⟨torn, blocks, fails, takes⟩ := StoppedWith.written standing
      refine ⟨torn, blocks, ?_, takes⟩
      intro some_
      obtain ⟨exception, rfl⟩ := fails some_
      exact ⟨exception, rfl⟩

/-- The file holds what was written. -/
theorem file
    (standing : Standing disk calm path size storage outcome accepted)
    (isCalm : calm) (some_ : accepted ≠ []) :
    storage.files.content path = some storage.writtenBlocks.flatten := by
  cases outcome with
  | none =>
      obtain ⟨⟨writer, stored⟩, _⟩ := standing
      exact stored.content some_
  | some outcome => exact StoppedWith.file standing isCalm some_

/-- After a short block the transfer has ended. -/
theorem short
    (standing : Standing disk calm path size storage outcome accepted)
    {block : Nat × Bytes} (last : block ∈ accepted.getLast?)
    (short : block.2.length < size) :
    outcome.isSome := by
  cases outcome with
  | none =>
      obtain ⟨_, allFull⟩ := standing
      exact
        absurd (allFull block (List.mem_of_getLast? last))
          (Nat.ne_of_lt short)
  | some outcome => rfl

end Standing

end IsaTftp.Transfer
