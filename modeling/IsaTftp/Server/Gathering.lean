import IsaTftp.Server.Serving

/-!
# What a handler makes of the data of its client

A client cuts its data into blocks, and the handler accepts them in order.
What it writes to its file depends on these blocks only, whatever happens to
the file meanwhile.
-/

namespace IsaTftp.Server

open IsaTftp.Wire
open IsaTftp.Files
open IsaTftp.Transfer
open IsaTftp.Library.Chunking

/-! ## One writer -/

/--
What a writer makes of blocks if every write succeeds: what it writes for each
of them, and what it holds back behind the last one.
-/
inductive Makes (mode : DataFormat) :
    List Bytes → List Bytes → Bytes → Prop where
  | nothing : Makes mode [] [] []
  | block {blocks written : List Bytes} {held block bytes next : Bytes}
      (before : Makes mode blocks written held)
      (decoded : Writer.decodeBlock mode held block = some (bytes, next)) :
      Makes mode (blocks ++ [block]) (written ++ [bytes]) next

/-- In octet mode the blocks themselves are written. -/
theorem Makes.octet
    {blocks written : List Bytes} {held : Bytes}
    (makes : Makes .OCTET blocks written held) :
    written = blocks ∧ held = [] := by
  induction makes with
  | nothing => exact ⟨rfl, rfl⟩
  | block before decoded induction =>
      obtain ⟨rfl, rfl⟩ := induction
      simp only [Writer.decodeBlock, List.nil_append, Option.some.injEq,
        Prod.mk.injEq] at decoded
      obtain ⟨rfl, rfl⟩ := decoded
      exact ⟨rfl, rfl⟩

/-- A call of `WriteFile` which succeeds writes one decoded block. -/
theorem writeFile_of_done
    {writer next : Writer} {storage stored : Storage} {host : HostChoice}
    {block : Bytes}
    (done : writer.writeFile storage host block = (.done, next, stored)) :
    ∃ bytes,
      Writer.decodeBlock writer.mode writer.tbwLaterBuffer block =
          some (bytes, next.tbwLaterBuffer) ∧
        stored.writtenBlocks = storage.writtenBlocks ++ [bytes] ∧
          next.mode = writer.mode ∧ next.file ≠ none ∧
            host.writeFails = none := by
  have opened : ∀ {opened : Writer} {storage stored : Storage} {position},
      opened.writeOpened storage host position block =
          (.done, next, stored) →
        ∃ bytes,
          Writer.decodeBlock opened.mode opened.tbwLaterBuffer block =
              some (bytes, next.tbwLaterBuffer) ∧
            stored.writtenBlocks = storage.writtenBlocks ++ [bytes] ∧
              next.mode = opened.mode ∧ next.file ≠ none ∧
                host.writeFails = none := by
    intro opened storage stored position result
    unfold Writer.writeOpened at result
    cases decoded :
        Writer.decodeBlock opened.mode opened.tbwLaterBuffer block with
    | none =>
        rw [decoded] at result
        cases result
    | some pair =>
        obtain ⟨bytes, held⟩ := pair
        rw [decoded] at result
        cases fails : host.writeFails with
        | some count =>
            rw [fails] at result
            cases result
        | none =>
            rw [fails] at result
            cases result
            exact ⟨bytes, rfl, by simp, rfl, by simp, rfl⟩
  rcases writer.writeFile_cases storage host block with
    ⟨position, _, result⟩ | ⟨_, _, result⟩ | ⟨_, _, result⟩
  · exact opened (result.symm.trans done)
  · rw [done] at result
    cases result
  · obtain ⟨bytes, decoded, blocks, rest⟩ :=
      opened (result.symm.trans done)
    refine ⟨bytes, decoded, ?_, rest⟩
    rw [blocks, Storage.writtenBlocks_emptied]

/-- What a writer holds back is written when its file is closed. -/
theorem flatten_close
    {writer : Writer} (opened : writer.file ≠ none) (storage : Storage)
    {host : HostChoice} (accepts : host.writeFails = none)
    (closes : writer.tbwLaterBuffer = [] ∨ host.closeFails = false) :
    (writer.close storage host).writtenBlocks.flatten =
      storage.writtenBlocks.flatten ++ writer.tbwLaterBuffer := by
  obtain ⟨position, isOpen⟩ := Option.ne_none_iff_exists'.mp opened
  unfold Writer.close
  rw [isOpen]
  dsimp only
  by_cases nothing : writer.tbwLaterBuffer = []
  · simp [nothing]
  · have succeeds : host.closeFails = false :=
      closes.resolve_left nothing
    simp [nothing, succeeds, accepts]

/-! ## One handler -/

/-- What a client wants to store. -/
structure ClientData where
  mode : DataFormat
  data : Bytes

/-- The first blocks of the data. -/
def ClientData.blocks (client : ClientData) (size count : Nat) :
    List Bytes :=
  (List.range count).map (chunk size client.data)

theorem ClientData.blocks_succ (client : ClientData) (size count : Nat) :
    client.blocks size (count + 1) =
      client.blocks size count ++ [chunk size client.data count] := by
  simp [blocks, List.range_succ]

/-- These bytes are what a writer makes of all blocks of the data. -/
def ClientData.Stored (client : ClientData) (size : Nat) (bytes : Bytes) :
    Prop :=
  ∃ written held,
    Makes client.mode
        (client.blocks size (chunkCount size client.data)) written held ∧
      bytes = written.flatten ++ held

/-- In octet mode they are the data. -/
theorem ClientData.Stored.octet
    {client : ClientData} {size : Nat} {bytes : Bytes}
    (stored : client.Stored size bytes) (positive : 0 < size)
    (octet : client.mode = .OCTET) :
    bytes = client.data := by
  obtain ⟨written, held, makes, rfl⟩ := stored
  rw [octet] at makes
  obtain ⟨rfl, rfl⟩ := makes.octet
  rw [List.append_nil, blocks, ← List.flatMap_def]
  exact firstChunks_of_chunkCount_le positive le_rfl

/-- What an event brings is the block of the data with its number. -/
def ClientData.Sends (client : ClientData) (session : Session)
    (event : Event) : Prop :=
  (∀ number data, session.Brings event (number + 1) data →
    data = chunk session.blksize client.data number) ∧
    (client.mode = .NETASCII → event.host.closeFails = false)

/-- What a writer has made of the blocks before the one which is awaited. -/
structure Made (client : ClientData) (session : Session) (writer : Writer)
    (count : Nat) : Prop where
  positive : 0 < session.blksize
  mode : writer.mode = client.mode
  makes : Makes client.mode (client.blocks session.blksize count)
    session.storage.writtenBlocks writer.tbwLaterBuffer
  full : ∀ index < count,
    ¬ (chunk session.blksize client.data index).length < session.blksize

theorem Made.of_quiet
    {client : ClientData} {session next : Session} {writer : Writer}
    {count : Nat} (made : Made client session writer count)
    (blksize : next.blksize = session.blksize)
    (storage : next.storage = session.storage) :
    Made client next writer count where
  positive := by
    rw [blksize]
    exact made.positive
  mode := made.mode
  makes := by
    rw [blksize, storage]
    exact made.makes
  full := by
    rw [blksize]
    exact made.full

/-- A handler has written what its writer makes of the blocks so far. -/
structure Gathers (client : ClientData) (handler : Handler) : Prop where
  idle : handler.control.reader ≠ none →
    handler.session.storage.writtenBlocks = []
  gathers : ∀ writer, handler.control.writer = some writer →
    ∃ count, handler.control.expected = count + 1 ∧
      Made client handler.session writer count
  done : handler.control = .ended .returned →
    handler.session.storage.writtenBlocks ≠ [] →
      0 < handler.session.blksize ∧
        client.Stored handler.session.blksize
          handler.session.storage.writtenBlocks.flatten

namespace Gathers

variable {client : ClientData} {session next : Session} {writer : Writer}
variable {handler : Handler} {event : Event} {count : Nat}

/-- A handler which has ended without returning. -/
theorem ended (session : Session) {outcome : Outcome}
    (stopped : outcome ≠ .returned) :
    Gathers client ⟨session, .ended outcome⟩ where
  idle := by simp [Control.reader]
  gathers := by simp [Control.writer]
  done isOver := absurd (Control.ended.inj isOver) stopped

theorem raise (session : Session) (exception : Exception) :
    Gathers client (session.raise exception) where
  idle := by simp [Session.raise, Control.reader]
  gathers := by simp [Session.raise, Control.writer]
  done isOver := by simp [Session.raise] at isOver

theorem abandonWrite (session : Session) (host : HostChoice)
    (writer : Writer) (exception : Exception) :
    Gathers client (session.abandonWrite host writer exception) :=
  .raise _ exception

/-- A handler which has written nothing and waits for no block. -/
theorem quiet
    (nothing : handler.session.storage.writtenBlocks = [])
    (noWriter : handler.control.writer = none) :
    Gathers client handler where
  idle _ := nothing
  gathers := by simp [noWriter]
  done _ written := absurd nothing written

theorem of_made (made : Made client session writer count)
    {control : Control} (waits : control.writer = some writer)
    (expected : control.expected = count + 1) :
    Gathers client ⟨session, control⟩ where
  idle isReader := by
    cases control <;> simp_all [Control.writer, Control.reader]
  gathers other found := by
    cases waits.symm.trans found
    exact ⟨count, expected, made⟩
  done isOver := by
    cases isOver
    cases waits

theorem awaitDataAgain (made : Made client session writer count)
    (host : HostChoice) (retries : Nat) :
    Gathers client (session.awaitDataAgain host writer count retries) := by
  unfold Session.awaitDataAgain
  split_ifs
  · apply of_made _ rfl rfl
    exact made.of_quiet rfl rfl
  · exact abandonWrite session host writer timeoutError

theorem awaitFirstDataAgain (made : Made client session writer 0)
    (host : HostChoice) (options negotiated : List TftpOption)
    (retries : Nat) :
    Gathers client
      (session.awaitFirstDataAgain host options negotiated writer
        retries) := by
  unfold Session.awaitFirstDataAgain
  split_ifs
  · split
    · exact abandonWrite session host writer _
    · apply of_made _ rfl rfl
      exact made.of_quiet rfl rfl
  · exact abandonWrite session host writer timeoutError

/-- The next block is stored; behind the last one the function returns. -/
theorem storeBlock (made : Made client session writer count)
    {host : HostChoice}
    (closes : client.mode = .NETASCII → host.closeFails = false) :
    Gathers client
      (session.storeBlock host writer (count + 1)
        (chunk session.blksize client.data count)) := by
  unfold Session.storeBlock
  cases result :
      writer.writeFile session.storage host
        (chunk session.blksize client.data count) with
  | mk status rest =>
      obtain ⟨last, stored⟩ := rest
      cases status with
      | undefined => exact ended _ (by simp)
      | threw exception => exact abandonWrite _ host _ _
      | done =>
          obtain ⟨bytes, decoded, blocks, mode, isOpen, accepts⟩ :=
            writeFile_of_done result
          rw [made.mode] at decoded
          have makes :
              Makes client.mode (client.blocks session.blksize (count + 1))
                stored.writtenBlocks last.tbwLaterBuffer := by
            rw [client.blocks_succ, blocks]
            exact .block made.makes decoded
          dsimp only
          split_ifs with short
          · -- the last block
            have enough :=
              (length_chunk_lt_iff made.positive client.data count).mp short
            have all : chunkCount session.blksize client.data = count + 1 := by
              apply Nat.le_antisymm enough
              by_contra fewer
              rw [Nat.not_le, Nat.lt_succ_iff] at fewer
              have before : count ≠ 0 := by
                rintro rfl
                simp [chunkCount] at fewer
              obtain ⟨previous, rfl⟩ := Nat.exists_eq_succ_of_ne_zero before
              apply made.full previous (Nat.lt_succ_self previous)
              exact
                (length_chunk_lt_iff made.positive client.data previous).mpr
                  fewer
            have held : last.tbwLaterBuffer = [] ∨
                host.closeFails = false := by
              cases isMode : client.mode with
              | NETASCII => exact Or.inr (closes isMode)
              | OCTET =>
                  rw [isMode] at makes
                  exact Or.inl makes.octet.2
            constructor
            · simp [Session.finishWrite, Control.reader]
            · simp [Session.finishWrite, Control.writer]
            · intro _ _
              refine
                ⟨made.positive, stored.writtenBlocks, last.tbwLaterBuffer,
                  ?_, ?_⟩
              · change Makes client.mode
                  (client.blocks session.blksize
                    (chunkCount session.blksize client.data)) _ _
                rw [all]
                exact makes
              · exact flatten_close isOpen stored accepts held
          · have next :
                Made client (session.withStorage stored).timeoutReset last
                  (count + 1) := by
              refine ⟨made.positive, mode.trans made.mode, makes, ?_⟩
              intro index below
              rcases Nat.lt_succ_iff_lt_or_eq.mp below with earlier | rfl
              · exact made.full index earlier
              · exact short
            exact awaitDataAgain next host 0

/-! ## Steps -/

/-- The head of a loop in which a handler receives. -/
theorem again {control : Control}
    (made : Made client session writer count)
    (waits : control.writer = some writer)
    (expected : control.expected = count + 1)
    (host : HostChoice) (retries : Nat) :
    Gathers client (session.again host control retries) := by
  cases control with
  | awaitFirstData options negotiated other =>
      cases waits
      obtain rfl : count = 0 := by
        simpa [Control.expected] using expected.symm
      exact awaitFirstDataAgain made host options negotiated retries
  | awaitData other blockNumber =>
      cases waits
      obtain rfl : blockNumber = count := by
        simpa [Control.expected] using expected
      exact awaitDataAgain made host retries
  | _ => cases waits

theorem checkForSigintWRQ (session : Session) (host : HostChoice)
    (writer : Writer) :
    Gathers client (session.checkForSigintWRQ host writer) := by
  unfold Session.checkForSigintWRQ Session.deleteAndTerminate
  dsimp only
  split
  · exact ended _ (by simp)
  · exact raise _ _

/-- A step of a handler which receives. -/
theorem step_receiving (gathers : Gathers client handler)
    (waits : handler.control.writer = some writer)
    (sends : client.Sends handler.session event) :
    Gathers client (handler.step event) := by
  have noReader : handler.control.reader = none := by
    cases control : handler.control <;> simp [control, Control.writer,
      Control.reader] at waits ⊢
  obtain ⟨count, expected, made⟩ := gathers.gathers writer waits
  have step := handler.step_cases event
  generalize handler.step event = reached at step ⊢
  cases step with
  | refuses sender foreign =>
      have replied :
          Made client (handler.session.reply sender) writer count :=
        made.of_quiet rfl rfl
      apply of_made replied
      · rw [← waits]
        cases handler.control <;> rfl
      · rw [← expected]
        cases handler.control <;> rfl
  | again retries => exact again made waits expected event.host retries
  | slowerAgain retries =>
      have slower :
          Made client handler.session.increaseTimeout writer count :=
        made.of_quiet rfl rfl
      exact again slower waits expected event.host retries
  | abandons other exception =>
      exact abandonWrite handler.session event.host _ exception
  | interruptsWRQ other =>
      exact checkForSigintWRQ handler.session event.host _
  | stores other blockNumber data next brings =>
      cases waits.symm.trans other
      rw [next, expected] at brings ⊢
      rw [sends.1 count data brings]
      exact storeBlock made sends.2
  | raises reads => cases noReader.symm.trans reads
  | interruptsRRQ reads => cases noReader.symm.trans reads
  | begins waiting => simp [waiting, Control.writer] at waits
  | acknowledged waiting => simp [waiting, Control.writer] at waits
  | isOver stopped => simp [stopped, Control.writer] at waits

/-- A step of a handler which sends writes nothing. -/
theorem step_sending (gathers : Gathers client handler) {reader : Reader}
    (reads : handler.control.reader = some reader) :
    Gathers client (handler.step event) := by
  by_cases interrupted : Interrupted handler event
  · obtain ⟨_, _, isOver, _⟩ := step_of_interrupted interrupted
    constructor
    · simp [isOver, Control.reader]
    · simp [isOver, Control.writer]
    · simp [isOver]
  · have leaves :=
      (Handler.step_sending reads event).leaves fun noticed => by
        by_contra removes
        refine
          interrupted ⟨by simp [reads], of_decide_eq_true noticed, ?_⟩
        simpa using removes
    apply quiet
    · rw [leaves.blocks]
      exact gathers.idle (by simp [reads])
    · exact leaves.noWriter

/-- One event, if what it brings is a block of the data. -/
theorem step (gathers : Gathers client handler)
    (sends : client.Sends handler.session event) :
    Gathers client (handler.step event) := by
  cases waits : handler.control.writer with
  | some writer => exact gathers.step_receiving waits sends
  | none =>
      cases reads : handler.control.reader with
      | some reader => exact gathers.step_sending reads
      | none =>
          rw [Handler.step_of_idle reads waits]
          exact gathers

/-- What others do to the files does not matter. -/
theorem withFiles (gathers : Gathers client handler)
    (files : FileSystem) : Gathers client (handler.withFiles files) :=
  ⟨gathers.idle,
    fun writer waits =>
      have ⟨count, expected, made⟩ := gathers.gathers writer waits
      ⟨count, expected, made.positive, made.mode, made.makes, made.full⟩,
    gathers.done⟩

end Gathers

end IsaTftp.Server
