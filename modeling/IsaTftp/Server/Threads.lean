import IsaTftp.Server.Aborted

/-!
# One handler among others

`TftpServer::run` starts a thread with a handler for every request, and all
handlers work on the same files.  Here one step of one handler is described as
the others see it: it writes through the path of its own request, or it leaves
the files alone, or it ends the process.
-/

namespace IsaTftp.Server

open IsaTftp.Wire
open IsaTftp.Files
open IsaTftp.Transfer

variable {path : Path} {handler : Handler} {event : Event}

theorem Confined.only
    {other : Path}
    (confined : Confined (fun other => other = path) handler)
    (wrote : handler.session.storage.Wrote other) :
    other = path := by
  obtain ⟨bytes, noted⟩ := wrote
  exact confined.accesses _ noted

theorem Confined.wrote
    (confined : Confined (fun other => other = path) handler)
    (written : handler.session.storage.writtenBlocks ≠ []) :
    handler.session.storage.Wrote path := by
  obtain ⟨other, wrote⟩ := Storage.exists_wrote written
  rwa [← confined.only wrote]

/-- `std::terminate`, or undefined behaviour, ends every thread. -/
def Handler.stopsProcess (handler : Handler) : Bool :=
  handler.control = .ended .terminated ∨
    handler.control = .ended .undefined

/-- The step calls `WriteFile` on a closed writer, and `open` succeeds. -/
def Handler.Opens (handler : Handler) (event : Event) (path : Path) :
    Prop :=
  (∃ writer, handler.control.writer = some writer ∧
    writer.file = none ∧ writer.filepath = path) ∧
    (∃ data, handler.meaning event = .block data) ∧
      event.host.openFails = false

/-- A writer stands at the end of what its handler has written. -/
structure AtEnd (writer : Writer) (storage : Storage) : Prop where
  unopened : writer.file = none → storage.writtenBlocks = []
  opened : ∀ position, writer.file = some position →
    storage.writtenBlocks ≠ [] ∧
      position = storage.writtenBlocks.flatten.length

theorem AtEnd.holds
    {writer : Writer} {storage : Storage} (atEnd : AtEnd writer storage)
    (content : storage.writtenBlocks ≠ [] →
      storage.files.content writer.filepath =
        some storage.writtenBlocks.flatten) :
    writer.Holds storage where
  unopened := atEnd.unopened
  opened position isOpen :=
    ⟨content (atEnd.opened position isOpen).1,
      (atEnd.opened position isOpen).2⟩

theorem AtEnd.of_holds
    {writer : Writer} {storage : Storage} (holds : writer.Holds storage)
    (some_ : writer.file ≠ none → storage.writtenBlocks ≠ []) :
    AtEnd writer storage where
  unopened := holds.unopened
  opened position isOpen :=
    ⟨some_ (by simp [isOpen]), (holds.opened position isOpen).2⟩

/-- What a step of a handler with this path has done. -/
structure Advanced (path : Path) (before : Storage) (handler : Handler) :
    Prop where
  advances : before.Advances path handler.session.storage
  stored : handler.session.storage.writtenBlocks ≠ [] →
    handler.session.storage.files.content path =
      some handler.session.storage.writtenBlocks.flatten
  atEnd : ∀ writer, handler.control.writer = some writer →
    AtEnd writer handler.session.storage

variable {session : Session} {writer : Writer} {before : Storage}

theorem Advanced.of_advances
    {middle : Storage} (earlier : before.Advances path middle)
    (later : Advanced path middle handler) :
    Advanced path before handler :=
  ⟨earlier.trans later.advances, later.stored, later.atEnd⟩

theorem Advanced.of_same
    (advanced : Advanced path before handler) {last : Handler}
    (files : last.session.storage.files = handler.session.storage.files)
    (blocks :
      last.session.storage.writtenBlocks =
        handler.session.storage.writtenBlocks)
    (isOver : last.control.writer = none) :
    Advanced path before last where
  advances := advanced.advances.trans (.of_quiet files blocks path)
  stored := by
    rw [files, blocks]
    exact advanced.stored
  atEnd := by simp [isOver]

/-- The writer is closed, and the function ends. -/
theorem Advanced.closed
    (samePath : writer.filepath = path)
    (holds : writer.Holds session.storage) {host : HostChoice}
    {last : Session} {outcome : Outcome}
    (closes : last.storage = writer.close session.storage host) :
    Advanced path session.storage ⟨last, .ended outcome⟩ := by
  subst samePath
  refine ⟨?_, ?_, by simp [Control.writer]⟩
  · rw [closes]
    exact writer.advances_close session.storage host
  · rw [closes]
    by_cases unopened : writer.file = none
    · rw [Writer.close_of_unopened unopened]
      exact fun written => absurd (holds.unopened unopened) written
    · exact fun _ => holds.close unopened host

theorem Advanced.abandonWrite
    (samePath : writer.filepath = path)
    (holds : writer.Holds session.storage) (host : HostChoice)
    (exception : Exception) :
    Advanced path session.storage
      (session.abandonWrite host writer exception) :=
  .closed samePath holds rfl

/-- A handler which goes on after SIGINT could not remove its file. -/
theorem Advanced.checkForSigintWRQ
    (samePath : writer.filepath = path)
    (holds : writer.Holds session.storage) (host : HostChoice)
    (goesOn :
      (session.checkForSigintWRQ host writer).stopsProcess = false) :
    Advanced path session.storage
      (session.checkForSigintWRQ host writer) := by
  have closed :=
    Advanced.abandonWrite samePath holds host .filesystemError
  unfold Session.checkForSigintWRQ Session.deleteAndTerminate
    Storage.deleteFile at goesOn ⊢
  cases fails : host.removeFails with
  | false => simp [fails, Handler.stopsProcess] at goesOn
  | true =>
      simp only [if_true]
      refine closed.of_same rfl ?_ rfl
      exact Storage.writtenBlocks_access_remove _ _

/-- Storing a block, unless the process stops. -/
theorem Advanced.storeBlock
    (samePath : writer.filepath = path)
    (holds : writer.Holds session.storage) (host : HostChoice)
    (blockNumber : Nat) (data : Bytes)
    (goesOn :
      (session.storeBlock host writer blockNumber
        data).stopsProcess = false) :
    Advanced path session.storage
      (session.storeBlock host writer blockNumber data) := by
  subst samePath
  have cases_ := holds.writeFile host data
  cases result : writer.writeFile session.storage host data with
  | mk status rest =>
      obtain ⟨next, stored⟩ := rest
      unfold Session.storeBlock at goesOn ⊢
      simp only [result] at goesOn ⊢
      have defined : status ≠ .undefined := by
        rintro rfl
        simp [Handler.stopsProcess] at goesOn
      have advances := holds.advances_writeFile result defined
      have nextHolds : next.Holds stored ∧
          next.filepath = writer.filepath ∧
            (status = .done → next.file ≠ none ∧
              stored.writtenBlocks ≠ []) := by
        rcases cases_ with
          ⟨unopened, _, exception, refused⟩ |
            ⟨_, _, _, _, written, same, holdsNow, opened, _, some_⟩
        · cases result.symm.trans refused
          refine ⟨⟨?_, ?_⟩, rfl, by simp⟩
          · simpa using holds.unopened
          · simp [unopened]
        · cases result.symm.trans written
          exact ⟨holdsNow, same, fun _ => ⟨opened, some_ defined⟩⟩
      obtain ⟨holdsNow, samePath, ready⟩ := nextHolds
      have holdsThen :
          next.Holds (session.withStorage stored).storage := holdsNow
      cases status with
      | undefined => exact absurd rfl defined
      | threw exception =>
          exact
            .of_advances advances (.abandonWrite samePath holdsThen _ _)
      | done =>
          obtain ⟨opened, some_⟩ := ready rfl
          dsimp only
          split_ifs with last
          · exact .of_advances advances (.closed samePath holdsThen rfl)
          · rw [Session.awaitDataAgain, if_pos (by decide)]
            refine ⟨advances, ?_, ?_⟩
            · intro _
              obtain ⟨position, isOpen⟩ :=
                Option.ne_none_iff_exists'.mp opened
              rw [← samePath]
              exact (holdsNow.opened position isOpen).1
            · intro writer' waits
              cases waits
              exact .of_holds holdsNow fun _ => some_

/-! ## Steps -/

/-- A step of a handler which receives, unless the process stops. -/
theorem Advanced.step
    (waits : handler.control.writer = some writer)
    (samePath : writer.filepath = path)
    (atEnd : AtEnd writer handler.session.storage)
    (stored : handler.session.storage.writtenBlocks ≠ [] →
      handler.session.storage.files.content path =
        some handler.session.storage.writtenBlocks.flatten)
    (goesOn : (handler.step event).stopsProcess = false) :
    Advanced path handler.session.storage (handler.step event) := by
  have holds : writer.Holds handler.session.storage :=
    atEnd.holds (by rwa [samePath])
  have holdsStill : ∀ {next : Session},
      handler.session.Talks next → writer.Holds next.storage := by
    intro next talks
    rw [talks.storage]
    exact holds
  have step := Handler.step_receiving waits event
  generalize handler.meaning event = meaning at step
  generalize handler.step event = reached at step goesOn ⊢
  cases step with
  | waits talks control same =>
      refine ⟨.of_quiet ?_ ?_ path, ?_, ?_⟩
      · rw [talks.storage]
      · rw [talks.storage]
      · rw [talks.storage]
        exact stored
      · intro writer' found
        cases same.symm.trans found
        rw [talks.storage]
        exact atEnd
  | refuses talks exception first =>
      rw [← talks.storage]
      exact .abandonWrite samePath (holdsStill talks) _ _
  | raises talks exception =>
      rw [← talks.storage]
      exact .abandonWrite samePath (holdsStill talks) _ _
  | interrupts talks =>
      rw [← talks.storage]
      exact .checkForSigintWRQ samePath (holdsStill talks) _ goesOn
  | stores talks blockNumber data =>
      rw [← talks.storage]
      exact .storeBlock samePath (holdsStill talks) _ _ _ goesOn

/-- A handler which writes its first block has opened its file. -/
theorem Handler.opens_of_written
    (waits : handler.control.writer = some writer)
    (samePath : writer.filepath = path)
    (atEnd : AtEnd writer handler.session.storage)
    (nothing : handler.session.storage.writtenBlocks = [])
    (written :
      (handler.step event).session.storage.writtenBlocks ≠ []) :
    handler.Opens event path := by
  have unopened : writer.file = none := by
    by_contra opened
    obtain ⟨position, isOpen⟩ := Option.ne_none_iff_exists'.mp opened
    exact (atEnd.opened position isOpen).1 nothing
  have silent : ∀ storage : Storage, storage.writtenBlocks = [] →
      (writer.close storage event.host).writtenBlocks = [] := by
    intro storage none
    rw [Writer.close_of_unopened unopened]
    exact none
  have still : ∀ {next : Session}, handler.session.Talks next →
      next.storage.writtenBlocks = [] := by
    intro next talks
    rw [talks.storage]
    exact nothing
  refine ⟨⟨writer, waits, unopened, samePath⟩, ?_⟩
  have step := Handler.step_receiving waits event
  generalize handler.meaning event = meaning at step ⊢
  generalize handler.step event = reached at step written
  cases step with
  | waits talks control same => exact absurd (still talks) written
  | refuses talks exception first =>
      exact absurd (silent _ (still talks)) written
  | raises talks exception =>
      exact absurd (silent _ (still talks)) written
  | interrupts talks =>
      rename_i next
      have removed :
          (next.checkForSigintWRQ event.host
              writer).session.storage.writtenBlocks = [] := by
        unfold Session.checkForSigintWRQ Session.deleteAndTerminate
          Storage.deleteFile
        have closed := silent next.storage (still talks)
        cases event.host.removeFails with
        | true =>
            exact (Storage.writtenBlocks_access_remove _ _).trans closed
        | false =>
            exact (Storage.writtenBlocks_access_remove _ _).trans closed
      exact absurd removed written
  | stores talks blockNumber data =>
      refine ⟨⟨data, rfl⟩, ?_⟩
      by_contra fails
      rename_i next
      have refused : event.host.openFails = true := by
        simpa using fails
      have silentNow :
          (next.storeBlock event.host writer blockNumber
              data).session.storage.writtenBlocks = [] := by
        simp only [Session.storeBlock, Writer.writeFile, unopened,
          Writer.openFile, refused, true_or, if_true]
        apply silent
        exact
          (Storage.writtenBlocks_access_openWrite _ _).trans
            (still talks)
      exact absurd silentNow written

/-- A handler without a writer leaves the files alone or ends the process. -/
theorem Handler.step_quiet
    (noWriter : handler.control.writer = none)
    (goesOn : (handler.step event).stopsProcess = false) :
    (handler.step event).session.storage.files =
        handler.session.storage.files ∧
      (handler.step event).session.storage.writtenBlocks =
          handler.session.storage.writtenBlocks ∧
        (handler.step event).control.writer = none := by
  cases serves : handler.control.reader with
  | none =>
      rw [Handler.step_of_idle serves noWriter]
      exact ⟨rfl, rfl, noWriter⟩
  | some reader =>
      have leaves :=
        (Handler.step_sending serves event).leaves fun noticed => by
          by_contra removes
          have interrupted : Interrupted handler event :=
            ⟨by simp [serves], of_decide_eq_true noticed,
              by simpa using removes⟩
          obtain ⟨_, _, isOver, _⟩ := step_of_interrupted interrupted
          simp [Handler.stopsProcess, isOver] at goesOn
      exact ⟨leaves.files, leaves.blocks, leaves.noWriter⟩

/-- One step of any handler, as the others see it. -/
structure Proceeds (path : Path) (handler : Handler) (event : Event) :
    Prop where
  advanced : Advanced path handler.session.storage (handler.step event)
  opens : handler.session.storage.writtenBlocks = [] →
    (handler.step event).session.storage.writtenBlocks ≠ [] →
      handler.Opens event path
  receives : (handler.step event).control.writer ≠ none →
    handler.control.writer ≠ none

theorem Proceeds.of_confined
    (confined : Confined (fun other => other = path) handler)
    (atEnd : ∀ writer, handler.control.writer = some writer →
      AtEnd writer handler.session.storage)
    (stored : handler.session.storage.writtenBlocks ≠ [] →
      handler.session.storage.files.content path =
        some handler.session.storage.writtenBlocks.flatten)
    (goesOn : (handler.step event).stopsProcess = false) :
    Proceeds path handler event := by
  cases waits : handler.control.writer with
  | some writer =>
      have samePath := confined.writer writer waits
      exact
        { advanced :=
            Advanced.step waits samePath (atEnd writer waits) stored goesOn
          opens :=
            Handler.opens_of_written waits samePath (atEnd writer waits)
          receives := by simp [waits] }
  | none =>
      obtain ⟨files, blocks, noWriter⟩ :=
        Handler.step_quiet waits goesOn
      refine ⟨⟨.of_quiet files blocks path, ?_, ?_⟩, ?_, ?_⟩
      · rw [files, blocks]
        exact stored
      · simp [noWriter]
      · rw [blocks]
        exact fun nothing written => absurd nothing written
      · simp [noWriter]

end IsaTftp.Server
