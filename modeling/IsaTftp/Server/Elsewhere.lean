import IsaTftp.Server.Continuing
import IsaTftp.Server.TftpServer

/-!
# What requests leave alone

While the process runs, a step of a handler changes files only where the path
of its own upload leads.  A file which exists when the server starts is never
the file of an upload: the request would have been refused.
-/

namespace IsaTftp.Server

open IsaTftp.Wire
open IsaTftp.Files
open IsaTftp.Transfer
open IsaTftp.Library.Runs

/-! ## One step of an upload -/

/-- Files have changed at most at a path, and the writer stays there. -/
structure WritesAt (path : Path) (before : FileSystem)
    (handler : Handler) : Prop where
  changes : before.ChangesAt path handler.session.storage.files
  writer : ∀ writer, handler.control.writer = some writer →
    writer.filepath = path

namespace WritesAt

variable {path : Path} {before : FileSystem} {session : Session}
variable {writer : Writer}

theorem of_changes
    {middle : FileSystem} {handler : Handler}
    (earlier : before.ChangesAt path middle)
    (later : WritesAt path middle handler) :
    WritesAt path before handler :=
  ⟨earlier.trans later.changes, later.writer⟩

theorem ended
    (changes : before.ChangesAt path session.storage.files)
    (outcome : Outcome) :
    WritesAt path before ⟨session, .ended outcome⟩ where
  changes := changes
  writer := by simp [Control.writer]

theorem raise
    (changes : before.ChangesAt path session.storage.files)
    (exception : Exception) :
    WritesAt path before (session.raise exception) where
  changes := changes
  writer := by
    simp [Session.raise, Control.writer]

theorem abandonWrite (session : Session) (host : HostChoice)
    (writer : Writer) (exception : Exception) :
    WritesAt writer.filepath session.storage.files
      (session.abandonWrite host writer exception) := by
  apply raise
  exact (writer.advances_close session.storage host).changes

theorem finishWrite (session : Session) (host : HostChoice)
    (writer : Writer) (blockNumber : Nat) :
    WritesAt writer.filepath session.storage.files
      (session.finishWrite host writer blockNumber) := by
  apply ended
  exact (writer.advances_close session.storage host).changes

theorem awaitDataAgain (session : Session) (host : HostChoice)
    (writer : Writer) (blockNumber retries : Nat) :
    WritesAt writer.filepath session.storage.files
      (session.awaitDataAgain host writer blockNumber retries) := by
  unfold Session.awaitDataAgain
  split_ifs
  · constructor
    · exact .refl _ _
    · intro other waits
      cases waits
      rfl
  · exact .abandonWrite session host writer _

theorem awaitFirstDataAgain (session : Session) (host : HostChoice)
    (options negotiated : List TftpOption) (writer : Writer)
    (retries : Nat) :
    WritesAt writer.filepath session.storage.files
      (session.awaitFirstDataAgain host options negotiated writer
        retries) := by
  unfold Session.awaitFirstDataAgain
  split_ifs
  · split
    · exact .abandonWrite session host writer _
    · constructor
      · exact .refl _ _
      · intro other waits
        cases waits
        rfl
  · exact .abandonWrite session host writer _

theorem storeBlock (session : Session) (host : HostChoice)
    (writer : Writer) (blockNumber : Nat) (data : Bytes) :
    WritesAt writer.filepath session.storage.files
      (session.storeBlock host writer blockNumber data) := by
  have changes := writer.changesAt_writeFile session.storage host data
  have samePath := writer.filepath_writeFile session.storage host data
  unfold Session.storeBlock
  cases written : writer.writeFile session.storage host data with
  | mk status rest =>
      obtain ⟨next, stored⟩ := rest
      rw [written] at changes samePath
      dsimp only at changes samePath
      rw [← samePath] at changes ⊢
      let reached := session.withStorage stored
      cases status with
      | undefined => exact .ended changes _
      | threw exception =>
          exact
            .of_changes changes
              (.abandonWrite reached host next
                (Session.writeException exception))
      | done =>
          dsimp only
          split_ifs
          · exact
              .of_changes changes
                (.finishWrite reached.timeoutReset host next blockNumber)
          · exact
              .of_changes changes
                (.awaitDataAgain reached.timeoutReset host next blockNumber
                  0)

/-- After SIGINT the file could not be removed. -/
theorem checkForSigintWRQ
    {host : HostChoice} (fails : host.removeFails = true) :
    WritesAt writer.filepath session.storage.files
      (session.checkForSigintWRQ host writer) := by
  have closed := (writer.advances_close session.storage host).changes
  unfold Session.checkForSigintWRQ Session.deleteAndTerminate
    Storage.deleteFile
  simp only [fails, if_true]
  apply raise
  exact closed

/-- The head of a loop in which a handler receives. -/
theorem again (session : Session) (host : HostChoice)
    {control : Control} (writes : control.writer = some writer)
    (retries : Nat) :
    WritesAt writer.filepath session.storage.files
      (session.again host control retries) := by
  cases control with
  | awaitFirstData options negotiated other =>
      cases writes
      exact .awaitFirstDataAgain session host options negotiated _ _
  | awaitData other blockNumber =>
      cases writes
      exact .awaitDataAgain session host _ blockNumber retries
  | _ => cases writes

end WritesAt

/-- A step of an upload writes to its file, or deletes it after SIGINT. -/
theorem Handler.step_writesAt_cases
    (handler : Handler) (event : Event) {writer : Writer}
    (writes : handler.control.writer = some writer) :
    WritesAt writer.filepath handler.session.storage.files
        (handler.step event) ∨
      (event.host.removeFails = false ∧
        handler.step event =
          handler.session.checkForSigintWRQ event.host writer) := by
  have noReader : handler.control.reader = none := by
    cases control : handler.control <;> simp [control, Control.writer,
      Control.reader] at writes ⊢
  have step := handler.step_cases event
  generalize handler.step event = reached at step ⊢
  cases step with
  | refuses sender foreign =>
      left
      constructor
      · exact .refl _ _
      · intro other waits
        have same :
            (handler.control.withForeign foreign).writer =
              handler.control.writer := by
          cases handler.control <;> rfl
        rw [same, writes] at waits
        cases waits
        rfl
  | again retries =>
      left
      exact .again handler.session event.host writes retries
  | slowerAgain retries =>
      left
      exact
        .again handler.session.increaseTimeout event.host writes retries
  | abandons other exception =>
      cases writes.symm.trans other
      left
      exact .abandonWrite handler.session event.host writer exception
  | interruptsWRQ other =>
      cases writes.symm.trans other
      cases removes : event.host.removeFails with
      | true => exact Or.inl (.checkForSigintWRQ removes)
      | false => exact Or.inr ⟨rfl, rfl⟩
  | stores other blockNumber data =>
      cases writes.symm.trans other
      left
      exact .storeBlock handler.session event.host writer blockNumber data
  | raises reads => cases noReader.symm.trans reads
  | interruptsRRQ reads => cases noReader.symm.trans reads
  | begins waits => simp [waits, Control.writer] at writes
  | acknowledged waits => simp [waits, Control.writer] at writes
  | isOver ended => simp [ended, Control.writer] at writes

/-- What an interrupted upload leaves, if its file can be removed. -/
theorem files_checkForSigintWRQ
    {host : HostChoice} (removes : host.removeFails = false)
    (session : Session) (writer : Writer) :
    (session.checkForSigintWRQ host writer).control =
        .ended .terminated ∧
      (session.checkForSigintWRQ host writer).session.storage.files =
        (writer.close session.storage host).files.setFile
          ((writer.close session.storage host).files.entry
            writer.filepath) none := by
  unfold Session.checkForSigintWRQ Session.deleteAndTerminate
    Storage.deleteFile
  simp only [removes]
  exact ⟨rfl, rfl⟩

/-- A step of an upload, unless the process stops. -/
theorem Handler.step_writesAt
    {handler : Handler} {event : Event} {writer : Writer}
    (writes : handler.control.writer = some writer)
    (goesOn : (handler.step event).stopsProcess = false) :
    WritesAt writer.filepath handler.session.storage.files
      (handler.step event) := by
  rcases handler.step_writesAt_cases event writes with
    step | ⟨removes, same⟩
  · exact step
  · have stops :=
      (files_checkForSigintWRQ removes handler.session writer).1
    simp [same, Handler.stopsProcess, stops] at goesOn

/-- A file in another place is kept, whatever an upload does. -/
theorem Handler.content_step_elsewhere
    {handler : Handler} {event : Event} {writer : Writer}
    (writes : handler.control.writer = some writer)
    {place : Path} {bytes : Bytes}
    (apart : handler.session.storage.files.canonical place ≠
      handler.session.storage.files.canonical writer.filepath)
    (stored : handler.session.storage.files.content place = some bytes) :
    (handler.step event).session.storage.files.content place =
      some bytes := by
  rcases handler.step_writesAt_cases event writes with
    step | ⟨removes, same⟩
  · rw [step.changes.content apart]
    exact stored
  · obtain ⟨_, files⟩ :=
      files_checkForSigintWRQ removes handler.session writer
    have closes :=
      (writer.advances_close handler.session.storage event.host).changes
    rw [same, files]
    apply FileSystem.content_setFile_entry_of_ne
    · rw [closes.canonical, closes.canonical]
      exact apart
    · rw [closes.content apart]
      exact stored

/-! ## The client of a handler -/

/-- A handler serves the address which its request came from. -/
theorem clientAddress_followOnIntroPacket (session : Session)
    (host : HostChoice) (introPacket : Bytes) :
    (session.followOnIntroPacket host
        introPacket).session.clientAddress =
      session.clientAddress := by
  unfold Session.followOnIntroPacket
  split
  · rfl
  · rcases session.followOnRRQ_cases host introPacket with
      ⟨reached, exception, quiet, refused⟩ |
        ⟨rrq, reached, negotiated, _, _, _, opened, answers⟩
    · rw [refused]
      exact quiet.clientAddress
    · have here := Session.Continues.refl reached
      rcases answers with ⟨exception, refused⟩ | diverged | answered
      · rw [refused]
        exact opened.clientAddress
      · rw [diverged]
        exact opened.clientAddress
      · rw [answered, ← opened.clientAddress]
        unfold Session.answerRRQ
        split_ifs
        · split
          · exact (here.raise _).clientAddress
          · exact (here.send _).clientAddress
        · exact (here.sendBlock _ 1).clientAddress
  · rcases session.followOnWRQ_cases host introPacket with
      ⟨reached, exception, quiet, refused⟩ |
        ⟨wrq, reached, negotiated, _, _, _, quiet, started⟩
    · rw [refused]
      exact quiet.clientAddress
    · rw [started, ← quiet.clientAddress]
      exact
        ((Session.Continues.refl reached).awaitFirstDataAgain _ _ _
          0).clientAddress
  · rfl

namespace TftpServer

/-! ## Turns -/

/-- Once the process has stopped, no turn does anything. -/
theorem step_of_stopped
    {server : TftpServer} (isOver : server.stopped = true)
    (turn : Turn) : server.step turn = server := by
  simp [step, isOver]

/-- A turn of a request, while the process runs. -/
theorem step_request
    {server : TftpServer} (running : server.stopped = false)
    (client : Address) (host : HostChoice) (introPacket : Bytes) :
    server.step (.request client host introPacket) =
      { server with
        files :=
          ((Session.make client server.rootDirpath
            server.files).followOnIntroPacket host
              introPacket).session.storage.files
        handlers :=
          server.handlers ++
            [(Session.make client server.rootDirpath
              server.files).followOnIntroPacket host introPacket] } := by
  simp [step, running]

/-- A turn of a handler, while the process runs. -/
theorem step_handler
    {server : TftpServer} (running : server.stopped = false)
    {index : Nat} {handler : Handler}
    (found : server.handlers[index]? = some handler) (event : Event) :
    server.step (.handler index event) =
      server.afterTurn index
        ((handler.withFiles server.files).step event) := by
  simp [step, running, found, afterTurn]

/-- There is no handler with this number. -/
theorem step_handler_of_none
    {server : TftpServer} {index : Nat}
    (missing : server.handlers[index]? = none) (event : Event) :
    server.step (.handler index event) = server := by
  simp [step, missing]

/-- What was running after a turn was running before. -/
theorem running_of_step
    {server : TftpServer} {turn : Turn}
    (running : (server.step turn).stopped = false) :
    server.stopped = false := by
  by_contra isOver
  rw [Bool.not_eq_false] at isOver
  rw [step_of_stopped isOver, isOver] at running
  cases running

/-- A handler whose turn leaves the process running goes on itself. -/
theorem goesOn_of_running
    {server : TftpServer} {index : Nat} {handler next : Handler}
    (found : server.handlers[index]? = some handler)
    (running : (server.afterTurn index next).stopped = false) :
    next.stopsProcess = false := by
  have below : index < server.handlers.length :=
    (List.getElem?_eq_some_iff.mp found).choose
  have all := List.any_eq_false.mp running
  simpa using all next (List.mem_set below next)

/-! ## Existing files -/

/-- No upload leads to a place, and what is found there stays the same. -/
structure Spares (place : Path) (node : Option Node)
    (server : TftpServer) : Prop where
  found : server.files.lookup place = node
  apart : ∀ handler ∈ server.handlers, ∀ writer,
    handler.control.writer = some writer →
      server.files.canonical writer.filepath ≠
        server.files.canonical place

variable {place : Path} {node : Option Node} {server : TftpServer}

/-- A request to write where something is found is refused. -/
theorem Spares.request
    (spares : server.Spares place node) (exists_ : node ≠ none)
    {handler : Handler} (started : Started server.files handler) :
    Spares place node
      { server with
        files := handler.session.storage.files
        handlers := server.handlers ++ [handler] } := by
  constructor
  · rw [← spares.found]
    exact congrArg (FileSystem.lookup · place) started.same
  · intro other member writer waits same
    rw [started.same] at same
    rcases List.mem_append.mp member with old | new
    · exact spares.apart other old writer waits same
    · rw [List.mem_singleton.mp new] at waits
      have missing := (started.writer writer waits).2
      rw [FileSystem.lookup, same, ← FileSystem.lookup,
        spares.found] at missing
      exact exists_ missing

/-- A handler goes on, and changes at most its own file. -/
theorem Spares.handler
    (spares : server.Spares place node) {index : Nat}
    {handler : Handler}
    (found : server.handlers[index]? = some handler) {event : Event}
    (goesOn :
      ((handler.withFiles server.files).step event).stopsProcess =
        false) :
    Spares place node
      (server.afterTurn index
        ((handler.withFiles server.files).step event)) := by
  have among : handler ∈ server.handlers :=
    List.mem_iff_getElem?.mpr ⟨index, found⟩
  cases waits : handler.control.writer with
  | none =>
      have noWriter :
          (handler.withFiles server.files).control.writer = none := waits
      obtain ⟨files, _, quiet⟩ := Handler.step_quiet noWriter goesOn
      have same :
          (server.afterTurn index
              ((handler.withFiles server.files).step event)).files =
            server.files := files
      constructor
      · rw [same]
        exact spares.found
      · rw [same]
        intro other member writer writes
        rcases mem_set_cases member with rfl | ⟨position, _, there⟩
        · rw [quiet] at writes
          cases writes
        · exact
            spares.apart other
              (List.mem_iff_getElem?.mpr ⟨position, there⟩) writer writes
  | some writer =>
      have apart := spares.apart handler among writer waits
      have writes :
          (handler.withFiles server.files).control.writer = some writer :=
        waits
      have step := Handler.step_writesAt writes goesOn
      constructor
      · rw [← spares.found]
        exact step.changes.elsewhere place apart.symm
      · intro other member next writesNow
        have canonical : ∀ path,
            (server.afterTurn index
                ((handler.withFiles server.files).step
                  event)).files.canonical path =
              server.files.canonical path :=
          step.changes.canonical
        rw [canonical, canonical]
        rcases mem_set_cases member with rfl | ⟨position, _, there⟩
        · rw [step.writer next writesNow]
          exact apart
        · exact
            spares.apart other
              (List.mem_iff_getElem?.mpr ⟨position, there⟩) next writesNow

theorem Spares.step
    (exists_ : node ≠ none)
    (spares : server.stopped = false → server.Spares place node)
    {turn : Turn} (running : (server.step turn).stopped = false) :
    (server.step turn).Spares place node := by
  have runs := running_of_step running
  have here := spares runs
  cases turn with
  | request client host introPacket =>
      rw [step_request runs]
      exact
        here.request exists_
          (.followOnIntroPacket client server.rootDirpath server.files host
            introPacket)
  | handler index event =>
      cases found : server.handlers[index]? with
      | none =>
          rw [step_handler_of_none found]
          exact here
      | some handler =>
          rw [step_handler runs found] at running ⊢
          exact here.handler found (goesOn_of_running found running)

/-- Every state of the process in which it runs spares what exists. -/
theorem Spares.run
    (rootDirpath : Path) (files : FileSystem) (turns : List Turn)
    (exists_ : files.lookup place ≠ none)
    (running :
      (run TftpServer.step ⟨rootDirpath, files, []⟩
        turns).stopped = false) :
    (run TftpServer.step ⟨rootDirpath, files, []⟩ turns).Spares place
      (files.lookup place) := by
  have initially :
      (⟨rootDirpath, files, []⟩ : TftpServer).Spares place
        (files.lookup place) :=
    ⟨rfl, by simp⟩
  exact
    run_invariant
      (fun server : TftpServer =>
        server.stopped = false →
          server.Spares place (files.lookup place))
      (fun server turn spares => Spares.step exists_ spares)
      (fun _ => initially) turns running

/--
As long as the process runs, whatever exists when it starts is found
unchanged, for any requests of any clients and any order of turns.
-/
theorem existing_files_are_kept
    (rootDirpath : Path) (files : FileSystem) (turns : List Turn)
    (path : Path) (exists_ : files.lookup path ≠ none)
    (running :
      (run TftpServer.step ⟨rootDirpath, files, []⟩
        turns).stopped = false) :
    (run TftpServer.step ⟨rootDirpath, files, []⟩ turns).files.lookup
        path =
      files.lookup path :=
  (Spares.run rootDirpath files turns exists_ running).found

/-- The two uploads of the small disk, when its file exists already. -/
theorem existing_files_are_kept_small :
    (run TftpServer.step ⟨text "r", smallDisk (some (text "old")), []⟩
        twoUploads).files.lookup (text "r/f") =
      some (.file (text "old")) :=
  existing_files_are_kept (text "r") (smallDisk (some (text "old")))
    twoUploads (text "r/f") (by decide) (by decide)

end TftpServer

end IsaTftp.Server
