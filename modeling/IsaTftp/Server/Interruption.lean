import IsaTftp.Server.Elsewhere

/-!
# SIGINT while handlers receive files

Between two receives `FollowOnWRQ` does not look at the flag; `Receive` looks
at it before it blocks, and a signal which arrives while the thread is blocked
makes `recvfrom` fail.  Meanwhile `TftpServer::run` leaves its loop and sends
SIGUSR1 to every thread; as nothing handles this signal, it ends the process.
-/

namespace IsaTftp.Server

open IsaTftp.Wire
open IsaTftp.Files
open IsaTftp.Transfer
open IsaTftp.Library.Runs

/-! ## The process -/

/-- Its function has not ended, even if it looks at nothing any more. -/
def Handler.isAlive (handler : Handler) : Bool :=
  match handler.control with
  | .ended .diverged => true
  | .ended _ => false
  | _ => true

/-- How `TftpServer::run` ends. -/
inductive Ending where
  | returned
  /-- by SIGUSR1 -/
  | killed
deriving DecidableEq, Repr

/--
The end of `TftpServer::run`, behind the loop: a thread which is alive takes
the process with it; otherwise all threads are joined.
-/
def TftpServer.finish (server : TftpServer) : Ending :=
  if server.handlers.any Handler.isAlive then .killed else .returned

/-- The server behind SIGINT. -/
structure Process where
  server : TftpServer
  ending : Option Ending := none

/-- What happens next behind SIGINT: `main` is the thread of `run`. -/
inductive After where
  | turn (turn : Turn)
  | main

namespace Process

/-- The process has ended. -/
def isOver (process : Process) : Bool :=
  process.ending.isSome || process.server.stopped

/-- One turn behind SIGINT. -/
def step (process : Process) (after : After) : Process :=
  if process.isOver then process
  else
    match after with
    | .turn turn => { process with server := process.server.step turn }
    | .main => { process with ending := some process.server.finish }

end Process

/-! ## What ends the process -/

/-- The flag is seen and the file removed, or a write is out of bounds. -/
def Handler.EndsProcess (handler : Handler) (event : Event) : Prop :=
  ((handler.control.reader ≠ none ∨ handler.control.writer ≠ none) ∧
    event.reception = .sigint ∧ event.host.removeFails = false) ∨
    ∃ writer data, handler.control.writer = some writer ∧
      handler.meaning event = .block data ∧
        (writer.writeFile handler.session.storage event.host data).1 =
          .undefined

theorem Session.meaning_eq_interrupts_iff (session : Session)
    (retries foreign : Nat) (classify : Bytes → Except Exception DataReply)
    (reception : Reception) :
    session.meaning retries foreign classify reception = .interrupts ↔
      reception = .sigint := by
  have again : ∀ retries, Meaning.again retries ≠ .interrupts := by
    intro retries
    unfold Meaning.again
    split_ifs <;> simp
  rw [← session.recievePacketFromClient_sigint foreign reception]
  unfold meaning
  cases (session.recievePacketFromClient foreign reception).2 with
  | pending => simp
  | threw exception => cases exception <;> simp [again]
  | delivered packet =>
      dsimp only
      cases classify packet with
      | error => simp
      | ok reply => cases reply <;> simp [again]

variable {handler : Handler} {writer : Writer} {event : Event}

theorem Handler.meaning_eq_interrupts_iff
    (receives : handler.control.writer = some writer) :
    handler.meaning event = .interrupts ↔ event.reception = .sigint := by
  obtain ⟨session, control⟩ := handler
  cases control with
  | awaitFirstData =>
      exact session.meaning_eq_interrupts_iff _ _ _ _
  | awaitData =>
      exact session.meaning_eq_interrupts_iff _ _ _ _
  | awaitOackAck => cases receives
  | awaitAck => cases receives
  | ended => cases receives

theorem stopsProcess_storeBlock_iff (session : Session)
    (host : HostChoice) (writer : Writer) (blockNumber : Nat)
    (data : Bytes) :
    (session.storeBlock host writer blockNumber data).stopsProcess =
        true ↔
      (writer.writeFile session.storage host data).1 = .undefined := by
  unfold Session.storeBlock
  cases writer.writeFile session.storage host data with
  | mk status rest =>
      obtain ⟨next, stored⟩ := rest
      cases status with
      | undefined => simp [Handler.stopsProcess]
      | threw exception =>
          simp [Handler.stopsProcess, Session.abandonWrite, Session.raise]
      | done =>
          dsimp only
          split_ifs
          · simp [Handler.stopsProcess, Session.finishWrite]
          · simp [Handler.stopsProcess, Session.awaitDataAgain, maxRetries]

theorem stopsProcess_deleteAndTerminate_iff (session : Session)
    (host : HostChoice) (path : Path) :
    (session.deleteAndTerminate host path).stopsProcess = true ↔
      host.removeFails = false := by
  unfold Session.deleteAndTerminate Storage.deleteFile
  cases host.removeFails with
  | true => simp [Handler.stopsProcess, Session.raise]
  | false => simp [Handler.stopsProcess]

theorem not_stopsProcess_of_writer
    {control : Control} (receives : control.writer = some writer)
    (session : Session) :
    Handler.stopsProcess ⟨session, control⟩ = false := by
  cases control with
  | ended => cases receives
  | _ => rfl

theorem not_stopsProcess_of_reader
    {control : Control} {reader : Reader}
    (reads : control.reader = some reader) (session : Session) :
    Handler.stopsProcess ⟨session, control⟩ = false := by
  cases control with
  | ended => cases reads
  | _ => rfl

theorem stopsProcess_sendBlock (session : Session) (host : HostChoice)
    (reader : Reader) (blockNumber : Nat) :
    (session.sendBlock host reader blockNumber).stopsProcess = false := by
  unfold Session.sendBlock
  split
  · simp [Handler.stopsProcess, Session.raise]
  · simp [Handler.stopsProcess]

theorem Handler.stopsProcess_step_of_writer
    (receives : handler.control.writer = some writer) :
    (handler.step event).stopsProcess = true ↔
      (event.reception = .sigint ∧ event.host.removeFails = false) ∨
        ∃ data, handler.meaning event = .block data ∧
          (writer.writeFile handler.session.storage event.host data).1 =
            .undefined := by
  have noticed :
      handler.meaning event = .interrupts ↔ event.reception = .sigint :=
    handler.meaning_eq_interrupts_iff receives
  have step := handler.step_receiving receives event
  rw [← noticed]
  generalize handler.meaning event = meaning at step ⊢
  generalize handler.step event = reached at step ⊢
  cases step with
  | waits talks control same =>
      simp [not_stopsProcess_of_writer same]
  | refuses talks exception first =>
      simp [Handler.stopsProcess, Session.abandonWrite, Session.raise]
  | raises talks exception =>
      simp [Handler.stopsProcess, Session.abandonWrite, Session.raise]
  | interrupts talks =>
      unfold Session.checkForSigintWRQ
      simp [stopsProcess_deleteAndTerminate_iff]
  | stores talks blockNumber data =>
      rw [stopsProcess_storeBlock_iff, talks.storage]
      simp

theorem Handler.stopsProcess_step_of_reader
    {reader : Reader} (reads : handler.control.reader = some reader) :
    (handler.step event).stopsProcess = true ↔
      event.reception = .sigint ∧ event.host.removeFails = false := by
  have step := handler.step_sending reads event
  have decided :
      decide (event.reception = .sigint) = true ↔
        event.reception = .sigint :=
    decide_eq_true_iff
  rw [← decided]
  generalize decide (event.reception = .sigint) = noticed at step ⊢
  generalize handler.step event = reached at step ⊢
  cases step with
  | waits talks control same calm =>
      simp [not_stopsProcess_of_reader same, calm]
  | raises talks exception calm =>
      simp [Handler.stopsProcess, Session.raise, calm]
  | returns talks calm => simp [Handler.stopsProcess, calm]
  | interrupts talks noticed =>
      unfold Session.checkForSigintRRQ
      simp [stopsProcess_deleteAndTerminate_iff, noticed]
  | sends talks calm => simp [stopsProcess_sendBlock, calm]

/-- Exactly these steps end the process. -/
theorem Handler.stopsProcess_step_iff
    (running : handler.stopsProcess = false) :
    (handler.step event).stopsProcess = true ↔
      handler.EndsProcess event := by
  unfold EndsProcess
  cases receives : handler.control.writer with
  | some writer =>
      rw [stopsProcess_step_of_writer receives]
      simp
  | none =>
      cases reads : handler.control.reader with
      | some reader =>
          rw [stopsProcess_step_of_reader reads]
          simp
      | none =>
          rw [Handler.step_of_idle reads receives, running]
          simp

/-- A request never ends the process in its first turn. -/
theorem not_stopsProcess_followOnIntroPacket (session : Session)
    (host : HostChoice) (introPacket : Bytes) :
    (session.followOnIntroPacket host introPacket).stopsProcess =
      false := by
  have raised : ∀ (reached : Session) exception,
      (reached.raise exception).stopsProcess = false :=
    fun _ _ => rfl
  unfold Session.followOnIntroPacket
  split
  · rfl
  · rcases session.followOnRRQ_cases host introPacket with
      ⟨reached, exception, _, refused⟩ |
        ⟨rrq, reached, negotiated, _, _, _, _, answers⟩
    · rw [refused]
      exact raised reached exception
    · rcases answers with ⟨exception, refused⟩ | diverged | answered
      · rw [refused]
        exact raised reached exception
      · rw [diverged]
        rfl
      · rw [answered]
        unfold Session.answerRRQ
        split_ifs
        · split
          · rfl
          · rfl
        · exact stopsProcess_sendBlock reached host _ 1
  · rcases session.followOnWRQ_cases host introPacket with
      ⟨reached, exception, _, refused⟩ |
        ⟨wrq, reached, negotiated, _, _, _, _, started⟩
    · rw [refused]
      exact raised reached exception
    · rw [started]
      unfold Session.awaitFirstDataAgain
      split_ifs
      · split
        · exact raised _ _
        · rfl
      · exact raised _ _
  · rfl

/-- `Receive` sees the flag before it blocks. -/
theorem step_of_sigint
    (receives : handler.control.writer = some writer)
    (before : event.reception = .sigint) :
    handler.step event =
      handler.session.checkForSigintWRQ event.host writer := by
  obtain ⟨session, control⟩ := handler
  cases control with
  | awaitFirstData options negotiated waiting retries foreign =>
      cases receives
      simp only [Handler.step, Session.stepAwaitFirstData, before,
        Session.recievePacketFromClient, recievePacketFrom, receive]
  | awaitData waiting blockNumber retries foreign =>
      cases receives
      simp only [Handler.step, Session.stepAwaitData, before,
        Session.recievePacketFromClient, recievePacketFrom, receive]
  | _ => cases receives

/-- A write which is out of bounds is no end by `CheckForSigintWRQ`. -/
theorem step_of_undefined
    (receives : handler.control.writer = some writer) {data : Bytes}
    (meaning : handler.meaning event = .block data)
    (undefined :
      (writer.writeFile handler.session.storage event.host data).1 =
        .undefined) :
    (handler.step event).control = .ended .undefined := by
  have step := handler.step_receiving receives event
  rw [meaning] at step
  generalize handler.step event = reached at step ⊢
  cases step with
  | stores talks blockNumber data =>
      rename_i next
      rw [← talks.storage] at undefined
      unfold Session.storeBlock
      generalize writer.writeFile next.storage event.host data = written
        at undefined ⊢
      obtain ⟨status, rest⟩ := written
      cases undefined
      rfl

/-! ## Cleaning up -/

/-- `CheckForSigintWRQ` cleans up if the file can be removed. -/
theorem removed_checkForSigintWRQ
    {host : HostChoice} (removes : host.removeFails = false)
    (session : Session) (writer : Writer) :
    let reached := session.checkForSigintWRQ host writer
    reached.control = .ended .terminated ∧
      reached.session.clientAddress = session.clientAddress ∧
        reached.sent =
            session.udp.sent ++
              [(session.clientAddress, Session.interrupted.makeRaw)] ∧
          reached.session.storage.files.lookup writer.filepath =
            none := by
  unfold Session.checkForSigintWRQ Session.deleteAndTerminate
    Storage.deleteFile
  simp only [removes]
  exact ⟨rfl, rfl, rfl, by simp⟩

namespace TftpServer

/-- A handler receives a file. -/
def Receives (server : TftpServer) (index : Nat) (writer : Writer) :
    Prop :=
  ∃ handler, server.handlers[index]? = some handler ∧
    handler.control.writer = some writer

/-- A handler has ended the process, behind an ERROR packet, without a file. -/
structure CleanedUp (path : Path) (index : Nat) (server : TftpServer) :
    Prop where
  reported : ∃ handler earlier, server.handlers[index]? = some handler ∧
    handler.control = .ended .terminated ∧
      handler.sent =
        earlier ++
          [(handler.session.clientAddress, Session.interrupted.makeRaw)]
  removed : server.files.lookup path = none

/-- While the process runs, no handler has cleaned up. -/
theorem not_cleanedUp_of_running
    {server : TftpServer} (running : server.stopped = false)
    (path : Path) (index : Nat) : ¬ server.CleanedUp path index := by
  rintro ⟨⟨handler, _, found, ended, _⟩, _⟩
  have all := List.any_eq_false.mp running handler
    (List.mem_iff_getElem?.mpr ⟨index, found⟩)
  simp [Handler.stopsProcess, ended] at all

/-- What was a receiver when the signal came has not become a sender. -/
def Follows (struck server : TftpServer) : Prop :=
  ∀ index writer, struck.Receives index writer →
    ∃ handler, server.handlers[index]? = some handler ∧
      handler.control.reader = none ∧
        ∀ next, handler.control.writer = some next →
          next.filepath = writer.filepath

theorem Follows.refl (server : TftpServer) : Follows server server := by
  rintro index writer ⟨handler, found, receives⟩
  refine ⟨handler, found, ?_, ?_⟩
  · cases control : handler.control with
    | awaitOackAck => simp [control, Control.writer] at receives
    | awaitAck => simp [control, Control.writer] at receives
    | _ => rfl
  · intro next same
    cases receives.symm.trans same
    rfl

end TftpServer

namespace Process

/-- The process ends only after every receiver has cleaned up. -/
def CleansUp (struck : TftpServer) (process : Process) : Prop :=
  process.isOver = true → ∀ index writer, struck.Receives index writer →
    process.server.CleanedUp writer.filepath index

/--
The turn leaves the receivers alone: `TftpServer::run` goes on only where
nobody has received, and a handler ends the process only by cleaning up, and
as the only receiver.
-/
def Spares (struck : TftpServer) (process : Process) : After → Prop
  | .main => ∀ index writer, ¬ struck.Receives index writer
  | .turn (.request _ _ _) => True
  | .turn (.handler index event) =>
      ∀ handler, process.server.handlers[index]? = some handler →
        (handler.withFiles process.server.files).EndsProcess event →
          ∀ other writer, struck.Receives other writer →
            other = index ∧ handler.control.writer ≠ none ∧
              event.reception = .sigint ∧ event.host.removeFails = false

variable {struck server : TftpServer} {process : Process}

/-- A handler which receives never becomes one which sends. -/
theorem Handler.reader_step
    {handler : Handler} (noReader : handler.control.reader = none)
    (event : Event) : (handler.step event).control.reader = none := by
  cases receives : handler.control.writer with
  | none =>
      rw [Handler.step_of_idle noReader receives]
      exact noReader
  | some writer =>
      have step := handler.step_receiving receives event
      generalize handler.meaning event = meaning at step
      generalize handler.step event = reached at step ⊢
      cases step with
      | waits talks control same =>
          cases control with
          | awaitFirstData => rfl
          | awaitData => rfl
          | awaitOackAck => cases same
          | awaitAck => cases same
          | ended => cases same
      | refuses talks exception first => rfl
      | raises talks exception => rfl
      | interrupts talks =>
          unfold Session.checkForSigintWRQ Session.deleteAndTerminate
          dsimp only
          split <;> rfl
      | stores talks blockNumber data =>
          unfold Session.storeBlock
          split
          · rfl
          · rfl
          · dsimp only
            split_ifs
            · rfl
            · unfold Session.awaitDataAgain
              split_ifs <;> rfl

/-- The server runs on, and its receivers are followed. -/
theorem Follows.step
    (follows : TftpServer.Follows struck server) {turn : Turn}
    (running : (server.step turn).stopped = false) :
    TftpServer.Follows struck (server.step turn) := by
  have runs := TftpServer.running_of_step running
  intro index writer receives
  obtain ⟨handler, found, noReader, samePath⟩ :=
    follows index writer receives
  have below : index < server.handlers.length :=
    (List.getElem?_eq_some_iff.mp found).choose
  cases turn with
  | request client host introPacket =>
      rw [TftpServer.step_request runs]
      refine ⟨handler, ?_, noReader, samePath⟩
      rw [List.getElem?_append_left below]
      exact found
  | handler other event =>
      cases there : server.handlers[other]? with
      | none =>
          rw [TftpServer.step_handler_of_none there]
          exact ⟨handler, found, noReader, samePath⟩
      | some mover =>
          rw [TftpServer.step_handler runs there] at running ⊢
          by_cases same : other = index
          · subst same
            cases there.symm.trans found
            have goesOn := TftpServer.goesOn_of_running found running
            have quiet :
                (handler.withFiles server.files).control.reader = none :=
              noReader
            refine
              ⟨(handler.withFiles server.files).step event, ?_,
                Handler.reader_step quiet event, ?_⟩
            · simp [TftpServer.afterTurn, List.getElem?_set_self below]
            · intro next waits
              cases receiving : handler.control.writer with
              | none =>
                  rw [Handler.step_of_idle quiet receiving] at waits
                  cases receiving.symm.trans waits
              | some current =>
                  have writes :
                      (handler.withFiles server.files).control.writer =
                        some current := receiving
                  rw [← samePath current receiving]
                  exact
                    (Handler.step_writesAt writes goesOn).writer next waits
          · refine ⟨handler, ?_, noReader, samePath⟩
            simp only [TftpServer.afterTurn]
            rw [List.getElem?_set_ne same]
            exact found

/-- A handler ends the process, with every receiver cleaned up or not. -/
theorem cleansUp_afterTurn_iff
    (follows : TftpServer.Follows struck server)
    (running : server.stopped = false) {index : Nat} {handler : Handler}
    (found : server.handlers[index]? = some handler) {event : Event}
    (ends : (handler.withFiles server.files).EndsProcess event) :
    (∀ other writer, struck.Receives other writer →
      (server.afterTurn index
        ((handler.withFiles server.files).step event)).CleanedUp
          writer.filepath other) ↔
      ∀ other writer, struck.Receives other writer →
        other = index ∧ handler.control.writer ≠ none ∧
          event.reception = .sigint ∧ event.host.removeFails = false := by
  have below : index < server.handlers.length :=
    (List.getElem?_eq_some_iff.mp found).choose
  let next := (handler.withFiles server.files).step event
  have here : (server.afterTurn index next).handlers[index]? =
      some next := by
    simp [TftpServer.afterTurn, List.getElem?_set_self below]
  constructor
  · intro cleaned other writer receives
    obtain ⟨⟨mine, _, there, ended, _⟩, _⟩ := cleaned other writer receives
    obtain ⟨old, was, noReader, _⟩ := follows other writer receives
    rcases TftpServer.getElem?_set_cases there with
      ⟨rfl, rfl⟩ | ⟨_, stays⟩
    · cases found.symm.trans was
      rcases ends with ⟨waits, noticed, removes⟩ |
        ⟨current, data, waits, meaning, undefined⟩
      · have quiet :
            (handler.withFiles server.files).control.reader = none :=
          noReader
        exact
          ⟨rfl, waits.resolve_left (absurd quiet), noticed, removes⟩
      · have stopped := step_of_undefined waits meaning undefined
        cases stopped.symm.trans ended
    · have all := List.any_eq_false.mp running mine
        (List.mem_iff_getElem?.mpr ⟨other, stays⟩)
      simp [Handler.stopsProcess, ended] at all
  · intro alone other writer receives
    obtain ⟨rfl, waits, noticed, removes⟩ := alone other writer receives
    obtain ⟨mine, was, _, samePath⟩ := follows other writer receives
    cases found.symm.trans was
    obtain ⟨current, waits⟩ := Option.ne_none_iff_exists'.mp waits
    have here' : (handler.withFiles server.files).control.writer =
        some current := waits
    obtain ⟨ended, address, sent, gone⟩ :=
      removed_checkForSigintWRQ removes
        (handler.withFiles server.files).session current
    rw [← step_of_sigint here' noticed] at ended address sent gone
    rw [← samePath current waits]
    refine
      ⟨⟨next, (handler.withFiles server.files).session.udp.sent, here,
        ended, ?_⟩, gone⟩
    rw [address]
    exact sent

/-- Once the process is over, nothing happens any more. -/
theorem step_of_isOver (isOver : process.isOver = true) (after : After) :
    process.step after = process := by
  simp [step, isOver]

/-- A turn of a handler stops the server exactly if the handler does. -/
theorem stopped_afterTurn
    (serves : server.stopped = false) {index : Nat} {handler : Handler}
    (found : server.handlers[index]? = some handler) (next : Handler) :
    (server.afterTurn index next).stopped = next.stopsProcess := by
  cases stops : next.stopsProcess with
  | true =>
      have below : index < server.handlers.length :=
        (List.getElem?_eq_some_iff.mp found).choose
      exact List.any_eq_true.mpr ⟨next, List.mem_set below next, stops⟩
  | false =>
      apply List.any_eq_false.mpr
      intro other member
      rcases TftpServer.mem_set_cases member with rfl | ⟨position, _, there⟩
      · simp [stops]
      · exact
          List.any_eq_false.mp serves other
            (List.mem_iff_getElem?.mpr ⟨position, there⟩)

theorem follows_step
    (running : process.isOver = false)
    (follows : TftpServer.Follows struck process.server) {after : After}
    (goesOn : (process.step after).isOver = false) :
    TftpServer.Follows struck (process.step after).server := by
  cases after with
  | main =>
      have ended : process.step .main =
          { process with ending := some process.server.finish } := by
        simp [step, running]
      rw [ended] at goesOn
      cases goesOn
  | turn turn =>
      have same : process.step (.turn turn) =
          ⟨process.server.step turn, process.ending⟩ := by
        simp [step, running]
      rw [same] at goesOn ⊢
      apply Follows.step follows
      simp only [isOver, Bool.or_eq_false_iff] at goesOn
      exact goesOn.2

/-- A request does not end the process. -/
theorem not_isOver_request
    {server : TftpServer} (serves : server.stopped = false)
    (client : Address) (host : HostChoice) (introPacket : Bytes) :
    isOver ⟨server.step (.request client host introPacket), none⟩ =
      false := by
  have starts :=
    not_stopsProcess_followOnIntroPacket
      (Session.make client server.rootDirpath server.files) host introPacket
  have others : ∀ handler ∈ server.handlers,
      handler.stopsProcess = false := by
    simpa [TftpServer.stopped] using serves
  rw [TftpServer.step_request serves, Bool.eq_false_iff]
  intro ended
  simp [isOver, TftpServer.stopped, starts] at ended
  obtain ⟨handler, member, stops⟩ := ended
  rw [others handler member] at stops
  cases stops

/-- The turn of a handler ends the process exactly if its step does. -/
theorem isOver_handler_iff
    {server : TftpServer} (serves : server.stopped = false)
    {index : Nat} {handler : Handler}
    (found : server.handlers[index]? = some handler) (event : Event) :
    isOver ⟨server.step (.handler index event), none⟩ = true ↔
      (handler.withFiles server.files).EndsProcess event := by
  have alive : handler.stopsProcess = false := by
    simpa using List.any_eq_false.mp serves handler
      (List.mem_iff_getElem?.mpr ⟨index, found⟩)
  have stops :
      ((handler.withFiles server.files).step event).stopsProcess = true ↔
        (handler.withFiles server.files).EndsProcess event :=
    Handler.stopsProcess_step_iff alive
  have sameEnd : isOver
      ⟨server.afterTurn index
        ((handler.withFiles server.files).step event), none⟩ =
      ((handler.withFiles server.files).step event).stopsProcess :=
    stopped_afterTurn serves found _
  rw [TftpServer.step_handler serves found, sameEnd, stops]

/-- One turn of a running process, of whatever kind. -/
theorem cleansUp_step_iff
    (running : process.isOver = false)
    (follows : TftpServer.Follows struck process.server) (after : After) :
    CleansUp struck (process.step after) ↔ Spares struck process after := by
  obtain ⟨server, ending⟩ := process
  obtain ⟨waiting, serves⟩ : ending = none ∧ server.stopped = false := by
    simpa [isOver] using running
  subst waiting
  cases after with
  | main =>
      have ended : (step ⟨server, none⟩ .main).isOver = true := by
        simp [step, isOver, serves]
      constructor
      · intro cleans index writer receives
        have cleaned := cleans ended index writer receives
        simp only [step, isOver, serves] at cleaned
        exact TftpServer.not_cleanedUp_of_running serves _ _ cleaned
      · intro nobody _ index writer receives
        exact absurd receives (nobody index writer)
  | turn turn =>
      have goesOn :
          step ⟨server, none⟩ (.turn turn) = ⟨server.step turn, none⟩ := by
        simp [step, isOver, serves]
      rw [goesOn]
      cases turn with
      | request client host introPacket =>
          refine iff_of_true ?_ trivial
          intro ended
          rw [not_isOver_request serves] at ended
          cases ended
      | handler index event =>
          cases found : server.handlers[index]? with
          | none =>
              rw [TftpServer.step_handler_of_none found]
              constructor
              · intro _ handler there
                cases found.symm.trans there
              · intro _ ended
                rw [isOver, serves] at ended
                cases ended
          | some handler =>
              have isEnd := isOver_handler_iff serves found event
              constructor
              · intro cleans other there ends
                cases found.symm.trans there
                have cleaned := cleans (isEnd.mpr ends)
                rw [TftpServer.step_handler serves found] at cleaned
                exact
                  (cleansUp_afterTurn_iff follows serves found ends).mp
                    cleaned
              · intro spares ended
                have ends := isEnd.mp ended
                rw [TftpServer.step_handler serves found]
                exact
                  (cleansUp_afterTurn_iff follows serves found ends).mpr
                    (spares handler found ends)

/-- Every run of the process behind SIGINT. -/
theorem cleansUp_run_iff
    (running : process.isOver = false)
    (follows : TftpServer.Follows struck process.server)
    (turns : List After) :
    CleansUp struck (run step process turns) ↔
      ∀ taken ∈ stepsOf step process turns,
        taken.1.isOver = false → Spares struck taken.1 taken.2 := by
  induction turns generalizing process with
  | nil =>
      refine iff_of_true ?_ (by simp)
      intro ended
      rw [run_nil, running] at ended
      cases ended
  | cons after turns induction =>
      rw [run_cons, stepsOf_cons, List.forall_mem_cons]
      have now := cleansUp_step_iff running follows after
      cases ended : (process.step after).isOver with
      | true =>
          have halted : ∀ taken ∈ stepsOf step (process.step after) turns,
              taken.1.isOver = true := by
            intro taken member
            refine
              stepsOf_invariant (fun other : Process => other.isOver = true)
                ?_ ended member
            intro other event isOver
            rw [step_of_isOver isOver]
            exact isOver
          rw [run_of_halted (step_of_isOver ended), now]
          constructor
          · intro spares
            refine ⟨fun _ => spares, ?_⟩
            intro taken member runs
            rw [halted taken member] at runs
            cases runs
          · rintro ⟨spares, _⟩
            exact spares running
      | false =>
          have vacuous : CleansUp struck (process.step after) := by
            intro isOver
            rw [ended] at isOver
            cases isOver
          rw [induction ended (follows_step running follows ended)]
          exact
            ⟨fun later => ⟨fun _ => now.mp vacuous, later⟩, And.right⟩

end Process

end IsaTftp.Server
