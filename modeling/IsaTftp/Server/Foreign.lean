import IsaTftp.Library.Insertions
import IsaTftp.Server.Continuing

/-!
# Foreign datagrams and a running handler

What a handler does depends neither on what it has sent before nor, while the
receiving helper has not used up its budget, on the number of foreign
datagrams which it has dropped.  So inserting such datagrams changes a run in
nothing but the replies to their senders.
-/

namespace IsaTftp.Server

open IsaTftp.Wire
open IsaTftp.Files
open IsaTftp.Transfer
open IsaTftp.Library.Runs

/-! ## What was sent before -/

/-- The same session, but other datagrams were sent before. -/
@[simps]
def Session.after (session : Session)
    (earlier : List (Address × Bytes)) : Session :=
  { session with udp := session.udp.after earlier }

/-- The same handler, but other datagrams were sent before. -/
@[simps]
def Handler.after (handler : Handler)
    (earlier : List (Address × Bytes)) : Handler :=
  ⟨handler.session.after earlier, handler.control⟩

section After

variable (session : Session) (earlier : List (Address × Bytes))

@[simp]
theorem send_after (data : Bytes) :
    (session.after earlier).send data =
      (session.send data).after earlier := by
  simp [Session.send, Session.after]

@[simp]
theorem increaseTimeout_after :
    (session.after earlier).increaseTimeout =
      session.increaseTimeout.after earlier :=
  rfl

@[simp]
theorem timeoutReset_after :
    (session.after earlier).timeoutReset =
      session.timeoutReset.after earlier :=
  rfl

@[simp]
theorem withStorage_after (storage : Storage) :
    (session.after earlier).withStorage storage =
      (session.withStorage storage).after earlier :=
  rfl

@[simp]
theorem mk_after (control : Control) :
    (⟨session.after earlier, control⟩ : Handler) =
      Handler.after ⟨session, control⟩ earlier :=
  rfl

@[simp]
theorem raise_after (exception : Exception) :
    (session.after earlier).raise exception =
      (session.raise exception).after earlier := by
  simp [Session.raise, Session.after, Handler.after,
    reportException_after]

@[simp]
theorem recievePacketFromClient_after (foreign : Nat)
    (reception : Reception) :
    (session.after earlier).recievePacketFromClient foreign reception =
      ((session.recievePacketFromClient foreign reception).1.after earlier,
        (session.recievePacketFromClient foreign reception).2) := by
  simp [Session.recievePacketFromClient, Session.after,
    recievePacketFrom_after]

@[simp]
theorem deleteAndTerminate_after (host : HostChoice) (path : Path) :
    (session.after earlier).deleteAndTerminate host path =
      (session.deleteAndTerminate host path).after earlier := by
  unfold Session.deleteAndTerminate
  rw [Session.after_storage]
  split
  · rfl
  · simp

@[simp]
theorem sendBlock_after (host : HostChoice) (reader : Reader)
    (blockNumber : Nat) :
    (session.after earlier).sendBlock host reader blockNumber =
      (session.sendBlock host reader blockNumber).after earlier := by
  unfold Session.sendBlock
  rw [Session.after_storage, Session.after_blksize]
  split
  · simp
  · simp

@[simp]
theorem afterAck_after (host : HostChoice) (sending : Sending) :
    (session.after earlier).afterAck host sending =
      (session.afterAck host sending).after earlier := by
  unfold Session.afterAck
  split_ifs
  · rfl
  · simp

@[simp]
theorem awaitAckAgain_after (sending : Sending) (retries : Nat) :
    (session.after earlier).awaitAckAgain sending retries =
      (session.awaitAckAgain sending retries).after earlier := by
  unfold Session.awaitAckAgain
  split_ifs
  · rfl
  · rfl
  · simp

@[simp]
theorem awaitOackAckAgain_after (reader : Reader) (retries : Nat) :
    (session.after earlier).awaitOackAckAgain reader retries =
      (session.awaitOackAckAgain reader retries).after earlier := by
  unfold Session.awaitOackAckAgain
  split_ifs
  · rfl
  · simp

@[simp]
theorem checkForSigintRRQ_after (host : HostChoice) (reader : Reader) :
    (session.after earlier).checkForSigintRRQ host reader =
      (session.checkForSigintRRQ host reader).after earlier := by
  simp [Session.checkForSigintRRQ]

theorem stepAwaitAck_after (sending : Sending) (retries foreign : Nat)
    (event : Event) :
    (session.after earlier).stepAwaitAck sending retries foreign event =
      (session.stepAwaitAck sending retries foreign event).after
        earlier := by
  unfold Session.stepAwaitAck
  rw [recievePacketFromClient_after]
  cases session.recievePacketFromClient foreign event.reception with
  | mk next delivery =>
      cases delivery with
      | pending foreign => rfl
      | threw exception => cases exception <;> simp
      | delivered packet =>
          dsimp only
          split <;> simp

theorem stepAwaitOackAck_after (reader : Reader) (retries foreign : Nat)
    (event : Event) :
    (session.after earlier).stepAwaitOackAck reader retries foreign event =
      (session.stepAwaitOackAck reader retries foreign event).after
        earlier := by
  unfold Session.stepAwaitOackAck
  rw [recievePacketFromClient_after]
  cases session.recievePacketFromClient foreign event.reception with
  | mk next delivery =>
      cases delivery with
      | pending foreign => rfl
      | threw exception => cases exception <;> simp
      | delivered packet =>
          dsimp only
          split <;> simp

@[simp]
theorem abandonWrite_after (host : HostChoice) (writer : Writer)
    (exception : Exception) :
    (session.after earlier).abandonWrite host writer exception =
      (session.abandonWrite host writer exception).after earlier := by
  simp [Session.abandonWrite]

@[simp]
theorem checkForSigintWRQ_after (host : HostChoice) (writer : Writer) :
    (session.after earlier).checkForSigintWRQ host writer =
      (session.checkForSigintWRQ host writer).after earlier := by
  simp [Session.checkForSigintWRQ]

@[simp]
theorem awaitDataAgain_after (host : HostChoice) (writer : Writer)
    (blockNumber retries : Nat) :
    (session.after earlier).awaitDataAgain host writer blockNumber
        retries =
      (session.awaitDataAgain host writer blockNumber retries).after
        earlier := by
  unfold Session.awaitDataAgain
  split_ifs <;> simp

@[simp]
theorem finishWrite_after (host : HostChoice) (writer : Writer)
    (blockNumber : Nat) :
    (session.after earlier).finishWrite host writer blockNumber =
      (session.finishWrite host writer blockNumber).after earlier := by
  simp [Session.finishWrite]

@[simp]
theorem awaitFirstDataAgain_after (host : HostChoice)
    (options negotiated : List TftpOption) (writer : Writer)
    (retries : Nat) :
    (session.after earlier).awaitFirstDataAgain host options negotiated
        writer retries =
      (session.awaitFirstDataAgain host options negotiated writer
        retries).after earlier := by
  unfold Session.awaitFirstDataAgain
  split_ifs
  · split <;> simp
  · simp

@[simp]
theorem storeBlock_after (host : HostChoice) (writer : Writer)
    (blockNumber : Nat) (data : Bytes) :
    (session.after earlier).storeBlock host writer blockNumber data =
      (session.storeBlock host writer blockNumber data).after earlier := by
  unfold Session.storeBlock
  rw [Session.after_storage]
  split
  · rfl
  · simp
  · simp only [withStorage_after, timeoutReset_after, Session.after_blksize]
    split_ifs <;> simp

theorem stepAwaitData_after (writer : Writer)
    (blockNumber retries foreign : Nat) (event : Event) :
    (session.after earlier).stepAwaitData writer blockNumber retries
        foreign event =
      (session.stepAwaitData writer blockNumber retries foreign
        event).after earlier := by
  unfold Session.stepAwaitData
  rw [recievePacketFromClient_after]
  cases session.recievePacketFromClient foreign event.reception with
  | mk next delivery =>
      cases delivery with
      | pending foreign => rfl
      | threw exception => cases exception <;> simp
      | delivered packet =>
          dsimp only
          rw [Session.after_blksize]
          split <;> simp

theorem stepAwaitFirstData_after (options negotiated : List TftpOption)
    (writer : Writer) (retries foreign : Nat) (event : Event) :
    (session.after earlier).stepAwaitFirstData options negotiated writer
        retries foreign event =
      (session.stepAwaitFirstData options negotiated writer retries foreign
        event).after earlier := by
  unfold Session.stepAwaitFirstData
  rw [recievePacketFromClient_after]
  cases session.recievePacketFromClient foreign event.reception with
  | mk next delivery =>
      cases delivery with
      | pending foreign => rfl
      | threw exception => cases exception <;> simp
      | delivered packet =>
          dsimp only
          rw [Session.after_blksize]
          split <;> simp

end After

/-- A step does not depend on what was sent before. -/
theorem Handler.step_after (handler : Handler)
    (earlier : List (Address × Bytes)) (event : Event) :
    (handler.after earlier).step event =
      (handler.step event).after earlier := by
  obtain ⟨session, control⟩ := handler
  cases control with
  | awaitOackAck reader retries foreign =>
      exact stepAwaitOackAck_after session earlier reader retries foreign event
  | awaitAck sending retries foreign =>
      exact stepAwaitAck_after session earlier sending retries foreign event
  | awaitFirstData options negotiated writer retries foreign =>
      exact
        stepAwaitFirstData_after session earlier options negotiated writer
          retries foreign event
  | awaitData writer blockNumber retries foreign =>
      exact
        stepAwaitData_after session earlier writer blockNumber retries
          foreign event
  | ended outcome => rfl

/-! ## The budget of the receiving helper -/

/-- The foreign datagrams since the helper was called. -/
def Control.foreign : Control → Option Nat
  | .awaitOackAck _ _ foreign => some foreign
  | .awaitAck _ _ foreign => some foreign
  | .awaitFirstData _ _ _ _ foreign => some foreign
  | .awaitData _ _ _ foreign => some foreign
  | .ended _ => none

@[simp]
theorem Control.withForeign_withForeign (control : Control)
    (first second : Nat) :
    (control.withForeign first).withForeign second =
      control.withForeign second := by
  cases control <;> rfl

theorem Control.withForeign_self
    {control : Control} {foreign : Nat}
    (counts : control.foreign = none ∨ control.foreign = some foreign) :
    control.withForeign foreign = control := by
  cases control <;> simp_all [Control.foreign, Control.withForeign]

section Budget

variable {session : Session} {control : Control} {event : Event}

/-- A foreign datagram is answered and counted, and that is all. -/
theorem step_of_foreign
    {sender : Address} {bytes : Bytes} {foreign : Nat}
    (heard : event.reception = .datagram sender bytes)
    (unknown : sender ≠ session.clientAddress)
    (counts : control.foreign = some foreign)
    (few : foreign < maxRetries) :
    Handler.step ⟨session, control⟩ event =
      ⟨session.reply sender, control.withForeign (foreign + 1)⟩ := by
  have pending :
      session.recievePacketFromClient foreign event.reception =
        (session.reply sender, .pending (foreign + 1)) := by
    unfold Session.recievePacketFromClient
    rw [heard, recievePacketFrom_foreign unknown, if_pos few]
    rfl
  cases control with
  | awaitOackAck reader retries =>
      cases counts
      simp only [Handler.step, Session.stepAwaitOackAck, pending,
        Control.withForeign]
  | awaitAck sending retries =>
      cases counts
      simp only [Handler.step, Session.stepAwaitAck, pending,
        Control.withForeign]
  | awaitFirstData options negotiated writer retries =>
      cases counts
      simp only [Handler.step, Session.stepAwaitFirstData, pending,
        Control.withForeign]
  | awaitData writer blockNumber retries =>
      cases counts
      simp only [Handler.step, Session.stepAwaitData, pending,
        Control.withForeign]
  | ended outcome => cases counts

/-- Otherwise the count makes no difference, while it is in the budget. -/
theorem step_withForeign
    {first second : Nat}
    (budget : ∀ sender bytes, event.reception = .datagram sender bytes →
      sender = session.clientAddress ∧ first < maxRetries ∧
        second < maxRetries) :
    Handler.step ⟨session, control.withForeign first⟩ event =
      Handler.step ⟨session, control.withForeign second⟩ event := by
  have same :
      session.recievePacketFromClient first event.reception =
        session.recievePacketFromClient second event.reception := by
    unfold Session.recievePacketFromClient
    cases heard : event.reception with
    | datagram sender bytes =>
        obtain ⟨rfl, few, less⟩ := budget sender bytes heard
        rw [recievePacketFrom_peer, recievePacketFrom_peer, if_pos few,
          if_pos less]
    | _ => rfl
  cases control with
  | awaitOackAck reader retries =>
      simp only [Control.withForeign, Handler.step,
        Session.stepAwaitOackAck, same]
  | awaitAck sending retries =>
      simp only [Control.withForeign, Handler.step, Session.stepAwaitAck,
        same]
  | awaitFirstData options negotiated writer retries =>
      simp only [Control.withForeign, Handler.step,
        Session.stepAwaitFirstData, same]
  | awaitData writer blockNumber retries =>
      simp only [Control.withForeign, Handler.step, Session.stepAwaitData,
        same]
  | ended outcome => rfl

end Budget

/-! ## Two runs -/

/-- A datagram which arrives is not the one after the last of the budget. -/
def InBudget (handler : Handler) (event : Event) : Prop :=
  ∀ foreign sender bytes, handler.control.foreign = some foreign →
    event.reception = .datagram sender bytes → foreign < maxRetries

/-- Two handlers in the same state, but for replies and foreign datagrams. -/
inductive SameBut (peer : Address) : Handler → Handler → Prop where
  | mk (session : Session) (control : Control) {more fewer : Nat}
      {full base : List (Address × Bytes)}
      (address : session.clientAddress = peer) (le : fewer ≤ more)
      (sent : Inserts (IsReply peer) full base) :
      SameBut peer
        (Handler.after ⟨session, control.withForeign more⟩ full)
        (Handler.after ⟨session, control.withForeign fewer⟩ base)

/-- What was sent can be counted to what was sent before. -/
theorem after_silent (session : Session)
    (earlier : List (Address × Bytes)) :
    Session.after { session with udp := { session.udp with sent := [] } }
        (earlier ++ session.udp.sent) =
      session.after earlier := by
  simp [Session.after, UdpClient.after]

theorem SameBut.refl (handler : Handler) :
    SameBut handler.session.clientAddress handler handler := by
  obtain ⟨session, control⟩ := handler
  have self :
      Handler.after
          ⟨session, control.withForeign (control.foreign.getD 0)⟩ [] =
        ⟨session, control⟩ := by
    rw [Control.withForeign_self (by cases control <;> simp
      [Control.foreign])]
    rfl
  have same :=
    SameBut.mk session control rfl
      (le_refl (control.foreign.getD 0)) (Inserts.refl [])
  rw [self] at same
  exact same

namespace SameBut

variable {peer : Address} {full base : Handler} {event : Event}

/-- An event which both handlers see. -/
theorem step (same : SameBut peer full base)
    (fine : InBudget full event) :
    SameBut peer (full.step event) (base.step event) := by
  obtain ⟨session, control, address, le, sent⟩ := same
  rename_i more fewer earlier before
  rw [Handler.step_after, Handler.step_after]
  by_cases ended : control.foreign = none
  · have isOver : ∃ outcome, control = .ended outcome := by
      cases control <;> simp_all [Control.foreign]
    obtain ⟨outcome, rfl⟩ := isOver
    exact .mk session (.ended outcome) address le sent
  · have counts :
        (control.withForeign more).foreign = some more ∧
          (control.withForeign fewer).foreign = some fewer := by
      cases control <;> simp_all [Control.foreign, Control.withForeign]
    by_cases foreign : IsForeign peer event
    · obtain ⟨sender, bytes, heard, unknown⟩ := foreign
      subst address
      have few := fine more sender bytes counts.1 heard
      rw [step_of_foreign heard unknown counts.1 few,
        step_of_foreign heard unknown counts.2 (le.trans_lt few),
        Control.withForeign_withForeign, Control.withForeign_withForeign]
      exact .mk (session.reply sender) control rfl (by omega) sent
    · have budget : ∀ sender bytes,
          event.reception = .datagram sender bytes →
            sender = session.clientAddress ∧ more < maxRetries ∧
              fewer < maxRetries := by
        intro sender bytes heard
        have few := fine more sender bytes counts.1 heard
        refine ⟨?_, few, le.trans_lt few⟩
        by_contra unknown
        rw [address] at unknown
        exact foreign ⟨sender, bytes, heard, unknown⟩
      rw [step_withForeign budget]
      have stays :
          (Handler.step ⟨session, control.withForeign fewer⟩
              event).session.clientAddress = peer :=
        (Handler.step_continues _ event).clientAddress.trans address
      generalize Handler.step ⟨session, control.withForeign fewer⟩ event =
        next at stays ⊢
      obtain ⟨reached, waits⟩ := next
      have self :
          waits.withForeign (waits.foreign.getD 0) = waits :=
        Control.withForeign_self (by cases waits <;> simp
          [Control.foreign])
      rw [← self]
      exact .mk reached waits stays le_rfl sent

/-- A foreign datagram which only one of the handlers sees. -/
theorem insert (same : SameBut peer full base)
    (fine : InBudget full event) (foreign : IsForeign peer event) :
    SameBut peer (full.step event) base := by
  obtain ⟨session, control, address, le, sent⟩ := same
  rename_i more fewer earlier before
  rw [Handler.step_after]
  by_cases ended : control.foreign = none
  · have isOver : ∃ outcome, control = .ended outcome := by
      cases control <;> simp_all [Control.foreign]
    obtain ⟨outcome, rfl⟩ := isOver
    exact .mk session (.ended outcome) address le sent
  · have counts : (control.withForeign more).foreign = some more := by
      cases control <;> simp_all [Control.foreign, Control.withForeign]
    obtain ⟨sender, bytes, heard, unknown⟩ := foreign
    have few := fine more sender bytes counts heard
    subst address
    rw [step_of_foreign heard unknown counts few,
      Control.withForeign_withForeign]
    let silent : Session :=
      { session with udp := { session.udp with sent := [] } }
    have replied :
        (session.reply sender).after earlier =
          silent.after
            (earlier ++ session.udp.sent ++
              [(sender, unknownSender.makeRaw)]) := by
      simp [silent, Session.after, UdpClient.after, Session.reply,
        UdpClient.send]
    have silenced :
        session.after before =
          silent.after (before ++ session.udp.sent ++ []) := by
      rw [List.append_nil]
      exact (after_silent session before).symm
    have extended :
        Inserts (IsReply session.clientAddress)
          (earlier ++ session.udp.sent ++
            [(sender, unknownSender.makeRaw)])
          (before ++ session.udp.sent ++ []) :=
      (sent.append (.refl _)).append (.insert ⟨unknown, rfl⟩ .nil)
    have again :
        SameBut session.clientAddress
          (Handler.after ⟨silent, control.withForeign (more + 1)⟩ _)
          (Handler.after ⟨silent, control.withForeign fewer⟩ _) :=
      .mk silent control rfl (le.trans (Nat.le_succ more)) extended
    unfold Handler.after at again ⊢
    dsimp only at again ⊢
    rw [replied, silenced]
    exact again

end SameBut

/--
Inserting foreign datagrams into the events of a handler, as many as the budget
of each receive allows.
-/
theorem SameBut.run
    (handler : Handler) {full base : List Event}
    (inserts :
      Inserts (IsForeign handler.session.clientAddress) full base)
    (fine : ∀ taken ∈ stepsOf Handler.step handler full,
      InBudget taken.1 taken.2) :
    SameBut handler.session.clientAddress
      (run Handler.step handler full) (run Handler.step handler base) :=
  run_of_inserts (fun same fine foreign => same.insert fine foreign)
    (fun same fine => same.step fine) inserts (.refl handler) fine

end IsaTftp.Server
