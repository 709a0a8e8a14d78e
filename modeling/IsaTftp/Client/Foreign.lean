import IsaTftp.Library.Insertions
import IsaTftp.Client.Steps

/-!
# Foreign datagrams and the client's data phase

As for a handler of the server: once the first answer has come, inserting
foreign datagrams within the budget of each receive changes a run in nothing
but the replies to their senders.
-/

namespace IsaTftp.Client

open IsaTftp.Wire
open IsaTftp.Files
open IsaTftp.Transfer
open IsaTftp.Library.Runs

/-! ## What was sent before -/

/-- The same session, but other datagrams were sent before. -/
@[simps]
def Session.after (session : Session)
    (earlier : List (Address × Bytes)) : Session :=
  { session with udp := session.udp.after earlier }

/-- The same client, but other datagrams were sent before. -/
@[simps]
def TftpClient.after (client : TftpClient)
    (earlier : List (Address × Bytes)) : TftpClient :=
  ⟨client.session.after earlier, client.control⟩

section After

variable (session : Session) (earlier : List (Address × Bytes))

@[simp]
theorem send_after (data : Bytes) :
    (session.after earlier).send data =
      (session.send data).after earlier := by
  simp [Session.send, Session.after]

@[simp]
theorem increaseTimeout_after :
    (session.after earlier).increaseTimeout =
      session.increaseTimeout.after earlier :=
  rfl

@[simp]
theorem timeoutReset_after :
    (session.after earlier).timeoutReset =
      session.timeoutReset.after earlier :=
  rfl

@[simp]
theorem withStorage_after (storage : Storage) :
    (session.after earlier).withStorage storage =
      (session.withStorage storage).after earlier :=
  rfl

@[simp]
theorem mk_after (control : Control) :
    (⟨session.after earlier, control⟩ : TftpClient) =
      TftpClient.after ⟨session, control⟩ earlier :=
  rfl

@[simp]
theorem raise_after (exception : Exception) :
    (session.after earlier).raise exception =
      (session.raise exception).after earlier := by
  simp [Session.raise, Session.after, TftpClient.after,
    reportException_after]

@[simp]
theorem recievePacketFromServer_after (foreign : Nat)
    (reception : Reception) :
    (session.after earlier).recievePacketFromServer foreign reception =
      ((session.recievePacketFromServer foreign reception).1.after earlier,
        (session.recievePacketFromServer foreign reception).2) := by
  simp [Session.recievePacketFromServer, Session.after,
    recievePacketFrom_after]

@[simp]
theorem interruptWrite_after :
    (session.after earlier).interruptWrite =
      session.interruptWrite.after earlier := by
  simp [Session.interruptWrite]

@[simp]
theorem interruptRead_after (host : HostChoice) (writer : Writer) :
    (session.after earlier).interruptRead host writer =
      (session.interruptRead host writer).after earlier := by
  unfold Session.interruptRead
  rw [send_after]
  simp only [Session.after_storage]
  split
  · rfl
  · simp

@[simp]
theorem abandonRead_after (host : HostChoice) (writer : Writer)
    (exception : Exception) :
    (session.after earlier).abandonRead host writer exception =
      (session.abandonRead host writer exception).after earlier := by
  simp [Session.abandonRead]

variable {session earlier} in
theorem checkForSigintWRQ_after
    {proceed : Session → TftpClient}
    (proceeds : proceed (session.after earlier) =
      (proceed session).after earlier)
    (received : Bool) :
    (session.after earlier).checkForSigintWRQ received proceed =
      (session.checkForSigintWRQ received proceed).after earlier := by
  unfold Session.checkForSigintWRQ
  split_ifs
  · simp
  · exact proceeds

variable {session earlier} in
theorem checkForSigintRRQ_after
    {proceed : Session → TftpClient}
    (proceeds : proceed (session.after earlier) =
      (proceed session).after earlier)
    (host : HostChoice) (writer : Writer) (received : Bool) :
    (session.after earlier).checkForSigintRRQ host writer received
        proceed =
      (session.checkForSigintRRQ host writer received proceed).after
        earlier := by
  unfold Session.checkForSigintRRQ
  split_ifs
  · simp
  · exact proceeds

/-! ### Sending -/

@[simp]
theorem awaitAckAgain_after (sending : Sending) (retries : Nat)
    (event : Event) :
    (session.after earlier).awaitAckAgain sending retries event =
      (session.awaitAckAgain sending retries event).after earlier := by
  unfold Session.awaitAckAgain
  split_ifs
  · exact checkForSigintWRQ_after rfl _
  · exact checkForSigintWRQ_after (by simp) _

@[simp]
theorem sendBlock_after (stdHandler : StdHandler)
    (blockNumber : UInt16) (event : Event) :
    (session.after earlier).sendBlock stdHandler blockNumber event =
      (session.sendBlock stdHandler blockNumber event).after earlier := by
  unfold Session.sendBlock
  rw [Session.after_blksize]
  split <;> simp

@[simp]
theorem sendNextBlock_after (stdHandler : StdHandler)
    (blockNumber : UInt16) (event : Event) :
    (session.after earlier).sendNextBlock stdHandler blockNumber event =
      (session.sendNextBlock stdHandler blockNumber event).after
        earlier :=
  checkForSigintWRQ_after (by simp) _

@[simp]
theorem afterAck_after (sending : Sending) (event : Event) :
    (session.after earlier).afterAck sending event =
      (session.afterAck sending event).after earlier := by
  unfold Session.afterAck
  apply checkForSigintWRQ_after
  split_ifs
  · rfl
  · simp

theorem stepAwaitAck_after (sending : Sending) (retries foreign : Nat)
    (event : Event) :
    (session.after earlier).stepAwaitAck sending retries foreign event =
      (session.stepAwaitAck sending retries foreign event).after
        earlier := by
  unfold Session.stepAwaitAck
  rw [recievePacketFromServer_after]
  cases session.recievePacketFromServer foreign event.reception with
  | mk next delivery =>
      cases delivery with
      | pending foreign => rfl
      | threw exception => cases exception <;> simp
      | delivered packet =>
          dsimp only
          split <;> simp

/-! ### Receiving -/

@[simp]
theorem finishRead_after (writer : Writer) (blockNumber : UInt16)
    (event : Event) :
    (session.after earlier).finishRead writer blockNumber event =
      (session.finishRead writer blockNumber event).after earlier := by
  unfold Session.finishRead
  apply checkForSigintRRQ_after
  simp

@[simp]
theorem awaitDataAgain_after (writer : Writer) (blockNumber : UInt16)
    (retries : Nat) (event : Event) :
    (session.after earlier).awaitDataAgain writer blockNumber retries
        event =
      (session.awaitDataAgain writer blockNumber retries event).after
        earlier := by
  unfold Session.awaitDataAgain
  split_ifs
  · exact checkForSigintRRQ_after (by simp) _ _ _
  · exact checkForSigintRRQ_after (by simp) _ _ _

@[simp]
theorem afterData_after (writer : Writer) (blockNumber : UInt16)
    (last : Bool) (event : Event) :
    (session.after earlier).afterData writer blockNumber last event =
      (session.afterData writer blockNumber last event).after earlier := by
  unfold Session.afterData
  split_ifs <;> simp

variable {session earlier} in
theorem storeBlock_after
    {proceed : Session → Writer → TftpClient}
    (proceeds : ∀ session writer,
      proceed (Session.after session earlier) writer =
        (proceed session writer).after earlier)
    (writer : Writer) (event : Event) (data : Bytes) :
    (session.after earlier).storeBlock writer event data proceed =
      (session.storeBlock writer event data proceed).after earlier := by
  unfold Session.storeBlock
  rw [Session.after_storage]
  split
  · rfl
  · simp
  · rw [withStorage_after]
    exact proceeds _ _

theorem stepAwaitData_after (writer : Writer) (blockNumber : UInt16)
    (retries foreign : Nat) (event : Event) :
    (session.after earlier).stepAwaitData writer blockNumber retries
        foreign event =
      (session.stepAwaitData writer blockNumber retries foreign
        event).after earlier := by
  unfold Session.stepAwaitData
  rw [recievePacketFromServer_after]
  cases session.recievePacketFromServer foreign event.reception with
  | mk next delivery =>
      cases delivery with
      | pending foreign => rfl
      | threw exception => cases exception <;> simp
      | delivered packet =>
          dsimp only
          rw [Session.after_blksize]
          split
          · apply storeBlock_after
            intro session writer
            simp
          · simp
          · simp
          · simp

end After

/-- A step of the data phase does not depend on what was sent before. -/
theorem TftpClient.step_after
    {client : TftpClient} (settled : client.control.opening = false)
    (earlier : List (Address × Bytes)) (event : Event) :
    (client.after earlier).step event =
      (client.step event).after earlier := by
  obtain ⟨session, control⟩ := client
  cases control with
  | awaitWrqReply => cases settled
  | awaitRrqReply => cases settled
  | awaitAck sending retries foreign =>
      exact stepAwaitAck_after session earlier sending retries foreign event
  | awaitData writer blockNumber retries foreign =>
      exact
        stepAwaitData_after session earlier writer blockNumber retries
          foreign event
  | ended outcome => rfl

/-! ## The budget of the receiving helper -/

/-- The foreign datagrams since the helper was called. -/
def Control.foreign : Control → Option Nat
  | .awaitAck _ _ foreign => some foreign
  | .awaitData _ _ _ foreign => some foreign
  | _ => none

@[simp]
theorem Control.withForeign_withForeign (control : Control)
    (first second : Nat) :
    (control.withForeign first).withForeign second =
      control.withForeign second := by
  cases control <;> rfl

theorem Control.withForeign_getD (control : Control) :
    control.withForeign (control.foreign.getD 0) = control := by
  cases control <;> rfl

section Budget

variable {session : Session} {control : Control} {event : Event}

/-- A foreign datagram is answered and counted, and that is all. -/
theorem step_of_foreign
    {sender : Address} {bytes : Bytes} {foreign : Nat}
    (heard : event.reception = .datagram sender bytes)
    (unknown : sender ≠ session.serverAddress)
    (counts : control.foreign = some foreign)
    (few : foreign < maxRetries) :
    TftpClient.step ⟨session, control⟩ event =
      ⟨session.reply sender, control.withForeign (foreign + 1)⟩ := by
  have pending :
      session.recievePacketFromServer foreign event.reception =
        (session.reply sender, .pending (foreign + 1)) := by
    unfold Session.recievePacketFromServer
    rw [heard, recievePacketFrom_foreign unknown, if_pos few]
    rfl
  cases control with
  | awaitAck sending retries =>
      cases counts
      simp only [TftpClient.step, Session.stepAwaitAck, pending,
        Control.withForeign]
  | awaitData writer blockNumber retries =>
      cases counts
      simp only [TftpClient.step, Session.stepAwaitData, pending,
        Control.withForeign]
  | _ => cases counts

/-- Otherwise the count makes no difference, while it is in the budget. -/
theorem step_withForeign
    {first second : Nat}
    (budget : ∀ sender bytes, event.reception = .datagram sender bytes →
      sender = session.serverAddress ∧ first < maxRetries ∧
        second < maxRetries) :
    TftpClient.step ⟨session, control.withForeign first⟩ event =
      TftpClient.step ⟨session, control.withForeign second⟩ event := by
  have same :
      session.recievePacketFromServer first event.reception =
        session.recievePacketFromServer second event.reception := by
    unfold Session.recievePacketFromServer
    cases heard : event.reception with
    | datagram sender bytes =>
        obtain ⟨rfl, few, less⟩ := budget sender bytes heard
        rw [recievePacketFrom_peer, recievePacketFrom_peer, if_pos few,
          if_pos less]
    | _ => rfl
  cases control with
  | awaitAck sending retries =>
      simp only [Control.withForeign, TftpClient.step,
        Session.stepAwaitAck, same]
  | awaitData writer blockNumber retries =>
      simp only [Control.withForeign, TftpClient.step,
        Session.stepAwaitData, same]
  | _ => rfl

end Budget

/-! ## Two runs -/

/-- A datagram which arrives is not the one after the last of the budget. -/
def InBudget (client : TftpClient) (event : Event) : Prop :=
  ∀ foreign sender bytes, client.control.foreign = some foreign →
    event.reception = .datagram sender bytes → foreign < maxRetries

/-- Two clients in the same state, but for replies and foreign datagrams. -/
inductive SameBut (peer : Address) : TftpClient → TftpClient → Prop where
  | mk (session : Session) (control : Control) {more fewer : Nat}
      {full base : List (Address × Bytes)}
      (settled : control.opening = false)
      (address : session.serverAddress = peer) (le : fewer ≤ more)
      (sent : Inserts (IsReply peer) full base) :
      SameBut peer
        (TftpClient.after ⟨session, control.withForeign more⟩ full)
        (TftpClient.after ⟨session, control.withForeign fewer⟩ base)

/-- What was sent can be counted to what was sent before. -/
theorem after_silent (session : Session)
    (earlier : List (Address × Bytes)) :
    Session.after { session with udp := { session.udp with sent := [] } }
        (earlier ++ session.udp.sent) =
      session.after earlier := by
  simp [Session.after, UdpClient.after]

/-- The control of a client which counts no foreign datagrams has ended. -/
theorem Control.ended_of_foreign_none
    {control : Control} (settled : control.opening = false)
    (uncounted : control.foreign = none) :
    ∃ outcome, control = .ended outcome := by
  cases control with
  | ended outcome => exact ⟨outcome, rfl⟩
  | awaitWrqReply => cases settled
  | awaitRrqReply => cases settled
  | _ => cases uncounted

theorem Control.foreign_withForeign
    {control : Control} (counts : control.foreign ≠ none)
    (foreign : Nat) :
    (control.withForeign foreign).foreign = some foreign := by
  cases control with
  | awaitAck => rfl
  | awaitData => rfl
  | _ => exact absurd rfl counts

namespace SameBut

variable {peer : Address} {full base : TftpClient} {event : Event}

theorem refl
    {client : TftpClient} (settled : client.control.opening = false) :
    SameBut client.session.serverAddress client client := by
  obtain ⟨session, control⟩ := client
  have same :=
    SameBut.mk session control settled rfl
      (le_refl (control.foreign.getD 0)) (Inserts.refl [])
  rw [control.withForeign_getD] at same
  exact same

/-- An event which both clients see. -/
theorem step (same : SameBut peer full base)
    (fine : InBudget full event) :
    SameBut peer (full.step event) (base.step event) := by
  obtain ⟨session, control, settled, address, le, sent⟩ := same
  rename_i more fewer earlier before
  rw [TftpClient.step_after (by simpa using settled),
    TftpClient.step_after (by simpa using settled)]
  by_cases uncounted : control.foreign = none
  · obtain ⟨outcome, rfl⟩ :=
      Control.ended_of_foreign_none settled uncounted
    exact .mk session (.ended outcome) settled address le sent
  · have counts := Control.foreign_withForeign uncounted
    by_cases foreign : IsForeign peer event
    · obtain ⟨sender, bytes, heard, unknown⟩ := foreign
      subst address
      have few := fine more sender bytes (counts more) heard
      rw [step_of_foreign heard unknown (counts more) few,
        step_of_foreign heard unknown (counts fewer) (le.trans_lt few),
        Control.withForeign_withForeign, Control.withForeign_withForeign]
      exact .mk (session.reply sender) control settled rfl (by omega) sent
    · have budget : ∀ sender bytes,
          event.reception = .datagram sender bytes →
            sender = session.serverAddress ∧ more < maxRetries ∧
              fewer < maxRetries := by
        intro sender bytes heard
        have few := fine more sender bytes (counts more) heard
        refine ⟨?_, few, le.trans_lt few⟩
        by_contra unknown
        rw [address] at unknown
        exact foreign ⟨sender, bytes, heard, unknown⟩
      rw [step_withForeign budget]
      have stillSettled :
          (control.withForeign fewer).opening = false := by
        simpa using settled
      let here : TftpClient := ⟨session, control.withForeign fewer⟩
      obtain ⟨continues, stays⟩ : Proceeds here.session (here.step event) :=
        TftpClient.step_proceeds stillSettled event
      have samePeer := continues.serverAddress.trans address
      change SameBut peer ((here.step event).after _)
        ((here.step event).after _)
      generalize here.step event = next at samePeer stays ⊢
      obtain ⟨reached, waits⟩ := next
      rw [← waits.withForeign_getD]
      exact .mk reached waits stays samePeer le_rfl sent

/-- A foreign datagram which only one of the clients sees. -/
theorem insert (same : SameBut peer full base)
    (fine : InBudget full event) (foreign : IsForeign peer event) :
    SameBut peer (full.step event) base := by
  obtain ⟨session, control, settled, address, le, sent⟩ := same
  rename_i more fewer earlier before
  rw [TftpClient.step_after (by simpa using settled)]
  by_cases uncounted : control.foreign = none
  · obtain ⟨outcome, rfl⟩ :=
      Control.ended_of_foreign_none settled uncounted
    exact .mk session (.ended outcome) settled address le sent
  · have counts := Control.foreign_withForeign uncounted more
    obtain ⟨sender, bytes, heard, unknown⟩ := foreign
    have few := fine more sender bytes counts heard
    subst address
    rw [step_of_foreign heard unknown counts few,
      Control.withForeign_withForeign]
    let silent : Session :=
      { session with udp := { session.udp with sent := [] } }
    have replied :
        (session.reply sender).after earlier =
          silent.after
            (earlier ++ session.udp.sent ++
              [(sender, unknownSender.makeRaw)]) := by
      simp [silent, Session.after, UdpClient.after, Session.reply,
        UdpClient.send]
    have silenced :
        session.after before =
          silent.after (before ++ session.udp.sent ++ []) := by
      rw [List.append_nil]
      exact (after_silent session before).symm
    have extended :
        Inserts (IsReply session.serverAddress)
          (earlier ++ session.udp.sent ++
            [(sender, unknownSender.makeRaw)])
          (before ++ session.udp.sent ++ []) :=
      (sent.append (.refl _)).append (.insert ⟨unknown, rfl⟩ .nil)
    have again :
        SameBut session.serverAddress
          (TftpClient.after ⟨silent, control.withForeign (more + 1)⟩ _)
          (TftpClient.after ⟨silent, control.withForeign fewer⟩ _) :=
      .mk silent control settled rfl (le.trans (Nat.le_succ more)) extended
    unfold TftpClient.after at again ⊢
    dsimp only at again ⊢
    rw [replied, silenced]
    exact again

end SameBut

/--
Inserting foreign datagrams into the events of the data phase, as many as the
budget of each receive allows.
-/
theorem SameBut.run
    {client : TftpClient} (settled : client.control.opening = false)
    {full base : List Event}
    (inserts :
      Inserts (IsForeign client.session.serverAddress) full base)
    (fine : ∀ taken ∈ stepsOf TftpClient.step client full,
      InBudget taken.1 taken.2) :
    SameBut client.session.serverAddress
      (run TftpClient.step client full)
      (run TftpClient.step client base) :=
  run_of_inserts (fun same fine foreign => same.insert fine foreign)
    (fun same fine => same.step fine) inserts (.refl settled) fine

end IsaTftp.Client
