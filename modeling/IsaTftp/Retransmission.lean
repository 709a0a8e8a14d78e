import IsaTftp.Client.Machine
import IsaTftp.Server.Steps

/-!
# Retransmission

Both senders send a DATA packet once, in front of the loop which waits for its
ACK; nothing inside the loop sends it again.  A timeout, which is there to
have the packet sent again, only prolongs the wait.
-/

namespace IsaTftp

open IsaTftp.Wire
open IsaTftp.Files
open IsaTftp.Transfer
open IsaTftp.Library.Runs

/-! ## The server -/

namespace Server

/-- The handler waits for the ACK of this block. -/
def Handler.AwaitsAck (sending : Sending) (handler : Handler) : Prop :=
  ∃ retries foreign, handler.control = .awaitAck sending retries foreign

/-- The receive times out, and there are retries left. -/
def Handler.timesOut (handler : Handler) (event : Event) : Bool :=
  match handler.control with
  | .awaitAck _ retries _ =>
      event.reception = .timeout ∧ retries + 1 < maxRetries
  | _ => false

/-- Sending a block: an exception, or its DATA packet and the wait loop. -/
theorem Session.sendBlock_cases (session : Session)
    (host : HostChoice) (reader : Reader) (blockNumber : Nat) :
    (∃ outcome, (session.sendBlock host reader blockNumber).control =
        .ended outcome) ∨
      ∃ sending, sending.blockNumber = blockNumber ∧
        (session.sendBlock host reader blockNumber).control =
            .awaitAck sending 0 0 ∧
          dataSent (session.sendBlock host reader blockNumber).sent =
            dataSent session.udp.sent ++
              [(session.clientAddress,
                DataPacket.makeRaw
                  ⟨UInt16.ofNat blockNumber, sending.data⟩)] := by
  unfold sendBlock
  cases reader.readFile session.storage host session.blksize with
  | mk result storage =>
      cases result with
      | error exception => exact Or.inl ⟨_, rfl⟩
      | ok pair =>
          obtain ⟨data, next⟩ := pair
          refine Or.inr ⟨_, rfl, rfl, ?_⟩
          exact dataSent_append_data session.udp.sent _ _

/-- In the wait loop no DATA packet is sent. -/
theorem Handler.dataSent_step
    {handler : Handler} {sending : Sending}
    (before : handler.AwaitsAck sending) {event : Event}
    (after : (handler.step event).AwaitsAck sending) :
    dataSent (handler.step event).sent = dataSent handler.sent := by
  obtain ⟨retries, foreign, waits⟩ := before
  obtain ⟨retries', foreign', waitsStill⟩ := after
  have serves : handler.control.reader = some sending.reader := by
    rw [waits]
    rfl
  have step := Handler.step_sending serves event
  rw [waits] at step
  generalize handler.step event = reached at step waitsStill ⊢
  cases step with
  | waits talks => exact talks.data
  | raises talks exception => cases waitsStill
  | returns talks => cases waitsStill
  | interrupts talks =>
      rename_i next _
      exfalso
      unfold Session.checkForSigintRRQ Session.deleteAndTerminate
        at waitsStill
      split at waitsStill <;> cases waitsStill
  | sends talks =>
      rename_i next _
      exfalso
      rcases next.sendBlock_cases event.host sending.reader
          (sending.blockNumber + 1) with
        ⟨outcome, isOver⟩ | ⟨other, number, waitsNext, _⟩
      · cases isOver.symm.trans waitsStill
      · cases waitsNext.symm.trans waitsStill
        exact absurd number (Nat.ne_of_lt (Nat.lt_succ_self _))

end Server

/-! ## The client -/

namespace Client

/-- The client waits for the ACK of this block. -/
def TftpClient.AwaitsAck (sending : Sending) (client : TftpClient) :
    Prop :=
  ∃ retries foreign, client.control = .awaitAck sending retries foreign

/-- The receive times out, and there are retries left. -/
def TftpClient.timesOut (client : TftpClient) (event : Event) : Bool :=
  match client.control with
  | .awaitAck _ retries _ =>
      event.reception = .timeout ∧ retries + 1 < maxRetries
  | _ => false

/-- The client has ended, or it waits for the ACK of another block. -/
def TftpClient.LeavesWait (sending : Sending) (client : TftpClient) :
    Prop :=
  (∃ outcome, client.control = .ended outcome) ∨
    ∃ other, other.blockNumber = sending.blockNumber + 1 ∧
      client.AwaitsAck other

theorem TftpClient.LeavesWait.not_awaitsAck
    {sending : Sending} {client : TftpClient}
    (leaves : client.LeavesWait sending) :
    ¬ client.AwaitsAck sending := by
  rintro ⟨retries, foreign, waits⟩
  rcases leaves with ⟨outcome, isOver⟩ | ⟨other, number, _, _, waitsOther⟩
  · cases isOver.symm.trans waits
  · cases waitsOther.symm.trans waits
    have value := congrArg UInt16.toNat number
    simp only [UInt16.toNat_add] at value
    have bound := sending.blockNumber.toNat_lt
    change _ = (_ + 1) % 65536 at value
    omega

/-- The head of the wait loop: the client waits, or it ends. -/
theorem Session.awaitAckAgain_cases (session : Session)
    (sending : Sending) (retries : Nat) (event : Event) :
    (∃ outcome,
        (session.awaitAckAgain sending retries event).control =
          .ended outcome) ∨
      session.awaitAckAgain sending retries event =
        ⟨session, .awaitAck sending retries 0⟩ := by
  unfold awaitAckAgain checkForSigintWRQ
  split_ifs
  · exact Or.inl ⟨_, rfl⟩
  · exact Or.inr rfl
  · exact Or.inl ⟨_, rfl⟩
  · exact Or.inl ⟨_, rfl⟩

/-- Sending a block: the client ends, or it waits for the ACK. -/
theorem Session.sendBlock_cases (session : Session)
    (stdHandler : StdHandler) (blockNumber : UInt16) (event : Event) :
    (∃ outcome, (session.sendBlock stdHandler blockNumber event).control =
        .ended outcome) ∨
      ∃ sending, sending.blockNumber = blockNumber ∧
        (session.sendBlock stdHandler blockNumber event).control =
            .awaitAck sending 0 0 ∧
          dataSent (session.sendBlock stdHandler blockNumber event).sent =
            dataSent session.udp.sent ++
              [(session.serverAddress,
                DataPacket.makeRaw ⟨blockNumber, sending.data⟩)] := by
  unfold sendBlock
  split
  · exact Or.inl ⟨_, rfl⟩
  · exact Or.inl ⟨_, rfl⟩
  · rename_i data next read
    let packet : DataPacket := ⟨blockNumber, data⟩
    let sending : Sending :=
      { stdHandler := next
        blockNumber := blockNumber
        data := data
        lastPacketSent := decide (data.length < session.blksize.toNat) }
    rcases (session.send packet.makeRaw).awaitAckAgain_cases sending 0
        event with ended | waits
    · exact Or.inl ended
    · refine Or.inr ⟨sending, rfl, ?_, ?_⟩
      · rw [waits]
      · rw [waits]
        exact dataSent_append_data session.udp.sent packet _

/-- After the ACK the wait for this block is over. -/
theorem Session.afterAck_leavesWait (session : Session)
    (sending : Sending) (event : Event) :
    (session.afterAck sending event).LeavesWait sending := by
  unfold afterAck checkForSigintWRQ
  split_ifs
  · exact Or.inl ⟨_, rfl⟩
  · exact Or.inl ⟨_, rfl⟩
  · unfold sendNextBlock checkForSigintWRQ
    split_ifs
    · exact Or.inl ⟨_, rfl⟩
    · rcases session.timeoutReset.sendBlock_cases sending.stdHandler
          (sending.blockNumber + 1) event with
        ended | ⟨other, number, waits, _⟩
      · exact Or.inl ended
      · exact Or.inr ⟨other, number, 0, 0, waits⟩

/-- In the wait loop no DATA packet is sent. -/
theorem TftpClient.dataSent_step
    {client : TftpClient} {sending : Sending}
    (before : client.AwaitsAck sending) {event : Event}
    (after : (client.step event).AwaitsAck sending) :
    dataSent (client.step event).sent = dataSent client.sent := by
  obtain ⟨session, control⟩ := client
  obtain ⟨retries, foreign, waits⟩ := before
  dsimp only at waits
  subst waits
  have ended : ∀ {reached : TftpClient},
      reached.AwaitsAck sending →
        (∃ outcome, reached.control = .ended outcome) → False := by
    rintro reached ⟨_, _, waits⟩ ⟨outcome, isOver⟩
    cases isOver.symm.trans waits
  have again : ∀ {next : Session} {retries : Nat},
      (next.awaitAckAgain sending retries event).AwaitsAck sending →
        (next.awaitAckAgain sending retries event).sent =
          next.udp.sent := by
    intro next retries waits
    rcases next.awaitAckAgain_cases sending retries event with
      isOver | same
    · exact (ended waits isOver).elim
    · rw [same]
      rfl
  change (session.stepAwaitAck sending retries foreign event).AwaitsAck
    sending at after
  change dataSent
    (session.stepAwaitAck sending retries foreign event).sent = _
  unfold Session.stepAwaitAck at after ⊢
  rcases session.recievePacketFromServer_cases foreign event.reception
    with ⟨other, result⟩ | ⟨exception, result⟩ |
      ⟨other, bytes, heard, result⟩
  · simp only [result] at after ⊢
    exact
      dataSent_append_of_opcode unknownSender.getOpcode_makeRaw
        (by decide) _ _
  · rw [result] at after ⊢
    cases exception with
    | udpTimeout => rw [again after]; rfl
    | udpSigint => exact (ended after ⟨_, rfl⟩).elim
    | _ => exact (ended after ⟨_, rfl⟩).elim
  · simp only [result] at after ⊢
    cases classified :
        classifyAck (text "Server") sending.blockNumber.toNat
          (bytes.take UdpClient.maxPacketSize) with
    | error exception =>
        rw [classified] at after
        exact (ended after ⟨_, rfl⟩).elim
    | ok reply =>
        rw [classified] at after
        cases reply with
        | received =>
            have leaves := session.afterAck_leavesWait sending event
            exact absurd after leaves.not_awaitsAck
        | old => rw [again after]; rfl
        | ignored => rw [again after]; rfl

end Client

/-! ## The law -/

/-- How often the receive times out with retries left. -/
def timeouts {State : Type} (timesOut : State → Event → Bool)
    (taken : List (State × Event)) : Nat :=
  taken.countP fun step => timesOut step.1 step.2

/--
The law: while the ACK of a block is awaited its DATA packet is sent once, and
once more for every timeout which leaves retries.
-/
def Retransmits {State : Type} (sent : State → List Datagram)
    (step : State → Event → State) (timesOut : State → Event → Bool)
    (before : List Datagram) (packet : Datagram) (start : State)
    (events : List Event) : Prop :=
  dataSent (sent (run step start events)) =
    dataSent before ++
      List.replicate (1 + timeouts timesOut (stepsOf step start events))
        packet

/-- A party which sends one copy obeys the law exactly without timeouts. -/
theorem retransmits_iff {State : Type} {sent : State → List Datagram}
    {step : State → Event → State} {timesOut : State → Event → Bool}
    {before : List Datagram} {packet : Datagram} {start : State}
    {events : List Event}
    (once :
      dataSent (sent (run step start events)) =
        dataSent before ++ [packet]) :
    Retransmits sent step timesOut before packet start events ↔
      ∀ taken ∈ stepsOf step start events,
        timesOut taken.1 taken.2 = false := by
  have count :
      timeouts timesOut (stepsOf step start events) = 0 ↔
        ∀ taken ∈ stepsOf step start events,
          timesOut taken.1 taken.2 = false := by
    simp [timeouts, List.countP_eq_zero]
  rw [← count, Retransmits, once, List.append_cancel_left_eq]
  constructor
  · intro same
    have lengths := congrArg List.length same
    simp only [List.length_singleton, List.length_replicate] at lengths
    omega
  · intro none
    rw [none]
    rfl

/-- The handler sends a block once, as long as it waits for the ACK. -/
theorem Server.transmitted_once
    {session : Server.Session} {host : HostChoice} {reader : Reader}
    {blockNumber : Nat} {sending : Server.Sending} {events : List Event}
    (sent :
      (session.sendBlock host reader blockNumber).control =
        .awaitAck sending 0 0)
    (stays :
      ∀ taken ∈ stepsOf Handler.step
          (session.sendBlock host reader blockNumber) events,
        (taken.1.step taken.2).AwaitsAck sending) :
    dataSent
        (run Handler.step (session.sendBlock host reader blockNumber)
          events).sent =
      dataSent session.udp.sent ++
        [(session.clientAddress,
          DataPacket.makeRaw
            ⟨UInt16.ofNat blockNumber, sending.data⟩)] := by
  rcases session.sendBlock_cases host reader blockNumber with
    ⟨outcome, isOver⟩ | ⟨other, _, waits, first⟩
  · cases isOver.symm.trans sent
  · cases waits.symm.trans sent
    refine
      (run_invariant_of_steps
        (fun handler : Handler => handler.AwaitsAck sending ∧
          dataSent handler.sent = _)
        ⟨⟨0, 0, sent⟩, first⟩ fun taken member here => ?_).2
    have after := stays taken member
    exact
      ⟨after, (Handler.dataSent_step here.1 after).trans here.2⟩

/-- So does the client. -/
theorem Client.transmitted_once
    {session : Client.Session} {stdHandler : StdHandler}
    {blockNumber : UInt16} {first : Event} {sending : Client.Sending}
    {events : List Event}
    (sent :
      (session.sendBlock stdHandler blockNumber first).control =
        .awaitAck sending 0 0)
    (stays :
      ∀ taken ∈ stepsOf TftpClient.step
          (session.sendBlock stdHandler blockNumber first) events,
        (taken.1.step taken.2).AwaitsAck sending) :
    dataSent
        (run TftpClient.step
          (session.sendBlock stdHandler blockNumber first) events).sent =
      dataSent session.udp.sent ++
        [(session.serverAddress,
          DataPacket.makeRaw ⟨blockNumber, sending.data⟩)] := by
  rcases session.sendBlock_cases stdHandler blockNumber first with
    ⟨outcome, isOver⟩ | ⟨other, _, waits, once⟩
  · cases isOver.symm.trans sent
  · cases waits.symm.trans sent
    refine
      (run_invariant_of_steps
        (fun client : TftpClient => client.AwaitsAck sending ∧
          dataSent client.sent = _)
        ⟨⟨0, 0, sent⟩, once⟩ fun taken member here => ?_).2
    have after := stays taken member
    exact
      ⟨after, (TftpClient.dataSent_step here.1 after).trans here.2⟩

/--
Exactly when the law holds for a block, from its first transmission as long
as its ACK is awaited: no receive has timed out with retries left.
-/
theorem retransmission_law_iff (events : List Event) :
    (∀ (session : Server.Session) (host : HostChoice) (reader : Reader)
      (blockNumber : Nat) (sending : Server.Sending),
      let start := session.sendBlock host reader blockNumber
      start.control = .awaitAck sending 0 0 →
        (∀ taken ∈ stepsOf Server.Handler.step start events,
          (taken.1.step taken.2).AwaitsAck sending) →
          (Retransmits Server.Handler.sent Server.Handler.step
              Server.Handler.timesOut session.udp.sent
              (session.clientAddress,
                DataPacket.makeRaw
                  ⟨UInt16.ofNat blockNumber, sending.data⟩)
              start events ↔
            ∀ taken ∈ stepsOf Server.Handler.step start events,
              taken.1.timesOut taken.2 = false)) ∧
      ∀ (session : Client.Session) (stdHandler : StdHandler)
        (blockNumber : UInt16) (first : Event) (sending : Client.Sending),
        let start := session.sendBlock stdHandler blockNumber first
        start.control = .awaitAck sending 0 0 →
          (∀ taken ∈ stepsOf Client.TftpClient.step start events,
            (taken.1.step taken.2).AwaitsAck sending) →
            (Retransmits Client.TftpClient.sent Client.TftpClient.step
                Client.TftpClient.timesOut session.udp.sent
                (session.serverAddress,
                  DataPacket.makeRaw ⟨blockNumber, sending.data⟩)
                start events ↔
              ∀ taken ∈ stepsOf Client.TftpClient.step start events,
                taken.1.timesOut taken.2 = false) := by
  constructor
  · intro session host reader blockNumber sending start sent stays
    exact retransmits_iff (Server.transmitted_once sent stays)
  · intro session stdHandler blockNumber first sending start sent stays
    exact retransmits_iff (Client.transmitted_once sent stays)

/-! ## One block -/

/-- A session about to send the only block of the file `f`. -/
def servingSession : Server.Session :=
  Server.Session.make ⟨2, 1024⟩ (text "r")
    (smallDisk (some (text "hello")))

/-- The handler which waits for the ACK of this block. -/
def awaitingAck : Server.Handler :=
  servingSession.sendBlock {} (Reader.make (text "r/f") .OCTET) 1

/-- The local variables of its wait loop. -/
def onlyBlock : Server.Sending where
  reader :=
    { filepath := text "r/f"
      mode := .OCTET
      file := some ⟨[], true⟩
      overflowBuffer := [] }
  blockNumber := 1
  data := text "hello"
  lastPacketSent := true

/-- An old ACK does not disturb the law. -/
theorem retransmission_law_old_ack :
    Retransmits Server.Handler.sent Server.Handler.step
      Server.Handler.timesOut []
      (⟨2, 1024⟩, DataPacket.makeRaw ⟨1, text "hello"⟩) awaitingAck
      [{ reception := .datagram ⟨2, 1024⟩ (AckPacket.makeRaw ⟨0⟩) }] := by
  refine
    ((retransmission_law_iff _).1 servingSession {}
      (Reader.make (text "r/f") .OCTET) 1 onlyBlock (by decide)
      ?_).mpr ?_
  · intro taken member
    rw [stepsOf_cons, stepsOf_nil, List.mem_singleton] at member
    subst member
    exact ⟨1, 0, by decide⟩
  · intro taken member
    rw [stepsOf_cons, stepsOf_nil, List.mem_singleton] at member
    subst member
    decide

/-- After a timeout the block has been sent once, not twice. -/
theorem lost_block_not_retransmitted :
    awaitingAck.timesOut {} = true ∧
      (awaitingAck.step {}).AwaitsAck onlyBlock ∧
        dataSent (awaitingAck.step {}).sent =
          [(⟨2, 1024⟩, DataPacket.makeRaw ⟨1, text "hello"⟩)] ∧
          ¬ Retransmits Server.Handler.sent Server.Handler.step
            Server.Handler.timesOut []
            (⟨2, 1024⟩, DataPacket.makeRaw ⟨1, text "hello"⟩)
            awaitingAck [{}] := by
  refine ⟨by decide, ⟨1, 0, by decide⟩, by decide, ?_⟩
  unfold Retransmits
  decide

end IsaTftp
