import IsaTftp.Waits
import IsaTftp.Client.InOrder

/-!
# The waits of the client

`Read` waits for the first answer and for each block, `SendData` for each ACK.
As on the server a packet with an opcode which is not looked for is dropped,
and the next round has the same count; only the first answer is decided by any
packet.
-/

namespace IsaTftp.Client

open IsaTftp.Wire
open IsaTftp.Files
open IsaTftp.Transfer
open IsaTftp.Library.Runs
open IsaTftp.Library.Retries

/-! ## What a wait makes of a packet -/

/-- The packet is dropped. -/
def Control.Ignores (control : Control) (packet : Bytes) : Prop :=
  match control with
  | .awaitAck _ _ _ => IsIgnored .ACK packet
  | .awaitData _ _ _ _ => IsIgnored .DATA packet
  | _ => False

/-- The packet was sent before what is waited for. -/
def Control.Repeats (control : Control) (blksize : Nat)
    (packet : Bytes) : Prop :=
  match control with
  | .awaitAck sending _ _ =>
      IsOldAck sending.blockNumber.toNat packet
  | .awaitData _ blockNumber _ _ =>
      IsOldData (blockNumber.toNat + 1) blksize packet
  | _ => False

def TftpClient.Ignores (client : TftpClient) (event : Event) : Prop :=
  Brings event client.control.Ignores

/-- A packet which is neither dropped nor counted as a retry. -/
def TftpClient.Decides (client : TftpClient) (event : Event) : Prop :=
  Brings event fun packet =>
    ¬ client.control.Ignores packet ∧
      ¬ client.control.Repeats client.session.blksize.toNat packet

/-! ## Rounds -/

/-- The waits of `Read` and `SendData`; `SendWrq` waits only once. -/
def Control.IsLoop (control : Control) : Prop :=
  match control with
  | .awaitAck _ _ _ => True
  | .awaitRrqReply _ _ => True
  | .awaitData _ _ _ _ => True
  | _ => False

/-- The same wait, with so many retries used up. -/
def Control.inRound (control : Control) (retries : Nat) : Control :=
  match control with
  | .awaitAck sending _ _ => .awaitAck sending retries 0
  | .awaitRrqReply writer _ => .awaitRrqReply writer retries
  | .awaitData writer blockNumber _ _ =>
      .awaitData writer blockNumber retries 0
  | .awaitWrqReply => .awaitWrqReply
  | .ended outcome => .ended outcome

/-- A wait has begun: the head of its loop has run for the first time. -/
structure TftpClient.Begins (client : TftpClient) : Prop where
  waits : client.control.IsLoop
  head : ∃ (session : Session) (event : Event),
    client = session.again event client.control 0

/-- The wait is over. -/
def Control.Leaves (control next : Control) : Prop :=
  ∀ retries, next ≠ control.inRound retries

/-- The request can be written; it is the same in every round. -/
def Session.Asks (session : Session) (control : Control) : Prop :=
  match control with
  | .awaitRrqReply _ _ =>
      ∃ raw,
        ReadWritePacket.makeRaw
            ⟨.RRQ, session.args.filepath, .OCTET, session.args.options⟩ =
          .ok raw
  | _ => True

theorem Control.leaves_ended
    {control : Control} (isLoop : control.IsLoop) (outcome : Outcome) :
    control.Leaves (.ended outcome) := by
  intro retries
  cases control with
  | ended other => exact isLoop.elim
  | awaitWrqReply => exact isLoop.elim
  | _ => intro same; cases same

theorem sigintAt_of_calm
    {event : Event} (calm : event.sigintFrom = none) (check : Nat) :
    event.sigintAt check = false := by
  rw [Event.sigintAt, calm]

/-- What is the same in every round of a wait. -/
structure Session.SamePeer (session next : Session) : Prop where
  server : next.serverAddress = session.serverAddress
  args : next.args = session.args
  size : next.blksize = session.blksize

/-- The head of a loop goes on while there are retries. -/
theorem Session.again_of_lt
    {session : Session} {event : Event}
    (calm : event.sigintFrom = none) {control : Control}
    (isLoop : control.IsLoop) (asks : session.Asks control)
    {retries : Nat} (more : retries < maxRetries) :
    (session.again event control retries).control =
        control.inRound retries ∧
      session.SamePeer (session.again event control retries).session := by
  have unseen := sigintAt_of_calm calm
  cases control with
  | awaitAck sending =>
      simp only [again, awaitAckAgain, checkForSigintWRQ, more, if_true,
        unseen, Bool.false_eq_true, if_false, Control.inRound]
      exact ⟨trivial, rfl, rfl, rfl⟩
  | awaitRrqReply writer =>
      obtain ⟨raw, encoded⟩ := asks
      simp only [again, awaitRrqReplyAgain, checkForSigintRRQ, more,
        if_true, unseen, Bool.false_eq_true, if_false, encoded,
        Control.inRound]
      exact ⟨trivial, rfl, rfl, rfl⟩
  | awaitData writer blockNumber =>
      simp only [again, awaitDataAgain, checkForSigintRRQ, more, if_true,
        unseen, Bool.false_eq_true, if_false, Control.inRound]
      exact ⟨trivial, rfl, rfl, rfl⟩
  | awaitWrqReply => exact isLoop.elim
  | ended outcome => exact isLoop.elim

/-- And it ends when they are used up. -/
theorem Session.again_of_not_lt
    (session : Session) {event : Event}
    (calm : event.sigintFrom = none) {control : Control}
    (isLoop : control.IsLoop) {retries : Nat}
    (last : ¬ retries < maxRetries) :
    control.Leaves (session.again event control retries).control := by
  have unseen := sigintAt_of_calm calm
  have over_ : ∃ outcome,
      (session.again event control retries).control =
        .ended outcome := by
    cases control with
    | awaitAck sending =>
        simp [again, awaitAckAgain, checkForSigintWRQ, last, unseen]
    | awaitRrqReply writer =>
        simp [again, awaitRrqReplyAgain, checkForSigintRRQ, last, unseen,
          abandonRead]
    | awaitData writer blockNumber =>
        simp [again, awaitDataAgain, checkForSigintRRQ, last, unseen,
          abandonRead]
    | awaitWrqReply => exact isLoop.elim
    | ended outcome => exact ⟨outcome, rfl⟩
  obtain ⟨outcome, isOver⟩ := over_
  rw [isOver]
  exact Control.leaves_ended isLoop outcome

/-! ## One round -/

/-- What a round can do. -/
inductive Round (session : Session) (control : Control) (retries : Nat)
    (event : Event) : TftpClient → Prop where
  | ignores
      (ignored : Brings event control.Ignores) :
      Round session control retries event
        (session.again event control retries)
  | counts {next : Session} (same : session.SamePeer next)
      (heard : ¬ Brings event control.Ignores)
      (undecided :
        ¬ Brings event fun packet =>
          ¬ control.Ignores packet ∧
            ¬ control.Repeats session.blksize.toNat packet) :
      Round session control retries event
        (next.again event control (retries + 1))
  | decides {next : TftpClient}
      (decided :
        Brings event fun packet =>
          ¬ control.Ignores packet ∧
            ¬ control.Repeats session.blksize.toNat packet)
      (leaves : control.Leaves next.control) :
      Round session control retries event next

/-- A timeout is counted. -/
theorem Round.timeout
    {session : Session} {event : Event}
    (silent : event.reception = .timeout) (control : Control)
    (retries : Nat) :
    Round session control retries event
      (session.increaseTimeout.again event control (retries + 1)) :=
  .counts ⟨rfl, rfl, rfl⟩ (not_brings_of_timeout silent _)
    (not_brings_of_timeout silent _)

/-- A packet which comes again is counted. -/
theorem Round.repeats
    {session next : Session} {control : Control} {retries : Nat}
    {event : Event} {sender : Address} {bytes : Bytes}
    (same : session.SamePeer next)
    (heard : event.reception = .datagram sender bytes)
    (looked : ¬ control.Ignores (bytes.take UdpClient.maxPacketSize))
    (old :
      control.Repeats session.blksize.toNat
        (bytes.take UdpClient.maxPacketSize)) :
    Round session control retries event
      (next.again event control (retries + 1)) := by
  apply Round.counts same
  · rw [brings_iff heard]
    exact looked
  · rw [brings_iff heard]
    exact fun undecided => undecided.2 old

theorem Session.recievePacketFromServer_timeout
    {session : Session} {event : Event}
    (silent : event.reception = .timeout) (foreign : Nat) :
    session.recievePacketFromServer foreign event.reception =
      (session, .threw .udpTimeout) := by
  rw [silent]
  rfl

theorem Session.recievePacketFromServer_first
    {session : Session} {event : Event} {bytes : Bytes}
    (heard : event.reception = .datagram session.serverAddress bytes) :
    session.recievePacketFromServer 0 event.reception =
      (session, .delivered (bytes.take UdpClient.maxPacketSize)) := by
  rw [heard]
  simp [recievePacketFromServer, recievePacketFrom_peer, maxRetries]

/-- A block is sent, or the function ends. -/
theorem Session.control_sendNextBlock
    (session : Session) (stdHandler : StdHandler) (blockNumber : UInt16)
    (event : Event) :
    (∃ outcome,
        (session.sendNextBlock stdHandler blockNumber event).control =
          .ended outcome) ∨
      ∃ sending, sending.blockNumber = blockNumber ∧
        (session.sendNextBlock stdHandler blockNumber event).control =
          .awaitAck sending 0 0 := by
  unfold sendNextBlock checkForSigintWRQ
  split_ifs
  · exact Or.inl ⟨_, rfl⟩
  · dsimp only
    unfold sendBlock
    split
    · exact Or.inl ⟨_, rfl⟩
    · exact Or.inl ⟨_, rfl⟩
    · dsimp only
      unfold awaitAckAgain checkForSigintWRQ
      split_ifs
      · exact Or.inl ⟨_, rfl⟩
      · exact Or.inr ⟨_, rfl, rfl⟩
      · exact Or.inl ⟨_, rfl⟩
      · exact Or.inl ⟨_, rfl⟩

/-- SIGINT ends the function, or the check does nothing. -/
theorem Session.control_checkForSigintRRQ
    (session : Session) (host : HostChoice) (writer : Writer)
    (received : Bool) (proceed : Session → TftpClient) :
    (∃ outcome,
        (session.checkForSigintRRQ host writer received proceed).control =
          .ended outcome) ∨
      session.checkForSigintRRQ host writer received proceed =
        proceed session := by
  unfold checkForSigintRRQ
  split_ifs
  · left
    unfold interruptRead
    dsimp only
    split
    · exact ⟨_, rfl⟩
    · exact ⟨_, rfl⟩
  · exact Or.inr rfl

/-- Behind a block the next one is awaited, or the function ends. -/
theorem Session.control_afterData
    (session : Session) (writer : Writer) (blockNumber : UInt16)
    (last : Bool) (event : Event) :
    (∃ outcome,
        (session.afterData writer blockNumber last event).control =
          .ended outcome) ∨
      (session.afterData writer blockNumber last event).control =
        .awaitData writer blockNumber 0 0 := by
  unfold afterData
  split_ifs
  · left
    unfold finishRead
    rcases session.control_checkForSigintRRQ event.host writer
        (event.sigintAt 4) _ with isOver | goesOn
    · exact isOver
    · rw [goesOn]
      exact ⟨_, rfl⟩
  · unfold awaitDataAgain
    split_ifs
    · rcases session.control_checkForSigintRRQ event.host writer
          (event.sigintAt 4) _ with isOver | goesOn
      · exact Or.inl isOver
      · rw [goesOn]
        exact Or.inr rfl
    · rcases session.control_checkForSigintRRQ event.host writer
          (event.sigintAt 4) _ with isOver | goesOn
      · exact Or.inl isOver
      · rw [goesOn]
        exact Or.inl ⟨_, rfl⟩

/-- Behind the first answer a block is awaited, or the function ends. -/
theorem Session.control_afterRrqReply
    (session : Session) (writer : Writer) (blockNumber : UInt16)
    (last : Bool) (event : Event) :
    (∃ outcome,
        (session.afterRrqReply writer blockNumber last event).control =
          .ended outcome) ∨
      (session.afterRrqReply writer blockNumber last event).control =
        .awaitData writer blockNumber 0 0 := by
  unfold afterRrqReply
  rcases session.control_checkForSigintRRQ event.host writer
      (event.sigintAt 2) _ with isOver | goesOn
  · exact Or.inl isOver
  · rw [goesOn]
    dsimp only
    split
    · exact Or.inl ⟨_, rfl⟩
    · rename_i blksize _
      rcases Session.control_checkForSigintRRQ
          { session.timeoutReset with blksize := blksize } event.host
          writer (event.sigintAt 3) _ with isOver | onward
      · exact Or.inl isOver
      · rw [onward]
        exact
          Session.control_afterData
            { session.timeoutReset with blksize := blksize } writer
            blockNumber last event

/-- Behind a first block the second one is awaited. -/
theorem Session.control_acceptFirstBlock
    (session : Session) (writer : Writer) (event : Event)
    (data : Bytes) :
    (∃ outcome,
        (session.acceptFirstBlock writer event data).control =
          .ended outcome) ∨
      ∃ next,
        (session.acceptFirstBlock writer event data).control =
          .awaitData next 1 0 0 := by
  unfold acceptFirstBlock
  split
  · exact Or.inl ⟨_, rfl⟩
  · unfold storeBlock
    split
    · exact Or.inl ⟨_, rfl⟩
    · exact Or.inl ⟨_, rfl⟩
    · rename_i next storage _
      rcases (withStorage _ storage).control_afterRrqReply next 1 _ event
        with isOver | waits
      · exact Or.inl isOver
      · exact Or.inr ⟨next, waits⟩

/-- Behind an OACK the first one is. -/
theorem Session.control_acceptOack
    (session : Session) (writer : Writer) (event : Event)
    (options : List TftpOption) :
    (∃ outcome,
        (session.acceptOack writer event options).control =
          .ended outcome) ∨
      (session.acceptOack writer event options).control =
        .awaitData writer 0 0 0 := by
  unfold acceptOack
  dsimp only
  split
  · exact Or.inl ⟨_, rfl⟩
  · split
    · exact Or.inl ⟨_, rfl⟩
    · exact Session.control_afterRrqReply _ writer 0 false event

section Rounds

variable {session : Session} {event : Event}
variable (fromPeer : FromPeer session.serverAddress event)

include fromPeer

theorem Round.stepAwaitAck (sending : Sending) (retries : Nat) :
    Round session (.awaitAck sending retries 0) retries event
      (session.stepAwaitAck sending retries 0 event) := by
  have ends_ : ∀ outcome,
      (Control.awaitAck sending retries 0).Leaves (.ended outcome) :=
    Control.leaves_ended trivial
  unfold Session.stepAwaitAck
  rcases fromPeer.reception with silent | ⟨bytes, heard⟩
  · simp only [Session.recievePacketFromServer_timeout silent]
    exact .timeout silent (.awaitAck sending retries 0) retries
  · simp only [Session.recievePacketFromServer_first heard]
    rcases classifyAck_cases (text "Server") sending.blockNumber.toNat
        (bytes.take UdpClient.maxPacketSize) with
      ⟨classified, ignored⟩ | ⟨classified, looked, old⟩ |
        ⟨outcome, looked, current⟩
    · simp only [classified]
      exact .ignores ((brings_iff heard).mpr ignored)
    · simp only [classified]
      exact .repeats ⟨rfl, rfl, rfl⟩ heard looked old
    · have decided :
          Brings event fun packet =>
            ¬ IsIgnored .ACK packet ∧
              ¬ IsOldAck sending.blockNumber.toNat packet :=
        (brings_iff heard).mpr ⟨looked, current⟩
      rcases outcome with received | ⟨exception, refused⟩
      · simp only [received]
        refine .decides decided ?_
        unfold Session.afterAck Session.checkForSigintWRQ
        split_ifs
        · exact ends_ _
        · exact ends_ _
        · rcases session.timeoutReset.control_sendNextBlock
              sending.stdHandler (sending.blockNumber + 1) event with
            ⟨outcome, isOver⟩ | ⟨next, following, waits⟩
          · rw [isOver]
            exact ends_ outcome
          · rw [waits]
            intro retries same
            cases same
            exact absurd following (by simp)
      · simp only [refused]
        exact .decides decided (ends_ _)

theorem Round.stepAwaitData (writer : Writer) (blockNumber : UInt16)
    (retries : Nat) :
    Round session (.awaitData writer blockNumber retries 0) retries event
      (session.stepAwaitData writer blockNumber retries 0 event) := by
  have ends_ : ∀ outcome,
      (Control.awaitData writer blockNumber retries 0).Leaves
        (.ended outcome) :=
    Control.leaves_ended trivial
  unfold Session.stepAwaitData
  rcases fromPeer.reception with silent | ⟨bytes, heard⟩
  · simp only [Session.recievePacketFromServer_timeout silent]
    exact
      .timeout silent (.awaitData writer blockNumber retries 0) retries
  · simp only [Session.recievePacketFromServer_first heard]
    rcases classifyData_ignores (text "Server") (blockNumber.toNat + 1)
        (blockNumber.toNat + 1) session.blksize.toNat
        (bytes.take UdpClient.maxPacketSize) with
      ⟨classified, ignored⟩ | ⟨classified, looked, old⟩ |
        ⟨outcome, looked, current⟩
    · simp only [classified]
      exact .ignores ((brings_iff heard).mpr ignored)
    · simp only [classified]
      exact .repeats ⟨rfl, rfl, rfl⟩ heard looked old
    · have decided :
          Brings event fun packet =>
            ¬ IsIgnored .DATA packet ∧
              ¬ IsOldData (blockNumber.toNat + 1) session.blksize.toNat
                packet :=
        (brings_iff heard).mpr ⟨looked, current⟩
      rcases outcome with ⟨data, taken⟩ | ⟨exception, refused⟩
      · simp only [taken]
        refine .decides decided ?_
        unfold Session.storeBlock
        split
        · exact ends_ _
        · exact ends_ _
        · rename_i next storage _
          rcases (session.withStorage storage).timeoutReset.control_afterData
              next (blockNumber + 1) _ event with
            ⟨outcome, isOver⟩ | waits
          · dsimp only
            rw [isOver]
            exact ends_ outcome
          · dsimp only
            rw [waits]
            intro retries same
            simp only [Control.inRound, Control.awaitData.injEq] at same
            exact absurd same.2.1 (by simp)
      · simp only [refused]
        exact .decides decided (ends_ _)

end Rounds

/-- Whatever comes first decides, from whatever sender. -/
theorem Round.stepAwaitRrqReply
    {session : Session} {event : Event} {peer : Address}
    (fromPeer : FromPeer peer event) (writer : Writer) (retries : Nat) :
    Round session (.awaitRrqReply writer retries) retries event
      (session.stepAwaitRrqReply writer retries event) := by
  have ends_ : ∀ outcome,
      (Control.awaitRrqReply writer retries).Leaves (.ended outcome) :=
    Control.leaves_ended trivial
  unfold Session.stepAwaitRrqReply
  rcases fromPeer.reception with silent | ⟨bytes, heard⟩
  · simp only [silent, receive]
    exact .timeout silent (.awaitRrqReply writer retries) retries
  · simp only [heard, receive]
    refine .decides ?_ ?_
    · rw [brings_iff heard]
      exact ⟨fun ignored => ignored, fun old => old⟩
    · split
      · exact ends_ _
      · rename_i data _
        rcases (session.adoptPort peer).control_acceptFirstBlock writer
            event data with ⟨outcome, isOver⟩ | ⟨next, waits⟩
        · rw [isOver]
          exact ends_ outcome
        · rw [waits]
          intro retries same
          cases same
      · rename_i options _
        rcases (session.adoptPort peer).control_acceptOack writer event
            options with ⟨outcome, isOver⟩ | waits
        · rw [isOver]
          exact ends_ outcome
        · rw [waits]
          intro retries same
          cases same

/-- Before the first answer the port of the server is not known. -/
def Session.Expects (session : Session) (control : Control)
    (peer : Address) : Prop :=
  match control with
  | .awaitRrqReply _ _ => True
  | _ => peer = session.serverAddress

/-- One round of whatever loop the client is in. -/
theorem Round.step
    {session : Session} {event : Event} {peer : Address}
    (fromPeer : FromPeer peer event) {control : Control}
    (isLoop : control.IsLoop) (expects : session.Expects control peer)
    (retries : Nat) :
    Round session (control.inRound retries) retries event
      (TftpClient.step ⟨session, control.inRound retries⟩ event) := by
  cases control with
  | awaitAck sending =>
      subst expects
      exact stepAwaitAck fromPeer sending retries
  | awaitRrqReply writer =>
      exact stepAwaitRrqReply fromPeer writer retries
  | awaitData writer blockNumber =>
      subst expects
      exact stepAwaitData fromPeer writer blockNumber retries
  | awaitWrqReply => exact isLoop.elim
  | ended outcome => exact isLoop.elim

/-! ## The budget of a wait -/

@[simp]
theorem Control.ignores_inRound (control : Control) (retries : Nat) :
    (control.inRound retries).Ignores = control.Ignores := by
  cases control <;> rfl

@[simp]
theorem Control.repeats_inRound (control : Control) (retries : Nat) :
    (control.inRound retries).Repeats = control.Repeats := by
  cases control <;> rfl

@[simp]
theorem Control.inRound_inRound (control : Control)
    (first second : Nat) :
    (control.inRound first).inRound second = control.inRound second := by
  cases control <;> rfl

@[simp]
theorem Session.again_inRound (session : Session) (event : Event)
    (control : Control) (retries again : Nat) :
    session.again event (control.inRound retries) again =
      session.again event control again := by
  cases control <;> rfl

/-- The client is still in the wait of another one, at the same server. -/
structure TftpClient.SameWait (start : TftpClient) (retries : Nat)
    (client : TftpClient) : Prop where
  control : client.control = start.control.inRound retries
  peer : start.session.SamePeer client.session

theorem Session.SamePeer.asks
    {session next : Session} (same : session.SamePeer next)
    {control : Control} (asks : session.Asks control) :
    next.Asks control := by
  cases control with
  | awaitRrqReply writer retries =>
      show ∃ raw, ReadWritePacket.makeRaw _ = .ok raw
      rw [same.args]
      exact asks
  | _ => trivial

theorem Session.SamePeer.expects
    {session next : Session} (same : session.SamePeer next)
    {control : Control} {peer : Address}
    (expects : session.Expects control peer) :
    next.Expects control peer := by
  cases control with
  | awaitRrqReply writer retries => trivial
  | _ =>
      show peer = next.serverAddress
      rw [same.server]
      exact expects

theorem Session.SamePeer.trans
    {first second third : Session} (one : first.SamePeer second)
    (two : second.SamePeer third) : first.SamePeer third :=
  ⟨two.server.trans one.server, two.args.trans one.args,
    two.size.trans one.size⟩

/-- What can come: a timeout, or a datagram of the server. -/
def TftpClient.Comes (client : TftpClient) (event : Event) : Prop :=
  ∃ peer, client.session.Expects client.control peer ∧
    FromPeer peer event

section Budget

variable {start client : TftpClient} {retries : Nat} {event : Event}

/-- The head of the loop, after a round which does not decide. -/
theorem TftpClient.SameWait.again
    (isLoop : start.control.IsLoop)
    (asks : start.session.Asks start.control) {session : Session}
    (same : start.session.SamePeer session)
    (calm : event.sigintFrom = none) (more : retries < maxRetries) :
    start.SameWait retries
      (session.again event start.control retries) := by
  obtain ⟨control, onward⟩ :=
    Session.again_of_lt calm isLoop (same.asks asks) more
  exact ⟨control, same.trans onward⟩

/-- What a round says about an event. -/
theorem TftpClient.SameWait.round
    (isLoop : start.control.IsLoop)
    (same : start.SameWait retries client)
    (hears : start.Comes event) :
    (start.Ignores event ∧
        client.step event =
          client.session.again event start.control retries) ∨
      (∃ next : Session,
          start.session.SamePeer next ∧
            ¬ start.Ignores event ∧ ¬ start.Decides event ∧
              client.step event =
                next.again event start.control (retries + 1)) ∨
        (start.Decides event ∧
          start.control.Leaves (client.step event).control) := by
  obtain ⟨session, control⟩ := client
  obtain ⟨rfl, samePeer⟩ := same
  obtain ⟨peer, expects, fromPeer⟩ := hears
  have round :=
    Round.step fromPeer isLoop (samePeer.expects expects) retries
  generalize result :
    TftpClient.step ⟨session, start.control.inRound retries⟩ event = next
    at round ⊢
  have sameSize : session.blksize = start.session.blksize :=
    samePeer.size
  cases round with
  | ignores ignored =>
      left
      simp only [Control.ignores_inRound] at ignored
      exact ⟨ignored, session.again_inRound _ _ _ _⟩
  | counts onward heard undecided =>
      rename_i reached
      simp only [Control.ignores_inRound, Control.repeats_inRound,
        sameSize] at heard undecided
      right
      left
      exact
        ⟨reached, samePeer.trans onward, heard, undecided,
          reached.again_inRound _ _ _ _⟩
  | decides decided leaves =>
      simp only [Control.ignores_inRound, Control.repeats_inRound,
        sameSize] at decided
      right
      right
      refine ⟨decided, ?_⟩
      intro again
      rw [← Control.inRound_inRound _ retries]
      exact leaves again

theorem TftpClient.Decides.not_ignores
    (decides : start.Decides event) : ¬ start.Ignores event := by
  obtain ⟨sender, bytes, heard, looked, _⟩ := decides
  intro ignores
  exact looked ((brings_iff heard).mp ignores)

/-- The wait of the client, as a loop with a budget of retries. -/
def waitLoop (start : TftpClient) (isLoop : start.control.IsLoop)
    (asks : start.session.Asks start.control) :
    RetryLoop TftpClient.step maxRetries where
  Inside retries client :=
    start.SameWait retries client ∧ retries < maxRetries
  Left client := start.control.Leaves client.control
  Comes := start.Comes
  Decides := start.Decides
  Ignores := start.Ignores
  outside inside left := left _ inside.1.control
  decided := by
    rintro retries client event ⟨same, _⟩ comes decides
    rcases same.round isLoop comes with
      ⟨ignores, _⟩ | ⟨_, _, _, undecided, _⟩ | ⟨_, leaves⟩
    · exact absurd ignores decides.not_ignores
    · exact absurd decides undecided
    · exact leaves
  ignored := by
    rintro retries client event ⟨same, more⟩ comes undecided ignores
    rcases same.round isLoop comes with
      ⟨_, again⟩ | ⟨_, _, heard, _⟩ | ⟨decides, _⟩
    · obtain ⟨_, _, fromPeer⟩ := comes
      rw [again]
      exact ⟨.again isLoop asks same.peer fromPeer.calm more, more⟩
    · exact absurd ignores heard
    · exact absurd decides undecided
  counted := by
    rintro retries client event ⟨same, _⟩ comes undecided heard more
    rcases same.round isLoop comes with
      ⟨ignores, _⟩ | ⟨next, onward, _, _, again⟩ | ⟨decides, _⟩
    · exact absurd ignores heard
    · obtain ⟨_, _, fromPeer⟩ := comes
      rw [again]
      exact ⟨.again isLoop asks onward fromPeer.calm more, more⟩
    · exact absurd decides undecided
  exhausted := by
    rintro retries client event ⟨same, _⟩ comes undecided heard last
    rcases same.round isLoop comes with
      ⟨ignores, _⟩ | ⟨next, _, _, _, again⟩ | ⟨decides, _⟩
    · exact absurd ignores heard
    · obtain ⟨_, _, fromPeer⟩ := comes
      rw [again]
      exact next.again_of_not_lt fromPeer.calm isLoop last
    · exact absurd decides undecided

end Budget

/-! ## Datagrams -/

/-- A step sends at most one datagram. -/
def Session.SendsOne (session : Session) (client : TftpClient) : Prop :=
  client.sent.length ≤ session.udp.sent.length + 1

namespace Session.SendsOne

variable {session : Session}

theorem silent (session : Session) (control : Control) :
    session.SendsOne ⟨session, control⟩ :=
  Nat.le_succ _

theorem send (session : Session) (raw : Bytes) (reciever : Address)
    (control : Control) :
    session.SendsOne
      ⟨{ session with udp := session.udp.send raw reciever },
        control⟩ := by
  simp [SendsOne, TftpClient.sent]

theorem raise (session : Session) (exception : Exception) :
    session.SendsOne (session.raise exception) := by
  show (reportException session.udp session.serverAddress
    exception).sent.length ≤ _
  rcases sent_reportException session.udp session.serverAddress exception
    with same | ⟨packet, more⟩
  · simp [same]
  · simp [more]

theorem abandonRead (session : Session) (host : HostChoice)
    (writer : Writer) (exception : Exception) :
    session.SendsOne (session.abandonRead host writer exception) :=
  raise (session.withStorage (writer.close session.storage host)) exception

theorem storeBlock (session : Session) (writer : Writer) (event : Event)
    (data : Bytes) {proceed : Session → Writer → TftpClient}
    (one : ∀ storage writer,
      session.SendsOne (proceed (session.withStorage storage) writer)) :
    session.SendsOne (session.storeBlock writer event data proceed) := by
  unfold Session.storeBlock
  split
  · exact silent (session.withStorage _) _
  · exact abandonRead (session.withStorage _) event.host _ _
  · exact one _ _

section Calm

variable {event : Event} (calm : event.sigintFrom = none)

include calm

theorem checkForSigintWRQ
    {proceed : Session → TftpClient} {check : Nat}
    (one : session.SendsOne (proceed session)) :
    session.SendsOne
      (session.checkForSigintWRQ (event.sigintAt check) proceed) := by
  rw [sigintAt_of_calm calm]
  exact one

theorem checkForSigintRRQ
    {host : HostChoice} {writer : Writer}
    {proceed : Session → TftpClient} {check : Nat}
    (one : session.SendsOne (proceed session)) :
    session.SendsOne
      (session.checkForSigintRRQ host writer (event.sigintAt check)
        proceed) := by
  rw [sigintAt_of_calm calm]
  exact one

theorem again (session : Session) (control : Control) (retries : Nat) :
    session.SendsOne (session.again event control retries) := by
  cases control with
  | awaitAck sending =>
      simp only [Session.again, Session.awaitAckAgain]
      split_ifs
      · exact checkForSigintWRQ calm (silent session _)
      · exact checkForSigintWRQ calm (raise session _)
  | awaitRrqReply writer =>
      apply checkForSigintRRQ calm
      dsimp only
      split_ifs
      · split
        · exact abandonRead session event.host writer _
        · exact send session _ _ _
      · exact abandonRead session event.host writer _
  | awaitData writer blockNumber =>
      simp only [Session.again, Session.awaitDataAgain]
      split_ifs
      · exact checkForSigintRRQ calm (send session _ _ _)
      · exact checkForSigintRRQ calm (abandonRead session event.host _ _)
  | awaitWrqReply => exact silent session _
  | ended outcome => exact silent session _

theorem sendNextBlock (session : Session) (stdHandler : StdHandler)
    (blockNumber : UInt16) :
    session.SendsOne
      (session.sendNextBlock stdHandler blockNumber event) := by
  apply checkForSigintWRQ calm
  unfold Session.sendBlock
  split
  · exact raise session _
  · exact raise session _
  · dsimp only
    rw [Session.awaitAckAgain, if_pos (by decide), Session.checkForSigintWRQ,
      sigintAt_of_calm calm]
    exact send session _ _ _

theorem sendData (session : Session) :
    session.SendsOne (session.sendData event) := by
  apply checkForSigintWRQ calm
  dsimp only
  split
  · exact raise session _
  · rename_i blksize _
    exact
      sendNextBlock calm { session with blksize := blksize } _ 1

theorem afterData (session : Session) (writer : Writer)
    (blockNumber : UInt16) (last : Bool) :
    session.SendsOne (session.afterData writer blockNumber last event) := by
  unfold Session.afterData
  split_ifs
  · exact checkForSigintRRQ calm (send session _ _ (.ended .returned))
  · exact again calm session (.awaitData writer blockNumber 0 0) 0

theorem afterRrqReply (session : Session) (writer : Writer)
    (blockNumber : UInt16) (last : Bool) :
    session.SendsOne
      (session.afterRrqReply writer blockNumber last event) := by
  apply checkForSigintRRQ calm
  dsimp only
  split
  · exact abandonRead session.timeoutReset event.host writer _
  · rename_i blksize _
    rw [sigintAt_of_calm calm]
    exact
      afterData calm { session.timeoutReset with blksize := blksize } writer
        blockNumber last

end Calm

/-- Setting up the connection sends nothing. -/
theorem of_sent_eq
    {other : Session} {client : TftpClient}
    (same : other.udp.sent = session.udp.sent)
    (one : other.SendsOne client) : session.SendsOne client := by
  show client.sent.length ≤ session.udp.sent.length + 1
  rw [← same]
  exact one

/-- The first answer to a WRQ. -/
theorem stepAwaitWrqReply
    (session : Session) {event : Event}
    (calm : event.sigintFrom = none)
    (unsignalled : event.reception ≠ .sigint) :
    session.SendsOne (session.stepAwaitWrqReply event) := by
  unfold Session.stepAwaitWrqReply
  cases heard : event.reception with
  | timeout =>
      simp only [receive]
      exact
        checkForSigintWRQ calm
          (sendData calm session.increaseTimeout.timeoutReset)
  | sigint => exact absurd heard unsignalled
  | failure => exact raise session _
  | datagram sender bytes =>
      simp only [receive]
      cases accepted :
          (session.adoptPort sender).acceptWrqReply
            (bytes.take UdpClient.maxPacketSize) with
      | error exception => exact raise (session.adoptPort sender) exception
      | ok next =>
          have agrees :
              session.agreeWrq sender
                  (bytes.take UdpClient.maxPacketSize) =
                some next := by
            rw [Session.agreeWrq, accepted]
            rfl
          have acknowledges := acknowledges_of_agreeWrq agrees
          apply of_sent_eq acknowledges.setsUp.sent
          exact checkForSigintWRQ calm (sendData calm next)

/-- The first answer to an RRQ. -/
theorem stepAwaitRrqReply
    (session : Session) (writer : Writer) (retries : Nat)
    {event : Event} (calm : event.sigintFrom = none)
    (unsignalled : event.reception ≠ .sigint) :
    session.SendsOne (session.stepAwaitRrqReply writer retries event) := by
  unfold Session.stepAwaitRrqReply
  cases heard : event.reception with
  | timeout =>
      exact
        again calm session.increaseTimeout (.awaitRrqReply writer retries)
          _
  | sigint => exact absurd heard unsignalled
  | failure => exact abandonRead session event.host writer _
  | datagram sender bytes =>
      simp only [receive]
      split
      · exact abandonRead (session.adoptPort sender) event.host writer _
      · unfold Session.acceptFirstBlock
        split
        · exact
            abandonRead ((session.adoptPort sender).withOptions [])
              event.host writer _
        · rename_i next setUp
          apply of_sent_eq (setsUp_of_setupUdpClient setUp).sent
          exact
            storeBlock next writer event _ fun storage writer =>
              afterRrqReply calm (next.withStorage storage) writer 1 _
      · rename_i options _
        unfold Session.acceptOack
        dsimp only
        split
        · exact
            abandonRead ((session.adoptPort sender).withOptions options)
              event.host writer _
        · split
          · exact
              abandonRead ((session.adoptPort sender).withOptions options)
                event.host writer _
          · rename_i next setUp
            apply of_sent_eq (setsUp_of_setupUdpClient setUp).sent
            exact afterRrqReply calm next writer 0 false

/-- Nobody but SIGINT makes a step send more. -/
theorem step
    (session : Session) (control : Control) {event : Event}
    (calm : event.sigintFrom = none)
    (unsignalled : event.reception ≠ .sigint) :
    session.SendsOne (TftpClient.step ⟨session, control⟩ event) := by
  by_cases opening : control.opening = true
  · cases control with
    | awaitWrqReply => exact stepAwaitWrqReply session calm unsignalled
    | awaitRrqReply writer retries =>
        exact stepAwaitRrqReply session writer retries calm unsignalled
    | _ => cases opening
  · have settled : control.opening = false := by
      simpa using opening
    have step := TftpClient.step_cases ⟨session, control⟩ settled event
    generalize TftpClient.step ⟨session, control⟩ event = next at step ⊢
    cases step with
    | refuses sender foreign => exact send session _ sender _
    | again retries => exact again calm session control retries
    | slowerAgain retries =>
        exact again calm session.increaseTimeout control retries
    | raises _ exception => exact raise session exception
    | abandons _ exception =>
        exact abandonRead session event.host _ exception
    | interruptsWrite _ noticed => exact absurd noticed unsignalled
    | interruptsRead _ noticed => exact absurd noticed unsignalled
    | acknowledged =>
        apply checkForSigintWRQ calm
        split_ifs
        · exact silent session.timeoutReset _
        · exact sendNextBlock calm session.timeoutReset _ _
    | stores =>
        apply storeBlock
        intro storage writer
        exact afterData calm (session.withStorage storage).timeoutReset _ _ _
    | isOver => exact silent session control

end Session.SendsOne

/-! ## Bounded waits -/

/--
The wait is over after so many events as there are retries, or one behind them
decides.  Meanwhile there is one datagram for each of them; the one which began
the wait was sent before.
-/
def TftpClient.Bounded (start : TftpClient) (stream : Nat → Event) : Prop :=
  ∃ count ≤ maxRetries,
    (start.control.Leaves
        (run TftpClient.step start (firstEvents stream count)).control ∨
      start.Decides (stream count) ∧
        start.control.Leaves
          (run TftpClient.step start
            (firstEvents stream (count + 1))).control) ∧
      (run TftpClient.step start (firstEvents stream count)).sent.length ≤
        start.sent.length + maxRetries

theorem length_sent_run
    (start : TftpClient) {stream : Nat → Event}
    (calm : ∀ index, (stream index).sigintFrom = none)
    (unsignalled : ∀ index, (stream index).reception ≠ .sigint)
    (count : Nat) :
    (run TftpClient.step start (firstEvents stream count)).sent.length ≤
      start.sent.length + count := by
  induction count with
  | zero => exact Nat.le_refl _
  | succ count induction =>
      rw [run_firstEvents_succ]
      have one :=
        Session.SendsOne.step
          (run TftpClient.step start (firstEvents stream count)).session
          (run TftpClient.step start (firstEvents stream count)).control
          (calm count) (unsignalled count)
      exact Nat.le_trans one (Nat.succ_le_succ induction)

/-- A loop which goes on does so in this round. -/
theorem Session.control_again
    {session : Session} {event : Event} {control : Control}
    (isLoop : control.IsLoop)
    (waits :
      (session.again event control 0).control.IsLoop) :
    (session.again event control 0).control = control.inRound 0 ∧
      (session.again event control 0).session.Asks control := by
  cases control with
  | awaitAck sending =>
      simp only [again, awaitAckAgain, checkForSigintWRQ] at waits ⊢
      split_ifs at waits ⊢
      · exact waits.elim
      · exact ⟨rfl, trivial⟩
      · exact waits.elim
      · exact waits.elim
  | awaitRrqReply writer =>
      simp only [again, awaitRrqReplyAgain] at waits ⊢
      rcases session.control_checkForSigintRRQ event.host writer
          (event.sigintAt 1) _ with ⟨outcome, isOver⟩ | goesOn
      · rw [isOver] at waits
        exact waits.elim
      · rw [goesOn] at waits ⊢
        split_ifs at waits ⊢
        · split at waits
          · exact waits.elim
          · rename_i raw encoded
            exact ⟨rfl, raw, encoded⟩
        · exact waits.elim
  | awaitData writer blockNumber =>
      simp only [again, awaitDataAgain] at waits ⊢
      split_ifs at waits ⊢
      · rcases session.control_checkForSigintRRQ event.host writer
            (event.sigintAt 4) _ with ⟨outcome, isOver⟩ | goesOn
        · rw [isOver] at waits
          exact waits.elim
        · rw [goesOn]
          exact ⟨rfl, trivial⟩
      · rcases session.control_checkForSigintRRQ event.host writer
            (event.sigintAt 4) _ with ⟨outcome, isOver⟩ | goesOn
        · rw [isOver] at waits
          exact waits.elim
        · rw [goesOn] at waits
          exact waits.elim
  | awaitWrqReply => exact isLoop.elim
  | ended outcome => exact isLoop.elim

/-- What is known of a wait which has begun. -/
theorem TftpClient.Begins.sameWait
    {start : TftpClient} (begins : start.Begins) :
    start.session.Asks start.control ∧ start.SameWait 0 start := by
  obtain ⟨isLoop, session, event, head⟩ := begins
  have reached := Session.control_again isLoop (by rw [← head]; exact isLoop)
  rw [← head] at reached
  exact ⟨reached.2, reached.1, rfl, rfl, rfl⟩

/-- Exactly when a wait which has begun is bounded by the retry limit. -/
theorem bounded_iff
    {start : TftpClient} (begins : start.Begins) {stream : Nat → Event}
    (comes : ∀ index, start.Comes (stream index)) :
    start.Bounded stream ↔
      (∃ index ≤ maxRetries, start.Decides (stream index)) ∨
        ∀ index < maxRetries, ¬ start.Ignores (stream index) := by
  obtain ⟨asks, same⟩ := begins.sameWait
  have left :=
    (waitLoop start begins.waits asks).left_iff ⟨same, by decide⟩ comes
      (by decide)
  refine Iff.trans ?_ left
  constructor
  · rintro ⟨count, few, leaves, _⟩
    exact ⟨count, few, leaves⟩
  · rintro ⟨count, few, leaves⟩
    have calm : ∀ index, (stream index).sigintFrom = none := by
      intro index
      obtain ⟨_, _, fromPeer⟩ := comes index
      exact fromPeer.calm
    have unsignalled : ∀ index, (stream index).reception ≠ .sigint := by
      intro index
      obtain ⟨_, _, fromPeer⟩ := comes index
      exact fromPeer.unsignalled
    have sent := length_sent_run start calm unsignalled count
    exact ⟨count, few, leaves, by omega⟩

end IsaTftp.Client
