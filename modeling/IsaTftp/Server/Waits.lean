import IsaTftp.Waits
import IsaTftp.Server.InOrder
import IsaTftp.Server.Numbers

/-!
# The waits of a handler

Every round of a wait loop ends in one of three ways: the packet decides, it
costs a retry, or it is dropped and the next round has the same count.
-/

namespace IsaTftp.Server

open IsaTftp.Wire
open IsaTftp.Files
open IsaTftp.Transfer
open IsaTftp.Library.Runs
open IsaTftp.Library.Retries

/-! ## What a wait makes of a packet -/

/-- The packet is dropped. -/
def Control.Ignores (control : Control) (packet : Bytes) : Prop :=
  match control with
  | .awaitAck _ _ _ => IsIgnored .ACK packet
  | .awaitFirstData _ _ _ _ _ => IsIgnored .DATA packet
  | .awaitData _ _ _ _ => IsIgnored .DATA packet
  | _ => False

/-- The packet was sent before what is waited for. -/
def Control.Repeats (control : Control) (blksize : Nat)
    (packet : Bytes) : Prop :=
  match control with
  | .awaitOackAck _ _ _ => getOpcodeFromRaw packet = .ok .RRQ
  | .awaitAck sending _ _ => IsOldAck sending.blockNumber packet
  | .awaitFirstData _ _ _ _ _ => IsOldData 1 blksize packet
  | .awaitData _ blockNumber _ _ =>
      IsOldData (blockNumber + 1) blksize packet
  | .ended _ => False

def Handler.Ignores (handler : Handler) (event : Event) : Prop :=
  Brings event handler.control.Ignores

/-- A packet which is neither dropped nor counted as a retry. -/
def Handler.Decides (handler : Handler) (event : Event) : Prop :=
  Brings event fun packet =>
    ¬ handler.control.Ignores packet ∧
      ¬ handler.control.Repeats handler.session.blksize packet

/-! ## Rounds -/

/-- The same wait, with so many retries used up. -/
def Control.inRound (control : Control) (retries : Nat) : Control :=
  match control with
  | .awaitOackAck reader _ _ => .awaitOackAck reader retries 0
  | .awaitAck sending _ _ => .awaitAck sending retries 0
  | .awaitFirstData options negotiated writer _ _ =>
      .awaitFirstData options negotiated writer retries 0
  | .awaitData writer blockNumber _ _ =>
      .awaitData writer blockNumber retries 0
  | .ended outcome => .ended outcome

/-- A wait has begun: the head of its loop has run for the first time. -/
structure Handler.Begins (handler : Handler) : Prop where
  waits : handler.outcome = none
  head : ∃ (session : Session) (host : HostChoice),
    handler = session.again host handler.control 0

/-- The wait is over. -/
def Control.Leaves (control next : Control) : Prop :=
  ∀ retries, next ≠ control.inRound retries

/-- Before the first block the opening reply could be written. -/
def Control.Opens (control : Control) : Prop :=
  match control with
  | .awaitFirstData options negotiated _ _ _ =>
      ∃ raw, Session.openingReply options negotiated = .ok raw
  | _ => True

theorem Control.leaves_ended
    {control : Control} (waits : ∀ outcome, control ≠ .ended outcome)
    (outcome : Outcome) : control.Leaves (.ended outcome) := by
  intro retries
  cases control with
  | ended other => exact absurd rfl (waits other)
  | _ => intro same; cases same

/-- The head of a loop goes on while there are retries. -/
theorem Session.again_of_lt
    (session : Session) (host : HostChoice) {control : Control}
    (waits : ∀ outcome, control ≠ .ended outcome)
    (opens : control.Opens) {retries : Nat}
    (more : retries < maxRetries) :
    (session.again host control retries).control =
        control.inRound retries ∧
      (session.again host control retries).session.clientAddress =
          session.clientAddress ∧
        (session.again host control retries).session.blksize =
          session.blksize := by
  cases control with
  | awaitOackAck reader =>
      simp [again, awaitOackAckAgain, more, Control.inRound]
  | awaitAck sending =>
      simp [again, awaitAckAgain, more, Control.inRound]
  | awaitFirstData options negotiated writer =>
      obtain ⟨raw, encoded⟩ := opens
      simp [again, awaitFirstDataAgain, more, encoded, Control.inRound]
  | awaitData writer blockNumber =>
      simp [again, awaitDataAgain, more, Control.inRound]
  | ended outcome => exact absurd rfl (waits outcome)

/-- And it ends when they are used up. -/
theorem Session.again_of_not_lt
    (session : Session) (host : HostChoice) {control : Control}
    (waits : ∀ outcome, control ≠ .ended outcome) {retries : Nat}
    (last : ¬ retries < maxRetries) :
    control.Leaves (session.again host control retries).control := by
  have over_ : ∃ outcome,
      (session.again host control retries).control =
        .ended outcome := by
    cases control with
    | awaitOackAck reader =>
        simp [again, awaitOackAckAgain, last]
    | awaitAck sending =>
        simp only [again, awaitAckAgain, last, if_false]
        split_ifs
        · exact ⟨_, rfl⟩
        · exact ⟨_, rfl⟩
    | awaitFirstData options negotiated writer =>
        simp [again, awaitFirstDataAgain, last, abandonWrite]
    | awaitData writer blockNumber =>
        simp [again, awaitDataAgain, last, abandonWrite]
    | ended outcome => exact ⟨outcome, rfl⟩
  obtain ⟨outcome, isOver⟩ := over_
  rw [isOver]
  exact Control.leaves_ended waits outcome

/-! ## One round -/

/-- What a round can do. -/
inductive Round (session : Session) (host : HostChoice)
    (control : Control) (retries : Nat) (event : Event) :
    Handler → Prop where
  | ignores
      (ignored : Brings event control.Ignores) :
      Round session host control retries event
        (session.again host control retries)
  | counts {next : Session}
      (sameClient : next.clientAddress = session.clientAddress)
      (sameSize : next.blksize = session.blksize)
      (heard : ¬ Brings event control.Ignores)
      (undecided :
        ¬ Brings event fun packet =>
          ¬ control.Ignores packet ∧
            ¬ control.Repeats session.blksize packet) :
      Round session host control retries event
        (next.again host control (retries + 1))
  | decides {next : Handler}
      (decided :
        Brings event fun packet =>
          ¬ control.Ignores packet ∧
            ¬ control.Repeats session.blksize packet)
      (leaves : control.Leaves next.control) :
      Round session host control retries event next

/-- A timeout is counted. -/
theorem Round.timeout
    {session : Session} {event : Event}
    (silent : event.reception = .timeout) (host : HostChoice)
    (control : Control) (retries : Nat) :
    Round session host control retries event
      (session.increaseTimeout.again host control (retries + 1)) :=
  .counts rfl rfl (not_brings_of_timeout silent _)
    (not_brings_of_timeout silent _)

/-- A packet which comes again is counted. -/
theorem Round.repeats
    {session next : Session} {host : HostChoice} {control : Control}
    {retries : Nat} {event : Event} {sender : Address} {bytes : Bytes}
    (sameClient : next.clientAddress = session.clientAddress)
    (sameSize : next.blksize = session.blksize)
    (heard : event.reception = .datagram sender bytes)
    (looked : ¬ control.Ignores (bytes.take UdpClient.maxPacketSize))
    (old :
      control.Repeats session.blksize
        (bytes.take UdpClient.maxPacketSize)) :
    Round session host control retries event
      (next.again host control (retries + 1)) := by
  apply Round.counts sameClient sameSize
  · rw [brings_iff heard]
    exact looked
  · rw [brings_iff heard]
    exact fun undecided => undecided.2 old

theorem Session.recievePacketFromClient_timeout
    {session : Session} {event : Event}
    (silent : event.reception = .timeout) (foreign : Nat) :
    session.recievePacketFromClient foreign event.reception =
      (session, .threw .udpTimeout) := by
  rw [silent]
  rfl

theorem Session.recievePacketFromClient_first
    {session : Session} {event : Event} {bytes : Bytes}
    (heard : event.reception = .datagram session.clientAddress bytes) :
    session.recievePacketFromClient 0 event.reception =
      (session, .delivered (bytes.take UdpClient.maxPacketSize)) := by
  rw [heard]
  simp [recievePacketFromClient, recievePacketFrom_peer, maxRetries]

/-- A block is sent, or the function ends. -/
theorem Session.control_sendBlock
    (session : Session) (host : HostChoice) (reader : Reader)
    (blockNumber : Nat) :
    (∃ outcome,
        (session.sendBlock host reader blockNumber).control =
          .ended outcome) ∨
      ∃ sending, sending.blockNumber = blockNumber ∧
        (session.sendBlock host reader blockNumber).control =
          .awaitAck sending 0 0 := by
  unfold sendBlock
  split
  · exact Or.inl ⟨_, rfl⟩
  · exact Or.inr ⟨_, rfl, rfl⟩

/-- A block is stored, and the next one is awaited, or the function ends. -/
theorem Session.control_storeBlock
    (session : Session) (host : HostChoice) (writer : Writer)
    (blockNumber : Nat) (data : Bytes) :
    (∃ outcome,
        (session.storeBlock host writer blockNumber data).control =
          .ended outcome) ∨
      ∃ next,
        (session.storeBlock host writer blockNumber data).control =
          .awaitData next blockNumber 0 0 := by
  unfold storeBlock
  split
  · exact Or.inl ⟨_, rfl⟩
  · exact Or.inl ⟨_, rfl⟩
  · dsimp only
    split_ifs
    · exact Or.inl ⟨_, rfl⟩
    · unfold awaitDataAgain
      split_ifs
      · exact Or.inr ⟨_, rfl⟩
      · exact Or.inl ⟨_, rfl⟩

/-- A second RRQ, and nothing else, makes the wait for ACK 0 go on. -/
theorem classifyOackReply_eq_requestedAgain_iff {packet : Bytes} :
    Session.classifyOackReply packet = .ok .requestedAgain ↔
      getOpcodeFromRaw packet = .ok .RRQ := by
  unfold Session.classifyOackReply
  cases known : getOpcodeFromRaw packet with
  | error exception => simp [bind, Except.bind]
  | ok opcode =>
      simp only [bind, Except.bind, throw, throwThe,
        MonadExceptOf.throw, pure, Except.pure]
      cases opcode with
      | ACK =>
          cases AckPacket.ofRaw packet with
          | error exception => simp
          | ok ack =>
              dsimp only
              split_ifs <;> simp
      | ERROR => cases ErrorPacket.ofRaw packet <;> simp
      | _ => simp

section Rounds

variable {session : Session} {event : Event}
variable (fromPeer : FromPeer session.clientAddress event)

include fromPeer

theorem Round.stepAwaitOackAck (reader : Reader) (retries : Nat) :
    Round session event.host (.awaitOackAck reader retries 0) retries
      event (session.stepAwaitOackAck reader retries 0 event) := by
  have ends_ : ∀ outcome,
      (Control.awaitOackAck reader retries 0).Leaves
        (.ended outcome) :=
    Control.leaves_ended fun _ same => by cases same
  unfold Session.stepAwaitOackAck
  rcases fromPeer.reception with silent | ⟨bytes, heard⟩
  · simp only [Session.recievePacketFromClient_timeout silent]
    exact .timeout silent event.host (.awaitOackAck reader retries 0) retries
  · simp only [Session.recievePacketFromClient_first heard]
    have again :=
      @classifyOackReply_eq_requestedAgain_iff
        (bytes.take UdpClient.maxPacketSize)
    cases classified :
        Session.classifyOackReply
          (bytes.take UdpClient.maxPacketSize) with
    | error exception =>
        rw [classified] at again
        refine .decides ?_ (ends_ _)
        rw [brings_iff heard]
        exact ⟨fun ignored => ignored, fun rrq => by cases again.mpr rrq⟩
    | ok reply =>
        rw [classified] at again
        cases reply with
        | acknowledged =>
            refine .decides ?_ ?_
            · rw [brings_iff heard]
              exact
                ⟨fun ignored => ignored, fun rrq => by cases again.mpr rrq⟩
            · rcases session.timeoutReset.control_sendBlock event.host
                  reader 1 with ⟨outcome, isOver⟩ | ⟨sending, _, waits⟩
              · simp only [isOver]
                exact ends_ outcome
              · simp only [waits]
                intro retries same
                cases same
        | requestedAgain =>
            exact .repeats rfl rfl heard not_false (again.mp rfl)

theorem Round.stepAwaitAck (sending : Sending) (retries : Nat) :
    Round session event.host (.awaitAck sending retries 0) retries event
      (session.stepAwaitAck sending retries 0 event) := by
  have ends_ : ∀ outcome,
      (Control.awaitAck sending retries 0).Leaves
        (.ended outcome) :=
    Control.leaves_ended fun _ same => by cases same
  unfold Session.stepAwaitAck
  rcases fromPeer.reception with silent | ⟨bytes, heard⟩
  · simp only [Session.recievePacketFromClient_timeout silent]
    exact .timeout silent event.host (.awaitAck sending retries 0) retries
  · simp only [Session.recievePacketFromClient_first heard]
    rcases classifyAck_cases (text "Client") sending.blockNumber
        (bytes.take UdpClient.maxPacketSize) with
      ⟨classified, ignored⟩ | ⟨classified, looked, old⟩ |
        ⟨outcome, looked, current⟩
    · simp only [classified]
      exact .ignores ((brings_iff heard).mpr ignored)
    · simp only [classified]
      exact .repeats rfl rfl heard looked old
    · have decided :
          Brings event fun packet =>
            ¬ IsIgnored .ACK packet ∧
              ¬ IsOldAck sending.blockNumber packet :=
        (brings_iff heard).mpr ⟨looked, current⟩
      rcases outcome with received | ⟨exception, refused⟩
      · simp only [received]
        refine .decides decided ?_
        unfold Session.afterAck
        split_ifs
        · exact ends_ _
        · rcases session.timeoutReset.control_sendBlock event.host
              sending.reader (sending.blockNumber + 1) with
            ⟨outcome, isOver⟩ | ⟨next, following, waits⟩
          · rw [isOver]
            exact ends_ outcome
          · rw [waits]
            intro retries same
            cases same
            omega
      · simp only [refused]
        exact .decides decided (ends_ _)

theorem Round.stepAwaitFirstData
    (options negotiated : List TftpOption) (writer : Writer)
    (retries : Nat) :
    Round session event.host
      (.awaitFirstData options negotiated writer retries 0) retries event
      (session.stepAwaitFirstData options negotiated writer retries 0
        event) := by
  have ends_ : ∀ outcome,
      (Control.awaitFirstData options negotiated writer retries 0).Leaves
        (.ended outcome) :=
    Control.leaves_ended fun _ same => by cases same
  unfold Session.stepAwaitFirstData
  rcases fromPeer.reception with silent | ⟨bytes, heard⟩
  · simp only [Session.recievePacketFromClient_timeout silent]
    exact
      .timeout silent event.host
        (.awaitFirstData options negotiated writer retries 0) retries
  · simp only [Session.recievePacketFromClient_first heard]
    rcases classifyData_ignores (text "Client") 1 2 session.blksize
        (bytes.take UdpClient.maxPacketSize) with
      ⟨classified, ignored⟩ | ⟨classified, looked, old⟩ |
        ⟨outcome, looked, current⟩
    · simp only [classified]
      exact .ignores ((brings_iff heard).mpr ignored)
    · simp only [classified]
      exact .repeats rfl rfl heard looked old
    · have decided :
          Brings event fun packet =>
            ¬ IsIgnored .DATA packet ∧
              ¬ IsOldData 1 session.blksize packet :=
        (brings_iff heard).mpr ⟨looked, current⟩
      rcases outcome with ⟨data, taken⟩ | ⟨exception, refused⟩
      · simp only [taken]
        refine .decides decided ?_
        rcases session.control_storeBlock event.host writer 1 data with
          ⟨outcome, isOver⟩ | ⟨next, waits⟩
        · rw [isOver]
          exact ends_ outcome
        · rw [waits]
          intro retries same
          cases same
      · simp only [refused]
        exact .decides decided (ends_ _)

theorem Round.stepAwaitData (writer : Writer)
    (blockNumber retries : Nat) :
    Round session event.host (.awaitData writer blockNumber retries 0)
      retries event
      (session.stepAwaitData writer blockNumber retries 0 event) := by
  have ends_ : ∀ outcome,
      (Control.awaitData writer blockNumber retries 0).Leaves
        (.ended outcome) :=
    Control.leaves_ended fun _ same => by cases same
  unfold Session.stepAwaitData
  rcases fromPeer.reception with silent | ⟨bytes, heard⟩
  · simp only [Session.recievePacketFromClient_timeout silent]
    exact
      .timeout silent event.host (.awaitData writer blockNumber retries 0)
        retries
  · simp only [Session.recievePacketFromClient_first heard]
    rcases classifyData_ignores (text "Server") (blockNumber + 1)
        (blockNumber + 1) session.blksize
        (bytes.take UdpClient.maxPacketSize) with
      ⟨classified, ignored⟩ | ⟨classified, looked, old⟩ |
        ⟨outcome, looked, current⟩
    · simp only [classified]
      exact .ignores ((brings_iff heard).mpr ignored)
    · simp only [classified]
      exact .repeats rfl rfl heard looked old
    · have decided :
          Brings event fun packet =>
            ¬ IsIgnored .DATA packet ∧
              ¬ IsOldData (blockNumber + 1) session.blksize packet :=
        (brings_iff heard).mpr ⟨looked, current⟩
      rcases outcome with ⟨data, taken⟩ | ⟨exception, refused⟩
      · simp only [taken]
        refine .decides decided ?_
        rcases session.control_storeBlock event.host writer
            (blockNumber + 1) data with ⟨outcome, isOver⟩ | ⟨next, waits⟩
        · rw [isOver]
          exact ends_ outcome
        · rw [waits]
          intro retries same
          cases same
      · simp only [refused]
        exact .decides decided (ends_ _)

/-- One round of whatever loop the handler is in. -/
theorem Round.step
    {control : Control} (waits : ∀ outcome, control ≠ .ended outcome)
    (retries : Nat) :
    Round session event.host (control.inRound retries) retries event
      (Handler.step ⟨session, control.inRound retries⟩ event) := by
  cases control with
  | awaitOackAck reader => exact stepAwaitOackAck fromPeer reader retries
  | awaitAck sending => exact stepAwaitAck fromPeer sending retries
  | awaitFirstData options negotiated writer =>
      exact stepAwaitFirstData fromPeer options negotiated writer retries
  | awaitData writer blockNumber =>
      exact stepAwaitData fromPeer writer blockNumber retries
  | ended outcome => exact absurd rfl (waits outcome)

end Rounds

/-! ## The budget of a wait -/

@[simp]
theorem Control.ignores_inRound (control : Control) (retries : Nat) :
    (control.inRound retries).Ignores = control.Ignores := by
  cases control <;> rfl

@[simp]
theorem Control.repeats_inRound (control : Control) (retries : Nat) :
    (control.inRound retries).Repeats = control.Repeats := by
  cases control <;> rfl

@[simp]
theorem Control.inRound_inRound (control : Control)
    (first second : Nat) :
    (control.inRound first).inRound second = control.inRound second := by
  cases control <;> rfl

@[simp]
theorem Session.again_inRound (session : Session) (host : HostChoice)
    (control : Control) (retries again : Nat) :
    session.again host (control.inRound retries) again =
      session.again host control again := by
  cases control <;> rfl

/-- The handler is still in the wait of another one, at the same client. -/
structure Handler.SameWait (start : Handler) (retries : Nat)
    (handler : Handler) : Prop where
  control : handler.control = start.control.inRound retries
  client : handler.session.clientAddress = start.session.clientAddress
  size : handler.session.blksize = start.session.blksize

section Budget

variable {start handler : Handler} {retries : Nat} {event : Event}

/-- The head of the loop, after a round which does not decide. -/
theorem Handler.SameWait.again
    (waits : ∀ outcome, start.control ≠ .ended outcome)
    (opens : start.control.Opens) (session : Session)
    (client : session.clientAddress = start.session.clientAddress)
    (size : session.blksize = start.session.blksize)
    (host : HostChoice) (more : retries < maxRetries) :
    start.SameWait retries
      (session.again host start.control retries) := by
  obtain ⟨control, sameClient, sameSize⟩ :=
    session.again_of_lt host waits opens more
  exact ⟨control, sameClient.trans client, sameSize.trans size⟩

/-- What a round says about an event. -/
theorem Handler.SameWait.round
    (waits : ∀ outcome, start.control ≠ .ended outcome)
    (same : start.SameWait retries handler)
    (fromPeer : FromPeer start.session.clientAddress event) :
    (start.Ignores event ∧
        handler.step event =
          handler.session.again event.host start.control retries) ∨
      (∃ next : Session,
          next.clientAddress = start.session.clientAddress ∧
            next.blksize = start.session.blksize ∧
              ¬ start.Ignores event ∧ ¬ start.Decides event ∧
                handler.step event =
                  next.again event.host start.control (retries + 1)) ∨
        (start.Decides event ∧
          start.control.Leaves (handler.step event).control) := by
  obtain ⟨session, control⟩ := handler
  obtain ⟨rfl, client, size⟩ := same
  have fromClient : FromPeer session.clientAddress event := by
    rw [show session.clientAddress = _ from client]
    exact fromPeer
  have round := Round.step fromClient waits retries
  generalize result :
    Handler.step ⟨session, start.control.inRound retries⟩ event = next
    at round ⊢
  have sameSize : session.blksize = start.session.blksize := size
  cases round with
  | ignores ignored =>
      left
      simp only [Control.ignores_inRound] at ignored
      exact ⟨ignored, session.again_inRound _ _ _ _⟩
  | counts nextClient nextSize heard undecided =>
      rename_i reached
      simp only [Control.ignores_inRound, Control.repeats_inRound,
        sameSize] at heard undecided
      right
      left
      exact
        ⟨reached, nextClient.trans client, nextSize.trans size, heard,
          undecided, reached.again_inRound _ _ _ _⟩
  | decides decided leaves =>
      simp only [Control.ignores_inRound, Control.repeats_inRound,
        sameSize] at decided
      right
      right
      refine ⟨decided, ?_⟩
      intro again
      rw [← Control.inRound_inRound _ retries]
      exact leaves again

theorem Handler.Decides.not_ignores
    (decides : start.Decides event) : ¬ start.Ignores event := by
  obtain ⟨sender, bytes, heard, looked, _⟩ := decides
  intro ignores
  exact looked ((brings_iff heard).mp ignores)

/-- The wait of a handler, as a loop with a budget of retries. -/
def waitLoop (start : Handler)
    (waits : ∀ outcome, start.control ≠ .ended outcome)
    (opens : start.control.Opens) :
    RetryLoop Handler.step maxRetries where
  Inside retries handler :=
    start.SameWait retries handler ∧ retries < maxRetries
  Left handler := start.control.Leaves handler.control
  Comes := FromPeer start.session.clientAddress
  Decides := start.Decides
  Ignores := start.Ignores
  outside inside left := left _ inside.1.control
  decided := by
    rintro retries handler event ⟨same, _⟩ comes decides
    rcases same.round waits comes with
      ⟨ignores, _⟩ | ⟨_, _, _, _, undecided, _⟩ | ⟨_, leaves⟩
    · exact absurd ignores decides.not_ignores
    · exact absurd decides undecided
    · exact leaves
  ignored := by
    rintro retries handler event ⟨same, more⟩ comes undecided ignores
    rcases same.round waits comes with
      ⟨_, again⟩ | ⟨_, _, _, heard, _⟩ | ⟨decides, _⟩
    · rw [again]
      exact
        ⟨.again waits opens handler.session same.client same.size _ more,
          more⟩
    · exact absurd ignores heard
    · exact absurd decides undecided
  counted := by
    rintro retries handler event ⟨same, _⟩ comes undecided heard more
    rcases same.round waits comes with
      ⟨ignores, _⟩ | ⟨next, client, size, _, _, again⟩ | ⟨decides, _⟩
    · exact absurd ignores heard
    · rw [again]
      exact ⟨.again waits opens next client size _ more, more⟩
    · exact absurd decides undecided
  exhausted := by
    rintro retries handler event ⟨same, _⟩ comes undecided heard last
    rcases same.round waits comes with
      ⟨ignores, _⟩ | ⟨next, _, _, _, _, again⟩ | ⟨decides, _⟩
    · exact absurd ignores heard
    · rw [again]
      exact next.again_of_not_lt _ waits last
    · exact absurd decides undecided

end Budget

/-! ## Datagrams -/

/-- A step sends at most one datagram. -/
def Session.SendsOne (session : Session) (handler : Handler) : Prop :=
  handler.sent.length ≤ session.udp.sent.length + 1

namespace Session.SendsOne

variable {session : Session}

theorem silent (session : Session) (control : Control) :
    session.SendsOne ⟨session, control⟩ :=
  Nat.le_succ _

theorem send (session : Session) (raw : Bytes) (reciever : Address)
    (control : Control) :
    session.SendsOne
      ⟨{ session with udp := session.udp.send raw reciever },
        control⟩ := by
  simp [SendsOne, Handler.sent]

theorem raise (session : Session) (exception : Exception) :
    session.SendsOne (session.raise exception) := by
  show (reportException session.udp session.clientAddress
    exception).sent.length ≤ _
  rcases sent_reportException session.udp session.clientAddress exception
    with same | ⟨packet, more⟩
  · simp [same]
  · simp [more]

theorem abandonWrite (session : Session) (host : HostChoice)
    (writer : Writer) (exception : Exception) :
    session.SendsOne (session.abandonWrite host writer exception) :=
  raise (session.withStorage (writer.close session.storage host)) exception

theorem sendBlock (session : Session) (host : HostChoice)
    (reader : Reader) (blockNumber : Nat) :
    session.SendsOne (session.sendBlock host reader blockNumber) := by
  unfold Session.sendBlock
  split
  · exact raise (session.withStorage _) _
  · exact send (session.withStorage _) _ _ _

theorem again (session : Session) (host : HostChoice)
    (control : Control) (retries : Nat) :
    session.SendsOne (session.again host control retries) := by
  cases control with
  | awaitOackAck reader =>
      simp only [Session.again, Session.awaitOackAckAgain]
      split_ifs
      · exact silent session _
      · exact raise session _
  | awaitAck sending =>
      simp only [Session.again, Session.awaitAckAgain]
      split_ifs
      · exact silent session _
      · exact silent session.timeoutReset _
      · exact raise session _
  | awaitFirstData options negotiated writer =>
      simp only [Session.again, Session.awaitFirstDataAgain]
      split_ifs
      · split
        · exact abandonWrite session host writer _
        · exact send session _ _ _
      · exact abandonWrite session host writer _
  | awaitData writer blockNumber =>
      simp only [Session.again, Session.awaitDataAgain]
      split_ifs
      · exact send session _ _ _
      · exact abandonWrite session host writer _
  | ended outcome => exact silent session _

theorem storeBlock (session : Session) (host : HostChoice)
    (writer : Writer) (blockNumber : Nat) (data : Bytes) :
    session.SendsOne
      (session.storeBlock host writer blockNumber data) := by
  unfold Session.storeBlock
  split
  · exact silent (session.withStorage _) _
  · exact abandonWrite (session.withStorage _) host _ _
  · dsimp only
    split_ifs
    · unfold Session.finishWrite
      exact
        send (session.withStorage _).timeoutReset _ _ (.ended .returned)
    · exact
        again (session.withStorage _).timeoutReset host
          (.awaitData _ blockNumber 0 0) 0

/-- Nobody but SIGINT makes a step send more. -/
theorem step
    (session : Session) (control : Control) {event : Event}
    (unsignalled : event.reception ≠ .sigint) :
    session.SendsOne (Handler.step ⟨session, control⟩ event) := by
  have step := Handler.step_cases ⟨session, control⟩ event
  generalize Handler.step ⟨session, control⟩ event = next at step ⊢
  cases step with
  | refuses sender foreign => exact send session _ sender _
  | again retries => exact again session event.host control retries
  | slowerAgain retries =>
      exact again session.increaseTimeout event.host control retries
  | raises _ exception => exact raise session exception
  | abandons _ exception =>
      exact abandonWrite session event.host _ exception
  | interruptsRRQ _ noticed => exact absurd noticed unsignalled
  | interruptsWRQ _ noticed => exact absurd noticed unsignalled
  | begins => exact sendBlock session.timeoutReset event.host _ 1
  | acknowledged =>
      unfold Session.afterAck
      split_ifs
      · exact silent session.timeoutReset _
      · exact sendBlock session.timeoutReset event.host _ _
  | stores _ blockNumber data =>
      exact storeBlock session event.host _ blockNumber data
  | isOver => exact silent session control

end Session.SendsOne

/-! ## Bounded waits -/

/--
The wait is over after so many events as there are retries, or one behind them
decides.  Meanwhile there is one datagram for each of them; the one which began
the wait was sent before.
-/
def Handler.Bounded (start : Handler) (stream : Nat → Event) : Prop :=
  ∃ count ≤ maxRetries,
    (start.control.Leaves
        (run Handler.step start (firstEvents stream count)).control ∨
      start.Decides (stream count) ∧
        start.control.Leaves
          (run Handler.step start
            (firstEvents stream (count + 1))).control) ∧
      (run Handler.step start (firstEvents stream count)).sent.length ≤
        start.sent.length + maxRetries

theorem length_sent_run
    (start : Handler) {stream : Nat → Event}
    (unsignalled : ∀ index, (stream index).reception ≠ .sigint)
    (count : Nat) :
    (run Handler.step start (firstEvents stream count)).sent.length ≤
      start.sent.length + count := by
  induction count with
  | zero => exact Nat.le_refl _
  | succ count induction =>
      rw [run_firstEvents_succ]
      have one :=
        Session.SendsOne.step
          (run Handler.step start (firstEvents stream count)).session
          (run Handler.step start (firstEvents stream count)).control
          (unsignalled count)
      exact Nat.le_trans one (Nat.succ_le_succ induction)

/-- What is known of a wait which has begun. -/
theorem Handler.Begins.sameWait
    {start : Handler} (begins : start.Begins) :
    (∀ outcome, start.control ≠ .ended outcome) ∧
      start.control.Opens ∧ start.SameWait 0 start := by
  obtain ⟨waits, session, host, head⟩ := begins
  have going : ∀ outcome, start.control ≠ .ended outcome := by
    intro outcome isOver
    simp [Handler.outcome, isOver] at waits
  have opens : start.control.Opens := by
    cases control : start.control with
    | awaitFirstData options negotiated writer retries foreign =>
        rw [control] at head
        have reached := congrArg Handler.control head
        rw [control] at reached
        obtain ⟨_, _, raw, opening, _⟩ :=
          Session.waits_awaitFirstDataAgain reached.symm
        exact ⟨raw, opening⟩
    | _ => trivial
  refine ⟨going, opens, ?_, rfl, rfl⟩
  have reached :=
    (session.again_of_lt host going opens (by decide : 0 < maxRetries)).1
  rw [← head] at reached
  exact reached

/-- Exactly when a wait which has begun is bounded by the retry limit. -/
theorem bounded_iff
    {start : Handler} (begins : start.Begins) {stream : Nat → Event}
    (fromPeer : ∀ index,
      FromPeer start.session.clientAddress (stream index)) :
    start.Bounded stream ↔
      (∃ index ≤ maxRetries, start.Decides (stream index)) ∨
        ∀ index < maxRetries, ¬ start.Ignores (stream index) := by
  obtain ⟨waits, opens, same⟩ := begins.sameWait
  have left :=
    (waitLoop start waits opens).left_iff ⟨same, by decide⟩ fromPeer
      (by decide)
  refine Iff.trans ?_ left
  constructor
  · rintro ⟨count, few, leaves, _⟩
    exact ⟨count, few, leaves⟩
  · rintro ⟨count, few, leaves⟩
    have sent :=
      length_sent_run start (fun index => (fromPeer index).unsignalled)
        count
    exact ⟨count, few, leaves, by omega⟩

end IsaTftp.Server
