import IsaTftp.Upload.Losses

/-!
# Uploads which lose a block or the last ACK

A block which is lost is not sent again, and neither is the last ACK.  In both
cases the client waits in vain; in the second one the server has the file.
-/

namespace IsaTftp.Upload

open IsaTftp.Wire
open IsaTftp.Files
open IsaTftp.Transfer
open IsaTftp.Client
open IsaTftp.Server
open IsaTftp.Library.Chunking

variable {size count retries : Nat} {content : Bytes} {path : Path}
variable {before : FileSystem} {address : Address}
variable {traffic : Traffic} {loss : Loss} {served : Prop}

/-- The client waits for the ACK of its block, or it has thrown. -/
def LacksAck (address : Address) (count : Nat) (client : TftpClient) :
    Prop :=
  (client.session.serverAddress = address ∧ ∃ sending retries,
      sending.blockNumber = UInt16.ofNat (count + 1) ∧
        client.control = .awaitAck sending retries 0) ∨
    ∃ exception, client.control = .ended (.threw exception)

/--
The handler waits for that block or has thrown; if it was `served` all blocks
before, it may have returned.
-/
inductive LacksData (count : Nat) (served : Prop) (handler : Handler) :
    Prop where
  | first {options negotiated : List TftpOption} {writer : Writer}
      {retries : Nat} (none_ : count = 0)
      (waits : handler.control =
        .awaitFirstData options negotiated writer retries 0)
  | later {writer : Writer} {retries : Nat}
      (waits : handler.control = .awaitData writer count retries 0)
  | threw {exception : Exception}
      (ended : handler.control = .ended (.threw exception))
  | returned (served : served)
      (ended : handler.control = .ended .returned)

/-- Nothing is on the way which takes the client further. -/
def NoAck (count : Nat) (carried : Option Bytes) : Prop :=
  ∀ bytes, carried = some bytes →
    bytes = (ackOf count).makeRaw ∨
      getOpcodeFromRaw bytes = .ok .OACK ∨
        getOpcodeFromRaw bytes = .ok .ERROR

/-- A block was lost; or the last ACK, if the handler was `served`. -/
structure Doomed (address : Address) (count : Nat) (served : Prop)
    (traffic : Traffic) : Prop where
  client : LacksAck address count traffic.client
  handler : LacksData count served traffic.handler
  carried : NoAck count traffic.toClient
  few : count + 1 < 65536

theorem noAck_none : NoAck count none := by
  intro bytes sent
  cases sent

theorem classifyAck_of_oack
    (responder : Bytes) {blockNumber : Nat} {packet : Bytes}
    (opcode : getOpcodeFromRaw packet = .ok .OACK) :
    classifyAck responder blockNumber packet = .ok .ignored := by
  simp only [classifyAck, opcode, bind, Except.bind]
  rfl

/-! ## The client -/

/-- It waits on, or throws. -/
theorem LacksAck.awaitAckAgain
    (session : Client.Session) (there : session.serverAddress = address)
    {sending : Client.Sending}
    (number : sending.blockNumber = UInt16.ofNat (count + 1))
    (retries : Nat) {event : Event} (quiet : event.sigintFrom = none) :
    LacksAck address count
        (session.awaitAckAgain sending retries event) ∧
      OnlyError
        (news session.udp.sent
          (session.awaitAckAgain sending retries event).sent) := by
  have unseen : ∀ check, event.sigintAt check = false := by
    intro check
    simp [Event.sigintAt, quiet]
  simp only [Client.Session.awaitAckAgain,
    Client.Session.checkForSigintWRQ, unseen, Bool.false_eq_true, if_false]
  split_ifs
  · constructor
    · exact Or.inl ⟨there, sending, retries, number, rfl⟩
    · rw [show TftpClient.sent ⟨session, .awaitAck sending retries 0⟩ =
        session.udp.sent from rfl, news_self]
      exact onlyError_none
  · constructor
    · exact Or.inr ⟨_, rfl⟩
    · intro bytes sent
      exact news_reportException sent

/-- What a client which lacks an ACK hears. -/
theorem LacksAck.step
    {session : Client.Session} {sending : Client.Sending}
    (number : sending.blockNumber = UInt16.ofNat (count + 1))
    (few : count + 1 < 65536) {bytes : Bytes}
    (carried : NoAck count (some bytes)) (retries : Nat) :
    let event := deliver session.serverAddress bytes
    let client :=
      TftpClient.step ⟨session, .awaitAck sending retries 0⟩ event
    client =
        session.increaseTimeout.awaitAckAgain sending (retries + 1) event ∨
      client = session.awaitAckAgain sending retries event ∨
        ∃ exception, client = session.raise exception := by
  intro event client
  have hears : ∀ packet, bytes.take UdpClient.maxPacketSize = packet →
      recievePacketFrom session.serverAddress session.udp 0
          event.reception =
        (session.udp, .delivered packet) := by
    rintro packet rfl
    simp only [event, deliver, recievePacketFrom_peer, maxRetries,
      Nat.zero_lt_succ, if_true]
  rcases carried bytes rfl with rfl | opcode | opcode
  · left
    have old :
        classifyAck (text "Server") sending.blockNumber.toNat
          (ackOf count).makeRaw = .ok .old := by
      apply classifyAck_old
      rw [number, UInt16.toNat_ofNat_of_lt' few]
      exact ackOf_lt count
    simp only [client, TftpClient.step, Client.Session.stepAwaitAck,
      Client.Session.recievePacketFromServer, hears _ rfl]
    rw [show (ackOf count).makeRaw.take UdpClient.maxPacketSize =
      (ackOf count).makeRaw from rfl, old]
  · right
    left
    rw [← Transfer.getOpcodeFromRaw_take] at opcode
    simp only [client, TftpClient.step, Client.Session.stepAwaitAck,
      Client.Session.recievePacketFromServer, hears _ rfl,
      classifyAck_of_oack _ opcode]
  · right
    right
    rw [← Transfer.getOpcodeFromRaw_take] at opcode
    simp only [client, TftpClient.step, Client.Session.stepAwaitAck,
      Client.Session.recievePacketFromServer, hears _ rfl,
      classifyAck_of_error opcode]
    exact ⟨_, rfl⟩

/-- The client does not get any further. -/
theorem LacksAck.turn
    (lacks : LacksAck address count traffic.client)
    (carried : NoAck count traffic.toClient) (few : count + 1 < 65536) :
    LacksAck address count (traffic.clientAfter address loss) ∧
      OnlyError (traffic.toHandler address loss) := by
  rw [Traffic.toHandler, Traffic.clientAfter]
  obtain ⟨client, handler, toClient⟩ := traffic
  dsimp only at lacks carried ⊢
  rcases lacks with
    ⟨there, sending, retries, number, waits⟩ | ⟨exception, ended⟩
  · obtain ⟨session, control⟩ := client
    obtain rfl : control = _ := waits
    obtain rfl : session.serverAddress = address := there
    have waitsOn : ∀ event, event.sigintFrom = none →
        LacksAck session.serverAddress count
            (session.increaseTimeout.awaitAckAgain sending (retries + 1)
              event) ∧ _ :=
      fun event quiet =>
        awaitAckAgain session.increaseTimeout rfl number (retries + 1) quiet
    rcases arrival_cases session.serverAddress loss.toClient toClient with
      silent | ⟨bytes, rfl, arrives⟩
    · rw [silent]
      exact waitsOn {} rfl
    · rw [arrives]
      rcases LacksAck.step number few carried retries with
        again | again | ⟨exception, throws⟩
      · rw [again]
        exact waitsOn _ rfl
      · rw [again]
        exact awaitAckAgain session rfl number retries rfl
      · rw [throws]
        constructor
        · exact Or.inr ⟨exception, rfl⟩
        · intro bytes sent
          exact news_reportException sent
  · have stays : ∀ event, client.step event = client := by
      intro event
      rw [TftpClient.step, ended]
    rw [stays, news_self]
    exact ⟨Or.inr ⟨exception, ended⟩, onlyError_none⟩

/-! ## The handler -/

theorem LacksData.abandonWrite
    (session : Server.Session) (host : HostChoice) (writer : Writer)
    (exception : Exception) :
    LacksData count served (session.abandonWrite host writer exception) ∧
      NoAck count
        (news session.udp.sent
          (session.abandonWrite host writer exception).sent) := by
  constructor
  · exact .threw rfl
  · intro bytes sent
    exact Or.inr (Or.inr (news_reportException sent))

/-- It repeats its ACK, or gives up. -/
theorem LacksData.awaitDataAgain
    (session : Server.Session) (host : HostChoice) (writer : Writer)
    (retries : Nat) :
    LacksData count served
        (session.awaitDataAgain host writer count retries) ∧
      NoAck count
        (news session.udp.sent
          (session.awaitDataAgain host writer count retries).sent) := by
  unfold Server.Session.awaitDataAgain
  split_ifs
  · constructor
    · exact .later rfl
    · intro bytes sent
      left
      have same :
          news session.udp.sent
              (session.udp.sent ++
                [(session.clientAddress, (ackOf count).makeRaw)]) =
            some bytes :=
        sent
      rw [news_append] at same
      exact (Option.some.inj same).symm
  · exact abandonWrite session host writer timeoutError

/-- What opens an upload does not acknowledge a block. -/
theorem noAck_openingReply
    {options negotiated : List TftpOption} {raw : Bytes}
    (reply :
      Server.Session.openingReply options negotiated = .ok raw) :
    NoAck 0 (some raw) := by
  intro bytes same
  obtain rfl := Option.some.inj same
  unfold Server.Session.openingReply at reply
  split_ifs at reply
  · exact Or.inr (Or.inl (OackPacket.getOpcode_makeRaw reply))
  · exact Or.inl (Except.ok.inj reply).symm

/-- It repeats what opened the upload, or gives up. -/
theorem LacksData.awaitFirstDataAgain
    (session : Server.Session) (host : HostChoice)
    (options negotiated : List TftpOption) (writer : Writer)
    (retries : Nat) :
    LacksData 0 served
        (session.awaitFirstDataAgain host options negotiated writer
          retries) ∧
      NoAck 0
        (news session.udp.sent
          (session.awaitFirstDataAgain host options negotiated writer
            retries).sent) := by
  unfold Server.Session.awaitFirstDataAgain
  split_ifs
  · cases reply : Server.Session.openingReply options negotiated with
    | error exception => exact abandonWrite session host writer exception
    | ok raw =>
        constructor
        · exact .first rfl rfl
        · have same :
              news session.udp.sent
                  (session.udp.sent ++ [(session.clientAddress, raw)]) =
                some raw :=
            news_append _ _
          show NoAck 0
            (news session.udp.sent
              (session.udp.sent ++ [(session.clientAddress, raw)]))
          rw [same]
          exact noAck_openingReply reply
  · exact abandonWrite session host writer timeoutError

/-- Nothing arrives at the handler. -/
theorem LacksData.misses
    {handler : Handler} (lacks : LacksData count served handler) :
    LacksData count served (handler.step {}) ∧
      NoAck count (news handler.sent (handler.step {}).sent) := by
  obtain ⟨session, control⟩ := handler
  cases lacks with
  | @first options negotiated writer retries none_ waits =>
      obtain rfl : control = _ := waits
      subst none_
      exact
        awaitFirstDataAgain session.increaseTimeout {} options negotiated
          writer (retries + 1)
  | @later writer retries waits =>
      obtain rfl : control = _ := waits
      exact awaitDataAgain session.increaseTimeout {} writer (retries + 1)
  | threw ended =>
      obtain rfl : control = _ := ended
      constructor
      · exact .threw rfl
      · rw [Handler.step, news_self]
        exact noAck_none
  | returned all ended =>
      obtain rfl : control = _ := ended
      constructor
      · exact .returned all rfl
      · rw [Handler.step, news_self]
        exact noAck_none

/-- An ERROR packet arrives at the handler. -/
theorem LacksData.hearsError
    {handler : Handler} (lacks : LacksData count served handler)
    {bytes : Bytes} (opcode : getOpcodeFromRaw bytes = .ok .ERROR) :
    let reached :=
      handler.step (deliver handler.session.clientAddress bytes)
    LacksData count served reached ∧
      NoAck count (news handler.sent reached.sent) := by
  obtain ⟨session, control⟩ := handler
  rw [← Transfer.getOpcodeFromRaw_take] at opcode
  cases lacks with
  | @first options negotiated writer retries none_ waits =>
      obtain rfl : control = _ := waits
      have throws :
          Handler.step
              ⟨session, .awaitFirstData options negotiated writer retries 0⟩
              (deliver session.clientAddress bytes) =
            session.abandonWrite {} writer
              (errorException (text "Client")
                (bytes.take UdpClient.maxPacketSize)) := by
        simp only [Handler.step, Server.Session.stepAwaitFirstData,
          Server.Session.recievePacketFromClient, deliver,
          recievePacketFrom_peer, maxRetries, Nat.zero_lt_succ, if_true,
          classifyData_of_error opcode]
      dsimp only
      rw [throws]
      exact abandonWrite session {} writer _
  | @later writer retries waits =>
      obtain rfl : control = _ := waits
      have throws :
          Handler.step ⟨session, .awaitData writer count retries 0⟩
              (deliver session.clientAddress bytes) =
            session.abandonWrite {} writer
              (errorException (text "Server")
                (bytes.take UdpClient.maxPacketSize)) := by
        simp only [Handler.step, Server.Session.stepAwaitData,
          Server.Session.recievePacketFromClient, deliver,
          recievePacketFrom_peer, maxRetries, Nat.zero_lt_succ, if_true,
          classifyData_of_error opcode]
      dsimp only
      rw [throws]
      exact abandonWrite session {} writer _
  | threw ended =>
      obtain rfl : control = _ := ended
      constructor
      · exact .threw rfl
      · rw [Handler.step, news_self]
        exact noAck_none
  | returned all ended =>
      obtain rfl : control = _ := ended
      constructor
      · exact .returned all rfl
      · rw [Handler.step, news_self]
        exact noAck_none

/-- The handler does not get any further either. -/
theorem LacksData.turn
    (lacks : LacksData count served traffic.handler)
    (carried : OnlyError (traffic.toHandler address loss)) :
    LacksData count served (traffic.handlerAfter address loss) ∧
      NoAck count
        (news traffic.handler.sent
          (traffic.handlerAfter address loss).sent) := by
  rw [Traffic.handlerAfter]
  rcases arrival_cases traffic.handler.session.clientAddress
      loss.toHandler (traffic.toHandler address loss) with
    silent | ⟨bytes, sent, arrives⟩
  · rw [silent]
    exact lacks.misses
  · rw [arrives]
    exact lacks.hearsError (carried bytes sent)

/-! ## The run -/

/-- Nothing brings the block or the ACK back. -/
theorem Doomed.turn (doomed : Doomed address count served traffic) :
    Doomed address count served (traffic.turn address loss) := by
  obtain ⟨client, said⟩ := doomed.client.turn doomed.carried doomed.few
  obtain ⟨handler, answers⟩ := doomed.handler.turn said
  exact ⟨client, handler, answers, doomed.few⟩

theorem Doomed.not_returned (doomed : Doomed address count served traffic) :
    traffic.client.control ≠ .ended .returned := by
  rcases doomed.client with ⟨_, sending, retries, _, waits⟩ | ⟨_, ended⟩
  · simp [waits]
  · simp [ended]

/-- The client sends no block any more. -/
theorem Doomed.sends_no_block
    (doomed : Doomed address count served traffic) {bytes : Bytes}
    (sent : traffic.toHandler address loss = some bytes) :
    getOpcodeFromRaw bytes ≠ .ok .DATA := by
  obtain ⟨_, said⟩ :
      LacksAck address count (traffic.clientAfter address loss) ∧
        OnlyError (traffic.toHandler address loss) :=
    doomed.client.turn doomed.carried doomed.few
  have opcode := said bytes sent
  rw [opcode]
  simp

variable {losses : Nat → Loss} {now : Nat}

/-- From then on it stays doomed. -/
theorem Doomed.after
    (doomed : Doomed address count served (traffic.after address losses now))
    {later : Nat} (notBefore : now ≤ later) :
    Doomed address count served (traffic.after address losses later) := by
  induction later, notBefore using Nat.le_induction with
  | base => exact doomed
  | succ later _ induction => exact induction.turn

/-- So the client never returns. -/
theorem Doomed.never
    (doomed : Doomed address count served (traffic.after address losses now))
    (turn : Nat) :
    (traffic.after address losses turn).client.control ≠
      .ended .returned := by
  intro returned
  rcases Nat.le_total now turn with later | earlier
  · exact (doomed.after later).not_returned returned
  · exact
      doomed.not_returned (Traffic.ended_of_le earlier returned)

/-- Nor does the handler, unless it was served before. -/
theorem Doomed.never_served
    (doomed :
      Doomed address count False (traffic.after address losses now))
    (turn : Nat) :
    (traffic.after address losses turn).handler.control ≠
      .ended .returned := by
  intro returned
  have late :=
    Traffic.handler_ended_of_le (le_max_right now turn) returned
  cases (doomed.after (le_max_left now turn)).handler with
  | first none_ waits => simp [waits] at late
  | later waits => simp [waits] at late
  | threw ended => simp [ended] at late
  | returned all ended => exact all

end IsaTftp.Upload
