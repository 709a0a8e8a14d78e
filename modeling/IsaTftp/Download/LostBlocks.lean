import IsaTftp.Download.Losses

/-!
# Downloads which lose a block

A block which is lost is not sent again.  Client and handler then talk past
each other: the client repeats its ACK, the handler takes it for an old one,
and both go on until one of them gives up.
-/

namespace IsaTftp.Download

open IsaTftp.Wire
open IsaTftp.Files
open IsaTftp.Transfer
open IsaTftp.Client
open IsaTftp.Server
open IsaTftp.Library.Chunking
open IsaTftp.Upload (deliver blockAfter ackOf)

variable {size count retries : Nat} {content : Bytes} {path : Path}
variable {address : Address} {traffic : Traffic} {loss : Loss}

/-- The client waits for the block after `count` blocks, or it has thrown. -/
def LacksBlock (address : Address) (count : Nat) (client : TftpClient) :
    Prop :=
  (client.session.serverAddress = address ∧ ∃ writer retries,
      client.control =
        .awaitData writer (UInt16.ofNat count) retries 0) ∨
    ∃ exception, client.control = .ended (.threw exception)

/-- The handler takes this block for sent, or it has ended. -/
def TakesForSent (count : Nat) (handler : Handler) : Prop :=
  (∃ sending retries, sending.blockNumber = count + 1 ∧
      handler.control = .awaitAck sending retries 0) ∨
    ∃ outcome, handler.control = .ended outcome

/-- A block was lost. -/
structure Doomed (address : Address) (count : Nat) (traffic : Traffic) :
    Prop where
  client : LacksBlock address count traffic.client
  handler : TakesForSent count traffic.handler
  carried : OnlyError traffic.toClient

/-! ## The client -/

/-- What the client says in its part of such a turn. -/
def OldAckOrError (count : Nat) (carried : Option Bytes) : Prop :=
  ∀ bytes, carried = some bytes →
    bytes = (ackOf count).makeRaw ∨
      getOpcodeFromRaw bytes = .ok .ERROR

theorem LacksBlock.abandonRead
    (session : Client.Session) (host : HostChoice) (writer : Writer)
    (exception : Exception) :
    LacksBlock address count
        (session.abandonRead host writer exception) ∧
      OldAckOrError count
        (news session.udp.sent
          (session.abandonRead host writer exception).sent) := by
  constructor
  · exact Or.inr ⟨exception, rfl⟩
  · intro bytes sent
    exact Or.inr (news_reportException sent)

/-- It repeats its ACK, or throws. -/
theorem LacksBlock.awaitDataAgain
    (session : Client.Session) (there : session.serverAddress = address)
    (writer : Writer) (retries : Nat) :
    LacksBlock address count
        (session.awaitDataAgain writer (UInt16.ofNat count) retries {}) ∧
      OldAckOrError count
        (news session.udp.sent
          (session.awaitDataAgain writer (UInt16.ofNat count) retries
            {}).sent) := by
  have unseen : ∀ check, Event.sigintAt {} check = false := by
    intro check
    rfl
  simp only [Client.Session.awaitDataAgain,
    Client.Session.checkForSigintRRQ, unseen, Bool.false_eq_true, if_false]
  split_ifs
  · constructor
    · exact Or.inl ⟨there, writer, retries, rfl⟩
    · intro bytes sent
      left
      have same :
          news session.udp.sent
              (session.udp.sent ++
                [(session.serverAddress, (ackOf count).makeRaw)]) =
            some bytes :=
        sent
      rw [news_append] at same
      exact (Option.some.inj same).symm
  · exact abandonRead session {} writer timeoutError

/-- The client does not get any further. -/
theorem LacksBlock.turn
    (lacks : LacksBlock address count traffic.client)
    (carried : OnlyError traffic.toClient) :
    LacksBlock address count (traffic.clientAfter address loss) ∧
      OldAckOrError count (traffic.toHandler address loss) := by
  rw [Traffic.toHandler, Traffic.clientAfter]
  obtain ⟨client, handler, toClient⟩ := traffic
  dsimp only at lacks carried ⊢
  rcases lacks with ⟨there, writer, retries, waits⟩ | ⟨exception, ended⟩
  · obtain ⟨session, control⟩ := client
    obtain rfl : control = _ := waits
    obtain rfl : session.serverAddress = address := there
    rcases arrival_cases session.serverAddress loss.toClient toClient with
      silent | ⟨bytes, rfl, arrives⟩
    · rw [silent]
      exact
        awaitDataAgain session.increaseTimeout rfl writer (retries + 1)
    · have opcode := carried bytes rfl
      rw [← Transfer.getOpcodeFromRaw_take] at opcode
      have throws :
          TftpClient.step
              ⟨session, .awaitData writer (UInt16.ofNat count) retries 0⟩
              (deliver session.serverAddress bytes) =
            session.abandonRead {} writer
              (errorException (text "Server")
                (bytes.take UdpClient.maxPacketSize)) := by
        simp only [TftpClient.step, Client.Session.stepAwaitData,
          Client.Session.recievePacketFromServer, deliver,
          recievePacketFrom_peer, maxRetries, Nat.zero_lt_succ, if_true,
          classifyData_of_error opcode]
      rw [arrives, throws]
      exact abandonRead session {} writer _
  · have stays : ∀ event, client.step event = client := by
      intro event
      rw [TftpClient.step, ended]
    rw [stays, news_self]
    constructor
    · exact Or.inr ⟨exception, ended⟩
    · intro bytes sent
      cases sent

/-! ## The handler -/

theorem TakesForSent.raise (session : Server.Session)
    (exception : Exception) :
    TakesForSent count (session.raise exception) ∧
      OnlyError (news session.udp.sent (session.raise exception).sent) := by
  constructor
  · exact Or.inr ⟨_, rfl⟩
  · intro bytes sent
    exact news_reportException sent

/-- It waits on, or gives up. -/
theorem TakesForSent.awaitAckAgain
    (session : Server.Session) {sending : Server.Sending}
    (number : sending.blockNumber = count + 1) (retries : Nat) :
    TakesForSent count (session.awaitAckAgain sending retries) ∧
      OnlyError
        (news session.udp.sent
          (session.awaitAckAgain sending retries).sent) := by
  have silent : OnlyError (news session.udp.sent session.udp.sent) := by
    rw [news_self]
    exact onlyError_none
  unfold Server.Session.awaitAckAgain
  split_ifs
  · exact ⟨Or.inl ⟨sending, retries, number, rfl⟩, silent⟩
  · exact ⟨Or.inr ⟨_, rfl⟩, silent⟩
  · exact raise session timeoutError

/-- The handler does not get any further either. -/
theorem TakesForSent.turn
    (takes : TakesForSent count traffic.handler)
    (carried :
      OldAckOrError count (traffic.toHandler address loss)) :
    TakesForSent count (traffic.handlerAfter address loss) ∧
      OnlyError
        (news traffic.handler.sent
          (traffic.handlerAfter address loss).sent) := by
  rw [Traffic.handlerAfter]
  generalize traffic.toHandler address loss = toHandler at carried
  obtain ⟨client, handler, toClient⟩ := traffic
  dsimp only at takes ⊢
  rcases takes with ⟨sending, retries, number, waits⟩ | ⟨outcome, ended⟩
  · obtain ⟨session, control⟩ := handler
    obtain rfl : control = _ := waits
    have waitsOn :
        TakesForSent count
            (session.increaseTimeout.awaitAckAgain sending
              (retries + 1)) ∧ _ :=
      awaitAckAgain session.increaseTimeout number (retries + 1)
    rcases arrival_cases session.clientAddress loss.toHandler
        toHandler with
      silent | ⟨bytes, rfl, arrives⟩
    · rw [silent]
      exact waitsOn
    · rw [arrives]
      rcases carried bytes rfl with rfl | opcode
      · have fits :
            (ackOf count).makeRaw.take UdpClient.maxPacketSize =
              (ackOf count).makeRaw :=
          rfl
        have heard :
            Handler.step ⟨session, .awaitAck sending retries 0⟩
                (deliver session.clientAddress (ackOf count).makeRaw) =
              session.increaseTimeout.awaitAckAgain sending
                (retries + 1) := by
          have old := classifyAck_old (text "Client") (ackOf_lt count)
          rw [← number] at old
          simp only [Handler.step, Server.Session.stepAwaitAck,
            Server.Session.recievePacketFromClient, deliver,
            recievePacketFrom_peer, maxRetries, Nat.zero_lt_succ, if_true,
            fits, old]
        rw [heard]
        exact waitsOn
      · rw [← Transfer.getOpcodeFromRaw_take] at opcode
        have throws :
            Handler.step ⟨session, .awaitAck sending retries 0⟩
                (deliver session.clientAddress bytes) =
              session.raise
                (errorException (text "Client")
                  (bytes.take UdpClient.maxPacketSize)) := by
          simp only [Handler.step, Server.Session.stepAwaitAck,
            Server.Session.recievePacketFromClient, deliver,
            recievePacketFrom_peer, maxRetries, Nat.zero_lt_succ, if_true,
            classifyAck_of_error opcode]
        rw [throws]
        exact raise session _
  · have stays : ∀ event, handler.step event = handler := by
      intro event
      rw [Handler.step, ended]
    rw [stays, news_self]
    exact ⟨Or.inr ⟨outcome, ended⟩, onlyError_none⟩

/-! ## The run -/

/-- Nothing brings the block back. -/
theorem Doomed.turn (doomed : Doomed address count traffic) :
    Doomed address count (traffic.turn address loss) := by
  obtain ⟨client, said⟩ := doomed.client.turn doomed.carried
  obtain ⟨handler, answers⟩ := doomed.handler.turn said
  exact ⟨client, handler, answers⟩

theorem Doomed.not_returned (doomed : Doomed address count traffic) :
    traffic.client.control ≠ .ended .returned := by
  rcases doomed.client with ⟨_, writer, retries, waits⟩ | ⟨_, ended⟩
  · simp [waits]
  · simp [ended]

/-- A block which is lost on its way to the client dooms the download. -/
theorem Sending.doomed
    (sending : Sending size content path address count traffic)
    (lost : loss.toClient = true) :
    Doomed address count (traffic.turn address loss) := by
  obtain ⟨writer, retries, listens⟩ := sending.client
  obtain ⟨peer, before, sends⟩ := sending.handler
  obtain ⟨waits, waiting⟩ := sends.waits
  let silent : Traffic := { traffic with toClient := none }
  have doomed : Doomed address count silent := by
    constructor
    · exact Or.inl ⟨listens.server, writer, retries, listens.listens⟩
    · exact Or.inl ⟨waits, 0, waiting.number, waiting.waits⟩
    · exact onlyError_none
  have client :
      traffic.clientAfter address loss = silent.clientAfter address loss := by
    simp only [Traffic.clientAfter, lost, arrival_lost, silent,
      arrival_none]
  have same :
      traffic.turn address loss = silent.turn address loss := by
    simp only [Traffic.turn, Traffic.handlerAfter, Traffic.toHandler, client]
    rfl
  rw [same]
  exact doomed.turn

variable {losses : Nat → Loss} {now : Nat}

/-- From then on it stays doomed. -/
theorem Doomed.after
    (doomed : Doomed address count (traffic.after address losses now))
    {later : Nat} (notBefore : now ≤ later) :
    Doomed address count (traffic.after address losses later) := by
  induction later, notBefore using Nat.le_induction with
  | base => exact doomed
  | succ later _ induction => exact induction.turn

/-- So the client never returns. -/
theorem Doomed.never
    (doomed : Doomed address count (traffic.after address losses now))
    (turn : Nat) :
    (traffic.after address losses turn).client.control ≠
      .ended .returned := by
  intro returned
  rcases Nat.le_total now turn with later | earlier
  · exact (doomed.after later).not_returned returned
  · exact
      doomed.not_returned (Traffic.ended_of_le earlier returned)

/-! ## The start -/

variable {args : TftpClientArgs} {request : Bytes} {rootDirpath : Path}
variable {files clientFiles : FileSystem} {session : Client.Session}
variable {serverAddress : Address} {stdin : Bytes}

/-- What a download which nothing stands in the way of fits into. -/
theorem Unhindered.fits
    (unhindered :
      Unhindered args request content rootDirpath files clientFiles) :
    Fits (blksizeIn args.options) content := by
  constructor
  · have least := (blksizeIn_bounds args.options).1
    omega
  · exact blksizeIn_fits args.options
  · have bound := unhindered.few
    rw [Nat.mul_comm] at bound
    exact Nat.div_lt_of_lt_mul bound

/-- With options the OACK comes first. -/
theorem Unhindered.answeringOack
    (unhindered :
      Unhindered args request content rootDirpath files clientFiles)
    (some_ : args.options ≠ [])
    (made :
      Client.Session.make args serverAddress stdin clientFiles =
        .ok session)
    (clientAddress : Address) {address : Address}
    (sameHost : address.ip = serverAddress.ip) :
    Answering (blksizeIn args.options) content args.destFilepath address
      args.options
      (Traffic.start session clientAddress rootDirpath files) := by
  obtain ⟨agreed, raw, starts, encoded, sameSize, found⟩ :=
    unhindered.oacks some_ made clientAddress
  rw [Traffic.start, starts]
  constructor
  · exact ⟨_, 0, unhindered.askedThere made sameHost⟩
  · apply HandlerAwaits.options
    · rfl
    · exact sameSize
    · exact Reader.Behind.make found _
  · exact
      ⟨raw, newest_append _ _, unhindered.agreeable made encoded address⟩

/-- The answer to the request arrives, and the blocks follow. -/
theorem Unhindered.firstTurn
    (unhindered :
      Unhindered args request content rootDirpath files clientFiles)
    (made :
      Client.Session.make args serverAddress stdin clientFiles =
        .ok session)
    (clientAddress : Address) {address : Address}
    (sameHost : address.ip = serverAddress.ip)
    (answered : (losses 0).toClient = false) :
    Phase (blksizeIn args.options) content args.destFilepath address
      losses 1
      ((Traffic.start session clientAddress rootDirpath files).turn address
        (losses 0)) := by
  have fits := unhindered.fits
  have some_ : 0 < chunkCount (blksizeIn args.options) content :=
    Nat.succ_pos _
  by_cases none_ : args.options = []
  · have lockstep :=
      unhindered.lockstep none_ made clientAddress sameHost
    obtain ⟨writer, waits⟩ := lockstep.client
    obtain ⟨peer, before, sends⟩ := lockstep.handler
    apply Phase.of_block fits waits sends sends.newest answered some_
    omega
  · have answering :=
      unhindered.answeringOack none_ made clientAddress sameHost
    apply Phase.of_goesOn (answering.goesOn answered) some_
    · simp only [maxRetries]
      omega
    · exact InRow.zero _ 0
    · decide

/--
The client returns exactly if no datagram of the handler is lost, provided
that the first one is not, that of five ACKs in a row one arrives, and that
nothing else is in the way of the download.  Then both are done in time, and the
client has the file.
-/
theorem returns_iff_no_block_is_lost
    (unhindered :
      Unhindered args request content rootDirpath files clientFiles)
    (made :
      Client.Session.make args serverAddress stdin clientFiles =
        .ok session)
    (clientAddress : Address) {address : Address}
    (sameHost : address.ip = serverAddress.ip)
    (arrive : SomeArrive (acksLost losses))
    (answered : (losses 0).toClient = false) :
    let traffic :=
      (Traffic.start session clientAddress rootDirpath files).after address
        losses
    let kept := ∀ turn, (traffic turn).toClient ≠ none →
      (losses turn).toClient = false
    ((∃ turn, (traffic turn).client.control = .ended .returned) ↔ kept) ∧
      (kept →
        Done args.destFilepath content
          (traffic
            (maxRetries *
              (chunkCount (blksizeIn args.options) content +
                1))).conversation) := by
  intro traffic kept
  have fits := unhindered.fits
  have phase : ∀ turn,
      (∀ earlier ≤ turn, (traffic earlier).toClient ≠ none →
        (losses earlier).toClient = false) →
        Phase (blksizeIn args.options) content args.destFilepath address
          losses (turn + 1) (traffic (turn + 1)) := by
    intro turn
    induction turn with
    | zero =>
        intro _
        exact
          unhindered.firstTurn made clientAddress sameHost answered
    | succ turn induction =>
        intro arrives
        have before := induction fun earlier within =>
          arrives earlier (Nat.le_succ_of_le within)
        exact before.turn fits arrive (arrives (turn + 1) le_rfl)
  have done : kept →
      Done args.destFilepath content
        (traffic
          (maxRetries *
            (chunkCount (blksizeIn args.options) content +
              1))).conversation := by
    intro arrives
    have last :=
      phase
        (maxRetries * (chunkCount (blksizeIn args.options) content + 1) -
          1)
        fun earlier _ => arrives earlier
    have number :
        maxRetries * (chunkCount (blksizeIn args.options) content + 1) -
              1 + 1 =
          maxRetries *
            (chunkCount (blksizeIn args.options) content + 1) := by
      simp only [maxRetries]
      omega
    rw [number] at last
    exact last.done arrive
  refine ⟨⟨?_, ?_⟩, done⟩
  · rintro ⟨returns, returned⟩
    by_contra lost
    simp only [kept, not_forall, exists_prop] at lost
    classical
    let first := Nat.find lost
    obtain ⟨carried, isLost⟩ := Nat.find_spec lost
    have isLost : (losses first).toClient = true :=
      Bool.eq_true_of_not_eq_false isLost
    have before : ∀ earlier < first, (traffic earlier).toClient ≠ none →
        (losses earlier).toClient = false := by
      intro earlier fewer sent
      by_contra alsoLost
      exact Nat.find_min lost fewer ⟨sent, alsoLost⟩
    have positive : first ≠ 0 := by
      intro zero
      rw [zero, answered] at isLost
      cases isLost
    obtain ⟨turn, number⟩ := Nat.exists_eq_succ_of_ne_zero positive
    have reached := phase turn fun earlier within =>
      before earlier (by omega)
    rw [show turn + 1 = first from number.symm] at reached
    obtain ⟨count, sending⟩ := reached.sending_of_carried carried
    have doomed :
        Doomed address count (traffic (first + 1)) :=
      sending.doomed isLost
    exact doomed.never returns returned
  · intro arrives
    exact ⟨_, (done arrives).client⟩

/--
The theorem for the small client: the ACKs of two turns in a row are lost, and
the file arrives all the same.
-/
theorem returns_iff_no_block_is_lost_small :
    ∃ session,
      Client.Session.make smallArgs ⟨1, 69⟩ [] (smallDisk none) =
          .ok session ∧
        Done (text "g") (text "hello world")
          ((Traffic.start session ⟨2, 1024⟩ (text "r")
              (smallDisk (some (text "hello world")))).after ⟨1, 2001⟩
            (fun turn => ⟨false, turn == 1 || turn == 2⟩)
            15).conversation := by
  obtain ⟨session, made, _⟩ :=
    setupUdpClient_setsUp
      ⟨smallArgs, ⟨1, 69⟩, 512, 1, UdpClient.make, ⟨[], false⟩,
        ⟨smallDisk none, []⟩⟩
  have arrive :
      SomeArrive
        (acksLost fun turn => ⟨false, turn == 1 || turn == 2⟩) := by
    intro turn
    by_cases early : turn < 3
    · exact ⟨3, by decide, by simp [acksLost]⟩
    · exact ⟨0, by decide, by simp [acksLost]; omega⟩
  obtain ⟨_, done⟩ :=
    returns_iff_no_block_is_lost smallUnhindered made ⟨2, 1024⟩
      (show (⟨1, 2001⟩ : Address).ip = (⟨1, 69⟩ : Address).ip from rfl)
      arrive rfl
  exact ⟨session, made, done fun _ _ => rfl⟩

end IsaTftp.Download
