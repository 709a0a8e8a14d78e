import IsaTftp.Download.Undisturbed
import IsaTftp.Traffic

/-!
# Downloads with losses

The handler sends every block once, but the client repeats its ACKs.  So an ACK
may be lost, as long as some of them arrive in time; a block may not.
-/

namespace IsaTftp.Download

open IsaTftp.Wire
open IsaTftp.Files
open IsaTftp.Transfer
open IsaTftp.Client
open IsaTftp.Server
open IsaTftp.Library.Chunking
open IsaTftp.Upload (deliver blockAfter ackOf)

variable {size count retries : Nat} {content : Bytes} {path : Path}
variable {address : Address}

/-! ## Timeouts of the handler -/

/-- After a timeout the handler waits on, while it has retries left. -/
theorem HandlerSends.waitsOn
    {handler : Handler} {sending : Server.Sending}
    (sends : HandlerSends size content count retries handler sending)
    (fewer : retries + 1 < maxRetries) :
    HandlerSends size content count (retries + 1) (handler.step {})
        sending ∧
      (handler.step {}).sent = handler.sent := by
  have result :
      handler.step {} =
        ⟨handler.session.increaseTimeout,
          .awaitAck sending (retries + 1) 0⟩ := by
    simp only [Handler.step, sends.waits, Server.Session.stepAwaitAck,
      Server.Session.recievePacketFromClient, recievePacketFrom, receive,
      Server.Session.awaitAckAgain, fewer, if_true]
  rw [result]
  constructor
  · constructor
    · rfl
    · exact sends.sameSize
    · exact sends.number
    · exact sends.last
    · exact sends.more
  · rfl

/-- The last block needs no ACK in the end. -/
theorem HandlerSends.givesUp
    {handler : Handler} {sending : Server.Sending}
    (sends : HandlerSends size content count retries handler sending)
    (short : (chunk size content count).length < size)
    (most : retries + 1 = maxRetries) :
    (handler.step {}).control = .ended .returned ∧
      (handler.step {}).sent = handler.sent := by
  have last : sending.lastPacketSent = true := by
    rw [sends.last]
    exact decide_eq_true short
  have result :
      handler.step {} =
        ⟨handler.session.increaseTimeout.timeoutReset,
          .ended .returned⟩ := by
    simp only [Handler.step, sends.waits, Server.Session.stepAwaitAck,
      Server.Session.recievePacketFromClient, recievePacketFrom, receive,
      Server.Session.awaitAckAgain, most, Nat.lt_irrefl, if_false, last,
      if_true]
  rw [result]
  exact ⟨rfl, rfl⟩

/-- The handler waits for the ACK of `count` blocks, and it has more. -/
inductive HandlerAwaits (size : Nat) (content : Bytes) :
    Nat → Nat → Handler → Prop where
  | options {retries : Nat} {handler : Handler} {reader : Reader}
      (waits : handler.control = .awaitOackAck reader retries 0)
      (sameSize : handler.session.blksize = size)
      (behind :
        reader.Behind handler.session.storage.files size content 0) :
      HandlerAwaits size content 0 retries handler
  | block {count retries : Nat} {handler : Handler}
      {sending : Server.Sending}
      (sends : HandlerSends size content count retries handler sending)
      (full : ¬ (chunk size content count).length < size) :
      HandlerAwaits size content (count + 1) retries handler

namespace HandlerAwaits

variable {handler : Handler}

/-- When the ACK comes, the handler sends the next block. -/
theorem hear (awaits : HandlerAwaits size content count retries handler)
    (few : count < 65536) :
    Sends size content count handler.session.clientAddress handler.sent
      (handler.step
        (deliver handler.session.clientAddress (ackOf count).makeRaw)) := by
  cases awaits with
  | options waits sameSize behind =>
      exact hearOackAck waits sameSize behind
  | block sends full => exact sends.next few full

/-- When it does not come, the handler waits on. -/
theorem waitsOn
    (awaits : HandlerAwaits size content count retries handler)
    (fewer : retries + 1 < maxRetries) :
    HandlerAwaits size content count (retries + 1) (handler.step {}) ∧
      (handler.step {}).sent = handler.sent := by
  cases awaits with
  | block sends full =>
      obtain ⟨waits, same⟩ := sends.waitsOn fewer
      exact ⟨.block waits full, same⟩
  | @options _ _ reader waits sameSize behind =>
      have result :
          handler.step {} =
            ⟨handler.session.increaseTimeout,
              .awaitOackAck reader (retries + 1) 0⟩ := by
        simp only [Handler.step, waits, Server.Session.stepAwaitOackAck,
          Server.Session.recievePacketFromClient, recievePacketFrom,
          receive, Server.Session.awaitOackAckAgain, fewer, if_true]
      rw [result]
      constructor
      · apply HandlerAwaits.options
        · rfl
        · exact sameSize
        · exact behind
      · rfl

end HandlerAwaits

/-! ## Timeouts of the client -/

/-- After a timeout the client repeats its ACK. -/
theorem Listens.repeats
    {client : TftpClient} {writer : Writer}
    (listens :
      Listens size content path address count retries client writer)
    (fewer : retries + 1 < maxRetries) :
    Listens size content path address count (retries + 1)
        (client.step {}) writer ∧
      (client.step {}).sent =
        client.sent ++ [(address, (ackOf count).makeRaw)] := by
  obtain ⟨session, control⟩ := client
  obtain rfl : control = _ := listens.listens
  obtain rfl : session.serverAddress = address := listens.server
  have result :
      TftpClient.step
          ⟨session, .awaitData writer (UInt16.ofNat count) retries 0⟩ {} =
        ⟨session.increaseTimeout.send (ackOf count).makeRaw,
          .awaitData writer (UInt16.ofNat count) (retries + 1) 0⟩ := by
    simp only [TftpClient.step, Client.Session.stepAwaitData,
      Client.Session.recievePacketFromServer, recievePacketFrom, receive,
      Client.Session.awaitDataAgain, fewer, if_true,
      Client.Session.checkForSigintRRQ, Event.sigintAt, Bool.false_eq_true,
      if_false]
    rfl
  rw [result]
  constructor
  · exact
      { waits := Or.inr ⟨rfl, rfl⟩
        opens := listens.opens
        sameSize := listens.sameSize
        samePath := listens.samePath
        stores := listens.stores
        server := rfl
        listens := rfl }
  · rfl

/-! ## The phases of a download -/

variable {traffic : Traffic} {loss : Loss}

/-- The next block is on the way to the client. -/
structure Sending (size : Nat) (content : Bytes) (path : Path)
    (address : Address) (count : Nat) (traffic : Traffic) : Prop where
  client : ∃ writer retries,
    Listens size content path address count retries traffic.client writer
  handler : ∃ peer before,
    Sends size content count peer before traffic.handler
  carried : traffic.toClient =
    some (blockAfter size content count).makeRaw

/-- So many ACKs were lost one after the other, and one before them. -/
structure Waiting (size : Nat) (content : Bytes) (path : Path)
    (address : Address) (count lost : Nat) (traffic : Traffic) :
    Prop where
  client : ∃ writer,
    Listens size content path address count lost traffic.client writer
  handler : HandlerAwaits size content count (lost + 1) traffic.handler
  carried : traffic.toClient = none

/-- The client has returned; the handler returns after so many timeouts. -/
structure Leaving (size : Nat) (content : Bytes) (path : Path)
    (left : Nat) (traffic : Traffic) : Prop where
  client : traffic.client.control = .ended .returned
  stored :
    traffic.client.session.storage.files.content path = some content
  handler : traffic.handler.control = .ended .returned ∨
    ∃ count retries sending,
      HandlerSends size content count retries traffic.handler sending ∧
        (chunk size content count).length < size ∧
          retries + left = maxRetries ∧ 0 < left
  carried : traffic.toClient = none

/-- What the client sends while it hears a block. -/
theorem turn_of_hear
    {writer : Writer}
    (waiting :
      ClientWaits size content path address count retries traffic.client
        writer)
    (carried :
      traffic.toClient = some (blockAfter size content count).makeRaw)
    (kept : loss.toClient = false)
    (fitsBuffer : size + 4 ≤ UdpClient.maxPacketSize)
    (few : count + 1 < 65536) :
    Accepts size content path address count traffic.client.sent
        (traffic.clientAfter address loss) ∧
      traffic.toHandler address loss =
        some (ackOf (count + 1)).makeRaw := by
  have accepts := waiting.hear fitsBuffer few
  have heard :
      traffic.clientAfter address loss =
        traffic.client.step
          (deliver address (blockAfter size content count).makeRaw) := by
    rw [Traffic.clientAfter, carried, kept, arrival_kept]
  constructor
  · rw [heard]
    exact accepts
  · rw [Traffic.toHandler, heard, accepts.sent, news_append]

/-- The handler hears the ACK and sends the next block. -/
theorem handler_of_kept
    (awaits :
      HandlerAwaits size content count retries traffic.handler)
    (kept : loss.toHandler = false)
    (answer :
      traffic.toHandler address loss = some (ackOf count).makeRaw)
    (few : count < 65536) :
    (∃ peer before, Sends size content count peer before
        (traffic.turn address loss).handler) ∧
      (traffic.turn address loss).toClient =
        some (blockAfter size content count).makeRaw := by
  have sends := awaits.hear few
  have step := Traffic.handlerAfter_of_kept kept answer
  rw [← step] at sends
  constructor
  · exact ⟨_, _, sends⟩
  · show news traffic.handler.sent
      (traffic.handlerAfter address loss).sent = _
    rw [sends.sent, news_append]

/-- The handler misses the ACK and waits on. -/
theorem handler_of_lost
    (awaits :
      HandlerAwaits size content count retries traffic.handler)
    (lost : loss.toHandler = true) (fewer : retries + 1 < maxRetries) :
    HandlerAwaits size content count (retries + 1)
        (traffic.turn address loss).handler ∧
      (traffic.turn address loss).toClient = none := by
  obtain ⟨waitsOn, same⟩ := awaits.waitsOn fewer
  have step :
      traffic.handlerAfter address loss = traffic.handler.step {} :=
    Traffic.handlerAfter_of_lost lost
  rw [← step] at waitsOn same
  constructor
  · exact waitsOn
  · show news traffic.handler.sent
      (traffic.handlerAfter address loss).sent = none
    rw [same, news_self]

/-- How a turn goes on for which the client has `count` blocks. -/
inductive GoesOn (size : Nat) (content : Bytes) (path : Path)
    (address : Address) (count lost : Nat) (loss : Loss)
    (traffic : Traffic) : Prop where
  | sending (kept : loss.toHandler = false)
      (sending : Sending size content path address count traffic)
  | waiting (missed : loss.toHandler = true)
      (waiting : Waiting size content path address count lost traffic)

/-- While nothing arrives, both repeat what they did. -/
theorem Waiting.turn {lost : Nat}
    (waiting : Waiting size content path address count lost traffic)
    (few : count < 65536) (fewer : lost + 1 < maxRetries)
    (notAll : loss.toHandler = true → lost + 2 < maxRetries) :
    GoesOn size content path address count (lost + 1) loss
      (traffic.turn address loss) := by
  obtain ⟨writer, listens⟩ := waiting.client
  obtain ⟨listensOn, repeats⟩ := listens.repeats fewer
  have step :
      traffic.clientAfter address loss = traffic.client.step {} := by
    rw [Traffic.clientAfter, waiting.carried, arrival_none]
  rw [← step] at listensOn repeats
  cases missed : loss.toHandler with
  | false =>
      have answer :
          traffic.toHandler address loss =
            some (ackOf count).makeRaw := by
        rw [Traffic.toHandler, repeats, news_append]
      obtain ⟨sends, carried⟩ :=
        handler_of_kept waiting.handler missed answer few
      exact .sending missed ⟨⟨writer, _, listensOn⟩, sends, carried⟩
  | true =>
      obtain ⟨awaits, carried⟩ :=
        handler_of_lost waiting.handler missed (notAll missed)
      exact .waiting missed ⟨⟨writer, listensOn⟩, awaits, carried⟩

/-- A full block arrives and is accepted. -/
theorem GoesOn.of_full
    {writer : Writer} {peer : Address} {before : List Datagram}
    (waits :
      ClientWaits size content path address count retries traffic.client
        writer)
    (sends : Sends size content count peer before traffic.handler)
    (carried :
      traffic.toClient = some (blockAfter size content count).makeRaw)
    (kept : loss.toClient = false)
    (fitsBuffer : size + 4 ≤ UdpClient.maxPacketSize)
    (few : count + 1 < 65536)
    (full : ¬ (chunk size content count).length < size) :
    GoesOn size content path address (count + 1) 0 loss
      (traffic.turn address loss) := by
  obtain ⟨accepts, answer⟩ :=
    turn_of_hear waits carried kept fitsBuffer few
  obtain ⟨onward, listens⟩ := accepts.more full
  obtain ⟨sending, sendsOne⟩ := sends.waits
  have awaits : HandlerAwaits size content (count + 1) 0 traffic.handler :=
    .block sendsOne full
  cases missed : loss.toHandler with
  | false =>
      obtain ⟨sendsNext, carriedNext⟩ :=
        handler_of_kept awaits missed answer few
      exact
        .sending missed ⟨⟨onward, 0, listens⟩, sendsNext, carriedNext⟩
  | true =>
      have misses :
          HandlerAwaits size content (count + 1) 1
              (traffic.turn address loss).handler ∧
            (traffic.turn address loss).toClient = none :=
        handler_of_lost awaits missed (by decide)
      exact
        .waiting missed ⟨⟨onward, listens⟩, misses.1, misses.2⟩

/-- The short block arrives, and the client is done. -/
theorem Leaving.of_short
    {writer : Writer} {peer : Address} {before : List Datagram}
    (waits :
      ClientWaits size content path address count retries traffic.client
        writer)
    (sends : Sends size content count peer before traffic.handler)
    (carried :
      traffic.toClient = some (blockAfter size content count).makeRaw)
    (kept : loss.toClient = false) (positive : 0 < size)
    (fitsBuffer : size + 4 ≤ UdpClient.maxPacketSize)
    (few : count + 1 < 65536)
    (short : (chunk size content count).length < size) :
    Leaving size content path (maxRetries - 1)
      (traffic.turn address loss) := by
  obtain ⟨accepts, answer⟩ :=
    turn_of_hear waits carried kept fitsBuffer few
  obtain ⟨sending, sendsOne⟩ := sends.waits
  obtain ⟨returned, stored⟩ := accepts.ends short
  have whole : firstChunks size content (count + 1) = content :=
    firstChunks_of_chunkCount_le positive
      ((length_chunk_lt_iff positive content count).mp short)
  rw [whole] at stored
  have last : sending.lastPacketSent = true := by
    rw [sendsOne.last]
    exact decide_eq_true short
  cases missed : loss.toHandler with
  | false =>
      have step := Traffic.handlerAfter_of_kept missed answer
      rw [sendsOne.hear few] at step
      simp only [Server.Session.afterAck, last, if_true] at step
      constructor
      · exact returned
      · exact stored
      · left
        show (traffic.handlerAfter address loss).control = _
        rw [step]
      · show news _ (traffic.handlerAfter address loss).sent = none
        rw [step]
        exact news_self _
  | true =>
      have step :
          traffic.handlerAfter address loss = traffic.handler.step {} :=
        Traffic.handlerAfter_of_lost missed
      obtain ⟨waitsOn, same⟩ := sendsOne.waitsOn (by decide)
      rw [← step] at waitsOn same
      constructor
      · exact returned
      · exact stored
      · exact Or.inr ⟨count, 1, sending, waitsOn, short, rfl, by decide⟩
      · show news _ (traffic.handlerAfter address loss).sent = none
        rw [same]
        exact news_self _

/-- The handler waits for an ACK which nobody sends, and returns. -/
theorem Leaving.turn {left : Nat}
    (leaving : Leaving size content path left traffic) :
    Leaving size content path (left - 1) (traffic.turn address loss) := by
  have client :
      traffic.clientAfter address loss = traffic.client := by
    rw [Traffic.clientAfter, TftpClient.step, leaving.client]
  have nothing : traffic.toHandler address loss = none := by
    rw [Traffic.toHandler, client, news_self]
  have step :
      traffic.handlerAfter address loss = traffic.handler.step {} := by
    rw [Traffic.handlerAfter, nothing, arrival_none]
  have returned : (traffic.turn address loss).client = traffic.client :=
    client
  obtain ⟨handler, same⟩ :
      ((traffic.handler.step {}).control = .ended .returned ∨
          ∃ count retries sending,
            HandlerSends size content count retries
                (traffic.handler.step {}) sending ∧
              (chunk size content count).length < size ∧
                retries + (left - 1) = maxRetries ∧ 0 < left - 1) ∧
        (traffic.handler.step {}).sent = traffic.handler.sent := by
    rcases leaving.handler with
      ended | ⟨count, retries, sending, sends, short, sum, more⟩
    · have stays : traffic.handler.step {} = traffic.handler := by
        rw [Handler.step, ended]
      rw [stays]
      exact ⟨Or.inl ended, rfl⟩
    · by_cases fewer : retries + 1 < maxRetries
      · obtain ⟨waitsOn, same⟩ := sends.waitsOn fewer
        refine ⟨Or.inr ?_, same⟩
        exact
          ⟨count, retries + 1, sending, waitsOn, short, by omega,
            by omega⟩
      · obtain ⟨ended, same⟩ := sends.givesUp short (by omega)
        exact ⟨Or.inl ended, same⟩
  constructor
  · rw [returned]
    exact leaving.client
  · rw [returned]
    exact leaving.stored
  · rw [show (traffic.turn address loss).handler = traffic.handler.step {}
      from step]
    exact handler
  · show news _ (traffic.handlerAfter address loss).sent = none
    rw [step, same, news_self]

/-! ## Every turn -/

variable {losses : Nat → Loss} {now lost : Nat}

/-- In which turns the datagram of the client is lost. -/
def acksLost (losses : Nat → Loss) (turn : Nat) : Bool :=
  (losses turn).toHandler

/-- Where a download is after so many turns, and how many these can be. -/
inductive Phase (size : Nat) (content : Bytes) (path : Path)
    (address : Address) (losses : Nat → Loss) (now : Nat)
    (traffic : Traffic) : Prop where
  | sending {count : Nat}
      (sending : Sending size content path address count traffic)
      (within : count < chunkCount size content)
      (early : now ≤ maxRetries * (count + 1))
  | waiting {count lost : Nat}
      (waiting : Waiting size content path address count lost traffic)
      (within : count < chunkCount size content)
      (early :
        now + maxRetries ≤ maxRetries * (count + 1) + (lost + 1))
      (inRow : InRow (acksLost losses) now (lost + 1))
  | leaving {left : Nat}
      (leaving : Leaving size content path left traffic)
      (early : left = 0 ∨
        now + left ≤ maxRetries * (chunkCount size content + 1))

theorem Phase.of_goesOn
    (goesOn :
      GoesOn size content path address count lost (losses now) traffic)
    (within : count < chunkCount size content)
    (early :
      now + maxRetries ≤ maxRetries * (count + 1) + lost)
    (inRow : InRow (acksLost losses) now lost) (fewer : lost < maxRetries) :
    Phase size content path address losses (now + 1) traffic := by
  cases goesOn with
  | sending kept sending =>
      apply Phase.sending sending within
      omega
  | waiting missed waiting =>
      apply Phase.waiting waiting within
      · omega
      · exact inRow.succ missed

/-- A block arrives at the client. -/
theorem Phase.of_block
    {writer : Writer} {peer : Address} {before : List Datagram}
    (fits : Fits size content)
    (waits :
      ClientWaits size content path address count retries traffic.client
        writer)
    (sends : Sends size content count peer before traffic.handler)
    (carried :
      traffic.toClient = some (blockAfter size content count).makeRaw)
    (kept : (losses now).toClient = false)
    (within : count < chunkCount size content)
    (early : now ≤ maxRetries * (count + 1)) :
    Phase size content path address losses (now + 1)
      (traffic.turn address (losses now)) := by
  have few : count + 1 < 65536 := by
    have most := fits.few
    omega
  by_cases short : (chunk size content count).length < size
  · have leaving :=
      Leaving.of_short waits sends carried kept fits.positive fits.buffer
        few short
    apply Phase.leaving leaving
    right
    have last : count + 1 = chunkCount size content := by
      have all :=
        (length_chunk_lt_iff fits.positive content count).mp short
      omega
    rw [← last, Nat.mul_add]
    simp only [maxRetries] at early ⊢
    omega
  · have goesOn :=
      GoesOn.of_full waits sends carried kept fits.buffer few short
    apply Phase.of_goesOn goesOn
    · by_contra all
      apply short
      apply (length_chunk_lt_iff fits.positive content count).mpr
      omega
    · rw [Nat.mul_add maxRetries (count + 1) 1]
      omega
    · exact InRow.zero _ now
    · decide

/-- As long as no block is lost, a turn leads from phase to phase. -/
theorem Phase.turn
    (phase : Phase size content path address losses now traffic)
    (fits : Fits size content) (arrive : SomeArrive (acksLost losses))
    (kept : traffic.toClient ≠ none → (losses now).toClient = false) :
    Phase size content path address losses (now + 1)
      (traffic.turn address (losses now)) := by
  cases phase with
  | sending sending within early =>
      obtain ⟨writer, retries, listens⟩ := sending.client
      obtain ⟨peer, before, sends⟩ := sending.handler
      have arrives : (losses now).toClient = false := by
        apply kept
        simp [sending.carried]
      exact
        .of_block fits listens.toClientWaits sends sending.carried arrives
          within early
  | @waiting count lost waiting within early inRow =>
      have fewer := inRow.lt_maxRetries arrive
      have goesOn :
          GoesOn size content path address count (lost + 1) (losses now)
            (traffic.turn address (losses now)) := by
        apply waiting.turn
        · have most := fits.few
          omega
        · exact fewer
        · intro missed
          exact (inRow.succ missed).lt_maxRetries arrive
      exact .of_goesOn goesOn within early inRow fewer
  | @leaving left leaving early =>
      have leavingNow :
          Leaving size content path (left - 1)
            (traffic.turn address (losses now)) :=
        leaving.turn
      apply Phase.leaving leavingNow
      omega

/-- Something is on the way to the client only while a block is sent. -/
theorem Phase.sending_of_carried
    (phase : Phase size content path address losses now traffic)
    (carried : traffic.toClient ≠ none) :
    ∃ count, Sending size content path address count traffic := by
  cases phase with
  | sending sending within early => exact ⟨_, sending⟩
  | waiting waiting within early inRow =>
      exact absurd waiting.carried carried
  | leaving leaving early => exact absurd leaving.carried carried

/-- After so many turns everything is over. -/
theorem Phase.done
    (phase :
      Phase size content path address losses
        (maxRetries * (chunkCount size content + 1)) traffic)
    (arrive : SomeArrive (acksLost losses)) :
    Done path content traffic.conversation := by
  have late : ∀ count < chunkCount size content,
      maxRetries * (count + 1) ≤
        maxRetries * chunkCount size content :=
    fun count within => Nat.mul_le_mul_left maxRetries within
  rw [Nat.mul_add] at phase
  cases phase with
  | @sending count sending within early =>
      have latest := late count within
      simp only [maxRetries] at early latest
      omega
  | @waiting count lost waiting within early inRow =>
      have latest := late count within
      have fewer := inRow.lt_maxRetries arrive
      simp only [maxRetries] at early latest fewer
      omega
  | @leaving left leaving early =>
      obtain rfl : left = 0 := by
        rw [Nat.mul_add] at early
        omega
      constructor
      · exact leaving.client
      · rcases leaving.handler with
          ended | ⟨_, _, _, _, _, _, more⟩
        · exact ended
        · exact absurd more (Nat.lt_irrefl 0)
      · exact leaving.stored

/-! ## The options -/

/-- The OACK is on the way to the client. -/
structure Answering (size : Nat) (content : Bytes) (path : Path)
    (address : Address) (options : List TftpOption)
    (traffic : Traffic) : Prop where
  client : ∃ writer retries,
    ClientWaits size content path address 0 retries traffic.client
        writer ∧
      traffic.client.session.serverAddress.ip = address.ip ∧
        traffic.client.control = .awaitRrqReply writer retries
  handler : HandlerAwaits size content 0 0 traffic.handler
  carried : ∃ raw, traffic.toClient = some raw ∧
    Agreeable size options (traffic.client.session.adoptPort address) raw

/-- When it arrives, the client acknowledges it. -/
theorem Answering.goesOn {options : List TftpOption}
    (answering : Answering size content path address options traffic)
    (kept : loss.toClient = false) :
    GoesOn size content path address 0 0 loss
      (traffic.turn address loss) := by
  obtain ⟨writer, retries, waits, sameHost, control⟩ := answering.client
  obtain ⟨raw, carried, agreeable⟩ := answering.carried
  obtain ⟨listens, acknowledges⟩ :=
    waits.hearOack sameHost control agreeable
  have heard :
      traffic.clientAfter address loss =
        traffic.client.step (deliver address raw) := by
    rw [Traffic.clientAfter, carried, kept, arrival_kept]
  rw [← heard] at listens acknowledges
  cases missed : loss.toHandler with
  | false =>
      have answer :
          traffic.toHandler address loss = some (ackOf 0).makeRaw := by
        rw [Traffic.toHandler, acknowledges, news_append]
      obtain ⟨sends, carriedNext⟩ :=
        handler_of_kept answering.handler missed answer (by decide)
      exact .sending missed ⟨⟨writer, 0, listens⟩, sends, carriedNext⟩
  | true =>
      have misses :
          HandlerAwaits size content 0 1
              (traffic.turn address loss).handler ∧
            (traffic.turn address loss).toClient = none :=
        handler_of_lost answering.handler missed (by decide)
      exact .waiting missed ⟨⟨writer, listens⟩, misses.1, misses.2⟩

end IsaTftp.Download
