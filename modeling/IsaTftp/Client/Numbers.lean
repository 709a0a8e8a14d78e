import IsaTftp.Numbers
import IsaTftp.Client.Permission

/-!
# The block numbers of SendData

The counter is a `uint16_t`.  Behind block 65535 it wraps to zero, the ACK
with the number zero matches it, and the transfer goes on with the numbers of
its first blocks.
-/

namespace IsaTftp.Client

open IsaTftp.Wire
open IsaTftp.Files
open IsaTftp.Transfer
open IsaTftp.Library.Runs

/-! ## Counting blocks -/

/-- So many blocks have been sent, one after the other. -/
structure CountsTo (client : TftpClient) (count : Nat) : Prop where
  numbers : dataNumbers client.sent = numbersUpTo count
  control :
    match client.control with
    | .awaitWrqReply => count = 0
    | .awaitAck sending _ _ =>
        sending.blockNumber.toNat = count % blockNumbers ∧ count ≠ 0
    | .ended _ => True
    | _ => False

/-- The block is acknowledged which the client waits for. -/
structure TftpClient.Hears (client : TftpClient) (event : Event)
    (sending : Sending) : Prop where
  waits : ∃ retries foreign,
    client.control = .awaitAck sending retries foreign ∧
      foreign < maxRetries
  heard : ∃ bytes,
    event.reception = .datagram client.session.serverAddress bytes ∧
      ackIn bytes = some sending.blockNumber.toNat

/--
The last block number with sixteen bits is acknowledged, and it was not the
number of the last block; SIGINT does not come before the next read.
-/
structure TftpClient.AtLimit (client : TftpClient) (event : Event)
    (sending : Sending) : Prop extends client.Hears event sending where
  limit : sending.blockNumber.toNat + 1 = blockNumbers
  more : sending.lastPacketSent = false
  calm : event.sigintAt 5 = false

/-- The next block can be read. -/
def TftpClient.Reads (client : TftpClient) (event : Event)
    (sending : Sending) : Prop :=
  ∃ block,
    sending.stdHandler.readBytesFromStdin event.host
        client.session.blksize.toNat =
      .ok block

/-- An ACK of a block ends its loop. -/
theorem TftpClient.Hears.step
    {client : TftpClient} {event : Event} {sending : Sending}
    (hears : client.Hears event sending) :
    client.step event = client.session.afterAck sending event := by
  obtain ⟨session, control⟩ := client
  obtain ⟨⟨retries, foreign, rfl, few⟩, bytes, reception, acknowledged⟩ :=
    hears
  rw [← ackIn_take] at acknowledged
  show session.stepAwaitAck sending retries foreign event = _
  have delivered :
      session.recievePacketFromServer foreign event.reception =
        (session, .delivered (bytes.take UdpClient.maxPacketSize)) := by
    rw [reception]
    simp only [Session.recievePacketFromServer, recievePacketFrom_peer,
      if_pos few]
  simp only [Session.stepAwaitAck, delivered,
    classifyAck_received_iff.mpr acknowledged]

section Steps

variable {session : Session} {count : Nat}

theorem CountsTo.raise
    (session : Session)
    (numbers : dataNumbers session.udp.sent = numbersUpTo count)
    (exception : Exception) :
    CountsTo (session.raise exception) count where
  numbers := by simpa [TftpClient.sent] using numbers
  control := trivial

theorem CountsTo.interruptWrite
    (session : Session)
    (numbers : dataNumbers session.udp.sent = numbersUpTo count) :
    CountsTo session.interruptWrite count where
  numbers := by simpa [TftpClient.sent] using numbers
  control := trivial

theorem CountsTo.checkForSigintWRQ
    (session : Session)
    (numbers : dataNumbers session.udp.sent = numbersUpTo count)
    {received : Bool} {proceed : Session → TftpClient}
    (proceeds : received = false → CountsTo (proceed session) count) :
    CountsTo (session.checkForSigintWRQ received proceed) count := by
  unfold Session.checkForSigintWRQ
  split_ifs with interrupted
  · exact .interruptWrite session numbers
  · exact proceeds (Bool.eq_false_iff.mpr interrupted)

theorem CountsTo.awaitAckAgain
    (session : Session)
    (numbers : dataNumbers session.udp.sent = numbersUpTo count)
    {sending : Sending}
    (current : sending.blockNumber.toNat = count % blockNumbers)
    (some_ : count ≠ 0) (retries : Nat) (event : Event) :
    CountsTo (session.awaitAckAgain sending retries event) count := by
  unfold Session.awaitAckAgain
  split_ifs
  · apply CountsTo.checkForSigintWRQ session numbers
    intro _
    exact ⟨numbers, current, some_⟩
  · apply CountsTo.checkForSigintWRQ session numbers
    intro _
    exact .raise session numbers timeoutError

/-- Reading a block and sending it. -/
theorem CountsTo.sendBlock
    (session : Session)
    (numbers : dataNumbers session.udp.sent = numbersUpTo count)
    {blockNumber : UInt16}
    (following : blockNumber.toNat = (count + 1) % blockNumbers)
    (stdHandler : StdHandler) (event : Event) :
    (∃ exception thrown,
        stdHandler.readBytesFromStdin event.host session.blksize.toNat =
            .error exception ∧
          session.sendBlock stdHandler blockNumber event =
            session.raise thrown) ∨
      (∃ block,
          stdHandler.readBytesFromStdin event.host session.blksize.toNat =
            .ok block) ∧
        CountsTo (session.sendBlock stdHandler blockNumber event)
          (count + 1) := by
  unfold Session.sendBlock
  cases read :
      stdHandler.readBytesFromStdin event.host session.blksize.toNat with
  | error exception =>
      left
      cases exception <;> exact ⟨_, _, rfl, rfl⟩
  | ok block =>
      obtain ⟨data, next⟩ := block
      refine Or.inr ⟨⟨_, rfl⟩, ?_⟩
      apply CountsTo.awaitAckAgain
      · rw [numbersUpTo_succ, ← numbers, ← following]
        exact
          dataNumbers_append_data session.udp.sent ⟨blockNumber, data⟩
            session.serverAddress
      · exact following
      · exact Nat.succ_ne_zero count

/-- The head of the outer loop. -/
theorem CountsTo.sendNextBlock
    (session : Session)
    (numbers : dataNumbers session.udp.sent = numbersUpTo count)
    {blockNumber : UInt16}
    (following : blockNumber.toNat = (count + 1) % blockNumbers)
    (stdHandler : StdHandler) (event : Event) :
    CountsTo (session.sendNextBlock stdHandler blockNumber event) count ∨
      CountsTo (session.sendNextBlock stdHandler blockNumber event)
          (count + 1) ∧
        event.sigintAt 5 = false ∧
          ∃ block,
            stdHandler.readBytesFromStdin event.host
                session.blksize.toNat =
              .ok block := by
  unfold Session.sendNextBlock Session.checkForSigintWRQ
  split_ifs with interrupted
  · exact Or.inl (.interruptWrite session numbers)
  · rcases CountsTo.sendBlock session numbers following stdHandler event
      with ⟨_, thrown, _, failed⟩ | ⟨reads, sent⟩
    · left
      show CountsTo (session.sendBlock stdHandler blockNumber event) count
      rw [failed]
      exact .raise session numbers thrown
    · exact Or.inr ⟨sent, Bool.eq_false_iff.mpr interrupted, reads⟩

/-- What was classified as the ACK which the client waits for. -/
theorem TftpClient.Hears.of_received
    {session next : Session} {sending : Sending} {retries foreign : Nat}
    {event : Event} {packet : Bytes}
    (result :
      session.recievePacketFromServer foreign event.reception =
        (next, .delivered packet))
    (received :
      classifyAck (text "Server") sending.blockNumber.toNat packet =
        .ok .received) :
    TftpClient.Hears ⟨session, .awaitAck sending retries foreign⟩ event
      sending := by
  obtain ⟨_, few, bytes, reception, rfl⟩ :=
    Session.recievePacketFromServer_delivered result
  have heard := classifyAck_received_iff.mp received
  rw [ackIn_take] at heard
  exact ⟨⟨retries, foreign, rfl, few⟩, bytes, reception, heard⟩

/-- After its ACK a block is followed by the next one, if it can be read. -/
theorem CountsTo.afterAck
    (client : TftpClient) {sending : Sending}
    (numbers : dataNumbers client.sent = numbersUpTo count)
    (current : sending.blockNumber.toNat = count % blockNumbers)
    (event : Event) :
    CountsTo (client.session.afterAck sending event) count ∨
      CountsTo (client.session.afterAck sending event) (count + 1) ∧
        sending.lastPacketSent = false ∧ event.sigintAt 5 = false ∧
          client.Reads event sending := by
  unfold Session.afterAck Session.checkForSigintWRQ
  split_ifs with interrupted last
  · exact Or.inl (.interruptWrite client.session numbers)
  · exact Or.inl ⟨numbers, trivial⟩
  · have following :
        (sending.blockNumber + 1).toNat = (count + 1) % blockNumbers := by
      rw [UInt16.toNat_add, current]
      simp [blockNumbers]
    rcases CountsTo.sendNextBlock client.session.timeoutReset numbers
        following sending.stdHandler event with same | ⟨sent, calm, reads⟩
    · exact Or.inl same
    · exact Or.inr ⟨sent, Bool.eq_false_iff.mpr last, calm, reads⟩

/-- `SendData`, up to the first receive. -/
theorem CountsTo.sendData
    (session : Session)
    (numbers : dataNumbers session.udp.sent = numbersUpTo 0)
    (event : Event) :
    ∃ count ≤ 1, CountsTo (session.sendData event) count := by
  unfold Session.sendData Session.checkForSigintWRQ
  split_ifs with interrupted
  · exact ⟨0, by omega, .interruptWrite session numbers⟩
  · dsimp only
    split
    · exact ⟨0, by omega, .raise session numbers _⟩
    · rename_i blksize _
      have following : (1 : UInt16).toNat = (0 + 1) % blockNumbers := rfl
      rcases CountsTo.sendNextBlock { session with blksize := blksize }
          numbers following _ event with same | ⟨sent, _⟩
      · exact ⟨0, by omega, same⟩
      · exact ⟨1, le_refl 1, sent⟩

/-- A client which has failed has sent no further block. -/
theorem CountsTo.of_failsFrom
    {client : TftpClient} (fails : FailsFrom session client)
    (numbers : dataNumbers session.udp.sent = numbersUpTo count) :
    CountsTo client count where
  numbers := (dataNumbers_congr fails.data).trans numbers
  control := by
    obtain ⟨outcome, isOver, _⟩ := fails.failed
    rw [isOver]
    trivial

/-- The one reception of `SendWrq`. -/
theorem CountsTo.stepAwaitWrqReply
    (session : Session)
    (numbers : dataNumbers session.udp.sent = numbersUpTo 0)
    (event : Event) :
    ∃ count ≤ 1, CountsTo (session.stepAwaitWrqReply event) count := by
  have goesOn : ∀ (received : Bool) (reached next : Session),
      dataNumbers reached.udp.sent = numbersUpTo 0 →
        dataNumbers next.udp.sent = numbersUpTo 0 →
          ∃ count ≤ 1,
            CountsTo
              (reached.checkForSigintWRQ received fun _ =>
                next.sendData event)
              count := by
    intro received reached next before after
    unfold Session.checkForSigintWRQ
    split_ifs
    · exact ⟨0, by omega, .interruptWrite reached before⟩
    · exact CountsTo.sendData next after event
  cases agrees :
      TftpClient.agreement ⟨session, .awaitWrqReply⟩ event with
  | some agreed =>
      obtain ⟨sender, bytes, _, acknowledges⟩ :=
        TftpClient.acknowledges_of_agreement agrees
      have same : dataNumbers agreed.udp.sent = numbersUpTo 0 := by
        rw [acknowledges.setsUp.sent]
        exact numbers
      rw [stepAwaitWrqReply_of_agreement agrees]
      exact goesOn _ agreed agreed same same
  | none =>
      rcases stepAwaitWrqReply_cases agrees with fails | ⟨_, continues⟩
      · exact ⟨0, by omega, .of_failsFrom fails numbers⟩
      · rw [continues]
        exact
          goesOn _ session.increaseTimeout
            session.increaseTimeout.timeoutReset numbers numbers

/--
One step: no block is sent, or the next one, and then the one before was
acknowledged and was not the last.
-/
theorem CountsTo.step
    {client : TftpClient} (counts : CountsTo client count)
    (event : Event) :
    CountsTo (client.step event) count ∨
      (CountsTo (client.step event) (count + 1) ∧
        (count ≠ 0 → ∃ sending, client.Hears event sending ∧
          sending.blockNumber.toNat = count % blockNumbers ∧
            sending.lastPacketSent = false ∧ event.sigintAt 5 = false ∧
              client.Reads event sending)) := by
  obtain ⟨session, control⟩ := client
  obtain ⟨numbers, knows⟩ := counts
  cases control with
  | awaitWrqReply =>
      obtain rfl : count = 0 := knows
      obtain ⟨reached, few, counts⟩ :=
        CountsTo.stepAwaitWrqReply session numbers event
      have either : reached = 0 ∨ reached = 1 := by omega
      rcases either with rfl | rfl
      · exact Or.inl counts
      · exact Or.inr ⟨counts, fun some_ => absurd rfl some_⟩
  | awaitAck sending retries foreign =>
      obtain ⟨current, some_⟩ := knows
      have step :=
        TftpClient.step_cases
          ⟨session, .awaitAck sending retries foreign⟩ rfl event
      generalize
        TftpClient.step ⟨session, .awaitAck sending retries foreign⟩ event =
          next at step ⊢
      cases step with
      | refuses sender strangers =>
          left
          refine ⟨?_, current, some_⟩
          rw [← numbers]
          exact dataNumbers_append_error _ _ _
      | again => exact Or.inl (.awaitAckAgain session numbers current some_ _ _)
      | slowerAgain =>
          exact
            Or.inl
              (.awaitAckAgain session.increaseTimeout numbers current some_ _
                _)
      | raises _ exception => exact Or.inl (.raise session numbers exception)
      | interruptsWrite => exact Or.inl (.interruptWrite session numbers)
      | acknowledged waits delivered received =>
          cases waits
          rcases
            CountsTo.afterAck
              ⟨session, .awaitAck sending retries foreign⟩ numbers current
              event
            with same | ⟨sent, more, calm, reads⟩
          · exact Or.inl same
          · right
            refine
              ⟨sent, fun _ => ⟨sending, ?_, current, more, calm, reads⟩⟩
            exact .of_received delivered received
      | abandons waits => cases waits
      | interruptsRead waits => cases waits
      | stores waits => cases waits
      | isOver ended => cases ended
  | ended outcome => exact Or.inl ⟨numbers, trivial⟩
  | awaitRrqReply => exact knows.elim
  | awaitData => exact knows.elim

/-- A client which has just sent its request has sent no block. -/
theorem CountsTo.sendWrq
    (session : Session)
    (numbers : dataNumbers session.udp.sent = numbersUpTo 0)
    (event : Event) :
    CountsTo (session.sendWrq event) 0 := by
  rcases sendWrq_cases session event with fails | ⟨raw, known, sends⟩
  · exact .of_failsFrom fails numbers
  · rw [sends]
    constructor
    · rw [← numbers]
      exact dataNumbers_append_of_opcode known (by decide) _ _
    · rfl

end Steps

/-! ## Runs -/

/-- Past the last number the client ends with an exception. -/
def StopsAtLimit (start : TftpClient) (events : List Event) : Prop :=
  ∀ taken ∈ stepsOf TftpClient.step start events, ∀ sending,
    taken.1.AtLimit taken.2 sending →
      ∃ exception,
        (taken.1.step taken.2).control = .ended (.threw exception)

/-- No block is there to be sent past the last number. -/
def EndsAtLimit (start : TftpClient) (events : List Event) : Prop :=
  ∀ taken ∈ stepsOf TftpClient.step start events, ∀ sending,
    taken.1.AtLimit taken.2 sending → ¬ taken.1.Reads taken.2 sending

/-- At the limit the client stops exactly if it cannot read another block. -/
theorem TftpClient.AtLimit.stops_iff
    {client : TftpClient} {event : Event} {sending : Sending}
    (limit : client.AtLimit event sending) :
    (∃ exception,
        (client.step event).control = .ended (.threw exception)) ↔
      ¬ client.Reads event sending := by
  have early : event.sigintAt 4 = false :=
    sigintAt_of_le (by decide) limit.calm
  have late : event.sigintAt 5 = false := limit.calm
  have reached :
      client.step event =
        client.session.timeoutReset.sendBlock sending.stdHandler
          (sending.blockNumber + 1) event := by
    rw [limit.toHears.step]
    simp only [Session.afterAck, Session.sendNextBlock,
      Session.checkForSigintWRQ, early, late, limit.more,
      Bool.false_eq_true, if_false]
  rw [reached]
  unfold Session.sendBlock TftpClient.Reads
  simp only [Session.timeoutReset_blksize]
  cases read :
      sending.stdHandler.readBytesFromStdin event.host
        client.session.blksize.toNat with
  | error exception =>
      constructor
      · rintro _ ⟨_, readable⟩
        cases readable
      · intro _
        cases exception <;> exact ⟨_, rfl⟩
  | ok block =>
      constructor
      · rintro ⟨exception, stopped⟩
        unfold Session.awaitAckAgain Session.checkForSigintWRQ at stopped
        split_ifs at stopped with few
        · cases stopped
        · cases stopped
        · exact absurd (by decide) few
      · intro unreadable
        exact absurd ⟨block, rfl⟩ unreadable

/-- As long as no block is sent past the last number, none is reused. -/
theorem neverReused_of_endsAtLimit
    {start : TftpClient} (counts : CountsTo start 0)
    {events : List Event} (ends_ : EndsAtLimit start events) :
    NeverReused (run TftpClient.step start events).sent := by
  obtain ⟨last, bound, reached⟩ :
      ∃ last, last < blockNumbers ∧
        CountsTo (run TftpClient.step start events) last := by
    refine
      run_invariant_of_steps
        (fun client => ∃ last, last < blockNumbers ∧ CountsTo client last)
        ⟨0, by decide, counts⟩ ?_
    rintro taken member ⟨last, bound, here⟩
    rcases here.step taken.2 with same | ⟨next, heard⟩
    · exact ⟨last, bound, same⟩
    · refine ⟨last + 1, ?_, next⟩
      by_contra atLimit
      have limit : last + 1 = blockNumbers := by omega
      have some_ : last ≠ 0 := by
        rintro rfl
        cases limit
      obtain ⟨sending, hears, current, more, calm, reads⟩ := heard some_
      rw [Nat.mod_eq_of_lt bound] at current
      rw [← current] at limit
      exact ends_ taken member sending ⟨hears, limit, more, calm⟩ reads
  exact (neverReused_iff reached.numbers).mpr bound

/--
The client never reuses a number and stops with an exception when there is
none left, exactly if no further block can be read then.
-/
theorem never_reused_iff
    {args : TftpClientArgs} {serverAddress : Address} {stdin : Bytes}
    {files : FileSystem} {session : Session}
    (made : Session.make args serverAddress stdin files = .ok session)
    (first : Event) (events : List Event) :
    NeverReused
          (run TftpClient.step (session.sendWrq first) events).sent ∧
        StopsAtLimit (session.sendWrq first) events ↔
      EndsAtLimit (session.sendWrq first) events := by
  obtain ⟨_, nothing, _, _⟩ := settled_of_make made
  have counts : CountsTo (session.sendWrq first) 0 := by
    apply CountsTo.sendWrq
    rw [nothing]
    rfl
  constructor
  · rintro ⟨_, stops⟩ taken member sending limit
    exact limit.stops_iff.mp (stops taken member sending limit)
  · intro ends_
    constructor
    · exact neverReused_of_endsAtLimit counts ends_
    · intro taken member sending limit
      exact limit.stops_iff.mpr (ends_ taken member sending limit)

end IsaTftp.Client
