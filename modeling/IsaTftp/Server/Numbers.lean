import IsaTftp.Numbers
import IsaTftp.Server.Steps

/-!
# The block numbers of FollowOnRRQ

The counter is an `int`.  The number 65535 is the last one which can be
acknowledged; if another block follows, it is sent with the number zero, and
no ACK matches it.
-/

namespace IsaTftp.Server

open IsaTftp.Wire
open IsaTftp.Files
open IsaTftp.Transfer
open IsaTftp.Library.Runs

/-! ## Counting blocks -/

/-- So many blocks have been sent, one after the other. -/
structure CountsTo (handler : Handler) (count : Nat) : Prop where
  numbers : dataNumbers handler.sent = numbersUpTo count
  control :
    match handler.control with
    | .awaitOackAck .. => count = 0
    | .awaitAck sending _ _ => sending.blockNumber = count
    | .ended _ => True
    | _ => False

/-- The block is acknowledged which the handler waits for. -/
structure Handler.Hears (handler : Handler) (event : Event)
    (sending : Sending) : Prop where
  waits : ∃ retries foreign,
    handler.control = .awaitAck sending retries foreign ∧
      foreign < maxRetries
  heard : ∃ bytes,
    event.reception = .datagram handler.session.clientAddress bytes ∧
      ackIn bytes = some sending.blockNumber

/--
The last block number with sixteen bits is acknowledged, and it was not the
number of the last block.
-/
structure Handler.AtLimit (handler : Handler) (event : Event)
    (sending : Sending) : Prop extends handler.Hears event sending where
  limit : sending.blockNumber + 1 = blockNumbers
  more : sending.lastPacketSent = false

/-- The next block can be read. -/
def Handler.Reads (handler : Handler) (event : Event)
    (sending : Sending) : Prop :=
  ∃ data reader storage,
    sending.reader.readFile handler.session.storage event.host
        handler.session.blksize =
      (.ok (data, reader), storage)

/-- An ACK of a block ends its loop. -/
theorem Handler.Hears.step
    {handler : Handler} {event : Event} {sending : Sending}
    (hears : handler.Hears event sending) :
    handler.step event = handler.session.afterAck event.host sending := by
  obtain ⟨session, control⟩ := handler
  obtain ⟨⟨retries, foreign, rfl, few⟩, bytes, reception, acknowledged⟩ :=
    hears
  rw [← ackIn_take] at acknowledged
  show session.stepAwaitAck sending retries foreign event = _
  have delivered :
      session.recievePacketFromClient foreign event.reception =
        (session, .delivered (bytes.take UdpClient.maxPacketSize)) := by
    rw [reception]
    simp only [Session.recievePacketFromClient, recievePacketFrom_peer,
      if_pos few]
  simp only [Session.stepAwaitAck, delivered,
    classifyAck_received_iff.mpr acknowledged]

/-- What was classified as the ACK which the handler waits for. -/
theorem Handler.Hears.of_received
    {session next : Session} {sending : Sending} {retries foreign : Nat}
    {event : Event} {packet : Bytes}
    (result :
      session.recievePacketFromClient foreign event.reception =
        (next, .delivered packet))
    (received :
      classifyAck (text "Client") sending.blockNumber packet =
        .ok .received) :
    Handler.Hears ⟨session, .awaitAck sending retries foreign⟩ event
      sending := by
  obtain ⟨_, few, bytes, reception, rfl⟩ :=
    Session.recievePacketFromClient_delivered result
  have heard := classifyAck_received_iff.mp received
  rw [ackIn_take] at heard
  exact ⟨⟨retries, foreign, rfl, few⟩, bytes, reception, heard⟩

section Steps

variable {session : Session} {count : Nat}

theorem CountsTo.raise
    (session : Session)
    (numbers : dataNumbers session.udp.sent = numbersUpTo count)
    (exception : Exception) :
    CountsTo (session.raise exception) count where
  numbers := by simpa [Handler.sent] using numbers
  control := trivial

theorem CountsTo.checkForSigintRRQ
    (session : Session)
    (numbers : dataNumbers session.udp.sent = numbersUpTo count)
    (host : HostChoice) (reader : Reader) :
    CountsTo (session.checkForSigintRRQ host reader) count := by
  have silent :
      dataNumbers (session.send Session.interrupted.makeRaw).udp.sent =
        numbersUpTo count := by
    simpa using numbers
  unfold Session.checkForSigintRRQ Session.deleteAndTerminate
  split
  · exact ⟨silent, trivial⟩
  · rename_i exception storage _
    exact
      .raise
        ((session.send Session.interrupted.makeRaw).withStorage storage)
        silent exception

/-- Reading a block and sending it. -/
theorem CountsTo.sendBlock
    (session : Session)
    (numbers : dataNumbers session.udp.sent = numbersUpTo count)
    (host : HostChoice) (reader : Reader) :
    (∃ exception storage,
        reader.readFile session.storage host session.blksize =
            (.error exception, storage) ∧
          session.sendBlock host reader (count + 1) =
            (session.withStorage storage).raise exception) ∨
      (∃ data next storage,
          reader.readFile session.storage host session.blksize =
            (.ok (data, next), storage)) ∧
        CountsTo (session.sendBlock host reader (count + 1))
          (count + 1) := by
  unfold Session.sendBlock
  cases read :
      reader.readFile session.storage host session.blksize with
  | mk result storage =>
      cases result with
      | error exception => exact Or.inl ⟨exception, storage, rfl, rfl⟩
      | ok pair =>
          obtain ⟨data, next⟩ := pair
          refine Or.inr ⟨⟨data, next, storage, rfl⟩, ?_, rfl⟩
          have number : (UInt16.ofNat (count + 1)).toNat =
              (count + 1) % blockNumbers :=
            UInt16.toNat_ofNat
          rw [numbersUpTo_succ, ← numbers, ← number]
          exact
            dataNumbers_append_data session.udp.sent
              ⟨UInt16.ofNat (count + 1), data⟩ session.clientAddress

/-- The head of the loop, on a session which has sent the same blocks. -/
theorem CountsTo.again
    {control : Control} (counts : CountsTo ⟨session, control⟩ count)
    {next : Session}
    (same : dataNumbers next.udp.sent = dataNumbers session.udp.sent)
    (host : HostChoice) (retries : Nat) :
    CountsTo (next.again host control retries) count := by
  have numbers : dataNumbers next.udp.sent = numbersUpTo count :=
    same.trans counts.numbers
  have knows := counts.control
  cases control with
  | awaitOackAck reader =>
      unfold Session.again Session.awaitOackAckAgain
      dsimp only
      split_ifs
      · exact ⟨numbers, knows⟩
      · exact .raise next numbers timeoutError
  | awaitAck sending =>
      unfold Session.again Session.awaitAckAgain
      dsimp only
      split_ifs
      · exact ⟨numbers, knows⟩
      · exact ⟨numbers, trivial⟩
      · exact .raise next numbers timeoutError
  | ended outcome => exact ⟨numbers, trivial⟩
  | awaitFirstData => exact knows.elim
  | awaitData => exact knows.elim

/-- The reply to a foreign sender is no block. -/
theorem CountsTo.refuses
    {control : Control} (counts : CountsTo ⟨session, control⟩ count)
    (sender : Address) (foreign : Nat) :
    CountsTo ⟨session.reply sender, control.withForeign foreign⟩
      count where
  numbers := by
    rw [← counts.numbers]
    exact
      dataNumbers_congr
        (dataSent_append_of_opcode unknownSender.getOpcode_makeRaw
          (by decide) _ _)
  control := by
    have knows := counts.control
    cases control with
    | awaitFirstData => exact knows.elim
    | awaitData => exact knows.elim
    | _ => exact knows

/-- Such a handler writes no file. -/
theorem CountsTo.writer_ne
    {control : Control} (counts : CountsTo ⟨session, control⟩ count)
    {writer : Writer} : control.writer ≠ some writer := by
  have knows := counts.control
  cases control with
  | awaitFirstData => exact knows.elim
  | awaitData => exact knows.elim
  | _ => exact Option.some_ne_none writer ∘ Eq.symm

/-- After its ACK a block is followed by the next one, if it can be read. -/
theorem CountsTo.afterAck
    (handler : Handler) {sending : Sending}
    (numbers : dataNumbers handler.sent = numbersUpTo count)
    (current : sending.blockNumber = count) (event : Event) :
    CountsTo (handler.session.afterAck event.host sending) count ∨
      CountsTo (handler.session.afterAck event.host sending)
          (count + 1) ∧
        sending.lastPacketSent = false ∧ handler.Reads event sending := by
  unfold Session.afterAck
  split_ifs with last
  · exact Or.inl ⟨numbers, trivial⟩
  · rw [current]
    rcases CountsTo.sendBlock handler.session.timeoutReset numbers
        event.host sending.reader with
      ⟨exception, storage, _, failed⟩ | ⟨reads, sent⟩
    · left
      rw [failed]
      exact
        .raise (handler.session.timeoutReset.withStorage storage) numbers
          _
    · exact Or.inr ⟨sent, Bool.eq_false_iff.mpr last, reads⟩

/--
One step: no block is sent, or the next one, and then the one before was
acknowledged and was not the last.
-/
theorem CountsTo.step
    {handler : Handler} (counts : CountsTo handler count)
    (event : Event) :
    CountsTo (handler.step event) count ∨
      (CountsTo (handler.step event) (count + 1) ∧
        (count ≠ 0 → ∃ sending, handler.Hears event sending ∧
          sending.blockNumber = count ∧ sending.lastPacketSent = false ∧
            handler.Reads event sending)) := by
  obtain ⟨session, control⟩ := handler
  have numbers := counts.numbers
  have knows := counts.control
  have step := Handler.step_cases ⟨session, control⟩ event
  generalize Handler.step ⟨session, control⟩ event = next at step ⊢
  cases step with
  | refuses sender foreign => exact Or.inl (counts.refuses sender foreign)
  | again retries => exact Or.inl (counts.again rfl event.host retries)
  | slowerAgain retries =>
      have same : dataNumbers session.increaseTimeout.udp.sent =
          dataNumbers session.udp.sent :=
        rfl
      exact Or.inl (counts.again same event.host retries)
  | raises _ exception => exact Or.inl (.raise session numbers exception)
  | interruptsRRQ =>
      exact Or.inl (.checkForSigintRRQ session numbers event.host _)
  | begins waits =>
      cases waits
      obtain rfl : count = 0 := knows
      rcases CountsTo.sendBlock session.timeoutReset numbers event.host _
        with ⟨exception, storage, _, failed⟩ | ⟨_, sent⟩
      · left
        rw [failed]
        exact .raise (session.timeoutReset.withStorage storage) numbers _
      · exact Or.inr ⟨sent, fun some_ => absurd rfl some_⟩
  | acknowledged waits delivered received =>
      rename_i sending retries foreign packet
      cases waits
      rcases
        CountsTo.afterAck
          ⟨session, .awaitAck sending retries foreign⟩ numbers knows event
        with same | ⟨sent, more, reads⟩
      · exact Or.inl same
      · right
        refine ⟨sent, fun _ => ⟨sending, ?_, knows, more, reads⟩⟩
        exact .of_received delivered received
  | isOver => exact Or.inl counts
  | abandons writes => exact absurd writes counts.writer_ne
  | interruptsWRQ writes => exact absurd writes counts.writer_ne
  | stores writes => exact absurd writes counts.writer_ne

/-- Only numbers with sixteen bits can be heard. -/
theorem Handler.Hears.lt
    {handler : Handler} {event : Event} {sending : Sending}
    (hears : handler.Hears event sending) :
    sending.blockNumber < blockNumbers := by
  obtain ⟨_, bytes, _, heard⟩ := hears
  exact lt_of_ackIn heard

/-- The answer to a RRQ is an OACK or the first block. -/
theorem CountsTo.answerRRQ
    (session : Session)
    (numbers : dataNumbers session.udp.sent = numbersUpTo 0)
    (host : HostChoice) (reader : Reader)
    (options negotiated : List TftpOption) :
    ∃ count ≤ 1,
      CountsTo (session.answerRRQ host reader options negotiated)
        count := by
  unfold Session.answerRRQ
  split_ifs
  · split
    · exact ⟨0, by omega, .raise session numbers _⟩
    · rename_i raw encoded
      refine ⟨0, by omega, ?_, rfl⟩
      rw [← numbers]
      exact
        dataNumbers_append_of_opcode
          (OackPacket.getOpcode_makeRaw encoded) (by decide) _ _
  · rcases CountsTo.sendBlock session numbers host reader with
      ⟨exception, storage, _, failed⟩ | ⟨_, sent⟩
    · rw [failed]
      exact
        ⟨0, by omega, .raise (session.withStorage storage) numbers _⟩
    · exact ⟨1, le_refl 1, sent⟩

/-- A handler which has just begun to follow on a RRQ. -/
theorem CountsTo.start
    (clientAddress : Address) (rootDirpath : Path) (files : FileSystem)
    (host : HostChoice) (introPacket : Bytes) :
    ∃ count ≤ 1,
      CountsTo
        ((Session.make clientAddress rootDirpath files).followOnRRQ host
          introPacket)
        count := by
  have silent : ∀ {reached : Session},
      reached.udp.sent = [] →
        dataNumbers reached.udp.sent = numbersUpTo 0 := by
    intro reached nothing
    rw [nothing]
    rfl
  rcases Session.followOnRRQ_cases
      (Session.make clientAddress rootDirpath files) host introPacket with
    ⟨reached, exception, quiet, refused⟩ |
      ⟨rrq, reached, negotiated, _, _, _, opened, starts⟩
  · rw [refused]
    exact ⟨0, by omega, .raise reached (silent quiet.sent) _⟩
  · rcases starts with ⟨exception, failed⟩ | diverged | answered
    · rw [failed]
      exact ⟨0, by omega, .raise reached (silent opened.sent) _⟩
    · rw [diverged]
      exact ⟨0, by omega, silent opened.sent, trivial⟩
    · rw [answered]
      exact CountsTo.answerRRQ reached (silent opened.sent) host _ _ _

/-- Whatever it hears, a handler never gets past block 65536. -/
theorem CountsTo.run
    {start : Handler} {first : Nat} (counts : CountsTo start first)
    (few : first ≤ blockNumbers) (events : List Event) :
    ∃ last ≤ blockNumbers,
      CountsTo (run Handler.step start events) last := by
  refine
    run_invariant
      (fun handler => ∃ last ≤ blockNumbers, CountsTo handler last) ?_
      ⟨first, few, counts⟩ events
  rintro handler event ⟨last, bound, here⟩
  rcases here.step event with same | ⟨next, heard⟩
  · exact ⟨last, bound, same⟩
  · refine ⟨last + 1, ?_, next⟩
    by_cases none_ : last = 0
    · rw [none_, blockNumbers]
      omega
    · obtain ⟨sending, hears, current, _⟩ := heard none_
      have lap := hears.lt
      rw [current] at lap
      exact lap

end Steps

/-! ## Runs -/

/-- Past the last number the handler ends with an exception. -/
def StopsAtLimit (start : Handler) (events : List Event) : Prop :=
  ∀ taken ∈ stepsOf Handler.step start events, ∀ sending,
    taken.1.AtLimit taken.2 sending →
      ∃ exception,
        (taken.1.step taken.2).control = .ended (.threw exception)

/-- No block is there to be sent past the last number. -/
def EndsAtLimit (start : Handler) (events : List Event) : Prop :=
  ∀ taken ∈ stepsOf Handler.step start events, ∀ sending,
    taken.1.AtLimit taken.2 sending → ¬ taken.1.Reads taken.2 sending

/-- At the limit a handler stops exactly if it cannot read another block. -/
theorem Handler.AtLimit.stops_iff
    {handler : Handler} {event : Event} {sending : Sending}
    (limit : handler.AtLimit event sending) :
    (∃ exception,
        (handler.step event).control = .ended (.threw exception)) ↔
      ¬ handler.Reads event sending := by
  rw [limit.toHears.step]
  have more : ¬ sending.lastPacketSent = true := by
    rw [limit.more]
    exact Bool.false_ne_true
  unfold Session.afterAck Session.sendBlock Handler.Reads
  rw [if_neg more]
  simp only [Session.timeoutReset_storage, Session.timeoutReset_blksize]
  cases read :
      sending.reader.readFile handler.session.storage event.host
        handler.session.blksize with
  | mk result storage =>
      cases result with
      | error exception =>
          refine iff_of_true ⟨exception, rfl⟩ ?_
          rintro ⟨_, _, _, readable⟩
          cases readable
      | ok pair =>
          refine iff_of_false ?_ (not_not.mpr ⟨_, _, _, rfl⟩)
          rintro ⟨_, stopped⟩
          cases stopped

/-- As long as no block is sent past the last number, none is reused. -/
theorem neverReused_of_endsAtLimit
    {start : Handler} {first : Nat} (counts : CountsTo start first)
    (few : first ≤ 1) {events : List Event}
    (ends_ : EndsAtLimit start events) :
    NeverReused (run Handler.step start events).sent := by
  obtain ⟨last, bound, reached⟩ :
      ∃ last, last < blockNumbers ∧
        CountsTo (run Handler.step start events) last := by
    refine
      run_invariant_of_steps
        (fun handler => ∃ last, last < blockNumbers ∧ CountsTo handler last)
        ⟨first, ?_, counts⟩ ?_
    · rw [blockNumbers]
      omega
    · rintro taken member ⟨last, bound, here⟩
      rcases here.step taken.2 with same | ⟨next, heard⟩
      · exact ⟨last, bound, same⟩
      · refine ⟨last + 1, ?_, next⟩
        by_contra atLimit
        have limit : last + 1 = blockNumbers := by omega
        have some_ : last ≠ 0 := by
          rintro rfl
          cases limit
        obtain ⟨sending, hears, current, more, reads⟩ := heard some_
        rw [← current] at limit
        exact ends_ taken member sending ⟨hears, limit, more⟩ reads
  exact (neverReused_iff reached.numbers).mpr bound

/--
A handler never reuses a number and stops with an exception when there is none
left, exactly if no further block can be read then.
-/
theorem never_reused_iff
    (clientAddress : Address) (rootDirpath : Path) (files : FileSystem)
    (host : HostChoice) (introPacket : Bytes) (events : List Event) :
    let start :=
      (Session.make clientAddress rootDirpath files).followOnRRQ host
        introPacket
    NeverReused (run Handler.step start events).sent ∧
        StopsAtLimit start events ↔
      EndsAtLimit start events := by
  obtain ⟨first, few, counts⟩ :=
    CountsTo.start clientAddress rootDirpath files host introPacket
  constructor
  · rintro ⟨_, stops⟩ taken member sending limit
    exact limit.stops_iff.mp (stops taken member sending limit)
  · intro ends_
    constructor
    · exact neverReused_of_endsAtLimit counts few ends_
    · intro taken member sending limit
      exact limit.stops_iff.mpr (ends_ taken member sending limit)

/-- In any case the numbers of a handler are all different. -/
theorem nodup_dataNumbers
    (clientAddress : Address) (rootDirpath : Path) (files : FileSystem)
    (host : HostChoice) (introPacket : Bytes) (events : List Event) :
    (dataNumbers
      (run Handler.step
        ((Session.make clientAddress rootDirpath files).followOnRRQ host
          introPacket)
        events).sent).Nodup := by
  obtain ⟨first, few, counts⟩ :=
    CountsTo.start clientAddress rootDirpath files host introPacket
  obtain ⟨last, bound, reached⟩ :=
    counts.run (Nat.le_trans few (by decide)) events
  rw [reached.numbers]
  exact nodup_numbersUpTo bound

end IsaTftp.Server
