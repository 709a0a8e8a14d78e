import IsaTftp.Files.Exhausted
import IsaTftp.Server.Numbers

/-!
# Acknowledged blocks of a NETASCII transfer

The loop of `FollowOnRRQ` goes on for every block which is acknowledged, up to
the first short one.  In NETASCII mode the reader comes to a short chunk, so
only so many blocks can be acknowledged in one run.
-/

namespace IsaTftp.Server

open IsaTftp.Wire
open IsaTftp.Files
open IsaTftp.Transfer
open IsaTftp.Library.Runs

/-- The event acknowledges the block which the handler waits for. -/
def Handler.acknowledges (handler : Handler) (event : Event) : Bool :=
  match handler.control, event.reception with
  | .awaitAck sending _ foreign, .datagram sender bytes =>
      foreign < maxRetries ∧ sender = handler.session.clientAddress ∧
        ackIn bytes = some sending.blockNumber
  | _, _ => false

theorem Handler.acknowledges_iff {handler : Handler} {event : Event} :
    handler.acknowledges event = true ↔
      ∃ sending, handler.Hears event sending := by
  obtain ⟨session, control⟩ := handler
  constructor
  · intro acknowledged
    unfold acknowledges at acknowledged
    cases control with
    | awaitAck sending retries foreign =>
        cases heard : event.reception with
        | datagram sender bytes =>
            simp only [heard, decide_eq_true_eq] at acknowledged
            obtain ⟨few, rfl, number⟩ := acknowledged
            exact
              ⟨sending, ⟨retries, foreign, rfl, few⟩, bytes, heard, number⟩
        | _ => simp [heard] at acknowledged
    | _ => cases acknowledged
  · rintro ⟨sending, ⟨retries, foreign, rfl, few⟩, bytes, heard, number⟩
    simp [acknowledges, heard, few, number]

/-! ## What can still be acknowledged -/

/-- At most so many blocks can still be acknowledged. -/
def Handler.Within (handler : Handler) (budget : Nat) : Prop :=
  match handler.control with
  | .awaitOackAck reader _ _ =>
      8 ≤ handler.session.blksize ∧
        ∃ count < budget,
          reader.AtMost handler.session.storage.files count
  | .awaitAck sending _ _ =>
      8 ≤ handler.session.blksize ∧
        if sending.lastPacketSent then 0 < budget
        else
          ∃ count, count + 1 < budget ∧
            sending.reader.AtMost handler.session.storage.files count
  | .ended _ => True
  | _ => False

section Steps

variable {session next : Session} {budget : Nat}

theorem Handler.Within.raise (session : Session) (exception : Exception) :
    (session.raise exception).Within budget :=
  trivial

theorem Handler.Within.checkForSigintRRQ (session : Session)
    (host : HostChoice) (reader : Reader) :
    (session.checkForSigintRRQ host reader).Within budget := by
  unfold Session.checkForSigintRRQ Session.deleteAndTerminate
  split
  · trivial
  · trivial

/-- Reading the next chunk and sending it. -/
theorem Handler.Within.sendBlock
    (session : Session) {reader : Reader} {count : Nat}
    (atLeast : 8 ≤ session.blksize)
    (atMost : reader.AtMost session.storage.files count)
    (few : count < budget) (host : HostChoice) (blockNumber : Nat) :
    (session.sendBlock host reader blockNumber).Within budget := by
  unfold Session.sendBlock
  cases read :
      reader.readFile session.storage host session.blksize with
  | mk result storage =>
      cases result with
      | error exception => trivial
      | ok pair =>
          obtain ⟨data, after⟩ := pair
          refine ⟨atLeast, ?_⟩
          dsimp only
          by_cases short : data.length < session.blksize
          · rw [decide_eq_true short, if_pos rfl]
            exact Nat.zero_lt_of_lt few
          · obtain ⟨fewer, less, later⟩ :=
              atMost.readFile atLeast read short
            rw [decide_eq_false short, if_neg Bool.false_ne_true]
            exact ⟨fewer, by omega, later⟩

/-- The head of the loop, after some talk. -/
theorem Handler.Within.again
    {control : Control} (within : Handler.Within ⟨session, control⟩ budget)
    (talks : session.Talks next) (host : HostChoice) (retries : Nat) :
    (next.again host control retries).Within budget := by
  cases control with
  | awaitOackAck reader =>
      unfold Session.again Session.awaitOackAckAgain
      dsimp only
      split_ifs
      · unfold Within at within ⊢
        dsimp only at within ⊢
        rw [talks.blksize, talks.storage]
        exact within
      · trivial
  | awaitAck sending =>
      unfold Session.again Session.awaitAckAgain
      dsimp only
      split_ifs
      · unfold Within at within ⊢
        dsimp only at within ⊢
        rw [talks.blksize, talks.storage]
        exact within
      · trivial
      · trivial
  | ended outcome => trivial
  | awaitFirstData => exact within.elim
  | awaitData => exact within.elim

theorem Handler.Within.refuses
    {control : Control} (within : Handler.Within ⟨session, control⟩ budget)
    (sender : Address) (foreign : Nat) :
    Handler.Within ⟨session.reply sender, control.withForeign foreign⟩
      budget := by
  cases control with
  | awaitFirstData => exact within.elim
  | awaitData => exact within.elim
  | _ => exact within

theorem Handler.Within.writer_ne
    {control : Control} (within : Handler.Within ⟨session, control⟩ budget)
    {writer : Writer} : control.writer ≠ some writer := by
  cases control with
  | awaitFirstData => exact within.elim
  | awaitData => exact within.elim
  | _ => exact Option.some_ne_none writer ∘ Eq.symm

/-- The block was acknowledged: one less. -/
theorem Handler.Within.afterAck
    {sending : Sending} {retries foreign : Nat}
    (within :
      Handler.Within ⟨session, .awaitAck sending retries foreign⟩
        (budget + 1))
    (host : HostChoice) :
    (session.afterAck host sending).Within budget := by
  obtain ⟨atLeast, more⟩ := within
  unfold Session.afterAck
  split_ifs with last
  · trivial
  · rw [if_neg last] at more
    obtain ⟨count, few, atMost⟩ := more
    exact
      .sendBlock session.timeoutReset atLeast atMost
        (Nat.lt_of_succ_lt_succ few) host _

/-- A waiting handler can hear at least one ACK. -/
theorem Handler.Within.positive
    {sending : Sending} {retries foreign : Nat}
    (within :
      Handler.Within ⟨session, .awaitAck sending retries foreign⟩
        budget) :
    0 < budget := by
  obtain ⟨_, more⟩ := within
  split_ifs at more
  · exact more
  · obtain ⟨count, few, _⟩ := more
    exact Nat.zero_lt_of_lt few

/-- One event takes a block away if it acknowledges one. -/
theorem Handler.Within.step
    {handler : Handler} (within : handler.Within budget) (event : Event) :
    (handler.acknowledges event).toNat ≤ budget ∧
      (handler.step event).Within
        (budget - (handler.acknowledges event).toNat) := by
  by_cases acknowledged : handler.acknowledges event = true
  · obtain ⟨sending, hears⟩ := Handler.acknowledges_iff.mp acknowledged
    rw [acknowledged, hears.step]
    obtain ⟨session, control⟩ := handler
    obtain ⟨⟨retries, foreign, rfl, _⟩, _⟩ := hears
    obtain ⟨less, rfl⟩ := Nat.exists_eq_add_of_lt within.positive
    constructor
    · simp
    · have same : 0 + less + 1 - true.toNat = less := by
        simp
      rw [same]
      rw [Nat.zero_add] at within
      exact within.afterAck event.host
  · have unheard := mt Handler.acknowledges_iff.mpr acknowledged
    rw [Bool.not_eq_true _ |>.mp acknowledged]
    refine ⟨Nat.zero_le _, ?_⟩
    obtain ⟨session, control⟩ := handler
    have step := Handler.step_cases ⟨session, control⟩ event
    generalize Handler.step ⟨session, control⟩ event = next at step ⊢
    cases step with
    | refuses sender foreign => exact within.refuses sender foreign
    | again retries => exact within.again (.refl session) event.host retries
    | slowerAgain retries =>
        have talks := (Session.Talks.refl session).increaseTimeout
        exact within.again talks event.host retries
    | raises _ exception => exact .raise session exception
    | interruptsRRQ => exact .checkForSigintRRQ session event.host _
    | begins waits =>
        cases waits
        obtain ⟨atLeast, count, few, atMost⟩ := within
        exact
          .sendBlock session.timeoutReset atLeast atMost few event.host 1
    | acknowledged waits delivered received =>
        cases waits
        exact absurd ⟨_, .of_received delivered received⟩ unheard
    | isOver => exact within
    | abandons writes => exact absurd writes within.writer_ne
    | interruptsWRQ writes => exact absurd writes within.writer_ne
    | stores writes => exact absurd writes within.writer_ne

/-- In a run no more blocks are acknowledged. -/
theorem Handler.Within.run
    {start : Handler} (within : start.Within budget)
    (events : List Event) :
    ((stepsOf Handler.step start events).countP fun taken =>
        taken.1.acknowledges taken.2) ≤ budget := by
  induction events generalizing start budget with
  | nil => exact Nat.zero_le budget
  | cons event events induction =>
      obtain ⟨some_, after⟩ := within.step event
      have later := induction after
      rw [stepsOf_cons, List.countP_cons]
      cases acknowledged : start.acknowledges event with
      | true =>
          rw [acknowledged] at some_ later
          simp only [acknowledged, if_true] at *
          simp at some_ later
          omega
      | false =>
          rw [acknowledged] at later
          simpa [acknowledged] using later

/-- The answer to a RRQ. -/
theorem Handler.Within.answerRRQ
    {reader : Reader} {count : Nat} (atLeast : 8 ≤ session.blksize)
    (atMost : reader.AtMost session.storage.files count)
    (few : count < budget) (host : HostChoice)
    (options negotiated : List TftpOption) :
    (session.answerRRQ host reader options negotiated).Within budget := by
  unfold Session.answerRRQ
  split_ifs
  · split
    · trivial
    · exact ⟨atLeast, count, few, atMost⟩
  · exact .sendBlock session atLeast atMost few host 1

/-- A RRQ for a file in NETASCII mode. -/
theorem Handler.Within.followOnRRQ
    {request : ReadWritePacket} {introPacket content : Bytes}
    (parsed : ReadWritePacket.ofRaw introPacket = .ok request)
    (netascii : formatOfMode request.mode = .NETASCII)
    (found :
      session.storage.files.content (session.filePath request.filepath) =
        some content)
    (atLeast : 8 ≤ session.blksize) (host : HostChoice) :
    (session.followOnRRQ host introPacket).Within
      (4 * content.length + 1) := by
  rcases session.followOnRRQ_cases host introPacket with
    ⟨reached, exception, _, refused⟩ |
      ⟨rrq, reached, negotiated, same, _, _, opened, starts⟩
  · rw [refused]
    trivial
  · cases parsed.symm.trans same
    rcases starts with ⟨exception, failed⟩ | diverged | answered
    · rw [failed]
      trivial
    · rw [diverged]
      trivial
    · rw [answered, netascii]
      have enough : 8 ≤ reached.blksize := by
        rcases opened.blksize with kept | ⟨agreed, _⟩
        · rw [kept]
          exact atLeast
        · exact agreed
      rw [← opened.storage.files] at found
      exact .answerRRQ enough (.make found) (Nat.lt_succ_self _) host _ _

end Steps

/--
NETASCII reading ends.  Calls of `ReadFile` come to a short chunk, the loops of
each call end, and in `FollowOnRRQ` only so many blocks can be acknowledged.
-/
theorem netascii_reading_ends
    {storage : Storage} {path : Path} {content : Bytes}
    (found : storage.files.content path = some content)
    {numBytes : Nat} (atLeast : 8 ≤ numBytes) :
    let reader := Reader.make path .NETASCII
    let most := 4 * content.length
    (∀ strays : List UInt8, most < strays.length →
      reader.readOn storage numBytes
          (strays.map fun stray => { stray := stray }) =
        .ended) ∧
      (∀ hosts : List HostChoice, most < hosts.length →
        reader.readOn storage numBytes hosts ≠ .goesOn) ∧
      (∀ fails failure stray turns buffer overflow stream,
        overflow.length + stream.rest.length < turns →
          extendLoop fails failure stray turns buffer overflow stream =
            some
              (extendFromOverflow fails failure stray buffer overflow
                stream)) ∧
      ∀ (client : Address) (rootDirpath : Path) (introPacket : Bytes)
        (request : ReadWritePacket) (host : HostChoice)
        (events : List Event),
        let session := Session.make client rootDirpath storage.files
        ReadWritePacket.ofRaw introPacket = .ok request →
          formatOfMode request.mode = .NETASCII →
            session.filePath request.filepath = path →
              ((stepsOf Handler.step (session.followOnRRQ host introPacket)
                  events).countP fun taken =>
                    taken.1.acknowledges taken.2) ≤ most + 1 := by
  intro reader most
  have atMost : reader.AtMost storage.files most := .make found
  constructor
  · intro strays many
    have here : reader.At storage.files content [] ⟨content, false⟩ :=
      ⟨rfl, found, rfl, Or.inr ⟨rfl, rfl⟩⟩
    have long :
        most < (strays.map fun stray =>
          ({ stray := stray } : HostChoice)).length := by
      simpa using many
    have ends := atMost.readOn atLeast long
    cases read : reader.readOn storage numBytes
        (strays.map fun stray => { stray := stray }) with
    | ended => rfl
    | threw exception =>
        exact absurd read (here.readOn_ne_threw numBytes strays exception)
    | goesOn => exact absurd read ends
  constructor
  · intro hosts many
    exact atMost.readOn atLeast many
  constructor
  · intro fails failure stray turns buffer overflow stream many
    exact extendLoop_eq many
  · intro client rootDirpath introPacket request host events session parsed
      netascii same
    have there :
        session.storage.files.content
            (session.filePath request.filepath) =
          some content := by
      rw [same]
      exact found
    have enough : 8 ≤ session.blksize := by
      show 8 ≤ 512
      decide
    exact
      (Handler.Within.followOnRRQ parsed netascii there enough host).run
        events

/-- The theorem at a file of a few bytes. -/
theorem netascii_reading_ends_small :
    let storage : Storage := ⟨smallDisk (some [13, 10, 13]), []⟩
    (Reader.make (text "r/f") .NETASCII).readOn storage 8
        ((List.replicate 13 13).map fun stray => { stray := stray }) =
      .ended := by
  intro storage
  have there :
      storage.files.content (text "r/f") = some [13, 10, 13] := by
    decide
  have ends := netascii_reading_ends there (Nat.le_refl 8)
  exact ends.1 (List.replicate 13 13) (by decide)

end IsaTftp.Server
