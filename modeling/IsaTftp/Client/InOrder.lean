import IsaTftp.Receivers
import IsaTftp.Client.Agreement

/-!
# Read accepts blocks in order

The first block can come in the loop which sends the request, where only the
number one is accepted; afterwards the number must be the one behind the
counter.  The counter is a `uint16_t`, but the sum is an `int`, so that behind
block 65535 nothing is accepted any more.
-/

namespace IsaTftp.Client

open IsaTftp.Wire
open IsaTftp.Files
open IsaTftp.Transfer
open IsaTftp.Library.Runs

/-! ## The client as a receiving party -/

/-- The DATA packet which a reception brings from the server. -/
def Session.hears (session : Session) (foreign : Nat)
    (reception : Reception) : Option (Nat × Bytes) :=
  match (session.recievePacketFromServer foreign reception).2 with
  | .delivered packet => dataIn session.blksize.toNat packet
  | _ => none

/-- The DATA packet which answers the request, from whatever sender. -/
def Session.hearsAnswer (session : Session) (reception : Reception) :
    Option (Nat × Bytes) :=
  match receive reception with
  | .error _ => none
  | .ok (_, packet) => dataIn session.blksize.toNat packet

def TftpClient.hearsBlock (client : TftpClient) (event : Event) :
    Option (Nat × Bytes) :=
  match client.control with
  | .awaitRrqReply _ _ => client.session.hearsAnswer event.reception
  | .awaitData _ _ _ foreign =>
      client.session.hears foreign event.reception
  | _ => none

/-- Both loops accept the block with the number which they expect. -/
def TftpClient.accepts (client : TftpClient) (event : Event) :
    Option (Nat × Bytes) :=
  match client.control with
  | .awaitRrqReply writer _ =>
      (client.hearsBlock event).bind
        (acceptBlock 1 writer client.session.storage event.host)
  | .awaitData writer blockNumber _ _ =>
      (client.hearsBlock event).bind
        (acceptBlock (blockNumber.toNat + 1) writer client.session.storage
          event.host)
  | _ => none

def TftpClient.outcome (client : TftpClient) : Option Outcome :=
  match client.control with
  | .ended outcome => some outcome
  | _ => none

def receivingClient : ReceivingParty TftpClient where
  step := TftpClient.step
  hears := TftpClient.hearsBlock
  accepts := TftpClient.accepts
  storage client := client.session.storage
  blksize client := client.session.blksize.toNat
  outcome := TftpClient.outcome

theorem Session.hears_eq_some
    {session : Session} {foreign : Nat} {reception : Reception}
    {block : Nat × Bytes}
    (heard : session.hears foreign reception = some block) :
    ∃ packet,
      session.recievePacketFromServer foreign reception =
          (session, .delivered packet) ∧
        dataIn session.blksize.toNat packet = some block := by
  unfold hears at heard
  cases result :
      session.recievePacketFromServer foreign reception with
  | mk next delivery =>
      rw [result] at heard
      cases delivery with
      | delivered packet =>
          obtain ⟨rfl, _⟩ :=
            Session.recievePacketFromServer_delivered result
          exact ⟨packet, rfl, heard⟩
      | pending => cases heard
      | threw => cases heard

/-! ## What is known about the accepted blocks -/

/-- At every receive, and after the end. -/
def Receives (disk calm : Prop) (path : Path) (client : TftpClient)
    (accepted : List (Nat × Bytes)) : Prop :=
  InOrder client.session.blksize.toNat accepted ∧
    match client.control with
    | .awaitRrqReply writer _ =>
        StoredBlocks path client.session.storage writer accepted ∧
          accepted = []
    | .awaitData writer blockNumber _ _ =>
        StoredBlocks path client.session.storage writer accepted ∧
          AllFull client.session.blksize.toNat accepted ∧
            blockNumber.toNat = accepted.length
    | .ended outcome =>
        StoppedWith disk calm path client.session.blksize.toNat
          client.session.storage outcome accepted
    | _ => False

variable {disk calm : Prop} {path : Path} {writer : Writer}
variable {accepted : List (Nat × Bytes)}

namespace Receives

/-- An exception ends the transfer; the writer has nothing to write. -/
theorem abandonRead
    (session : Session) (nothingHeld : writer.tbwLaterBuffer = [])
    (host : HostChoice) (exception : Exception)
    (stopped :
      StoppedWith disk calm path session.blksize.toNat session.storage
        (.threw exception) accepted) :
    Receives disk calm path (session.abandonRead host writer exception)
      accepted := by
  unfold Session.abandonRead
  rw [close_of_nothingHeld nothingHeld]
  exact ⟨stopped.inOrder, stopped⟩

/-- After SIGINT the file is gone, but what was written stays noted. -/
theorem interruptRead
    (session : Session)
    (stored : StoredBlocks path session.storage writer accepted)
    (inOrder : InOrder session.blksize.toNat accepted)
    (host : HostChoice) (noise : ¬ calm) :
    Receives disk calm path (session.interruptRead host writer)
      accepted := by
  have blocks :=
    Storage.writtenBlocks_deleteFile session.storage host writer.filepath
  unfold Session.interruptRead
  simp only [close_of_nothingHeld stored.nothingHeld,
    Session.send_storage]
  cases deleted :
      session.storage.deleteFile host writer.filepath with
  | mk result storage =>
      rw [deleted] at blocks
      cases result with
      | ok =>
          exact
            ⟨inOrder,
              stored.stopped inOrder blocks
                (fun isCalm => absurd isCalm noise) _⟩
      | error exception =>
          exact
            ⟨inOrder,
              stored.stopped inOrder blocks
                (fun isCalm => absurd isCalm noise) _⟩

theorem checkForSigintRRQ
    (session : Session)
    (stored : StoredBlocks path session.storage writer accepted)
    (inOrder : InOrder session.blksize.toNat accepted) {event : Event}
    (unsignalled : calm → event.sigintFrom = none) (check : Nat)
    {proceed : Session → TftpClient}
    (proceeds : Receives disk calm path (proceed session) accepted) :
    Receives disk calm path
      (session.checkForSigintRRQ event.host writer (event.sigintAt check)
        proceed)
      accepted := by
  unfold Session.checkForSigintRRQ
  split_ifs with received
  · refine .interruptRead session stored inOrder event.host ?_
    intro isCalm
    rw [Event.sigintAt, unsignalled isCalm] at received
    cases received
  · exact proceeds

/-- The head of the loop for one block. -/
theorem awaitDataAgain
    (session : Session)
    (stored : StoredBlocks path session.storage writer accepted)
    (inOrder : InOrder session.blksize.toNat accepted)
    (allFull : AllFull session.blksize.toNat accepted) {event : Event}
    (unsignalled : calm → event.sigintFrom = none)
    {blockNumber : UInt16} (current : blockNumber.toNat = accepted.length)
    (retries : Nat) :
    Receives disk calm path
      (session.awaitDataAgain writer blockNumber retries event)
      accepted := by
  unfold Session.awaitDataAgain
  split_ifs
  · apply checkForSigintRRQ session stored inOrder unsignalled
    exact ⟨inOrder, stored, allFull, current⟩
  · apply checkForSigintRRQ session stored inOrder unsignalled
    exact
      .abandonRead session stored.nothingHeld event.host _
        (stored.stopped inOrder rfl (fun _ => rfl) _)

/-- Behind a block: receive the next one, or end. -/
theorem afterData
    (session : Session)
    (stored : StoredBlocks path session.storage writer accepted)
    (inOrder : InOrder session.blksize.toNat accepted)
    {last : Bool}
    (full : last = false → AllFull session.blksize.toNat accepted)
    {event : Event} (unsignalled : calm → event.sigintFrom = none)
    {blockNumber : UInt16}
    (current : blockNumber.toNat = accepted.length) :
    Receives disk calm path
      (session.afterData writer blockNumber last event) accepted := by
  unfold Session.afterData
  split_ifs with isLast
  · unfold Session.finishRead
    apply checkForSigintRRQ session stored inOrder unsignalled
    dsimp only
    rw [close_of_nothingHeld stored.nothingHeld]
    exact ⟨inOrder, stored.stopped inOrder rfl (fun _ => rfl) _⟩
  · exact
      .awaitDataAgain session stored inOrder
        (full (Bool.eq_false_iff.mpr isLast)) unsignalled current 0

/-- The block with the expected number is stored. -/
theorem storeBlock
    (session : Session)
    (stored : StoredBlocks path session.storage writer accepted)
    (inOrder : InOrder session.blksize.toNat accepted) {event : Event}
    (takes : disk → event.host.writeFails = none) {data : Bytes}
    {proceed : Session → Writer → TftpClient}
    (proceeds : ∀ after next,
      StoredBlocks path after next
          (accepted ++ [(accepted.length + 1, data)]) →
        Receives disk calm path
          (proceed (session.withStorage after) next)
          (accepted ++ [(accepted.length + 1, data)])) :
    Receives disk calm path
      (session.storeBlock writer event data proceed)
      (accepted ++
        (acceptBlock (accepted.length + 1) writer session.storage
          event.host (accepted.length + 1, data)).toList) := by
  unfold Session.storeBlock acceptBlock
  rcases stored.writeFile event.host (accepted.length + 1, data) with
    ⟨exception, next, after, torn, result, held, blocks, whole,
      content⟩ | ⟨next, after, result, storedNow⟩
  · simp only [result, reduceCtorEq, and_false, if_false,
      Option.toList_none, List.append_nil]
    refine .abandonRead _ held event.host _ ⟨inOrder, ?_, ?_⟩
    · refine ⟨torn, blocks, fun _ => ⟨_, rfl⟩, ?_⟩
      exact fun isOnDisk => whole (takes isOnDisk)
    · exact fun _ some_ => content some_
  · simp only [result, and_self, if_true, Option.toList_some]
    exact proceeds after next storedNow

/-- One reception in the loop for the DATA packets. -/
theorem stepAwaitData
    (session : Session)
    (stored : StoredBlocks path session.storage writer accepted)
    (inOrder : InOrder session.blksize.toNat accepted)
    (allFull : AllFull session.blksize.toNat accepted)
    {blockNumber : UInt16} (current : blockNumber.toNat = accepted.length)
    (retries foreign : Nat) (event : Event)
    (takes : disk → event.host.writeFails = none)
    (unsignalled :
      calm → event.reception ≠ .sigint ∧ event.sigintFrom = none) :
    Receives disk calm path
      (session.stepAwaitData writer blockNumber retries foreign event)
      (accepted ++
        ((session.hears foreign event.reception).bind
          (acceptBlock (blockNumber.toNat + 1) writer session.storage
            event.host)).toList) := by
  have quiet : calm → event.sigintFrom = none :=
    fun isCalm => (unsignalled isCalm).2
  have abandons : ∀ exception,
      Receives disk calm path
        (session.abandonRead event.host writer exception) accepted :=
    fun exception =>
      .abandonRead session stored.nothingHeld event.host exception
        (stored.stopped inOrder rfl (fun _ => rfl) _)
  unfold Session.stepAwaitData Session.hears
  rw [current]
  rcases session.recievePacketFromServer_cases foreign event.reception
    with ⟨sender, result⟩ | ⟨exception, result⟩ |
      ⟨sender, bytes, _, result⟩
  · simp only [result, Option.bind_none, Option.toList_none,
      List.append_nil]
    exact ⟨inOrder, stored, allFull, current⟩
  · simp only [result, Option.bind_none, Option.toList_none,
      List.append_nil]
    cases exception with
    | udpTimeout =>
        exact
          .awaitDataAgain session.increaseTimeout stored inOrder allFull
            quiet current _
    | udpSigint =>
        refine .interruptRead session stored inOrder event.host ?_
        intro isCalm
        apply (unsignalled isCalm).1
        rw [← session.recievePacketFromServer_sigint foreign, result]
    | _ => exact abandons _
  · simp only [result]
    rcases classifyData_cases (text "Server") (accepted.length + 1)
        (accepted.length + 1) session.blksize.toNat
        (bytes.take UdpClient.maxPacketSize) with
      ⟨silent, ignored | ⟨exception, refused⟩⟩ |
        ⟨number, data, carried, ⟨rfl, taken⟩ | ⟨lower, old⟩ |
          ⟨higher, exception, refused⟩⟩
    · simp only [silent, ignored, Option.bind_none, Option.toList_none,
        List.append_nil]
      exact
        .awaitDataAgain session stored inOrder allFull quiet current _
    · simp only [silent, refused, Option.bind_none, Option.toList_none,
        List.append_nil]
      exact abandons exception
    · simp only [carried, taken, Option.bind_some]
      apply storeBlock session stored inOrder takes
      intro after next storedNow
      refine
        .afterData (session.withStorage after).timeoutReset storedNow
          (inOrder.append allFull data) ?_ quiet ?_
      · intro isFull
        have long : session.blksize.toNat ≤ data.length :=
          Nat.le_of_not_lt (of_decide_eq_false isFull)
        exact
          allFull.append
            (Nat.le_antisymm (length_le_of_dataIn carried) long)
      · have bound := lt_of_dataIn carried
        rw [UInt16.toNat_add, current, List.length_append,
          List.length_singleton]
        exact Nat.mod_eq_of_lt bound
    · simp only [carried, old, Option.bind_some, acceptBlock,
        Nat.ne_of_lt lower, false_and, if_false, Option.toList_none,
        List.append_nil]
      exact
        .awaitDataAgain session.increaseTimeout stored inOrder allFull
          quiet current _
    · simp only [carried, refused, Option.bind_some, acceptBlock,
        Nat.ne_of_gt higher, false_and, if_false, Option.toList_none,
        List.append_nil]
      exact abandons exception

/-! ### The first answer -/

/-- Between the two loops, when the block size is settled. -/
theorem afterRrqReply
    (session : Session) (settled : session.Settled)
    (stored : StoredBlocks path session.storage writer accepted)
    (inOrder : InOrder session.blksize.toNat accepted)
    {last : Bool}
    (full : last = false → AllFull session.blksize.toNat accepted)
    {event : Event} (unsignalled : calm → event.sigintFrom = none)
    {blockNumber : UInt16}
    (current : blockNumber.toNat = accepted.length) :
    Receives disk calm path
      (session.afterRrqReply writer blockNumber last event) accepted := by
  have scanned :
      Session.scanBlksize session.timeoutReset.blksize
          session.timeoutReset.args.options =
        .ok session.blksize := settled
  unfold Session.afterRrqReply
  apply checkForSigintRRQ session stored inOrder unsignalled
  simp only [scanned]
  apply
    checkForSigintRRQ
      { session.timeoutReset with blksize := session.blksize } stored
      inOrder unsignalled
  exact
    .afterData { session.timeoutReset with blksize := session.blksize }
      stored inOrder full unsignalled current

/-- The first block answers the request. -/
theorem acceptFirstBlock
    (session : Session)
    (stored : StoredBlocks path session.storage writer []) {event : Event}
    (takes : disk → event.host.writeFails = none)
    (unsignalled : calm → event.sigintFrom = none) {data : Bytes}
    (fits : data.length ≤ session.blksize.toNat) :
    Receives disk calm path
      (session.acceptFirstBlock writer event data)
      (acceptBlock 1 writer session.storage event.host (1, data)).toList := by
  have setUp :
      (session.withOptions []).setupUdpClient =
        .ok (session.withOptions []) :=
    rfl
  have inOrder : InOrder session.blksize.toNat [] := .nil _
  unfold Session.acceptFirstBlock
  rw [setUp]
  apply storeBlock (session.withOptions []) stored inOrder takes
  intro after next storedNow
  refine
    .afterRrqReply ((session.withOptions []).withStorage after) rfl
      storedNow (inOrder.append (by simp [AllFull]) data) ?_ unsignalled
      rfl
  intro isFull
  have long : session.blksize.toNat ≤ data.length :=
    Nat.le_of_not_lt (of_decide_eq_false isFull)
  exact AllFull.append (by simp [AllFull]) (Nat.le_antisymm fits long)

/-- An OACK answers the request; no block has been accepted yet. -/
theorem acceptOack
    (session : Session)
    (stored : StoredBlocks path session.storage writer []) {event : Event}
    (unsignalled : calm → event.sigintFrom = none)
    (options : List TftpOption) :
    Receives disk calm path
      (session.acceptOack writer event options) [] := by
  have abandons : ∀ exception,
      Receives disk calm path
        ((session.withOptions options).abandonRead event.host writer
          exception) [] :=
    fun exception =>
      .abandonRead (session.withOptions options) stored.nothingHeld
        event.host exception
        (stored.stopped (.nil _) rfl (fun _ => rfl) _)
  unfold Session.acceptOack
  dsimp only
  split
  · exact abandons _
  · split
    · exact abandons _
    · rename_i agreed setUp
      have setsUp := setsUp_of_setupUdpClient setUp
      have settled : agreed.Settled := setsUp.settled rfl
      have storedNow : StoredBlocks path agreed.storage writer [] := by
        rw [setsUp.storage]
        exact stored
      exact
        .afterRrqReply agreed settled storedNow (.nil _)
          (by simp [AllFull]) unsignalled rfl

/-- The head of the loop which sends the RRQ. -/
theorem awaitRrqReplyAgain
    (session : Session)
    (stored : StoredBlocks path session.storage writer []) {event : Event}
    (unsignalled : calm → event.sigintFrom = none) (retries : Nat) :
    Receives disk calm path
      (session.awaitRrqReplyAgain writer retries event) [] := by
  have abandons : ∀ exception,
      Receives disk calm path
        (session.abandonRead event.host writer exception) [] :=
    fun exception =>
      .abandonRead session stored.nothingHeld event.host exception
        (stored.stopped (.nil _) rfl (fun _ => rfl) _)
  unfold Session.awaitRrqReplyAgain
  apply checkForSigintRRQ session stored (.nil _) unsignalled
  split_ifs
  · dsimp only
    split
    · exact abandons _
    · exact ⟨.nil _, stored, rfl⟩
  · exact abandons _

end Receives

/-- What the first answer is depends on the block which it carries. -/
theorem classifyRrqReply_of_dataIn
    {session : Session} {packet data : Bytes} {number : Nat}
    (carried : dataIn session.blksize.toNat packet = some (number, data)) :
    (number = 1 ∧
        session.classifyRrqReply packet = .ok (.firstBlock data)) ∨
      number ≠ 1 ∧ ∃ exception,
        session.classifyRrqReply packet = .error exception := by
  unfold dataIn at carried
  cases parsed : DataPacket.ofRaw packet session.blksize.toNat with
  | error exception =>
      rw [parsed] at carried
      cases carried
  | ok block =>
      rw [parsed] at carried
      cases carried
      have known : getOpcodeFromRaw packet = .ok .DATA := by
        obtain ⟨_, _, _, rfl, _⟩ := DataPacket.ofRaw_eq_ok parsed
        exact getOpcodeFromRaw_toByte _ _
      simp only [Session.classifyRrqReply, known, parsed, bind,
        Except.bind]
      by_cases first : block.blockNumber.toNat = 1
      · left
        rw [if_neg (not_not.mpr first)]
        exact ⟨first, rfl⟩
      · right
        rw [if_pos first]
        exact ⟨first, _, rfl⟩

namespace Receives

/-- One reception in the loop which sends the RRQ. -/
theorem stepAwaitRrqReply
    (session : Session)
    (stored : StoredBlocks path session.storage writer []) (retries : Nat)
    (event : Event) (takes : disk → event.host.writeFails = none)
    (unsignalled :
      calm → event.reception ≠ .sigint ∧ event.sigintFrom = none) :
    Receives disk calm path
      (session.stepAwaitRrqReply writer retries event)
      ((session.hearsAnswer event.reception).bind
        (acceptBlock 1 writer session.storage event.host)).toList := by
  have quiet : calm → event.sigintFrom = none :=
    fun isCalm => (unsignalled isCalm).2
  have abandons : ∀ (next : Session) exception,
      next.storage = session.storage →
        Receives disk calm path
          (next.abandonRead event.host writer exception) [] := by
    intro next exception same
    refine .abandonRead next stored.nothingHeld event.host exception ?_
    rw [same]
    exact stored.stopped (.nil _) rfl (fun _ => rfl) _
  unfold Session.stepAwaitRrqReply Session.hearsAnswer
  cases heard : event.reception with
  | timeout =>
      exact
        .awaitRrqReplyAgain session.increaseTimeout stored quiet
          (retries + 1)
  | sigint =>
      refine .interruptRead session stored (.nil _) event.host ?_
      exact fun isCalm => (unsignalled isCalm).1 heard
  | failure => exact abandons session _ rfl
  | datagram sender bytes =>
      simp only [receive]
      let agreeing := session.adoptPort sender
      cases carried :
          dataIn session.blksize.toNat
            (bytes.take UdpClient.maxPacketSize) with
      | none =>
          simp only [Option.bind_none, Option.toList_none]
          split
          · exact abandons agreeing _ rfl
          · rename_i data classified
            rcases classifyRrqReply_cases classified with
              ⟨_, _, _, some_⟩ | ⟨_, other, _⟩
            · cases some_.symm.trans carried
            · cases other
          · exact .acceptOack agreeing stored quiet _
      | some block =>
          obtain ⟨number, data⟩ := block
          have here :
              dataIn agreeing.blksize.toNat
                  (bytes.take UdpClient.maxPacketSize) =
                some (number, data) := carried
          rcases classifyRrqReply_of_dataIn here with
            ⟨rfl, first⟩ | ⟨other, exception, refused⟩
          · simp only [agreeing] at first
            simp only [first, Option.bind_some]
            exact
              .acceptFirstBlock agreeing stored takes quiet
                (length_le_of_dataIn carried)
          · simp only [agreeing] at refused
            simp only [refused, Option.bind_some, acceptBlock, other,
              false_and, if_false, Option.toList_none]
            exact abandons agreeing _ rfl

/-- One step: a block is accepted, or none. -/
theorem step
    {client : TftpClient}
    (receives : Receives disk calm path client accepted) (event : Event)
    (takes : disk → event.host.writeFails = none)
    (unsignalled :
      calm → event.reception ≠ .sigint ∧ event.sigintFrom = none) :
    Receives disk calm path (client.step event)
      (accepted ++ (client.accepts event).toList) := by
  obtain ⟨session, control⟩ := client
  obtain ⟨inOrder, knows⟩ := receives
  cases control with
  | awaitRrqReply writer retries =>
      obtain ⟨stored, rfl⟩ := knows
      exact
        .stepAwaitRrqReply session stored retries event takes unsignalled
  | awaitData writer blockNumber retries foreign =>
      obtain ⟨stored, allFull, current⟩ := knows
      exact
        .stepAwaitData session stored inOrder allFull current retries
          foreign event takes unsignalled
  | ended outcome =>
      simp only [TftpClient.accepts, Option.toList_none, List.append_nil]
      exact ⟨inOrder, knows⟩
  | awaitWrqReply => exact knows.elim
  | awaitAck => exact knows.elim

/-- At the end of a run. -/
theorem run
    {start : TftpClient}
    (begins : ∀ disk calm, Receives disk calm path start [])
    (events : List Event) :
    Receives (∀ event ∈ events, event.host.writeFails = none)
      (∀ event ∈ events,
        event.reception ≠ .sigint ∧ event.sigintFrom = none)
      path (run TftpClient.step start events)
      (receivingClient.accepted start events) := by
  refine
    observed_invariant
      (Receives (∀ event ∈ events, event.host.writeFails = none)
        (∀ event ∈ events,
          event.reception ≠ .sigint ∧ event.sigintFrom = none)
        path)
      ?_ (begins _ _)
  intro client event member accepted receives
  exact
    receives.step event (fun takes => takes event member)
      (fun unsignalled => unsignalled event member)

end Receives

/-! ## Other blocks -/

theorem Session.storage_abandonRead
    (session : Session) (nothingHeld : writer.tbwLaterBuffer = [])
    (host : HostChoice) (exception : Exception) :
    (session.abandonRead host writer exception).session.storage =
      session.storage :=
  close_of_nothingHeld nothingHeld session.storage host

theorem Session.writtenBlocks_checkForSigintRRQ
    (session : Session) (nothingHeld : writer.tbwLaterBuffer = [])
    (host : HostChoice) (received : Bool)
    {proceed : Session → TftpClient}
    (proceeds :
      (proceed session).session.storage.writtenBlocks =
        session.storage.writtenBlocks) :
    (session.checkForSigintRRQ host writer received
        proceed).session.storage.writtenBlocks =
      session.storage.writtenBlocks := by
  have blocks :=
    Storage.writtenBlocks_deleteFile session.storage host writer.filepath
  unfold checkForSigintRRQ
  split_ifs
  · unfold interruptRead
    simp only [close_of_nothingHeld nothingHeld, send_storage]
    cases deleted :
        session.storage.deleteFile host writer.filepath with
    | mk result storage =>
        rw [deleted] at blocks
        cases result <;> exact blocks
  · exact proceeds

theorem Session.writtenBlocks_awaitDataAgain
    (session : Session) (nothingHeld : writer.tbwLaterBuffer = [])
    (blockNumber : UInt16) (retries : Nat) (event : Event) :
    (session.awaitDataAgain writer blockNumber retries
        event).session.storage.writtenBlocks =
      session.storage.writtenBlocks := by
  unfold awaitDataAgain
  split_ifs
  · apply session.writtenBlocks_checkForSigintRRQ nothingHeld
    rfl
  · apply session.writtenBlocks_checkForSigintRRQ nothingHeld
    rw [session.storage_abandonRead nothingHeld]

/-- A block which answers the request, and has another number than one. -/
theorem Session.stepAwaitRrqReply_of_hearsAnswer
    {session : Session} {event : Event} {number : Nat} {data : Bytes}
    (nothingHeld : writer.tbwLaterBuffer = [])
    (heard :
      session.hearsAnswer event.reception = some (number, data))
    (other : number ≠ 1) (retries : Nat) :
    (∃ exception,
        (session.stepAwaitRrqReply writer retries event).outcome =
          some (.threw exception)) ∧
      (session.stepAwaitRrqReply writer retries event).session.storage =
        session.storage := by
  unfold hearsAnswer at heard
  cases result : receive event.reception with
  | error exception =>
      rw [result] at heard
      cases heard
  | ok pair =>
      obtain ⟨sender, packet⟩ := pair
      rw [result] at heard
      have here :
          dataIn (session.adoptPort sender).blksize.toNat packet =
            some (number, data) := heard
      rcases classifyRrqReply_of_dataIn here with
        ⟨first, _⟩ | ⟨_, exception, refused⟩
      · exact absurd first other
      · have ends_ :
            session.stepAwaitRrqReply writer retries event =
              (session.adoptPort sender).abandonRead event.host writer
                exception := by
          simp only [stepAwaitRrqReply, result, refused]
        rw [ends_]
        exact
          ⟨⟨exception, rfl⟩,
            (session.adoptPort sender).storage_abandonRead nothingHeld _
              _⟩

/-- A block which was accepted before, or the number zero. -/
theorem Receives.lower
    {client : TftpClient} {event : Event} {number : Nat} {data : Bytes}
    (receives : Receives disk calm path client accepted)
    (heard : client.hearsBlock event = some (number, data))
    (lower : number ≤ accepted.length) :
    (client.step event).session.storage.writtenBlocks =
      client.session.storage.writtenBlocks := by
  obtain ⟨session, control⟩ := client
  obtain ⟨_, knows⟩ := receives
  cases control with
  | awaitRrqReply writer retries =>
      obtain ⟨stored, rfl⟩ := knows
      have other : number ≠ 1 := by
        rintro rfl
        cases lower
      exact
        congrArg Storage.writtenBlocks
          (Session.stepAwaitRrqReply_of_hearsAnswer stored.nothingHeld
            heard other retries).2
  | awaitData writer blockNumber retries foreign =>
      obtain ⟨stored, _, current⟩ := knows
      obtain ⟨packet, result, carried⟩ := Session.hears_eq_some heard
      have old :=
        classifyData_of_lower carried (Nat.lt_succ_of_le lower)
          (text "Server") (accepted.length + 1)
      show (session.stepAwaitData writer blockNumber retries foreign
        event).session.storage.writtenBlocks = _
      unfold Session.stepAwaitData
      simp only [result, current, old]
      exact
        session.increaseTimeout.writtenBlocks_awaitDataAgain
          stored.nothingHeld _ _ _
  | awaitWrqReply => cases heard
  | awaitAck => cases heard
  | ended => cases heard

/-- A block behind the next one ends the transfer. -/
theorem Receives.higher
    {client : TftpClient} {event : Event} {number : Nat} {data : Bytes}
    (receives : Receives disk calm path client accepted)
    (heard : client.hearsBlock event = some (number, data))
    (higher : accepted.length + 1 < number) :
    (∃ exception,
        (client.step event).outcome = some (.threw exception)) ∧
      (client.step event).session.storage = client.session.storage := by
  obtain ⟨session, control⟩ := client
  obtain ⟨_, knows⟩ := receives
  cases control with
  | awaitRrqReply writer retries =>
      obtain ⟨stored, rfl⟩ := knows
      exact
        Session.stepAwaitRrqReply_of_hearsAnswer stored.nothingHeld heard
          (Nat.ne_of_gt higher) retries
  | awaitData writer blockNumber retries foreign =>
      obtain ⟨stored, _, current⟩ := knows
      obtain ⟨packet, result, carried⟩ := Session.hears_eq_some heard
      obtain ⟨exception, refused⟩ :=
        classifyData_of_higher carried higher (text "Server")
          (accepted.length + 1)
      have ends_ :
          session.stepAwaitData writer blockNumber retries foreign event =
            session.abandonRead event.host writer exception := by
        simp only [Session.stepAwaitData, result, current, refused]
      show (∃ _, (session.stepAwaitData _ _ _ _ _).outcome = _) ∧
        (session.stepAwaitData _ _ _ _ _).session.storage = _
      rw [ends_]
      exact
        ⟨⟨exception, rfl⟩,
          session.storage_abandonRead stored.nothingHeld _ _⟩
  | awaitWrqReply => cases heard
  | awaitAck => cases heard
  | ended => cases heard

/-- Where the transfer stands. -/
theorem Receives.standing
    {client : TftpClient}
    (receives : Receives disk calm path client accepted) :
    Standing disk calm path client.session.blksize.toNat
      client.session.storage client.outcome accepted := by
  obtain ⟨session, control⟩ := client
  obtain ⟨_, knows⟩ := receives
  cases control with
  | awaitRrqReply writer retries =>
      obtain ⟨stored, rfl⟩ := knows
      exact ⟨⟨writer, stored⟩, by simp [AllFull]⟩
  | awaitData writer blockNumber retries foreign =>
      obtain ⟨stored, allFull, _⟩ := knows
      exact ⟨⟨writer, stored⟩, allFull⟩
  | ended outcome => exact knows
  | awaitWrqReply => exact knows.elim
  | awaitAck => exact knows.elim

/-- A client which has ended does nothing any more. -/
theorem TftpClient.halted
    {client : TftpClient} (isOver : client.outcome.isSome)
    (event : Event) :
    client.step event = client := by
  obtain ⟨session, control⟩ := client
  cases control with
  | ended outcome => rfl
  | _ => cases isOver

/-! ## Runs -/

section Runs

variable {start : TftpClient}
variable (begins : ∀ disk calm, Receives disk calm path start [])

include begins

theorem writesInOrder (events : List Event) :
    receivingClient.WritesInOrder path start events := by
  have receives := Receives.run begins events
  exact
    ⟨receives.1.numbered, receives.1.full, receives.standing.written,
      receives.standing.file⟩

theorem acceptsInOrder (events : List Event) :
    receivingClient.AcceptsInOrder start events := by
  have receives := Receives.run begins events
  constructor
  · intro event number data heard lower
    exact receives.lower heard lower
  · intro event number data heard higher
    obtain ⟨fails, same⟩ := receives.higher heard higher
    exact ⟨fails, congrArg Storage.writtenBlocks same⟩
  · intro block last short
    have isOver := receives.standing.short last short
    refine ⟨isOver, ?_⟩
    intro later
    rw [run_append]
    exact run_of_halted (TftpClient.halted isOver) later

end Runs

/-- Without a block nothing is said about the file. -/
theorem Receives.of_nil
    {client : TftpClient}
    (receives : Receives disk False path client []) :
    Receives disk calm path client [] := by
  obtain ⟨session, control⟩ := client
  obtain ⟨inOrder, knows⟩ := receives
  refine ⟨inOrder, ?_⟩
  cases control with
  | ended outcome =>
      exact
        ⟨knows.inOrder, knows.written, fun _ some_ => absurd rfl some_⟩
  | awaitRrqReply => exact knows
  | awaitData => exact knows
  | awaitWrqReply => exact knows
  | awaitAck => exact knows

/-- The client at its first receive, or where SIGINT has stopped it. -/
theorem Receives.start
    {args : TftpClientArgs} {serverAddress : Address} {stdin : Bytes}
    {files : FileSystem} {session : Session}
    (made : Session.make args serverAddress stdin files = .ok session)
    (octet : args.fileMode = .OCTET) (first : Event)
    (disk calm : Prop) :
    Receives disk calm args.destFilepath (session.read first) [] := by
  have setsUp := setsUp_of_setupUdpClient made
  have same : session.args = args := setsUp.args
  have nothing : session.storage.writtenBlocks = [] := by
    rw [setsUp.storage]
    rfl
  have stored := StoredBlocks.make nothing args.destFilepath
  have mode : formatOfMode session.args.fileMode = .OCTET := by
    rw [same, octet]
    rfl
  apply Receives.of_nil
  unfold Session.read
  rw [mode, same]
  exact .awaitRrqReplyAgain session stored (fun calm => calm.elim) 0

end IsaTftp.Client
