import IsaTftp.Receivers
import IsaTftp.Server.Receiver
import IsaTftp.Server.Steps

/-!
# FollowOnWRQ accepts blocks in order

The loop for the first block expects the number one, the loop for the later
blocks the number after the counter.  In octet mode the handler has written
what it has accepted at every point of a run.
-/

namespace IsaTftp.Server

open IsaTftp.Wire
open IsaTftp.Files
open IsaTftp.Transfer
open IsaTftp.Library.Runs

/-! ## The handler as a receiving party -/

/-- The DATA packet which a reception brings from the client. -/
def Session.hears (session : Session) (foreign : Nat)
    (reception : Reception) : Option (Nat × Bytes) :=
  match (session.recievePacketFromClient foreign reception).2 with
  | .delivered packet => dataIn session.blksize packet
  | _ => none

def Handler.hearsBlock (handler : Handler) (event : Event) :
    Option (Nat × Bytes) :=
  match handler.control with
  | .awaitFirstData _ _ _ _ foreign =>
      handler.session.hears foreign event.reception
  | .awaitData _ _ _ foreign =>
      handler.session.hears foreign event.reception
  | _ => none

/-- Both loops accept the block with the number which they expect. -/
def Handler.accepts (handler : Handler) (event : Event) :
    Option (Nat × Bytes) :=
  match handler.control with
  | .awaitFirstData _ _ writer _ _ =>
      (handler.hearsBlock event).bind
        (acceptBlock 1 writer handler.session.storage event.host)
  | .awaitData writer blockNumber _ _ =>
      (handler.hearsBlock event).bind
        (acceptBlock (blockNumber + 1) writer handler.session.storage
          event.host)
  | _ => none

def Handler.outcome (handler : Handler) : Option Outcome :=
  match handler.control with
  | .ended outcome => some outcome
  | _ => none

def receivingHandler : ReceivingParty Handler where
  step := Handler.step
  hears := Handler.hearsBlock
  accepts := Handler.accepts
  storage handler := handler.session.storage
  blksize handler := handler.session.blksize
  outcome := Handler.outcome

theorem Session.hears_eq_some
    {session : Session} {foreign : Nat} {reception : Reception}
    {block : Nat × Bytes}
    (heard : session.hears foreign reception = some block) :
    ∃ packet,
      session.recievePacketFromClient foreign reception =
          (session, .delivered packet) ∧
        dataIn session.blksize packet = some block := by
  unfold hears at heard
  cases result :
      session.recievePacketFromClient foreign reception with
  | mk next delivery =>
      rw [result] at heard
      cases delivery with
      | delivered packet =>
          obtain ⟨rfl, _⟩ :=
            Session.recievePacketFromClient_delivered result
          exact ⟨packet, rfl, heard⟩
      | pending => cases heard
      | threw => cases heard

/-! ## What is known about the accepted blocks -/

/-- At every receive, and after the end. -/
def Receives (disk calm : Prop) (path : Path) (handler : Handler)
    (accepted : List (Nat × Bytes)) : Prop :=
  InOrder handler.session.blksize accepted ∧
    match handler.control with
    | .awaitFirstData _ _ writer _ _ =>
        StoredBlocks path handler.session.storage writer accepted ∧
          accepted = []
    | .awaitData writer blockNumber _ _ =>
        StoredBlocks path handler.session.storage writer accepted ∧
          AllFull handler.session.blksize accepted ∧
            blockNumber = accepted.length
    | .ended outcome =>
        StoppedWith disk calm path handler.session.blksize
          handler.session.storage outcome accepted
    | _ => False

variable {disk calm : Prop} {path : Path} {writer : Writer}
variable {accepted : List (Nat × Bytes)}

namespace Receives

/-- An exception ends the transfer; the writer has nothing to write. -/
theorem abandonWrite
    (session : Session) (nothingHeld : writer.tbwLaterBuffer = [])
    (host : HostChoice) (exception : Exception)
    (stopped :
      StoppedWith disk calm path session.blksize session.storage
        (.threw exception) accepted) :
    Receives disk calm path (session.abandonWrite host writer exception)
      accepted := by
  unfold Session.abandonWrite
  rw [close_of_nothingHeld nothingHeld]
  exact ⟨stopped.inOrder, stopped⟩

/-- After SIGINT the file is gone, but what was written stays noted. -/
theorem checkForSigintWRQ
    (session : Session)
    (stored : StoredBlocks path session.storage writer accepted)
    (inOrder : InOrder session.blksize accepted) (host : HostChoice)
    (noise : ¬ calm) :
    Receives disk calm path (session.checkForSigintWRQ host writer)
      accepted := by
  have blocks :=
    Storage.writtenBlocks_deleteFile session.storage host writer.filepath
  unfold Session.checkForSigintWRQ Session.deleteAndTerminate
  simp only [close_of_nothingHeld stored.nothingHeld,
    Session.send_storage, Session.withStorage_storage]
  cases deleted :
      session.storage.deleteFile host writer.filepath with
  | mk result storage =>
      rw [deleted] at blocks
      cases result with
      | ok =>
          exact
            ⟨inOrder,
              stored.stopped inOrder blocks
                (fun isCalm => absurd isCalm noise) _⟩
      | error exception =>
          exact
            ⟨inOrder,
              stored.stopped inOrder blocks
                (fun isCalm => absurd isCalm noise) _⟩

/-- The head of the loop for the later blocks. -/
theorem awaitDataAgain
    (session : Session)
    (stored : StoredBlocks path session.storage writer accepted)
    (inOrder : InOrder session.blksize accepted)
    (allFull : AllFull session.blksize accepted) (host : HostChoice)
    (retries : Nat) :
    Receives disk calm path
      (session.awaitDataAgain host writer accepted.length retries)
      accepted := by
  unfold Session.awaitDataAgain
  split_ifs
  · exact ⟨inOrder, stored, allFull, rfl⟩
  · exact
      .abandonWrite session stored.nothingHeld host _
        (stored.stopped inOrder rfl (fun _ => rfl) _)

/-- The head of the loop for the first block. -/
theorem awaitFirstDataAgain
    (session : Session)
    (stored : StoredBlocks path session.storage writer [])
    (host : HostChoice) (options negotiated : List TftpOption)
    (retries : Nat) :
    Receives disk calm path
      (session.awaitFirstDataAgain host options negotiated writer retries)
      [] := by
  have abandons : ∀ exception,
      Receives disk calm path
        (session.abandonWrite host writer exception) [] :=
    fun exception =>
      .abandonWrite session stored.nothingHeld host exception
        (stored.stopped (.nil _) rfl (fun _ => rfl) _)
  unfold Session.awaitFirstDataAgain
  split_ifs
  · split
    · exact abandons _
    · exact ⟨.nil _, stored, rfl⟩
  · exact abandons _

/-- The block with the expected number is stored. -/
theorem storeBlock
    (session : Session)
    (stored : StoredBlocks path session.storage writer accepted)
    (inOrder : InOrder session.blksize accepted)
    (allFull : AllFull session.blksize accepted) (host : HostChoice)
    (takes : disk → host.writeFails = none) {data : Bytes}
    (fits : data.length ≤ session.blksize) :
    Receives disk calm path
      (session.storeBlock host writer (accepted.length + 1) data)
      (accepted ++
        (acceptBlock (accepted.length + 1) writer session.storage host
          (accepted.length + 1, data)).toList) := by
  unfold Session.storeBlock acceptBlock
  rcases stored.writeFile host (accepted.length + 1, data) with
    ⟨exception, next, after, torn, result, held, blocks, whole,
      content⟩ | ⟨next, after, result, storedNow⟩
  · simp only [result, reduceCtorEq, and_false, if_false,
      Option.toList_none, List.append_nil]
    refine .abandonWrite _ held host _ ⟨inOrder, ?_, ?_⟩
    · refine ⟨torn, blocks, fun _ => ⟨_, rfl⟩, ?_⟩
      exact fun isOnDisk => whole (takes isOnDisk)
    · exact fun _ some_ => content some_
  · simp only [result, and_self, if_true, Option.toList_some]
    have inOrderNow := inOrder.append allFull data
    split_ifs with short
    · unfold Session.finishWrite
      simp only [close_of_nothingHeld storedNow.nothingHeld]
      exact
        ⟨inOrderNow,
          storedNow.stopped inOrderNow rfl (fun _ => rfl) _⟩
    · have full : data.length = session.blksize := by
        exact Nat.le_antisymm fits (Nat.le_of_not_lt short)
      have waits : Receives disk calm path _ _ :=
        awaitDataAgain
          (session.withStorage after).timeoutReset storedNow inOrderNow
          (allFull.append full) host 0
      rw [List.length_append, List.length_singleton] at waits
      exact waits

/-- One reception in the loop for the later blocks. -/
theorem stepAwaitData
    (session : Session)
    (stored : StoredBlocks path session.storage writer accepted)
    (inOrder : InOrder session.blksize accepted)
    (allFull : AllFull session.blksize accepted)
    (retries foreign : Nat) (event : Event)
    (takes : disk → event.host.writeFails = none)
    (unsignalled : calm → event.reception ≠ .sigint) :
    Receives disk calm path
      (session.stepAwaitData writer accepted.length retries foreign event)
      (accepted ++
        ((session.hears foreign event.reception).bind
          (acceptBlock (accepted.length + 1) writer session.storage
            event.host)).toList) := by
  have stays := session.recievePacketFromClient_sigint foreign
    event.reception
  unfold Session.stepAwaitData Session.hears
  rcases session.recievePacketFromClient_cases foreign event.reception
    with ⟨sender, result⟩ | ⟨exception, result⟩ |
      ⟨sender, bytes, _, result⟩
  · simp only [result, Option.bind_none, Option.toList_none,
      List.append_nil]
    exact ⟨inOrder, stored, allFull, rfl⟩
  · simp only [result, Option.bind_none, Option.toList_none,
      List.append_nil]
    cases exception with
    | udpTimeout =>
        exact
          .awaitDataAgain session.increaseTimeout stored inOrder allFull
            event.host _
    | udpSigint =>
        rw [result] at stays
        have signal := stays.mp rfl
        exact
          .checkForSigintWRQ session stored inOrder event.host
            fun isCalm => unsignalled isCalm signal
    | _ =>
        exact
          .abandonWrite session stored.nothingHeld event.host _
            (stored.stopped inOrder rfl (fun _ => rfl) _)
  · simp only [result]
    have abandons : ∀ exception,
        Receives disk calm path
          (session.abandonWrite event.host writer exception) accepted :=
      fun exception =>
        .abandonWrite session stored.nothingHeld event.host exception
          (stored.stopped inOrder rfl (fun _ => rfl) _)
    rcases classifyData_cases (text "Server") (accepted.length + 1)
        (accepted.length + 1) session.blksize
        (bytes.take UdpClient.maxPacketSize) with
      ⟨silent, ignored | ⟨exception, refused⟩⟩ |
        ⟨number, data, carried, ⟨rfl, taken⟩ | ⟨lower, old⟩ |
          ⟨higher, exception, refused⟩⟩
    · simp only [silent, ignored, Option.bind_none, Option.toList_none,
        List.append_nil]
      exact
        .awaitDataAgain session stored inOrder allFull event.host _
    · simp only [silent, refused, Option.bind_none, Option.toList_none,
        List.append_nil]
      exact abandons exception
    · simp only [carried, taken, Option.bind_some]
      exact
        .storeBlock session stored inOrder allFull event.host takes
          (length_le_of_dataIn carried)
    · simp only [carried, old, Option.bind_some, acceptBlock,
        Nat.ne_of_lt lower, false_and, if_false, Option.toList_none,
        List.append_nil]
      exact
        .awaitDataAgain session.increaseTimeout stored inOrder allFull
          event.host _
    · simp only [carried, refused, Option.bind_some, acceptBlock,
        Nat.ne_of_gt higher, false_and, if_false, Option.toList_none,
        List.append_nil]
      exact abandons exception

/-- One reception in the loop for the first block. -/
theorem stepAwaitFirstData
    (session : Session)
    (stored : StoredBlocks path session.storage writer [])
    (options negotiated : List TftpOption) (retries foreign : Nat)
    (event : Event) (takes : disk → event.host.writeFails = none)
    (unsignalled : calm → event.reception ≠ .sigint) :
    Receives disk calm path
      (session.stepAwaitFirstData options negotiated writer retries
        foreign event)
      ((session.hears foreign event.reception).bind
        (acceptBlock 1 writer session.storage event.host)).toList := by
  have stays := session.recievePacketFromClient_sigint foreign
    event.reception
  have inOrder : InOrder session.blksize [] := .nil _
  unfold Session.stepAwaitFirstData Session.hears
  rcases session.recievePacketFromClient_cases foreign event.reception
    with ⟨sender, result⟩ | ⟨exception, result⟩ |
      ⟨sender, bytes, _, result⟩
  · simp only [result, Option.bind_none, Option.toList_none]
    exact ⟨inOrder, stored, rfl⟩
  · simp only [result, Option.bind_none, Option.toList_none]
    cases exception with
    | udpTimeout =>
        exact
          .awaitFirstDataAgain session.increaseTimeout stored event.host
            options negotiated _
    | udpSigint =>
        rw [result] at stays
        have signal := stays.mp rfl
        exact
          .checkForSigintWRQ session stored inOrder event.host
            fun isCalm => unsignalled isCalm signal
    | _ =>
        exact
          .abandonWrite session stored.nothingHeld event.host _
            (stored.stopped inOrder rfl (fun _ => rfl) _)
  · simp only [result]
    have abandons : ∀ exception,
        Receives disk calm path
          (session.abandonWrite event.host writer exception) [] :=
      fun exception =>
        .abandonWrite session stored.nothingHeld event.host exception
          (stored.stopped inOrder rfl (fun _ => rfl) _)
    rcases classifyData_cases (text "Client") 1 2 session.blksize
        (bytes.take UdpClient.maxPacketSize) with
      ⟨silent, ignored | ⟨exception, refused⟩⟩ |
        ⟨number, data, carried, ⟨rfl, taken⟩ | ⟨lower, old⟩ |
          ⟨higher, exception, refused⟩⟩
    · simp only [silent, ignored, Option.bind_none, Option.toList_none]
      exact
        .awaitFirstDataAgain session stored event.host options negotiated
          _
    · simp only [silent, refused, Option.bind_none, Option.toList_none]
      exact abandons exception
    · simp only [carried, taken, Option.bind_some]
      exact
        .storeBlock session stored inOrder (by simp [AllFull]) event.host
          takes (length_le_of_dataIn carried)
    · simp only [carried, old, Option.bind_some, acceptBlock,
        Nat.ne_of_lt lower, false_and, if_false, Option.toList_none]
      exact
        .awaitFirstDataAgain session.increaseTimeout stored event.host
          options negotiated _
    · simp only [carried, refused, Option.bind_some, acceptBlock,
        Nat.ne_of_gt higher, false_and, if_false, Option.toList_none]
      exact abandons exception

/-- One step: a block is accepted, or none. -/
theorem step
    {handler : Handler}
    (receives : Receives disk calm path handler accepted) (event : Event)
    (takes : disk → event.host.writeFails = none)
    (unsignalled : calm → event.reception ≠ .sigint) :
    Receives disk calm path (handler.step event)
      (accepted ++ (handler.accepts event).toList) := by
  obtain ⟨session, control⟩ := handler
  obtain ⟨inOrder, knows⟩ := receives
  cases control with
  | awaitFirstData options negotiated writer retries foreign =>
      obtain ⟨stored, rfl⟩ := knows
      exact
        .stepAwaitFirstData session stored options negotiated retries
          foreign event takes unsignalled
  | awaitData writer blockNumber retries foreign =>
      obtain ⟨stored, allFull, rfl⟩ := knows
      exact
        .stepAwaitData session stored inOrder allFull retries foreign
          event takes unsignalled
  | ended outcome =>
      simp only [Handler.accepts, Option.toList_none, List.append_nil]
      exact ⟨inOrder, knows⟩
  | awaitOackAck => exact knows.elim
  | awaitAck => exact knows.elim

/-- At the end of a run. -/
theorem run
    {start : Handler} (begins : ∀ disk calm, Receives disk calm path start [])
    (events : List Event) :
    Receives (∀ event ∈ events, event.host.writeFails = none)
      (∀ event ∈ events,
        event.reception ≠ .sigint ∧ event.sigintFrom = none)
      path (run Handler.step start events)
      (receivingHandler.accepted start events) := by
  refine
    observed_invariant
      (Receives (∀ event ∈ events, event.host.writeFails = none)
        (∀ event ∈ events,
          event.reception ≠ .sigint ∧ event.sigintFrom = none)
        path)
      ?_ (begins _ _)
  intro handler event member accepted receives
  exact
    receives.step event (fun takes => takes event member)
      (fun unsignalled => (unsignalled event member).1)

end Receives

/-! ## Other blocks -/

theorem Session.storage_abandonWrite
    (session : Session) (nothingHeld : writer.tbwLaterBuffer = [])
    (host : HostChoice) (exception : Exception) :
    (session.abandonWrite host writer exception).session.storage =
      session.storage :=
  close_of_nothingHeld nothingHeld session.storage host

theorem Session.storage_awaitDataAgain
    (session : Session) (nothingHeld : writer.tbwLaterBuffer = [])
    (host : HostChoice) (blockNumber retries : Nat) :
    (session.awaitDataAgain host writer blockNumber
        retries).session.storage =
      session.storage := by
  unfold awaitDataAgain
  split_ifs
  · rfl
  · exact session.storage_abandonWrite nothingHeld host _

theorem Session.storage_awaitFirstDataAgain
    (session : Session) (nothingHeld : writer.tbwLaterBuffer = [])
    (host : HostChoice) (options negotiated : List TftpOption)
    (retries : Nat) :
    (session.awaitFirstDataAgain host options negotiated writer
        retries).session.storage =
      session.storage := by
  unfold awaitFirstDataAgain
  split_ifs
  · split
    · exact session.storage_abandonWrite nothingHeld host _
    · rfl
  · exact session.storage_abandonWrite nothingHeld host _

/-- A block which was accepted before, or the number zero. -/
theorem Receives.lower
    {handler : Handler} {event : Event} {number : Nat} {data : Bytes}
    (receives : Receives disk calm path handler accepted)
    (heard : handler.hearsBlock event = some (number, data))
    (lower : number ≤ accepted.length) :
    (handler.step event).session.storage = handler.session.storage := by
  obtain ⟨session, control⟩ := handler
  obtain ⟨_, knows⟩ := receives
  cases control with
  | awaitFirstData options negotiated writer retries foreign =>
      obtain ⟨stored, rfl⟩ := knows
      obtain ⟨packet, result, carried⟩ := Session.hears_eq_some heard
      have old :=
        classifyData_of_lower carried (Nat.lt_succ_of_le lower)
          (text "Client") 2
      show (session.stepAwaitFirstData options negotiated writer retries
        foreign event).session.storage = _
      unfold Session.stepAwaitFirstData
      simp only [List.length_nil] at old
      simp only [result, old]
      exact
        session.increaseTimeout.storage_awaitFirstDataAgain
          stored.nothingHeld event.host options negotiated _
  | awaitData writer blockNumber retries foreign =>
      obtain ⟨stored, _, rfl⟩ := knows
      obtain ⟨packet, result, carried⟩ := Session.hears_eq_some heard
      have old :=
        classifyData_of_lower carried (Nat.lt_succ_of_le lower)
          (text "Server") (accepted.length + 1)
      show (session.stepAwaitData writer accepted.length retries foreign
        event).session.storage = _
      unfold Session.stepAwaitData
      simp only [result, old]
      exact
        session.increaseTimeout.storage_awaitDataAgain stored.nothingHeld
          event.host _ _
  | awaitOackAck => cases heard
  | awaitAck => cases heard
  | ended => cases heard

/-- A block behind the next one ends the transfer. -/
theorem Receives.higher
    {handler : Handler} {event : Event} {number : Nat} {data : Bytes}
    (receives : Receives disk calm path handler accepted)
    (heard : handler.hearsBlock event = some (number, data))
    (higher : accepted.length + 1 < number) :
    (∃ exception,
        (handler.step event).outcome = some (.threw exception)) ∧
      (handler.step event).session.storage = handler.session.storage := by
  obtain ⟨session, control⟩ := handler
  obtain ⟨_, knows⟩ := receives
  cases control with
  | awaitFirstData options negotiated writer retries foreign =>
      obtain ⟨stored, rfl⟩ := knows
      obtain ⟨packet, result, carried⟩ := Session.hears_eq_some heard
      obtain ⟨exception, refused⟩ :=
        classifyData_of_higher carried higher (text "Client") 2
      have ends_ :
          session.stepAwaitFirstData options negotiated writer retries
              foreign event =
            session.abandonWrite event.host writer exception := by
        simp only [List.length_nil, Nat.zero_add] at refused
        simp only [Session.stepAwaitFirstData, result, refused]
      show (∃ _, (session.stepAwaitFirstData _ _ _ _ _ _).outcome = _) ∧
        (session.stepAwaitFirstData _ _ _ _ _ _).session.storage = _
      rw [ends_]
      exact
        ⟨⟨exception, rfl⟩,
          session.storage_abandonWrite stored.nothingHeld _ _⟩
  | awaitData writer blockNumber retries foreign =>
      obtain ⟨stored, _, rfl⟩ := knows
      obtain ⟨packet, result, carried⟩ := Session.hears_eq_some heard
      obtain ⟨exception, refused⟩ :=
        classifyData_of_higher carried higher (text "Server")
          (accepted.length + 1)
      have ends_ :
          session.stepAwaitData writer accepted.length retries foreign
              event =
            session.abandonWrite event.host writer exception := by
        simp only [Session.stepAwaitData, result, refused]
      show (∃ _, (session.stepAwaitData _ _ _ _ _).outcome = _) ∧
        (session.stepAwaitData _ _ _ _ _).session.storage = _
      rw [ends_]
      exact
        ⟨⟨exception, rfl⟩,
          session.storage_abandonWrite stored.nothingHeld _ _⟩
  | awaitOackAck => cases heard
  | awaitAck => cases heard
  | ended => cases heard

/-- Where the transfer stands. -/
theorem Receives.standing
    {handler : Handler}
    (receives : Receives disk calm path handler accepted) :
    Standing disk calm path handler.session.blksize
      handler.session.storage handler.outcome accepted := by
  obtain ⟨session, control⟩ := handler
  obtain ⟨_, knows⟩ := receives
  cases control with
  | awaitFirstData options negotiated writer retries foreign =>
      obtain ⟨stored, rfl⟩ := knows
      exact ⟨⟨writer, stored⟩, by simp [AllFull]⟩
  | awaitData writer blockNumber retries foreign =>
      obtain ⟨stored, allFull, _⟩ := knows
      exact ⟨⟨writer, stored⟩, allFull⟩
  | ended outcome => exact knows
  | awaitOackAck => exact knows.elim
  | awaitAck => exact knows.elim

/-- A handler which has ended does nothing any more. -/
theorem Handler.halted
    {handler : Handler} (isOver : handler.outcome.isSome)
    (event : Event) :
    handler.step event = handler := by
  obtain ⟨session, control⟩ := handler
  cases control with
  | ended outcome => rfl
  | _ => cases isOver

/-! ## Runs -/

section Runs

variable {start : Handler}
variable (begins : ∀ disk calm, Receives disk calm path start [])

include begins

theorem writesInOrder (events : List Event) :
    receivingHandler.WritesInOrder path start events := by
  have receives := Receives.run begins events
  exact
    ⟨receives.1.numbered, receives.1.full, receives.standing.written,
      receives.standing.file⟩

theorem acceptsInOrder (events : List Event) :
    receivingHandler.AcceptsInOrder start events := by
  have receives := Receives.run begins events
  constructor
  · intro event number data heard lower
    exact congrArg Storage.writtenBlocks (receives.lower heard lower)
  · intro event number data heard higher
    obtain ⟨fails, same⟩ := receives.higher heard higher
    exact ⟨fails, congrArg Storage.writtenBlocks same⟩
  · intro block last short
    have isOver := receives.standing.short last short
    refine ⟨isOver, ?_⟩
    intro later
    rw [run_append]
    exact run_of_halted (Handler.halted isOver) later

end Runs

/-- A handler which waits for the first block of an OCTET transfer. -/
theorem Receives.start
    {clientAddress : Address} {rootDirpath : Path} {files : FileSystem}
    {host : HostChoice} {introPacket : Bytes}
    {options negotiated : List TftpOption} {retries foreign : Nat}
    (waits :
      ((Session.make clientAddress rootDirpath files).followOnWRQ host
          introPacket).control =
        .awaitFirstData options negotiated writer retries foreign)
    (octet : writer.mode = .OCTET) (disk calm : Prop) :
    Receives disk calm writer.filepath
      ((Session.make clientAddress rootDirpath files).followOnWRQ host
        introPacket)
      [] := by
  rcases Session.followOnWRQ_cases
      (Session.make clientAddress rootDirpath files) host introPacket
    with ⟨reached, exception, quiet, refused⟩ |
      ⟨wrq, reached, asked, parsed, missing, under, quiet, started⟩
  · rw [refused] at waits
    cases waits
  · rw [started] at waits ⊢
    have nothing : reached.storage.writtenBlocks = [] := by
      rw [quiet.storage]
      rfl
    have stored :=
      StoredBlocks.make nothing
        ((Session.make clientAddress rootDirpath files).filePath
          wrq.filepath)
    obtain ⟨rfl, rfl, _⟩ := Session.waits_awaitFirstDataAgain waits
    rw [← show formatOfMode wrq.mode = .OCTET from octet] at stored
    exact .awaitFirstDataAgain reached stored host _ _ 0

end IsaTftp.Server
