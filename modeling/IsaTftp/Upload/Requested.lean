import IsaTftp.Client.Writing
import IsaTftp.Download.Requested
import IsaTftp.Server.Threads
import IsaTftp.Upload.Started

/-!
# A WRQ and its handlers

The handler which a WRQ starts receives blocks in the size which the request
asks for, and everything it writes goes to the path of the request.  Other
handlers may write between two of its steps; what it has stored is still
there as long as they keep away from its file.
-/

namespace IsaTftp.Upload

open IsaTftp.Wire
open IsaTftp.Files
open IsaTftp.Transfer
open IsaTftp.Client
open IsaTftp.Server
open IsaTftp.Library.StopAndWait
open IsaTftp.Download (supported_of_carried oackAgrees_of_carried
  blksizeIn_fits)

/-- A client which sends a file in octet mode; the request is not cut. -/
structure AsksToStore (args : TftpClientArgs) (request : Bytes) : Prop where
  writes : args.mode = .WRITE
  octet : args.fileMode = .OCTET
  carried :
    CarriedRequest ⟨.WRQ, args.destFilepath, .OCTET, args.options⟩ request

/-- An OACK of the handler repeats the options of its request. -/
def Repeats (options : List TftpOption) (handler : Handler) : Prop :=
  OackAgrees (blksizeIn options) handler.sent ∧
    match handler.control with
    | .awaitFirstData _ negotiated _ _ _ => negotiated = options
    | .awaitData _ _ _ _ => True
    | .ended _ => True
    | _ => False

/-- What a handler has received and acknowledged. -/
def portrait (handler : Handler) : Receiver Bytes where
  accepted := handler.session.storage.writtenBlocks
  acks := acksOn handler.sent

/-- A handler which takes the blocks of a client. -/
structure Takes (options : List TftpOption) (path : Path)
    (handler : Handler) : Prop where
  view :
    Server.ReceiverView (blksizeIn options) path (options = []) handler
      (portrait handler)
  repeats : Repeats options handler
  confined : Confined (fun other => other = path) handler

variable {args : TftpClientArgs} {request : Bytes}
variable {options : List TftpOption} {path : Path}
variable {handler : Handler} {session : Server.Session}

/-- A view of a handler can only be its portrait. -/
theorem eq_portrait
    {size : Nat} {early : Prop} {receiver : Receiver Bytes}
    (view : Server.ReceiverView size path early handler receiver) :
    receiver = portrait handler := by
  obtain ⟨accepted, acks⟩ := receiver
  have sameBlocks : accepted = handler.session.storage.writtenBlocks :=
    view.session.accepted
  have sameAcks : acks = acksOn handler.sent := view.session.acks
  rw [portrait, sameBlocks, sameAcks]

/-! ## What a handler repeats -/

namespace Repeats

theorem raise (session : Server.Session)
    (agrees : OackAgrees (blksizeIn options) session.udp.sent)
    (exception : Exception) :
    Repeats options (session.raise exception) :=
  ⟨agrees.reportException session.clientAddress exception, trivial⟩

theorem abandonWrite (session : Server.Session)
    (agrees : OackAgrees (blksizeIn options) session.udp.sent)
    (host : HostChoice) (writer : Writer) (exception : Exception) :
    Repeats options (session.abandonWrite host writer exception) :=
  ⟨agrees.reportException session.clientAddress exception, trivial⟩

theorem checkForSigintWRQ (session : Server.Session)
    (agrees : OackAgrees (blksizeIn options) session.udp.sent)
    (host : HostChoice) (writer : Writer) :
    Repeats options (session.checkForSigintWRQ host writer) := by
  have said :
      OackAgrees (blksizeIn options)
        (session.send Server.Session.interrupted.makeRaw).udp.sent :=
    agrees.append_of_opcode (ErrorPacket.getOpcode_makeRaw _) (by decide) _
  unfold Server.Session.checkForSigintWRQ
    Server.Session.deleteAndTerminate
  dsimp only
  split
  · exact ⟨said, trivial⟩
  · exact ⟨said.reportException session.clientAddress _, trivial⟩

theorem sendAck (session : Server.Session)
    (agrees : OackAgrees (blksizeIn options) session.udp.sent)
    (ack : AckPacket) :
    OackAgrees (blksizeIn options) (session.send ack.makeRaw).udp.sent :=
  agrees.append_of_opcode ack.getOpcode_makeRaw (by decide) _

theorem awaitDataAgain (session : Server.Session)
    (agrees : OackAgrees (blksizeIn options) session.udp.sent)
    (host : HostChoice) (writer : Writer) (blockNumber retries : Nat) :
    Repeats options
      (session.awaitDataAgain host writer blockNumber retries) := by
  unfold Server.Session.awaitDataAgain
  split_ifs
  · exact ⟨sendAck session agrees _, trivial⟩
  · exact abandonWrite session agrees host writer _

theorem storeBlock (session : Server.Session)
    (agrees : OackAgrees (blksizeIn options) session.udp.sent)
    (host : HostChoice) (writer : Writer) (blockNumber : Nat)
    (data : Bytes) :
    Repeats options
      (session.storeBlock host writer blockNumber data) := by
  unfold Server.Session.storeBlock
  split
  · exact ⟨agrees, trivial⟩
  · rename_i storage _
    exact abandonWrite (session.withStorage storage) agrees host _ _
  · rename_i next storage _
    let stored := (session.withStorage storage).timeoutReset
    dsimp only
    split_ifs
    · exact ⟨sendAck stored agrees _, trivial⟩
    · exact awaitDataAgain stored agrees host next blockNumber 0

/-- The answer before the first block is an OACK with the options, or ACK 0. -/
theorem awaitFirstDataAgain (session : Server.Session)
    {packet : ReadWritePacket} (carried : CarriedRequest packet request)
    (agrees : OackAgrees (blksizeIn packet.options) session.udp.sent)
    (host : HostChoice) (asked : List TftpOption) (writer : Writer)
    (retries : Nat) :
    Repeats packet.options
      (session.awaitFirstDataAgain host asked packet.options writer
        retries) := by
  unfold Server.Session.awaitFirstDataAgain Server.Session.openingReply
  split_ifs
  · split
    · exact abandonWrite session agrees host writer _
    · rename_i raw encoded
      exact ⟨oackAgrees_of_carried carried encoded agrees _, rfl⟩
  · exact ⟨sendAck session agrees ⟨0⟩, rfl⟩
  · exact abandonWrite session agrees host writer _

/-- No step makes the handler offer anything else. -/
theorem step
    {packet : ReadWritePacket} (carried : CarriedRequest packet request)
    (repeats : Repeats packet.options handler) (event : Event) :
    Repeats packet.options (handler.step event) := by
  obtain ⟨session, control⟩ := handler
  obtain ⟨agrees, knows⟩ := repeats
  have noReader : control.reader = none := by
    cases control with
    | awaitOackAck => exact knows.elim
    | awaitAck => exact knows.elim
    | _ => rfl
  have again : ∀ (session : Server.Session) (retries : Nat),
      OackAgrees (blksizeIn packet.options) session.udp.sent →
        Repeats packet.options
          (session.again event.host control retries) := by
    intro session retries agreesNow
    cases control with
    | awaitOackAck => exact knows.elim
    | awaitAck => exact knows.elim
    | awaitFirstData asked negotiated writer _ _ =>
        obtain rfl : negotiated = packet.options := knows
        exact
          awaitFirstDataAgain session carried agreesNow event.host asked
            writer retries
    | awaitData writer blockNumber _ _ =>
        exact
          awaitDataAgain session agreesNow event.host writer blockNumber
            retries
    | ended outcome => exact ⟨agreesNow, trivial⟩
  have step := Handler.step_cases ⟨session, control⟩ event
  generalize Handler.step ⟨session, control⟩ event = next at step ⊢
  cases step with
  | refuses sender foreign =>
      refine
        ⟨agrees.append_of_opcode unknownSender.getOpcode_makeRaw
          (by decide) sender, ?_⟩
      cases control with
      | awaitOackAck => exact knows.elim
      | awaitAck => exact knows.elim
      | awaitFirstData => exact knows
      | awaitData => trivial
      | ended => trivial
  | again retries => exact again session retries agrees
  | slowerAgain retries => exact again session.increaseTimeout retries agrees
  | raises reads => simp [noReader] at reads
  | abandons writes exception =>
      exact abandonWrite session agrees event.host _ exception
  | interruptsRRQ reads => simp [noReader] at reads
  | interruptsWRQ writes =>
      exact checkForSigintWRQ session agrees event.host _
  | begins waits =>
      subst waits
      cases noReader
  | acknowledged waits =>
      subst waits
      cases noReader
  | stores writes blockNumber data =>
      exact storeBlock session agrees event.host _ blockNumber data
  | isOver ended => exact ⟨agrees, by rw [ended]; trivial⟩

end Repeats

/-! ## How a handler starts -/

/-- A handler which has received nothing, and has said at most zero. -/
structure Joins (options : List TftpOption) (path : Path)
    (handler : Handler) : Prop where
  takes : Takes options path handler
  nothing : (portrait handler).accepted = []
  zeros : ∀ number ∈ (portrait handler).acks, number = 0

namespace Joins

theorem of_view
    {numbers : List Nat} (zeros : ∀ number ∈ numbers, number = 0)
    (view :
      Server.ReceiverView (blksizeIn options) path (options = []) handler
        ⟨[], numbers⟩)
    (repeats : Repeats options handler)
    (confined : Confined (fun other => other = path) handler) :
    Joins options path handler := by
  have same := eq_portrait view
  constructor
  · constructor
    · rw [← same]
      exact view
    · exact repeats
    · exact confined
  · rw [← same]
  · rw [← same]
    exact zeros

/-- A session which has just been made, or has negotiated, tells nothing. -/
theorem agrees_nothing
    (silent : session.udp.sent = [])
    (untouched : session.storage.accesses = []) (early : Prop) :
    Agrees early session ⟨[], []⟩ where
  accepted := by simp [Storage.writtenBlocks, untouched]
  acks := by simp [silent, acksOn]
  zero := by simp

theorem keeps_nothing
    (untouched : session.storage.accesses = []) (allowed : Path → Prop) :
    session.Keeps allowed := by
  intro access member
  rw [untouched] at member
  cases member

/-- The request is refused. -/
theorem raise (session : Server.Session)
    (silent : session.udp.sent = [])
    (untouched : session.storage.accesses = []) (exception : Exception) :
    Joins options path (session.raise exception) := by
  have agrees := agrees_nothing silent untouched (options = [])
  have view :
      Server.ReceiverView (blksizeIn options) path (options = [])
        (session.raise exception) ⟨[], []⟩ := by
    refine ⟨agrees.raise exception, ?_⟩
    intro block member
    cases member
  apply of_view _ view
  · apply Repeats.raise
    rw [silent]
    simp [OackAgrees]
  · exact .raise (keeps_nothing untouched _) exception
  · simp

end Joins

/-- The handler which the request starts. -/
theorem AsksToStore.joins
    (asks : AsksToStore args request) (clientAddress : Address)
    (rootDirpath : Path) (files : FileSystem) (host : HostChoice) :
    Joins args.options (rootDirpath ++ slash :: args.destFilepath)
      ((Server.Session.make clientAddress rootDirpath
        files).followOnIntroPacket host request) := by
  let fresh := Server.Session.make clientAddress rootDirpath files
  let place := rootDirpath ++ slash :: args.destFilepath
  have refuses : ∀ reached : Server.Session, fresh.Negotiated reached →
      ∀ exception, Joins args.options place (reached.raise exception) := by
    intro reached quiet exception
    apply Joins.raise reached quiet.sent
    rw [quiet.storage]
    rfl
  have enters :
      fresh.followOnIntroPacket host request =
        fresh.followOnWRQ host request := by
    simp only [Server.Session.followOnIntroPacket, asks.carried.opcode]
  change Joins args.options place (fresh.followOnIntroPacket host request)
  rw [enters]
  rcases fresh.followOnWRQ_checks host request with
    ⟨exception, refused⟩ | ⟨wrq, parsed, _, _, opens⟩
  · rw [refused]
    exact refuses fresh (.refl fresh) exception
  · rw [asks.carried.parsed, Except.ok.injEq] at parsed
    subst parsed
    have confined :
        Confined (fun other => other = place)
          (fresh.followOnWRQ host request) := by
      apply Confined.followOnWRQ
      intro wrq parsed _ _
      rw [asks.carried.parsed, Except.ok.injEq] at parsed
      rw [← parsed]
    rw [opens] at confined ⊢
    rcases fresh.openWRQ_cases host _ with
      ⟨reached, exception, quiet, rejected⟩ |
        ⟨agreed, negotiated, negotiation, waits⟩
    · rw [rejected]
      exact refuses reached quiet exception
    · obtain ⟨negotiates, same⟩ := negotiateOptions_of_ok negotiation
      rw [supported_of_carried asks.carried.options] at same
      subst same
      rw [waits] at confined ⊢
      have silent : agreed.udp.sent = [] := negotiates.sent
      have untouched : agreed.storage.accesses = [] := by
        rw [negotiates.storage]
        rfl
      have sameSize : agreed.blksize = blksizeIn args.options :=
        negotiates.blksize
      have agrees :=
        Joins.agrees_nothing silent untouched (args.options = [])
      have receiving :
          Receiving (blksizeIn args.options) place agreed
            (Writer.make place .OCTET) ⟨[], []⟩ :=
        { sameSize := sameSize
          samePath := rfl
          stores := Writer.Stores.make _ _
          full := by simp }
      obtain ⟨numbers, zeros, view⟩ :=
        ReceiverView.awaitFirstDataAgain agrees receiving rfl args.options
          (fun empty => List.length_eq_zero_iff.mp empty) host 0
      apply Joins.of_view zeros view
      · apply Repeats.awaitFirstDataAgain agreed asks.carried
        rw [silent]
        simp [OackAgrees]
      · exact confined

/-- What the client says later starts a handler which ends at once. -/
theorem joins_of_opcode
    {raw : Bytes} {opcode : Opcode}
    (known : getOpcodeFromRaw raw = .ok opcode)
    (other : opcode ≠ .RRQ ∧ opcode ≠ .WRQ) (clientAddress : Address)
    (rootDirpath : Path) (files : FileSystem) (host : HostChoice) :
    Joins options path
      ((Server.Session.make clientAddress rootDirpath
        files).followOnIntroPacket host raw) := by
  unfold Server.Session.followOnIntroPacket
  rw [known]
  cases opcode with
  | RRQ => exact absurd rfl other.1
  | WRQ => exact absurd rfl other.2
  | _ => exact .raise _ rfl rfl _

/-! ## How it goes on among others -/

/-- Others have changed files meanwhile, but not the one which is written. -/
theorem Takes.withFiles
    (takes : Takes options path handler) {files : FileSystem}
    (stored : handler.session.storage.writtenBlocks ≠ [] →
      files.content path =
        some handler.session.storage.writtenBlocks.flatten)
    (atEnd : ∀ writer, handler.control.writer = some writer →
      AtEnd writer handler.session.storage) :
    Takes options path (handler.withFiles files) := by
  obtain ⟨session, control⟩ := handler
  obtain ⟨view, repeats, confined⟩ := takes
  obtain ⟨agrees, knows⟩ := view
  have writes : ∀ writer, control.writer = some writer →
      Receiving (blksizeIn options) path session writer
          (portrait ⟨session, control⟩) →
        Receiving (blksizeIn options) path
          (Handler.withFiles ⟨session, control⟩ files).session writer
          (portrait ⟨session, control⟩) := by
    intro writer writesNow receiving
    refine ⟨receiving.sameSize, receiving.samePath, ?_, receiving.full⟩
    refine
      ⟨receiving.stores.octet, receiving.stores.nothingHeld,
        receiving.stores.unopened, ?_⟩
    intro position isOpen
    refine ⟨(receiving.stores.opened position isOpen).1, ?_⟩
    rw [receiving.samePath]
    exact stored ((atEnd writer writesNow).opened position isOpen).1
  refine
    ⟨⟨⟨agrees.accepted, agrees.acks, agrees.zero⟩, ?_⟩, repeats,
      ⟨confined.accesses, confined.reader, confined.writer⟩⟩
  cases control with
  | awaitFirstData asked negotiated writer retries foreign =>
      exact ⟨writes writer rfl knows.1, knows.2⟩
  | awaitData writer blockNumber retries foreign =>
      exact ⟨writes writer rfl knows.1, knows.2⟩
  | ended outcome =>
      cases outcome with
      | returned =>
          obtain ⟨_, block, last, short⟩ := knows
          refine ⟨?_, block, last, short⟩
          apply stored
          intro empty
          simp [portrait, empty] at last
      | _ => exact knows
  | awaitOackAck => exact knows.elim
  | awaitAck => exact knows.elim

/-- A step is a move of the receiver which the handler portrays. -/
theorem Takes.step
    (asks : AsksToStore args request)
    (takes : Takes args.options path handler) {sent : List Datagram}
    {event : Event} (carries : Carries sent event.reception)
    (diskAccepts : event.host.writeFails = none) :
    Takes args.options path (handler.step event) ∧
      ∃ heard,
        (∀ message, heard = some message →
            message ∈ dataOn (blksizeIn args.options) sent) ∧
          Receiver.Move heard (portrait handler)
            (portrait (handler.step event)) := by
  obtain ⟨heard, moved, onWire, move, view⟩ :=
    (Server.implementsReceiver (blksizeIn_fits args.options) path
      (args.options = [])).move takes.view trivial
      ⟨event, carries, diskAccepts, rfl⟩
  obtain rfl := eq_portrait view
  refine ⟨⟨view, ?_, takes.confined.step event⟩, heard, onWire, move⟩
  exact takes.repeats.step asks.carried event

end IsaTftp.Upload
