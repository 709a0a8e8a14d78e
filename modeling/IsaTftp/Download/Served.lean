import IsaTftp.Download.Requested
import IsaTftp.Server.Elsewhere

/-!
# Downloads from the server process

A client asks the whole server, not one handler.  The network may bring its
request several times, and the client itself repeats it after a timeout; every
copy starts a handler, and every handler sends the file to the same client.
Meanwhile other clients ask for whatever they like.  The client still writes
the blocks of the file, in order and each once.
-/

namespace IsaTftp.Download

open IsaTftp.Wire
open IsaTftp.Files
open IsaTftp.Transfer
open IsaTftp.Client
open IsaTftp.Server
open IsaTftp.Library.Runs
open IsaTftp.Library.Chunking
open IsaTftp.Library.StopAndWait

/-- The server process and one of its clients. -/
structure Service where
  server : TftpServer
  client : TftpClient

/-- What the handlers which serve an address have sent. -/
def sentFor (address : Address) (server : TftpServer) : List Datagram :=
  (server.handlers.filter fun handler =>
    handler.session.clientAddress = address).flatMap Handler.sent

/--
The server takes a turn, or the client goes on, and its blocks find room on
its disk.  What comes from the address of the client was sent by the client;
what others send is left open.
-/
inductive Service.Step (address : Address) :
    Service → Service → Prop where
  | request {service : Service} (sender : Address) (host : HostChoice)
      (introPacket : Bytes)
      (genuine : sender = address →
        ∃ reciever, (reciever, introPacket) ∈ service.client.sent) :
      Step address service
        { service with
          server :=
            service.server.step (.request sender host introPacket) }
  | handler {service : Service} (index : Nat) (event : Event)
      (genuine : ∀ handler,
        service.server.handlers[index]? = some handler →
          handler.session.clientAddress = address →
            Carries service.client.sent event.reception) :
      Step address service
        { service with
          server := service.server.step (.handler index event) }
  | client {service : Service} (event : Event)
      (carries :
        Carries (sentFor address service.server) event.reception)
      (diskAccepts : event.host.writeFails = none) :
      Step address service
        { service with client := service.client.step event }

/-! ## The gathering -/

/-- A handler which serves the client sends the blocks of its file. -/
def Attends (address : Address) (size : Nat) (content : Bytes)
    (path : Path) (handler : Handler) (sender : Sender Bytes) : Prop :=
  handler.session.clientAddress = address →
    SenderView size content handler sender ∧
      Confined (fun other => other = path) handler

/-- The process and the client, seen as many senders and one receiver. -/
structure Together (address : Address) (rootDirpath : Path)
    (args : TftpClientArgs) (request content : Bytes)
    (service : Service) (gathering : Gathering Bytes) : Prop where
  sameRoot : service.server.rootDirpath = rootDirpath
  handlers :
    List.Forall₂
      (Attends address (blksizeIn args.options) content
        (rootDirpath ++ slash :: args.filepath))
      service.server.handlers gathering.senders
  spares : service.server.stopped = false →
    service.server.Spares (rootDirpath ++ slash :: args.filepath)
      (some (.file content))
  client :
    Client.ReceiverView (blksizeIn args.options) args.destFilepath
      service.client gathering.receiver
  reads : Reads request service.client

variable {address : Address} {rootDirpath : Path} {args : TftpClientArgs}
variable {request content : Bytes} {service : Service}
variable {gathering : Gathering Bytes}

/-- While the process runs, the file is what it was. -/
theorem Together.stored
    (together : Together address rootDirpath args request content service
      gathering)
    (running : service.server.stopped = false) :
    service.server.files.content
        (rootDirpath ++ slash :: args.filepath) =
      some content :=
  FileSystem.content_eq_some_iff.mpr (together.spares running).found

/-- Others have changed files meanwhile, but not the one which is sent. -/
theorem SenderView.withFiles
    {size : Nat} {path : Path} {handler : Handler}
    {sender : Sender Bytes} {files : FileSystem}
    (view : SenderView size content handler sender)
    (confined : Confined (fun other => other = path) handler)
    (found : files.content path = some content) :
    SenderView size content (handler.withFiles files) sender := by
  have behindNow : ∀ {reader : Reader} {index : Nat},
      reader.filepath = path →
        reader.Behind handler.session.storage.files size content index →
          reader.Behind files size content index := by
    intro reader index samePath behind
    exact
      ⟨behind.octet, by rw [samePath]; exact found, behind.unopened,
        behind.opened⟩
  obtain ⟨session, control⟩ := handler
  obtain ⟨wire, knows⟩ := view
  refine ⟨⟨wire.data, wire.oacks⟩, ?_⟩
  cases control with
  | awaitOackAck reader retries foreign =>
      obtain ⟨sameSize, behind, none, free⟩ := knows
      exact
        ⟨sameSize, behindNow (confined.reader reader rfl) behind, none,
          free⟩
  | awaitAck sending retries foreign =>
      obtain ⟨sameSize, transmits⟩ := knows
      exact
        ⟨sameSize, transmits.number, fun more =>
          behindNow (confined.reader sending.reader rfl)
            (transmits.more more)⟩
  | ended outcome => trivial
  | awaitFirstData => exact knows.elim
  | awaitData => exact knows.elim

/-! ## A request comes -/

/-- What a datagram of the reading client makes the server start. -/
theorem AsksFor.attends
    (asks : AsksFor args request) {files : FileSystem}
    (found : files.content (rootDirpath ++ slash :: args.filepath) =
      some content)
    (host : HostChoice) {bytes : Bytes}
    (said : bytes = request ∨ getOpcodeFromRaw bytes = .ok .ACK ∨
      getOpcodeFromRaw bytes = .ok .ERROR) :
    let handler :=
      (Server.Session.make address rootDirpath
        files).followOnIntroPacket host bytes
    Confined (fun other => other = rootDirpath ++ slash :: args.filepath)
        handler ∧
      (SenderView (blksizeIn args.options) content handler
          Sender.fresh ∨
        SenderView (blksizeIn args.options) content handler
          (sendOne (blksizeIn args.options) content 0 [])) := by
  intro handler
  have nothing : ∀ {opcode : Opcode},
      getOpcodeFromRaw bytes = .ok opcode →
        opcode ≠ .RRQ ∧ opcode ≠ .WRQ →
          Confined
              (fun other => other = rootDirpath ++ slash :: args.filepath)
              handler ∧
            SenderView (blksizeIn args.options) content handler
              Sender.fresh := by
    intro opcode known other
    refine ⟨?_, starts_nothing known other _ _ _ _ _ _⟩
    have keeps :
        (Server.Session.make address rootDirpath files).Keeps
          (fun other => other = rootDirpath ++ slash :: args.filepath) := by
      intro access member
      cases member
    simp only [handler, Server.Session.followOnIntroPacket, known]
    cases opcode with
    | RRQ => exact absurd rfl other.1
    | WRQ => exact absurd rfl other.2
    | _ => exact .raise keeps _
  rcases said with rfl | known | known
  · refine ⟨?_, asks.starts found host⟩
    have enters :
        handler =
          (Server.Session.make address rootDirpath files).followOnRRQ host
            bytes := by
      simp only [handler, Server.Session.followOnIntroPacket,
        asks.carried.opcode]
    rw [enters]
    apply Confined.followOnRRQ
    intro rrq parsed _
    rw [asks.carried.parsed, Except.ok.injEq] at parsed
    rw [← parsed]
  · obtain ⟨confined, view⟩ := nothing known (by decide)
    exact ⟨confined, Or.inl view⟩
  · obtain ⟨confined, view⟩ := nothing known (by decide)
    exact ⟨confined, Or.inl view⟩

/-- A handler joins, and may have sent its first block already. -/
theorem Together.stepRequest
    (asks : AsksFor args request)
    (together : Together address rootDirpath args request content service
      gathering)
    (sender : Address) (host : HostChoice) (introPacket : Bytes)
    (genuine : sender = address →
      ∃ reciever, (reciever, introPacket) ∈ service.client.sent) :
    ∃ next,
      Relation.ReflTransGen
          (Gathering.Step blockNumbers
            (blockOf (blksizeIn args.options) content))
          gathering next ∧
        Together address rootDirpath args request content
          { service with
            server :=
              service.server.step (.request sender host introPacket) }
          next := by
  obtain rfl := together.sameRoot
  cases running : service.server.stopped with
  | true =>
      rw [TftpServer.step_of_stopped running]
      exact ⟨gathering, .refl, together⟩
  | false =>
      let handler :=
        (Server.Session.make sender service.server.rootDirpath
          service.server.files).followOnIntroPacket host introPacket
      have client : handler.session.clientAddress = sender :=
        clientAddress_followOnIntroPacket _ host introPacket
      have starts :
          Gathering.Step blockNumbers
            (blockOf (blksizeIn args.options) content) gathering
            { gathering with
              senders := gathering.senders ++ [Sender.fresh] } :=
        .starts gathering
      have joins : ∃ more,
          Relation.ReflTransGen
              (Gathering.Step blockNumbers
                (blockOf (blksizeIn args.options) content))
              gathering
              { gathering with senders := gathering.senders ++ [more] } ∧
            Attends address (blksizeIn args.options) content
              (service.server.rootDirpath ++ slash :: args.filepath)
              handler more := by
        by_cases ours : sender = address
        · subst ours
          obtain ⟨reciever, onWire⟩ := genuine rfl
          obtain ⟨confined, fresh | sent⟩ :=
            asks.attends (together.stored running) host
              (together.reads.1 _ onWire)
          · exact
              ⟨Sender.fresh, .single starts, fun _ => ⟨fresh, confined⟩⟩
          · have sends :
                Gathering.Step blockNumbers
                  (blockOf (blksizeIn args.options) content)
                  { gathering with
                    senders := gathering.senders ++ [Sender.fresh] }
                  { gathering with
                    senders := gathering.senders ++
                      [sendOne (blksizeIn args.options) content 0
                        []] } :=
              .sender none (by simp) (.send Sender.fresh rfl)
            exact
              ⟨_, .tail (.single starts) sends,
                fun _ => ⟨sent, confined⟩⟩
        · exact
            ⟨Sender.fresh, .single starts,
              fun same => absurd (client.symm.trans same) ours⟩
      obtain ⟨more, steps, attends⟩ := joins
      refine ⟨_, steps, ?_⟩
      have spares := together.spares running
      rw [TftpServer.step_request running]
      exact
        { sameRoot := together.sameRoot
          handlers :=
            List.rel_append together.handlers (.cons attends .nil)
          spares := fun _ =>
            spares.request (by simp)
              (.followOnIntroPacket sender service.server.rootDirpath
                service.server.files host introPacket)
          client := together.client
          reads := together.reads }

/-! ## A party goes on -/

/-- A handler goes on; if it serves the client, it moves as a sender. -/
theorem Together.stepHandler
    (together : Together address rootDirpath args request content service
      gathering)
    (index : Nat) (event : Event)
    (genuine : ∀ handler,
      service.server.handlers[index]? = some handler →
        handler.session.clientAddress = address →
          Carries service.client.sent event.reception) :
    ∃ next,
      Relation.ReflTransGen
          (Gathering.Step blockNumbers
            (blockOf (blksizeIn args.options) content))
          gathering next ∧
        Together address rootDirpath args request content
          { service with
            server := service.server.step (.handler index event) }
          next := by
  cases running : service.server.stopped with
  | true =>
      rw [TftpServer.step_of_stopped running]
      exact ⟨gathering, .refl, together⟩
  | false =>
      cases found : service.server.handlers[index]? with
      | none =>
          rw [TftpServer.step_handler_of_none found]
          exact ⟨gathering, .refl, together⟩
      | some handler =>
          rw [TftpServer.step_handler running found]
          let next := (handler.withFiles service.server.files).step event
          have client :
              next.session.clientAddress =
                handler.session.clientAddress :=
            (Handler.step_continues (handler.withFiles service.server.files)
              event).clientAddress
          have spares :
              (service.server.afterTurn index next).stopped = false →
                (service.server.afterTurn index next).Spares
                  (rootDirpath ++ slash :: args.filepath)
                  (some (.file content)) :=
            fun runs =>
              (together.spares running).handler found
                (TftpServer.goesOn_of_running found runs)
          obtain ⟨earlier, sender, later, senders, attends, replaced⟩ :=
            related_set together.handlers found
          obtain ⟨all, receiver⟩ := gathering
          dsimp only at senders
          subst senders
          have goesOn : ∀ {moved : Sender Bytes},
              Attends address (blksizeIn args.options) content
                  (rootDirpath ++ slash :: args.filepath) next moved →
                Together address rootDirpath args request content
                  { service with
                    server := service.server.afterTurn index next }
                  ⟨earlier ++ moved :: later, receiver⟩ :=
            fun attendsNow =>
              { sameRoot := together.sameRoot
                handlers := replaced next _ attendsNow
                spares := spares
                client := together.client
                reads := together.reads }
          by_cases ours : handler.session.clientAddress = address
          · obtain ⟨view, confined⟩ := attends ours
            have viewNow :=
              SenderView.withFiles view confined (together.stored running)
            have confinedNow :
                Confined
                  (fun other =>
                    other = rootDirpath ++ slash :: args.filepath)
                  (handler.withFiles service.server.files) :=
              ⟨confined.accesses, confined.reader, confined.writer⟩
            obtain ⟨heard, moved, onWire, move, after⟩ :=
              (implementsSender (blksizeIn args.options)
                content).move viewNow
                ⟨event, genuine handler found ours, rfl⟩
            rw [← show receiver.acks = acksOn service.client.sent from
              together.client.session.acks] at onWire
            exact
              ⟨_, .single (.sender heard onWire move),
                goesOn fun _ => ⟨after, confinedNow.step event⟩⟩
          · exact
              ⟨_, .refl,
                goesOn fun same =>
                  absurd (client.symm.trans same) ours⟩

/-- What the client hears was sent by one of the senders. -/
theorem Together.heard
    (together : Together address rootDirpath args request content service
      gathering)
    {message : Nat × Bytes}
    (carried : message ∈ dataOn (blksizeIn args.options)
      (sentFor address service.server)) :
    ∃ sender ∈ gathering.senders, message ∈ sender.data := by
  obtain ⟨datagram, among, read⟩ := List.mem_filterMap.mp carried
  obtain ⟨handler, member, sent⟩ := List.mem_flatMap.mp among
  obtain ⟨member, ours⟩ := List.mem_filter.mp member
  obtain ⟨sender, senders, attends⟩ :=
    exists_related together.handlers member
  obtain ⟨view, _⟩ := attends (of_decide_eq_true ours)
  refine ⟨sender, senders, ?_⟩
  rw [view.wire.data]
  exact List.mem_filterMap.mpr ⟨datagram, sent, read⟩

/-- No handler offers the client another block size. -/
theorem Together.oacks
    (together : Together address rootDirpath args request content service
      gathering) :
    OackAgrees (blksizeIn args.options)
      (sentFor address service.server) := by
  intro datagram among
  obtain ⟨handler, member, sent⟩ := List.mem_flatMap.mp among
  obtain ⟨member, ours⟩ := List.mem_filter.mp member
  obtain ⟨sender, _, attends⟩ := exists_related together.handlers member
  exact (attends (of_decide_eq_true ours)).1.wire.oacks datagram sent

/-- The client goes on, and moves as the receiver. -/
theorem Together.stepClient
    (together : Together address rootDirpath args request content service
      gathering)
    (event : Event)
    (carries : Carries (sentFor address service.server) event.reception)
    (diskAccepts : event.host.writeFails = none) :
    ∃ next,
      Relation.ReflTransGen
          (Gathering.Step blockNumbers
            (blockOf (blksizeIn args.options) content))
          gathering next ∧
        Together address rootDirpath args request content
          { service with client := service.client.step event } next := by
  obtain ⟨heard, moved, onWire, move, view⟩ :=
    (Client.implementsReceiver (blksizeIn_fits args.options)
      args.destFilepath).move together.client together.oacks
      ⟨event, carries, diskAccepts, rfl⟩
  refine
    ⟨{ gathering with receiver := moved },
      .single (.receiver heard ?_ move), ?_⟩
  · intro message same
    exact together.heard (onWire message same)
  · exact
      { together with
        client := view
        reads := together.reads.step event }

/-- Every step of the service is made of steps of the gathering. -/
theorem Together.step
    (asks : AsksFor args request)
    (together : Together address rootDirpath args request content service
      gathering)
    {reached : Service} (step : Service.Step address service reached) :
    ∃ next,
      Relation.ReflTransGen
          (Gathering.Step blockNumbers
            (blockOf (blksizeIn args.options) content))
          gathering next ∧
        Together address rootDirpath args request content reached
          next := by
  cases step with
  | request sender host introPacket genuine =>
      exact together.stepRequest asks sender host introPacket genuine
  | handler index event genuine =>
      exact together.stepHandler index event genuine
  | client event carries diskAccepts =>
      exact together.stepClient event carries diskAccepts

/-! ## Runs -/

/-- A client which is about to ask, and a server which has the file. -/
structure Opening (rootDirpath : Path) (args : TftpClientArgs)
    (request content : Bytes) (files : FileSystem)
    (session : Client.Session) : Prop where
  asks : AsksFor args request
  found :
    files.content (rootDirpath ++ slash :: args.filepath) = some content
  made : ∃ serverAddress stdin clientFiles,
    Client.Session.make args serverAddress stdin clientFiles = .ok session

/-- Before the first turn nobody sends, and nothing was received. -/
theorem Opening.together
    {files : FileSystem} {session : Client.Session}
    (opening :
      Opening rootDirpath args request content files session)
    (first : Event) :
    ∃ receiver : Receiver Bytes, receiver.accepted = [] ∧
      (∀ number ∈ receiver.acks, number = 0) ∧
        Together address rootDirpath args request content
          ⟨⟨rootDirpath, files, []⟩, session.run first⟩
          ⟨[], receiver⟩ := by
  obtain ⟨serverAddress, stdin, clientFiles, made⟩ := opening.made
  have setsUp := setsUp_of_setupUdpClient made
  have asks := opening.asks
  have sameArgs : session.args = args := setsUp.args
  have silent : session.udp.sent = [] := setsUp.sent
  have reads : session.run first = session.read first := by
    apply Session.run_of_read
    rw [sameArgs]
    exact asks.reads
  have answers :
      Answers (blksizeIn args.options) session.args.destFilepath
        ⟨[], []⟩ (session.read first) := by
    apply Client.ReceiverView.start
    · exact setsUp.blksize
    · rw [sameArgs]
      exact asks.octet
    · rw [setsUp.storage]
      rfl
    · rw [silent]
      rfl
  rw [sameArgs] at answers
  obtain ⟨numbers, zeros, view⟩ := answers
  refine ⟨⟨[], [] ++ numbers⟩, rfl, zeros, ?_⟩
  rw [reads]
  exact
    { sameRoot := rfl
      handlers := .nil
      spares := fun _ =>
        ⟨FileSystem.content_eq_some_iff.mp opening.found, by simp⟩
      client := view
      reads := by
        apply Reads.read
        · rw [silent]
          exact .nil request .ACK
        · rw [sameArgs]
          exact asks.carried.encoded }

/-- The service runs as a gathering does. -/
theorem Service.refines
    {files : FileSystem} {session : Client.Session} {first : Event}
    (opening :
      Opening rootDirpath args request content files session)
    (reachable :
      Relation.ReflTransGen (Service.Step address)
        ⟨⟨rootDirpath, files, []⟩, session.run first⟩ service) :
    ∃ gathering,
      Harmony blockNumbers
          (blockOf (blksizeIn args.options) content) gathering ∧
        Together address rootDirpath args request content service
          gathering := by
  obtain ⟨receiver, nothing, zeros, together⟩ :=
    opening.together first
  have harmony :
      Harmony blockNumbers
        (blockOf (blksizeIn args.options) content)
        ⟨[], receiver⟩ :=
    .initial (by decide) _ nothing zeros
  refine
    reachable_invariant
      (fun service => ∃ gathering,
        Harmony blockNumbers
            (blockOf (blksizeIn args.options) content) gathering ∧
          Together address rootDirpath args request content service
            gathering)
      ?_ reachable ⟨_, harmony, together⟩
  rintro before after step ⟨gathering, harmony, together⟩
  obtain ⟨next, steps, togetherNow⟩ := together.step opening.asks step
  exact ⟨next, harmony.of_reachable steps, togetherNow⟩

/-! ## Safety -/

/-- A client which has returned has the whole file. -/
theorem stored_of_harmony
    {size : Nat} {path : Path} {client : TftpClient} (positive : 0 < size)
    (harmony : Harmony blockNumbers (blockOf size content) gathering)
    (view : Client.ReceiverView size path client gathering.receiver)
    (returned : client.control = .ended .returned) :
    client.session.storage.files.content path = some content := by
  have knows := view.control
  unfold ReceivingAgrees at knows
  rw [returned] at knows
  obtain ⟨stored, block, last, short⟩ := knows
  have coherent := harmony.fresh
  have all := chunkCount_le_of_short positive coherent last short
  have inOrder := accepted_flatten coherent
  rw [firstChunks_of_chunkCount_le positive all] at inOrder
  rw [stored, inOrder]

/--
Download safety with the server process.  The request is not cut at 512 bytes
and every write to the disk of the client succeeds.  Then whatever the network
does, however many handlers serve the client, and whatever other clients ask
for, the client has written exactly the first blocks of the file, as many as it
has accepted; and when it returns, its file is that of the server.
-/
theorem served_in_order
    {files : FileSystem} {session : Client.Session} {first : Event}
    (opening :
      Opening rootDirpath args request content files session)
    (reachable :
      Relation.ReflTransGen (Service.Step address)
        ⟨⟨rootDirpath, files, []⟩, session.run first⟩ service) :
    let stored := service.client.session.storage
    stored.writtenBlocks.flatten =
        firstChunks (blksizeIn args.options) content
          stored.writtenBlocks.length ∧
      stored.writtenBlocks.length < 65536 ∧
        (service.client.control = .ended .returned →
          stored.files.content args.destFilepath = some content) := by
  obtain ⟨gathering, harmony, together⟩ :=
    Service.refines opening reachable
  have blocks := together.client.session.accepted
  have positive : 0 < blksizeIn args.options := by
    have least := (blksizeIn_bounds args.options).1
    omega
  dsimp only
  refine ⟨?_, ?_, stored_of_harmony positive harmony together.client⟩
  · rw [← blocks]
    exact accepted_flatten harmony.fresh
  · rw [← blocks]
    exact harmony.bounded

/-- A small client which asks for the file `f` of a small server. -/
theorem smallOpening :
    Opening (text "r") smallClient.args (requestOfEight .RRQ)
      (text "hello world") (smallDisk (some (text "hello world")))
      smallClient where
  asks :=
    { reads := rfl
      octet := rfl
      carried := carried_requestOfEight (Or.inl rfl) }
  found := by decide
  made := ⟨⟨1, 69⟩, [], smallDisk none, rfl⟩

/-- The server process before the request, and the client after it. -/
def smallService : Service :=
  ⟨⟨text "r", smallDisk (some (text "hello world")), []⟩,
    smallClient.run {}⟩

/-- The server process hears the request of the client. -/
def Service.hearsRequest (service : Service) : Service :=
  { service with
    server :=
      service.server.step (.request ⟨2, 1024⟩ {} (requestOfEight .RRQ)) }

/-- A handler hears this packet of the client. -/
def Service.handlerHears (service : Service) (index : Nat)
    (bytes : Bytes) : Service :=
  { service with
    server :=
      service.server.step
        (.handler index { reception := .datagram ⟨2, 1024⟩ bytes }) }

/-- The client hears this packet of a handler. -/
def Service.clientHears (service : Service) (bytes : Bytes) : Service :=
  { service with
    client :=
      service.client.step { reception := .datagram ⟨1, 2001⟩ bytes } }

/--
The request comes twice, and so do the OACK and the first block, as both
handlers serve the client.
-/
theorem served_in_order_small :
    ∃ service,
      Relation.ReflTransGen (Service.Step ⟨2, 1024⟩) smallService
          service ∧
        service.server.handlers.length = 2 ∧
          service.client.session.storage.writtenBlocks =
              [text "hello wo", text "rld"] ∧
            service.client.session.storage.files.content (text "r/f") =
              some (text "hello world") := by
  let once := smallService.hearsRequest
  let twice := once.hearsRequest
  let asked := twice.clientHears smallOack
  let first := asked.handlerHears 0 (AckPacket.makeRaw ⟨0⟩)
  let both := first.handlerHears 1 (AckPacket.makeRaw ⟨0⟩)
  let block := DataPacket.makeRaw ⟨1, text "hello wo"⟩
  let stored := both.clientHears block
  let again := stored.clientHears block
  let ahead := again.handlerHears 1 (AckPacket.makeRaw ⟨1⟩)
  let reached := ahead.clientHears (DataPacket.makeRaw ⟨2, text "rld"⟩)
  have requested :
      ∃ reciever, (reciever, requestOfEight .RRQ) ∈ smallService.client.sent :=
    ⟨⟨1, 69⟩, by decide⟩
  have begins : Service.Step ⟨2, 1024⟩ smallService once :=
    .request _ _ _ fun _ => requested
  have repeats : Service.Step ⟨2, 1024⟩ once twice :=
    .request _ _ _ fun _ => requested
  have answers : Service.Step ⟨2, 1024⟩ twice asked :=
    .client _ ⟨⟨2, 1024⟩, by decide⟩ rfl
  have sends : Service.Step ⟨2, 1024⟩ asked first :=
    .handler _ _ fun _ _ _ => ⟨⟨1, 2001⟩, by decide⟩
  have sendsToo : Service.Step ⟨2, 1024⟩ first both :=
    .handler _ _ fun _ _ _ => ⟨⟨1, 2001⟩, by decide⟩
  have stores : Service.Step ⟨2, 1024⟩ both stored :=
    .client _ ⟨⟨2, 1024⟩, by decide⟩ rfl
  have hears : Service.Step ⟨2, 1024⟩ stored again :=
    .client _ ⟨⟨2, 1024⟩, by decide⟩ rfl
  have goesOn : Service.Step ⟨2, 1024⟩ again ahead :=
    .handler _ _ fun _ _ _ => ⟨⟨1, 2001⟩, by decide⟩
  have ends : Service.Step ⟨2, 1024⟩ ahead reached :=
    .client _ ⟨⟨2, 1024⟩, by decide⟩ rfl
  have steps :
      Relation.ReflTransGen (Service.Step ⟨2, 1024⟩) smallService reached :=
    .head begins (.head repeats (.head answers (.head sends
      (.head sendsToo (.head stores (.head hears (.head goesOn
        (.single ends))))))))
  have returned : reached.client.control = .ended .returned := by
    decide
  exact
    ⟨reached, steps, by decide, by decide,
      (served_in_order smallOpening steps).2.2 returned⟩

end IsaTftp.Download
