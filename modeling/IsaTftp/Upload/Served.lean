import IsaTftp.Download.Served
import IsaTftp.Library.ManyReceivers
import IsaTftp.Upload.Requested
import IsaTftp.Upload.Stored

/-!
# Uploads to the server process

A client sends its input to the whole server, not to one handler.  Its request
may come several times, and every copy starts a handler for the same path;
meanwhile other clients send and ask for whatever they like.  As long as no
handler opens a file which another one has begun, only one of these handlers
receives blocks, and what the client takes for stored is stored.
-/

namespace IsaTftp.Upload

open IsaTftp.Wire
open IsaTftp.Files
open IsaTftp.Transfer
open IsaTftp.Client
open IsaTftp.Server
open IsaTftp.Library.Runs
open IsaTftp.Library.Chunking
open IsaTftp.Library.StopAndWait
open IsaTftp.Download (Service sentFor optionsAgree_of_carried)

/--
The server takes a turn, and opens no file which a handler has begun, or the
client goes on.  What comes from the address of the client was sent by the
client, and its blocks find room on the disk of the server; what others send is
left open.
-/
inductive ServiceStep (address : Address) : Service → Service → Prop where
  | request {service : Service} (sender : Address) (host : HostChoice)
      (introPacket : Bytes)
      (genuine : sender = address →
        ∃ reciever, (reciever, introPacket) ∈ service.client.sent) :
      ServiceStep address service
        { service with
          server :=
            service.server.step (.request sender host introPacket) }
  | handler {service : Service} (index : Nat) (event : Event)
      (genuine : ∀ handler,
        service.server.handlers[index]? = some handler →
          handler.session.clientAddress = address →
            Carries service.client.sent event.reception ∧
              event.host.writeFails = none)
      (first : service.server.OpensFirst (.handler index event)) :
      ServiceStep address service
        { service with
          server := service.server.step (.handler index event) }
  | client {service : Service} (event : Event)
      (carries :
        Carries (sentFor address service.server) event.reception) :
      ServiceStep address service
        { service with client := service.client.step event }

/-! ## The audience -/

/-- The receiver which the client sees in a handler; others are silent. -/
def portraitFor (address : Address) (handler : Handler) :
    Receiver Bytes :=
  if handler.session.clientAddress = address then portrait handler
  else ⟨[], []⟩

/-- The client and the process, seen as one sender and many receivers. -/
structure Together (address : Address) (rootDirpath : Path)
    (args : TftpClientArgs) (request stdin : Bytes) (service : Service)
    (audience : Audience Bytes) : Prop where
  sameRoot : service.server.rootDirpath = rootDirpath
  receivers : audience.receivers =
    service.server.handlers.map (portraitFor address)
  takes : ∀ handler ∈ service.server.handlers,
    handler.session.clientAddress = address →
      Takes args.options (rootDirpath ++ slash :: args.destFilepath) handler
  sound : service.server.Sound
  client :
    Transmits (blksizeIn args.options) stdin service.client audience.sender
  writes : Writes request service.client

variable {address : Address} {rootDirpath : Path} {args : TftpClientArgs}
variable {request stdin : Bytes} {service : Service}
variable {audience : Audience Bytes} {handler : Handler}

theorem portraitFor_of_same
    (ours : handler.session.clientAddress = address) :
    portraitFor address handler = portrait handler :=
  if_pos ours

theorem portraitFor_of_other
    (others : handler.session.clientAddress ≠ address) :
    portraitFor address handler = ⟨[], []⟩ :=
  if_neg others

/-- What the client hears, one of its handlers has said. -/
theorem exists_of_mem_acksOn
    {server : TftpServer} {number : Nat}
    (heard : number ∈ acksOn (sentFor address server)) :
    ∃ receiver ∈ server.handlers.map (portraitFor address),
      number ∈ receiver.acks := by
  obtain ⟨datagram, among, read⟩ := List.mem_filterMap.mp heard
  obtain ⟨handler, member, sent⟩ := List.mem_flatMap.mp among
  obtain ⟨member, ours⟩ := List.mem_filter.mp member
  refine ⟨_, List.mem_map_of_mem member, ?_⟩
  rw [portraitFor_of_same (of_decide_eq_true ours)]
  exact List.mem_filterMap.mpr ⟨datagram, sent, read⟩

/-- No handler offers the client another block size. -/
theorem Together.oacks
    (together : Together address rootDirpath args request stdin service
      audience) :
    OackAgrees (blksizeIn args.options)
      (sentFor address service.server) := by
  intro datagram among
  obtain ⟨handler, member, sent⟩ := List.mem_flatMap.mp among
  obtain ⟨member, ours⟩ := List.mem_filter.mp member
  have takes := together.takes handler member (of_decide_eq_true ours)
  exact takes.repeats.1 datagram sent

/-! ## A request comes -/

/-- What a datagram of the writing client makes the server start. -/
theorem AsksToStore.joins_of_said
    (asks : AsksToStore args request) {bytes : Bytes}
    (said : bytes = request ∨ getOpcodeFromRaw bytes = .ok .DATA ∨
      getOpcodeFromRaw bytes = .ok .ERROR)
    (clientAddress : Address) (files : FileSystem) (host : HostChoice) :
    Joins args.options (rootDirpath ++ slash :: args.destFilepath)
      ((Server.Session.make clientAddress rootDirpath
        files).followOnIntroPacket host bytes) := by
  rcases said with rfl | known | known
  · exact asks.joins clientAddress rootDirpath files host
  · exact joins_of_opcode known (by decide) clientAddress _ files host
  · exact joins_of_opcode known (by decide) clientAddress _ files host

/-- A handler joins; it has received nothing yet. -/
theorem Together.stepRequest
    (asks : AsksToStore args request)
    (together : Together address rootDirpath args request stdin service
      audience)
    (running : service.server.stopped = false)
    (sender : Address) (host : HostChoice) (introPacket : Bytes)
    (genuine : sender = address →
      ∃ reciever, (reciever, introPacket) ∈ service.client.sent) :
    ∃ next,
      Relation.ReflTransGen
          (Audience.Step blockNumbers
            (blockOf (blksizeIn args.options) stdin))
          audience next ∧
        Together address rootDirpath args request stdin
          { service with
            server :=
              service.server.step (.request sender host introPacket) }
          next := by
  obtain rfl := together.sameRoot
  let joined :=
    (Server.Session.make sender service.server.rootDirpath
      service.server.files).followOnIntroPacket host introPacket
  have clientAddress : joined.session.clientAddress = sender :=
    clientAddress_followOnIntroPacket _ host introPacket
  have joins : joined.session.clientAddress = address →
      Joins args.options
        (service.server.rootDirpath ++ slash :: args.destFilepath)
        joined := by
    intro ours
    obtain ⟨reciever, onWire⟩ := genuine (clientAddress.symm.trans ours)
    exact
      asks.joins_of_said (together.writes.1 _ onWire) sender
        service.server.files host
  obtain ⟨numbers, zeros, pictured⟩ :
      ∃ numbers, (∀ number ∈ numbers, number = 0) ∧
        portraitFor address joined = ⟨[], numbers⟩ := by
    by_cases ours : joined.session.clientAddress = address
    · have fresh := joins ours
      refine ⟨_, fresh.zeros, ?_⟩
      rw [portraitFor_of_same ours, ← fresh.nothing]
    · exact ⟨[], by simp, portraitFor_of_other ours⟩
  refine ⟨_, .single (.starts audience numbers zeros), ?_⟩
  rw [TftpServer.step_request running]
  constructor
  · rfl
  · simp only [List.map_append, List.map_cons, List.map_nil,
      together.receivers]
    rw [← pictured]
  · intro handler member ours
    rcases List.mem_append.mp member with old | new
    · exact together.takes handler old ours
    · obtain rfl := List.mem_singleton.mp new
      exact (joins ours).takes
  · exact
      together.sound.request
        (.followOnIntroPacket sender service.server.rootDirpath
          service.server.files host introPacket)
  · exact together.client
  · exact together.writes

/-! ## A handler goes on -/

/-- Another handler of the client has written nothing, once this one has. -/
theorem Takes.alone
    {server : TftpServer} {index : Nat} {path place : Path}
    {next rival : Handler} {options : List TftpOption}
    (turned : TftpServer.Turned server index place handler next)
    (takes : Takes options path next)
    (written : (portrait next).accepted ≠ [])
    {other : Nat} (different : other ≠ index)
    (there : server.handlers[other]? = some rival)
    (rivals : Takes options path rival) :
    (portrait rival).accepted = [] := by
  by_contra wrote
  have samePath : path = place :=
    turned.after.only (takes.confined.wrote written)
  subst samePath
  exact
    turned.apart written other rival different there path
      (rivals.confined.wrote wrote) rfl

/-- A handler goes on; if it serves the client, it moves as a receiver. -/
theorem Together.stepHandler
    (asks : AsksToStore args request)
    (together : Together address rootDirpath args request stdin service
      audience)
    (running : service.server.stopped = false)
    (index : Nat) (event : Event)
    (genuine : ∀ handler,
      service.server.handlers[index]? = some handler →
        handler.session.clientAddress = address →
          Carries service.client.sent event.reception ∧
            event.host.writeFails = none)
    (first : service.server.OpensFirst (.handler index event))
    (runs : (service.server.step (.handler index event)).stopped = false) :
    ∃ next,
      Relation.ReflTransGen
          (Audience.Step blockNumbers
            (blockOf (blksizeIn args.options) stdin))
          audience next ∧
        Together address rootDirpath args request stdin
          { service with
            server := service.server.step (.handler index event) }
          next := by
  cases found : service.server.handlers[index]? with
  | none =>
      rw [TftpServer.step_handler_of_none found]
      exact ⟨audience, .refl, together⟩
  | some handler =>
      rw [TftpServer.step_handler running found] at runs ⊢
      let next := (handler.withFiles service.server.files).step event
      have client :
          next.session.clientAddress = handler.session.clientAddress :=
        (Handler.step_continues (handler.withFiles service.server.files)
          event).clientAddress
      have among : handler ∈ service.server.handlers :=
        List.mem_iff_getElem?.mpr ⟨index, found⟩
      obtain ⟨place, turned⟩ :=
        together.sound.turned found running first
          (TftpServer.goesOn_of_running found runs)
      have sound := together.sound.handler turned
      obtain ⟨earlier, later, split_, replaced, elsewhere⟩ :=
        exists_around found
      have goesOn :
          (next.session.clientAddress = address →
            Takes args.options
              (rootDirpath ++ slash :: args.destFilepath) next) →
            Together address rootDirpath args request stdin
              { service with
                server := service.server.afterTurn index next }
              ⟨audience.sender,
                earlier.map (portraitFor address) ++
                  portraitFor address next ::
                    later.map (portraitFor address)⟩ := by
        intro takesNow
        constructor
        · exact together.sameRoot
        · simp only [TftpServer.afterTurn, replaced, List.map_append,
            List.map_cons]
        · intro other member ours
          rcases TftpServer.mem_set_cases member with rfl | ⟨_, _, there⟩
          · exact takesNow ours
          · exact
              together.takes other
                (List.mem_iff_getElem?.mpr ⟨_, there⟩) ours
        · exact sound
        · exact together.client
        · exact together.writes
      obtain ⟨sender, receivers⟩ := audience
      obtain rfl : receivers =
          earlier.map (portraitFor address) ++
            portraitFor address handler ::
              later.map (portraitFor address) := by
        have pictures := together.receivers
        rw [split_, List.map_append, List.map_cons] at pictures
        exact pictures
      by_cases ours : handler.session.clientAddress = address
      · obtain ⟨carries, diskAccepts⟩ := genuine handler found ours
        have takes := together.takes handler among ours
        have takesHere :
            Takes args.options
              (rootDirpath ++ slash :: args.destFilepath)
              (handler.withFiles service.server.files) := by
          apply takes.withFiles
          · intro written
            exact
              together.sound.stored handler among _
                (takes.confined.wrote written)
          · exact together.sound.atEnd handler among
        obtain ⟨takesNow, heard, onWire, move⟩ :=
          takesHere.step asks carries diskAccepts
        have oursNow := client.trans ours
        refine ⟨_, .single ?_, goesOn fun _ => takesNow⟩
        rw [portraitFor_of_same ours, portraitFor_of_same oursNow]
        rw [← together.client.data] at onWire
        refine .receiver heard onWire move ?_
        intro written receiver member
        rw [← List.map_append] at member
        obtain ⟨rival, behind, rfl⟩ := List.mem_map.mp member
        by_cases rivals : rival.session.clientAddress = address
        · obtain ⟨position, different, there⟩ := elsewhere rival behind
          rw [portraitFor_of_same rivals]
          exact
            takesNow.alone turned written different there
              (together.takes rival
                (List.mem_iff_getElem?.mpr ⟨position, there⟩) rivals)
        · rw [portraitFor_of_other rivals]
      · have othersNow : next.session.clientAddress ≠ address := by
          rw [client]
          exact ours
        have togetherNow := goesOn fun same => absurd same othersNow
        rw [portraitFor_of_other othersNow] at togetherNow
        rw [portraitFor_of_other ours]
        exact ⟨_, .refl, togetherNow⟩

/-! ## The client goes on -/

/-- The client moves as the sender. -/
theorem Together.stepClient
    (together : Together address rootDirpath args request stdin service
      audience)
    (event : Event)
    (carries : Carries (sentFor address service.server) event.reception) :
    ∃ next,
      Relation.ReflTransGen
          (Audience.Step blockNumbers
            (blockOf (blksizeIn args.options) stdin))
          audience next ∧
        Together address rootDirpath args request stdin
          { service with client := service.client.step event } next := by
  have positive : 0 < blksizeIn args.options := by
    have least := (blksizeIn_bounds args.options).1
    omega
  obtain ⟨heard, moved, onWire, move, transmits⟩ :=
    together.client.move positive together.oacks ⟨event, carries, rfl⟩
  refine
    ⟨{ audience with sender := moved },
      .single (.sender heard ?_ move), ?_⟩
  · intro number same
    rw [together.receivers]
    exact exists_of_mem_acksOn (onWire number same)
  · exact
      { together with
        client := transmits
        writes := together.writes.step event }

/-- Every step of the service is made of steps of the audience. -/
theorem Together.step
    (asks : AsksToStore args request)
    (together : Together address rootDirpath args request stdin service
      audience)
    (running : service.server.stopped = false)
    {reached : Service} (step : ServiceStep address service reached)
    (runs : reached.server.stopped = false) :
    ∃ next,
      Relation.ReflTransGen
          (Audience.Step blockNumbers
            (blockOf (blksizeIn args.options) stdin))
          audience next ∧
        Together address rootDirpath args request stdin reached next := by
  cases step with
  | request sender host introPacket genuine =>
      exact
        together.stepRequest asks running sender host introPacket genuine
  | handler index event genuine first =>
      exact
        together.stepHandler asks running index event genuine first runs
  | client event carries => exact together.stepClient event carries

/-! ## Runs -/

/-- A client which is about to send its input. -/
structure Opening (args : TftpClientArgs) (request stdin : Bytes)
    (session : Client.Session) : Prop where
  asks : AsksToStore args request
  made : ∃ serverAddress clientFiles,
    Client.Session.make args serverAddress stdin clientFiles = .ok session

variable {files : FileSystem} {session : Client.Session} {first : Event}

/-- Before the first turn nobody listens. -/
theorem Opening.together
    (opening : Opening args request stdin session) (first : Event) :
    Together address rootDirpath args request stdin
      ⟨⟨rootDirpath, files, []⟩, session.run first⟩
      ⟨Sender.fresh, []⟩ := by
  obtain ⟨serverAddress, clientFiles, made⟩ := opening.made
  have setsUp := setsUp_of_setupUdpClient made
  have asks := opening.asks
  have sameArgs : session.args = args := setsUp.args
  have silent : session.udp.sent = [] := setsUp.sent
  have writes : session.run first = session.sendWrq first := by
    apply Client.Session.run_of_write
    rw [sameArgs]
    exact asks.writes
  have prepared :
      Prepared (blksizeIn args.options) stdin session := by
    constructor
    · exact setsUp.blksize
    · rw [sameArgs]
      exact optionsAgree_of_carried asks.carried.options
    · rw [sameArgs]
      exact asks.octet
    · exact setsUp.stdin
    · rw [silent]
      rfl
  rw [writes]
  constructor
  · rfl
  · rfl
  · simp
  · exact .empty rootDirpath files
  · exact prepared.sendWrq first
  · apply Writes.sendWrq
    · rw [silent]
      exact .nil request .DATA
    · rw [sameArgs]
      exact asks.carried.encoded

/-- The exchange which the client takes its handlers for. -/
structure Behind (address : Address) (rootDirpath : Path)
    (args : TftpClientArgs) (request stdin : Bytes) (service : Service)
    (exchange : Exchange Bytes) : Prop where
  reachable :
    Relation.ReflTransGen
      (Exchange.Step blockNumbers (blockOf (blksizeIn args.options) stdin))
      ⟨Sender.fresh, ⟨[], []⟩⟩ exchange
  together : ∃ audience, audience.Appears exchange ∧
    Together address rootDirpath args request stdin service audience

/-- While the process runs, the service runs as an exchange does. -/
theorem Opening.behind
    (opening : Opening args request stdin session)
    (reachable :
      Relation.ReflTransGen (ServiceStep address)
        ⟨⟨rootDirpath, files, []⟩, session.run first⟩ service)
    (running : service.server.stopped = false) :
    ∃ exchange,
      Behind address rootDirpath args request stdin service exchange := by
  obtain ⟨audience, steps, together⟩ :
      ∃ audience,
        Relation.ReflTransGen
            (Audience.Step blockNumbers
              (blockOf (blksizeIn args.options) stdin))
            ⟨Sender.fresh, []⟩ audience ∧
          Together address rootDirpath args request stdin service
            audience := by
    refine
      reachable_invariant
        (fun service => service.server.stopped = false → ∃ audience,
          Relation.ReflTransGen
              (Audience.Step blockNumbers
                (blockOf (blksizeIn args.options) stdin))
              ⟨Sender.fresh, []⟩ audience ∧
            Together address rootDirpath args request stdin service
              audience)
        ?_ reachable (fun _ => ⟨_, .refl, opening.together first⟩) running
    intro before after step holds runs
    have running : before.server.stopped = false := by
      cases step with
      | request => exact TftpServer.running_of_step runs
      | handler => exact TftpServer.running_of_step runs
      | client => exact runs
    obtain ⟨audience, steps, together⟩ := holds running
    obtain ⟨next, more, togetherNow⟩ :=
      together.step opening.asks running step runs
    exact ⟨next, steps.trans more, togetherNow⟩
  obtain ⟨exchange, path, appears⟩ :=
    (Audience.Appears.nobody Sender.fresh).of_reachable steps
  exact ⟨exchange, path, audience, appears, together⟩

/-! ## What is stored -/

namespace Behind

variable {exchange : Exchange Bytes}

theorem coherent
    (behind : Behind address rootDirpath args request stdin service
      exchange) :
    Coherent blockNumbers (blockOf (blksizeIn args.options) stdin)
      exchange :=
  Coherent.of_reachable (by decide) ⟨rfl, rfl, rfl, rfl, by simp⟩
    behind.reachable

/-- What a handler of the client has received, the file holds. -/
theorem stored
    (behind : Behind address rootDirpath args request stdin service
      exchange)
    (member : handler ∈ service.server.handlers)
    (ours : handler.session.clientAddress = address)
    (written : handler.session.storage.writtenBlocks ≠ []) :
    handler.session.storage.writtenBlocks = exchange.receiver.accepted ∧
      service.server.files.content
          (rootDirpath ++ slash :: args.destFilepath) =
        some
          (firstChunks (blksizeIn args.options) stdin
            exchange.receiver.accepted.length) := by
  obtain ⟨audience, appears, together⟩ := behind.together
  have among : portraitFor address handler ∈ audience.receivers := by
    rw [together.receivers]
    exact List.mem_map_of_mem member
  have takes := together.takes handler member ours
  have accepted :
      handler.session.storage.writtenBlocks =
        exchange.receiver.accepted := by
    have each := appears.each _ among
    rw [portraitFor_of_same ours] at each
    exact each.resolve_left written
  refine ⟨accepted, ?_⟩
  rw [together.sound.stored handler member _
    (takes.confined.wrote written), accepted,
    accepted_flatten behind.coherent]

/-- As soon as every block is accepted, the file is the input. -/
theorem stored_of_complete
    (behind : Behind address rootDirpath args request stdin service
      exchange)
    (complete :
      chunkCount (blksizeIn args.options) stdin ≤
        exchange.receiver.accepted.length) :
    service.server.files.content
        (rootDirpath ++ slash :: args.destFilepath) =
      some stdin := by
  have positive : 0 < blksizeIn args.options := by
    have least := (blksizeIn_bounds args.options).1
    omega
  have some_ : exchange.receiver.accepted ≠ [] := by
    intro nothing
    rw [nothing] at complete
    exact absurd complete (by simp [chunkCount])
  obtain ⟨audience, appears, together⟩ := behind.together
  obtain ⟨receiver, among, same⟩ := appears.leader some_
  rw [together.receivers] at among
  obtain ⟨handler, member, rfl⟩ := List.mem_map.mp among
  by_cases ours : handler.session.clientAddress = address
  · rw [portraitFor_of_same ours] at same
    have written : handler.session.storage.writtenBlocks ≠ [] := by
      intro nothing
      exact some_ (same.symm.trans nothing)
    rw [(behind.stored member ours written).2,
      firstChunks_of_chunkCount_le positive complete]
  · rw [portraitFor_of_other ours] at same
    exact absurd same.symm some_

/-- A handler which has returned has accepted every block. -/
theorem complete_of_handler
    (behind : Behind address rootDirpath args request stdin service
      exchange)
    (member : handler ∈ service.server.handlers)
    (ours : handler.session.clientAddress = address)
    (returned : handler.control = .ended .returned) :
    chunkCount (blksizeIn args.options) stdin ≤
      exchange.receiver.accepted.length := by
  have positive : 0 < blksizeIn args.options := by
    have least := (blksizeIn_bounds args.options).1
    omega
  obtain ⟨audience, appears, together⟩ := behind.together
  have knows := (together.takes handler member ours).view.control
  unfold Server.ControlAgrees at knows
  rw [returned] at knows
  obtain ⟨_, block, last, short⟩ := knows
  have written : handler.session.storage.writtenBlocks ≠ [] := by
    intro nothing
    simp [portrait, nothing] at last
  obtain ⟨accepted, _⟩ := behind.stored member ours written
  rw [portrait, accepted] at last
  exact chunkCount_le_of_short positive behind.coherent last short

/-- When the client returns, its handlers have accepted every block. -/
theorem complete_of_client
    (behind : Behind address rootDirpath args request stdin service
      exchange)
    (unambiguous : args.options ≠ [] ∨
      stdin.length < 65535 * blksizeIn args.options)
    (returned : service.client.control = .ended .returned) :
    chunkCount (blksizeIn args.options) stdin ≤
      exchange.receiver.accepted.length := by
  have coherent := behind.coherent
  obtain ⟨audience, appears, together⟩ := behind.together
  have transmits := together.client
  unfold Transmits at transmits
  rw [returned] at transmits
  have knows := transmits.control
  unfold Client.ControlAgrees at knows
  rw [returned, ← appears.sender] at knows
  obtain ⟨all, complete⟩ := knows
  have heard := coherent.heard
  rcases unambiguous with requested | few
  · have noZero : 0 ∉ exchange.receiver.acks := by
      intro zero
      obtain ⟨receiver, among, said⟩ := (appears.acks 0).mp zero
      rw [together.receivers] at among
      obtain ⟨handler, member, rfl⟩ := List.mem_map.mp among
      by_cases ours : handler.session.clientAddress = address
      · rw [portraitFor_of_same ours] at said
        have takes := together.takes handler member ours
        exact requested (takes.view.session.zero said)
      · rw [portraitFor_of_other ours] at said
        cases said
    have below :=
      acknowledged_lt_of_no_zero (by decide)
        ⟨rfl, rfl, rfl, rfl, by simp⟩ behind.reachable noZero
    have trusted := coherent.acknowledged_le below
    omega
  · have bound :
        chunkCount (blksizeIn args.options) stdin ≤ 65535 := by
      rw [Nat.mul_comm] at few
      exact Nat.div_lt_of_lt_mul few
    simp only [blockNumbers] at heard
    omega

end Behind

/--
Upload safety with the server process.  The request is not cut at 512 bytes,
and every write of the handlers of the client succeeds.  Then as long as the
process runs, and no handler opens a file which another one has begun, whatever
the network does, however many handlers the requests of the client start, and
whatever other clients ask for: a handler of the client which has written
something has written exactly the first blocks of the input, and the file holds
them; if one of them returns the file is the whole input; and so it is if the
client returns, unless the number zero can be mistaken for that of block 65536.
-/
theorem served_uploads_are_kept
    (opening : Opening args request stdin session)
    (reachable :
      Relation.ReflTransGen (ServiceStep address)
        ⟨⟨rootDirpath, files, []⟩, session.run first⟩ service)
    (running : service.server.stopped = false) :
    let path := rootDirpath ++ slash :: args.destFilepath
    let size := blksizeIn args.options
    (∀ handler ∈ service.server.handlers,
        handler.session.clientAddress = address →
          (let blocks := handler.session.storage.writtenBlocks
          blocks ≠ [] →
            blocks.length < 65536 ∧
              blocks.flatten = firstChunks size stdin blocks.length ∧
                service.server.files.content path =
                  some (firstChunks size stdin blocks.length)) ∧
            (handler.control = .ended .returned →
              service.server.files.content path = some stdin)) ∧
      (service.client.control = .ended .returned →
        args.options ≠ [] ∨ stdin.length < 65535 * size →
          service.server.files.content path = some stdin) := by
  intro path size
  obtain ⟨exchange, behind⟩ := opening.behind reachable running
  constructor
  · intro handler member ours
    constructor
    · intro blocks written
      obtain ⟨accepted, content⟩ := behind.stored member ours written
      have same : blocks = exchange.receiver.accepted := accepted
      rw [same]
      exact
        ⟨behind.coherent.bounded, accepted_flatten behind.coherent,
          content⟩
    · intro returned
      exact
        behind.stored_of_complete
          (behind.complete_of_handler member ours returned)
  · intro returned unambiguous
    exact
      behind.stored_of_complete
        (behind.complete_of_client unambiguous returned)

/-- A small client which sends two blocks to the path `f`. -/
theorem smallServedOpening :
    Opening (clientOfEight (text "hello world")).args (requestOfEight .WRQ)
      (text "hello world") (clientOfEight (text "hello world")) where
  asks :=
    { writes := rfl
      octet := rfl
      carried := carried_requestOfEight (Or.inr rfl) }
  made := ⟨⟨1, 69⟩, smallDisk none, rfl⟩

/-- The server process before the request, and the client after it. -/
def smallService : Service :=
  ⟨⟨text "r", smallDisk none, []⟩,
    (clientOfEight (text "hello world")).run {}⟩

/-- The server process hears the request of the client. -/
def hearsRequest (service : Service) : Service :=
  { service with
    server :=
      service.server.step (.request ⟨2, 1024⟩ {} (requestOfEight .WRQ)) }

/-- The first handler hears this packet of the client. -/
def handlerHears (service : Service) (bytes : Bytes) : Service :=
  { service with
    server :=
      service.server.step (.handler 0 (deliver ⟨2, 1024⟩ bytes)) }

/-- The client hears this packet of a handler. -/
def clientHears (service : Service) (bytes : Bytes) : Service :=
  { service with client := service.client.step (deliver ⟨1, 2001⟩ bytes) }

/--
The request comes twice, and the first handler serves the client.  The first
block and its ACK also come twice, the block after the client has gone on.
-/
theorem served_uploads_are_kept_small :
    ∃ service,
      Relation.ReflTransGen (ServiceStep ⟨2, 1024⟩) smallService service ∧
        service.server.handlers.length = 2 ∧
          service.client.control = .ended .returned ∧
            service.server.files.content (text "r/f") =
              some (text "hello world") := by
  let once := hearsRequest smallService
  let twice := hearsRequest once
  let oack := [0, 6] ++ text "blksize" ++ [0] ++ text "8" ++ [0]
  let block := (blockAfter 8 (text "hello world") 0).makeRaw
  let permitted := clientHears twice oack
  let stored := handlerHears permitted block
  let ahead := clientHears stored (ackOf 1).makeRaw
  let late := handlerHears ahead block
  let again := clientHears late (ackOf 1).makeRaw
  let complete :=
    handlerHears again (blockAfter 8 (text "hello world") 1).makeRaw
  let reached := clientHears complete (ackOf 2).makeRaw
  have requested :
      ∃ reciever,
        (reciever, requestOfEight .WRQ) ∈ smallService.client.sent :=
    ⟨⟨1, 69⟩, by decide⟩
  have begins : ServiceStep ⟨2, 1024⟩ smallService once :=
    .request _ _ _ fun _ => requested
  have repeats : ServiceStep ⟨2, 1024⟩ once twice :=
    .request _ _ _ fun _ => requested
  have permits : ServiceStep ⟨2, 1024⟩ twice permitted :=
    .client _ ⟨⟨2, 1024⟩, by decide⟩
  have nobody : ∀ event, permitted.server.OpensFirst (.handler 0 event) := by
    rintro event path _ ⟨handler, member, other, wrote, _⟩
    have silent : ∀ handler ∈ permitted.server.handlers,
        handler.session.storage.writtenBlocks = [] := by
      decide
    exact wrote.writtenBlocks_ne_nil (silent handler member)
  have stores : ServiceStep ⟨2, 1024⟩ permitted stored :=
    .handler _ _ (fun _ _ _ => ⟨⟨⟨1, 2001⟩, by decide⟩, rfl⟩) (nobody _)
  have acknowledges : ServiceStep ⟨2, 1024⟩ stored ahead :=
    .client _ ⟨⟨2, 1024⟩, by decide⟩
  have hears : ServiceStep ⟨2, 1024⟩ ahead late :=
    .handler _ _ (fun _ _ _ => ⟨⟨⟨1, 2001⟩, by decide⟩, rfl⟩)
      (TftpServer.opensFirst_of_isOpen (by decide) _)
  have ignores : ServiceStep ⟨2, 1024⟩ late again :=
    .client _ ⟨⟨2, 1024⟩, by decide⟩
  have completes : ServiceStep ⟨2, 1024⟩ again complete :=
    .handler _ _ (fun _ _ _ => ⟨⟨⟨1, 2001⟩, by decide⟩, rfl⟩)
      (TftpServer.opensFirst_of_isOpen (by decide) _)
  have ends : ServiceStep ⟨2, 1024⟩ complete reached :=
    .client _ ⟨⟨2, 1024⟩, by decide⟩
  have steps :
      Relation.ReflTransGen (ServiceStep ⟨2, 1024⟩) smallService reached :=
    .head begins (.head repeats (.head permits (.head stores
      (.head acknowledges (.head hears (.head ignores (.head completes
        (.single ends))))))))
  have running : reached.server.stopped = false := by
    decide
  have returned : reached.client.control = .ended .returned := by
    decide
  exact
    ⟨reached, steps, by decide, returned,
      (served_uploads_are_kept smallServedOpening steps running).2 returned
        (Or.inr (by decide))⟩

end IsaTftp.Upload
