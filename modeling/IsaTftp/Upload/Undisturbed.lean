import IsaTftp.Conversation
import IsaTftp.Download.Requested
import IsaTftp.Server.Elsewhere
import IsaTftp.Server.Failures

/-!
# Undisturbed uploads

A client sends its standard input to a path where the server has nothing yet,
nothing else stands in the way, and no datagram is lost.  Then every block is
stored in the turn in which it is sent, and one turn later the client knows.
-/

namespace IsaTftp.Upload

open IsaTftp.Wire
open IsaTftp.Files
open IsaTftp.Transfer
open IsaTftp.Client
open IsaTftp.Server
open IsaTftp.Library.Chunking
open IsaTftp.Download (supported_of_carried optionsAgree_of_carried
  blksizeIn_fits)

variable {size count : Nat} {content : Bytes} {path : Path}
variable {before : FileSystem}
variable {address : Address} {conversation : Conversation}

/-! ## Lockstep -/

/-- The client has just sent the block after `count` blocks. -/
structure Offers (size : Nat) (content : Bytes) (address : Address)
    (count : Nat) (client : TftpClient) (sending : Client.Sending) :
    Prop where
  waits : ClientWaits size content count client sending
  server : client.session.serverAddress = address
  sent : newest client.sent = some (blockAfter size content count).makeRaw

/--
The handler has accepted `count` blocks, and what it has sent last makes the
client send the next one.
-/
structure InTurn (before : FileSystem) (size : Nat) (content : Bytes)
    (path : Path) (address : Address) (count : Nat)
    (conversation : Conversation) : Prop where
  client : ∃ sending,
    Offers size content address count
      (conversation.client.step (hear address conversation.handler.sent))
      sending
  handler : ∃ writer,
    ServerWaits size content path count conversation.handler writer
  going : ∀ outcome, conversation.client.control ≠ .ended outcome
  changes :
    before.ChangesAt path conversation.handler.session.storage.files

/-- The handler has stored everything, and the client has yet to hear it. -/
structure Stored (before : FileSystem) (size : Nat) (content : Bytes)
    (path : Path) (address : Address) (conversation : Conversation) :
    Prop where
  client : ∃ sending count,
    Offers size content address count conversation.client sending ∧
      (chunk size content count).length < size ∧
        newest conversation.handler.sent =
          some (ackOf (count + 1)).makeRaw
  handler : conversation.handler.control = .ended .returned
  stored :
    conversation.handler.session.storage.files.content path = some content
  changes :
    before.ChangesAt path conversation.handler.session.storage.files

/-- Both parties are done; the server has the input, and nothing else new. -/
structure Done (before : FileSystem) (path : Path) (content : Bytes)
    (conversation : Conversation) : Prop where
  client : conversation.client.control = .ended .returned
  handler : conversation.handler.control = .ended .returned
  stored :
    conversation.handler.session.storage.files.content path = some content
  changes :
    before.ChangesAt path conversation.handler.session.storage.files

/-- The client hears the ACK of a full block and sends the next one. -/
theorem Offers.next
    {client : TftpClient} {sending : Client.Sending}
    (offers : Offers size content address count client sending)
    (full : ¬ (chunk size content count).length < size) :
    ∃ onward,
      Offers size content address (count + 1)
        (client.step (deliver address (ackOf (count + 1)).makeRaw))
        onward := by
  obtain rfl := offers.server
  obtain ⟨⟨onward, waits⟩, sends⟩ := offers.waits.next full
  refine ⟨onward, waits, ?_, ?_⟩
  · rw [sends]
    rfl
  · rw [TftpClient.sent, sends]
    exact newest_append _ _

theorem Offers.going
    {client : TftpClient} {sending : Client.Sending}
    (offers : Offers size content address count client sending)
    (outcome : Outcome) :
    client.control ≠ .ended outcome := by
  simp [offers.waits.waits]

/-- What the handler stores, it stores at its path. -/
theorem ServerWaits.changes
    {server : Handler} {writer : Writer}
    (waiting : ServerWaits size content path count server writer)
    (event : Event) (goesOn : (server.step event).stopsProcess = false) :
    server.session.storage.files.ChangesAt path
      (server.step event).session.storage.files := by
  have writes : server.control.writer = some writer := by
    rcases waiting.waits with
      ⟨_, _, _, options, negotiated, waits⟩ | ⟨_, _, waits⟩
    · simp [waits, Server.Control.writer]
    · simp [waits, Server.Control.writer]
  obtain rfl := waiting.samePath
  exact (Handler.step_writesAt writes goesOn).changes

theorem ServerWaits.goesOn
    {server : Handler} {writer : Writer}
    (waiting : ServerWaits size content path count server writer) :
    server.stopsProcess = false := by
  rcases waiting.waits with
    ⟨_, _, _, options, negotiated, waits⟩ | ⟨_, _, waits⟩
  · simp [Handler.stopsProcess, waits]
  · simp [Handler.stopsProcess, waits]

/-- After the last block the handler has stored the file and returns. -/
theorem ServerWaits.complete
    {server : Handler} {writer : Writer}
    (waiting : ServerWaits size content path count server writer)
    (fitsBuffer : size + 4 ≤ UdpClient.maxPacketSize)
    (few : count + 1 < 65536)
    (short : (chunk size content count).length < size) :
    let reached :=
      server.step
        (deliver server.session.clientAddress
          (blockAfter size content count).makeRaw)
    reached.control = .ended .returned ∧
      reached.session.storage.files.content path =
          some (firstChunks size content (count + 1)) ∧
        reached.sent =
          server.sent ++
            [(server.session.clientAddress,
              (ackOf (count + 1)).makeRaw)] := by
  intro reached
  obtain ⟨next, stored, done, stores, isOpen, samePath, _⟩ :=
    waiting.writeFile
  have result :
      reached =
        ⟨(((server.session.withStorage stored).timeoutReset).send
            (ackOf (count + 1)).makeRaw).withStorage stored,
          .ended .returned⟩ := by
    have last :
        (chunk size content count).length <
          ((server.session.withStorage stored).timeoutReset).blksize := by
      rw [Server.Session.timeoutReset_blksize,
        Server.Session.withStorage_blksize, waiting.sameSize]
      exact short
    have closed : next.close stored {} = stored := stores.close {}
    simp only [reached, waiting.hear fitsBuffer few,
      Server.Session.storeBlock, done, last, if_true,
      Server.Session.finishWrite, Server.Session.send_storage,
      Server.Session.timeoutReset_storage,
      Server.Session.withStorage_storage, closed]
    rfl
  rw [result]
  refine ⟨rfl, ?_, rfl⟩
  rw [← samePath]
  exact stores.content isOpen

/-- What a turn makes of the two parties. -/
theorem InTurn.turn
    {client : TftpClient} {sending : Client.Sending}
    (heard : conversation.client.step
      (hear address conversation.handler.sent) = client)
    (offers : Offers size content address count client sending) :
    conversation.turn address =
      ⟨client,
        conversation.handler.step
          (deliver conversation.handler.session.clientAddress
            (blockAfter size content count).makeRaw)⟩ := by
  simp only [Conversation.turn, heard, hear_of_newest offers.sent]

/-- A turn stores one full block. -/
theorem InTurn.next
    (inTurn : InTurn before size content path address count conversation)
    (fitsBuffer : size + 4 ≤ UdpClient.maxPacketSize)
    (few : count + 1 < 65536)
    (full : ¬ (chunk size content count).length < size) :
    InTurn before size content path address (count + 1)
      (conversation.turn address) := by
  obtain ⟨sending, offers⟩ := inTurn.client
  obtain ⟨writer, waiting⟩ := inTurn.handler
  obtain ⟨onward, _, sent⟩ := waiting.next fitsBuffer few full
  rw [InTurn.turn rfl offers]
  constructor
  · have acknowledged :
        newest
            (conversation.handler.step
              (deliver conversation.handler.session.clientAddress
                (blockAfter size content count).makeRaw)).sent =
          some (ackOf (count + 1)).makeRaw := by
      rw [sent]
      exact newest_append _ _
    dsimp only
    rw [hear_of_newest acknowledged]
    exact offers.next full
  · exact onward
  · exact offers.going
  · obtain ⟨_, waitingNow⟩ := onward
    exact inTurn.changes.trans (waiting.changes _ waitingNow.goesOn)

/-- A turn stores the last block. -/
theorem InTurn.store
    (inTurn : InTurn before size content path address count conversation)
    (positive : 0 < size)
    (fitsBuffer : size + 4 ≤ UdpClient.maxPacketSize)
    (few : count + 1 < 65536)
    (short : (chunk size content count).length < size) :
    Stored before size content path address (conversation.turn address) := by
  obtain ⟨sending, offers⟩ := inTurn.client
  obtain ⟨writer, waiting⟩ := inTurn.handler
  obtain ⟨returned, stored, sent⟩ :=
    waiting.complete fitsBuffer few short
  have acknowledged :
      newest
          (conversation.handler.step
            (deliver conversation.handler.session.clientAddress
              (blockAfter size content count).makeRaw)).sent =
        some (ackOf (count + 1)).makeRaw := by
    rw [sent]
    exact newest_append _ _
  rw [InTurn.turn rfl offers]
  constructor
  · exact ⟨sending, count, offers, short, acknowledged⟩
  · exact returned
  · have whole : chunkCount size content ≤ count + 1 :=
      (length_chunk_lt_iff positive content count).mp short
    rw [stored, firstChunks_of_chunkCount_le positive whole]
  · have goesOn :
        (conversation.handler.step
          (deliver conversation.handler.session.clientAddress
            (blockAfter size content count).makeRaw)).stopsProcess =
          false := by
      simp [Handler.stopsProcess, returned]
    exact inTurn.changes.trans (waiting.changes _ goesOn)

/-- In the next turn the client hears that everything is stored. -/
theorem Stored.finish
    (stored : Stored before size content path address conversation) :
    Done before path content (conversation.turn address) := by
  obtain ⟨sending, count, offers, short, acknowledged⟩ := stored.client
  obtain rfl := offers.server
  have ended : ∀ event,
      conversation.handler.step event = conversation.handler := by
    intro event
    simp only [Handler.step, stored.handler]
  simp only [Conversation.turn, hear_of_newest acknowledged, ended]
  constructor
  · exact offers.waits.finish short
  · exact stored.handler
  · exact stored.stored
  · exact stored.changes

/-- One turn for every block and one for the last ACK, and no fewer. -/
theorem InTurn.completes
    (inTurn : InTurn before size content path address 0 conversation)
    (positive : 0 < size)
    (fitsBuffer : size + 4 ≤ UdpClient.maxPacketSize)
    (few : chunkCount size content ≤ 65535) :
    Done before path content
        ((Conversation.turn address)^[chunkCount size content + 1]
          conversation) ∧
      ∀ earlier < chunkCount size content + 1, ∀ outcome,
        ((Conversation.turn address)^[earlier]
            conversation).client.control ≠ .ended outcome := by
  have runs : ∀ count ≤ content.length / size,
      InTurn before size content path address count
        ((Conversation.turn address)^[count] conversation) := by
    intro count within
    refine Conversation.counts ?_ inTurn within
    intro before conversation below inTurn
    apply inTurn.next fitsBuffer
    · simp only [chunkCount] at few
      omega
    · exact full_of_lt positive below
  have stored :
      Stored before size content path address
        ((Conversation.turn address)^[chunkCount size content]
          conversation) := by
    have short :
        (chunk size content (content.length / size)).length < size :=
      (length_chunk_lt_iff positive content _).mpr le_rfl
    rw [chunkCount, Function.iterate_succ_apply']
    apply (runs _ le_rfl).store positive fitsBuffer
    · simp only [chunkCount] at few
      omega
    · exact short
  constructor
  · rw [Function.iterate_succ_apply']
    exact stored.finish
  · intro earlier before outcome
    rcases Nat.lt_or_eq_of_le (Nat.le_of_lt_succ before) with
      within | rfl
    · exact (runs earlier (Nat.le_of_lt_succ within)).going outcome
    · obtain ⟨sending, count, offers, _⟩ := stored.client
      exact offers.going outcome

/-! ## The request -/

/--
Nothing stands in the way of an upload to these files: the request is not cut,
nothing is found at the path, it passes the check, and there is space.
-/
structure Unhindered (args : TftpClientArgs) (request stdin : Bytes)
    (rootDirpath : Path) (files : FileSystem) : Prop where
  writes : args.mode = .WRITE
  octet : args.fileMode = .OCTET
  carried :
    CarriedRequest ⟨.WRQ, args.destFilepath, .OCTET, args.options⟩ request
  requestable : RequestableList args.options
  absent :
    files.lookup (rootDirpath ++ slash :: args.destFilepath) = none
  under :
    files.isFilePathUnderDirectory
        (rootDirpath ++ slash :: args.destFilepath) rootDirpath =
      true
  space : AsksSize args.options →
    Storage.hasEnoughSpace ⟨files, []⟩ rootDirpath
        (Server.Session.requiredBytes (tsizeIn 0 args.options)) =
      true
  few : stdin.length < 65535 * blksizeIn args.options

variable {args : TftpClientArgs} {request stdin : Bytes}
variable {rootDirpath : Path} {files clientFiles : FileSystem}
variable {session : Client.Session} {serverAddress : Address}

/-- The handler which the request starts: it answers and waits. -/
theorem Unhindered.answers
    (unhindered : Unhindered args request stdin rootDirpath files)
    (clientAddress : Address) :
    ∃ raw handler writer,
      Server.Session.openingReply args.options args.options = .ok raw ∧
        (Server.Session.make clientAddress rootDirpath
            files).followOnIntroPacket {} request = handler ∧
          newest handler.sent = some raw ∧
            handler.session.storage.files = files ∧
              ServerWaits (blksizeIn args.options) stdin
                (rootDirpath ++ slash :: args.destFilepath) 0 handler
                writer := by
  let fresh := Server.Session.make clientAddress rootDirpath files
  let path := rootDirpath ++ slash :: args.destFilepath
  let writer := Writer.make path .OCTET
  have absent :
      fresh.storage.fileExists {} (fresh.filePath args.destFilepath) =
        .ok false := by
    have lookup :
        fresh.storage.files.lookup (fresh.filePath args.destFilepath) =
          none :=
      unhindered.absent
    simp [Storage.fileExists, lookup]
  have under :
      fresh.storage.files.isFilePathUnderDirectory
          (fresh.filePath args.destFilepath) fresh.rootDirpath = true :=
    unhindered.under
  have known : supported args.options = args.options :=
    supported_of_carried unhindered.carried.options
  obtain ⟨agreed, negotiation, tsize⟩ :
      ∃ agreed,
        fresh.negotiateOptions args.options =
            (agreed, .ok args.options) ∧
          agreed.tsize = tsizeIn 0 args.options := by
    rcases negotiateOptions_cases fresh args.options with
      ⟨agreed, negotiation, tsize, _⟩ | ⟨_, _, _, _, unfit⟩
    · rw [known] at negotiation
      exact ⟨agreed, negotiation, tsize⟩
    · refine absurd ?_ unfit
      intro option member _
      exact (unhindered.requestable.each option member).stoi_value
  obtain ⟨negotiates, _⟩ := negotiateOptions_of_ok negotiation
  have enough : agreed.lacksSpace args.options = false := by
    unfold Server.Session.lacksSpace
    rw [negotiates.storage, negotiates.rootDirpath, tsize]
    cases asks : args.options.any fun option => option.name = .TSIZE with
    | false => rfl
    | true =>
        have asksSize : AsksSize args.options := by
          simpa [AsksSize, List.any_eq_true] using asks
        have space :
            fresh.storage.hasEnoughSpace fresh.rootDirpath
                (Server.Session.requiredBytes (tsizeIn 0 args.options)) =
              true :=
          unhindered.space asksSize
        rw [space]
        rfl
  obtain ⟨raw, reply⟩ := exists_openingReply args.options
  rw [known] at reply
  have result :
      fresh.followOnIntroPacket {} request =
        ⟨agreed.send raw,
          .awaitFirstData args.options args.options writer 0 0⟩ := by
    simp only [Server.Session.followOnIntroPacket,
      unhindered.carried.opcode, Server.Session.followOnWRQ,
      unhindered.carried.parsed, absent, under, if_true,
      Server.Session.openWRQ, negotiation, enough, Bool.false_eq_true,
      if_false, Server.Session.awaitFirstDataAgain, maxRetries,
      Nat.zero_lt_succ, reply, formatOfMode]
    rfl
  have sameFiles : agreed.storage = ⟨files, []⟩ := negotiates.storage
  refine ⟨raw, _, writer, reply, result, newest_append _ _, ?_, ?_⟩
  · rw [Server.Session.send_storage, sameFiles]
  constructor
  · refine Or.inl ⟨rfl, rfl, ?_, _, _, rfl⟩
    rw [Server.Session.send_storage, sameFiles]
    show files.lookup path ≠ some .directory
    rw [unhindered.absent]
    simp
  · exact negotiates.blksize
  · rfl
  · exact Writer.Stores.make _ _
  · rw [Server.Session.send_storage, sameFiles]
    rfl

/-- What the opening answer makes of the client. -/
structure Settled (args : TftpClientArgs) (stdin : Bytes)
    (session next : Client.Session) : Prop where
  sameSize : next.blksize.toNat = blksizeIn args.options
  options : next.args.options = args.options
  octet : next.args.fileMode = .OCTET
  server : next.serverAddress = session.serverAddress
  input : next.stdin = ⟨stdin, false⟩
  sent : next.udp.sent = session.udp.sent

/-- The client accepts the opening answer. -/
theorem exists_settled
    {session : Client.Session}
    (carried :
      CarriedRequest ⟨.WRQ, args.destFilepath, .OCTET, args.options⟩
        request)
    (requestable : RequestableList args.options)
    (octet : args.fileMode = .OCTET)
    (sameArgs : session.args = args)
    (sameSize : session.blksize.toNat = blksizeIn args.options)
    (input : session.stdin = ⟨stdin, false⟩)
    {raw : Bytes}
    (reply :
      Server.Session.openingReply args.options args.options = .ok raw) :
    ∃ next, session.acceptWrqReply raw = .ok next ∧
      Settled args stdin session next := by
  obtain rfl := sameArgs
  unfold Server.Session.openingReply at reply
  split_ifs at reply with some_
  · obtain ⟨other, encoded, _, decoded⟩ := carried.oack
    dsimp only at encoded decoded
    rw [reply, Except.ok.injEq] at encoded
    subst encoded
    obtain ⟨next, setUp, setsUp⟩ :=
      setupUdpClient_setsUp (session.withOptions session.args.options)
    have checks :
        session.checkOack ⟨session.args.options⟩ = .ok () :=
      requestable.checkOack rfl
    refine ⟨next, ?_, ?_⟩
    · simp only [Client.Session.acceptWrqReply,
        OackPacket.getOpcode_makeRaw reply, decoded, checks, bind,
        Except.bind]
      exact setUp
    · constructor
      · rw [setsUp.blksize]
        show lastNumber .BLKSIZE session.blksize.toNat _ = _
        rw [sameSize]
        exact lastNumber_of_agree
          (optionsAgree_of_carried carried.options)
      · rw [setsUp.args]
        rfl
      · rw [setsUp.args]
        exact octet
      · exact setsUp.serverAddress
      · exact setsUp.stdin.trans input
      · exact setsUp.sent
  · have none_ : session.args.options = [] := by
      simpa using some_
    rw [Except.ok.injEq] at reply
    subst reply
    refine ⟨session.withOptions [], by rfl, ?_⟩
    constructor
    · exact sameSize
    · exact none_.symm
    · exact octet
    · rfl
    · exact input
    · rfl

/-- The client which has settled the options sends the first block. -/
theorem Settled.sendData
    {session next : Client.Session}
    (settled : Settled args stdin session next)
    (carried : CarriedOptions args.options)
    {event : Event} (quiet : event.sigintFrom = none)
    (readable : event.host.readFails = false) :
    (∃ sending,
      Offers (blksizeIn args.options) stdin session.serverAddress 0
        (next.sendData event) sending) ∧
      (next.sendData event).sent =
        session.udp.sent ++
          [(session.serverAddress,
            (blockAfter (blksizeIn args.options) stdin 0).makeRaw)] := by
  obtain ⟨blksize, scanned, value⟩ :=
    scanBlksize_eq next.args.options next.blksize
  have sameSize : blksize.toNat = blksizeIn args.options := by
    rw [value, settled.sameSize, settled.options]
    exact lastNumber_of_agree (optionsAgree_of_carried carried)
  have unseen : event.sigintAt 3 = false := by
    simp [Event.sigintAt, quiet]
  let handler := StdHandler.make (formatOfMode next.args.fileMode) next.stdin
  have begins :
      next.sendData event =
        Client.Session.sendNextBlock { next with blksize := blksize }
          handler 1 event := by
    simp only [Client.Session.sendData, Client.Session.checkForSigintWRQ,
      unseen, Bool.false_eq_true, if_false, scanned]
    rfl
  have octet : handler.mode = .OCTET := by
    simp [handler, StdHandler.make, settled.octet, formatOfMode]
  have behind :
      handler.stdin = Stream.behind (blksizeIn args.options) stdin 0 := by
    simp [handler, StdHandler.make, settled.input]
  obtain ⟨⟨sending, waits⟩, sends⟩ :=
    ClientWaits.sendNextBlock { next with blksize := blksize } sameSize
      octet behind event quiet readable
  have sent :
      (next.sendData event).sent =
        session.udp.sent ++
          [(session.serverAddress,
            (blockAfter (blksizeIn args.options) stdin 0).makeRaw)] := by
    rw [begins, TftpClient.sent,
      show (1 : UInt16) = UInt16.ofNat (0 + 1) from rfl, sends,
      ← settled.sent, ← settled.server]
    rfl
  refine ⟨⟨sending, ?_⟩, sent⟩
  constructor
  · rw [begins]
    exact waits
  · rw [begins, show (1 : UInt16) = UInt16.ofNat (0 + 1) from rfl, sends]
    exact settled.server
  · rw [sent]
    exact newest_append _ _

/-- The client has sent its request and waits. -/
theorem Unhindered.asked
    (unhindered : Unhindered args request stdin rootDirpath files)
    (made :
      Client.Session.make args serverAddress stdin clientFiles =
        .ok session) :
    session.run {} = ⟨session.send request, .awaitWrqReply⟩ := by
  have sameArgs : session.args = args :=
    (setsUp_of_setupUdpClient made).args
  have writes : session.run {} = session.sendWrq {} := by
    apply Client.Session.run_of_write
    rw [sameArgs]
    exact unhindered.writes
  rw [writes]
  simp only [Client.Session.sendWrq, Client.Session.checkForSigintWRQ,
    Event.sigintAt, Bool.false_eq_true, if_false, sameArgs,
    unhindered.carried.encoded]

/-- The first answer makes the client send the first block. -/
theorem Unhindered.begins
    (unhindered : Unhindered args request stdin rootDirpath files)
    (made :
      Client.Session.make args serverAddress stdin clientFiles =
        .ok session)
    (clientAddress : Address) {address : Address}
    (sameHost : address.ip = serverAddress.ip) :
    let start :=
      Conversation.start session clientAddress rootDirpath files
    let client := start.client.step (hear address start.handler.sent)
    ((∃ sending,
      Offers (blksizeIn args.options) stdin address 0 client sending) ∧
      client.sent =
        start.client.sent ++
          [(address,
            (blockAfter (blksizeIn args.options) stdin 0).makeRaw)]) ∧
      (∃ writer,
        ServerWaits (blksizeIn args.options) stdin
          (rootDirpath ++ slash :: args.destFilepath) 0 start.handler
          writer) ∧
        start.handler.session.storage.files = files := by
  have setsUp := setsUp_of_setupUdpClient made
  have asked := unhindered.asked made
  obtain ⟨raw, handler, writer, reply, starts, sent, sameFiles, waits⟩ :=
    unhindered.answers clientAddress
  have started :
      Conversation.start session clientAddress rootDirpath files =
        ⟨⟨session.send request, .awaitWrqReply⟩, handler⟩ := by
    have last : newest (session.run {}).sent = some request := by
      rw [asked]
      exact newest_append _ _
    rw [Conversation.start, last, Option.getD_some, starts, asked]
  let adopted := (session.send request).adoptPort address
  have server : adopted.serverAddress = address := by
    have sameIp : session.serverAddress.ip = address.ip := by
      rw [sameHost]
      exact congrArg Address.ip setsUp.serverAddress
    show (⟨session.serverAddress.ip, address.port⟩ : Address) = address
    rw [sameIp]
  obtain ⟨next, accepted, settled⟩ :
      ∃ next, adopted.acceptWrqReply raw = .ok next ∧
        Settled args stdin adopted next := by
    apply exists_settled unhindered.carried unhindered.requestable
      unhindered.octet
    · exact setsUp.args
    · exact setsUp.blksize
    · exact setsUp.stdin
    · exact reply
  have short : raw.length ≤ UdpClient.maxPacketSize := by
    unfold Server.Session.openingReply at reply
    split_ifs at reply
    · obtain ⟨other, encoded, fits, _⟩ := unhindered.carried.oack
      dsimp only at encoded
      rw [reply, Except.ok.injEq] at encoded
      subst encoded
      exact le_trans fits (by decide)
    · rw [Except.ok.injEq] at reply
      subst reply
      decide
  have hears :
      TftpClient.step ⟨session.send request, .awaitWrqReply⟩
          (deliver address raw) =
        next.sendData (deliver address raw) := by
    simp only [TftpClient.step, Client.Session.stepAwaitWrqReply, deliver,
      receive, List.take_of_length_le short]
    have accepts :
        ((session.send request).adoptPort address).acceptWrqReply raw =
          .ok next :=
      accepted
    simp only [accepts, Client.Session.checkForSigintWRQ, Event.sigintAt,
      Bool.false_eq_true, if_false]
  rw [started]
  refine ⟨?_, ⟨writer, waits⟩, sameFiles⟩
  dsimp only
  rw [hear_of_newest sent, hears, ← server]
  exact settled.sendData unhindered.carried.options rfl rfl

/-- The first turn is the turn of the first block. -/
theorem Unhindered.inTurn
    (unhindered : Unhindered args request stdin rootDirpath files)
    (made :
      Client.Session.make args serverAddress stdin clientFiles =
        .ok session)
    (clientAddress : Address) {address : Address}
    (sameHost : address.ip = serverAddress.ip) :
    InTurn files (blksizeIn args.options) stdin
      (rootDirpath ++ slash :: args.destFilepath) address 0
      (Conversation.start session clientAddress rootDirpath files) := by
  obtain ⟨⟨offers, _⟩, waits, sameFiles⟩ :=
    unhindered.begins made clientAddress sameHost
  constructor
  · exact offers
  · exact waits
  · rw [show
      (Conversation.start session clientAddress rootDirpath files).client =
        session.run {} from rfl, unhindered.asked made]
    simp
  · rw [sameFiles]
    exact .refl _ _

/--
An undisturbed upload completes, if the request is not cut, nothing exists at
the path, it passes the check and it can be opened: one turn after the last
block was stored both parties have returned, and the server has the whole input
and is otherwise unchanged; before that the client has not ended.
-/
theorem whole_upload_completes
    (unhindered : Unhindered args request stdin rootDirpath files)
    (made :
      Client.Session.make args serverAddress stdin clientFiles =
        .ok session)
    (clientAddress : Address) {address : Address}
    (sameHost : address.ip = serverAddress.ip) :
    let start :=
      Conversation.start session clientAddress rootDirpath files
    let turns := chunkCount (blksizeIn args.options) stdin + 1
    Done files (rootDirpath ++ slash :: args.destFilepath) stdin
        ((Conversation.turn address)^[turns] start) ∧
      ∀ earlier < turns, ∀ outcome,
        ((Conversation.turn address)^[earlier] start).client.control ≠
          .ended outcome := by
  intro start turns
  have positive : 0 < blksizeIn args.options := by
    have least := (blksizeIn_bounds args.options).1
    omega
  have few : chunkCount (blksizeIn args.options) stdin ≤ 65535 := by
    have bound := unhindered.few
    rw [Nat.mul_comm] at bound
    exact Nat.div_lt_of_lt_mul bound
  have inTurn := unhindered.inTurn made clientAddress sameHost
  exact inTurn.completes positive (blksizeIn_fits args.options) few

/-- A client which sends its input to the path `f` in blocks of eight bytes. -/
def smallArgs : TftpClientArgs :=
  ⟨[], text "f", .WRITE, .OCTET, [optionOfEight]⟩

/-- An input of eleven bytes, and a server which has nothing yet. -/
theorem smallUnhindered :
    Unhindered smallArgs (requestOfEight .WRQ) (text "hello world") (text "r")
      (smallDisk none) where
  writes := rfl
  octet := rfl
  carried := carried_requestOfEight (Or.inr rfl)
  requestable := requestable_optionOfEight
  absent := by decide
  under := by decide
  space := by
    rintro ⟨option, member, isTsize⟩
    obtain rfl := List.mem_singleton.mp member
    cases isTsize
  few := by decide

/-- The theorem for this client: two turns for the blocks, one for the ACK. -/
theorem whole_upload_completes_small :
    ∃ session,
      Client.Session.make smallArgs ⟨1, 69⟩ (text "hello world")
            (smallDisk none) =
          .ok session ∧
        Done (smallDisk none) (text "r/f") (text "hello world")
          ((Conversation.turn ⟨1, 2001⟩)^[3]
            (Conversation.start session ⟨2, 1024⟩ (text "r")
              (smallDisk none))) := by
  obtain ⟨session, made, _⟩ :=
    setupUdpClient_setsUp
      ⟨smallArgs, ⟨1, 69⟩, 512, 1, UdpClient.make,
        ⟨text "hello world", false⟩, ⟨smallDisk none, []⟩⟩
  have turns :
      chunkCount (blksizeIn smallArgs.options) (text "hello world") + 1 =
        3 := by
    decide
  obtain ⟨done, _⟩ :=
    whole_upload_completes smallUnhindered made ⟨2, 1024⟩
      (show (⟨1, 2001⟩ : Address).ip = (⟨1, 69⟩ : Address).ip from rfl)
  rw [turns] at done
  exact ⟨session, made, done⟩

end IsaTftp.Upload
