import IsaTftp.Upload.Started

/-!
# Undisturbed uploads

When every datagram arrives once and in order, the two parties run in
lockstep: the client has sent one block more than the server has accepted.
The lemmas here say what each party does in this case.
-/

namespace IsaTftp.Upload

open IsaTftp.Wire
open IsaTftp.Files
open IsaTftp.Transfer
open IsaTftp.Client
open IsaTftp.Server
open IsaTftp.Library.Chunking
open IsaTftp.Library.StopAndWait

/-- A datagram arrives, SIGINT does not, and the system call succeeds. -/
def deliver (sender : Address) (bytes : Bytes) : Event where
  reception := .datagram sender bytes

/-- The packet which carries the block after `count` blocks. -/
def blockAfter (size : Nat) (content : Bytes) (count : Nat) :
    DataPacket :=
  ⟨UInt16.ofNat (count + 1), chunk size content count⟩

/-- The ACK packet of block `count`. -/
def ackOf (count : Nat) : AckPacket :=
  ⟨UInt16.ofNat count⟩

/-- The helper delivers what comes from the peer. -/
theorem recievePacketFrom_deliver
    (peer : Address) (udp : UdpClient) {bytes : Bytes}
    (fits : bytes.length ≤ UdpClient.maxPacketSize) :
    recievePacketFrom peer udp 0 (.datagram peer bytes) =
      (udp, .delivered bytes) := by
  simp [recievePacketFrom, receive, maxRetries,
    List.take_of_length_le fits]

/-! ## The client -/

/-- The client waits for the ACK of the block after `count` blocks. -/
structure ClientWaits (size : Nat) (content : Bytes) (count : Nat)
    (client : TftpClient) (sending : Client.Sending) : Prop where
  waits : client.control = .awaitAck sending 0 0
  sameSize : client.session.blksize.toNat = size
  octet : sending.stdHandler.mode = .OCTET
  number : sending.blockNumber = UInt16.ofNat (count + 1)
  last : sending.lastPacketSent =
    decide ((chunk size content count).length < size)
  more : sending.lastPacketSent = false →
    sending.stdHandler.stdin = Stream.behind size content (count + 1)
  sent : ∃ reciever,
    (reciever, (blockAfter size content count).makeRaw) ∈ client.sent

/-- Nothing keeps the client from sending the next block. -/
theorem ClientWaits.sendNextBlock
    {size count : Nat} {content : Bytes} (session : Client.Session)
    {handler : StdHandler}
    (sameSize : session.blksize.toNat = size)
    (octet : handler.mode = .OCTET)
    (behind : handler.stdin = Stream.behind size content count)
    (event : Event) (quiet : event.sigintFrom = none)
    (readable : event.host.readFails = false) :
    (∃ sending,
      ClientWaits size content count
        (session.sendNextBlock handler (UInt16.ofNat (count + 1)) event)
        sending) ∧
      (session.sendNextBlock handler (UInt16.ofNat (count + 1))
          event).session =
        session.send (blockAfter size content count).makeRaw := by
  have unseen : ∀ check, event.sigintAt check = false := by
    intro check
    simp [Event.sigintAt, quiet]
  have read :
      ∃ data next,
        handler.readBytesFromStdin event.host size = .ok (data, next) := by
    simp [StdHandler.readBytesFromStdin, octet, behind, Stream.read,
      Stream.behind, readable]
  obtain ⟨data, next, read⟩ := read
  obtain ⟨block, mode, continues⟩ :=
    StdHandler.readBytesFromStdin_behind octet behind read
  subst block
  let sending : Client.Sending :=
    { stdHandler := next
      blockNumber := UInt16.ofNat (count + 1)
      data := chunk size content count
      lastPacketSent :=
        decide ((chunk size content count).length < size) }
  have result :
      session.sendNextBlock handler (UInt16.ofNat (count + 1)) event =
        ⟨session.send (blockAfter size content count).makeRaw,
          .awaitAck sending 0 0⟩ := by
    simp only [Client.Session.sendNextBlock,
      Client.Session.checkForSigintWRQ, unseen, Bool.false_eq_true,
      if_false, Client.Session.sendBlock, sameSize, read,
      Client.Session.awaitAckAgain, maxRetries, Nat.zero_lt_succ,
      if_true]
    rfl
  rw [result]
  constructor
  · exact
      ⟨sending,
        { waits := rfl
          sameSize := sameSize
          octet := mode
          number := rfl
          last := rfl
          more := fun full => continues (of_decide_eq_false full)
          sent := ⟨session.serverAddress, by simp [TftpClient.sent]⟩ }⟩
  · rfl

/-- An ACK of the awaited number is received. -/
theorem classifyAck_makeRaw (responder : Bytes) (packet : AckPacket) :
    classifyAck responder packet.blockNumber.toNat packet.makeRaw =
      .ok .received := by
  simp [classifyAck, bind, Except.bind, pure, Except.pure]

/-- The client hears the ACK of its block. -/
theorem ClientWaits.hear
    {size count : Nat} {content : Bytes} {client : TftpClient}
    {sending : Client.Sending}
    (waiting : ClientWaits size content count client sending) :
    client.step
        (deliver client.session.serverAddress
          (ackOf (count + 1)).makeRaw) =
      client.session.afterAck sending
        (deliver client.session.serverAddress
          (ackOf (count + 1)).makeRaw) := by
  have step :
      client.step
          (deliver client.session.serverAddress
            (ackOf (count + 1)).makeRaw) =
        client.session.stepAwaitAck sending 0 0
          (deliver client.session.serverAddress
            (ackOf (count + 1)).makeRaw) := by
    simp only [TftpClient.step, waiting.waits]
  have heard :
      recievePacketFrom client.session.serverAddress client.session.udp 0
          (deliver client.session.serverAddress
            (ackOf (count + 1)).makeRaw).reception =
        (client.session.udp, .delivered (ackOf (count + 1)).makeRaw) :=
    recievePacketFrom_deliver _ _ (by simp [UdpClient.maxPacketSize])
  have received :
      classifyAck (text "Server") sending.blockNumber.toNat
          (ackOf (count + 1)).makeRaw = .ok .received := by
    rw [waiting.number]
    exact classifyAck_makeRaw _ (ackOf (count + 1))
  rw [step]
  simp only [Client.Session.stepAwaitAck,
    Client.Session.recievePacketFromServer, heard, received]

/-- After the ACK of a full block the client sends the next one. -/
theorem ClientWaits.next
    {size count : Nat} {content : Bytes} {client : TftpClient}
    {sending : Client.Sending}
    (waiting : ClientWaits size content count client sending)
    (full : ¬ (chunk size content count).length < size) :
    (∃ sending',
      ClientWaits size content (count + 1)
        (client.step
          (deliver client.session.serverAddress
            (ackOf (count + 1)).makeRaw)) sending') ∧
      (client.step
          (deliver client.session.serverAddress
            (ackOf (count + 1)).makeRaw)).session =
        client.session.timeoutReset.send
          (blockAfter size content (count + 1)).makeRaw := by
  have more : sending.lastPacketSent = false := by
    rw [waiting.last]
    exact decide_eq_false full
  have number :
      sending.blockNumber + 1 = UInt16.ofNat (count + 1 + 1) := by
    rw [waiting.number]
    simp
  rw [waiting.hear]
  simp only [Client.Session.afterAck, Client.Session.checkForSigintWRQ,
    Event.sigintAt, deliver, Bool.false_eq_true, if_false, more, number]
  exact
    ClientWaits.sendNextBlock client.session.timeoutReset
      waiting.sameSize waiting.octet (waiting.more more)
      (deliver client.session.serverAddress (ackOf (count + 1)).makeRaw)
      rfl rfl

/-- After the ACK of the last block the client returns. -/
theorem ClientWaits.finish
    {size count : Nat} {content : Bytes} {client : TftpClient}
    {sending : Client.Sending}
    (waiting : ClientWaits size content count client sending)
    (short : (chunk size content count).length < size) :
    (client.step
        (deliver client.session.serverAddress
          (ackOf (count + 1)).makeRaw)).control = .ended .returned := by
  have last : sending.lastPacketSent = true := by
    rw [waiting.last]
    exact decide_eq_true short
  rw [waiting.hear]
  simp only [Client.Session.afterAck, Client.Session.checkForSigintWRQ,
    Event.sigintAt, deliver, Bool.false_eq_true, if_false, last, if_true]

/-! ## The server -/

/-- The server has accepted `count` blocks and waits for the next one. -/
structure ServerWaits (size : Nat) (content : Bytes) (path : Path)
    (count : Nat) (server : Handler) (writer : Writer) : Prop where
  waits :
    (count = 0 ∧ writer.file = none ∧
        server.session.storage.files.lookup path ≠ some .directory ∧
          ∃ options negotiated,
            server.control =
              .awaitFirstData options negotiated writer 0 0) ∨
      (0 < count ∧ writer.file ≠ none ∧
        server.control = .awaitData writer count 0 0)
  sameSize : server.session.blksize = size
  samePath : writer.filepath = path
  stores :
    writer.Stores server.session.storage.files
      (firstChunks size content count)
  blocks : server.session.storage.writtenBlocks.length = count

/-- The server hears the next block. -/
theorem ServerWaits.hear
    {size count : Nat} {content : Bytes} {path : Path}
    {server : Handler} {writer : Writer}
    (waiting : ServerWaits size content path count server writer)
    (fitsBuffer : size + 4 ≤ UdpClient.maxPacketSize)
    (fits : count + 1 < 65536) :
    server.step
        (deliver server.session.clientAddress
          (blockAfter size content count).makeRaw) =
      server.session.storeBlock {} writer (count + 1)
        (chunk size content count) := by
  obtain rfl := waiting.sameSize
  have bound :=
    length_chunk_le server.session.blksize content count
  have heard :
      recievePacketFrom server.session.clientAddress server.session.udp 0
          (deliver server.session.clientAddress
            (blockAfter server.session.blksize content count).makeRaw).reception =
        (server.session.udp,
          .delivered (blockAfter server.session.blksize content count).makeRaw) := by
    apply recievePacketFrom_deliver
    rw [DataPacket.length_makeRaw, blockAfter]
    dsimp only
    omega
  have number :
      (blockAfter server.session.blksize content count).blockNumber.toNat = count + 1 :=
    UInt16.toNat_ofNat_of_lt fits
  have accepted : ∀ responder announced,
      classifyData responder (count + 1) announced
          server.session.blksize
          (blockAfter server.session.blksize content count).makeRaw =
        .ok
          (.accepted
            (chunk server.session.blksize content count)) := by
    intro responder announced
    have reply :=
      classifyData_makeRaw responder announced
        (blockAfter server.session.blksize content count) bound
    rwa [number] at reply
  rcases waiting.waits with
    ⟨zero, _, _, options, negotiated, waits⟩ | ⟨_, _, waits⟩
  · subst zero
    simp only [Handler.step, waits, Server.Session.stepAwaitFirstData,
      Server.Session.recievePacketFromClient, heard]
    have first := accepted (text "Client") 2
    rw [Nat.zero_add] at first
    simp only [first]
    rfl
  · simp only [Handler.step, waits, Server.Session.stepAwaitData,
      Server.Session.recievePacketFromClient, heard,
      accepted]
    rfl

/-- The write of the next block succeeds. -/
theorem ServerWaits.writeFile
    {size count : Nat} {content : Bytes} {path : Path}
    {server : Handler} {writer : Writer}
    (waiting : ServerWaits size content path count server writer) :
    ∃ next stored,
      writer.writeFile server.session.storage {}
          (chunk size content count) = (.done, next, stored) ∧
        next.Stores stored.files (firstChunks size content (count + 1)) ∧
          next.file ≠ none ∧ next.filepath = path ∧
            stored.writtenBlocks.length = count + 1 := by
  have diskAccepts : ({} : HostChoice).writeFails = none := rfl
  rcases waiting.stores.writeFile diskAccepts
      (chunk size content count) with
    ⟨closed, refused, _⟩ | ⟨next, stored, done, stores, isOpen,
      samePath, blocks⟩
  · exfalso
    rw [waiting.samePath] at refused
    rcases waiting.waits with ⟨_, _, allowed, _⟩ | ⟨_, isOpen, _⟩
    · exact refused.elim Bool.noConfusion allowed
    · exact isOpen closed
  · refine
      ⟨next, stored, done, ?_, isOpen, samePath.trans waiting.samePath,
        by rw [blocks, List.length_append, waiting.blocks]; rfl⟩
    rw [firstChunks_succ]
    exact stores

/-- After a full block the server acknowledges it and waits for the next. -/
theorem ServerWaits.next
    {size count : Nat} {content : Bytes} {path : Path}
    {server : Handler} {writer : Writer}
    (waiting : ServerWaits size content path count server writer)
    (fitsBuffer : size + 4 ≤ UdpClient.maxPacketSize)
    (fits : count + 1 < 65536)
    (full : ¬ (chunk size content count).length < size) :
    let reached :=
      server.step
        (deliver server.session.clientAddress
          (blockAfter size content count).makeRaw)
    (∃ writer',
        ServerWaits size content path (count + 1) reached writer') ∧
      reached.session.clientAddress = server.session.clientAddress ∧
        reached.sent =
          server.sent ++
            [(server.session.clientAddress,
              (ackOf (count + 1)).makeRaw)] := by
  intro reached
  obtain ⟨next, stored, done, stores, isOpen, samePath, blocks⟩ :=
    waiting.writeFile
  have result :
      reached =
        ⟨((server.session.withStorage stored).timeoutReset).send
            (ackOf (count + 1)).makeRaw,
          .awaitData next (count + 1) 0 0⟩ := by
    have notLast :
        ¬ (chunk size content count).length <
          ((server.session.withStorage stored).timeoutReset).blksize := by
      rw [Server.Session.timeoutReset_blksize,
        Server.Session.withStorage_blksize, waiting.sameSize]
      exact full
    simp only [reached, waiting.hear fitsBuffer fits,
      Server.Session.storeBlock, done, notLast, if_false,
      Server.Session.awaitDataAgain, maxRetries, Nat.zero_lt_succ,
      if_true]
    rfl
  rw [result]
  refine ⟨⟨next, ?_⟩, rfl, rfl⟩
  exact
    { waits := Or.inr ⟨Nat.succ_pos count, isOpen, rfl⟩
      sameSize := waiting.sameSize
      samePath := samePath
      stores := stores
      blocks := blocks }

/-! ## Lockstep -/

/-- The client hears these bytes from the server. -/
def Pair.clientHears (upload : Pair) (bytes : Bytes) : Pair :=
  { upload with
    first :=
      upload.first.step (deliver upload.first.session.serverAddress bytes) }

/-- The server hears these bytes from the client. -/
def Pair.serverHears (upload : Pair) (bytes : Bytes) : Pair :=
  { upload with
    second :=
      upload.second.step
        (deliver upload.second.session.clientAddress bytes) }

theorem Pair.step_clientHears
    {upload : Pair} {bytes : Bytes}
    (onWire : ∃ reciever, (reciever, bytes) ∈ upload.second.sent) :
    Step upload (upload.clientHears bytes) :=
  .first ⟨deliver upload.first.session.serverAddress bytes, onWire, rfl⟩

theorem Pair.step_serverHears
    {upload : Pair} {bytes : Bytes}
    (onWire : ∃ reciever, (reciever, bytes) ∈ upload.first.sent) :
    Step upload (upload.serverHears bytes) :=
  .second
    ⟨deliver upload.second.session.clientAddress bytes, onWire, rfl, rfl⟩

/-- The server has accepted `count` blocks, and the next one is on its way. -/
structure Lockstep (size : Nat) (content : Bytes) (path : Path)
    (earlier : List Datagram) (count : Nat) (upload : Pair) : Prop where
  client : ∃ sending, ClientWaits size content count upload.first sending
  server : ∃ writer,
    ServerWaits size content path count upload.second writer
  earlier : ∀ datagram ∈ earlier, datagram ∈ upload.second.sent
  acknowledged : ∀ number, 0 < number → number ≤ count →
    ∃ reciever, (reciever, (ackOf number).makeRaw) ∈ upload.second.sent

variable {size count : Nat} {content : Bytes} {path : Path}
variable {earlier : List Datagram} {upload : Pair}

/-- The block which is on its way arrives. -/
theorem Lockstep.serverStep
    (lockstep : Lockstep size content path earlier count upload) :
    Step upload
      (upload.serverHears (blockAfter size content count).makeRaw) := by
  obtain ⟨sending, waiting⟩ := lockstep.client
  exact Pair.step_serverHears waiting.sent

/-- One full block is transferred. -/
theorem Lockstep.next
    (lockstep : Lockstep size content path earlier count upload)
    (fitsBuffer : size + 4 ≤ UdpClient.maxPacketSize)
    (fits : count + 1 < 65536)
    (full : ¬ (chunk size content count).length < size) :
    ∃ next, Relation.ReflTransGen Step upload next ∧
      Lockstep size content path earlier (count + 1) next := by
  obtain ⟨sending, client⟩ := lockstep.client
  obtain ⟨writer, server⟩ := lockstep.server
  obtain ⟨serverNext, _, sent⟩ := server.next fitsBuffer fits full
  have clientNext := (client.next full).1
  let stored :=
    upload.serverHears (blockAfter size content count).makeRaw
  let acknowledged := stored.clientHears (ackOf (count + 1)).makeRaw
  have acks : Step stored acknowledged := by
    apply Pair.step_clientHears
    refine ⟨upload.second.session.clientAddress, ?_⟩
    rw [show stored.second.sent = _ from sent]
    simp
  refine ⟨acknowledged, .tail (.single lockstep.serverStep) acks, ?_⟩
  have wire : acknowledged.second.sent = _ := sent
  refine ⟨clientNext, serverNext, ?_, ?_⟩
  · intro datagram member
    rw [wire]
    exact List.mem_append_left _ (lockstep.earlier datagram member)
  · intro number positive bound
    rw [wire]
    rcases Nat.lt_or_eq_of_le bound with old | rfl
    · obtain ⟨reciever, member⟩ :=
        lockstep.acknowledged number positive (by omega)
      exact ⟨reciever, List.mem_append_left _ member⟩
    · exact ⟨upload.second.session.clientAddress, by simp⟩

/-- As many full blocks are transferred as the numbers allow. -/
theorem Lockstep.run
    (lockstep : Lockstep size content path earlier 0 upload)
    (fitsBuffer : size + 4 ≤ UdpClient.maxPacketSize)
    (fits : count < 65536)
    (full : ∀ index < count,
      ¬ (chunk size content index).length < size) :
    ∃ next, Relation.ReflTransGen Step upload next ∧
      Lockstep size content path earlier count next := by
  induction count with
  | zero => exact ⟨upload, .refl, lockstep⟩
  | succ count induction =>
      obtain ⟨reached, steps, here⟩ :=
        induction (by omega) fun index below => full index (by omega)
      obtain ⟨next, more, there⟩ :=
        here.next fitsBuffer fits (full count (by omega))
      exact ⟨next, steps.trans more, there⟩

/-- The handshake leaves an undisturbed client and server in lockstep. -/
theorem Lockstep.start
    {options : List TftpOption}
    {session : Client.Session} {blksize : UInt16}
    (client : ClientReady size content session blksize)
    (begins : upload.first = session.sendData {})
    {serverSession : Server.Session} {host : HostChoice}
    {introPacket : Bytes} {writer : Writer}
    (server :
      ServerStarted size options path upload.second serverSession host
        introPacket writer) :
    Lockstep size content path upload.second.sent 0 upload := by
  refine ⟨?_, ?_, fun _ member => member, by omega⟩
  · rw [begins]
    simp only [Client.Session.sendData, Client.Session.checkForSigintWRQ,
      Event.sigintAt, Bool.false_eq_true, if_false, client.scanned]
    refine
      (ClientWaits.sendNextBlock { session with blksize := blksize }
        client.sameSize ?_ ?_ {} rfl rfl).1
    · simp [StdHandler.make, client.octet, formatOfMode]
    · simp [StdHandler.make, client.input]
  · obtain ⟨clientAddress, rootDirpath, files, rfl⟩ := server.fresh
    obtain ⟨negotiated, retries, foreign, waits⟩ := server.waits
    rcases Server.Session.followOnWRQ_cases
        (Server.Session.make clientAddress rootDirpath files) host
        introPacket with
      ⟨reached, exception, quiet, refused⟩ |
        ⟨wrq, reached, asked, parsed, missing, under, quiet, entered⟩
    · rw [server.entered, refused] at waits
      cases waits
    · rw [server.entered, entered] at waits
      obtain ⟨rfl, rfl, raw, _, waiting⟩ :=
        Server.Session.waits_awaitFirstDataAgain waits
      have sameSize := server.sameSize
      have samePath := server.samePath
      have mode := server.octet
      rw [← entered, ← server.entered] at waiting
      rw [waiting] at sameSize ⊢
      have absent : files.lookup path = none := by
        rw [← samePath]
        unfold Storage.fileExists at missing
        split_ifs at missing
        simp only [Except.ok.injEq, Option.isSome_eq_false_iff,
          Option.isNone_iff_eq_none] at missing
        exact missing
      have sameFiles : reached.storage = ⟨files, []⟩ := quiet.storage
      refine ⟨_, { waits := ?_, sameSize, samePath, stores := ?_, blocks := ?_ }⟩
      · refine Or.inl ⟨rfl, rfl, ?_, wrq.options, asked, rfl⟩
        rw [Server.Session.send_storage, sameFiles, absent]
        simp
      · have fresh :=
          Writer.Stores.make
            (Server.Session.filePath
              (Server.Session.make clientAddress rootDirpath files)
              wrq.filepath)
            (reached.send raw).storage.files
        rw [← show formatOfMode wrq.mode = .OCTET from mode] at fresh
        exact fresh
      · rw [Server.Session.send_storage, sameFiles]
        rfl

/-! ## The end of an upload -/

/-- The client hears the ACK of its last block and returns. -/
theorem ClientWaits.returns
    {client : TftpClient} {sending : Client.Sending}
    (waiting : ClientWaits size content count client sending)
    (short : (chunk size content count).length < size)
    {server : Handler} {reciever : Address}
    (onWire : (reciever, (ackOf (count + 1)).makeRaw) ∈ server.sent) :
    ∃ reached, Step ⟨client, server⟩ reached ∧
      reached.second = server ∧
        reached.first.control = .ended .returned := by
  let upload : Pair := ⟨client, server⟩
  refine
    ⟨upload.clientHears (ackOf (count + 1)).makeRaw, ?_, rfl,
      waiting.finish short⟩
  exact Pair.step_clientHears ⟨reciever, onWire⟩

end IsaTftp.Upload
