import IsaTftp.Conversation
import IsaTftp.Download.Requested

/-!
# Downloads in lockstep

When nothing is lost, the handler has sent one block more than the client has
accepted, and every turn brings one block to the client.  The lemmas here say
what each party does in this case.
-/

namespace IsaTftp.Download

open IsaTftp.Wire
open IsaTftp.Files
open IsaTftp.Transfer
open IsaTftp.Client
open IsaTftp.Server
open IsaTftp.Library.Chunking
open IsaTftp.Upload (deliver blockAfter ackOf recievePacketFrom_deliver
  classifyAck_makeRaw)

variable {size count retries : Nat} {content : Bytes} {path : Path}
variable {address : Address}

/-! ## The handler -/

/-- A file which is there can be read on, if the disk does its work. -/
theorem exists_readFile
    {reader : Reader} {storage : Storage}
    (behind : reader.Behind storage.files size content count) :
    ∃ next stored,
      reader.readFile storage {} size =
          (.ok (chunk size content count, next), stored) ∧
        (¬ (chunk size content count).length < size →
          next.Behind stored.files size content (count + 1)) := by
  let closed : Storage := ⟨storage.files, []⟩
  have sameFiles : storage.files = closed.files := rfl
  obtain ⟨data, next, _, read⟩ := behind.exists_readFile
  have sameRead := Reader.readFile_of_files sameFiles reader {} size
  rw [read] at sameRead
  have read :
      reader.readFile storage {} size =
        (.ok (data, next), (reader.readFile storage {} size).2) :=
    Prod.ext sameRead rfl
  obtain ⟨rfl, _, onward⟩ := behind.readFile read
  exact ⟨next, _, read, onward⟩

/-- The handler waits for the ACK of the block after `count` blocks. -/
structure HandlerSends (size : Nat) (content : Bytes)
    (count retries : Nat) (handler : Handler)
    (sending : Server.Sending) : Prop where
  waits : handler.control = .awaitAck sending retries 0
  sameSize : handler.session.blksize = size
  number : sending.blockNumber = count + 1
  last : sending.lastPacketSent =
    decide ((chunk size content count).length < size)
  more : sending.lastPacketSent = false →
    sending.reader.Behind handler.session.storage.files size content
      (count + 1)

/-- A handler has just sent the block after `count` blocks. -/
structure Sends (size : Nat) (content : Bytes) (count : Nat)
    (clientAddress : Address) (before : List Datagram)
    (handler : Handler) : Prop where
  waits : ∃ sending,
    HandlerSends size content count 0 handler sending
  sent : handler.sent =
    before ++ [(clientAddress, (blockAfter size content count).makeRaw)]
  peer : handler.session.clientAddress = clientAddress

theorem Sends.newest
    {before : List Datagram} {handler : Handler}
    (sends : Sends size content count address before handler) :
    newest handler.sent =
      some (blockAfter size content count).makeRaw := by
  rw [sends.sent]
  exact newest_append _ _

/-- Reading a block and sending it. -/
theorem Sends.sendBlock
    (session : Server.Session) {reader : Reader}
    (sameSize : session.blksize = size)
    (behind : reader.Behind session.storage.files size content count) :
    Sends size content count session.clientAddress session.udp.sent
      (session.sendBlock {} reader (count + 1)) := by
  obtain ⟨next, stored, read, onward⟩ := exists_readFile behind
  let packet := blockAfter size content count
  let sending : Server.Sending :=
    { reader := next
      blockNumber := count + 1
      data := chunk size content count
      lastPacketSent := decide ((chunk size content count).length < size) }
  have result :
      session.sendBlock {} reader (count + 1) =
        ⟨(session.withStorage stored).send packet.makeRaw,
          .awaitAck sending 0 0⟩ := by
    unfold Server.Session.sendBlock
    rw [sameSize, read]
    rfl
  rw [result]
  constructor
  · refine ⟨sending, ?_⟩
    constructor
    · rfl
    · exact sameSize
    · rfl
    · rfl
    · intro full
      exact onward (of_decide_eq_false full)
  · rfl
  · rfl

/-- The handler hears the ACK of its block. -/
theorem HandlerSends.hear
    {handler : Handler} {sending : Server.Sending}
    (sends : HandlerSends size content count retries handler sending)
    (few : count + 1 < 65536) :
    handler.step
        (deliver handler.session.clientAddress
          (ackOf (count + 1)).makeRaw) =
      handler.session.afterAck {} sending := by
  have heard :
      recievePacketFrom handler.session.clientAddress handler.session.udp 0
          (deliver handler.session.clientAddress
            (ackOf (count + 1)).makeRaw).reception =
        (handler.session.udp, .delivered (ackOf (count + 1)).makeRaw) :=
    recievePacketFrom_deliver _ _ (by simp [UdpClient.maxPacketSize])
  have number : (ackOf (count + 1)).blockNumber.toNat = count + 1 :=
    UInt16.toNat_ofNat_of_lt few
  have received :
      classifyAck (text "Client") sending.blockNumber
          (ackOf (count + 1)).makeRaw = .ok .received := by
    have reply :=
      classifyAck_makeRaw (text "Client") (ackOf (count + 1))
    rw [sends.number]
    rwa [number] at reply
  simp only [Handler.step, sends.waits, Server.Session.stepAwaitAck,
    Server.Session.recievePacketFromClient, heard, received]
  rfl

/-- After the ACK of a full block the handler sends the next one. -/
theorem HandlerSends.next
    {handler : Handler} {sending : Server.Sending}
    (sends : HandlerSends size content count retries handler sending)
    (few : count + 1 < 65536)
    (full : ¬ (chunk size content count).length < size) :
    Sends size content (count + 1) handler.session.clientAddress
      handler.sent
      (handler.step
        (deliver handler.session.clientAddress
          (ackOf (count + 1)).makeRaw)) := by
  have more : sending.lastPacketSent = false := by
    rw [sends.last]
    exact decide_eq_false full
  rw [sends.hear few]
  simp only [Server.Session.afterAck, more, Bool.false_eq_true, if_false,
    sends.number]
  apply Sends.sendBlock handler.session.timeoutReset
  · exact sends.sameSize
  · exact sends.more more

/-- After the ACK of the last block the handler returns. -/
theorem HandlerSends.finish
    {handler : Handler} {sending : Server.Sending}
    (sends : HandlerSends size content count retries handler sending)
    (few : count + 1 < 65536)
    (short : (chunk size content count).length < size) :
    (handler.step
        (deliver handler.session.clientAddress
          (ackOf (count + 1)).makeRaw)).control = .ended .returned := by
  have last : sending.lastPacketSent = true := by
    rw [sends.last]
    exact decide_eq_true short
  rw [sends.hear few]
  simp only [Server.Session.afterAck, last, if_true]

/-! ## The client -/

/-- The client has accepted `count` blocks and waits for the next one. -/
structure ClientWaits (size : Nat) (content : Bytes) (path : Path)
    (address : Address) (count retries : Nat) (client : TftpClient)
    (writer : Writer) : Prop where
  waits :
    (count = 0 ∧ client.session.serverAddress.ip = address.ip ∧
        client.control = .awaitRrqReply writer retries) ∨
      (client.session.serverAddress = address ∧
        client.control =
          .awaitData writer (UInt16.ofNat count) retries 0)
  opens : writer.file ≠ none ∨
    client.session.storage.files.lookup path ≠ some .directory
  sameSize : client.session.blksize.toNat = size
  samePath : writer.filepath = path
  stores :
    writer.Stores client.session.storage.files
      (firstChunks size content count)

/-- It waits in the loop for the DATA packets. -/
structure Listens (size : Nat) (content : Bytes) (path : Path)
    (address : Address) (count retries : Nat) (client : TftpClient)
    (writer : Writer) : Prop extends
    ClientWaits size content path address count retries client
      writer where
  server : client.session.serverAddress = address
  listens : client.control =
    .awaitData writer (UInt16.ofNat count) retries 0

/-- What the client does with the next block, wherever it comes. -/
structure Accepts (size : Nat) (content : Bytes) (path : Path)
    (address : Address) (count : Nat) (before : List Datagram)
    (client : TftpClient) : Prop where
  more : ¬ (chunk size content count).length < size →
    ∃ writer,
      Listens size content path address (count + 1) 0 client writer
  ends : (chunk size content count).length < size →
    client.control = .ended .returned ∧
      client.session.storage.files.content path =
        some (firstChunks size content (count + 1))
  sent : client.sent =
    before ++ [(address, (ackOf (count + 1)).makeRaw)]

theorem Accepts.newest
    {before : List Datagram} {client : TftpClient}
    (accepts : Accepts size content path address count before client) :
    newest client.sent = some (ackOf (count + 1)).makeRaw := by
  rw [accepts.sent]
  exact newest_append _ _

/-- The write of the next block succeeds, if the file can be opened. -/
theorem exists_writeFile
    {writer : Writer} {storage : Storage} (samePath : writer.filepath = path)
    (opens : writer.file ≠ none ∨
      storage.files.lookup path ≠ some .directory)
    (stores :
      writer.Stores storage.files (firstChunks size content count)) :
    ∃ next stored,
      writer.writeFile storage {} (chunk size content count) =
          (.done, next, stored) ∧
        next.Stores stored.files (firstChunks size content (count + 1)) ∧
          next.file ≠ none ∧ next.filepath = path := by
  have diskAccepts : ({} : HostChoice).writeFails = none := rfl
  rcases stores.writeFile diskAccepts (chunk size content count) with
    ⟨closed, refused, _⟩ | ⟨next, stored, done, storesNow, isOpen, same, _⟩
  · rw [samePath] at refused
    rcases opens with isOpen | allowed
    · exact absurd closed isOpen
    · rcases refused with fails | directory
      · cases fails
      · exact absurd directory allowed
  · refine ⟨next, stored, done, ?_, isOpen, same.trans samePath⟩
    rw [firstChunks_succ]
    exact storesNow

/-- Behind a block the client acknowledges it, and waits or returns. -/
theorem Accepts.afterData
    (session : Client.Session) {writer : Writer}
    (sameServer : session.serverAddress = address)
    (sameSize : session.blksize.toNat = size)
    (isOpen : writer.file ≠ none) (samePath : writer.filepath = path)
    (stores :
      writer.Stores session.storage.files
        (firstChunks size content (count + 1)))
    {event : Event} (quiet : event.sigintFrom = none) :
    Accepts size content path address count session.udp.sent
      (session.afterData writer (UInt16.ofNat (count + 1))
        (decide ((chunk size content count).length < size)) event) := by
  have unseen : ∀ check, event.sigintAt check = false := by
    intro check
    simp [Event.sigintAt, quiet]
  by_cases short : (chunk size content count).length < size
  · have result :
        session.afterData writer (UInt16.ofNat (count + 1))
            (decide ((chunk size content count).length < size)) event =
          ⟨session.send (ackOf (count + 1)).makeRaw,
            .ended .returned⟩ := by
      simp only [Client.Session.afterData, short, decide_true, if_true,
        Client.Session.finishRead, Client.Session.checkForSigintRRQ,
        unseen, Bool.false_eq_true, if_false]
      rw [Client.Session.send_storage, stores.close event.host]
      rfl
    rw [result]
    constructor
    · intro full
      exact absurd short full
    · intro _
      refine ⟨rfl, ?_⟩
      rw [← samePath]
      exact stores.content isOpen
    · rw [← sameServer]
      rfl
  · have result :
        session.afterData writer (UInt16.ofNat (count + 1))
            (decide ((chunk size content count).length < size)) event =
          ⟨session.send (ackOf (count + 1)).makeRaw,
            .awaitData writer (UInt16.ofNat (count + 1)) 0 0⟩ := by
      simp only [Client.Session.afterData, short, decide_false,
        Bool.false_eq_true, if_false, Client.Session.awaitDataAgain,
        maxRetries, Nat.zero_lt_succ, if_true,
        Client.Session.checkForSigintRRQ, unseen]
      rfl
    rw [result]
    constructor
    · intro _
      exact
        ⟨writer,
          { waits := Or.inr ⟨sameServer, rfl⟩
            opens := Or.inl isOpen
            sameSize := sameSize
            samePath := samePath
            stores := stores
            server := sameServer
            listens := rfl }⟩
    · intro short
      contradiction
    · rw [← sameServer]
      rfl

/-- A block which is received in the loop for the DATA packets. -/
theorem ClientWaits.hearLater
    {client : TftpClient} {writer : Writer}
    (waiting :
      ClientWaits size content path address count retries client writer)
    (sameServer : client.session.serverAddress = address)
    (waits : client.control =
      .awaitData writer (UInt16.ofNat count) retries 0)
    (fitsBuffer : size + 4 ≤ UdpClient.maxPacketSize)
    (few : count + 1 < 65536) :
    Accepts size content path address count client.sent
      (client.step
        (deliver address (blockAfter size content count).makeRaw)) := by
  obtain ⟨session, control⟩ := client
  obtain rfl : control = _ := waits
  obtain rfl : session.serverAddress = address := sameServer
  obtain rfl : session.blksize.toNat = size := waiting.sameSize
  let packet := blockAfter session.blksize.toNat content count
  let event := deliver session.serverAddress packet.makeRaw
  have bound : packet.data.length ≤ session.blksize.toNat :=
    length_chunk_le session.blksize.toNat content count
  have fits : packet.makeRaw.length ≤ UdpClient.maxPacketSize := by
    rw [DataPacket.length_makeRaw]
    omega
  have before : (UInt16.ofNat count).toNat = count :=
    UInt16.toNat_ofNat_of_lt (Nat.lt_of_succ_lt few)
  have number : packet.blockNumber.toNat = count + 1 :=
    UInt16.toNat_ofNat_of_lt few
  have heard :
      recievePacketFrom session.serverAddress session.udp 0
          event.reception =
        (session.udp, .delivered packet.makeRaw) :=
    recievePacketFrom_deliver _ _ fits
  have accepted :
      classifyData (text "Server") (count + 1) (count + 1)
          session.blksize.toNat packet.makeRaw =
        .ok (.accepted packet.data) := by
    have reply :=
      classifyData_makeRaw (text "Server") (count + 1) packet bound
    rwa [number] at reply
  obtain ⟨next, stored, done, stores, isOpen, samePath⟩ :=
    exists_writeFile waiting.samePath waiting.opens waiting.stores
  have result :
      TftpClient.step
          ⟨session, .awaitData writer (UInt16.ofNat count) retries 0⟩
          event =
        (session.withStorage stored).timeoutReset.afterData next
          (UInt16.ofNat count + 1)
          (decide (packet.data.length < session.blksize.toNat)) event := by
    have written :
        writer.writeFile session.storage event.host packet.data =
          (.done, next, stored) :=
      done
    simp only [TftpClient.step, Client.Session.stepAwaitData,
      Client.Session.recievePacketFromServer, heard, before, accepted,
      Client.Session.storeBlock, written]
    rfl
  have counted : UInt16.ofNat count + 1 = UInt16.ofNat (count + 1) := by
    simp
  rw [result, counted]
  apply Accepts.afterData (session.withStorage stored).timeoutReset
  · rfl
  · rfl
  · exact isOpen
  · exact samePath
  · exact stores
  · rfl

/-- Between the two loops, when no signal comes. -/
theorem afterRrqReply_of_quiet
    {session : Client.Session} {event : Event} {blksize : UInt16}
    (quiet : event.sigintFrom = none)
    (scanned :
      Client.Session.scanBlksize session.blksize session.args.options =
        .ok blksize)
    (writer : Writer) (blockNumber : UInt16) (last : Bool) :
    session.afterRrqReply writer blockNumber last event =
      Client.Session.afterData
        { session.timeoutReset with blksize := blksize } writer blockNumber
        last event := by
  have unseen : ∀ check, event.sigintAt check = false := by
    intro check
    simp [Event.sigintAt, quiet]
  simp only [Client.Session.afterRrqReply, Client.Session.checkForSigintRRQ,
    unseen, Bool.false_eq_true, if_false, Client.Session.timeoutReset_blksize,
    Client.Session.timeoutReset_args, scanned]

/-- The first block, received in the loop which sends the request. -/
theorem ClientWaits.hearFirst
    {client : TftpClient} {writer : Writer}
    (waiting :
      ClientWaits size content path address 0 retries client writer)
    (sameHost : client.session.serverAddress.ip = address.ip)
    (waits : client.control = .awaitRrqReply writer retries)
    (fitsBuffer : size + 4 ≤ UdpClient.maxPacketSize) :
    Accepts size content path address 0 client.sent
      (client.step
        (deliver address (blockAfter size content 0).makeRaw)) := by
  obtain ⟨session, control⟩ := client
  obtain rfl : control = _ := waits
  obtain rfl : session.blksize.toNat = size := waiting.sameSize
  let packet := blockAfter session.blksize.toNat content 0
  let event := deliver address packet.makeRaw
  have bound : packet.data.length ≤ session.blksize.toNat :=
    length_chunk_le session.blksize.toNat content 0
  have fits : packet.makeRaw.length ≤ UdpClient.maxPacketSize := by
    rw [DataPacket.length_makeRaw]
    omega
  have number : packet.blockNumber.toNat = 1 := rfl
  have adopted : (session.adoptPort address).serverAddress = address := by
    simp only [Client.Session.adoptPort]
    rw [show session.serverAddress.ip = address.ip from sameHost]
  have first :
      (session.adoptPort address).classifyRrqReply packet.makeRaw =
        .ok (.firstBlock packet.data) := by
    simp [Client.Session.classifyRrqReply,
      DataPacket.ofRaw_makeRaw packet bound, number, bind, Except.bind,
      pure, Except.pure]
  obtain ⟨next, stored, done, stores, isOpen, samePath⟩ :=
    exists_writeFile waiting.samePath waiting.opens waiting.stores
  have setUp :
      ((session.adoptPort address).withOptions []).setupUdpClient =
        .ok ((session.adoptPort address).withOptions []) :=
    rfl
  have written :
      writer.writeFile ((session.adoptPort address).withOptions []).storage
          {} packet.data =
        (.done, next, stored) :=
    done
  have result :
      TftpClient.step ⟨session, .awaitRrqReply writer retries⟩ event =
        (((session.adoptPort address).withOptions []).withStorage
            stored).timeoutReset.afterData next 1
          (decide (packet.data.length < session.blksize.toNat)) event := by
    simp only [TftpClient.step, Client.Session.stepAwaitRrqReply, event,
      deliver, receive, List.take_of_length_le fits, first,
      Client.Session.acceptFirstBlock, setUp, Client.Session.storeBlock,
      written]
    exact afterRrqReply_of_quiet rfl rfl next 1 _
  rw [result]
  apply Accepts.afterData
    (((session.adoptPort address).withOptions []).withStorage
      stored).timeoutReset
  · exact adopted
  · rfl
  · exact isOpen
  · exact samePath
  · exact stores
  · rfl

/-- The client hears the next block. -/
theorem ClientWaits.hear
    {client : TftpClient} {writer : Writer}
    (waiting :
      ClientWaits size content path address count retries client writer)
    (fitsBuffer : size + 4 ≤ UdpClient.maxPacketSize)
    (few : count + 1 < 65536) :
    Accepts size content path address count client.sent
      (client.step
        (deliver address (blockAfter size content count).makeRaw)) := by
  rcases waiting.waits with ⟨first, sameHost, waits⟩ | ⟨sameServer, waits⟩
  · subst first
    exact waiting.hearFirst sameHost waits fitsBuffer
  · exact waiting.hearLater sameServer waits fitsBuffer few

/-! ## The OACK -/

/-- There is space for the file, if the options tell its size. -/
theorem checkSpace_eq_ok
    {session : Client.Session} {options : List TftpOption}
    (space : ∀ option ∈ options, option.name = .TSIZE →
      ∃ tsize, stoull option.value = .ok tsize ∧
        session.storage.hasEnoughSpace session.args.destFilepath tsize) :
    session.checkSpace options = .ok () := by
  induction options with
  | nil => rfl
  | cons option options induction =>
      have rest : session.checkSpace options = .ok () := by
        apply induction
        intro later member
        exact space later (List.mem_cons_of_mem _ member)
      rw [Client.Session.checkSpace]
      split_ifs with name
      · obtain ⟨tsize, converted, enough⟩ :=
          space option List.mem_cons_self name
        simp only [converted, enough, if_true]
        exact rest
      · exact rest

/-- The OACK which the client can accept. -/
structure Agreeable (size : Nat) (options : List TftpOption)
    (session : Client.Session) (raw : Bytes) : Prop where
  fits : raw.length ≤ UdpClient.maxPacketSize
  opcode : getOpcodeFromRaw raw = .ok .OACK
  decoded : OackPacket.ofRaw raw = .ok ⟨options⟩
  checks : session.checkOack ⟨options⟩ = .ok ()
  space : (session.withOptions options).checkSpace options = .ok ()
  agree : OptionsAgree size options

/-- The client takes over the options and acknowledges them. -/
theorem Agreeable.acceptOack
    {session : Client.Session} {options : List TftpOption} {raw : Bytes}
    (agreeable : Agreeable size options session raw)
    (sameSize : session.blksize.toNat = size) (writer : Writer)
    {event : Event} (quiet : event.sigintFrom = none) :
    ∃ agreed : Client.Session,
      session.acceptOack writer event options =
          ⟨agreed.send (ackOf 0).makeRaw, .awaitData writer 0 0 0⟩ ∧
        agreed.serverAddress = session.serverAddress ∧
          agreed.blksize.toNat = size ∧
            agreed.storage = session.storage ∧
              agreed.udp.sent = session.udp.sent := by
  have unseen : ∀ check, event.sigintAt check = false := by
    intro check
    simp [Event.sigintAt, quiet]
  obtain ⟨next, setUp, setsUp⟩ :=
    setupUdpClient_setsUp (session.withOptions options)
  have nextSize : next.blksize.toNat = size := by
    rw [setsUp.blksize]
    show lastNumber .BLKSIZE session.blksize.toNat options = size
    rw [sameSize]
    exact lastNumber_of_agree agreeable.agree
  have nextOptions : next.args.options = options := by
    rw [setsUp.args]
    rfl
  obtain ⟨blksize, scanned, value⟩ :=
    scanBlksize_eq next.args.options next.blksize
  refine
    ⟨{ next.timeoutReset with blksize := blksize }, ?_,
      setsUp.serverAddress, ?_, setsUp.storage, setsUp.sent⟩
  · simp only [Client.Session.acceptOack, agreeable.space, setUp]
    rw [afterRrqReply_of_quiet quiet scanned]
    simp only [Client.Session.afterData, Bool.false_eq_true, if_false,
      Client.Session.awaitDataAgain, maxRetries, Nat.zero_lt_succ, if_true,
      Client.Session.checkForSigintRRQ, unseen]
    rfl
  · show blksize.toNat = size
    rw [value, nextSize, nextOptions]
    exact lastNumber_of_agree agreeable.agree

/-- The client hears the OACK and acknowledges it. -/
theorem ClientWaits.hearOack
    {client : TftpClient} {writer : Writer}
    {options : List TftpOption} {raw : Bytes}
    (waiting :
      ClientWaits size content path address 0 retries client writer)
    (sameHost : client.session.serverAddress.ip = address.ip)
    (waits : client.control = .awaitRrqReply writer retries)
    (agreeable :
      Agreeable size options (client.session.adoptPort address) raw) :
    let reached := client.step (deliver address raw)
    Listens size content path address 0 0 reached writer ∧
      reached.sent = client.sent ++ [(address, (ackOf 0).makeRaw)] := by
  obtain ⟨session, control⟩ := client
  obtain rfl : control = _ := waits
  have server : (session.adoptPort address).serverAddress = address := by
    simp only [Client.Session.adoptPort]
    rw [show session.serverAddress.ip = address.ip from sameHost]
  have answered :
      (session.adoptPort address).classifyRrqReply raw =
        .ok (.oack options) := by
    have checks :
        (session.adoptPort address).checkOack ⟨options⟩ = .ok () :=
      agreeable.checks
    simp [Client.Session.classifyRrqReply, agreeable.opcode,
      agreeable.decoded, checks, bind, Except.bind, pure, Except.pure]
  obtain ⟨agreed, accepted, sameServer, sameSize, sameStorage, sameSent⟩ :=
    agreeable.acceptOack waiting.sameSize writer
      (show (deliver address raw).sigintFrom = none from rfl)
  intro reached
  have reaches :
      reached =
        ⟨agreed.send (ackOf 0).makeRaw, .awaitData writer 0 0 0⟩ := by
    rw [← accepted]
    simp only [reached, TftpClient.step,
      Client.Session.stepAwaitRrqReply, deliver, receive,
      List.take_of_length_le agreeable.fits, answered]
  have sameStorage : agreed.storage = session.storage := sameStorage
  have sameSent : agreed.udp.sent = session.udp.sent := sameSent
  have there : agreed.serverAddress = address := sameServer.trans server
  rw [reaches]
  have stores :
      writer.Stores (agreed.send (ackOf 0).makeRaw).storage.files
        (firstChunks size content 0) := by
    rw [Client.Session.send_storage, sameStorage]
    exact waiting.stores
  have opens : writer.file ≠ none ∨
      (agreed.send (ackOf 0).makeRaw).storage.files.lookup path ≠
        some .directory := by
    rw [Client.Session.send_storage, sameStorage]
    exact waiting.opens
  constructor
  · exact
      { waits := Or.inr ⟨there, rfl⟩
        opens := opens
        sameSize := sameSize
        samePath := waiting.samePath
        stores := stores
        server := there
        listens := rfl }
  · rw [← there]
    show agreed.udp.sent ++ _ = session.udp.sent ++ _
    rw [sameSent]

/-- The handler hears ACK 0 and sends the first block. -/
theorem hearOackAck
    {handler : Handler} {reader : Reader}
    (waits : handler.control = .awaitOackAck reader retries 0)
    (sameSize : handler.session.blksize = size)
    (behind :
      reader.Behind handler.session.storage.files size content 0) :
    Sends size content 0 handler.session.clientAddress handler.sent
      (handler.step
        (deliver handler.session.clientAddress (ackOf 0).makeRaw)) := by
  have heard :
      recievePacketFrom handler.session.clientAddress handler.session.udp 0
          (deliver handler.session.clientAddress
            (ackOf 0).makeRaw).reception =
        (handler.session.udp, .delivered (ackOf 0).makeRaw) :=
    recievePacketFrom_deliver _ _ (by simp [UdpClient.maxPacketSize])
  have acknowledged :
      Server.Session.classifyOackReply (ackOf 0).makeRaw =
        .ok .acknowledged := by
    decide
  simp only [Handler.step, waits, Server.Session.stepAwaitOackAck,
    Server.Session.recievePacketFromClient, heard, acknowledged]
  apply Sends.sendBlock (handler.session.timeoutReset)
  · exact sameSize
  · exact behind

/-! ## Lockstep -/

/-- The handler has sent one block more than the client has accepted. -/
structure Lockstep (size : Nat) (content : Bytes) (path : Path)
    (address : Address) (count : Nat) (conversation : Conversation) :
    Prop where
  client : ∃ writer,
    ClientWaits size content path address count 0 conversation.client
      writer
  handler : ∃ peer before,
    Sends size content count peer before conversation.handler

/-- Both parties are done, and the client has the whole file. -/
structure Done (path : Path) (content : Bytes)
    (conversation : Conversation) : Prop where
  client : conversation.client.control = .ended .returned
  handler : conversation.handler.control = .ended .returned
  stored :
    conversation.client.session.storage.files.content path = some content

variable {conversation : Conversation}

/-- What a turn makes of the two parties. -/
theorem Lockstep.turn
    {client : TftpClient} {peer : Address} {before : List Datagram}
    (sends : Sends size content count peer before conversation.handler)
    (heard : client = conversation.client.step
      (deliver address (blockAfter size content count).makeRaw))
    (sent : newest client.sent = some (ackOf (count + 1)).makeRaw) :
    conversation.turn address =
      ⟨client,
        conversation.handler.step
          (deliver conversation.handler.session.clientAddress
            (ackOf (count + 1)).makeRaw)⟩ := by
  simp only [Conversation.turn, hear_of_newest sends.newest, ← heard,
    hear_of_newest sent]

/-- A turn brings one full block. -/
theorem Lockstep.next
    (lockstep : Lockstep size content path address count conversation)
    (fitsBuffer : size + 4 ≤ UdpClient.maxPacketSize)
    (few : count + 1 < 65536)
    (full : ¬ (chunk size content count).length < size) :
    Lockstep size content path address (count + 1)
      (conversation.turn address) := by
  obtain ⟨writer, waiting⟩ := lockstep.client
  obtain ⟨peer, before, sends⟩ := lockstep.handler
  have accepts := waiting.hear fitsBuffer few
  rw [Lockstep.turn sends rfl accepts.newest]
  obtain ⟨sending, waits⟩ := sends.waits
  obtain ⟨onward, listens⟩ := accepts.more full
  exact ⟨⟨onward, listens.toClientWaits⟩, _, _, waits.next few full⟩

/-- The last turn brings the short block. -/
theorem Lockstep.finish
    (lockstep : Lockstep size content path address count conversation)
    (positive : 0 < size)
    (fitsBuffer : size + 4 ≤ UdpClient.maxPacketSize)
    (few : count + 1 < 65536)
    (short : (chunk size content count).length < size) :
    Done path content (conversation.turn address) := by
  obtain ⟨writer, waiting⟩ := lockstep.client
  obtain ⟨peer, before, sends⟩ := lockstep.handler
  have accepts := waiting.hear fitsBuffer few
  obtain ⟨returned, stored⟩ := accepts.ends short
  rw [Lockstep.turn sends rfl accepts.newest]
  obtain ⟨sending, waits⟩ := sends.waits
  constructor
  · exact returned
  · exact waits.finish few short
  · have whole : chunkCount size content ≤ count + 1 :=
      (length_chunk_lt_iff positive content count).mp short
    rw [stored, firstChunks_of_chunkCount_le positive whole]

theorem ClientWaits.going
    {client : TftpClient} {writer : Writer}
    (waiting :
      ClientWaits size content path address count retries client writer)
    (outcome : Outcome) :
    client.control ≠ .ended outcome := by
  rcases waiting.waits with ⟨_, _, waits⟩ | ⟨_, waits⟩
  · simp [waits]
  · simp [waits]

/-- So many turns as there are blocks bring the whole file, and no fewer do. -/
theorem Lockstep.completes
    (lockstep : Lockstep size content path address 0 conversation)
    (positive : 0 < size)
    (fitsBuffer : size + 4 ≤ UdpClient.maxPacketSize)
    (few : chunkCount size content ≤ 65535) :
    Done path content
        ((Conversation.turn address)^[chunkCount size content]
          conversation) ∧
      ∀ earlier < chunkCount size content, ∀ outcome,
        ((Conversation.turn address)^[earlier]
            conversation).client.control ≠ .ended outcome := by
  have runs : ∀ count ≤ content.length / size,
      Lockstep size content path address count
        ((Conversation.turn address)^[count] conversation) := by
    intro count within
    refine Conversation.counts ?_ lockstep within
    intro before conversation below lockstep
    apply lockstep.next fitsBuffer
    · simp only [chunkCount] at few
      omega
    · exact full_of_lt positive below
  constructor
  · have short :
        (chunk size content (content.length / size)).length < size :=
      (length_chunk_lt_iff positive content _).mpr le_rfl
    rw [chunkCount, Function.iterate_succ_apply']
    apply (runs _ le_rfl).finish positive fitsBuffer
    · simp only [chunkCount] at few
      omega
    · exact short
  · intro earlier before outcome
    obtain ⟨writer, waiting⟩ :=
      (runs earlier (Nat.le_of_lt_succ before)).client
    exact waiting.going outcome

end IsaTftp.Download
