import IsaTftp.Client.Receiver
import IsaTftp.Server.Sender

/-!
# What a download stores

The server's `FollowOnRRQ` and the client's `Read` run against each other over
a network which may bring any datagram that was ever sent, at any time and any
number of times, or none.  At any time the client has written exactly the
first blocks of the server's file, in order.
-/

namespace IsaTftp.Download

open IsaTftp.Wire
open IsaTftp.Files
open IsaTftp.Transfer
open IsaTftp.Client
open IsaTftp.Server
open IsaTftp.Library.Chunking
open IsaTftp.Library.StopAndWait

/-- The handler which serves the download, and the client. -/
abbrev Pair := Link Handler TftpClient

/-- One of the two hears something, or nothing, and goes on. -/
abbrev Step : Pair → Pair → Prop :=
  Link.Step Handler.sent TftpClient.sent Handler.Step
    TftpClient.StepOnDisk

/-- The client enters `Read` in octet mode. -/
structure ClientStarted (size : Nat) (path : Path)
    (client : TftpClient) (session : Client.Session) (event : Event) :
    Prop where
  entered : client = session.read event
  octet : session.args.fileMode = .OCTET
  samePath : session.args.destFilepath = path
  sameSize : session.blksize.toNat = size
  nothingSent : session.udp.sent = []
  nothingWritten : session.storage.writtenBlocks = []

/--
The handler has followed on a RRQ in octet mode.  If it has sent an OACK which
names a block size, it is the one which both parties use.
-/
structure ServerStarted (size : Nat) (content : Bytes)
    (server : Handler) (session : Server.Session) (host : HostChoice)
    (introPacket : Bytes) (rrq : ReadWritePacket) : Prop where
  fresh : ∃ clientAddress rootDirpath files,
    session = Server.Session.make clientAddress rootDirpath files
  entered : server = session.followOnRRQ host introPacket
  parsed : ReadWritePacket.ofRaw introPacket = .ok rrq
  octet : rrq.mode = .OCTET
  found :
    session.storage.files.content (session.filePath rrq.filepath) =
      some content
  sameSize : server.session.blksize = size
  oacks : OackAgrees size server.sent

/-- A download whose parties use one block size. -/
structure Started (size : Nat) (content : Bytes) (path : Path)
    (download : Pair) : Prop where
  server : ∃ session host introPacket rrq,
    ServerStarted size content download.first session host introPacket
      rrq
  client : ∃ session event,
    ClientStarted size path download.second session event

variable {size : Nat} {content : Bytes} {path : Path}
variable {start download : Pair}

/-! ## Downloads run as exchanges do -/

/-- A session which has sent nothing is a sender which has sent nothing. -/
theorem sends_nothing
    (size : Nat) {session : Server.Session}
    (silent : session.udp.sent = []) :
    Sends size session ⟨0, 0, []⟩ where
  data := by simp [silent, dataOn]
  oacks := by simp [silent, OackAgrees]

/-- The answer to a request which has passed every check. -/
theorem answerRRQ_view
    {reached : Server.Session} {reader : Reader}
    (silent : reached.udp.sent = []) (sameSize : reached.blksize = size)
    (behind : reader.Behind reached.storage.files size content 0)
    {host : HostChoice} {asked negotiated : List TftpOption}
    (oacks : OackAgrees size
      (reached.answerRRQ host reader asked negotiated).sent) :
    SenderView size content
        (reached.answerRRQ host reader asked negotiated) ⟨0, 0, []⟩ ∨
      SenderView size content
        (reached.answerRRQ host reader asked negotiated)
        (sendOne size content 0 []) := by
  have nothing := sends_nothing size silent
  unfold Session.answerRRQ at oacks ⊢
  split_ifs at oacks ⊢ with some_
  · left
    cases encoded : OackPacket.makeRaw ⟨negotiated⟩ with
    | error exception =>
        exact SenderView.raise reached nothing exception
    | ok raw =>
        rw [encoded] at oacks
        refine ⟨⟨?_, oacks⟩, sameSize, behind, rfl, rfl⟩
        have noData :=
          dataOn_append_of_opcode (OackPacket.getOpcode_makeRaw encoded)
            (by decide) size reached.udp.sent reached.clientAddress
        exact (noData.trans nothing.data.symm).symm
  · exact SenderView.sendBlock reached sameSize behind nothing host

/-- The handler begins like a sender which may have sent its first block. -/
theorem ServerStarted.view
    {server : Handler} {session : Server.Session} {host : HostChoice}
    {introPacket : Bytes} {rrq : ReadWritePacket}
    (started :
      ServerStarted size content server session host introPacket rrq) :
    8 ≤ size ∧ size ≤ 65464 ∧
      (SenderView size content server ⟨0, 0, []⟩ ∨
        SenderView size content server (sendOne size content 0 [])) := by
  have oacks := started.oacks
  have sameSize := started.sameSize
  obtain ⟨clientAddress, rootDirpath, files, made⟩ := started.fresh
  have silent : session.udp.sent = [] := by
    rw [made]
    rfl
  have defaultSize : session.blksize = 512 := by
    rw [made]
    rfl
  have bounds : ∀ blksize, blksize = size →
      blksize = session.blksize ∨ 8 ≤ blksize ∧ blksize ≤ 65464 →
        8 ≤ size ∧ size ≤ 65464 := by
    omega
  rw [started.entered] at oacks sameSize ⊢
  rcases session.followOnRRQ_cases host introPacket with
    ⟨reached, exception, quiet, refused⟩ |
      ⟨rrq', reached, negotiated, parsed, _, _, opened, answers⟩
  · rw [refused] at sameSize ⊢
    obtain ⟨least, most⟩ := bounds _ sameSize quiet.blksize
    have nothing := sends_nothing size (quiet.sent.trans silent)
    exact
      ⟨least, most, Or.inl (SenderView.raise reached nothing exception)⟩
  · have same : rrq' = rrq := by
      have parses := started.parsed
      rw [parsed, Except.ok.injEq] at parses
      exact parses
    subst same
    have silentNow := opened.sent.trans silent
    have nothing := sends_nothing size silentNow
    rcases answers with ⟨exception, refused⟩ | diverged | answered
    · rw [refused] at sameSize ⊢
      obtain ⟨least, most⟩ := bounds _ sameSize opened.blksize
      exact
        ⟨least, most,
          Or.inl (SenderView.raise reached nothing exception)⟩
    · rw [diverged] at sameSize ⊢
      obtain ⟨least, most⟩ := bounds _ sameSize opened.blksize
      exact ⟨least, most, Or.inl ⟨nothing, trivial⟩⟩
    · rw [answered] at oacks sameSize ⊢
      rw [Session.blksize_answerRRQ] at sameSize
      obtain ⟨least, most⟩ := bounds _ sameSize opened.blksize
      have found :
          reached.storage.files.content (session.filePath rrq'.filepath) =
            some content := by
        rw [opened.storage.files]
        exact started.found
      rw [started.octet] at oacks ⊢
      exact
        ⟨least, most,
          answerRRQ_view silentNow sameSize (Reader.Behind.make found size)
            oacks⟩

/-- Every download runs as a stop-and-wait exchange of the file's blocks. -/
theorem refines
    (started : Started size content path start)
    (reachable : Relation.ReflTransGen Step start download) :
    0 < size ∧ ∃ initial exchange, Initial initial ∧
      Relation.ReflTransGen
          (Exchange.Step blockNumbers (blockOf size content)) initial
          exchange ∧
        SenderView size content download.first exchange.sender ∧
          ReceiverView size path download.second exchange.receiver := by
  obtain ⟨session, host, introPacket, rrq, server⟩ := started.server
  obtain ⟨clientSession, event, client⟩ := started.client
  obtain ⟨least, most, serverStart⟩ := server.view
  have fitsBuffer : size + 4 ≤ UdpClient.maxPacketSize := by
    simp only [UdpClient.maxPacketSize]
    omega
  have answers :=
    ReceiverView.start client.sameSize client.octet client.nothingWritten
      (by simp [client.nothingSent, acksOn]) event
  rw [← client.entered, client.samePath] at answers
  obtain ⟨numbers, zeros, receiverStart⟩ := answers
  let receiver : Receiver Bytes := ⟨[], [] ++ numbers⟩
  have initial :
      Initial (⟨⟨0, 0, []⟩, receiver⟩ : Exchange Bytes) :=
    ⟨rfl, rfl, rfl, rfl, zeros⟩
  have follows :
      ∀ sender : Sender Bytes,
        SenderView size content start.first sender →
          ∃ exchange,
            Relation.ReflTransGen
                (Exchange.Step blockNumbers (blockOf size content))
                ⟨sender, receiver⟩ exchange ∧
              SenderView size content download.first exchange.sender ∧
                ReceiverView size path download.second
                  exchange.receiver :=
    fun sender view =>
      Link.refines (implementsSender size content)
        (implementsReceiver fitsBuffer path) view receiverStart reachable
  refine ⟨by omega, ?_⟩
  rcases serverStart with silent | sent
  · obtain ⟨exchange, steps, views⟩ := follows _ silent
    exact ⟨_, exchange, initial, steps, views⟩
  · obtain ⟨exchange, steps, views⟩ := follows _ sent
    have first :
        Exchange.Step blockNumbers (blockOf size content)
          ⟨⟨0, 0, []⟩, receiver⟩ ⟨sendOne size content 0 [], receiver⟩ :=
      .sender none (by simp) (.send ⟨0, 0, []⟩ rfl)
    exact ⟨_, exchange, initial, steps.head first, views⟩

/-! ## A small download -/

/-- A server which has the file `f`. -/
def smallServer (content : Bytes) : Server.Session :=
  Server.Session.make ⟨2, 1024⟩ (text "r") (smallDisk (some content))

/-- A client which is about to ask for the file in blocks of eight bytes. -/
def smallClient : Client.Session where
  args := ⟨text "f", text "r/f", .READ, .OCTET, [optionOfEight]⟩
  serverAddress := ⟨1, 69⟩
  blksize := 8
  timeout := 1
  udp := UdpClient.make
  stdin := ⟨[], false⟩
  storage := ⟨smallDisk none, []⟩

/-- The handler and the client before the client has heard anything. -/
def smallDownload : Pair :=
  ⟨(smallServer (text "hello world")).followOnRRQ {} (requestOfEight .RRQ),
    smallClient.read {}⟩

/-- The OACK with which the handler has answered. -/
def smallOack : Bytes :=
  [0, 6] ++ text "blksize" ++ [0] ++ text "8" ++ [0]

theorem smallDownload_oacks : OackAgrees 8 smallDownload.first.sent := by
  have sent : smallDownload.first.sent = [(⟨2, 1024⟩, smallOack)] := by
    decide
  have read :
      OackPacket.ofRaw (smallOack.take UdpClient.maxPacketSize) =
        .ok ⟨[optionOfEight]⟩ := by
    decide
  rw [sent]
  intro datagram member oack parsed option listed _
  obtain rfl := List.mem_singleton.mp member
  obtain rfl := Except.ok.inj (read.symm.trans parsed)
  obtain rfl := List.mem_singleton.mp listed
  decide

theorem smallDownload_started :
    Started 8 (text "hello world") (text "r/f") smallDownload where
  server :=
    ⟨smallServer (text "hello world"), {}, requestOfEight .RRQ,
      ⟨.RRQ, text "f", .OCTET, [optionOfEight]⟩,
      { fresh := ⟨_, _, _, rfl⟩
        entered := rfl
        parsed := by decide
        octet := rfl
        found := by decide
        sameSize := by decide
        oacks := smallDownload_oacks }⟩
  client :=
    ⟨smallClient, {},
      { entered := rfl
        octet := rfl
        samePath := rfl
        sameSize := rfl
        nothingSent := rfl
        nothingWritten := rfl }⟩

/-! ## Safety -/

/-- When the client has returned, its file is the file of the server. -/
theorem stored_of_returned
    (positive : 0 < size) {exchange : Exchange Bytes}
    (coherent : Coherent blockNumbers (blockOf size content) exchange)
    (view : ReceiverView size path download.second exchange.receiver)
    (returned : download.second.control = .ended .returned) :
    download.second.session.storage.files.content path =
      some content := by
  have knows := view.control
  unfold ReceivingAgrees at knows
  rw [returned] at knows
  obtain ⟨stored, block, last, short⟩ := knows
  rw [stored, accepted_flatten coherent,
    firstChunks_of_chunkCount_le positive
      (chunkCount_le_of_short positive coherent last short)]

/--
Download safety.  Whatever the network does, as long as every write to the disk
of the client succeeds, the client has written exactly the first blocks of the
server's file, as many as it has accepted; while it receives, its counter is
their number and its file holds just these bytes; and when it returns, its file
is that of the server.
-/
theorem downloaded_in_order
    (started : Started size content path start)
    (reachable : Relation.ReflTransGen Step start download) :
    download.second.session.storage.writtenBlocks.flatten =
        firstChunks size content
          download.second.session.storage.writtenBlocks.length ∧
      (∀ writer blockNumber retries foreign,
        download.second.control =
            .awaitData writer blockNumber retries foreign →
          blockNumber.toNat =
              download.second.session.storage.writtenBlocks.length ∧
            (0 < blockNumber.toNat →
              download.second.session.storage.files.content path =
                some (firstChunks size content blockNumber.toNat))) ∧
        (download.second.control = .ended .returned →
          download.second.session.storage.files.content path =
            some content) := by
  obtain ⟨positive, initial, exchange, initially, steps, _, view⟩ :=
    refines started reachable
  have coherent := Coherent.of_reachable (by decide) initially steps
  have blocks := view.session.accepted
  refine ⟨?_, ?_, stored_of_returned positive coherent view⟩
  · rw [← blocks]
    exact accepted_flatten coherent
  · intro writer blockNumber retries foreign waits
    have knows := view.control
    unfold ReceivingAgrees at knows
    rw [waits] at knows
    obtain ⟨receiving, count⟩ := knows
    refine ⟨by rw [count, blocks], fun some_ => ?_⟩
    have isOpen := receiving.isOpen (by omega)
    have stored := receiving.stores.content isOpen
    rw [receiving.samePath, accepted_flatten coherent, ← count] at stored
    exact stored

/-- One more datagram of the handler arrives at the client. -/
def Pair.clientHears (download : Pair) (bytes : Bytes) : Pair :=
  { download with
    second :=
      download.second.step { reception := .datagram ⟨1, 2000⟩ bytes } }

/-- One more datagram of the client arrives at the handler. -/
def Pair.serverHears (download : Pair) (bytes : Bytes) : Pair :=
  { download with
    first :=
      download.first.step { reception := .datagram ⟨2, 1024⟩ bytes } }

theorem Pair.step_clientHears
    {download : Pair} {bytes : Bytes}
    (onWire : ∃ reciever, (reciever, bytes) ∈ download.first.sent) :
    Step download (download.clientHears bytes) :=
  .second ⟨{ reception := .datagram ⟨1, 2000⟩ bytes }, onWire, rfl, rfl⟩

theorem Pair.step_serverHears
    {download : Pair} {bytes : Bytes}
    (onWire : ∃ reciever, (reciever, bytes) ∈ download.second.sent) :
    Step download (download.serverHears bytes) :=
  .first ⟨{ reception := .datagram ⟨2, 1024⟩ bytes }, onWire, rfl⟩

/--
A download of two blocks.  The OACK arrives again after the first block, and
this block again before the second one.
-/
theorem downloaded_in_order_small :
    ∃ reached, Relation.ReflTransGen Step smallDownload reached ∧
      reached.second.session.storage.writtenBlocks =
          [text "hello wo", text "rld"] ∧
        reached.second.session.storage.files.content (text "r/f") =
          some (text "hello world") := by
  let block := DataPacket.makeRaw ⟨1, text "hello wo"⟩
  let last := DataPacket.makeRaw ⟨2, text "rld"⟩
  let asked := smallDownload.clientHears smallOack
  let sending := asked.serverHears (AckPacket.makeRaw ⟨0⟩)
  let stored := sending.clientHears block
  let repeated := stored.clientHears smallOack
  let ahead := repeated.serverHears (AckPacket.makeRaw ⟨1⟩)
  let again := ahead.clientHears block
  let reached := again.clientHears last
  have first : Step smallDownload asked :=
    Pair.step_clientHears ⟨⟨2, 1024⟩, by decide⟩
  have second : Step asked sending :=
    Pair.step_serverHears ⟨⟨1, 2000⟩, by decide⟩
  have third : Step sending stored :=
    Pair.step_clientHears ⟨⟨2, 1024⟩, by decide⟩
  have fourth : Step stored repeated :=
    Pair.step_clientHears ⟨⟨2, 1024⟩, by decide⟩
  have fifth : Step repeated ahead :=
    Pair.step_serverHears ⟨⟨1, 2000⟩, by decide⟩
  have sixth : Step ahead again :=
    Pair.step_clientHears ⟨⟨2, 1024⟩, by decide⟩
  have seventh : Step again reached :=
    Pair.step_clientHears ⟨⟨2, 1024⟩, by decide⟩
  have steps : Relation.ReflTransGen Step smallDownload reached :=
    .tail (.tail (.tail (.tail (.tail (.tail (.single first) second)
      third) fourth) fifth) sixth) seventh
  have returned : reached.second.control = .ended .returned := by
    decide
  exact
    ⟨reached, steps, by decide,
      (downloaded_in_order smallDownload_started steps).2.2 returned⟩

end IsaTftp.Download
