import IsaTftp.Client.Sender
import IsaTftp.Server.Receiver

/-!
# Uploads

The client's `SendData` and the server's `FollowOnWRQ` run against each other
over a network which may bring any datagram that was ever sent, at any time
and any number of times, or none.  Both have been shown to implement a party
of the stop-and-wait library, so an upload runs as an exchange of the library
does, and what the library proves about exchanges holds for the file.
-/

namespace IsaTftp.Upload

open IsaTftp.Wire
open IsaTftp.Files
open IsaTftp.Transfer
open IsaTftp.Client
open IsaTftp.Server
open IsaTftp.Library.Chunking
open IsaTftp.Library.StopAndWait

/-- The client and the handler which serves it. -/
abbrev Pair := Link TftpClient Handler

/-- One of the two hears something, or nothing, and goes on. -/
abbrev Step : Pair → Pair → Prop :=
  Link.Step TftpClient.sent Handler.sent TftpClient.Step
    Handler.StepOnDisk

/-- The client is about to enter `SendData`; it has only sent requests. -/
structure ClientReady (size : Nat) (stdin : Bytes)
    (session : Client.Session) (blksize : UInt16) : Prop where
  octet : session.args.fileMode = .OCTET
  input : session.stdin = ⟨stdin, false⟩
  scanned :
    Session.scanBlksize session.blksize session.args.options = .ok blksize
  sameSize : blksize.toNat = size
  requests : ∀ datagram ∈ session.udp.sent,
    getOpcodeFromRaw datagram.2 = .ok .WRQ

/-- The handler has answered a WRQ in octet mode with these options. -/
structure ServerStarted (size : Nat) (options : List TftpOption)
    (path : Path) (server : Handler) (session : Server.Session)
    (host : HostChoice) (introPacket : Bytes) (writer : Writer) :
    Prop where
  fresh : ∃ clientAddress rootDirpath files,
    session = Server.Session.make clientAddress rootDirpath files
  entered : server = session.followOnWRQ host introPacket
  waits : ∃ negotiated retries foreign,
    server.control =
      .awaitFirstData options negotiated writer retries foreign
  octet : writer.mode = .OCTET
  samePath : writer.filepath = path
  sameSize : server.session.blksize = size

/-- An upload right after the handshake, both parties using one block size. -/
structure Started (size : Nat) (stdin : Bytes)
    (options : List TftpOption) (path : Path) (upload : Pair) :
    Prop where
  client : ∃ session blksize event,
    ClientReady size stdin session blksize ∧
      upload.first = session.sendData event
  server : ∃ session host introPacket writer,
    ServerStarted size options path upload.second session host
      introPacket writer

variable {size : Nat} {stdin : Bytes} {options : List TftpOption}
variable {path : Path} {start upload : Pair}

/-! ## Uploads run as exchanges do -/

theorem ServerStarted.view
    {server : Handler} {session : Server.Session} {host : HostChoice}
    {introPacket : Bytes} {writer : Writer}
    (started :
      ServerStarted size options path server session host introPacket
        writer) :
    (∀ number ∈ acksOn server.sent, number = 0) ∧
      8 ≤ size ∧ size ≤ 65464 ∧
        ReceiverView size path (options = []) server
          ⟨[], acksOn server.sent⟩ := by
  obtain ⟨clientAddress, rootDirpath, files, rfl⟩ := started.fresh
  obtain ⟨negotiated, retries, foreign, waits⟩ := started.waits
  have view := ReceiverView.start started.entered waits started.octet
  rw [started.samePath, started.sameSize] at view
  exact view

/-- Every block size which a server can use fits into the buffers. -/
theorem ServerStarted.fitsBuffer
    {server : Handler} {session : Server.Session} {host : HostChoice}
    {introPacket : Bytes} {writer : Writer}
    (started :
      ServerStarted size options path server session host introPacket
        writer) :
    0 < size ∧ size + 4 ≤ UdpClient.maxPacketSize := by
  obtain ⟨_, least, most, _⟩ := started.view
  simp only [UdpClient.maxPacketSize]
  omega

theorem ClientReady.view
    {session : Client.Session} {blksize : UInt16}
    (ready : ClientReady size stdin session blksize)
    (positive : 0 < size) (event : Event) :
    SenderView size stdin (session.sendData event) ⟨0, 0, []⟩ ∨
      SenderView size stdin (session.sendData event)
        (sendOne size stdin 0 []) := by
  have noData : dataOn size session.udp.sent = [] := by
    apply List.filterMap_eq_nil_iff.mpr
    intro datagram member
    exact
      dataIn_of_opcode (ready.requests datagram member) (by decide) size
  exact
    SenderView.start positive ready.octet ready.input ready.sameSize
      ready.scanned noData event

/-- Every upload runs as a stop-and-wait exchange of the blocks of stdin. -/
theorem refines
    (started : Started size stdin options path start)
    (reachable : Relation.ReflTransGen Step start upload) :
    ∃ initial exchange, Initial initial ∧
      Relation.ReflTransGen
          (Exchange.Step blockNumbers (blockOf size stdin)) initial
          exchange ∧
        SenderView size stdin upload.first exchange.sender ∧
          ReceiverView size path (options = []) upload.second
            exchange.receiver := by
  obtain ⟨session, blksize, event, ready, entered⟩ := started.client
  obtain ⟨serverSession, host, introPacket, writer, server⟩ :=
    started.server
  obtain ⟨zeros, _, _, receiverStart⟩ := server.view
  obtain ⟨positive, fits⟩ := server.fitsBuffer
  let receiver : Receiver Bytes := ⟨[], acksOn start.second.sent⟩
  have initial :
      Initial (⟨⟨0, 0, []⟩, receiver⟩ : Exchange Bytes) :=
    ⟨rfl, rfl, rfl, rfl, zeros⟩
  have follows :
      ∀ sender : Sender Bytes,
        SenderView size stdin start.first sender →
          ∃ exchange,
            Relation.ReflTransGen
                (Exchange.Step blockNumbers (blockOf size stdin))
                ⟨sender, receiver⟩ exchange ∧
              SenderView size stdin upload.first exchange.sender ∧
                ReceiverView size path (options = []) upload.second
                  exchange.receiver :=
    fun sender view =>
      Link.refines (implementsSender positive stdin)
        (implementsReceiver fits path (options = [])) view receiverStart
        reachable
  have client := ready.view positive event
  rw [← entered] at client
  rcases client with silent | sent
  · obtain ⟨exchange, steps, views⟩ := follows _ silent
    exact ⟨_, exchange, initial, steps, views⟩
  · obtain ⟨exchange, steps, views⟩ := follows _ sent
    have first :
        Exchange.Step blockNumbers (blockOf size stdin)
          ⟨⟨0, 0, []⟩, receiver⟩ ⟨sendOne size stdin 0 [], receiver⟩ :=
      .sender none (by simp) (.send ⟨0, 0, []⟩ rfl)
    exact ⟨_, exchange, initial, steps.head first, views⟩

end IsaTftp.Upload
