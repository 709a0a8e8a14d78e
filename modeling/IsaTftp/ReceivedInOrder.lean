import IsaTftp.Client.InOrder
import IsaTftp.Server.InOrder
import IsaTftp.Upload.Stored

/-!
# Both receivers write what they accept, in order
-/

namespace IsaTftp

open IsaTftp.Wire
open IsaTftp.Files
open IsaTftp.Transfer
open IsaTftp.Client
open IsaTftp.Server

/--
Whatever the peer sends, at every point of an OCTET transfer both receivers
have written the blocks which they have accepted, in the order of their
numbers; they write no other block, and a number which is too high ends the
transfer.
-/
theorem accepted_blocks_are_written_in_order
    {clientAddress : Address} {rootDirpath : Path}
    {serverFiles : FileSystem} {host : HostChoice} {introPacket : Bytes}
    {options negotiated : List TftpOption} {writer : Writer}
    {retries foreign : Nat}
    (waits :
      ((Server.Session.make clientAddress rootDirpath
          serverFiles).followOnWRQ host introPacket).control =
        .awaitFirstData options negotiated writer retries foreign)
    (serverOctet : writer.mode = .OCTET)
    {args : TftpClientArgs} {serverAddress : Address} {stdin : Bytes}
    {files : FileSystem} {session : Client.Session}
    (made :
      Client.Session.make args serverAddress stdin files = .ok session)
    (clientOctet : args.fileMode = .OCTET) (first : Event)
    (events : List Event) :
    let server :=
      (Server.Session.make clientAddress rootDirpath
        serverFiles).followOnWRQ host introPacket
    let client := session.read first
    (receivingHandler.WritesInOrder writer.filepath server events ∧
        receivingHandler.AcceptsInOrder server events) ∧
      receivingClient.WritesInOrder args.destFilepath client events ∧
        receivingClient.AcceptsInOrder client events := by
  have serverBegins :=
    Server.Receives.start waits serverOctet
  have clientBegins :=
    Client.Receives.start made clientOctet first
  exact
    ⟨⟨Server.writesInOrder serverBegins events,
        Server.acceptsInOrder serverBegins events⟩,
      Client.writesInOrder clientBegins events,
      Client.acceptsInOrder clientBegins events⟩

/-- A client which is about to read the file `f` with default options. -/
def smallReader : Client.Session :=
  { Upload.smallClient [] with
    args := ⟨text "f", text "f", .READ, .OCTET, []⟩ }

/-- The theorem at a file of one block, which arrives twice. -/
theorem accepted_blocks_are_written_in_order_small :
    let server := Upload.smallServer.followOnWRQ {} Upload.smallRequest
    let client := smallReader.read {}
    let sent : List Event :=
      [{ reception := .datagram ⟨2, 1024⟩ [0, 3, 0, 1, 104, 105] },
        { reception := .datagram ⟨2, 1024⟩ [0, 3, 0, 1, 104, 105] }]
    let heard : List Event :=
      [{ reception := .datagram ⟨1, 1000⟩ [0, 3, 0, 1, 104, 105] },
        { reception := .datagram ⟨1, 1000⟩ [0, 3, 0, 1, 104, 105] }]
    (receivingHandler.WritesInOrder (text "r/f") server sent ∧
        receivingHandler.AcceptsInOrder server sent) ∧
      receivingHandler.accepted server sent = [(1, text "hi")] ∧
        (receivingClient.WritesInOrder (text "f") client heard ∧
            receivingClient.AcceptsInOrder client heard) ∧
          receivingClient.accepted client heard = [(1, text "hi")] := by
  have atServer :
      (Upload.smallServer.followOnWRQ {} Upload.smallRequest).control =
        .awaitFirstData [] [] (Writer.make (text "r/f") .OCTET) 0 0 := by
    decide
  have atClient :
      Client.Session.make ⟨text "f", text "f", .READ, .OCTET, []⟩ ⟨1, 69⟩
          [] (smallDisk none) =
        .ok smallReader :=
    rfl
  refine ⟨?_, by decide, ?_, by decide⟩
  · exact
      (accepted_blocks_are_written_in_order atServer rfl atClient rfl {}
        _).1
  · exact
      (accepted_blocks_are_written_in_order atServer rfl atClient rfl {}
        _).2

end IsaTftp
