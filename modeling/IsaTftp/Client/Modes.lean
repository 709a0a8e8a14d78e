import IsaTftp.Client.Downloaded
import IsaTftp.Client.Uploaded

/-!
# The requested mode and the applied mode

`Read` and `SendWrq` ask for octet mode whatever the mode of the file is, while
the writer of `Read` and the handler of `SendData` work in the mode of the
file.  With a NETASCII file the client therefore converts what the server does
not.
-/

namespace IsaTftp.Client

open IsaTftp.Wire
open IsaTftp.Files
open IsaTftp.Transfer
open IsaTftp.Library.Runs

/-! ## Servers which follow the requested mode -/

/-- What a server stores of a stream which was requested in this mode. -/
def decodeFor (mode : Mode) (stream : Bytes) : Bytes :=
  match mode with
  | .NETASCII => formatFromNETASCII stream
  | .OCTET => stream

/-- What a server sends of a file which was requested in this mode. -/
def encodeFor (mode : Mode) (content : Bytes) : Bytes :=
  match mode with
  | .NETASCII => formatToNETASCII content
  | .OCTET => content

/-- A server can read a request for this mode off these datagrams. -/
def Requested (opcode : Opcode) (mode : Mode) (sent : List Datagram) :
    Prop :=
  ∃ datagram ∈ sent, ∃ request,
    ReadWritePacket.ofRaw datagram.2 = .ok request ∧
      request.opcode = opcode ∧ request.mode = mode

theorem OctetRequests.mode_of_requested
    {opcode : Opcode} {mode : Mode} {sent : List Datagram}
    (requests : OctetRequests sent)
    (requested : Requested opcode mode sent) :
    mode = .OCTET := by
  obtain ⟨datagram, member, request, parsed, _, rfl⟩ := requested
  exact requests datagram member request parsed

/-! ## Completed transfers -/

/-- A client which was started and has returned; its paths are C strings. -/
structure Completed where
  args : TftpClientArgs
  serverAddress : Address
  stdin : Bytes
  files : FileSystem
  session : Session
  first : Event
  events : List Event
  made : Session.make args serverAddress stdin files = .ok session
  pathFree : nul ∉ args.request.filepath
  returned :
    (run TftpClient.step (session.run first) events).control =
      .ended .returned

/-- The client at the end. -/
def Completed.client (completed : Completed) : TftpClient :=
  run TftpClient.step (completed.session.run completed.first)
    completed.events

theorem Completed.sameArgs (completed : Completed) :
    completed.session.args = completed.args :=
  (setsUp_of_setupUdpClient completed.made).args

/-- An upload, and the mode which the server has read off the WRQ. -/
structure CompletedUpload extends Completed where
  writes : args.mode = .WRITE
  requestMode : Mode
  requested : Requested .WRQ requestMode toCompleted.client.sent

/-- The file which a server stores that got every block. -/
def CompletedUpload.stored (upload : CompletedUpload) : Bytes :=
  decodeFor upload.requestMode
    upload.toCompleted.client.session.payloads.flatten

/--
A download of a file, and the mode which the server has read off the RRQ.  The
blocks which the client has accepted are those of the file in this mode; a
byte held back is written when the file is closed.
-/
structure CompletedDownload extends Completed where
  reads : args.mode = .READ
  content : Bytes
  requestMode : Mode
  requested : Requested .RRQ requestMode toCompleted.client.sent
  served :
    ((receivingClient.accepted (session.run first) events).map
        Prod.snd).flatten =
      encodeFor requestMode content
  closes : args.fileMode = .NETASCII →
    ∀ event ∈ events, event.host.closeFails = false

/-- The file of the client, if there is one. -/
def CompletedDownload.stored (download : CompletedDownload) :
    Option Bytes :=
  download.toCompleted.client.session.storage.files.content
    download.args.destFilepath

/-! ## Uploads -/

namespace CompletedUpload

/-- What is known when the client has returned. -/
theorem feeds (upload : CompletedUpload) :
    ∃ earlier last handler,
      Feeds (inputOf upload.args upload.stdin)
          upload.toCompleted.client.session earlier last handler ∧
        last.length < upload.toCompleted.client.session.blksize.toNat := by
  have pathFree := upload.pathFree
  have writes : upload.session.args.mode = .WRITE := by
    rw [upload.sameArgs, upload.writes]
  rw [TftpClientArgs.request, upload.writes] at pathFree
  have uploads :=
    Uploads.run upload.made pathFree upload.first upload.events
  have returned := upload.returned
  unfold Uploads at uploads
  rw [← Session.run_of_write writes, returned] at uploads
  exact uploads

theorem stored_eq (upload : CompletedUpload) :
    upload.stored =
      upload.toCompleted.client.session.payloads.flatten := by
  obtain ⟨earlier, last, handler, feeds, _⟩ := upload.feeds
  have octet := feeds.requests.mode_of_requested upload.requested
  unfold stored
  rw [octet]
  rfl

/-- In octet mode the server stores the input. -/
theorem stored_of_octet
    {upload : CompletedUpload} (octet : upload.args.fileMode = .OCTET) :
    upload.stored = upload.stdin := by
  obtain ⟨earlier, last, handler, feeds, short⟩ := upload.feeds
  have given := feeds.given
  rw [inputOf, octet] at given
  rw [upload.stored_eq, feeds.onWire]
  exact given.flatten feeds.full short

/-- The input is encoded, ended by a line end and sent in one block. -/
def IsSmall (upload : CompletedUpload) : Prop :=
  (formatToNETASCII upload.stdin).length + 2 <
    upload.toCompleted.client.session.blksize.toNat

/-- In NETASCII mode it is stored like that. -/
theorem stored_of_netascii
    {upload : CompletedUpload} (netascii : upload.args.fileMode = .NETASCII)
    (small : upload.IsSmall) :
    upload.stored = formatToNETASCII upload.stdin ++ crLf := by
  obtain ⟨earlier, last, handler, feeds, _⟩ := upload.feeds
  have given := feeds.given
  rw [inputOf, netascii] at given
  obtain ⟨rfl, rfl⟩ := given.of_small small feeds.full
  rw [upload.stored_eq, feeds.onWire]
  simp

theorem sameUpToLineEnds_iff_of_small
    {upload : CompletedUpload} (small : upload.IsSmall) :
    SameUpToLineEnds upload.stdin upload.stored ↔
      upload.args.fileMode = .OCTET := by
  cases fileMode : upload.args.fileMode with
  | OCTET =>
      rw [stored_of_octet fileMode]
      exact iff_of_true (.refl _) rfl
  | NETASCII =>
      rw [stored_of_netascii fileMode small]
      exact iff_of_false (not_sameUpToLineEnds_encoded _) (by simp)

end CompletedUpload

/-! ## Downloads -/

/--
The file of the client is that of the server, but for line ends, exactly if it
was written in octet mode or has no CR NUL.
-/
theorem CompletedDownload.sameUpToLineEnds_iff
    (download : CompletedDownload) :
    (∃ content, download.stored = some content ∧
        SameUpToLineEnds download.content content) ↔
      download.args.fileMode = .OCTET ∨
        ¬ [cr, nul] <:+: download.content := by
  have pathFree := download.pathFree
  have reads : download.session.args.mode = .READ := by
    rw [download.sameArgs, download.reads]
  rw [TftpClientArgs.request, download.reads] at pathFree
  have hands :=
    Hands.run download.made pathFree download.first download.events
  have returned := download.returned
  unfold Hands at hands
  rw [← Session.run_of_read reads, returned] at hands
  obtain ⟨requests, some_, closed⟩ := hands
  have octet := requests.mode_of_requested download.requested
  have served := download.served
  rw [octet] at served
  obtain ⟨content, stored, same⟩ :=
    closed.sameUpToLineEnds_iff some_ download.closes
  rw [served] at same
  have found : download.stored = some content := stored
  rw [found]
  constructor
  · rintro ⟨_, sameFile, faithful⟩
    cases sameFile
    exact same.mp faithful
  · intro fine
    exact ⟨content, rfl, same.mpr fine⟩

/-! ## Small transfers -/

/-- An ACK or a block comes from the server. -/
def answer (bytes : Bytes) : Event :=
  { reception := .datagram ⟨1, 1000⟩ bytes }

/-- A request for the file `f` with this opcode. -/
def smallRequest (opcode : UInt8) : Bytes :=
  [0, opcode] ++ text "f" ++ [0] ++ text "octet" ++ [0]

/-- The client uploads three bytes in one block; the second one is a CR. -/
def smallUpload (fileMode : Mode) : CompletedUpload where
  args := ⟨[], text "f", .WRITE, fileMode, []⟩
  serverAddress := ⟨1, 69⟩
  stdin := [97, cr, 98]
  files := smallDisk none
  session :=
    { args := ⟨[], text "f", .WRITE, fileMode, []⟩
      serverAddress := ⟨1, 69⟩
      blksize := 512
      timeout := 1
      udp := UdpClient.make
      stdin := ⟨[97, cr, 98], false⟩
      storage := ⟨smallDisk none, []⟩ }
  first := {}
  events := [answer [0, 4, 0, 0], answer [0, 4, 0, 1]]
  made := rfl
  pathFree := by
    show nul ∉ text "f"
    decide
  returned := by
    cases fileMode with
    | NETASCII => decide
    | OCTET => decide
  writes := rfl
  requestMode := .OCTET
  requested := by
    refine
      ⟨(⟨1, 69⟩, smallRequest 2), ?_, ⟨.WRQ, text "f", .OCTET, []⟩, ?_, rfl,
        rfl⟩
    · cases fileMode with
      | NETASCII => decide
      | OCTET => decide
    · decide

/-- The client downloads three bytes, the last two of which are CR NUL. -/
def smallDownload (fileMode : Mode) : CompletedDownload where
  args := ⟨text "f", text "f", .READ, fileMode, []⟩
  serverAddress := ⟨1, 69⟩
  stdin := []
  files := smallDisk none
  session :=
    { args := ⟨text "f", text "f", .READ, fileMode, []⟩
      serverAddress := ⟨1, 69⟩
      blksize := 512
      timeout := 1
      udp := UdpClient.make
      stdin := ⟨[], false⟩
      storage := ⟨smallDisk none, []⟩ }
  first := {}
  events := [answer [0, 3, 0, 1, 97, cr, nul]]
  made := rfl
  pathFree := by
    show nul ∉ text "f"
    decide
  returned := by
    cases fileMode with
    | NETASCII => decide
    | OCTET => decide
  reads := rfl
  content := [97, cr, nul]
  requestMode := .OCTET
  requested := by
    refine
      ⟨(⟨1, 69⟩, smallRequest 1), ?_, ⟨.RRQ, text "f", .OCTET, []⟩, ?_, rfl,
        rfl⟩
    · cases fileMode with
      | NETASCII => decide
      | OCTET => decide
    · decide
  served := by
    cases fileMode with
    | NETASCII => decide
    | OCTET => decide
  closes _ event member := by
    rw [List.mem_singleton.mp member]
    rfl

theorem smallUpload_isSmall (fileMode : Mode) :
    (smallUpload fileMode).IsSmall := by
  unfold CompletedUpload.IsSmall
  cases fileMode with
  | NETASCII => decide
  | OCTET => decide

/--
Exactly when the requested mode is the mode which is applied.  Every upload
with a mode for the file is stored faithfully if and only if this mode is
octet, and an upload of one block already decides it; a download is stored
faithfully if and only if this mode is octet or the file has no CR NUL.
-/
theorem requested_mode_is_applied_iff (fileMode : Mode) :
    ((∀ upload : CompletedUpload, upload.args.fileMode = fileMode →
          SameUpToLineEnds upload.stdin upload.stored) ↔
        fileMode = .OCTET) ∧
      (∀ upload : CompletedUpload, upload.args.fileMode = fileMode →
        upload.IsSmall →
          (SameUpToLineEnds upload.stdin upload.stored ↔
            fileMode = .OCTET)) ∧
        ∀ download : CompletedDownload, download.args.fileMode = fileMode →
          ((∃ content, download.stored = some content ∧
              SameUpToLineEnds download.content content) ↔
            fileMode = .OCTET ∨ ¬ [cr, nul] <:+: download.content) := by
  refine ⟨?_, ?_, ?_⟩
  · constructor
    · intro faithful
      have same := faithful (smallUpload fileMode) rfl
      exact
        (CompletedUpload.sameUpToLineEnds_iff_of_small
          (smallUpload_isSmall fileMode)).mp same
    · rintro rfl upload octet
      rw [CompletedUpload.stored_of_octet octet]
      exact .refl upload.stdin
  · rintro upload rfl small
    exact CompletedUpload.sameUpToLineEnds_iff_of_small small
  · rintro download rfl
    exact download.sameUpToLineEnds_iff

/-- The theorem for the small transfers in octet mode. -/
theorem requested_mode_is_applied_small :
    SameUpToLineEnds (smallUpload .OCTET).stdin
        (smallUpload .OCTET).stored ∧
      ∃ content, (smallDownload .OCTET).stored = some content ∧
        SameUpToLineEnds (smallDownload .OCTET).content content := by
  obtain ⟨uploads, _, downloads⟩ := requested_mode_is_applied_iff .OCTET
  constructor
  · exact uploads.mpr rfl (smallUpload .OCTET) rfl
  · exact (downloads (smallDownload .OCTET) rfl).mpr (Or.inl rfl)

/--
In NETASCII mode both go wrong: the NUL which encodes the CR stays in the file
of the server, and one behind a CR is lost from the file of the client.
-/
theorem netascii_is_not_requested :
    (smallUpload .NETASCII).stdin = [97, cr, 98] ∧
      (smallUpload .NETASCII).stored = [97, cr, nul, 98, cr, lf] ∧
        ¬ SameUpToLineEnds (smallUpload .NETASCII).stdin
          (smallUpload .NETASCII).stored ∧
          (smallDownload .NETASCII).content = [97, cr, nul] ∧
            (smallDownload .NETASCII).stored = some [97, cr] ∧
              ¬ SameUpToLineEnds [97, cr, nul] [97, cr] := by
  have stored :
      (smallUpload .NETASCII).stored = [97, cr, nul, 98, cr, lf] := by
    decide
  refine ⟨rfl, stored, ?_, rfl, by decide, ?_⟩
  · exact
      mt
        (CompletedUpload.sameUpToLineEnds_iff_of_small
          (smallUpload_isSmall .NETASCII)).mp
        (by simp [smallUpload])
  · apply not_sameUpToLineEnds_of_length
    decide

end IsaTftp.Client
