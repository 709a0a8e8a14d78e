import IsaTftp.ErrorPackets
import IsaTftp.PutThenGet

/-!
# What the user sees

A client which `main` has started asks for one file.  If nothing is lost, the
files of the server decide what comes of it: the transfer completes, or the
client ends with the reason of the server and no file has changed anywhere.
-/

namespace IsaTftp

open IsaTftp.Wire
open IsaTftp.Files
open IsaTftp.Transfer
open IsaTftp.Client
open IsaTftp.Server
open IsaTftp.Library.Chunking
open IsaTftp.Upload (deliver)

/-- A command line, and the client which it starts. -/
structure Launched (argv : List Bytes) (args : TftpClientArgs) : Prop where
  runs : ∃ hostname port, Client.main argv = .runs hostname port args
  nulFree : nul ∉ args.request.filepath
  short : args.request.filepath.length ≤ 491

/-- Why the server refuses a request, if it does. -/
def verdict (request : ReadWritePacket) (rootDirpath : Path)
    (files : FileSystem) : Option TftpException :=
  let path := rootDirpath ++ slash :: request.filepath
  match request.opcode, (files.lookup path).isSome with
  | .RRQ, false =>
      some
        (.fileNotFoundError
          (text "File does not exist: " ++ request.filepath))
  | .WRQ, true =>
      some
        (.fileAlreadyExistsError
          (text "File already exists: " ++ request.filepath))
  | _, _ =>
      if files.isFilePathUnderDirectory path rootDirpath then none
      else some .accessViolationError

variable {argv : List Bytes} {args : TftpClientArgs}
variable {packet : ReadWritePacket} {request stdin content : Bytes}
variable {rootDirpath : Path} {files clientFiles : FileSystem}
variable {session : Client.Session} {exception : TftpException}
variable {serverAddress : Address}

/-! ## The server refuses -/

/-- The handler gives the reason and ends. -/
theorem followOnIntroPacket_of_verdict
    (carried : CarriedRequest packet request)
    (refused : verdict packet rootDirpath files = some exception)
    (clientAddress : Address) :
    let fresh := Server.Session.make clientAddress rootDirpath files
    fresh.followOnIntroPacket {} request =
      fresh.raise (.tftp exception) := by
  intro fresh
  have sameRoot : fresh.rootDirpath = rootDirpath := rfl
  have sameFiles : fresh.storage.files = files := rfl
  have samePath :
      fresh.filePath packet.filepath =
        rootDirpath ++ slash :: packet.filepath :=
    rfl
  unfold verdict at refused
  dsimp only at refused
  rcases carried.isRequest with reads | writes
  · rw [reads] at refused
    simp only [Server.Session.followOnIntroPacket, carried.opcode, reads,
      Server.Session.followOnRRQ, carried.parsed, Storage.fileExists,
      samePath, sameFiles, sameRoot]
    cases found :
        (files.lookup (rootDirpath ++ slash :: packet.filepath)).isSome with
    | false =>
        rw [found] at refused
        obtain rfl := Option.some.inj refused
        rfl
    | true =>
        simp only [found] at refused
        split_ifs at refused with under
        obtain rfl := Option.some.inj refused
        simp only [under, Bool.false_eq_true, if_false]
  · rw [writes] at refused
    simp only [Server.Session.followOnIntroPacket, carried.opcode, writes,
      Server.Session.followOnWRQ, carried.parsed, Storage.fileExists,
      samePath, sameFiles, sameRoot]
    cases found :
        (files.lookup (rootDirpath ++ slash :: packet.filepath)).isSome with
    | false =>
        simp only [found] at refused
        split_ifs at refused with under
        obtain rfl := Option.some.inj refused
        simp only [under, Bool.false_eq_true, if_false]
    | true =>
        rw [found] at refused
        obtain rfl := Option.some.inj refused
        rfl

/-- Every reason is told, by a datagram of its own. -/
theorem exists_errorReply_of_verdict
    (refused : verdict packet rootDirpath files = some exception) :
    ∃ code, errorReply exception = some ⟨code, exception.what⟩ ∧
      exception.what.length ≤ packet.filepath.length + 100 := by
  unfold verdict at refused
  dsimp only at refused
  split at refused
  · obtain rfl := Option.some.inj refused
    refine ⟨_, rfl, ?_⟩
    simp [TftpException.what, text]
  · obtain rfl := Option.some.inj refused
    refine ⟨_, rfl, ?_⟩
    simp [TftpException.what, text]
  · split_ifs at refused
    obtain rfl := Option.some.inj refused
    refine ⟨_, rfl, ?_⟩
    simp [TftpException.what, text]

/-! ## The client is told -/

namespace Launched

theorem options (launched : Launched argv args) :
    args.options = [timeoutOption] ∧ args.fileMode = .OCTET := by
  obtain ⟨hostname, port, started⟩ := launched.runs
  exact options_of_main started

/-- The request is carried as it was meant. -/
theorem exists_request (launched : Launched argv args) :
    ∃ request, CarriedRequest args.request request := by
  have nulFree := launched.nulFree
  have short := launched.short
  have options := launched.options.1
  unfold TftpClientArgs.request at nulFree short ⊢
  cases mode : args.mode with
  | READ =>
      simp only [mode] at nulFree short ⊢
      rw [options]
      exact exists_carriedRequest (Or.inl rfl) nulFree short
  | WRITE =>
      simp only [mode] at nulFree short ⊢
      rw [options]
      exact exists_carriedRequest (Or.inr rfl) nulFree short

/-- The client has sent its request and waits for the first answer. -/
theorem asked (launched : Launched argv args)
    (carried : CarriedRequest args.request request)
    (sameArgs : session.args = args) :
    session.run {} =
      ⟨session.send request,
        match args.mode with
        | .READ => .awaitRrqReply (Writer.make args.destFilepath .OCTET) 0
        | .WRITE => .awaitWrqReply⟩ := by
  have encoded := carried.encoded
  unfold TftpClientArgs.request at encoded
  cases mode : args.mode with
  | READ =>
      simp only [mode] at encoded ⊢
      rw [Client.Session.run_of_read (by rw [sameArgs, mode])]
      simp only [Client.Session.read, Client.Session.awaitRrqReplyAgain,
        Client.Session.checkForSigintRRQ, Event.sigintAt,
        Bool.false_eq_true, if_false, maxRetries, Nat.zero_lt_succ,
        if_true, sameArgs, encoded, launched.options.2]
      rfl
  | WRITE =>
      simp only [mode] at encoded ⊢
      rw [Client.Session.run_of_write (by rw [sameArgs, mode])]
      simp only [Client.Session.sendWrq, Client.Session.checkForSigintWRQ,
        Event.sigintAt, Bool.false_eq_true, if_false, sameArgs, encoded]

/-- The reason of the server ends the client, and its files stay. -/
theorem told (launched : Launched argv args)
    (carried : CarriedRequest args.request request)
    (sameArgs : session.args = args) (address : Address)
    {error : ErrorPacket}
    (short : error.makeRaw.length ≤ UdpClient.maxPacketSize) :
    let told := (session.run {}).step (deliver address error.makeRaw)
    told.control =
        .ended
          (.threw
            (.recievedErrorPacket
              (text "Server responded with error: " ++
                error.errorMessage))) ∧
      told.session.storage = session.storage := by
  intro told
  have known : getOpcodeFromRaw error.makeRaw = .ok .ERROR :=
    error.getOpcode_makeRaw
  have received :
      receive (deliver address error.makeRaw).reception =
        .ok (address, error.makeRaw) := by
    simp only [deliver, receive, List.take_of_length_le short]
  have throws :
      errorException (text "Server") error.makeRaw =
        .recievedErrorPacket
          (text "Server responded with error: " ++
            error.errorMessage) := by
    rw [errorException, ErrorPacket.ofRaw_makeRaw, text_server]
  have asked := launched.asked carried sameArgs
  have unopened : (Writer.make args.destFilepath .OCTET).file = none := rfl
  cases mode : args.mode with
  | READ =>
      simp only [mode] at asked
      simp only [told, asked, TftpClient.step,
        Client.Session.stepAwaitRrqReply, received,
        classifyRrqReply_of_error known, Client.Session.abandonRead,
        throws]
      constructor
      · rfl
      · exact Writer.close_of_unopened unopened session.storage {}
  | WRITE =>
      simp only [mode] at asked
      simp only [told, asked, TftpClient.step,
        Client.Session.stepAwaitWrqReply, received,
        acceptWrqReply_of_error known, throws]
      exact ⟨rfl, rfl⟩

end Launched

/-! ## Both together -/

/-- The server has refused, the client knows why, and no file has changed. -/
structure Refused (exception : TftpException) (files : FileSystem)
    (clientFiles : FileSystem) (conversation : Conversation) : Prop where
  client : conversation.client.control =
    .ended
      (.threw
        (.recievedErrorPacket
          (text "Server responded with error: " ++ exception.what)))
  handler :
    conversation.handler.control = .ended (.threw (.tftp exception))
  sameFiles : conversation.handler.session.storage.files = files
  sameClientFiles :
    conversation.client.session.storage.files = clientFiles

theorem Launched.refused (launched : Launched argv args)
    (made :
      Client.Session.make args serverAddress stdin clientFiles =
        .ok session)
    (refused : verdict args.request rootDirpath files = some exception)
    (clientAddress address : Address) :
    Refused exception files clientFiles
      ((Conversation.start session clientAddress rootDirpath
        files).turn address) := by
  have setsUp := setsUp_of_setupUdpClient made
  have sameArgs : session.args = args := setsUp.args
  obtain ⟨request, carried⟩ := launched.exists_request
  obtain ⟨code, reply, bound⟩ := exists_errorReply_of_verdict refused
  let fresh := Server.Session.make clientAddress rootDirpath files
  let error : ErrorPacket := ⟨code, exception.what⟩
  have last : newest (session.run {}).sent = some request := by
    rw [launched.asked carried sameArgs]
    exact newest_append _ _
  have starts :
      Conversation.start session clientAddress rootDirpath files =
        ⟨session.run {}, fresh.raise (.tftp exception)⟩ := by
    rw [Conversation.start, last, Option.getD_some,
      followOnIntroPacket_of_verdict carried refused]
  have sent :
      newest (fresh.raise (.tftp exception)).sent =
        some error.makeRaw := by
    simp only [Handler.sent, Server.Session.raise, reportException, reply]
    exact newest_append _ _
  have short : error.makeRaw.length ≤ UdpClient.maxPacketSize := by
    have path := launched.short
    simp only [error, ErrorPacket.makeRaw, List.length_append,
      List.length_cons, List.length_nil, UdpClient.maxPacketSize]
    omega
  obtain ⟨ended, storage⟩ :=
    launched.told carried sameArgs address short
  have stays : ∀ event,
      (fresh.raise (.tftp exception)).step event =
        fresh.raise (.tftp exception) := by
    intro event
    rfl
  rw [starts]
  simp only [Conversation.turn, hear_of_newest sent, stays]
  constructor
  · exact ended
  · rfl
  · rfl
  · rw [storage, setsUp.storage]

/-- Nothing stands in the way of a download which the server accepts. -/
theorem Launched.download (launched : Launched argv args)
    (reads : args.mode = .READ)
    (accepted : verdict args.request rootDirpath files = none)
    (found :
      files.content (rootDirpath ++ slash :: args.filepath) = some content)
    (few : content.length < 65535 * 512)
    (writable : clientFiles.lookup args.destFilepath ≠ some .directory) :
    ∃ request,
      Download.Unhindered args request content rootDirpath files
        clientFiles := by
  obtain ⟨options, octet⟩ := launched.options
  obtain ⟨request, carried⟩ := launched.exists_request
  have asked :
      args.request = ⟨.RRQ, args.filepath, .OCTET, args.options⟩ := by
    rw [TftpClientArgs.request, reads]
  rw [asked] at carried accepted
  have lookup := FileSystem.content_eq_some_iff.mp found
  have under :
      files.isFilePathUnderDirectory (rootDirpath ++ slash :: args.filepath)
        rootDirpath = true := by
    simp only [verdict, lookup, Option.isSome_some] at accepted
    split_ifs at accepted with under
    exact under
  refine ⟨request, ?_⟩
  constructor
  · exact ⟨reads, octet, carried⟩
  · rw [options]
    exact requestable_timeoutOption
  · exact found
  · exact under
  · rw [options]
    intro asks
    exact absurd asks not_asksSize_timeoutOption
  · rw [options]
    intro option member isTsize
    exact absurd ⟨option, member, isTsize⟩ not_asksSize_timeoutOption
  · exact writable
  · rw [options]
    exact few

/-- Nor in the way of an upload. -/
theorem Launched.upload (launched : Launched argv args)
    (writes : args.mode = .WRITE)
    (accepted : verdict args.request rootDirpath files = none)
    (few : stdin.length < 65535 * 512) :
    ∃ request, Upload.Unhindered args request stdin rootDirpath files := by
  obtain ⟨options, octet⟩ := launched.options
  obtain ⟨request, carried⟩ := launched.exists_request
  have asked :
      args.request = ⟨.WRQ, args.destFilepath, .OCTET, args.options⟩ := by
    rw [TftpClientArgs.request, writes]
  rw [asked] at carried accepted
  obtain ⟨absent, under⟩ :
      files.lookup (rootDirpath ++ slash :: args.destFilepath) = none ∧
        files.isFilePathUnderDirectory
            (rootDirpath ++ slash :: args.destFilepath) rootDirpath =
          true := by
    unfold verdict at accepted
    dsimp only at accepted
    cases lookup :
        files.lookup (rootDirpath ++ slash :: args.destFilepath) with
    | some node =>
        rw [lookup] at accepted
        cases accepted
    | none =>
        rw [lookup] at accepted
        simp only [Option.isSome_none] at accepted
        split_ifs at accepted with under
        exact ⟨rfl, under⟩
  refine ⟨request, ?_⟩
  constructor
  · exact writes
  · exact octet
  · exact carried
  · rw [options]
    exact requestable_timeoutOption
  · exact absent
  · exact under
  · rw [options]
    intro asks
    exact absurd asks not_asksSize_timeoutOption
  · rw [options]
    exact few

/--
What comes of a command line with a short path is decided by the files of the
server, if no datagram is lost and no call fails.  If they refuse the request,
the client ends in the first turn with the reason, and no file has changed.  If
they do not, an upload is stored and a download of a file arrives, unless there
are too many blocks.
-/
theorem files_decide (launched : Launched argv args)
    (made :
      Client.Session.make args serverAddress stdin clientFiles =
        .ok session)
    (clientAddress : Address) {address : Address}
    (sameHost : address.ip = serverAddress.ip) :
    let start :=
      Conversation.start session clientAddress rootDirpath files
    let after := fun turns => (Conversation.turn address)^[turns] start
    (∀ exception,
        verdict args.request rootDirpath files = some exception →
          Refused exception files clientFiles (after 1)) ∧
      (verdict args.request rootDirpath files = none →
        (args.mode = .WRITE → stdin.length < 65535 * 512 →
          Upload.Done files (rootDirpath ++ slash :: args.destFilepath)
            stdin (after (chunkCount 512 stdin + 1))) ∧
          (args.mode = .READ → ∀ content,
            files.content (rootDirpath ++ slash :: args.filepath) =
                some content →
              content.length < 65535 * 512 →
                clientFiles.lookup args.destFilepath ≠ some .directory →
                  Download.Done args.destFilepath content
                    (after (chunkCount 512 content + 1)))) := by
  intro start after
  have size : blksizeIn [timeoutOption] = 512 := by
    decide
  have positive : 0 < 512 := by
    decide
  have fitsBuffer : 512 + 4 ≤ UdpClient.maxPacketSize := by
    decide
  have chunks : ∀ content : Bytes, content.length < 65535 * 512 →
      chunkCount 512 content ≤ 65535 := by
    intro content few
    rw [Nat.mul_comm] at few
    exact Nat.div_lt_of_lt_mul few
  obtain ⟨options, _⟩ := launched.options
  constructor
  · intro exception refused
    exact launched.refused made refused clientAddress address
  · intro accepted
    constructor
    · intro writes few
      obtain ⟨request, upload⟩ := launched.upload writes accepted few
      have inTurn := upload.inTurn made clientAddress sameHost
      rw [options, size] at inTurn
      exact (inTurn.completes positive fitsBuffer (chunks _ few)).1
    · intro reads content found few writable
      obtain ⟨request, download⟩ :=
        launched.download reads accepted found few writable
      have some_ : args.options ≠ [] := by
        simp [options]
      have lockstep :=
        download.settles some_ made clientAddress sameHost
      rw [options, size] at lockstep
      exact (lockstep.completes positive fitsBuffer (chunks _ few)).1

theorem launched_small :
    Launched
      [text "-h", text "s", text "-f", text "f", text "-t", text "g"]
      ⟨text "f", text "g", .READ, .OCTET, [timeoutOption]⟩ where
  runs := ⟨text "s", 69, by decide⟩
  nulFree := by decide
  short := by decide

/-- The theorem for an empty server, which has no `f`. -/
theorem files_decide_small :
    ∃ session,
      Client.Session.make
            ⟨text "f", text "g", .READ, .OCTET, [timeoutOption]⟩ ⟨1, 69⟩
            [] (smallDisk none) =
          .ok session ∧
        Refused (.fileNotFoundError (text "File does not exist: f"))
          (smallDisk none) (smallDisk none)
          ((Conversation.turn ⟨1, 2001⟩)^[1]
            (Conversation.start session ⟨2, 1024⟩ (text "r")
              (smallDisk none))) := by
  obtain ⟨session, made, _⟩ :=
    setupUdpClient_setsUp
      ⟨⟨text "f", text "g", .READ, .OCTET, [timeoutOption]⟩, ⟨1, 69⟩,
        512, 1, UdpClient.make, ⟨[], false⟩, ⟨smallDisk none, []⟩⟩
  have sameHost : (⟨1, 2001⟩ : Address).ip = (⟨1, 69⟩ : Address).ip :=
    rfl
  have refused :
      verdict ⟨.RRQ, text "f", .OCTET, [timeoutOption]⟩ (text "r")
          (smallDisk none) =
        some (.fileNotFoundError (text "File does not exist: f")) := by
    decide
  refine ⟨session, made, ?_⟩
  exact
    (files_decide launched_small made ⟨2, 1024⟩ sameHost).1 _ refused

end IsaTftp
