import IsaTftp.Download.Lockstep
import IsaTftp.Server.AnnouncedSize

/-!
# Undisturbed downloads

A client asks for a file which the server may send, nothing else stands in the
way, and no datagram is lost.  Then the file arrives in as many turns as it has
blocks, and one more if the request had options.
-/

namespace IsaTftp.Download

open IsaTftp.Wire
open IsaTftp.Files
open IsaTftp.Transfer
open IsaTftp.Client
open IsaTftp.Server
open IsaTftp.Library.Chunking
open IsaTftp.Upload (deliver ackOf)

variable {content : Bytes} {path : Path}

/--
Nothing stands in the way of a download from these files to those: the request
is not cut, the path passes the check, the size can be measured, and the client
can store the blocks.
-/
structure Unhindered (args : TftpClientArgs) (request content : Bytes)
    (rootDirpath : Path) (files clientFiles : FileSystem) : Prop where
  asks : AsksFor args request
  requestable : RequestableList args.options
  found :
    files.content (rootDirpath ++ slash :: args.filepath) = some content
  under :
    files.isFilePathUnderDirectory (rootDirpath ++ slash :: args.filepath)
      rootDirpath = true
  /-- one full block and no more cannot be measured -/
  measurable : AsksSize args.options →
    content.length ≠ blksizeIn args.options
  space : ∀ option ∈ args.options, option.name = .TSIZE →
    ∃ tsize, stoull option.value = .ok tsize ∧
      Storage.hasEnoughSpace ⟨clientFiles, []⟩ args.destFilepath tsize
  writable : clientFiles.lookup args.destFilepath ≠ some .directory
  few : content.length < 65535 * blksizeIn args.options

variable {args : TftpClientArgs} {request : Bytes} {rootDirpath : Path}
variable {files clientFiles : FileSystem} {session : Client.Session}
variable {serverAddress : Address} {stdin : Bytes}

/-- The file is measured, if it has to be. -/
theorem measureForTsize_done
    {session : Server.Session}
    (found : session.storage.files.content path = some content)
    (positive : 0 < session.blksize) {options : List TftpOption}
    (measurable : AsksSize options → content.length ≠ session.blksize) :
    ∃ storage,
      session.measureForTsize {} (Reader.make path .OCTET) options =
          (.done, storage) ∧
        storage.files = session.storage.files := by
  unfold Server.Session.measureForTsize
  split_ifs with asked
  · have asksSize : AsksSize options := by
      simpa [AsksSize, List.any_eq_true] using asked
    obtain ⟨next, stored, read, _⟩ :=
      exists_readFile (Reader.Behind.make found session.blksize)
    rcases measureFile_cases session {} (Reader.make path .OCTET) rfl rfl
        positive with
      ⟨fails, _⟩ | ⟨_, measured, storage, measures, outcome⟩
    · simp [Reader.unreadable, read] at fails
    · have noException : ∀ exception, measured ≠ .threw exception := by
        rintro exception rfl
        simp at outcome
      obtain ⟨other, sameFile, diverges⟩ :=
        measureFile_octet positive measures noException
      rw [found, Option.some.injEq] at sameFile
      subst sameFile
      have done : measured = .done := by
        rcases outcome with spins | done
        · exact absurd (diverges.mp spins) (measurable asksSize)
        · exact done
      have reads :=
        session.measureFile_onlyReads {} (Reader.make path .OCTET)
      rw [measures] at reads
      exact ⟨storage, by rw [measures, done], reads.files⟩
  · exact ⟨session.storage, rfl, rfl⟩

/-- The handler which the request starts: it answers. -/
theorem Unhindered.answers
    (unhindered :
      Unhindered args request content rootDirpath files clientFiles)
    (clientAddress : Address) :
    ∃ agreed : Server.Session,
      (Server.Session.make clientAddress rootDirpath
          files).followOnIntroPacket {} request =
          agreed.answerRRQ {}
            (Reader.make (rootDirpath ++ slash :: args.filepath) .OCTET)
            args.options args.options ∧
        agreed.blksize = blksizeIn args.options ∧
          agreed.storage.files = files := by
  let fresh := Server.Session.make clientAddress rootDirpath files
  have asks := unhindered.asks
  have exists_ :
      fresh.storage.fileExists {} (fresh.filePath args.filepath) =
        .ok true := by
    have lookup :
        fresh.storage.files.lookup (fresh.filePath args.filepath) =
          some (.file content) :=
      FileSystem.content_eq_some_iff.mp unhindered.found
    simp [Storage.fileExists, lookup]
  obtain ⟨agreed, negotiation⟩ :=
    exists_negotiateOptions
      (fun option member _ =>
        (unhindered.requestable.each option member).stoi_value)
      fresh
  rw [supported_of_carried asks.carried.options] at negotiation
  obtain ⟨negotiates, _⟩ := negotiateOptions_of_ok negotiation
  have sameSize : agreed.blksize = blksizeIn args.options :=
    negotiates.blksize
  have sameFiles : agreed.storage.files = files := by
    rw [negotiates.storage]
    rfl
  have found :
      agreed.storage.files.content (fresh.filePath args.filepath) =
        some content := by
    rw [sameFiles]
    exact unhindered.found
  have positive : 0 < agreed.blksize := by
    have least := (blksizeIn_bounds args.options).1
    omega
  have measurable : AsksSize args.options →
      content.length ≠ agreed.blksize := by
    rw [sameSize]
    exact unhindered.measurable
  obtain ⟨storage, measures, after⟩ :=
    measureForTsize_done found positive measurable
  refine
    ⟨agreed.withStorage storage, ?_, sameSize, after.trans sameFiles⟩
  have enters :
      fresh.followOnIntroPacket {} request =
        fresh.followOnRRQ {} request := by
    simp only [Server.Session.followOnIntroPacket, asks.carried.opcode]
  have under :
      fresh.storage.files.isFilePathUnderDirectory
          (fresh.filePath args.filepath) fresh.rootDirpath = true :=
    unhindered.under
  show fresh.followOnIntroPacket {} request = _
  rw [enters]
  simp only [Server.Session.followOnRRQ, asks.carried.parsed, exists_,
    under, if_true, Server.Session.openRRQ, negotiation, formatOfMode,
    measures]
  rfl

/-- The client has sent its request and waits. -/
theorem Unhindered.asked
    (unhindered :
      Unhindered args request content rootDirpath files clientFiles)
    (made :
      Client.Session.make args serverAddress stdin clientFiles =
        .ok session) :
    let writer := Writer.make args.destFilepath .OCTET
    session.run {} = ⟨session.send request, .awaitRrqReply writer 0⟩ ∧
      ∀ address : Address, address.ip = serverAddress.ip →
        ClientWaits (blksizeIn args.options) content args.destFilepath
          address 0 0 (session.run {}) writer := by
  intro writer
  have setsUp := setsUp_of_setupUdpClient made
  have sameArgs : session.args = args := setsUp.args
  have asks := unhindered.asks
  have reads : session.run {} = session.read {} := by
    apply Client.Session.run_of_read
    rw [sameArgs]
    exact asks.reads
  have asked :
      session.run {} =
        ⟨session.send request, .awaitRrqReply writer 0⟩ := by
    rw [reads]
    simp only [Client.Session.read, Client.Session.awaitRrqReplyAgain,
      Client.Session.checkForSigintRRQ, Event.sigintAt, Bool.false_eq_true,
      if_false, maxRetries, Nat.zero_lt_succ, if_true, sameArgs,
      asks.carried.encoded, asks.octet]
    rfl
  refine ⟨asked, ?_⟩
  intro address sameHost
  rw [asked]
  have sameFiles : session.storage = ⟨clientFiles, []⟩ := setsUp.storage
  constructor
  · refine Or.inl ⟨rfl, ?_, rfl⟩
    rw [sameHost]
    exact congrArg Address.ip setsUp.serverAddress
  · refine Or.inr ?_
    rw [Client.Session.send_storage, sameFiles]
    exact unhindered.writable
  · exact setsUp.blksize
  · rfl
  · exact Writer.Stores.make _ _

/-! ## Completion -/

/-- How many turns an undisturbed download takes. -/
def turnsOf (args : TftpClientArgs) (content : Bytes) : Nat :=
  chunkCount (blksizeIn args.options) content +
    if args.options = [] then 0 else 1

/-- What the client has sent starts the handler. -/
theorem Unhindered.start
    (unhindered :
      Unhindered args request content rootDirpath files clientFiles)
    (made :
      Client.Session.make args serverAddress stdin clientFiles =
        .ok session)
    (clientAddress : Address) :
    Conversation.start session clientAddress rootDirpath files =
      ⟨session.run {},
        (Server.Session.make clientAddress rootDirpath
          files).followOnIntroPacket {} request⟩ := by
  have last : newest (session.run {}).sent = some request := by
    rw [(unhindered.asked made).1]
    exact newest_append _ _
  rw [Conversation.start, last]
  rfl

/-- Without options the handler sends the first block at once. -/
theorem Unhindered.lockstep
    (unhindered :
      Unhindered args request content rootDirpath files clientFiles)
    (none_ : args.options = [])
    (made :
      Client.Session.make args serverAddress stdin clientFiles =
        .ok session)
    (clientAddress : Address) {address : Address}
    (sameHost : address.ip = serverAddress.ip) :
    Lockstep (blksizeIn args.options) content args.destFilepath address 0
      (Conversation.start session clientAddress rootDirpath files) := by
  obtain ⟨agreed, answers, sameSize, sameFiles⟩ :=
    unhindered.answers clientAddress
  rw [unhindered.start made clientAddress]
  constructor
  · exact ⟨_, (unhindered.asked made).2 address sameHost⟩
  · have found :
        agreed.storage.files.content
            (rootDirpath ++ slash :: args.filepath) =
          some content := by
      rw [sameFiles]
      exact unhindered.found
    have sends :
        agreed.answerRRQ {}
            (Reader.make (rootDirpath ++ slash :: args.filepath) .OCTET)
            args.options args.options =
          agreed.sendBlock {}
            (Reader.make (rootDirpath ++ slash :: args.filepath) .OCTET)
            1 := by
      simp [Server.Session.answerRRQ, none_]
    dsimp only
    rw [answers, sends]
    exact
      ⟨_, _, Sends.sendBlock agreed sameSize (Reader.Behind.make found _)⟩

/-- The client waits for an answer of this address. -/
theorem Unhindered.askedThere
    (unhindered :
      Unhindered args request content rootDirpath files clientFiles)
    (made :
      Client.Session.make args serverAddress stdin clientFiles =
        .ok session)
    {address : Address} (sameHost : address.ip = serverAddress.ip) :
    let writer := Writer.make args.destFilepath .OCTET
    ClientWaits (blksizeIn args.options) content args.destFilepath
        address 0 0 (session.run {}) writer ∧
      (session.run {}).session.serverAddress.ip = address.ip ∧
        (session.run {}).control = .awaitRrqReply writer 0 := by
  obtain ⟨asked, waits⟩ := unhindered.asked made
  have setsUp := setsUp_of_setupUdpClient made
  refine ⟨waits address sameHost, ?_, ?_⟩
  · rw [asked, sameHost]
    exact congrArg Address.ip setsUp.serverAddress
  · rw [asked]

/-- The client accepts the OACK which repeats its options. -/
theorem Unhindered.agreeable
    (unhindered :
      Unhindered args request content rootDirpath files clientFiles)
    (made :
      Client.Session.make args serverAddress stdin clientFiles =
        .ok session)
    {raw : Bytes}
    (encoded : OackPacket.makeRaw ⟨args.options⟩ = .ok raw)
    (address : Address) :
    Agreeable (blksizeIn args.options) args.options
      ((session.run {}).session.adoptPort address) raw := by
  rw [(unhindered.asked made).1]
  have setsUp := setsUp_of_setupUdpClient made
  have sameArgs : session.args = args := setsUp.args
  have sameStorage : session.storage = ⟨clientFiles, []⟩ :=
    setsUp.storage
  obtain ⟨other, same, fits, decoded⟩ := unhindered.asks.oack
  rw [encoded, Except.ok.injEq] at same
  subst same
  constructor
  · exact fits
  · exact OackPacket.getOpcode_makeRaw encoded
  · exact decoded
  · apply unhindered.requestable.checkOack
    show session.args.options = args.options
    rw [sameArgs]
  · apply checkSpace_eq_ok
    intro option member isTsize
    show ∃ tsize, _ ∧
      session.storage.hasEnoughSpace session.args.destFilepath tsize
    rw [sameStorage, sameArgs]
    exact unhindered.space option member isTsize
  · exact optionsAgree_of_carried unhindered.asks.carried.options

/-- With options the handler answers by an OACK. -/
theorem Unhindered.oacks
    (unhindered :
      Unhindered args request content rootDirpath files clientFiles)
    (some_ : args.options ≠ [])
    (made :
      Client.Session.make args serverAddress stdin clientFiles =
        .ok session)
    (clientAddress : Address) :
    ∃ (agreed : Server.Session) (raw : Bytes),
      Conversation.start session clientAddress rootDirpath files =
          ⟨session.run {},
            ⟨agreed.send raw,
              .awaitOackAck
                (Reader.make (rootDirpath ++ slash :: args.filepath) .OCTET)
                0 0⟩⟩ ∧
        OackPacket.makeRaw ⟨args.options⟩ = .ok raw ∧
          agreed.blksize = blksizeIn args.options ∧
            agreed.storage.files.content
                (rootDirpath ++ slash :: args.filepath) =
              some content := by
  obtain ⟨agreed, answers, sameSize, sameFiles⟩ :=
    unhindered.answers clientAddress
  obtain ⟨raw, encoded, _, _⟩ := unhindered.asks.oack
  refine ⟨agreed, raw, ?_, encoded, sameSize, ?_⟩
  · have positive : args.options.length > 0 :=
      List.length_pos_of_ne_nil some_
    rw [unhindered.start made clientAddress, answers]
    simp only [Server.Session.answerRRQ, positive, if_true, encoded]
  · rw [sameFiles]
    exact unhindered.found

/-- With options the first turn settles them, and the blocks come after it. -/
theorem Unhindered.settles
    (unhindered :
      Unhindered args request content rootDirpath files clientFiles)
    (some_ : args.options ≠ [])
    (made :
      Client.Session.make args serverAddress stdin clientFiles =
        .ok session)
    (clientAddress : Address) {address : Address}
    (sameHost : address.ip = serverAddress.ip) :
    Lockstep (blksizeIn args.options) content args.destFilepath address 0
      ((Conversation.start session clientAddress rootDirpath
        files).turn address) := by
  obtain ⟨agreed, raw, starts, encoded, sameSize, found⟩ :=
    unhindered.oacks some_ made clientAddress
  obtain ⟨waiting, hostNow, control⟩ :=
    unhindered.askedThere made sameHost
  have agreeable := unhindered.agreeable made encoded address
  obtain ⟨waitingNow, acknowledges⟩ :=
    waiting.hearOack hostNow control agreeable
  have acknowledged :
      newest ((session.run {}).step (deliver address raw)).sent =
        some (ackOf 0).makeRaw := by
    rw [acknowledges]
    exact newest_append _ _
  let reader :=
    Reader.make (rootDirpath ++ slash :: args.filepath) .OCTET
  have lastSent :
      newest (Handler.sent ⟨agreed.send raw, .awaitOackAck reader 0 0⟩) =
        some raw :=
    newest_append _ _
  have hears :
      (session.run {}).step
          (hear address
            (Handler.sent ⟨agreed.send raw, .awaitOackAck reader 0 0⟩)) =
        (session.run {}).step (deliver address raw) := by
    rw [hear_of_newest lastSent]
  have waits :
      Handler.control ⟨agreed.send raw, .awaitOackAck reader 0 0⟩ =
        .awaitOackAck reader 0 0 :=
    rfl
  rw [starts]
  constructor
  · rw [← hears] at waitingNow
    exact ⟨_, waitingNow.toClientWaits⟩
  · have sends :=
      hearOackAck waits sameSize
        (Reader.Behind.make found (blksizeIn args.options))
    rw [← hear_of_newest acknowledged, ← hears] at sends
    exact ⟨_, _, sends⟩

/--
An undisturbed download completes, if the request is not cut, the path passes
the check and nothing else is in the way: after as many turns as the file has
blocks, and one for the options, both parties have returned and the client has
the file; before that the client has not ended.
-/
theorem undisturbed_download_completes
    (unhindered :
      Unhindered args request content rootDirpath files clientFiles)
    (made :
      Client.Session.make args serverAddress stdin clientFiles =
        .ok session)
    (clientAddress : Address) {address : Address}
    (sameHost : address.ip = serverAddress.ip) :
    let start :=
      Conversation.start session clientAddress rootDirpath files
    Done args.destFilepath content
        ((Conversation.turn address)^[turnsOf args content] start) ∧
      ∀ earlier < turnsOf args content, ∀ outcome,
        ((Conversation.turn address)^[earlier] start).client.control ≠
          .ended outcome := by
  intro start
  have positive : 0 < blksizeIn args.options := by
    have least := (blksizeIn_bounds args.options).1
    omega
  have few : chunkCount (blksizeIn args.options) content ≤ 65535 := by
    have bound := unhindered.few
    rw [Nat.mul_comm] at bound
    exact Nat.div_lt_of_lt_mul bound
  have fitsBuffer := blksizeIn_fits args.options
  by_cases none_ : args.options = []
  · have lockstep :=
      unhindered.lockstep none_ made clientAddress sameHost
    have turns :
        turnsOf args content =
          chunkCount (blksizeIn args.options) content := by
      simp [turnsOf, none_]
    rw [turns]
    exact lockstep.completes positive fitsBuffer few
  · have lockstep :=
      unhindered.settles none_ made clientAddress sameHost
    have turns :
        turnsOf args content =
          chunkCount (blksizeIn args.options) content + 1 := by
      simp [turnsOf, none_]
    obtain ⟨done, going⟩ := lockstep.completes positive fitsBuffer few
    rw [turns]
    constructor
    · rw [Function.iterate_succ_apply]
      exact done
    · intro earlier before outcome
      cases earlier with
      | zero =>
          have asked := (unhindered.asked made).1
          rw [Function.iterate_zero_apply,
            show start.client = session.run {} from rfl, asked]
          simp
      | succ earlier =>
          rw [Function.iterate_succ_apply]
          exact going earlier (Nat.lt_of_succ_lt_succ before) outcome

/-- A client which asks for the file `f` in blocks of eight bytes. -/
def smallArgs : TftpClientArgs :=
  ⟨text "f", text "g", .READ, .OCTET, [optionOfEight]⟩

/-- A file of eleven bytes, and a client which can store it. -/
theorem smallUnhindered :
    Unhindered smallArgs (requestOfEight .RRQ) (text "hello world") (text "r")
      (smallDisk (some (text "hello world"))) (smallDisk none) where
  asks :=
    { reads := rfl
      octet := rfl
      carried := carried_requestOfEight (Or.inl rfl) }
  requestable := requestable_optionOfEight
  found := by decide
  under := by decide
  measurable := by
    rintro ⟨option, member, isTsize⟩
    obtain rfl := List.mem_singleton.mp member
    cases isTsize
  space := by
    intro option member isTsize
    obtain rfl := List.mem_singleton.mp member
    cases isTsize
  writable := by decide
  few := by decide

/-- The theorem for this client: one turn for the option, two for the file. -/
theorem undisturbed_download_completes_small :
    turnsOf smallArgs (text "hello world") = 3 ∧
      ∃ session,
        Client.Session.make smallArgs ⟨1, 69⟩ [] (smallDisk none) =
            .ok session ∧
          Done (text "g") (text "hello world")
            ((Conversation.turn ⟨1, 2001⟩)^[3]
              (Conversation.start session ⟨2, 1024⟩ (text "r")
                (smallDisk (some (text "hello world"))))) := by
  obtain ⟨session, made, _⟩ :=
    setupUdpClient_setsUp
      ⟨smallArgs, ⟨1, 69⟩, 512, 1, UdpClient.make, ⟨[], false⟩,
        ⟨smallDisk none, []⟩⟩
  have turns : turnsOf smallArgs (text "hello world") = 3 := by
    decide
  obtain ⟨done, _⟩ :=
    undisturbed_download_completes smallUnhindered made ⟨2, 1024⟩
      (show (⟨1, 2001⟩ : Address).ip = (⟨1, 69⟩ : Address).ip from rfl)
  rw [turns] at done
  exact ⟨turns, session, made, done⟩

end IsaTftp.Download
