import IsaTftp.Files.Unencoded
import IsaTftp.Client.InOrder
import IsaTftp.Client.Requested

/-!
# What Read does with the blocks, in either mode

The writer is made before the request is sent, for the mode of the file.  Every
accepted block goes through it, in order, and nothing else does; when the
function returns, the writer is destroyed.
-/

namespace IsaTftp.Client

open IsaTftp.Wire
open IsaTftp.Files
open IsaTftp.Transfer
open IsaTftp.Library.Runs

/-- The writer which `Read` makes has written these blocks. -/
def Stored (args : TftpClientArgs) (files : FileSystem) (writer : Writer)
    (storage : Storage) (accepted : List (Nat × Bytes)) : Prop :=
  (Writer.make args.destFilepath (formatOfMode args.fileMode)).writeAll
      ⟨files, []⟩ {} (accepted.map Prod.snd) =
    (.done, writer, storage)

/-- The writer has been destroyed; `closes` says that this has not failed. -/
def Closed (closes : Prop) (args : TftpClientArgs) (files : FileSystem)
    (storage : Storage) (accepted : List (Nat × Bytes)) : Prop :=
  ∃ writer stored host, Stored args files writer stored accepted ∧
    storage = writer.close stored host ∧
      (closes → storage = writer.close stored {})

/-- At every receive, and when the function has returned. -/
def Hands (closes : Prop) (args : TftpClientArgs) (files : FileSystem)
    (client : TftpClient) (accepted : List (Nat × Bytes)) : Prop :=
  match client.control with
  | .awaitRrqReply writer _ =>
      OctetRequests client.session.udp.sent ∧
        client.session.args.filepath = args.filepath ∧ accepted = [] ∧
          Stored args files writer client.session.storage accepted
  | .awaitData writer _ _ _ =>
      OctetRequests client.session.udp.sent ∧
        Stored args files writer client.session.storage accepted
  | .ended .returned =>
      OctetRequests client.session.udp.sent ∧ accepted ≠ [] ∧
        Closed closes args files client.session.storage accepted
  | .ended _ => True
  | _ => False

section

variable {closes : Prop} {args : TftpClientArgs} {files : FileSystem}
variable {writer : Writer} {accepted : List (Nat × Bytes)}
variable {session : Session} {event : Event}

theorem Stored.append
    (stored : Stored args files writer session.storage accepted)
    {host : HostChoice} {data : Bytes} {next : Writer} {after : Storage}
    (result : writer.writeFile session.storage host data =
      (.done, next, after)) (number : Nat) :
    Stored args files next after (accepted ++ [(number, data)]) := by
  unfold Stored
  rw [List.map_append]
  exact Writer.writeAll_concat stored (Writer.writeFile_of_done result)

namespace Hands

theorem interruptRead (session : Session) (host : HostChoice)
    (writer : Writer) :
    Hands closes args files (session.interruptRead host writer)
      accepted := by
  unfold Session.interruptRead
  simp only [Session.send_storage]
  cases (writer.close session.storage host).deleteFile host
      writer.filepath with
  | mk result storage =>
      cases result with
      | ok => trivial
      | error exception => trivial

theorem checkForSigintRRQ (session : Session) (host : HostChoice)
    {received : Bool} {proceed : Session → TftpClient}
    (proceeds : Hands closes args files (proceed session) accepted) :
    Hands closes args files
      (session.checkForSigintRRQ host writer received proceed)
      accepted := by
  unfold Session.checkForSigintRRQ
  split_ifs
  · exact interruptRead session host writer
  · exact proceeds

/-- An ACK is no request. -/
theorem requests_ack
    (requests : OctetRequests session.udp.sent) (ack : AckPacket) :
    OctetRequests (session.send ack.makeRaw).udp.sent :=
  requests.append_of_opcode ack.getOpcode_makeRaw (by decide) _

/-- The head of the loop for one block. -/
theorem awaitDataAgain
    (requests : OctetRequests session.udp.sent)
    (stored : Stored args files writer session.storage accepted)
    (blockNumber : UInt16) (retries : Nat) :
    Hands closes args files
      (session.awaitDataAgain writer blockNumber retries event)
      accepted := by
  unfold Session.awaitDataAgain
  split_ifs
  · apply checkForSigintRRQ
    exact ⟨requests_ack requests ⟨blockNumber⟩, stored⟩
  · apply checkForSigintRRQ
    trivial

/-- Behind a block: receive the next one, or end. -/
theorem afterData
    (requests : OctetRequests session.udp.sent)
    (stored : Stored args files writer session.storage accepted)
    {last : Bool}
    (ends : last = true →
      accepted ≠ [] ∧ event.host.writeFails = none)
    (takes : closes → event.host.closeFails = false)
    (blockNumber : UInt16) :
    Hands closes args files
      (session.afterData writer blockNumber last event) accepted := by
  unfold Session.afterData
  split_ifs with isLast
  · obtain ⟨some_, writes⟩ := ends isLast
    unfold Session.finishRead
    apply checkForSigintRRQ
    refine
      ⟨requests_ack requests ⟨blockNumber⟩, some_, writer,
        session.storage, event.host, stored, rfl, ?_⟩
    intro isClosed
    exact Writer.close_of_takes writes (takes isClosed)
  · exact awaitDataAgain requests stored blockNumber 0

/-- Between the two loops. -/
theorem afterRrqReply
    (requests : OctetRequests session.udp.sent)
    (stored : Stored args files writer session.storage accepted)
    {last : Bool}
    (ends : last = true →
      accepted ≠ [] ∧ event.host.writeFails = none)
    (takes : closes → event.host.closeFails = false)
    (blockNumber : UInt16) :
    Hands closes args files
      (session.afterRrqReply writer blockNumber last event)
      accepted := by
  unfold Session.afterRrqReply
  apply checkForSigintRRQ
  dsimp only
  cases scanned :
      Session.scanBlksize session.timeoutReset.blksize
        session.timeoutReset.args.options with
  | error exception => trivial
  | ok blksize =>
      apply checkForSigintRRQ
        { session.timeoutReset with blksize := blksize }
      apply afterData
      · exact requests
      · exact stored
      · exact ends
      · exact takes

/-- The block with the expected number is written. -/
theorem storeBlock
    (session : Session)
    (stored : Stored args files writer session.storage accepted)
    {expected : Nat} {data : Bytes} {proceed : Session → Writer → TftpClient}
    (proceeds : ∀ after next, event.host.writeFails = none →
      Stored args files next after (accepted ++ [(expected, data)]) →
        Hands closes args files
          (proceed (session.withStorage after) next)
          (accepted ++ [(expected, data)])) :
    Hands closes args files (session.storeBlock writer event data proceed)
      (accepted ++
        (acceptBlock expected writer session.storage event.host
          (expected, data)).toList) := by
  unfold Session.storeBlock acceptBlock
  cases result : writer.writeFile session.storage event.host data with
  | mk status rest =>
      obtain ⟨next, after⟩ := rest
      cases status with
      | done =>
          simp only [and_self, if_true, Option.toList_some]
          exact
            proceeds after next (Writer.writeFails_of_done result)
              (stored.append result expected)
      | threw exception => trivial
      | undefined => trivial

/-- One reception in the loop for the DATA packets. -/
theorem stepAwaitData
    (requests : OctetRequests session.udp.sent)
    (stored : Stored args files writer session.storage accepted)
    (takes : closes → event.host.closeFails = false)
    (blockNumber : UInt16) (retries foreign : Nat) :
    Hands closes args files
      (session.stepAwaitData writer blockNumber retries foreign event)
      (accepted ++
        ((session.hears foreign event.reception).bind
          (acceptBlock (blockNumber.toNat + 1) writer session.storage
            event.host)).toList) := by
  unfold Session.stepAwaitData Session.hears
  rcases session.recievePacketFromServer_cases foreign event.reception
    with ⟨sender, result⟩ | ⟨exception, result⟩ |
      ⟨sender, bytes, _, result⟩
  · simp only [result, Option.bind_none, Option.toList_none,
      List.append_nil]
    have replied :=
      requests.append_of_opcode unknownSender.getOpcode_makeRaw
        (by decide) sender
    exact ⟨replied, stored⟩
  · simp only [result, Option.bind_none, Option.toList_none,
      List.append_nil]
    cases exception with
    | udpTimeout =>
        apply awaitDataAgain
        · exact requests
        · exact stored
    | udpSigint => exact interruptRead session event.host writer
    | _ => trivial
  · simp only [result]
    rcases classifyData_cases (text "Server") (blockNumber.toNat + 1)
        (blockNumber.toNat + 1) session.blksize.toNat
        (bytes.take UdpClient.maxPacketSize) with
      ⟨silent, ignored | ⟨exception, refused⟩⟩ |
        ⟨number, data, carried, ⟨rfl, taken⟩ | ⟨lower, old⟩ |
          ⟨higher, exception, refused⟩⟩
    · simp only [silent, ignored, Option.bind_none, Option.toList_none,
        List.append_nil]
      exact awaitDataAgain requests stored blockNumber retries
    · simp only [refused]
      trivial
    · simp only [carried, taken, Option.bind_some]
      apply storeBlock session stored
      intro after next writes storedNow
      apply afterData
      · exact requests
      · exact storedNow
      · exact fun _ => ⟨by simp, writes⟩
      · exact takes
    · simp only [carried, old, Option.bind_some, acceptBlock,
        Nat.ne_of_lt lower, false_and, if_false, Option.toList_none,
        List.append_nil]
      apply awaitDataAgain
      · exact requests
      · exact stored
    · simp only [refused]
      trivial

/-! ### The first answer -/

/-- The first block answers the request. -/
theorem acceptFirstBlock
    (requests : OctetRequests session.udp.sent)
    (stored : Stored args files writer session.storage [])
    (takes : closes → event.host.closeFails = false) (data : Bytes) :
    Hands closes args files (session.acceptFirstBlock writer event data)
      (acceptBlock 1 writer session.storage event.host
        (1, data)).toList := by
  have setUp :
      (session.withOptions []).setupUdpClient =
        .ok (session.withOptions []) :=
    rfl
  unfold Session.acceptFirstBlock
  rw [setUp]
  apply storeBlock (session.withOptions []) stored
  intro after next writes storedNow
  apply afterRrqReply
  · exact requests
  · exact storedNow
  · exact fun _ => ⟨by simp, writes⟩
  · exact takes

/-- An OACK answers the request. -/
theorem acceptOack
    (requests : OctetRequests session.udp.sent)
    (stored : Stored args files writer session.storage [])
    (takes : closes → event.host.closeFails = false)
    (options : List TftpOption) :
    Hands closes args files (session.acceptOack writer event options)
      [] := by
  unfold Session.acceptOack
  dsimp only
  cases space : (session.withOptions options).checkSpace options with
  | error exception => trivial
  | ok enough =>
      obtain ⟨next, setUp, setsUp⟩ :=
        setupUdpClient_setsUp (session.withOptions options)
      simp only [setUp]
      apply afterRrqReply
      · rw [setsUp.sent]
        exact requests
      · rw [setsUp.storage]
        exact stored
      · intro last
        cases last
      · exact takes

/-- The head of the loop which sends the RRQ. -/
theorem awaitRrqReplyAgain
    (requests : OctetRequests session.udp.sent)
    (pathFree : nul ∉ args.filepath)
    (samePath : session.args.filepath = args.filepath)
    (stored : Stored args files writer session.storage [])
    (retries : Nat) :
    Hands closes args files
      (session.awaitRrqReplyAgain writer retries event) [] := by
  unfold Session.awaitRrqReplyAgain
  apply checkForSigintRRQ
  split_ifs
  · dsimp only
    split
    · trivial
    · rename_i raw encoded
      rw [← samePath] at pathFree
      refine ⟨?_, samePath, rfl, stored⟩
      exact
        requests.append_request pathFree rfl encoded session.serverAddress
  · trivial

/-- One reception in the loop which sends the RRQ. -/
theorem stepAwaitRrqReply
    (requests : OctetRequests session.udp.sent)
    (pathFree : nul ∉ args.filepath)
    (samePath : session.args.filepath = args.filepath)
    (stored : Stored args files writer session.storage [])
    (takes : closes → event.host.closeFails = false) (retries : Nat) :
    Hands closes args files
      (session.stepAwaitRrqReply writer retries event)
      ((session.hearsAnswer event.reception).bind
        (acceptBlock 1 writer session.storage event.host)).toList := by
  unfold Session.stepAwaitRrqReply Session.hearsAnswer
  cases heard : event.reception with
  | timeout =>
      apply awaitRrqReplyAgain
      · exact requests
      · exact pathFree
      · exact samePath
      · exact stored
  | sigint => exact interruptRead session event.host writer
  | failure => trivial
  | datagram sender bytes =>
      simp only [receive]
      cases classified :
          (session.adoptPort sender).classifyRrqReply
            (bytes.take UdpClient.maxPacketSize) with
      | error exception => trivial
      | ok reply =>
          rcases classifyRrqReply_cases classified with
            ⟨data, rfl, _, carried⟩ | ⟨oack, rfl, parsed, _⟩
          · have carried :
                dataIn session.blksize.toNat
                    (bytes.take UdpClient.maxPacketSize) =
                  some (1, data) := carried
            simp only [carried, Option.bind_some]
            apply acceptFirstBlock
            · exact requests
            · exact stored
            · exact takes
          · have silent :=
              dataIn_of_opcode (OackPacket.getOpcode_ofRaw parsed)
                (by decide) session.blksize.toNat
            simp only [silent, Option.bind_none, Option.toList_none]
            apply acceptOack
            · exact requests
            · exact stored
            · exact takes

/-! ### Runs -/

/-- One step: a block is accepted and written, or none is. -/
theorem step
    {client : TftpClient} (pathFree : nul ∉ args.filepath)
    (hands : Hands closes args files client accepted)
    (takes : closes → event.host.closeFails = false) :
    Hands closes args files (client.step event)
      (accepted ++ (client.accepts event).toList) := by
  obtain ⟨session, control⟩ := client
  cases control with
  | awaitRrqReply writer retries =>
      obtain ⟨requests, samePath, rfl, stored⟩ := hands
      exact
        stepAwaitRrqReply requests pathFree samePath stored takes retries
  | awaitData writer blockNumber retries foreign =>
      obtain ⟨requests, stored⟩ := hands
      exact
        stepAwaitData requests stored takes blockNumber retries foreign
  | ended outcome =>
      simp only [TftpClient.accepts, Option.toList_none, List.append_nil]
      exact hands
  | awaitWrqReply => exact hands.elim
  | awaitAck => exact hands.elim

/-- At the end of every run of a client which reads. -/
theorem run
    {serverAddress : Address} {stdin : Bytes}
    (made : Session.make args serverAddress stdin files = .ok session)
    (pathFree : nul ∉ args.filepath) (first : Event)
    (events : List Event) :
    Hands (∀ event ∈ events, event.host.closeFails = false) args files
      (run TftpClient.step (session.read first) events)
      (receivingClient.accepted (session.read first) events) := by
  have setsUp := setsUp_of_setupUdpClient made
  have sameArgs : session.args = args := setsUp.args
  have sameStorage : session.storage = ⟨files, []⟩ := setsUp.storage
  have nothing : session.udp.sent = [] := setsUp.sent
  have begins :
      Hands (∀ event ∈ events, event.host.closeFails = false) args files
        (session.read first) [] := by
    unfold Session.read
    rw [sameArgs]
    apply awaitRrqReplyAgain
    · rw [nothing]
      exact .nil
    · exact pathFree
    · rw [sameArgs]
    · rw [sameStorage]
      rfl
  refine
    observed_invariant
      (Hands (∀ event ∈ events, event.host.closeFails = false) args files)
      ?_ begins
  intro client event member accepted hands
  exact hands.step pathFree fun takes => takes event member

end Hands

/-! ## The file afterwards -/

/-- In octet mode every call appends its block. -/
theorem storedBlocks_of_writeAll
    {path : Path} {storage stored : Storage} {next : Writer}
    {blocks : List (Nat × Bytes)}
    (before : StoredBlocks path storage writer accepted)
    (result :
      writer.writeAll storage {} (blocks.map Prod.snd) =
        (.done, next, stored)) :
    StoredBlocks path stored next (accepted ++ blocks) := by
  induction blocks generalizing writer storage accepted with
  | nil =>
      cases result
      rw [List.append_nil]
      exact before
  | cons block blocks induction =>
      rw [List.map_cons] at result
      unfold Writer.writeAll at result
      rcases before.writeFile {} block with
        ⟨_, _, _, _, refused, _⟩ | ⟨reached, after, wrote, later⟩
      · rw [refused] at result
        cases result
      · rw [wrote] at result
        have all := induction later result
        rwa [List.append_assoc, List.singleton_append] at all

/--
The file is the accepted blocks, but for line ends, exactly if they were
written in octet mode or contain no CR NUL.
-/
theorem Closed.sameUpToLineEnds_iff
    {storage : Storage} (closed : Closed closes args files storage accepted)
    (some_ : accepted ≠ []) (takes : args.fileMode = .NETASCII → closes) :
    ∃ content,
      storage.files.content args.destFilepath = some content ∧
        (SameUpToLineEnds (accepted.map Prod.snd).flatten content ↔
          args.fileMode = .OCTET ∨
            ¬ [cr, nul] <:+: (accepted.map Prod.snd).flatten) := by
  obtain ⟨writer, stored, host, wrote, same, whole⟩ := closed
  unfold Stored at wrote
  cases fileMode : args.fileMode with
  | OCTET =>
      rw [fileMode] at wrote
      have blocks :=
        storedBlocks_of_writeAll (.make rfl args.destFilepath) wrote
      rw [List.nil_append] at blocks
      refine ⟨(accepted.map Prod.snd).flatten, ?_, ?_⟩
      · rw [same, close_of_nothingHeld blocks.nothingHeld, ← blocks.blocks]
        exact blocks.content some_
      · exact iff_of_true (.refl _) (Or.inl rfl)
  | NETASCII =>
      rw [fileMode] at wrote
      obtain ⟨written, held, decodes, content⟩ :=
        Writer.content_of_writeAll (mt List.map_eq_nil_iff.mp some_) wrote
      refine ⟨written ++ held, ?_, ?_⟩
      · rw [whole (takes fileMode)]
        exact content
      · rw [sameUpToLineEnds_decodeBlocks_iff decodes]
        simp

end

end IsaTftp.Client
