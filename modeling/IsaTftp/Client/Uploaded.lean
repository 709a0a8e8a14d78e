import IsaTftp.Files.LineEnds
import IsaTftp.Client.Numbers
import IsaTftp.Client.Requested

/-!
# What SendData sends, in either mode

`SendData` makes its handler of standard input for the mode of the file.  Each
block is what one call of `ReadBytesFromStdin` returns, and the first short one
is the last.
-/

namespace IsaTftp.Client

open IsaTftp.Wire
open IsaTftp.Files
open IsaTftp.Transfer
open IsaTftp.Library.Runs
open IsaTftp.Library.Chunking

/-! ## Successive blocks of standard input -/

/-- A block is never longer than what was asked for. -/
theorem length_readBytesFromStdin_le
    {handler next : StdHandler} {host : HostChoice} {size : Nat}
    {data : Bytes}
    (read : handler.readBytesFromStdin host size = .ok (data, next)) :
    data.length ≤ size := by
  have split_ : ∀ buffer overflow : Bytes,
      (splitChunk size buffer overflow).1.length ≤ size := by
    intro buffer overflow
    unfold splitChunk
    split_ifs with long
    · exact List.length_take_le _ _
    · exact Nat.le_of_not_lt long
  unfold StdHandler.readBytesFromStdin at read
  cases mode : handler.mode with
  | NETASCII =>
      rw [mode] at read
      dsimp only at read
      cases reads :
          StdHandler.readNetascii host.readFails host.stray size
            handler.overflowBuffer handler.stdin with
      | error exception =>
          rw [reads] at read
          cases read
      | ok result =>
          obtain ⟨chunk, overflow, stream⟩ := result
          rw [reads] at read
          cases read
          unfold StdHandler.readNetascii at reads
          cases taken :
              takeFromOverflow host.readFails .failedToReadFromStdin
                host.stray size handler.overflowBuffer handler.stdin with
          | error exception =>
              rw [taken] at reads
              cases reads
          | ok result =>
              obtain ⟨buffer, kept, rest⟩ := result
              rw [taken] at reads
              dsimp only at reads
              cases filled :
                  StdHandler.fillBuffer host.readFails host.stray size
                    buffer rest with
              | error exception =>
                  rw [filled] at reads
                  cases reads
              | ok result =>
                  rw [filled] at reads
                  cases reads
                  exact split_ _ _
  | OCTET =>
      rw [mode] at read
      dsimp only at read
      unfold Stream.read at read
      split_ifs at read
      · cases read
        exact Nat.zero_le size
      · cases read
        exact List.length_take_le _ _

/-- The results of successive calls, of which none fails. -/
inductive Gives (size : Nat) (input : StdHandler) :
    List Bytes → StdHandler → Prop where
  | start : Gives size input [] input
  | block {blocks : List Bytes} {handler next : StdHandler}
      {host : HostChoice} {data : Bytes}
      (before : Gives size input blocks handler)
      (read : handler.readBytesFromStdin host size = .ok (data, next)) :
      Gives size input (blocks ++ [data]) next

/-- In octet mode full blocks are the first chunks of the input. -/
theorem Gives.chunks
    {size : Nat} {stdin : Bytes} {blocks : List Bytes}
    {handler : StdHandler}
    (gives :
      Gives size (StdHandler.make .OCTET ⟨stdin, false⟩) blocks handler)
    (full : ∀ block ∈ blocks, ¬ block.length < size) :
    handler.mode = .OCTET ∧
      handler.stdin = Stream.behind size stdin blocks.length ∧
        blocks.flatten = firstChunks size stdin blocks.length := by
  induction gives with
  | start =>
      refine ⟨rfl, ?_, rfl⟩
      rw [List.length_nil, Stream.behind_zero]
      rfl
  | block before read induction =>
      obtain ⟨octet, behind, chunks⟩ := induction fun block member =>
        full block (List.mem_append_left _ member)
      obtain ⟨block, mode, continues⟩ :=
        StdHandler.readBytesFromStdin_behind octet behind read
      refine ⟨mode, ?_, ?_⟩
      · rw [List.length_append, List.length_singleton]
        exact continues (full _ (by simp))
      · rw [List.flatten_append, chunks, List.length_append,
          List.length_singleton, firstChunks_succ, block]
        simp

/-- Up to the first short block, the blocks are the whole input. -/
theorem Gives.flatten
    {size : Nat} {stdin last : Bytes} {earlier : List Bytes}
    {handler : StdHandler}
    (gives :
      Gives size (StdHandler.make .OCTET ⟨stdin, false⟩)
        (earlier ++ [last]) handler)
    (full : ∀ block ∈ earlier, ¬ block.length < size)
    (short : last.length < size) :
    (earlier ++ [last]).flatten = stdin := by
  generalize all : earlier ++ [last] = blocks at gives
  cases gives with
  | start => simp at all
  | block before read =>
      obtain ⟨rfl, same⟩ := List.append_inj' all rfl
      cases List.singleton_inj.mp same
      obtain ⟨octet, behind, chunks⟩ := before.chunks full
      obtain ⟨rfl, _, _⟩ :=
        StdHandler.readBytesFromStdin_behind octet behind read
      have positive : 0 < size := Nat.zero_lt_of_lt short
      rw [← all, List.flatten_append, chunks]
      simp only [List.flatten_cons, List.flatten_nil, List.append_nil]
      rw [← firstChunks_succ]
      exact
        firstChunks_of_chunkCount_le positive
          ((length_chunk_lt_iff positive stdin _).mp short)

/-! ## A small input in NETASCII mode -/

/-- The first call returns all of a small input, and a line end. -/
theorem readBytesFromStdin_of_small
    {size : Nat} {stdin data : Bytes} {host : HostChoice}
    {next : StdHandler}
    (small : (formatToNETASCII stdin).length + 2 < size)
    (read :
      (StdHandler.make .NETASCII ⟨stdin, false⟩).readBytesFromStdin host
          size =
        .ok (data, next)) :
    data = formatToNETASCII stdin ++ crLf := by
  have room : (formatToNETASCII stdin).length < size := by omega
  have short : stdin.length < size :=
    (length_le_formatToNETASCII stdin).trans_lt room
  have ended :
      encodeAndEndLine size stdin = formatToNETASCII stdin ++ crLf := by
    simp [encodeAndEndLine, room]
  cases fails : host.readFails with
  | true =>
      simp [StdHandler.readBytesFromStdin, StdHandler.make, fails,
        StdHandler.readNetascii, takeFromOverflow, StdHandler.fillBuffer,
        Stream.read, Nat.zero_lt_of_lt short] at read
  | false =>
      simp [StdHandler.readBytesFromStdin, StdHandler.make, fails,
        StdHandler.readNetascii, takeFromOverflow, StdHandler.fillBuffer,
        Stream.read, Nat.zero_lt_of_lt short, Nat.ne_of_lt short,
        List.take_of_length_le (Nat.le_of_lt short), splitChunk, ended,
        Nat.not_lt.mpr (Nat.le_of_lt small)] at read
      exact read.1.symm

/-- The first block is what a fresh handler returns. -/
theorem Gives.head
    {size : Nat} {input handler : StdHandler} {blocks : List Bytes}
    (gives : Gives size input blocks handler) :
    (blocks = [] → handler = input) ∧
      ∀ first, blocks.head? = some first →
        ∃ host next,
          input.readBytesFromStdin host size = .ok (first, next) := by
  induction gives with
  | start => simp
  | block before read induction =>
      rename_i blocks handler next host data
      refine ⟨by simp, ?_⟩
      intro first isFirst
      cases blocks with
      | nil =>
          rw [induction.1 rfl] at read
          cases isFirst
          exact ⟨host, next, read⟩
      | cons block blocks => exact induction.2 first isFirst

/-- So a small input is sent in one block. -/
theorem Gives.of_small
    {size : Nat} {stdin last : Bytes} {earlier : List Bytes}
    {handler : StdHandler}
    (gives :
      Gives size (StdHandler.make .NETASCII ⟨stdin, false⟩)
        (earlier ++ [last]) handler)
    (small : (formatToNETASCII stdin).length + 2 < size)
    (full : ∀ block ∈ earlier, ¬ block.length < size) :
    earlier = [] ∧ last = formatToNETASCII stdin ++ crLf := by
  cases earlier with
  | nil =>
      obtain ⟨host, next, read⟩ := gives.head.2 last rfl
      exact ⟨rfl, readBytesFromStdin_of_small small read⟩
  | cons first earlier =>
      obtain ⟨host, next, read⟩ := gives.head.2 first rfl
      have whole := readBytesFromStdin_of_small small read
      have short : first.length < size := by
        rw [whole, List.length_append]
        exact small
      exact absurd short (full first List.mem_cons_self)

/-! ## What has been sent -/

/-- The blocks which a server with the block size of the client has got. -/
def Session.payloads (session : Session) : List Bytes :=
  (dataOn session.blksize.toNat session.udp.sent).map Prod.snd

/-- What has been sent: full blocks, and the last one. -/
structure Feeds (input : StdHandler) (session : Session)
    (earlier : List Bytes) (last : Bytes) (handler : StdHandler) :
    Prop where
  requests : OctetRequests session.udp.sent
  given :
    Gives session.blksize.toNat input (earlier ++ [last]) handler
  full : ∀ block ∈ earlier, ¬ block.length < session.blksize.toNat
  onWire : session.payloads = earlier ++ [last]

/-- The session before the first block. -/
structure Ready (args : TftpClientArgs) (stdin : Bytes)
    (session : Session) : Prop where
  requests : OctetRequests session.udp.sent
  noData : ∀ size, dataOn size session.udp.sent = []
  input : session.stdin = ⟨stdin, false⟩
  fileMode : session.args.fileMode = args.fileMode

/-- The handler which `SendData` makes. -/
def inputOf (args : TftpClientArgs) (stdin : Bytes) : StdHandler :=
  StdHandler.make (formatOfMode args.fileMode) ⟨stdin, false⟩

/-- At every receive, and when the function has returned. -/
def Uploads (args : TftpClientArgs) (stdin : Bytes)
    (client : TftpClient) : Prop :=
  match client.control with
  | .awaitWrqReply => Ready args stdin client.session
  | .awaitAck sending _ _ =>
      (∃ earlier,
        Feeds (inputOf args stdin) client.session earlier sending.data
          sending.stdHandler) ∧
        sending.lastPacketSent =
          decide (sending.data.length < client.session.blksize.toNat)
  | .ended .returned =>
      ∃ earlier last handler,
        Feeds (inputOf args stdin) client.session earlier last handler ∧
          last.length < client.session.blksize.toNat
  | .ended _ => True
  | _ => False

variable {args : TftpClientArgs} {stdin : Bytes} {event : Event}
variable {session : Session} {earlier : List Bytes}

namespace Uploads

theorem checkForSigintWRQ (session : Session) {received : Bool}
    {proceed : Session → TftpClient}
    (proceeds : Uploads args stdin (proceed session)) :
    Uploads args stdin (session.checkForSigintWRQ received proceed) := by
  unfold Session.checkForSigintWRQ
  split_ifs
  · trivial
  · exact proceeds

/-- A client which has failed has not returned. -/
theorem of_failsFrom
    {client : TftpClient} (fails : FailsFrom session client) :
    Uploads args stdin client := by
  obtain ⟨outcome, isOver, failed⟩ := fails.failed
  unfold Uploads
  rw [isOver]
  cases outcome with
  | returned => exact failed.elim
  | _ => trivial

/-- The head of the loop for one block. -/
theorem awaitAckAgain
    {sending : Sending}
    (feeds :
      Feeds (inputOf args stdin) session earlier sending.data
        sending.stdHandler)
    (last : sending.lastPacketSent =
      decide (sending.data.length < session.blksize.toNat))
    (retries : Nat) :
    Uploads args stdin
      (session.awaitAckAgain sending retries event) := by
  unfold Session.awaitAckAgain
  split_ifs
  · apply checkForSigintWRQ
    exact ⟨⟨earlier, feeds⟩, last⟩
  · apply checkForSigintWRQ
    trivial

/-- Reading a block and sending it. -/
theorem sendBlock
    {handler : StdHandler}
    (requests : OctetRequests session.udp.sent)
    (given :
      Gives session.blksize.toNat (inputOf args stdin) earlier handler)
    (full : ∀ block ∈ earlier, ¬ block.length < session.blksize.toNat)
    (onWire : session.payloads = earlier) (blockNumber : UInt16) :
    Uploads args stdin (session.sendBlock handler blockNumber event) := by
  unfold Session.sendBlock
  cases read :
      handler.readBytesFromStdin event.host session.blksize.toNat with
  | error exception =>
      cases exception with
      | failedToReadFromStdin => trivial
      | _ => trivial
  | ok result =>
      obtain ⟨data, next⟩ := result
      let packet : DataPacket := ⟨blockNumber, data⟩
      have sent :=
        dataOn_append_data session.udp.sent packet session.serverAddress
          (length_readBytesFromStdin_le read)
      apply awaitAckAgain
      · constructor
        · exact
            requests.append_of_opcode packet.getOpcode_makeRaw (by decide)
              session.serverAddress
        · exact given.block read
        · exact full
        · show (dataOn session.blksize.toNat
            (session.udp.sent ++ _)).map Prod.snd = _
          rw [sent, List.map_append, ← onWire]
          rfl
      · rfl

/-- The head of the outer loop. -/
theorem sendNextBlock
    {handler : StdHandler}
    (requests : OctetRequests session.udp.sent)
    (given :
      Gives session.blksize.toNat (inputOf args stdin) earlier handler)
    (full : ∀ block ∈ earlier, ¬ block.length < session.blksize.toNat)
    (onWire : session.payloads = earlier) (blockNumber : UInt16) :
    Uploads args stdin
      (session.sendNextBlock handler blockNumber event) := by
  unfold Session.sendNextBlock
  apply checkForSigintWRQ
  exact sendBlock requests given full onWire blockNumber

/-- The block was acknowledged. -/
theorem afterAck
    {sending : Sending}
    (feeds :
      Feeds (inputOf args stdin) session earlier sending.data
        sending.stdHandler)
    (last : sending.lastPacketSent =
      decide (sending.data.length < session.blksize.toNat)) :
    Uploads args stdin (session.afterAck sending event) := by
  unfold Session.afterAck
  apply checkForSigintWRQ
  split_ifs with isLast
  · rw [last, decide_eq_true_eq] at isLast
    refine ⟨earlier, sending.data, sending.stdHandler, ?_, isLast⟩
    exact ⟨feeds.requests, feeds.given, feeds.full, feeds.onWire⟩
  · rw [last, decide_eq_true_eq] at isLast
    apply sendNextBlock
    · exact feeds.requests
    · exact feeds.given
    · intro block member
      rcases List.mem_append.mp member with before | current
      · exact feeds.full block before
      · rw [List.mem_singleton.mp current]
        exact isLast
    · exact feeds.onWire

/-- One reception while the ACK of a block is awaited. -/
theorem stepAwaitAck
    {sending : Sending}
    (feeds :
      Feeds (inputOf args stdin) session earlier sending.data
        sending.stdHandler)
    (last : sending.lastPacketSent =
      decide (sending.data.length < session.blksize.toNat))
    (retries foreign : Nat) :
    Uploads args stdin
      (session.stepAwaitAck sending retries foreign event) := by
  have slower :
      Feeds (inputOf args stdin) session.increaseTimeout earlier
        sending.data sending.stdHandler :=
    ⟨feeds.requests, feeds.given, feeds.full, feeds.onWire⟩
  have step :=
    SettledStep.stepAwaitAck session sending retries foreign event
  generalize session.stepAwaitAck sending retries foreign event = next
    at step ⊢
  cases step with
  | refuses sender strangers =>
      refine ⟨⟨earlier, ?_⟩, last⟩
      constructor
      · exact
          feeds.requests.append_of_opcode unknownSender.getOpcode_makeRaw
            (by decide) sender
      · exact feeds.given
      · exact feeds.full
      · rw [← feeds.onWire]
        simp [Session.payloads]
  | again => exact awaitAckAgain feeds last _
  | slowerAgain => exact awaitAckAgain slower last _
  | raises => trivial
  | interruptsWrite => trivial
  | acknowledged waits =>
      cases waits
      exact afterAck feeds last
  | abandons waits => cases waits
  | interruptsRead waits => cases waits
  | stores waits => cases waits
  | isOver ended => cases ended

/-! ### The first answer -/

/-- `SendData` makes its handler and begins with the first block. -/
theorem sendData (ready : Ready args stdin session) :
    Uploads args stdin (session.sendData event) := by
  unfold Session.sendData
  apply checkForSigintWRQ
  dsimp only
  cases scanned :
      Session.scanBlksize session.blksize session.args.options with
  | error exception => trivial
  | ok blksize =>
      have input :
          StdHandler.make (formatOfMode session.args.fileMode)
              session.stdin =
            inputOf args stdin := by
        rw [ready.fileMode, ready.input]
        rfl
      have nothing :
          { session with blksize := blksize }.payloads = [] :=
        List.map_eq_nil_iff.mpr (ready.noData _)
      rw [input]
      dsimp only
      apply sendNextBlock
      · exact ready.requests
      · exact .start
      · simp
      · exact nothing

/-- The one reception of `SendWrq`. -/
theorem stepAwaitWrqReply (ready : Ready args stdin session) :
    Uploads args stdin (session.stepAwaitWrqReply event) := by
  cases agrees :
      TftpClient.agreement ⟨session, .awaitWrqReply⟩ event with
  | some agreed =>
      obtain ⟨sender, bytes, _, acknowledges⟩ :=
        TftpClient.acknowledges_of_agreement agrees
      have setsUp := acknowledges.setsUp
      have stillReady : Ready args stdin agreed := by
        constructor
        · rw [setsUp.sent]
          exact ready.requests
        · rw [setsUp.sent]
          exact ready.noData
        · rw [setsUp.stdin]
          exact ready.input
        · rw [setsUp.args]
          exact ready.fileMode
      rw [stepAwaitWrqReply_of_agreement agrees]
      apply checkForSigintWRQ
      exact sendData stillReady
  | none =>
      rcases stepAwaitWrqReply_cases agrees with fails | ⟨_, continues⟩
      · exact of_failsFrom fails
      · rw [continues]
        apply checkForSigintWRQ
        apply sendData
        exact
          ⟨ready.requests, ready.noData, ready.input, ready.fileMode⟩

/-! ### Runs -/

theorem step {client : TftpClient}
    (uploads : Uploads args stdin client) (event : Event) :
    Uploads args stdin (client.step event) := by
  obtain ⟨session, control⟩ := client
  cases control with
  | awaitWrqReply => exact stepAwaitWrqReply uploads
  | awaitAck sending retries foreign =>
      obtain ⟨⟨earlier, feeds⟩, last⟩ := uploads
      exact stepAwaitAck feeds last retries foreign
  | ended outcome => exact uploads
  | awaitRrqReply => exact uploads.elim
  | awaitData => exact uploads.elim

/-- At the end of every run of a client which writes. -/
theorem run
    {serverAddress : Address} {files : FileSystem}
    (made : Session.make args serverAddress stdin files = .ok session)
    (pathFree : nul ∉ args.destFilepath) (first : Event)
    (events : List Event) :
    Uploads args stdin
      (run TftpClient.step (session.sendWrq first) events) := by
  have setsUp := setsUp_of_setupUdpClient made
  have sameArgs : session.args = args := setsUp.args
  have nothing : session.udp.sent = [] := setsUp.sent
  have begins : Uploads args stdin (session.sendWrq first) := by
    unfold Session.sendWrq
    apply checkForSigintWRQ
    dsimp only
    rw [sameArgs]
    split
    · trivial
    · rename_i raw encoded
      have known := ReadWritePacket.getOpcode_makeRaw encoded
      apply checkForSigintWRQ
      constructor
      · rw [Session.send_udp, UdpClient.sent_send, nothing]
        exact
          OctetRequests.nil.append_request pathFree rfl encoded
            session.serverAddress
      · intro size
        rw [Session.send_udp, UdpClient.sent_send, nothing]
        exact dataOn_append_of_opcode known (by simp) size [] _
      · exact setsUp.stdin
      · rw [Session.send_args, sameArgs]
  exact
    run_invariant (Uploads args stdin)
      (fun _ event uploads => uploads.step event) begins events

end Uploads

end IsaTftp.Client
