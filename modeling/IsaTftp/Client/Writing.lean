import IsaTftp.Client.Reading
import IsaTftp.Client.Receiver
import IsaTftp.Client.Sender
import IsaTftp.Library.ManySenders

/-!
# What a writing client says

`SendWrq` sends its request once, and `SendData` sends blocks and ERROR
packets.  Whether the first answer or a timeout makes the blocks begin, their
size is the one which was asked for, unless an OACK names another one.
-/

namespace IsaTftp.Client

open IsaTftp.Wire
open IsaTftp.Files
open IsaTftp.Transfer
open IsaTftp.Library.StopAndWait

/-- A writing client, which has said nothing else. -/
def Writes (request : Bytes) (client : TftpClient) : Prop :=
  Saying request .DATA client.session.udp.sent ∧
    match client.control with
    | .awaitRrqReply _ _ => False
    | .awaitData _ _ _ _ => False
    | _ => True

namespace Writes

variable {request : Bytes} {session : Session}

theorem raise (session : Session)
    (saying : Saying request .DATA session.udp.sent)
    (exception : Exception) :
    Writes request (session.raise exception) :=
  ⟨saying.reportException session.serverAddress exception, trivial⟩

theorem interruptWrite (session : Session)
    (saying : Saying request .DATA session.udp.sent) :
    Writes request session.interruptWrite :=
  ⟨saying.append_error Session.interrupted _, trivial⟩

theorem checkForSigintWRQ
    (session : Session) (saying : Saying request .DATA session.udp.sent)
    {received : Bool} {proceed : Session → TftpClient}
    (proceeds : Writes request (proceed session)) :
    Writes request (session.checkForSigintWRQ received proceed) := by
  unfold Session.checkForSigintWRQ
  split_ifs
  · exact interruptWrite session saying
  · exact proceeds

/-- The head of the wait loop. -/
theorem awaitAckAgain (session : Session)
    (saying : Saying request .DATA session.udp.sent)
    (sending : Sending) (retries : Nat) (event : Event) :
    Writes request (session.awaitAckAgain sending retries event) := by
  unfold Session.awaitAckAgain
  split_ifs
  · apply checkForSigintWRQ session saying
    exact ⟨saying, trivial⟩
  · apply checkForSigintWRQ session saying
    exact raise session saying timeoutError

/-- Read, send, wait. -/
theorem sendNextBlock (session : Session)
    (saying : Saying request .DATA session.udp.sent)
    (handler : StdHandler) (blockNumber : UInt16) (event : Event) :
    Writes request (session.sendNextBlock handler blockNumber event) := by
  unfold Session.sendNextBlock
  apply checkForSigintWRQ session saying
  unfold Session.sendBlock
  split
  · exact raise session saying _
  · exact raise session saying _
  · rename_i data next _
    let block : DataPacket := ⟨blockNumber, data⟩
    exact
      awaitAckAgain (session.send block.makeRaw)
        (saying.append_data block _) _ 0 event

/-- The block was acknowledged. -/
theorem afterAck (session : Session)
    (saying : Saying request .DATA session.udp.sent)
    (sending : Sending) (event : Event) :
    Writes request (session.afterAck sending event) := by
  unfold Session.afterAck
  apply checkForSigintWRQ session saying
  split_ifs
  · exact ⟨saying, trivial⟩
  · exact sendNextBlock session.timeoutReset saying _ _ event

theorem sendData (session : Session)
    (saying : Saying request .DATA session.udp.sent) (event : Event) :
    Writes request (session.sendData event) := by
  unfold Session.sendData
  apply checkForSigintWRQ session saying
  dsimp only
  split
  · exact raise session saying _
  · rename_i blksize _
    exact
      sendNextBlock { session with blksize := blksize } saying _ 1 event

/-- The one reception of `SendWrq`. -/
theorem stepAwaitWrqReply (session : Session)
    (saying : Saying request .DATA session.udp.sent) (event : Event) :
    Writes request (session.stepAwaitWrqReply event) := by
  cases agrees :
      TftpClient.agreement ⟨session, .awaitWrqReply⟩ event with
  | some agreed =>
      obtain ⟨sender, bytes, _, acknowledges⟩ :=
        TftpClient.acknowledges_of_agreement agrees
      have sayingNow : Saying request .DATA agreed.udp.sent := by
        rw [acknowledges.setsUp.sent]
        exact saying
      rw [stepAwaitWrqReply_of_agreement agrees]
      apply checkForSigintWRQ agreed sayingNow
      exact sendData agreed sayingNow event
  | none =>
      unfold Session.stepAwaitWrqReply
      cases heard : event.reception with
      | timeout =>
          apply checkForSigintWRQ session.increaseTimeout saying
          exact sendData session.increaseTimeout.timeoutReset saying event
      | sigint => exact interruptWrite session saying
      | failure => exact raise session saying _
      | datagram sender bytes =>
          simp only [TftpClient.agreement, heard, receive,
            Session.agreeWrq] at agrees
          simp only [receive]
          cases accepted :
              (session.adoptPort sender).acceptWrqReply
                (bytes.take UdpClient.maxPacketSize) with
          | error exception =>
              exact raise (session.adoptPort sender) saying exception
          | ok next =>
              rw [accepted] at agrees
              cases agrees

/-- Nothing else is said as long as the client writes. -/
theorem step {client : TftpClient} (writes : Writes request client)
    (event : Event) : Writes request (client.step event) := by
  obtain ⟨session, control⟩ := client
  obtain ⟨saying, knows⟩ := writes
  cases control with
  | awaitRrqReply => exact knows.elim
  | awaitData => exact knows.elim
  | awaitWrqReply => exact stepAwaitWrqReply session saying event
  | ended outcome => exact ⟨saying, trivial⟩
  | awaitAck sending retries foreign =>
      have step :=
        SettledStep.stepAwaitAck session sending retries foreign event
      change Writes request
        (session.stepAwaitAck sending retries foreign event)
      generalize session.stepAwaitAck sending retries foreign event = next
        at step ⊢
      cases step with
      | refuses sender strangers =>
          exact ⟨saying.append_error unknownSender sender, trivial⟩
      | again => exact awaitAckAgain session saying sending _ event
      | slowerAgain =>
          exact awaitAckAgain session.increaseTimeout saying sending _ event
      | raises _ exception => exact raise session saying exception
      | interruptsWrite => exact interruptWrite session saying
      | acknowledged => exact afterAck session saying _ event
      | abandons waits => cases waits
      | interruptsRead waits => cases waits
      | stores waits => cases waits
      | isOver ended => cases ended

/-- Up to the first receive. -/
theorem sendWrq (session : Session)
    (saying : Saying request .DATA session.udp.sent)
    (encoded :
      ReadWritePacket.makeRaw
          ⟨.WRQ, session.args.destFilepath, .OCTET,
            session.args.options⟩ =
        .ok request)
    (event : Event) : Writes request (session.sendWrq event) := by
  have asked : Saying request .DATA (session.send request).udp.sent :=
    saying.append (Or.inl rfl) session.serverAddress
  unfold Session.sendWrq
  apply checkForSigintWRQ session saying
  simp only [encoded]
  apply checkForSigintWRQ (session.send request) asked
  exact ⟨asked, trivial⟩

end Writes

/-! ## From the request to the last block -/

/-- The client has asked and knows in which size it sends the blocks. -/
structure Prepared (size : Nat) (stdin : Bytes) (session : Session) :
    Prop where
  sameSize : session.blksize.toNat = size
  agree : OptionsAgree size session.args.options
  octet : session.args.fileMode = .OCTET
  input : session.stdin = ⟨stdin, false⟩
  noData : dataOn size session.udp.sent = []

/-- A writing client, seen as a sender from its request on. -/
def Transmits (size : Nat) (stdin : Bytes) (client : TftpClient)
    (sender : Sender Bytes) : Prop :=
  match client.control with
  | .awaitWrqReply =>
      Prepared size stdin client.session ∧ sender = Sender.fresh
  | _ => SenderView size stdin client sender

variable {size : Nat} {stdin : Bytes} {session : Session}

/-- What the client has sent is what the sender has sent. -/
theorem Transmits.data
    {client : TftpClient} {sender : Sender Bytes}
    (transmits : Transmits size stdin client sender) :
    sender.data = dataOn size client.sent := by
  obtain ⟨session, control⟩ := client
  cases control with
  | awaitWrqReply =>
      obtain ⟨prepared, rfl⟩ := transmits
      exact prepared.noData.symm
  | _ => exact SenderView.data transmits

/-- Where no request is awaited, only the later view matters. -/
theorem Transmits.of_view
    {client : TftpClient} {sender : Sender Bytes}
    (view : SenderView size stdin client sender) :
    Transmits size stdin client sender := by
  obtain ⟨session, control⟩ := client
  cases control with
  | awaitWrqReply => exact view.control.elim
  | _ => exact view

/-- `SendData` begins, and has sent nothing or the first block. -/
theorem Prepared.sendData
    (prepared : Prepared size stdin session) (positive : 0 < size)
    (event : Event) :
    SenderView size stdin (session.sendData event) Sender.fresh ∨
      SenderView size stdin (session.sendData event)
        (sendOne size stdin 0 []) := by
  obtain ⟨blksize, scanned, _⟩ :=
    scanBlksize_eq session.args.options session.blksize
  have sameSize : blksize.toNat = size :=
    scanBlksize_of_agree prepared.agree prepared.sameSize scanned
  exact
    SenderView.start positive prepared.octet prepared.input sameSize scanned
      prepared.noData event

/-- The options of an OACK which was sent name no other size. -/
theorem agree_of_oackAgrees
    {sent : List Datagram} (agrees : OackAgrees size sent)
    {sender : Address} {bytes : Bytes}
    (carries : Carries sent (.datagram sender bytes)) :
    OptionsAgree size
      (acknowledgedOptions (bytes.take UdpClient.maxPacketSize)) := by
  obtain ⟨reciever, onWire⟩ := carries
  unfold acknowledgedOptions
  split
  · rename_i oack parsed
    exact agrees _ onWire oack parsed
  · simp [OptionsAgree]

/-- Only DATA packets carry blocks. -/
theorem dataOn_dataSent (size : Nat) (sent : List Datagram) :
    dataOn size (dataSent sent) = dataOn size sent := by
  unfold dataOn dataSent
  rw [List.filterMap_filter]
  apply List.filterMap_congr
  intro datagram _
  by_cases isData : getOpcodeFromRaw datagram.2 = .ok .DATA
  · simp [isData]
  · cases known : getOpcodeFromRaw datagram.2 with
    | ok opcode =>
        have other : opcode ≠ .DATA := by
          rintro rfl
          exact isData known
        simp [other, dataIn_of_opcode known other]
    | error exception =>
        simp [dataIn, DataPacket.ofRaw, known, bind, Except.bind]

/-- A client which has failed sends nothing any more. -/
theorem SenderView.of_failsFrom
    {client : TftpClient} (fails : FailsFrom session client)
    (noData : dataOn size session.udp.sent = []) :
    SenderView size stdin client Sender.fresh := by
  have same :
      dataOn size client.session.udp.sent =
        dataOn size session.udp.sent := by
    rw [← dataOn_dataSent, fails.data, dataOn_dataSent]
  obtain ⟨outcome, ended, failed⟩ := fails.failed
  have stopped : Stopped size session client := by
    refine ⟨same, outcome, ended, ?_⟩
    rintro rfl
    exact failed
  exact stopped.view noData.symm

/-- The first answer, or a timeout, makes the blocks begin. -/
theorem Prepared.stepAwaitWrqReply
    (prepared : Prepared size stdin session) (positive : 0 < size)
    {sent : List Datagram} (agrees : OackAgrees size sent) {event : Event}
    (carries : Carries sent event.reception) :
    SenderView size stdin (session.stepAwaitWrqReply event) Sender.fresh ∨
      SenderView size stdin (session.stepAwaitWrqReply event)
        (sendOne size stdin 0 []) := by
  have begins : ∀ {reached : Session},
      Prepared size stdin reached → ∀ received : Bool,
        let next :=
          reached.checkForSigintWRQ received fun session =>
            session.sendData event
        SenderView size stdin next Sender.fresh ∨
          SenderView size stdin next (sendOne size stdin 0 []) := by
    intro reached ready received
    unfold Session.checkForSigintWRQ
    dsimp only
    split_ifs
    · exact
        Or.inl
          ((Stopped.interruptWrite size reached).view ready.noData.symm)
    · exact ready.sendData positive event
  cases agrees' :
      TftpClient.agreement ⟨session, .awaitWrqReply⟩ event with
  | some agreed =>
      obtain ⟨sender, bytes, heard, acknowledges⟩ :=
        TftpClient.acknowledges_of_agreement agrees'
      have setsUp := acknowledges.setsUp
      rw [heard] at carries
      have agreeNow := agree_of_oackAgrees agrees carries
      have ready : Prepared size stdin agreed := by
        constructor
        · rw [setsUp.blksize]
          show lastNumber .BLKSIZE session.blksize.toNat _ = size
          rw [prepared.sameSize]
          exact lastNumber_of_agree agreeNow
        · rw [setsUp.args]
          exact agreeNow
        · rw [setsUp.args]
          exact prepared.octet
        · rw [setsUp.stdin]
          exact prepared.input
        · rw [setsUp.sent]
          exact prepared.noData
      rw [stepAwaitWrqReply_of_agreement agrees']
      exact begins ready _
  | none =>
      rcases stepAwaitWrqReply_cases agrees' with fails | ⟨_, continues⟩
      · exact Or.inl (.of_failsFrom fails prepared.noData)
      · have ready :
            Prepared size stdin session.increaseTimeout.timeoutReset :=
          ⟨prepared.sameSize, prepared.agree, prepared.octet,
            prepared.input, prepared.noData⟩
        rw [continues]
        unfold Session.checkForSigintWRQ
        split_ifs
        · exact
            Or.inl
              ((Stopped.interruptWrite size session.increaseTimeout).view
                prepared.noData.symm)
        · exact ready.sendData positive event

/-- Every step of a writing client is a move of the sender. -/
theorem Transmits.move
    {client next : TftpClient} {sender : Sender Bytes}
    (transmits : Transmits size stdin client sender) (positive : 0 < size)
    {sent : List Datagram} (agrees : OackAgrees size sent)
    (step : TftpClient.Step sent client next) :
    ∃ heard moved,
      (∀ number, heard = some number → number ∈ acksOn sent) ∧
        Sender.Move blockNumbers (blockOf size stdin) heard sender
            moved ∧
          Transmits size stdin next moved := by
  obtain ⟨session, control⟩ := client
  have later :
      SenderView size stdin ⟨session, control⟩ sender →
        ∃ heard moved,
          (∀ number, heard = some number → number ∈ acksOn sent) ∧
            Sender.Move blockNumbers (blockOf size stdin) heard sender
                moved ∧
              Transmits size stdin next moved := by
    intro view
    obtain ⟨heard, moved, onWire, move, after⟩ :=
      (implementsSender positive stdin).move view step
    exact ⟨heard, moved, onWire, move, .of_view after⟩
  cases control with
  | awaitWrqReply =>
      obtain ⟨prepared, rfl⟩ := transmits
      obtain ⟨event, carries, rfl⟩ := step
      have begins :=
        prepared.stepAwaitWrqReply positive agrees carries
      rcases begins with silent | first
      · exact ⟨none, _, by simp, .idle _, .of_view silent⟩
      · exact ⟨none, _, by simp, .send Sender.fresh rfl, .of_view first⟩
  | _ => exact later transmits

/-- The client has sent its request, or has failed before. -/
theorem Prepared.sendWrq
    (prepared : Prepared size stdin session) (event : Event) :
    Transmits size stdin (session.sendWrq event) Sender.fresh := by
  have interrupts : ∀ reached : Session,
      dataOn size reached.udp.sent = [] →
        Transmits size stdin reached.interruptWrite Sender.fresh :=
    fun reached nothing =>
      ((Stopped.interruptWrite size reached).view nothing.symm)
  unfold Session.sendWrq Session.checkForSigintWRQ
  split_ifs with early late
  · exact interrupts session prepared.noData
  · dsimp only
    split
    · exact (Stopped.raise size session _).view prepared.noData.symm
    · rename_i raw encoded
      apply interrupts
      rw [← prepared.noData]
      exact
        dataOn_append_of_opcode
          (ReadWritePacket.getOpcode_makeRaw encoded) (by simp) _ _ _
  · dsimp only
    split
    · exact (Stopped.raise size session _).view prepared.noData.symm
    · rename_i raw encoded
      refine ⟨⟨prepared.sameSize, prepared.agree, prepared.octet,
        prepared.input, ?_⟩, rfl⟩
      rw [← prepared.noData]
      exact
        dataOn_append_of_opcode
          (ReadWritePacket.getOpcode_makeRaw encoded) (by simp) _ _ _

end IsaTftp.Client
