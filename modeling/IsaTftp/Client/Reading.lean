import IsaTftp.Client.Agreement

/-!
# What a reading client says

`Read` sends its request, ACKs and ERROR packets, and nothing else.  The
request is built again in every round of the loop which sends it, but always
from the same path and the same options.
-/

namespace IsaTftp.Client

open IsaTftp.Wire
open IsaTftp.Files
open IsaTftp.Transfer

/-- Each datagram is the request, or has this opcode, or is an ERROR packet. -/
def Saying (request : Bytes) (opcode : Opcode) (sent : List Datagram) :
    Prop :=
  ∀ datagram ∈ sent, datagram.2 = request ∨
    getOpcodeFromRaw datagram.2 = .ok opcode ∨
      getOpcodeFromRaw datagram.2 = .ok .ERROR

namespace Saying

variable {request : Bytes} {opcode : Opcode} {sent : List Datagram}

theorem nil (request : Bytes) (opcode : Opcode) :
    Saying request opcode [] := by
  simp [Saying]

theorem append
    (saying : Saying request opcode sent) {raw : Bytes}
    (fits : raw = request ∨ getOpcodeFromRaw raw = .ok opcode ∨
      getOpcodeFromRaw raw = .ok .ERROR) (reciever : Address) :
    Saying request opcode (sent ++ [(reciever, raw)]) := by
  intro datagram member
  rcases List.mem_append.mp member with old | new
  · exact saying datagram old
  · rw [List.mem_singleton.mp new]
    exact fits

theorem append_ack (saying : Saying request .ACK sent) (ack : AckPacket)
    (reciever : Address) :
    Saying request .ACK (sent ++ [(reciever, ack.makeRaw)]) :=
  saying.append (Or.inr (Or.inl ack.getOpcode_makeRaw)) reciever

theorem append_data (saying : Saying request .DATA sent)
    (block : DataPacket) (reciever : Address) :
    Saying request .DATA (sent ++ [(reciever, block.makeRaw)]) :=
  saying.append (Or.inr (Or.inl block.getOpcode_makeRaw)) reciever

theorem append_error (saying : Saying request opcode sent)
    (error : ErrorPacket) (reciever : Address) :
    Saying request opcode (sent ++ [(reciever, error.makeRaw)]) :=
  saying.append (Or.inr (Or.inr error.getOpcode_makeRaw)) reciever

theorem reportException {udp : UdpClient}
    (saying : Saying request opcode udp.sent) (peer : Address)
    (exception : Exception) :
    Saying request opcode
      (reportException udp peer exception).sent := by
  rcases sent_reportException udp peer exception with
    same | ⟨packet, more⟩
  · rw [same]
    exact saying
  · rw [more]
    exact saying.append_error packet peer

end Saying

/-- A reading client, which may have to send its request again. -/
def Reads (request : Bytes) (client : TftpClient) : Prop :=
  Saying request .ACK client.session.udp.sent ∧
    match client.control with
    | .awaitRrqReply _ _ =>
        ReadWritePacket.makeRaw
            ⟨.RRQ, client.session.args.filepath, .OCTET,
              client.session.args.options⟩ =
          .ok request
    | .awaitData _ _ _ _ => True
    | .ended _ => True
    | _ => False

namespace Reads

variable {request : Bytes} {session : Session} {writer : Writer}

theorem ended (asking : Saying request .ACK session.udp.sent)
    (outcome : Outcome) :
    Reads request ⟨session, .ended outcome⟩ :=
  ⟨asking, trivial⟩

theorem abandonRead (session : Session)
    (asking : Saying request .ACK session.udp.sent) (host : HostChoice)
    (writer : Writer) (exception : Exception) :
    Reads request (session.abandonRead host writer exception) :=
  ⟨asking.reportException session.serverAddress exception, trivial⟩

theorem interruptRead (session : Session)
    (asking : Saying request .ACK session.udp.sent) (host : HostChoice)
    (writer : Writer) :
    Reads request (session.interruptRead host writer) := by
  have said :
      Saying request .ACK
        (session.send Session.interrupted.makeRaw).udp.sent :=
    asking.append_error _ _
  unfold Session.interruptRead
  dsimp only
  split
  · exact ⟨said, trivial⟩
  · exact ⟨said.reportException session.serverAddress _, trivial⟩

theorem checkForSigintRRQ
    (session : Session) (asking : Saying request .ACK session.udp.sent)
    {host : HostChoice} {received : Bool} {proceed : Session → TftpClient}
    (proceeds : Reads request (proceed session)) :
    Reads request
      (session.checkForSigintRRQ host writer received proceed) := by
  unfold Session.checkForSigintRRQ
  split_ifs
  · exact interruptRead session asking host writer
  · exact proceeds

/-- The head of the loop for one block. -/
theorem awaitDataAgain (session : Session)
    (asking : Saying request .ACK session.udp.sent) (writer : Writer)
    (blockNumber : UInt16) (retries : Nat) (event : Event) :
    Reads request
      (session.awaitDataAgain writer blockNumber retries event) := by
  unfold Session.awaitDataAgain
  split_ifs
  · apply checkForSigintRRQ session asking
    exact ⟨asking.append_ack ⟨blockNumber⟩ _, trivial⟩
  · apply checkForSigintRRQ session asking
    exact abandonRead session asking event.host writer _

/-- Behind a block: receive the next one, or end. -/
theorem afterData (session : Session)
    (asking : Saying request .ACK session.udp.sent) (writer : Writer)
    (blockNumber : UInt16) (last : Bool) (event : Event) :
    Reads request
      (session.afterData writer blockNumber last event) := by
  unfold Session.afterData Session.finishRead
  split_ifs
  · apply checkForSigintRRQ session asking
    exact ⟨asking.append_ack ⟨blockNumber⟩ _, trivial⟩
  · exact awaitDataAgain session asking writer blockNumber 0 event

/-- Storing a block says nothing. -/
theorem storeBlock (session : Session)
    (asking : Saying request .ACK session.udp.sent) (writer : Writer)
    (event : Event) (data : Bytes) {proceed : Session → Writer → TftpClient}
    (proceeds : ∀ storage next,
      Reads request (proceed (session.withStorage storage) next)) :
    Reads request (session.storeBlock writer event data proceed) := by
  unfold Session.storeBlock
  split
  · exact ⟨asking, trivial⟩
  · rename_i storage _
    exact
      abandonRead (session.withStorage storage) asking event.host _ _
  · exact proceeds _ _

/-- Between the two loops. -/
theorem afterRrqReply (session : Session)
    (asking : Saying request .ACK session.udp.sent) (writer : Writer)
    (blockNumber : UInt16) (last : Bool) (event : Event) :
    Reads request
      (session.afterRrqReply writer blockNumber last event) := by
  unfold Session.afterRrqReply
  apply checkForSigintRRQ session asking
  dsimp only
  split
  · exact abandonRead session.timeoutReset asking event.host writer _
  · rename_i blksize _
    let settled := { session.timeoutReset with blksize := blksize }
    apply checkForSigintRRQ settled asking
    exact afterData settled asking writer blockNumber last event

/-- The head of the loop which sends the request. -/
theorem awaitRrqReplyAgain (session : Session)
    (asking : Saying request .ACK session.udp.sent)
    (encoded :
      ReadWritePacket.makeRaw
          ⟨.RRQ, session.args.filepath, .OCTET, session.args.options⟩ =
        .ok request)
    (writer : Writer) (retries : Nat) (event : Event) :
    Reads request
      (session.awaitRrqReplyAgain writer retries event) := by
  unfold Session.awaitRrqReplyAgain
  apply checkForSigintRRQ session asking
  split_ifs
  · dsimp only
    rw [encoded]
    exact ⟨asking.append (Or.inl rfl) session.serverAddress, encoded⟩
  · exact abandonRead session asking event.host writer _

/-- One reception in the loop which sends the request. -/
theorem stepAwaitRrqReply (session : Session)
    (asking : Saying request .ACK session.udp.sent)
    (encoded :
      ReadWritePacket.makeRaw
          ⟨.RRQ, session.args.filepath, .OCTET, session.args.options⟩ =
        .ok request)
    (writer : Writer) (retries : Nat) (event : Event) :
    Reads request (session.stepAwaitRrqReply writer retries event) := by
  have abandons := fun exception =>
    abandonRead session asking event.host writer exception
  unfold Session.stepAwaitRrqReply
  cases event.reception with
  | timeout =>
      exact
        awaitRrqReplyAgain session.increaseTimeout asking encoded writer _
          event
  | sigint => exact interruptRead session asking event.host writer
  | failure => exact abandons _
  | datagram sender bytes =>
      simp only [receive]
      have abandonsThere := fun exception =>
        abandonRead (session.adoptPort sender) asking event.host writer
          exception
      split
      · exact abandonsThere _
      · rename_i data _
        unfold Session.acceptFirstBlock
        obtain ⟨next, setUp, setsUp⟩ :=
          setupUdpClient_setsUp
            ((session.adoptPort sender).withOptions [])
        have askingNow : Saying request .ACK next.udp.sent := by
          rw [setsUp.sent]
          exact asking
        rw [setUp]
        apply storeBlock next askingNow
        intro storage writer
        exact
          afterRrqReply (next.withStorage storage) askingNow writer 1 _
            event
      · rename_i options _
        unfold Session.acceptOack
        obtain ⟨next, setUp, setsUp⟩ :=
          setupUdpClient_setsUp
            ((session.adoptPort sender).withOptions options)
        have askingNow : Saying request .ACK next.udp.sent := by
          rw [setsUp.sent]
          exact asking
        dsimp only
        rw [setUp]
        split
        · exact
            abandonRead ((session.adoptPort sender).withOptions options)
              asking event.host writer _
        · exact afterRrqReply next askingNow writer 0 false event

/-- The request stays the same as long as it is sent. -/
theorem step {client : TftpClient} (reads : Reads request client)
    (event : Event) : Reads request (client.step event) := by
  obtain ⟨session, control⟩ := client
  obtain ⟨asking, knows⟩ := reads
  cases control with
  | awaitWrqReply => exact knows.elim
  | awaitAck => exact knows.elim
  | awaitRrqReply writer retries =>
      exact
        stepAwaitRrqReply session asking knows writer retries event
  | ended outcome => exact ended asking outcome
  | awaitData writer blockNumber retries foreign =>
      have step :=
        TftpClient.step_cases
          ⟨session, .awaitData writer blockNumber retries foreign⟩ rfl event
      generalize
        TftpClient.step
          ⟨session, .awaitData writer blockNumber retries foreign⟩ event =
          next at step ⊢
      cases step with
      | refuses sender foreign =>
          exact ⟨asking.append_error unknownSender sender, trivial⟩
      | again retries =>
          exact awaitDataAgain session asking writer blockNumber _ event
      | slowerAgain retries =>
          exact
            awaitDataAgain session.increaseTimeout asking writer
              blockNumber _ event
      | abandons waits exception =>
          cases waits
          exact abandonRead session asking event.host _ exception
      | interruptsRead waits =>
          cases waits
          exact interruptRead session asking event.host _
      | stores waits data =>
          cases waits
          apply storeBlock session asking
          intro storage next
          exact
            afterData (session.withStorage storage).timeoutReset asking
              next _ _ event
      | raises waits => cases waits
      | interruptsWrite waits => cases waits
      | acknowledged waits => cases waits
      | isOver ended => cases ended

/-- Up to its first receive. -/
theorem read (session : Session)
    (asking : Saying request .ACK session.udp.sent)
    (encoded :
      ReadWritePacket.makeRaw
          ⟨.RRQ, session.args.filepath, .OCTET, session.args.options⟩ =
        .ok request)
    (event : Event) : Reads request (session.read event) :=
  awaitRrqReplyAgain session asking encoded _ 0 event

end Reads

end IsaTftp.Client
