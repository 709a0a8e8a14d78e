import IsaTftp.Client.Machine

/-!
# One round of the loops for blocks and ACKs

As on the server, the two loops which the client runs after its first answer
are taken apart here once.
-/

namespace IsaTftp.Client

open IsaTftp.Wire
open IsaTftp.Files
open IsaTftp.Transfer

/-- Whether the client still waits for the first answer. -/
def Control.opening : Control → Bool
  | .awaitWrqReply => true
  | .awaitRrqReply _ _ => true
  | _ => false

/-- The same wait with another number of foreign datagrams. -/
def Control.withForeign (foreign : Nat) : Control → Control
  | .awaitAck sending retries _ => .awaitAck sending retries foreign
  | .awaitData writer blockNumber retries _ =>
      .awaitData writer blockNumber retries foreign
  | control => control

@[simp]
theorem Control.opening_withForeign (control : Control) (foreign : Nat) :
    (control.withForeign foreign).opening = control.opening := by
  cases control <;> rfl

/-- The head of the loop in which the client waits. -/
def Session.again (session : Session) (event : Event)
    (control : Control) (retries : Nat) : TftpClient :=
  match control with
  | .awaitAck sending _ _ => session.awaitAckAgain sending retries event
  | .awaitRrqReply writer _ =>
      session.awaitRrqReplyAgain writer retries event
  | .awaitData writer blockNumber _ _ =>
      session.awaitDataAgain writer blockNumber retries event
  | .awaitWrqReply => ⟨session, .awaitWrqReply⟩
  | .ended outcome => ⟨session, .ended outcome⟩

/-- The reply to a datagram of an unknown sender. -/
@[simps]
def Session.reply (session : Session) (sender : Address) : Session :=
  { session with udp := session.udp.send unknownSender.makeRaw sender }

/-- What a step of the client can do after the first answer. -/
inductive SettledStep (session : Session) (control : Control)
    (event : Event) : TftpClient → Prop where
  | refuses (sender : Address) (foreign : Nat) :
      SettledStep session control event
        ⟨session.reply sender, control.withForeign foreign⟩
  | again (retries : Nat) :
      SettledStep session control event
        (session.again event control retries)
  | slowerAgain (retries : Nat) :
      SettledStep session control event
        (session.increaseTimeout.again event control retries)
  | raises {sending : Sending} {retries foreign : Nat}
      (waits : control = .awaitAck sending retries foreign)
      (exception : Exception) :
      SettledStep session control event (session.raise exception)
  | abandons {writer : Writer} {blockNumber : UInt16}
      {retries foreign : Nat}
      (waits : control = .awaitData writer blockNumber retries foreign)
      (exception : Exception) :
      SettledStep session control event
        (session.abandonRead event.host writer exception)
  | interruptsWrite {sending : Sending} {retries foreign : Nat}
      (waits : control = .awaitAck sending retries foreign)
      (noticed : event.reception = .sigint) :
      SettledStep session control event session.interruptWrite
  | interruptsRead {writer : Writer} {blockNumber : UInt16}
      {retries foreign : Nat}
      (waits : control = .awaitData writer blockNumber retries foreign)
      (noticed : event.reception = .sigint) :
      SettledStep session control event
        (session.interruptRead event.host writer)
  | acknowledged {sending : Sending} {retries foreign : Nat}
      {packet : Bytes} (waits : control = .awaitAck sending retries foreign)
      (delivered :
        session.recievePacketFromServer foreign event.reception =
          (session, .delivered packet))
      (received :
        classifyAck (text "Server") sending.blockNumber.toNat packet =
          .ok .received) :
      SettledStep session control event (session.afterAck sending event)
  | stores {writer : Writer} {blockNumber : UInt16}
      {retries foreign : Nat}
      (waits : control = .awaitData writer blockNumber retries foreign)
      (data : Bytes) :
      SettledStep session control event
        (session.storeBlock writer event data fun session writer =>
          session.timeoutReset.afterData writer (blockNumber + 1)
            (decide (data.length < session.blksize.toNat)) event)
  | isOver {outcome : Outcome} (ended : control = .ended outcome) :
      SettledStep session control event ⟨session, control⟩

/-- The helper reports SIGINT exactly when the receive does. -/
theorem Session.recievePacketFromServer_sigint (session : Session)
    (foreign : Nat) (reception : Reception) :
    (session.recievePacketFromServer foreign reception).2 =
        .threw .udpSigint ↔
      reception = .sigint := by
  unfold recievePacketFromServer
  cases reception with
  | datagram sender bytes =>
      simp only [recievePacketFrom, receive]
      split_ifs <;> simp
  | _ => simp [recievePacketFrom, receive]

theorem SettledStep.stepAwaitAck (session : Session) (sending : Sending)
    (retries foreign : Nat) (event : Event) :
    SettledStep session (.awaitAck sending retries foreign) event
      (session.stepAwaitAck sending retries foreign event) := by
  have sigint :=
    session.recievePacketFromServer_sigint foreign event.reception
  unfold Session.stepAwaitAck
  rcases session.recievePacketFromServer_cases foreign event.reception with
    ⟨sender, result⟩ | ⟨exception, result⟩ | ⟨sender, bytes, _, result⟩
  · simp only [result]
    exact .refuses sender (foreign + 1)
  · simp only [result] at sigint ⊢
    cases exception with
    | udpTimeout => exact .slowerAgain (retries + 1)
    | udpSigint => exact .interruptsWrite rfl (sigint.mp rfl)
    | _ => exact .raises rfl _
  · simp only [result]
    split
    · rename_i received
      exact .acknowledged rfl result received
    · exact .slowerAgain (retries + 1)
    · exact .again retries
    · exact .raises rfl _

theorem SettledStep.stepAwaitData (session : Session) (writer : Writer)
    (blockNumber : UInt16) (retries foreign : Nat) (event : Event) :
    SettledStep session (.awaitData writer blockNumber retries foreign)
      event
      (session.stepAwaitData writer blockNumber retries foreign event) := by
  have sigint :=
    session.recievePacketFromServer_sigint foreign event.reception
  unfold Session.stepAwaitData
  rcases session.recievePacketFromServer_cases foreign event.reception with
    ⟨sender, result⟩ | ⟨exception, result⟩ | ⟨sender, bytes, _, result⟩
  · simp only [result]
    exact .refuses sender (foreign + 1)
  · simp only [result] at sigint ⊢
    cases exception with
    | udpTimeout => exact .slowerAgain (retries + 1)
    | udpSigint => exact .interruptsRead rfl (sigint.mp rfl)
    | _ => exact .abandons rfl _
  · simp only [result]
    split
    · exact .stores rfl _
    · exact .slowerAgain (retries + 1)
    · exact .again retries
    · exact .abandons rfl _

/-- After the first answer every step of the client is one of these. -/
theorem TftpClient.step_cases (client : TftpClient)
    (settled : client.control.opening = false) (event : Event) :
    SettledStep client.session client.control event (client.step event) := by
  obtain ⟨session, control⟩ := client
  cases control with
  | awaitWrqReply => cases settled
  | awaitRrqReply => cases settled
  | awaitAck sending retries foreign =>
      exact .stepAwaitAck session sending retries foreign event
  | awaitData writer blockNumber retries foreign =>
      exact
        .stepAwaitData session writer blockNumber retries foreign event
  | ended outcome => exact .isOver rfl

end IsaTftp.Client
