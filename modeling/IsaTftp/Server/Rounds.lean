import IsaTftp.Network
import IsaTftp.Server.Handler

/-!
# One round of a wait loop

The four loops in which a handler waits are taken apart here once.  In a round
the helper answers a stranger, or an exception leaves the loop, or its head
runs again, or what was waited for has come.
-/

namespace IsaTftp.Server

open IsaTftp.Wire
open IsaTftp.Files
open IsaTftp.Transfer

/-! ## What a wait is about -/

/-- The reader of a handler which follows on a RRQ. -/
def Control.reader : Control → Option Reader
  | .awaitOackAck reader _ _ => some reader
  | .awaitAck sending _ _ => some sending.reader
  | _ => none

/-- The writer of a handler which follows on a WRQ. -/
def Control.writer : Control → Option Writer
  | .awaitFirstData _ _ writer _ _ => some writer
  | .awaitData writer _ _ _ => some writer
  | _ => none

/-- The number of the block which a receiving loop waits for. -/
def Control.expected : Control → Nat
  | .awaitData _ blockNumber _ _ => blockNumber + 1
  | _ => 1

/-- The same wait with another number of foreign datagrams. -/
def Control.withForeign (foreign : Nat) : Control → Control
  | .awaitOackAck reader retries _ => .awaitOackAck reader retries foreign
  | .awaitAck sending retries _ => .awaitAck sending retries foreign
  | .awaitFirstData options negotiated writer retries _ =>
      .awaitFirstData options negotiated writer retries foreign
  | .awaitData writer blockNumber retries _ =>
      .awaitData writer blockNumber retries foreign
  | .ended outcome => .ended outcome

/-- The head of the loop in which the handler waits. -/
def Session.again (session : Session) (host : HostChoice)
    (control : Control) (retries : Nat) : Handler :=
  match control with
  | .awaitOackAck reader _ _ => session.awaitOackAckAgain reader retries
  | .awaitAck sending _ _ => session.awaitAckAgain sending retries
  | .awaitFirstData options negotiated writer _ _ =>
      session.awaitFirstDataAgain host options negotiated writer retries
  | .awaitData writer blockNumber _ _ =>
      session.awaitDataAgain host writer blockNumber retries
  | .ended outcome => ⟨session, .ended outcome⟩

/-- The event brings a block from the client of the handler. -/
def Session.Brings (session : Session) (event : Event) (number : Nat)
    (data : Bytes) : Prop :=
  ∃ bytes, event.reception = .datagram session.clientAddress bytes ∧
    dataIn session.blksize (bytes.take UdpClient.maxPacketSize) =
      some (number, data)

/-- The reply to a datagram of an unknown sender. -/
@[simps]
def Session.reply (session : Session) (sender : Address) : Session :=
  { session with udp := session.udp.send unknownSender.makeRaw sender }

/-! ## Rounds -/

/-- What a step of a handler can do. -/
inductive HandlerStep (session : Session) (control : Control)
    (event : Event) : Handler → Prop where
  | refuses (sender : Address) (foreign : Nat) :
      HandlerStep session control event
        ⟨session.reply sender, control.withForeign foreign⟩
  | again (retries : Nat) :
      HandlerStep session control event
        (session.again event.host control retries)
  | slowerAgain (retries : Nat) :
      HandlerStep session control event
        (session.increaseTimeout.again event.host control retries)
  | raises {reader : Reader} (reads : control.reader = some reader)
      (exception : Exception) :
      HandlerStep session control event (session.raise exception)
  | abandons {writer : Writer} (writes : control.writer = some writer)
      (exception : Exception) :
      HandlerStep session control event
        (session.abandonWrite event.host writer exception)
  | interruptsRRQ {reader : Reader} (reads : control.reader = some reader)
      (noticed : event.reception = .sigint) :
      HandlerStep session control event
        (session.checkForSigintRRQ event.host reader)
  | interruptsWRQ {writer : Writer} (writes : control.writer = some writer)
      (noticed : event.reception = .sigint) :
      HandlerStep session control event
        (session.checkForSigintWRQ event.host writer)
  | begins {reader : Reader} {retries foreign : Nat}
      (waits : control = .awaitOackAck reader retries foreign) :
      HandlerStep session control event
        (session.timeoutReset.sendBlock event.host reader 1)
  | acknowledged {sending : Sending} {retries foreign : Nat}
      {packet : Bytes} (waits : control = .awaitAck sending retries foreign)
      (delivered :
        session.recievePacketFromClient foreign event.reception =
          (session, .delivered packet))
      (received :
        classifyAck (text "Client") sending.blockNumber packet =
          .ok .received) :
      HandlerStep session control event
        (session.afterAck event.host sending)
  | stores {writer : Writer} (writes : control.writer = some writer)
      (blockNumber : Nat) (data : Bytes)
      (next : blockNumber = control.expected)
      (brings : session.Brings event blockNumber data) :
      HandlerStep session control event
        (session.storeBlock event.host writer blockNumber data)
  | isOver {outcome : Outcome} (ended : control = .ended outcome) :
      HandlerStep session control event ⟨session, control⟩

/-- What the receiving helper gives back, and when it is SIGINT. -/
theorem Session.recievePacketFromClient_sigint (session : Session)
    (foreign : Nat) (reception : Reception) :
    (session.recievePacketFromClient foreign reception).2 =
        .threw .udpSigint ↔
      reception = .sigint := by
  unfold recievePacketFromClient
  cases reception with
  | datagram sender bytes =>
      simp only [recievePacketFrom, receive]
      split_ifs <;> simp
  | _ => simp [recievePacketFrom, receive]

/-- A block which is accepted came from the client. -/
theorem Session.brings_of_accepted
    {session next : Session} {foreign : Nat} {event : Event}
    {packet data responder : Bytes} {expected announced : Nat}
    (result :
      session.recievePacketFromClient foreign event.reception =
        (next, .delivered packet))
    (accepted :
      classifyData responder expected announced session.blksize packet =
        .ok (.accepted data)) :
    session.Brings event expected data := by
  obtain ⟨_, _, bytes, heard, rfl⟩ :=
    Session.recievePacketFromClient_delivered result
  exact ⟨bytes, heard, dataIn_of_accepted accepted⟩

namespace HandlerStep

theorem stepAwaitOackAck (session : Session) (reader : Reader)
    (retries foreign : Nat) (event : Event) :
    HandlerStep session (.awaitOackAck reader retries foreign) event
      (session.stepAwaitOackAck reader retries foreign event) := by
  have sigint :=
    session.recievePacketFromClient_sigint foreign event.reception
  unfold Session.stepAwaitOackAck
  rcases session.recievePacketFromClient_cases foreign event.reception with
    ⟨sender, result⟩ | ⟨exception, result⟩ | ⟨sender, bytes, _, result⟩
  · simp only [result]
    exact .refuses sender (foreign + 1)
  · simp only [result] at sigint ⊢
    cases exception with
    | udpTimeout => exact .slowerAgain (retries + 1)
    | udpSigint => exact .interruptsRRQ rfl (sigint.mp rfl)
    | _ => exact .raises rfl _
  · simp only [result]
    split
    · exact .begins rfl
    · exact .again (retries + 1)
    · exact .raises rfl _

theorem stepAwaitAck (session : Session) (sending : Sending)
    (retries foreign : Nat) (event : Event) :
    HandlerStep session (.awaitAck sending retries foreign) event
      (session.stepAwaitAck sending retries foreign event) := by
  have sigint :=
    session.recievePacketFromClient_sigint foreign event.reception
  unfold Session.stepAwaitAck
  rcases session.recievePacketFromClient_cases foreign event.reception with
    ⟨sender, result⟩ | ⟨exception, result⟩ | ⟨sender, bytes, _, result⟩
  · simp only [result]
    exact .refuses sender (foreign + 1)
  · simp only [result] at sigint ⊢
    cases exception with
    | udpTimeout => exact .slowerAgain (retries + 1)
    | udpSigint => exact .interruptsRRQ rfl (sigint.mp rfl)
    | _ => exact .raises rfl _
  · simp only [result]
    split
    · rename_i received
      exact .acknowledged rfl result received
    · exact .slowerAgain (retries + 1)
    · exact .again retries
    · exact .raises rfl _

theorem stepAwaitFirstData (session : Session)
    (options negotiated : List TftpOption) (writer : Writer)
    (retries foreign : Nat) (event : Event) :
    HandlerStep session
      (.awaitFirstData options negotiated writer retries foreign) event
      (session.stepAwaitFirstData options negotiated writer retries foreign
        event) := by
  have sigint :=
    session.recievePacketFromClient_sigint foreign event.reception
  unfold Session.stepAwaitFirstData
  rcases session.recievePacketFromClient_cases foreign event.reception with
    ⟨sender, result⟩ | ⟨exception, result⟩ | ⟨sender, bytes, _, result⟩
  · simp only [result]
    exact .refuses sender (foreign + 1)
  · simp only [result] at sigint ⊢
    cases exception with
    | udpTimeout => exact .slowerAgain (retries + 1)
    | udpSigint => exact .interruptsWRQ rfl (sigint.mp rfl)
    | _ => exact .abandons rfl _
  · simp only [result]
    split
    · rename_i accepted
      exact
        .stores rfl 1 _ rfl (Session.brings_of_accepted result accepted)
    · exact .slowerAgain (retries + 1)
    · exact .again retries
    · exact .abandons rfl _

theorem stepAwaitData (session : Session) (writer : Writer)
    (blockNumber retries foreign : Nat) (event : Event) :
    HandlerStep session (.awaitData writer blockNumber retries foreign)
      event
      (session.stepAwaitData writer blockNumber retries foreign event) := by
  have sigint :=
    session.recievePacketFromClient_sigint foreign event.reception
  unfold Session.stepAwaitData
  rcases session.recievePacketFromClient_cases foreign event.reception with
    ⟨sender, result⟩ | ⟨exception, result⟩ | ⟨sender, bytes, _, result⟩
  · simp only [result]
    exact .refuses sender (foreign + 1)
  · simp only [result] at sigint ⊢
    cases exception with
    | udpTimeout => exact .slowerAgain (retries + 1)
    | udpSigint => exact .interruptsWRQ rfl (sigint.mp rfl)
    | _ => exact .abandons rfl _
  · simp only [result]
    split
    · rename_i accepted
      exact
        .stores rfl (blockNumber + 1) _ rfl
          (Session.brings_of_accepted result accepted)
    · exact .slowerAgain (retries + 1)
    · exact .again retries
    · exact .abandons rfl _

end HandlerStep

/-- Every step of a handler is one of these. -/
theorem Handler.step_cases (handler : Handler) (event : Event) :
    HandlerStep handler.session handler.control event
      (handler.step event) := by
  obtain ⟨session, control⟩ := handler
  cases control with
  | awaitOackAck reader retries foreign =>
      exact .stepAwaitOackAck session reader retries foreign event
  | awaitAck sending retries foreign =>
      exact .stepAwaitAck session sending retries foreign event
  | awaitFirstData options negotiated writer retries foreign =>
      exact
        .stepAwaitFirstData session options negotiated writer retries foreign
          event
  | awaitData writer blockNumber retries foreign =>
      exact
        .stepAwaitData session writer blockNumber retries foreign event
  | ended outcome => exact .isOver rfl

end IsaTftp.Server
