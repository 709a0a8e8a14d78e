import IsaTftp.Network
import IsaTftp.Server.Handler

/-!
# FollowOnRRQ sends by stop-and-wait

In octet mode a handler which follows on a RRQ implements the sender of the
library.  Its counter is an `int`, so that it never matches an ACK after block
65535, whatever number the packet on the wire has.
-/

namespace IsaTftp.Server

open IsaTftp.Wire
open IsaTftp.Files
open IsaTftp.Transfer
open IsaTftp.Library.Chunking
open IsaTftp.Library.StopAndWait

namespace Sending

/-- The loop in which the handler waits for the ACK of the last block. -/
structure Transmits (sending : Sending) (files : FileSystem)
    (size : Nat) (content : Bytes) (sender : Sender Bytes) : Prop where
  number : sending.blockNumber = sender.sent
  more : sending.lastPacketSent = false →
    sending.reader.Behind files size content sender.sent

end Sending

/-- What the wire tells about the sender. -/
structure Sends (size : Nat) (session : Session)
    (sender : Sender Bytes) : Prop where
  data : sender.data = dataOn size session.udp.sent
  oacks : OackAgrees size session.udp.sent

/-- What the control state knows about the sender. -/
def SendingAgrees (size : Nat) (content : Bytes) (handler : Handler)
    (sender : Sender Bytes) : Prop :=
  match handler.control with
  | .awaitOackAck reader _ _ =>
      handler.session.blksize = size ∧
        reader.Behind handler.session.storage.files size content 0 ∧
          sender.sent = 0 ∧ sender.acknowledged = 0
  | .awaitAck sending _ _ =>
      handler.session.blksize = size ∧
        sending.Transmits handler.session.storage.files size content
          sender
  | .ended _ => True
  | _ => False

/-- A handler seen as the sender of a stop-and-wait exchange. -/
structure SenderView (size : Nat) (content : Bytes) (handler : Handler)
    (sender : Sender Bytes) : Prop where
  wire : Sends size handler.session sender
  control : SendingAgrees size content handler sender

variable {size : Nat} {content : Bytes} {session : Session}
variable {sender : Sender Bytes}

/-! ## Ways to end -/

theorem SenderView.raise
    (session : Session) (wire : Sends size session sender) (exception : Exception) :
    SenderView size content (session.raise exception) sender where
  wire :=
    { data := by simpa using wire.data
      oacks := wire.oacks.reportException _ _ }
  control := trivial

/-- After SIGINT nothing more is sent but an ERROR packet. -/
theorem SenderView.checkForSigintRRQ
    (wire : Sends size session sender) (host : HostChoice)
    (reader : Reader) :
    SenderView size content (session.checkForSigintRRQ host reader)
      sender := by
  have interrupted :
      Sends size (session.send Session.interrupted.makeRaw) sender :=
    { data := by simpa using wire.data
      oacks :=
        wire.oacks.append_of_opcode
          Session.interrupted.getOpcode_makeRaw (by decide) _ }
  unfold Session.checkForSigintRRQ Session.deleteAndTerminate
  split
  · exact ⟨⟨interrupted.data, interrupted.oacks⟩, trivial⟩
  · rename_i exception storage _
    exact
      SenderView.raise
        ((session.send Session.interrupted.makeRaw).withStorage storage)
        ⟨interrupted.data, interrupted.oacks⟩ exception

/-! ## Sending and waiting -/

/-- Reading a block and sending it. -/
theorem SenderView.sendBlock
    (session : Session) {reader : Reader} {count : Nat}
    (sameSize : session.blksize = size)
    (behind : reader.Behind session.storage.files size content count)
    (wire : Sends size session sender) (host : HostChoice) :
    SenderView size content
        (session.sendBlock host reader (count + 1)) sender ∨
      SenderView size content
        (session.sendBlock host reader (count + 1))
        (sendOne size content count sender.data) := by
  unfold Session.sendBlock
  rw [sameSize]
  cases read : reader.readFile session.storage host size with
  | mk result storage =>
      cases result with
      | error exception =>
          left
          exact
            SenderView.raise (session.withStorage storage)
              ⟨wire.data, wire.oacks⟩ exception
      | ok pair =>
          obtain ⟨data, next⟩ := pair
          right
          obtain ⟨block, _, continues⟩ := behind.readFile read
          have fits : data.length ≤ size := by
            rw [block]
            exact length_chunk_le size content count
          let packet : DataPacket := ⟨UInt16.ofNat (count + 1), data⟩
          have sent :=
            dataOn_append_data session.udp.sent packet
              session.clientAddress fits
          have number :
              packet.blockNumber.toNat = (count + 1) % blockNumbers :=
            UInt16.toNat_ofNat
          refine
            ⟨{ data := ?_
               oacks :=
                 wire.oacks.append_of_opcode packet.getOpcode_makeRaw
                   (by decide) _ }, ?_⟩
          · change _ = dataOn size
              (session.udp.sent ++
                [(session.clientAddress, packet.makeRaw)])
            rw [sent, number, wire.data.symm]
            simp [sendOne, packet, block, blockOf]
          · refine ⟨sameSize, rfl, fun more => ?_⟩
            exact continues (of_decide_eq_false more)

/-- While the handler waits for an ACK the sender is idle. -/
theorem SenderView.awaitAckAgain
    (session : Session) {sending : Sending}
    (sameSize : session.blksize = size)
    (transmits :
      sending.Transmits session.storage.files size content sender)
    (wire : Sends size session sender) (retries : Nat) :
    SenderView size content (session.awaitAckAgain sending retries)
      sender := by
  unfold Session.awaitAckAgain
  split_ifs
  · exact ⟨wire, sameSize, transmits⟩
  · exact ⟨⟨wire.data, wire.oacks⟩, trivial⟩
  · exact SenderView.raise session wire _

/-! ## The handler as a sender -/

/-- A move of the handler, and what it must have heard for it. -/
def SendingMoves (size : Nat) (content : Bytes)
    (incoming : List Datagram) (sender : Sender Bytes)
    (handler : Handler) : Prop :=
  ∃ heard moved,
    (∀ number, heard = some number → number ∈ acksOn incoming) ∧
      Sender.Move blockNumbers (blockOf size content) heard sender
          moved ∧
        SenderView size content handler moved

theorem SenderView.moves
    {handler : Handler} (view : SenderView size content handler sender)
    (incoming : List Datagram) :
    SendingMoves size content incoming sender handler :=
  ⟨none, sender, by simp, .idle sender, view⟩

/-- The number of the current block has come back. -/
theorem SendingMoves.afterAck
    {sending : Sending} {incoming : List Datagram}
    (sameSize : session.blksize = size)
    (transmits :
      sending.Transmits session.storage.files size content sender)
    (wire : Sends size session sender)
    (onWire : sender.sent % blockNumbers ∈ acksOn incoming)
    (host : HostChoice) :
    SendingMoves size content incoming sender
      (session.afterAck host sending) := by
  have heardOnWire :
      ∀ number, some (sender.sent % blockNumbers) = some number →
        number ∈ acksOn incoming := by
    intro number same
    cases same
    exact onWire
  let heard : Sender Bytes :=
    { sender with acknowledged := sender.sent }
  have wireNow : Sends size session.timeoutReset heard :=
    ⟨wire.data, wire.oacks⟩
  unfold Session.afterAck
  split_ifs with last
  · exact ⟨_, heard, heardOnWire, .hear sender rfl, wireNow, trivial⟩
  · have more : sending.lastPacketSent = false := by
      simpa using last
    rw [transmits.number]
    rcases SenderView.sendBlock session.timeoutReset sameSize
        (transmits.more more) wireNow host with stays | sends
    · exact ⟨_, heard, heardOnWire, .hear sender rfl, stays⟩
    · exact ⟨_, _, heardOnWire, .hearAndSend sender rfl, sends⟩

/-- One reception while the ACK of a block is awaited. -/
theorem SendingMoves.stepAwaitAck
    {sending : Sending} {incoming : List Datagram}
    (sameSize : session.blksize = size)
    (transmits :
      sending.Transmits session.storage.files size content sender)
    (wire : Sends size session sender) (retries foreign : Nat)
    {event : Event} (carries : Carries incoming event.reception) :
    SendingMoves size content incoming sender
      (session.stepAwaitAck sending retries foreign event) := by
  have waits := fun retries =>
    (SenderView.awaitAckAgain session sameSize transmits wire
      retries).moves incoming
  have slower := fun retries =>
    (SenderView.awaitAckAgain session.increaseTimeout sameSize transmits
      ⟨wire.data, wire.oacks⟩ retries).moves incoming
  have raises : ∀ exception,
      SendingMoves size content incoming sender
        (session.raise exception) :=
    fun exception => (SenderView.raise session wire exception).moves _
  unfold Session.stepAwaitAck
  rcases session.recievePacketFromClient_cases foreign event.reception
    with ⟨other, result⟩ | ⟨exception, result⟩ |
      ⟨other, bytes, heard, result⟩
  · simp only [result]
    have stays :
        SenderView size content
          ⟨{ session with
              udp := session.udp.send unknownSender.makeRaw other },
            .awaitAck sending retries (foreign + 1)⟩ sender :=
      ⟨{ data := by simpa using wire.data
         oacks :=
           wire.oacks.append_of_opcode unknownSender.getOpcode_makeRaw
             (by decide) _ },
        sameSize, transmits⟩
    exact stays.moves incoming
  · rw [result]
    cases exception with
    | udpTimeout => exact slower _
    | udpSigint =>
        exact
          (SenderView.checkForSigintRRQ wire event.host
            sending.reader).moves incoming
    | _ => exact raises _
  · rw [result]
    rw [heard] at carries
    cases classified :
        classifyAck (text "Client") sending.blockNumber
          (bytes.take UdpClient.maxPacketSize) with
    | error exception =>
        simp only [classified]
        exact raises _
    | ok reply =>
        simp only [classified]
        cases reply with
        | received =>
            obtain ⟨onWire, lap⟩ :=
              mem_acksOn_of_received carries classified
            rw [transmits.number] at onWire lap
            rw [← Nat.mod_eq_of_lt lap] at onWire
            exact
              SendingMoves.afterAck sameSize transmits wire
                onWire event.host
        | old => exact slower _
        | ignored => exact waits _

/-- The head of the loop which waits for ACK 0. -/
theorem SenderView.awaitOackAckAgain
    (session : Session) {reader : Reader}
    (sameSize : session.blksize = size)
    (behind : reader.Behind session.storage.files size content 0)
    (wire : Sends size session sender) (none : sender.sent = 0)
    (free : sender.acknowledged = 0) (retries : Nat) :
    SenderView size content (session.awaitOackAckAgain reader retries)
      sender := by
  unfold Session.awaitOackAckAgain
  split_ifs
  · exact ⟨wire, sameSize, behind, none, free⟩
  · exact SenderView.raise session wire _

/-- Sending the first block. -/
theorem SendingMoves.sendFirstBlock
    (session : Session) {reader : Reader} {incoming : List Datagram}
    (sameSize : session.blksize = size)
    (behind : reader.Behind session.storage.files size content 0)
    (wire : Sends size session sender) (none : sender.sent = 0)
    (free : sender.acknowledged = 0) (host : HostChoice) :
    SendingMoves size content incoming sender
      (session.sendBlock host reader 1) := by
  rcases SenderView.sendBlock session sameSize behind wire host with
    stays | sends
  · exact stays.moves incoming
  · refine ⟨Option.none, _, by simp, .send sender (by omega), ?_⟩
    rw [none, free]
    exact sends

/-- One reception while the ACK of the OACK is awaited. -/
theorem SendingMoves.stepAwaitOackAck
    {reader : Reader} {incoming : List Datagram}
    (sameSize : session.blksize = size)
    (behind : reader.Behind session.storage.files size content 0)
    (wire : Sends size session sender) (none : sender.sent = 0)
    (free : sender.acknowledged = 0) (retries foreign : Nat)
    (event : Event) :
    SendingMoves size content incoming sender
      (session.stepAwaitOackAck reader retries foreign event) := by
  have waits := fun retries =>
    (SenderView.awaitOackAckAgain session sameSize behind wire none free
      retries).moves incoming
  have slower := fun retries =>
    (SenderView.awaitOackAckAgain session.increaseTimeout sameSize behind
      ⟨wire.data, wire.oacks⟩ none free retries).moves incoming
  have raises : ∀ exception,
      SendingMoves size content incoming sender
        (session.raise exception) :=
    fun exception => (SenderView.raise session wire exception).moves _
  unfold Session.stepAwaitOackAck
  rcases session.recievePacketFromClient_cases foreign event.reception
    with ⟨other, result⟩ | ⟨exception, result⟩ |
      ⟨other, bytes, heard, result⟩
  · simp only [result]
    have stays :
        SenderView size content
          ⟨{ session with
              udp := session.udp.send unknownSender.makeRaw other },
            .awaitOackAck reader retries (foreign + 1)⟩ sender :=
      ⟨{ data := by simpa using wire.data
         oacks :=
           wire.oacks.append_of_opcode unknownSender.getOpcode_makeRaw
             (by decide) _ },
        sameSize, behind, none, free⟩
    exact stays.moves incoming
  · rw [result]
    cases exception with
    | udpTimeout => exact slower _
    | udpSigint =>
        exact
          (SenderView.checkForSigintRRQ wire event.host reader).moves
            incoming
    | _ => exact raises _
  · simp only [result]
    cases classified :
        Session.classifyOackReply
          (bytes.take UdpClient.maxPacketSize) with
    | error exception => exact raises _
    | ok reply =>
        cases reply with
        | acknowledged =>
            exact
              SendingMoves.sendFirstBlock session.timeoutReset
                sameSize behind ⟨wire.data, wire.oacks⟩ none free
                event.host
        | requestedAgain => exact waits _

/-- A step of a handler which hears the given datagrams. -/
def Handler.Step (incoming : List Datagram)
    (handler next : Handler) : Prop :=
  ∃ event, Carries incoming event.reception ∧
    next = handler.step event

/-- A handler which follows on a RRQ implements the sender. -/
theorem implementsSender (size : Nat) (content : Bytes) :
    ImplementsSender blockNumbers (blockOf size content) Handler.sent
      Handler.Step (dataOn size) acksOn (OackAgrees size)
      (SenderView size content) where
  data view := view.wire.data
  honest view := view.wire.oacks
  move := by
    rintro incoming ⟨session, control⟩ next sender ⟨wire, knows⟩
      ⟨event, carries, rfl⟩
    cases control with
    | awaitOackAck reader retries foreign =>
        obtain ⟨sameSize, behind, none, free⟩ := knows
        exact
          SendingMoves.stepAwaitOackAck sameSize behind wire none
            free retries foreign event
    | awaitAck sending retries foreign =>
        obtain ⟨sameSize, transmits⟩ := knows
        exact
          SendingMoves.stepAwaitAck sameSize transmits wire
            retries foreign carries
    | ended outcome => exact SenderView.moves ⟨wire, knows⟩ incoming
    | awaitFirstData => exact knows.elim
    | awaitData => exact knows.elim

end IsaTftp.Server
