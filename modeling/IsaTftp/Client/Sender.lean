import IsaTftp.Network
import IsaTftp.Client.Machine

/-!
# SendData sends by stop-and-wait

In octet mode the client implements the sender of the library.  The view
counts blocks without wrapping, while the block number of the client is a
`uint16_t`; how many blocks it has sent is read off its datagrams.
-/

namespace IsaTftp.Client

open IsaTftp.Wire
open IsaTftp.Files
open IsaTftp.Transfer
open IsaTftp.Library.Chunking
open IsaTftp.Library.StopAndWait

/-- The loop in which the client waits for the ACK of the last sent block. -/
structure Transmitting (size : Nat) (stdin : Bytes) (sending : Sending)
    (sender : Sender Bytes) : Prop where
  octet : sending.stdHandler.mode = .OCTET
  number : sending.blockNumber.toNat = sender.sent % blockNumbers
  last : sending.lastPacketSent = true →
    chunkCount size stdin ≤ sender.sent
  more : sending.lastPacketSent = false →
    sending.stdHandler.stdin = Stream.behind size stdin sender.sent

/-- What the control state knows about the sender. -/
def ControlAgrees (size : Nat) (stdin : Bytes) (client : TftpClient)
    (sender : Sender Bytes) : Prop :=
  match client.control with
  | .awaitAck sending _ _ =>
      client.session.blksize.toNat = size ∧
        Transmitting size stdin sending sender
  | .ended .returned =>
      sender.acknowledged = sender.sent ∧
        chunkCount size stdin ≤ sender.sent
  | .ended _ => True
  | _ => False

/-- The client seen as the sender of a stop-and-wait exchange. -/
structure SenderView (size : Nat) (stdin : Bytes) (client : TftpClient)
    (sender : Sender Bytes) : Prop where
  data : sender.data = dataOn size client.session.udp.sent
  control : ControlAgrees size stdin client sender

/-- The client has stopped without returning, and has sent no block. -/
structure Stopped (size : Nat) (session : Session) (client : TftpClient) :
    Prop where
  data : dataOn size client.session.udp.sent =
    dataOn size session.udp.sent
  ended : ∃ outcome, client.control = .ended outcome ∧
    outcome ≠ .returned

variable {size : Nat} {stdin : Bytes} {session : Session}
variable {sender : Sender Bytes}

/-! ## Ways to end -/

theorem Stopped.view
    {client : TftpClient} (stopped : Stopped size session client)
    (data : sender.data = dataOn size session.udp.sent) :
    SenderView size stdin client sender where
  data := by rw [stopped.data, data]
  control := by
    obtain ⟨outcome, ended, other⟩ := stopped.ended
    unfold ControlAgrees
    rw [ended]
    cases outcome <;> trivial

theorem Stopped.raise (size : Nat) (session : Session)
    (exception : Exception) :
    Stopped size session (session.raise exception) where
  data := by simp
  ended := ⟨_, rfl, by simp⟩

theorem Stopped.interruptWrite (size : Nat) (session : Session) :
    Stopped size session session.interruptWrite where
  data := by simp [Session.interruptWrite]
  ended := ⟨_, rfl, by simp⟩

/-! ## Sending and waiting -/

/-- While the client waits for an ACK the sender is idle. -/
theorem SenderView.awaitAckAgain
    (session : Session) {sending : Sending}
    (sameSize : session.blksize.toNat = size)
    (data : sender.data = dataOn size session.udp.sent)
    (transmitting : Transmitting size stdin sending sender)
    (retries : Nat) (event : Event) :
    SenderView size stdin (session.awaitAckAgain sending retries event)
      sender := by
  have interrupted :
      SenderView size stdin session.interruptWrite sender :=
    (Stopped.interruptWrite size session).view data
  unfold Session.awaitAckAgain Session.checkForSigintWRQ
  split_ifs
  · exact interrupted
  · exact ⟨data, sameSize, transmitting⟩
  · exact interrupted
  · exact (Stopped.raise size session _).view data

/-- Reading a block and sending it. -/
theorem SenderView.sendBlock
    {handler : StdHandler} {blockNumber : UInt16} {count : Nat}
    (positive : 0 < size)
    (sameSize : session.blksize.toNat = size)
    (octet : handler.mode = .OCTET)
    (behind : handler.stdin = Stream.behind size stdin count)
    (number : blockNumber.toNat = (count + 1) % blockNumbers)
    (event : Event) :
    Stopped size session (session.sendBlock handler blockNumber event) ∨
      SenderView size stdin (session.sendBlock handler blockNumber event)
        (sendOne size stdin count (dataOn size session.udp.sent)) := by
  unfold Session.sendBlock
  rw [sameSize]
  cases read : handler.readBytesFromStdin event.host size with
  | error exception =>
      left
      cases exception <;> exact Stopped.raise size session _
  | ok result =>
      obtain ⟨data, next⟩ := result
      right
      obtain ⟨block, mode, continues⟩ :=
        StdHandler.readBytesFromStdin_behind octet behind read
      refine
        SenderView.awaitAckAgain
          (session.send (DataPacket.makeRaw ⟨blockNumber, data⟩))
          sameSize ?_ ?_ 0 event
      · have fits : data.length ≤ size := by
          rw [block]
          exact length_chunk_le size stdin count
        have sent :=
          dataOn_append_data session.udp.sent ⟨blockNumber, data⟩
            session.serverAddress fits
        rw [Session.send_udp, UdpClient.sent_send, sent]
        simp [sendOne, number, block, blockOf]
      · refine ⟨mode, number, ?_, ?_⟩
        · intro last
          have short : data.length < size := of_decide_eq_true last
          rw [block] at short
          exact (length_chunk_lt_iff positive stdin count).mp short
        · intro more
          exact continues (of_decide_eq_false more)

theorem SenderView.sendNextBlock
    (session : Session) {handler : StdHandler} {blockNumber : UInt16} {count : Nat}
    (positive : 0 < size)
    (sameSize : session.blksize.toNat = size)
    (octet : handler.mode = .OCTET)
    (behind : handler.stdin = Stream.behind size stdin count)
    (number : blockNumber.toNat = (count + 1) % blockNumbers)
    (event : Event) :
    Stopped size session
        (session.sendNextBlock handler blockNumber event) ∨
      SenderView size stdin
        (session.sendNextBlock handler blockNumber event)
        (sendOne size stdin count (dataOn size session.udp.sent)) := by
  unfold Session.sendNextBlock Session.checkForSigintWRQ
  split_ifs
  · exact Or.inl (Stopped.interruptWrite size session)
  · exact
      SenderView.sendBlock positive sameSize octet behind number event

/-! ## The client as a sender -/

/-- A move of the client, and what it must have heard for it. -/
def Moves (size : Nat) (stdin : Bytes) (incoming : List Datagram)
    (sender : Sender Bytes) (client : TftpClient) : Prop :=
  ∃ heard moved,
    (∀ number, heard = some number → number ∈ acksOn incoming) ∧
      Sender.Move blockNumbers (blockOf size stdin) heard sender moved ∧
        SenderView size stdin client moved

theorem SenderView.moves
    {client : TftpClient} (view : SenderView size stdin client sender)
    (incoming : List Datagram) :
    Moves size stdin incoming sender client :=
  ⟨none, sender, by simp, .idle sender, view⟩

/-- The number of the current block has come back. -/
theorem Moves.afterAck
    {sending : Sending} {incoming : List Datagram}
    (positive : 0 < size)
    (sameSize : session.blksize.toNat = size)
    (data : sender.data = dataOn size session.udp.sent)
    (transmitting : Transmitting size stdin sending sender)
    (onWire : sender.sent % blockNumbers ∈ acksOn incoming)
    (event : Event) :
    Moves size stdin incoming sender
      (session.afterAck sending event) := by
  have heardOnWire :
      ∀ number, some (sender.sent % blockNumbers) = some number →
        number ∈ acksOn incoming := by
    intro number same
    cases same
    exact onWire
  have hears :
      ∀ {client : TftpClient},
        SenderView size stdin client
            { sender with acknowledged := sender.sent } →
          Moves size stdin incoming sender client :=
    fun view => ⟨_, _, heardOnWire, .hear sender rfl, view⟩
  unfold Session.afterAck Session.checkForSigintWRQ
  split_ifs with interrupted last
  · exact
      hears ((Stopped.interruptWrite size session).view data)
  · exact hears ⟨data, rfl, transmitting.last last⟩
  · have more : sending.lastPacketSent = false := by
      simpa using last
    have number :
        (sending.blockNumber + 1).toNat =
          (sender.sent + 1) % blockNumbers := by
      have before := transmitting.number
      simp only [blockNumbers] at before ⊢
      rw [UInt16.toNat_add, before]
      exact Nat.mod_add_mod _ _ _
    rcases SenderView.sendNextBlock session.timeoutReset
        positive sameSize transmitting.octet (transmitting.more more)
        number event with stopped | view
    · exact hears (stopped.view data)
    · refine ⟨_, _, heardOnWire, .hearAndSend sender rfl, ?_⟩
      rw [data]
      exact view

/-- One reception while the ACK of a block is awaited. -/
theorem Moves.stepAwaitAck
    {sending : Sending} {incoming : List Datagram}
    (positive : 0 < size)
    (sameSize : session.blksize.toNat = size)
    (data : sender.data = dataOn size session.udp.sent)
    (transmitting : Transmitting size stdin sending sender)
    (retries foreign : Nat) {event : Event}
    (carries : Carries incoming event.reception) :
    Moves size stdin incoming sender
      (session.stepAwaitAck sending retries foreign event) := by
  have waits := fun retries =>
    (SenderView.awaitAckAgain session sameSize data transmitting retries
      event).moves incoming
  have slower := fun retries =>
    (SenderView.awaitAckAgain session.increaseTimeout sameSize data
      transmitting retries event).moves incoming
  have raises : ∀ exception,
      Moves size stdin incoming sender (session.raise exception) :=
    fun exception =>
      ((Stopped.raise size session exception).view data).moves incoming
  unfold Session.stepAwaitAck
  rcases session.recievePacketFromServer_cases foreign event.reception
    with ⟨other, result⟩ | ⟨exception, result⟩ |
      ⟨other, bytes, heard, result⟩
  · simp only [result]
    have stays :
        SenderView size stdin
          ⟨{ session with
              udp := session.udp.send unknownSender.makeRaw other },
            .awaitAck sending retries (foreign + 1)⟩ sender :=
      ⟨by simpa using data, sameSize, transmitting⟩
    exact stays.moves incoming
  · rw [result]
    cases exception with
    | udpTimeout => exact slower _
    | udpSigint =>
        exact
          ((Stopped.interruptWrite size session).view data).moves incoming
    | _ => exact raises _
  · rw [result]
    rw [heard] at carries
    cases classified :
        classifyAck (text "Server") sending.blockNumber.toNat
          (bytes.take UdpClient.maxPacketSize) with
    | error exception =>
        simp only [classified]
        exact raises _
    | ok reply =>
        simp only [classified]
        cases reply with
        | received =>
            have onWire :=
              (mem_acksOn_of_received carries classified).1
            rw [transmitting.number] at onWire
            exact
              Moves.afterAck positive sameSize data transmitting onWire
                event
        | old => exact slower _
        | ignored => exact waits _

/-- A step of the client which hears the given datagrams. -/
def TftpClient.Step (incoming : List Datagram)
    (client next : TftpClient) : Prop :=
  ∃ event, Carries incoming event.reception ∧ next = client.step event

/-- The client which sends data implements the sender. -/
theorem implementsSender (positive : 0 < size) (stdin : Bytes) :
    ImplementsSender blockNumbers (blockOf size stdin) TftpClient.sent
      TftpClient.Step (dataOn size) acksOn (fun _ => True)
      (SenderView size stdin) where
  data view := view.data
  honest _ := trivial
  move := by
    rintro incoming ⟨session, control⟩ next sender
      ⟨data, knows⟩ ⟨event, carries, rfl⟩
    cases control with
    | awaitAck sending retries foreign =>
        obtain ⟨sameSize, transmitting⟩ := knows
        exact
          Moves.stepAwaitAck positive sameSize data transmitting retries
            foreign carries
    | ended outcome => exact SenderView.moves ⟨data, knows⟩ incoming
    | awaitWrqReply => exact knows.elim
    | awaitRrqReply => exact knows.elim
    | awaitData => exact knows.elim

/-- `SendData` begins like a sender which may have sent its first block. -/
theorem SenderView.start
    (positive : 0 < size) (octet : session.args.fileMode = .OCTET)
    (input : session.stdin = ⟨stdin, false⟩)
    {blksize : UInt16} (sameSize : blksize.toNat = size)
    (scanned :
      Session.scanBlksize session.blksize session.args.options =
        .ok blksize)
    (noData : dataOn size session.udp.sent = []) (event : Event) :
    SenderView size stdin (session.sendData event) ⟨0, 0, []⟩ ∨
      SenderView size stdin (session.sendData event)
        (sendOne size stdin 0 []) := by
  unfold Session.sendData Session.checkForSigintWRQ
  split_ifs
  · exact
      Or.inl ((Stopped.interruptWrite size session).view noData.symm)
  · simp only [scanned]
    let handler :=
      StdHandler.make (formatOfMode session.args.fileMode) session.stdin
    have mode : handler.mode = .OCTET := by
      simp [handler, octet, StdHandler.make, formatOfMode]
    have behind : handler.stdin = Stream.behind size stdin 0 := by
      simp [handler, input, StdHandler.make]
    have number : (1 : UInt16).toNat = (0 + 1) % blockNumbers := rfl
    have begins :=
      SenderView.sendNextBlock { session with blksize := blksize }
        positive sameSize mode behind number event
    rw [noData] at begins
    rcases begins with stopped | view
    · exact Or.inl (stopped.view noData.symm)
    · exact Or.inr view

end IsaTftp.Client
