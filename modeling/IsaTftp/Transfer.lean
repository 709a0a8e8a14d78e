import IsaTftp.Wire.Requests
import IsaTftp.Files.Netascii
import IsaTftp.Files.Storage

/-!
# What both parties share

The socket wrapper `UdpClient`, the helper which receives from one peer, and
the two ways of looking at a packet while a transfer waits: for an ACK, or for
a DATA packet.  The four wait loops of the program are copies of these with
other numbers and texts.

A party is driven by events.  An event holds what the environment answers when
the party next looks at it: what a receive brings, whether SIGINT has been
received, and what the operating system decides.
-/

namespace IsaTftp.Transfer

open IsaTftp.Wire
open IsaTftp.Files

/-- `MAX_RETRIES` of both parties. -/
def maxRetries : Nat := 5

structure Address where
  ip : Nat
  port : UInt16
deriving DecidableEq, Repr

/-- The `DataFormat` which belongs to a mode. -/
def formatOfMode : Mode → DataFormat
  | .OCTET => .OCTET
  | .NETASCII => .NETASCII

/-! ## The socket -/

/-- What one call of `recvfrom` meets. -/
inductive Reception where
  | datagram (sender : Address) (bytes : Bytes)
  | timeout
  /-- `SIGINT_RECEIVED` is set before the call -/
  | sigint
  /-- any other socket error, an interrupted call included -/
  | failure
deriving DecidableEq, Repr

structure Event where
  reception : Reception := .timeout
  /--
  The checks of `SIGINT_RECEIVED` between two receives are numbered in the
  order in which they run; from this one on the flag is set.
  -/
  sigintFrom : Option Nat := none
  host : HostChoice := {}
deriving DecidableEq, Repr

/-- What `SIGINT_RECEIVED.load()` returns at a check. -/
def Event.sigintAt (event : Event) (check : Nat) : Bool :=
  match event.sigintFrom with
  | none => false
  | some first => first ≤ check

/--
`UdpClient`.  `receiveTimeout` is the value of the socket option, in seconds;
`sent` is every datagram sent so far, oldest first.
-/
structure UdpClient where
  timeout : Nat
  receiveTimeout : Nat
  sent : List (Address × Bytes)
deriving DecidableEq, Repr

namespace UdpClient

def defaultTimeout : Nat := 1

def maxPacketSize : Nat := 65500

/-- The constructor. -/
def make : UdpClient :=
  ⟨defaultTimeout, defaultTimeout, []⟩

def send (udp : UdpClient) (data : Bytes) (reciever : Address) :
    UdpClient :=
  { udp with sent := udp.sent ++ [(reciever, data)] }

def changeTimeout (udp : UdpClient) (timeout : Nat) : UdpClient :=
  { udp with receiveTimeout := timeout }

/-- `IncreaseTimeout` with its default multiplier. -/
def increaseTimeout (udp : UdpClient) : UdpClient :=
  { udp with
    timeout := udp.timeout * 2
    receiveTimeout := udp.timeout * 2 }

def timeoutReset (udp : UdpClient) : UdpClient :=
  { udp with
    timeout := defaultTimeout
    receiveTimeout := defaultTimeout }

@[simp]
theorem sent_send (udp : UdpClient) (data : Bytes)
    (reciever : Address) :
    (udp.send data reciever).sent = udp.sent ++ [(reciever, data)] :=
  rfl

@[simp]
theorem sent_increaseTimeout (udp : UdpClient) :
    udp.increaseTimeout.sent = udp.sent :=
  rfl

@[simp]
theorem sent_timeoutReset (udp : UdpClient) :
    udp.timeoutReset.sent = udp.sent :=
  rfl

@[simp]
theorem sent_changeTimeout (udp : UdpClient) (timeout : Nat) :
    (udp.changeTimeout timeout).sent = udp.sent :=
  rfl

/-- The same socket, but other datagrams were sent before. -/
@[simps]
def after (udp : UdpClient) (earlier : List (Address × Bytes)) :
    UdpClient :=
  { udp with sent := earlier ++ udp.sent }

@[simp]
theorem send_after (udp : UdpClient) (earlier : List (Address × Bytes))
    (data : Bytes) (reciever : Address) :
    (udp.after earlier).send data reciever =
      (udp.send data reciever).after earlier := by
  simp [send, after]

end UdpClient

/-! ### Defaults of what can be negotiated -/

def defaultBlksize : Nat := 512

/-- The block size which some options name, or the default. -/
def blksizeIn (options : List TftpOption) : Nat :=
  lastNumber .BLKSIZE defaultBlksize options

/-- The timeout which some options name, or the default. -/
def timeoutIn (options : List TftpOption) : Nat :=
  lastNumber .TIMEOUT UdpClient.defaultTimeout options

/-! ### Receiving -/

/-- `UdpClient::Receive`: a datagram is cut to the buffer. -/
def receive (reception : Reception) :
    Except Exception (Address × Bytes) :=
  match reception with
  | .datagram sender bytes =>
      .ok (sender, bytes.take UdpClient.maxPacketSize)
  | .timeout => .error .udpTimeout
  | .sigint => .error .udpSigint
  | .failure => .error (.udp (text "Error receiving data"))

/-! ## Receiving from one peer -/

/-- What one reception leads to inside the helper. -/
inductive Delivery where
  /-- the helper receives again -/
  | pending (foreign : Nat)
  | delivered (packet : Bytes)
  | threw (exception : Exception)
deriving DecidableEq, Repr

/-- The reply to a datagram of an unknown sender. -/
def unknownSender : ErrorPacket :=
  ⟨.UNKNOWN_TID, text "Unknown sender"⟩

/--
One reception of `RecievePacketFromClient` and `RecievePacketFromServer`, two
copies of one loop.  `foreign` counts the datagrams of other senders so far;
when it has reached `MAX_RETRIES` the next datagram is dropped, whoever sent
it, and the helper reports a timeout.
-/
def recievePacketFrom (peer : Address) (udp : UdpClient)
    (foreign : Nat) (reception : Reception) : UdpClient × Delivery :=
  match receive reception with
  | .error exception => (udp, .threw exception)
  | .ok (sender, buffer) =>
      if sender ≠ peer ∧ foreign < maxRetries then
        (udp.send unknownSender.makeRaw sender, .pending (foreign + 1))
      else if maxRetries ≤ foreign then (udp, .threw .udpTimeout)
      else (udp, .delivered buffer)

/-- Everything the receiving helper can do with one reception. -/
theorem recievePacketFrom_cases
    {peer : Address} {udp next : UdpClient} {foreign : Nat}
    {reception : Reception} {delivery : Delivery}
    (result :
      recievePacketFrom peer udp foreign reception = (next, delivery)) :
    (∃ sender, next = udp.send unknownSender.makeRaw sender ∧
        delivery = .pending (foreign + 1)) ∨
      (next = udp ∧ ∃ exception, delivery = .threw exception) ∨
        (next = udp ∧ ∃ sender bytes,
          reception = .datagram sender bytes ∧
            delivery =
              .delivered (bytes.take UdpClient.maxPacketSize)) := by
  unfold recievePacketFrom at result
  cases reception with
  | datagram sender bytes =>
      simp only [receive] at result
      split_ifs at result with unknown many
      · obtain ⟨rfl, rfl⟩ := Prod.mk.inj result
        exact Or.inl ⟨sender, rfl, rfl⟩
      · obtain ⟨rfl, rfl⟩ := Prod.mk.inj result
        exact Or.inr (Or.inl ⟨rfl, _, rfl⟩)
      · obtain ⟨rfl, rfl⟩ := Prod.mk.inj result
        exact Or.inr (Or.inr ⟨rfl, sender, bytes, rfl, rfl⟩)
  | timeout =>
      obtain ⟨rfl, rfl⟩ := Prod.mk.inj result
      exact Or.inr (Or.inl ⟨rfl, _, rfl⟩)
  | sigint =>
      obtain ⟨rfl, rfl⟩ := Prod.mk.inj result
      exact Or.inr (Or.inl ⟨rfl, _, rfl⟩)
  | failure =>
      obtain ⟨rfl, rfl⟩ := Prod.mk.inj result
      exact Or.inr (Or.inl ⟨rfl, _, rfl⟩)

/-- Nothing is read of a datagram which another sender has sent. -/
theorem recievePacketFrom_foreign
    {peer sender : Address} (unknown : sender ≠ peer) (udp : UdpClient)
    (foreign : Nat) (bytes : Bytes) :
    recievePacketFrom peer udp foreign (.datagram sender bytes) =
      if foreign < maxRetries then
        (udp.send unknownSender.makeRaw sender, .pending (foreign + 1))
      else (udp, .threw .udpTimeout) := by
  by_cases few : foreign < maxRetries
  · simp [recievePacketFrom, receive, unknown, few]
  · simp [recievePacketFrom, receive, few, Nat.le_of_not_lt few]

/-- A datagram of the peer is delivered while the budget lasts. -/
theorem recievePacketFrom_peer (peer : Address) (udp : UdpClient)
    (foreign : Nat) (bytes : Bytes) :
    recievePacketFrom peer udp foreign (.datagram peer bytes) =
      if foreign < maxRetries then
        (udp, .delivered (bytes.take UdpClient.maxPacketSize))
      else (udp, .threw .udpTimeout) := by
  by_cases few : foreign < maxRetries
  · simp [recievePacketFrom, receive, few, Nat.not_le_of_lt few]
  · simp [recievePacketFrom, receive, few, Nat.le_of_not_lt few]

/-- What is delivered was sent by the peer, before the budget was used up. -/
theorem recievePacketFrom_delivered
    {peer : Address} {udp next : UdpClient} {foreign : Nat}
    {reception : Reception} {packet : Bytes}
    (result :
      recievePacketFrom peer udp foreign reception =
        (next, .delivered packet)) :
    next = udp ∧ foreign < maxRetries ∧
      ∃ bytes, reception = .datagram peer bytes ∧
        packet = bytes.take UdpClient.maxPacketSize := by
  unfold recievePacketFrom at result
  cases reception with
  | datagram sender bytes =>
      simp only [receive] at result
      split_ifs at result with unknown many
      · cases result
      · cases result
      · cases result
        have few : foreign < maxRetries := Nat.lt_of_not_le many
        have same : sender = peer := by
          by_contra other
          exact unknown ⟨other, few⟩
        exact ⟨rfl, few, bytes, by rw [same], rfl⟩
  | timeout => cases result
  | sigint => cases result
  | failure => cases result

/-- A datagram of another sender. -/
def IsForeign (peer : Address) (event : Event) : Prop :=
  ∃ sender bytes, event.reception = .datagram sender bytes ∧ sender ≠ peer

/-- The reply to a datagram of another sender. -/
def IsReply (peer : Address) (sent : Address × Bytes) : Prop :=
  sent.1 ≠ peer ∧ sent.2 = unknownSender.makeRaw

/-- What was sent before has no influence on a reception. -/
theorem recievePacketFrom_after (peer : Address) (udp : UdpClient)
    (earlier : List (Address × Bytes)) (foreign : Nat)
    (reception : Reception) :
    recievePacketFrom peer (udp.after earlier) foreign reception =
      ((recievePacketFrom peer udp foreign reception).1.after earlier,
        (recievePacketFrom peer udp foreign reception).2) := by
  unfold recievePacketFrom
  split
  · rfl
  · split_ifs
    · rw [UdpClient.send_after]
    · rfl
    · rfl

/-! ## Waiting for an ACK -/

inductive AckReply where
  | received
  | old
  | ignored
deriving DecidableEq, Repr

/--
The body of a loop which waits for the ACK of block `blockNumber`.  The
comparison is made on integers, whatever type the counter has.
-/
def classifyAck (responder : Bytes) (blockNumber : Nat)
    (packet : Bytes) : Except Exception AckReply := do
  let opcode ← getOpcodeFromRaw packet
  match opcode with
  | .ACK =>
      let ack ← AckPacket.ofRaw packet
      if ack.blockNumber.toNat = blockNumber then pure .received
      else if ack.blockNumber.toNat ≤ blockNumber then pure .old
      else
        throw
          (illegalOperation
            (text "Expected ACK packet with block number " ++
              Wire.toString blockNumber ++ text ", got block number " ++
              Wire.toString ack.blockNumber.toNat))
  | .ERROR =>
      let error ← ErrorPacket.ofRaw packet
      throw
        (.recievedErrorPacket
          (responder ++ text " responded with error: " ++
            error.errorMessage))
  | _ => pure .ignored

/-! ## Waiting for DATA -/

inductive DataReply where
  | accepted (data : Bytes)
  | old
  | ignored
deriving DecidableEq, Repr

/--
The body of a loop which waits for DATA block `expected`.  `announced` is the
number which the error text names as the expected one.
-/
def classifyData (responder : Bytes) (expected announced blksize : Nat)
    (packet : Bytes) : Except Exception DataReply := do
  let opcode ← getOpcodeFromRaw packet
  match opcode with
  | .DATA =>
      let data ← DataPacket.ofRaw packet blksize
      if data.blockNumber.toNat = expected then pure (.accepted data.data)
      else if data.blockNumber.toNat < expected then pure .old
      else
        throw
          (illegalOperation
            (text "Expected DATA packet with block number " ++
              Wire.toString announced ++ text ", got block number " ++
              Wire.toString data.blockNumber.toNat))
  | .ERROR =>
      let error ← ErrorPacket.ofRaw packet
      throw
        (.recievedErrorPacket
          (responder ++ text " responded with error: " ++
            error.errorMessage))
  | _ => pure .ignored

/-! ## ERROR packets -/

/-- The exception which an ERROR packet of the other side leads to. -/
def errorException (responder : Bytes) (packet : Bytes) : Exception :=
  match ErrorPacket.ofRaw packet with
  | .error exception => exception
  | .ok error =>
      .recievedErrorPacket
        (responder ++ text " responded with error: " ++
          error.errorMessage)

theorem classifyAck_of_error
    {packet : Bytes} (known : getOpcodeFromRaw packet = .ok .ERROR)
    (responder : Bytes) (blockNumber : Nat) :
    classifyAck responder blockNumber packet =
      .error (errorException responder packet) := by
  simp only [classifyAck, known, bind, Except.bind, errorException]
  cases ErrorPacket.ofRaw packet <;> rfl

theorem classifyData_of_error
    {packet : Bytes} (known : getOpcodeFromRaw packet = .ok .ERROR)
    (responder : Bytes) (expected announced blksize : Nat) :
    classifyData responder expected announced blksize packet =
      .error (errorException responder packet) := by
  simp only [classifyData, known, bind, Except.bind, errorException]
  cases ErrorPacket.ofRaw packet <;> rfl

/-- The text of the exception which ends a wait without an answer. -/
def timeoutError : Exception :=
  illegalOperation (text "Error: Timeout")

/-! ## Reporting an exception -/

/-- The ERROR packet which both top-level functions send for an exception. -/
def errorReply (exception : TftpException) : Option ErrorPacket :=
  match exception with
  | .fileNotFoundError _ => some ⟨.FILE_NOT_FOUND, exception.what⟩
  | .accessViolationError => some ⟨.ACCESS_VIOLATION, exception.what⟩
  | .diskFullError => some ⟨.DISK_FULL, exception.what⟩
  | .illegalOperationError _ => some ⟨.ILLEGAL_OPERATION, exception.what⟩
  | .unknownTransferIDError => some ⟨.UNKNOWN_TID, exception.what⟩
  | .fileAlreadyExistsError _ =>
      some ⟨.FILE_ALREADY_EXISTS, exception.what⟩
  | .noSuchUserError => some ⟨.NO_SUCH_USER, exception.what⟩
  | .optionNegotiationError => some ⟨.FAILED_NEGOTIATION, exception.what⟩
  | .unknownError => none

/-- The catch clauses of `FollowOnIntroPacket` and `TftpClient::run`. -/
def reportException (udp : UdpClient) (peer : Address)
    (exception : Exception) : UdpClient :=
  match exception with
  | .tftp exception =>
      match errorReply exception with
      | some packet => udp.send packet.makeRaw peer
      | none => udp
  | _ => udp

theorem reportException_after (udp : UdpClient)
    (earlier : List (Address × Bytes)) (peer : Address)
    (exception : Exception) :
    reportException (udp.after earlier) peer exception =
      (reportException udp peer exception).after earlier := by
  unfold reportException
  split
  · split
    · rw [UdpClient.send_after]
    · rfl
  · rfl

end IsaTftp.Transfer
