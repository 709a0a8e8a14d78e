import IsaTftp.Client.Session

/-!
# SendWrq and SendData

`SendWrq` sends the request once and waits for one answer; its `try` block
encloses the loop, so that a timeout ends the wait.  `SendData` sends one
block of standard input after the other, each one once, before the loop which
waits for its ACK.
-/

namespace IsaTftp.Client

open IsaTftp.Wire
open IsaTftp.Files
open IsaTftp.Transfer

namespace Session

/-! ## SendData -/

/-- The head of the wait loop, and what follows the loop on a timeout. -/
def awaitAckAgain (session : Session) (sending : Sending)
    (retries : Nat) (event : Event) : TftpClient :=
  if retries < maxRetries then
    session.checkForSigintWRQ (event.sigintAt 6) fun session =>
      ⟨session, .awaitAck sending retries 0⟩
  else
    session.checkForSigintWRQ (event.sigintAt 6) fun session =>
      session.raise timeoutError

/-- The part of the outer loop after the check: read, send, wait. -/
def sendBlock (session : Session) (stdHandler : StdHandler)
    (blockNumber : UInt16) (event : Event) : TftpClient :=
  match stdHandler.readBytesFromStdin event.host
      session.blksize.toNat with
  | .error .failedToReadFromStdin => session.raise (.tftp .unknownError)
  | .error exception => session.raise exception
  | .ok (data, stdHandler) =>
      let packet : DataPacket := ⟨blockNumber, data⟩
      (session.send packet.makeRaw).awaitAckAgain
        { stdHandler := stdHandler
          blockNumber := blockNumber
          data := data
          lastPacketSent := decide (data.length < session.blksize.toNat) }
        0 event

/-- The head of the outer loop. -/
def sendNextBlock (session : Session) (stdHandler : StdHandler)
    (blockNumber : UInt16) (event : Event) : TftpClient :=
  session.checkForSigintWRQ (event.sigintAt 5) fun session =>
    session.sendBlock stdHandler blockNumber event

/-- `SendData()`, up to the first receive. -/
def sendData (session : Session) (event : Event) : TftpClient :=
  session.checkForSigintWRQ (event.sigintAt 3) fun session =>
    let stdHandler :=
      StdHandler.make (formatOfMode session.args.fileMode) session.stdin
    match scanBlksize session.blksize session.args.options with
    | .error exception => session.raise exception
    | .ok blksize =>
        { session with blksize := blksize }.sendNextBlock stdHandler 1 event

/-- After the wait loop: the block was acknowledged. -/
def afterAck (session : Session) (sending : Sending) (event : Event) :
    TftpClient :=
  session.checkForSigintWRQ (event.sigintAt 4) fun session =>
    if sending.lastPacketSent then
      ⟨session.timeoutReset, .ended .returned⟩
    else
      session.timeoutReset.sendNextBlock sending.stdHandler
        (sending.blockNumber + 1) event

/-- One reception while the ACK of a block is awaited. -/
def stepAwaitAck (session : Session) (sending : Sending)
    (retries foreign : Nat) (event : Event) : TftpClient :=
  match session.recievePacketFromServer foreign event.reception with
  | (session, .pending foreign) =>
      ⟨session, .awaitAck sending retries foreign⟩
  | (session, .threw .udpTimeout) =>
      session.increaseTimeout.awaitAckAgain sending (retries + 1) event
  | (session, .threw .udpSigint) => session.interruptWrite
  | (session, .threw exception) => session.raise exception
  | (session, .delivered packet) =>
      match classifyAck (text "Server") sending.blockNumber.toNat
          packet with
      | .ok .received => session.afterAck sending event
      | .ok .old =>
          session.increaseTimeout.awaitAckAgain sending (retries + 1) event
      | .ok .ignored => session.awaitAckAgain sending retries event
      | .error exception => session.raise exception

/-! ## SendWrq -/

/-- The reaction to the answer; afterwards the options are settled. -/
def acceptWrqReply (session : Session) (packet : Bytes) :
    Except Exception Session := do
  let opcode ← getOpcodeFromRaw packet
  match opcode with
  | .ACK =>
      let ack ← AckPacket.ofRaw packet
      if ack.blockNumber.toNat ≠ 0 then
        throw
          (illegalOperation
            (text "Expected ACK packet with block number 0, got " ++
              text "block number " ++
              Wire.toString ack.blockNumber.toNat))
      (session.withOptions []).setupUdpClient
  | .OACK =>
      let oack ← OackPacket.ofRaw packet
      session.checkOack oack
      (session.withOptions oack.options).setupUdpClient
  | .ERROR =>
      let error ← ErrorPacket.ofRaw packet
      throw
        (.recievedErrorPacket
          (text "Server responded with error: " ++ error.errorMessage))
  | _ =>
      throw
        (illegalOperation (text "Expected ACK, OACK, or ERROR packet"))

/--
The one reception of `SendWrq`.  After a timeout the function resets the
timeout and returns as if the request had been answered.
-/
def stepAwaitWrqReply (session : Session) (event : Event) : TftpClient :=
  match receive event.reception with
  | .error .udpTimeout =>
      session.increaseTimeout.checkForSigintWRQ (event.sigintAt 2)
        fun session => session.timeoutReset.sendData event
  | .error .udpSigint => session.interruptWrite
  | .error exception => session.raise exception
  | .ok (sender, packet) =>
      let session := session.adoptPort sender
      match session.acceptWrqReply packet with
      | .error exception => session.raise exception
      | .ok session =>
          session.checkForSigintWRQ (event.sigintAt 2) fun session =>
            session.sendData event

/-- `SendWrq()`, up to the receive. -/
def sendWrq (session : Session) (event : Event) : TftpClient :=
  session.checkForSigintWRQ (event.sigintAt 0) fun session =>
    let wrq : ReadWritePacket :=
      ⟨.WRQ, session.args.destFilepath, .OCTET, session.args.options⟩
    match wrq.makeRaw with
    | .error exception => session.raise exception
    | .ok raw =>
        (session.send raw).checkForSigintWRQ (event.sigintAt 1)
          fun session => ⟨session, .awaitWrqReply⟩

end Session

end IsaTftp.Client
