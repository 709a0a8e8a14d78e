import IsaTftp.Client.Session

/-!
# Read

`Read` sends the request until the first answer comes, which may already be
the first block, and then acknowledges and receives one block after the
other.  The counter is a `uint16_t`, but the number which it is compared with
is computed as an `int`: after block 65535 no number fits any more.
-/

namespace IsaTftp.Client

open IsaTftp.Wire
open IsaTftp.Files
open IsaTftp.Transfer

namespace Session

/-- An exception leaves the function: the writer is destroyed first. -/
def abandonRead (session : Session) (host : HostChoice)
    (writer : Writer) (exception : Exception) : TftpClient :=
  (session.withStorage (writer.close session.storage host)).raise exception

/-- The catch clauses around the call of `WriteFile`. -/
def writeException : Exception → Exception
  | .fileHandler .failedToWriteToFile => .tftp .diskFullError
  | .fileHandler (.failedToOpenFile _) => .tftp .accessViolationError
  | exception => exception

/-! ## Receiving blocks -/

/-- The end of the function: the last block is acknowledged once. -/
def finishRead (session : Session) (writer : Writer)
    (blockNumber : UInt16) (event : Event) : TftpClient :=
  session.checkForSigintRRQ event.host writer (event.sigintAt 4)
    fun session =>
      let ack : AckPacket := ⟨blockNumber⟩
      let session := session.send ack.makeRaw
      ⟨session.withStorage (writer.close session.storage event.host),
        .ended .returned⟩

/-- The head of the loop for one block: acknowledge, then wait. -/
def awaitDataAgain (session : Session) (writer : Writer)
    (blockNumber : UInt16) (retries : Nat) (event : Event) : TftpClient :=
  if retries < maxRetries then
    session.checkForSigintRRQ event.host writer (event.sigintAt 4)
      fun session =>
        let ack : AckPacket := ⟨blockNumber⟩
        ⟨session.send ack.makeRaw,
          .awaitData writer blockNumber retries 0⟩
  else
    session.checkForSigintRRQ event.host writer (event.sigintAt 4)
      fun session => session.abandonRead event.host writer timeoutError

/-- The call of `WriteFile`, and where the transfer goes on after it. -/
def storeBlock (session : Session) (writer : Writer) (event : Event)
    (data : Bytes) (proceed : Session → Writer → TftpClient) :
    TftpClient :=
  match writer.writeFile session.storage event.host data with
  | (.undefined, _, storage) =>
      ⟨session.withStorage storage, .ended .undefined⟩
  | (.threw exception, writer, storage) =>
      (session.withStorage storage).abandonRead event.host writer
        (writeException exception)
  | (.done, writer, storage) =>
      proceed (session.withStorage storage) writer

/-- Both loops, behind a block: receive the next one, or end. -/
def afterData (session : Session) (writer : Writer)
    (blockNumber : UInt16) (lastPacketReceived : Bool) (event : Event) :
    TftpClient :=
  if lastPacketReceived then
    session.finishRead writer blockNumber event
  else session.awaitDataAgain writer blockNumber 0 event

/-- One reception in the loop for the DATA packets. -/
def stepAwaitData (session : Session) (writer : Writer)
    (blockNumber : UInt16) (retries foreign : Nat) (event : Event) :
    TftpClient :=
  match session.recievePacketFromServer foreign event.reception with
  | (session, .pending foreign) =>
      ⟨session, .awaitData writer blockNumber retries foreign⟩
  | (session, .threw .udpTimeout) =>
      session.increaseTimeout.awaitDataAgain writer blockNumber
        (retries + 1) event
  | (session, .threw .udpSigint) =>
      session.interruptRead event.host writer
  | (session, .threw exception) =>
      session.abandonRead event.host writer exception
  | (session, .delivered packet) =>
      match classifyData (text "Server") (blockNumber.toNat + 1)
          (blockNumber.toNat + 1) session.blksize.toNat packet with
      | .ok (.accepted data) =>
          session.storeBlock writer event data fun session writer =>
            session.timeoutReset.afterData writer (blockNumber + 1)
              (decide (data.length < session.blksize.toNat)) event
      | .ok .old =>
          session.increaseTimeout.awaitDataAgain writer blockNumber
            (retries + 1) event
      | .ok .ignored =>
          session.awaitDataAgain writer blockNumber retries event
      | .error exception =>
          session.abandonRead event.host writer exception

/-! ## The first answer -/

/-- Between the two loops: look for the block size. -/
def afterRrqReply (session : Session) (writer : Writer)
    (blockNumber : UInt16) (lastPacketReceived : Bool) (event : Event) :
    TftpClient :=
  session.checkForSigintRRQ event.host writer (event.sigintAt 2)
    fun session =>
      let session := session.timeoutReset
      match scanBlksize session.blksize session.args.options with
      | .error exception =>
          session.abandonRead event.host writer exception
      | .ok blksize =>
          { session with blksize := blksize }.checkForSigintRRQ event.host
            writer (event.sigintAt 3) fun session =>
              session.afterData writer blockNumber lastPacketReceived event

/-- The `tsize` options of an OACK: is there space for the file? -/
def checkSpace (session : Session) :
    List TftpOption → Except Exception Unit
  | [] => .ok ()
  | option :: options =>
      if option.name = .TSIZE then
        match stoull option.value with
        | .error exception => .error exception
        | .ok tsize =>
            if session.storage.hasEnoughSpace session.args.destFilepath
                tsize then
              session.checkSpace options
            else .error (.fileHandler .notEnoughSpace)
      else session.checkSpace options

/-- What the first answer turns out to be. -/
inductive RrqReply where
  | firstBlock (data : Bytes)
  | oack (options : List TftpOption)
deriving DecidableEq

/-- How the first answer is classified. -/
def classifyRrqReply (session : Session) (packet : Bytes) :
    Except Exception RrqReply := do
  let opcode ← getOpcodeFromRaw packet
  match opcode with
  | .DATA =>
      let data ← DataPacket.ofRaw packet session.blksize.toNat
      if data.blockNumber.toNat ≠ 1 then
        throw
          (illegalOperation
            (text "Expected DATA packet with block number 1, got " ++
              text "block number " ++
              Wire.toString data.blockNumber.toNat))
      pure (.firstBlock data.data)
  | .OACK =>
      let oack ← OackPacket.ofRaw packet
      session.checkOack oack
      pure (.oack oack.options)
  | .ERROR =>
      let error ← ErrorPacket.ofRaw packet
      throw
        (.recievedErrorPacket
          (text "Server responded with error: " ++ error.errorMessage))
  | _ =>
      throw
        (illegalOperation (text "Expected DATA, OACK, or ERROR packet"))

/--
The first block came instead of an OACK: the options are dropped, but what
they have set up stays.
-/
def acceptFirstBlock (session : Session) (writer : Writer)
    (event : Event) (data : Bytes) : TftpClient :=
  match (session.withOptions []).setupUdpClient with
  | .error exception => session.abandonRead event.host writer exception
  | .ok session =>
      session.storeBlock writer event data fun session writer =>
        session.afterRrqReply writer 1
          (decide (data.length < session.blksize.toNat)) event

/-- An OACK came: its options replace the requested ones. -/
def acceptOack (session : Session) (writer : Writer) (event : Event)
    (options : List TftpOption) : TftpClient :=
  let session := session.withOptions options
  match session.checkSpace options with
  | .error exception => session.abandonRead event.host writer exception
  | .ok () =>
      match session.setupUdpClient with
      | .error exception =>
          session.abandonRead event.host writer exception
      | .ok session => session.afterRrqReply writer 0 false event

/-- The head of the loop which sends the RRQ. -/
def awaitRrqReplyAgain (session : Session) (writer : Writer)
    (retries : Nat) (event : Event) : TftpClient :=
  session.checkForSigintRRQ event.host writer (event.sigintAt 1)
    fun session =>
      if retries < maxRetries then
        let rrq : ReadWritePacket :=
          ⟨.RRQ, session.args.filepath, .OCTET, session.args.options⟩
        match rrq.makeRaw with
        | .error exception =>
            session.abandonRead event.host writer exception
        | .ok raw => ⟨session.send raw, .awaitRrqReply writer retries⟩
      else session.abandonRead event.host writer timeoutError

/-- One reception in the loop which sends the RRQ, from whatever sender. -/
def stepAwaitRrqReply (session : Session) (writer : Writer)
    (retries : Nat) (event : Event) : TftpClient :=
  match receive event.reception with
  | .error .udpTimeout =>
      session.increaseTimeout.awaitRrqReplyAgain writer (retries + 1) event
  | .error .udpSigint => session.interruptRead event.host writer
  | .error exception => session.abandonRead event.host writer exception
  | .ok (sender, packet) =>
      let session := session.adoptPort sender
      match session.classifyRrqReply packet with
      | .error exception =>
          session.abandonRead event.host writer exception
      | .ok (.firstBlock data) =>
          session.acceptFirstBlock writer event data
      | .ok (.oack options) => session.acceptOack writer event options

/-- `Read()`, up to the first receive. -/
def read (session : Session) (event : Event) : TftpClient :=
  session.awaitRrqReplyAgain
    (Writer.make session.args.destFilepath
      (formatOfMode session.args.fileMode))
    0 event

end Session

end IsaTftp.Client
