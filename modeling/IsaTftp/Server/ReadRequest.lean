import IsaTftp.Server.Session

/-!
# FollowOnRRQ

The function sends an OACK if the request had options, waits for ACK 0, and
then sends one DATA packet after the other.  Each packet is sent once, before
its wait loop; the loop only listens.
-/

namespace IsaTftp.Server

open IsaTftp.Wire
open IsaTftp.Files
open IsaTftp.Transfer

namespace Session

/-- `CheckForSigintRRQ`, called with the flag set. -/
def checkForSigintRRQ (session : Session) (host : HostChoice)
    (reader : Reader) : Handler :=
  (session.send interrupted.makeRaw).deleteAndTerminate host
    reader.filepath

/-! ## Sending blocks -/

/-- The head of the outer loop: read a block, send it, start to wait. -/
def sendBlock (session : Session) (host : HostChoice) (reader : Reader)
    (blockNumber : Nat) : Handler :=
  match reader.readFile session.storage host session.blksize with
  | (.error exception, storage) =>
      (session.withStorage storage).raise exception
  | (.ok (data, reader), storage) =>
      -- the constructor takes the `int` counter as a `uint16_t`
      let packet : DataPacket := ⟨UInt16.ofNat blockNumber, data⟩
      ⟨(session.withStorage storage).send packet.makeRaw,
        .awaitAck
          { reader := reader
            blockNumber := blockNumber
            data := data
            lastPacketSent := decide (data.length < session.blksize) }
          0 0⟩

/-- After the wait loop: the block was acknowledged. -/
def afterAck (session : Session) (host : HostChoice)
    (sending : Sending) : Handler :=
  if sending.lastPacketSent then
    ⟨session.timeoutReset, .ended .returned⟩
  else
    session.timeoutReset.sendBlock host sending.reader
      (sending.blockNumber + 1)

/-- The head of the wait loop; the last block needs no answer. -/
def awaitAckAgain (session : Session) (sending : Sending)
    (retries : Nat) : Handler :=
  if retries < maxRetries then
    ⟨session, .awaitAck sending retries 0⟩
  else if sending.lastPacketSent then
    ⟨session.timeoutReset, .ended .returned⟩
  else session.raise timeoutError

/-- One reception while the ACK of a block is awaited. -/
def stepAwaitAck (session : Session) (sending : Sending)
    (retries foreign : Nat) (event : Event) : Handler :=
  match session.recievePacketFromClient foreign event.reception with
  | (session, .pending foreign) =>
      ⟨session, .awaitAck sending retries foreign⟩
  | (session, .threw .udpTimeout) =>
      session.increaseTimeout.awaitAckAgain sending (retries + 1)
  | (session, .threw .udpSigint) =>
      session.checkForSigintRRQ event.host sending.reader
  | (session, .threw exception) => session.raise exception
  | (session, .delivered packet) =>
      match classifyAck (text "Client") sending.blockNumber packet with
      | .ok .received => session.afterAck event.host sending
      | .ok .old =>
          session.increaseTimeout.awaitAckAgain sending (retries + 1)
      | .ok .ignored => session.awaitAckAgain sending retries
      | .error exception => session.raise exception

/-! ## The OACK exchange -/

inductive OackReply where
  | acknowledged
  | requestedAgain
deriving DecidableEq, Repr

/-- The body of the loop which waits for ACK 0. -/
def classifyOackReply (packet : Bytes) : Except Exception OackReply := do
  let opcode ← getOpcodeFromRaw packet
  match opcode with
  | .ACK =>
      let ack ← AckPacket.ofRaw packet
      if ack.blockNumber.toNat ≠ 0 then
        throw (illegalOperation (text "Expected block number 0"))
      pure .acknowledged
  | .RRQ => pure .requestedAgain
  | .ERROR =>
      let error ← ErrorPacket.ofRaw packet
      throw
        (.recievedErrorPacket
          (text "Client responded with error: " ++ error.errorMessage))
  | _ => throw (illegalOperation (text "Expected ACK or ERROR"))

/-- The head of the loop which waits for ACK 0. -/
def awaitOackAckAgain (session : Session) (reader : Reader)
    (retries : Nat) : Handler :=
  if retries < maxRetries then
    ⟨session, .awaitOackAck reader retries 0⟩
  else session.raise timeoutError

/-- One reception while the ACK of the OACK is awaited. -/
def stepAwaitOackAck (session : Session) (reader : Reader)
    (retries foreign : Nat) (event : Event) : Handler :=
  match session.recievePacketFromClient foreign event.reception with
  | (session, .pending foreign) =>
      ⟨session, .awaitOackAck reader retries foreign⟩
  | (session, .threw .udpTimeout) =>
      session.increaseTimeout.awaitOackAckAgain reader (retries + 1)
  | (session, .threw .udpSigint) =>
      session.checkForSigintRRQ event.host reader
  | (session, .threw exception) => session.raise exception
  | (session, .delivered packet) =>
      match classifyOackReply packet with
      | .ok .acknowledged =>
          session.timeoutReset.sendBlock event.host reader 1
      | .ok .requestedAgain =>
          session.awaitOackAckAgain reader (retries + 1)
      | .error exception => session.raise exception

/-! ## The start -/

/-- How the loop which measures the file for `tsize` ends. -/
inductive Measured where
  | done
  | diverged
  | threw (exception : Exception)
deriving DecidableEq, Repr

/--
The loop which reads the file for `tsize`: it goes on while the sum of the
bytes read equals the block size.  A second block which is empty leaves the
sum as it is, and so does every later one.
-/
def measureFile (session : Session) (host : HostChoice)
    (reader : Reader) : Measured × Storage :=
  match reader.readFile session.storage host session.blksize with
  | (.error exception, storage) => (.threw exception, storage)
  | (.ok (data, reader), storage) =>
      if data.length ≠ session.blksize then (.done, storage)
      else
        match reader.readFile storage host session.blksize with
        | (.error exception, storage) => (.threw exception, storage)
        | (.ok (more, _), storage) =>
            if more = [] then (.diverged, storage) else (.done, storage)

/--
The `tsize` option: the file is measured, but the result goes into a copy of
the option.
-/
def measureForTsize (session : Session) (host : HostChoice)
    (reader : Reader) (negotiated : List TftpOption) :
    Measured × Storage :=
  if negotiated.any fun option => option.name = .TSIZE then
    session.measureFile host reader
  else (.done, session.storage)

/-- Send the OACK or the first block. -/
def answerRRQ (session : Session) (host : HostChoice) (reader : Reader)
    (options negotiated : List TftpOption) : Handler :=
  if options.length > 0 then
    match OackPacket.makeRaw ⟨negotiated⟩ with
    | .error exception => session.raise exception
    | .ok raw => ⟨session.send raw, .awaitOackAck reader 0 0⟩
  else session.sendBlock host reader 1

/-- The part of `FollowOnRRQ` after the path was checked. -/
def openRRQ (session : Session) (host : HostChoice)
    (rrq : ReadWritePacket) : Handler :=
  let reader :=
    Reader.make (session.filePath rrq.filepath) (formatOfMode rrq.mode)
  match session.negotiateOptions rrq.options with
  | (session, .error exception) => session.raise exception
  | (session, .ok negotiated) =>
      match session.measureForTsize host reader negotiated with
      | (.threw exception, storage) =>
          (session.withStorage storage).raise exception
      | (.diverged, storage) =>
          ⟨session.withStorage storage, .ended .diverged⟩
      | (.done, storage) =>
          (session.withStorage storage).answerRRQ host reader rrq.options
            negotiated

/-- `FollowOnRRQ(intro_packet)`, up to the first receive. -/
def followOnRRQ (session : Session) (host : HostChoice)
    (introPacket : Bytes) : Handler :=
  match ReadWritePacket.ofRaw introPacket with
  | .error exception => session.raise exception
  | .ok rrq =>
      let readFile := session.filePath rrq.filepath
      match session.storage.fileExists host readFile with
      | .error exception => session.raise exception
      | .ok false =>
          session.raise
            (.tftp
              (.fileNotFoundError
                (text "File does not exist: " ++ rrq.filepath)))
      | .ok true =>
          if session.storage.files.isFilePathUnderDirectory readFile
              session.rootDirpath then
            session.openRRQ host rrq
          else session.raise (.tftp .accessViolationError)

/-! ## What the start can do -/

@[simp]
theorem blksize_sendBlock (session : Session) (host : HostChoice)
    (reader : Reader) (blockNumber : Nat) :
    (session.sendBlock host reader blockNumber).session.blksize =
      session.blksize := by
  unfold sendBlock
  split <;> rfl

@[simp]
theorem blksize_answerRRQ (session : Session) (host : HostChoice)
    (reader : Reader) (options negotiated : List TftpOption) :
    (session.answerRRQ host reader options negotiated).session.blksize =
      session.blksize := by
  unfold answerRRQ
  split_ifs
  · split <;> rfl
  · simp

theorem measureFile_onlyReads (session : Session) (host : HostChoice)
    (reader : Reader) :
    session.storage.OnlyReads reader.filepath
      (session.measureFile host reader).2 := by
  unfold measureFile
  have first :=
    reader.readFile_onlyReads session.storage host session.blksize
  split
  · rename_i exception storage read
    rw [read] at first
    exact first
  · rename_i data next storage read
    rw [read] at first
    split_ifs with full
    · exact first
    · have second := next.readFile_onlyReads storage host session.blksize
      have samePath : next.filepath = reader.filepath :=
        Reader.filepath_readFile read
      rw [samePath] at second
      split
      · rename_i again
        rw [again] at second
        exact first.trans second
      · rename_i again
        rw [again] at second
        split_ifs <;> exact first.trans second

theorem measureForTsize_onlyReads (session : Session)
    (host : HostChoice) (reader : Reader)
    (negotiated : List TftpOption) :
    session.storage.OnlyReads reader.filepath
      (session.measureForTsize host reader negotiated).2 := by
  unfold measureForTsize
  split_ifs
  · exact session.measureFile_onlyReads host reader
  · exact .refl _ _

/-- What the start of a RRQ leaves alone before it answers. -/
structure Opened (session next : Session) (path : Path) : Prop where
  clientAddress : next.clientAddress = session.clientAddress
  rootDirpath : next.rootDirpath = session.rootDirpath
  sent : next.udp.sent = session.udp.sent
  storage : session.storage.OnlyReads path next.storage
  blksize : next.blksize = session.blksize ∨
    8 ≤ next.blksize ∧ next.blksize ≤ 65464

theorem Negotiated.opened
    {session reached : Session} (quiet : session.Negotiated reached)
    {path : Path} {storage : Storage}
    (reads : reached.storage.OnlyReads path storage) :
    session.Opened (reached.withStorage storage) path where
  clientAddress := quiet.clientAddress
  rootDirpath := quiet.rootDirpath
  sent := quiet.sent
  storage := by
    rw [quiet.storage] at reads
    exact reads
  blksize := quiet.blksize

/-- What is checked before a file is opened for reading. -/
theorem followOnRRQ_checks (session : Session) (host : HostChoice)
    (introPacket : Bytes) :
    (∃ exception,
        session.followOnRRQ host introPacket =
          session.raise exception) ∨
      ∃ rrq, ReadWritePacket.ofRaw introPacket = .ok rrq ∧
        session.storage.fileExists host
            (session.filePath rrq.filepath) = .ok true ∧
          session.storage.files.isFilePathUnderDirectory
              (session.filePath rrq.filepath) session.rootDirpath ∧
            session.followOnRRQ host introPacket =
              session.openRRQ host rrq := by
  unfold followOnRRQ
  cases parsed : ReadWritePacket.ofRaw introPacket with
  | error exception => exact Or.inl ⟨exception, rfl⟩
  | ok rrq =>
      simp only
      cases found :
          session.storage.fileExists host
            (session.filePath rrq.filepath) with
      | error exception => exact Or.inl ⟨exception, rfl⟩
      | ok isThere =>
          cases isThere with
          | false => exact Or.inl ⟨_, rfl⟩
          | true =>
              simp only
              split_ifs with under
              · exact Or.inr ⟨rrq, rfl, found, under, rfl⟩
              · exact Or.inl ⟨_, rfl⟩

/-- How a file which was opened for reading is negotiated and measured. -/
theorem openRRQ_cases (session : Session) (host : HostChoice)
    (rrq : ReadWritePacket) :
    (∃ reached exception, session.Negotiated reached ∧
        session.openRRQ host rrq = reached.raise exception) ∨
      ∃ agreed negotiated measured storage,
        session.negotiateOptions rrq.options = (agreed, .ok negotiated) ∧
          agreed.measureForTsize host
              (Reader.make (session.filePath rrq.filepath)
                (formatOfMode rrq.mode)) negotiated =
            (measured, storage) ∧
          ((∃ exception, measured = .threw exception ∧
              session.openRRQ host rrq =
                (agreed.withStorage storage).raise exception) ∨
            (measured = .diverged ∧
              session.openRRQ host rrq =
                ⟨agreed.withStorage storage, .ended .diverged⟩) ∨
            (measured = .done ∧
              session.openRRQ host rrq =
                (agreed.withStorage storage).answerRRQ host
                  (Reader.make (session.filePath rrq.filepath)
                    (formatOfMode rrq.mode))
                  rrq.options negotiated)) := by
  unfold openRRQ
  cases negotiation : session.negotiateOptions rrq.options with
  | mk agreed result =>
      have quiet := negotiateOptions_negotiated negotiation
      cases result with
      | error exception =>
          exact Or.inl ⟨agreed, exception, quiet, rfl⟩
      | ok negotiated =>
          right
          simp only
          cases measuring :
              agreed.measureForTsize host
                (Reader.make (session.filePath rrq.filepath)
                  (formatOfMode rrq.mode)) negotiated with
          | mk measured storage =>
              refine
                ⟨agreed, negotiated, measured, storage, rfl, measuring, ?_⟩
              cases measured with
              | threw exception => exact Or.inl ⟨exception, rfl, rfl⟩
              | diverged => exact Or.inr (Or.inl ⟨rfl, rfl⟩)
              | done => exact Or.inr (Or.inr ⟨rfl, rfl⟩)

/--
How a RRQ can start: it ends at once, or every check was passed and the
request is answered.
-/
theorem followOnRRQ_cases (session : Session) (host : HostChoice)
    (introPacket : Bytes) :
    (∃ reached exception, session.Negotiated reached ∧
        session.followOnRRQ host introPacket =
          reached.raise exception) ∨
      ∃ rrq reached negotiated,
        ReadWritePacket.ofRaw introPacket = .ok rrq ∧
          session.storage.fileExists host
              (session.filePath rrq.filepath) = .ok true ∧
            session.storage.files.isFilePathUnderDirectory
                (session.filePath rrq.filepath) session.rootDirpath ∧
              session.Opened reached (session.filePath rrq.filepath) ∧
                ((∃ exception,
                    session.followOnRRQ host introPacket =
                      reached.raise exception) ∨
                  session.followOnRRQ host introPacket =
                      ⟨reached, .ended .diverged⟩ ∨
                    session.followOnRRQ host introPacket =
                      reached.answerRRQ host
                        (Reader.make (session.filePath rrq.filepath)
                          (formatOfMode rrq.mode))
                        rrq.options negotiated) := by
  rcases followOnRRQ_checks session host introPacket with
    ⟨exception, fails⟩ | ⟨rrq, parsed, found, under, opens⟩
  · exact Or.inl ⟨session, exception, .refl session, fails⟩
  · rw [opens]
    rcases openRRQ_cases session host rrq with
      rejected | ⟨agreed, negotiated, measured, storage, negotiation,
        measuring, goesOn⟩
    · exact Or.inl rejected
    · have reads :=
        agreed.measureForTsize_onlyReads host
          (Reader.make (session.filePath rrq.filepath)
            (formatOfMode rrq.mode)) negotiated
      rw [measuring] at reads
      have opened := (negotiateOptions_negotiated negotiation).opened reads
      refine
        Or.inr
          ⟨rrq, agreed.withStorage storage, negotiated, parsed, found,
            under, opened, ?_⟩
      rcases goesOn with ⟨exception, _, throws⟩ | ⟨_, spins⟩ | ⟨_, answers⟩
      · exact Or.inl ⟨exception, throws⟩
      · exact Or.inr (Or.inl spins)
      · exact Or.inr (Or.inr answers)

end Session

end IsaTftp.Server
