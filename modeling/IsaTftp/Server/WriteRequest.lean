import IsaTftp.Server.Session

/-!
# FollowOnWRQ

The function checks the path, answers with an OACK or with ACK 0 until the
first DATA packet comes, and then acknowledges and receives one block after
the other.  In both loops the answer is sent again in every round.

An exception which leaves the function destroys the writer, which closes the
file; nothing but `CheckForSigintWRQ` deletes it.
-/

namespace IsaTftp.Server

open IsaTftp.Wire
open IsaTftp.Files
open IsaTftp.Transfer

namespace Session

/-- An exception leaves the function: the writer is destroyed first. -/
def abandonWrite (session : Session) (host : HostChoice)
    (writer : Writer) (exception : Exception) : Handler :=
  (session.withStorage (writer.close session.storage host)).raise exception

/-- `CheckForSigintWRQ`, called with the flag set. -/
def checkForSigintWRQ (session : Session) (host : HostChoice)
    (writer : Writer) : Handler :=
  let session := session.send interrupted.makeRaw
  (session.withStorage
      (writer.close session.storage host)).deleteAndTerminate host
    writer.filepath

/-! ## Receiving blocks -/

/-- The head of the loop for the later blocks: acknowledge, then wait. -/
def awaitDataAgain (session : Session) (host : HostChoice)
    (writer : Writer) (blockNumber retries : Nat) : Handler :=
  if retries < maxRetries then
    -- the constructor takes the `int` counter as a `uint16_t`
    let ack : AckPacket := ⟨UInt16.ofNat blockNumber⟩
    ⟨session.send ack.makeRaw, .awaitData writer blockNumber retries 0⟩
  else session.abandonWrite host writer timeoutError

/-- The end of the function: the last block is acknowledged once. -/
def finishWrite (session : Session) (host : HostChoice)
    (writer : Writer) (blockNumber : Nat) : Handler :=
  let ack : AckPacket := ⟨UInt16.ofNat blockNumber⟩
  let session := session.send ack.makeRaw
  ⟨session.withStorage (writer.close session.storage host),
    .ended .returned⟩

/-- The catch clauses around the call of `WriteFile`. -/
def writeException : Exception → Exception
  | .fileHandler .failedToWriteToFile => .tftp .diskFullError
  | .fileHandler (.failedToOpenFile _) => .tftp .accessViolationError
  | exception => exception

/-- Both loops, once the block `blockNumber` has come: store it, go on. -/
def storeBlock (session : Session) (host : HostChoice)
    (writer : Writer) (blockNumber : Nat) (data : Bytes) : Handler :=
  match writer.writeFile session.storage host data with
  | (.undefined, _, storage) =>
      ⟨session.withStorage storage, .ended .undefined⟩
  | (.threw exception, writer, storage) =>
      (session.withStorage storage).abandonWrite host writer
        (writeException exception)
  | (.done, writer, storage) =>
      let session := (session.withStorage storage).timeoutReset
      if data.length < session.blksize then
        session.finishWrite host writer blockNumber
      else session.awaitDataAgain host writer blockNumber 0

/-- One reception in the loop for the later blocks. -/
def stepAwaitData (session : Session) (writer : Writer)
    (blockNumber retries foreign : Nat) (event : Event) : Handler :=
  match session.recievePacketFromClient foreign event.reception with
  | (session, .pending foreign) =>
      ⟨session, .awaitData writer blockNumber retries foreign⟩
  | (session, .threw .udpTimeout) =>
      session.increaseTimeout.awaitDataAgain event.host writer blockNumber
        (retries + 1)
  | (session, .threw .udpSigint) =>
      session.checkForSigintWRQ event.host writer
  | (session, .threw exception) =>
      session.abandonWrite event.host writer exception
  | (session, .delivered packet) =>
      match classifyData (text "Server") (blockNumber + 1)
          (blockNumber + 1) session.blksize packet with
      | .ok (.accepted data) =>
          session.storeBlock event.host writer (blockNumber + 1) data
      | .ok .old =>
          session.increaseTimeout.awaitDataAgain event.host writer
            blockNumber (retries + 1)
      | .ok .ignored =>
          session.awaitDataAgain event.host writer blockNumber retries
      | .error exception =>
          session.abandonWrite event.host writer exception

/-! ## The first block -/

/-- What is sent before the first block: an OACK, or ACK 0. -/
def openingReply (options negotiated : List TftpOption) :
    Except Exception Bytes :=
  if options.length > 0 then OackPacket.makeRaw ⟨negotiated⟩
  else .ok (AckPacket.makeRaw ⟨0⟩)

/-- The head of the loop for the first block. -/
def awaitFirstDataAgain (session : Session) (host : HostChoice)
    (options negotiated : List TftpOption) (writer : Writer)
    (retries : Nat) : Handler :=
  if retries < maxRetries then
    match openingReply options negotiated with
    | .error exception => session.abandonWrite host writer exception
    | .ok raw =>
        ⟨session.send raw,
          .awaitFirstData options negotiated writer retries 0⟩
  else session.abandonWrite host writer timeoutError

/-- One reception in the loop for the first block. -/
def stepAwaitFirstData (session : Session)
    (options negotiated : List TftpOption) (writer : Writer)
    (retries foreign : Nat) (event : Event) : Handler :=
  match session.recievePacketFromClient foreign event.reception with
  | (session, .pending foreign) =>
      ⟨session, .awaitFirstData options negotiated writer retries foreign⟩
  | (session, .threw .udpTimeout) =>
      session.increaseTimeout.awaitFirstDataAgain event.host options
        negotiated writer (retries + 1)
  | (session, .threw .udpSigint) =>
      session.checkForSigintWRQ event.host writer
  | (session, .threw exception) =>
      session.abandonWrite event.host writer exception
  | (session, .delivered packet) =>
      -- the error text of this loop names the block after the expected one
      match classifyData (text "Client") 1 2 session.blksize packet with
      | .ok (.accepted data) =>
          session.storeBlock event.host writer 1 data
      | .ok .old =>
          session.increaseTimeout.awaitFirstDataAgain event.host options
            negotiated writer (retries + 1)
      | .ok .ignored =>
          session.awaitFirstDataAgain event.host options negotiated writer
            retries
      | .error exception =>
          session.abandonWrite event.host writer exception

/-! ## The start -/

/-- The `int` member `tsize_` as the `uintmax_t` argument of a call. -/
def requiredBytes (tsize : Int) : Nat :=
  (tsize % 2 ^ 64).toNat

/-- The check of the disk space, made if `tsize` was negotiated. -/
def lacksSpace (session : Session) (negotiated : List TftpOption) :
    Bool :=
  (negotiated.any fun option => option.name = .TSIZE) &&
    !session.storage.hasEnoughSpace session.rootDirpath
      (requiredBytes session.tsize)

/-- The part of `FollowOnWRQ` after the path was checked. -/
def openWRQ (session : Session) (host : HostChoice)
    (wrq : ReadWritePacket) : Handler :=
  let writer :=
    Writer.make (session.filePath wrq.filepath) (formatOfMode wrq.mode)
  match session.negotiateOptions wrq.options with
  | (session, .error exception) => session.raise exception
  | (session, .ok negotiated) =>
      if session.lacksSpace negotiated then
        session.raise (.fileHandler .notEnoughSpace)
      else
        session.awaitFirstDataAgain host wrq.options negotiated writer 0

/-- `FollowOnWRQ(intro_packet)`, up to the first receive. -/
def followOnWRQ (session : Session) (host : HostChoice)
    (introPacket : Bytes) : Handler :=
  match ReadWritePacket.ofRaw introPacket with
  | .error exception => session.raise exception
  | .ok wrq =>
      let writeFile := session.filePath wrq.filepath
      match session.storage.fileExists host writeFile with
      | .error exception => session.raise exception
      | .ok true =>
          session.raise
            (.tftp
              (.fileAlreadyExistsError
                (text "File already exists: " ++ wrq.filepath)))
      | .ok false =>
          if session.storage.files.isFilePathUnderDirectory writeFile
              session.rootDirpath then
            session.openWRQ host wrq
          else session.raise (.tftp .accessViolationError)

/-- What is checked before a file is opened for writing. -/
theorem followOnWRQ_checks (session : Session) (host : HostChoice)
    (introPacket : Bytes) :
    (∃ exception,
        session.followOnWRQ host introPacket =
          session.raise exception) ∨
      ∃ wrq, ReadWritePacket.ofRaw introPacket = .ok wrq ∧
        session.storage.fileExists host
            (session.filePath wrq.filepath) = .ok false ∧
          session.storage.files.isFilePathUnderDirectory
              (session.filePath wrq.filepath) session.rootDirpath ∧
            session.followOnWRQ host introPacket =
              session.openWRQ host wrq := by
  unfold followOnWRQ
  cases parsed : ReadWritePacket.ofRaw introPacket with
  | error exception => exact Or.inl ⟨exception, rfl⟩
  | ok wrq =>
      simp only
      cases found :
          session.storage.fileExists host
            (session.filePath wrq.filepath) with
      | error exception => exact Or.inl ⟨exception, rfl⟩
      | ok isThere =>
          cases isThere with
          | true => exact Or.inl ⟨_, rfl⟩
          | false =>
              simp only
              split_ifs with under
              · exact Or.inr ⟨wrq, rfl, found, under, rfl⟩
              · exact Or.inl ⟨_, rfl⟩

/-- How the options of a file which is opened for writing are negotiated. -/
theorem openWRQ_cases (session : Session) (host : HostChoice)
    (wrq : ReadWritePacket) :
    (∃ reached exception, session.Negotiated reached ∧
        session.openWRQ host wrq = reached.raise exception) ∨
      ∃ agreed negotiated,
        session.negotiateOptions wrq.options = (agreed, .ok negotiated) ∧
          session.openWRQ host wrq =
            agreed.awaitFirstDataAgain host wrq.options negotiated
              (Writer.make (session.filePath wrq.filepath)
                (formatOfMode wrq.mode)) 0 := by
  unfold openWRQ
  cases negotiation : session.negotiateOptions wrq.options with
  | mk agreed result =>
      have quiet := negotiateOptions_negotiated negotiation
      cases result with
      | error exception => exact Or.inl ⟨agreed, exception, quiet, rfl⟩
      | ok negotiated =>
          simp only
          split_ifs
          · exact Or.inl ⟨agreed, _, quiet, rfl⟩
          · exact Or.inr ⟨agreed, negotiated, rfl, rfl⟩

/--
How a WRQ can start: it is refused, or every check was passed and the loop for
the first block begins with a writer which has not opened its file.
-/
theorem followOnWRQ_cases (session : Session) (host : HostChoice)
    (introPacket : Bytes) :
    (∃ reached exception, session.Negotiated reached ∧
        session.followOnWRQ host introPacket =
          reached.raise exception) ∨
      ∃ wrq reached negotiated,
        ReadWritePacket.ofRaw introPacket = .ok wrq ∧
          session.storage.fileExists host
              (session.filePath wrq.filepath) = .ok false ∧
            session.storage.files.isFilePathUnderDirectory
                (session.filePath wrq.filepath) session.rootDirpath ∧
              session.Negotiated reached ∧
                session.followOnWRQ host introPacket =
                  reached.awaitFirstDataAgain host wrq.options negotiated
                    (Writer.make (session.filePath wrq.filepath)
                      (formatOfMode wrq.mode)) 0 := by
  rcases followOnWRQ_checks session host introPacket with
    ⟨exception, fails⟩ | ⟨wrq, parsed, found, under, opens⟩
  · exact Or.inl ⟨session, exception, .refl session, fails⟩
  · rw [opens]
    rcases openWRQ_cases session host wrq with
      rejected | ⟨agreed, negotiated, negotiation, waits⟩
    · exact Or.inl rejected
    · exact
        Or.inr
          ⟨wrq, agreed, negotiated, parsed, found, under,
            negotiateOptions_negotiated negotiation, waits⟩

end Session

end IsaTftp.Server
