import IsaTftp.Files.ReadFailures
import IsaTftp.Server.Negotiation
import IsaTftp.Server.Confinement
import IsaTftp.Server.Reporting

/-!
# The failures of a waiting handler

A waiting handler keeps silent about two failures: the next block cannot be
read, and the file of an interrupted transfer cannot be removed.  What the
client and the network do is always reported.
-/

namespace IsaTftp.Server

open IsaTftp.Wire
open IsaTftp.Files
open IsaTftp.Transfer
open IsaTftp.Library.Runs

/-! ## What the loops throw -/

variable {packet : Bytes} {exception : Exception}

theorem mute_errorException
    {responder : Bytes} (thrown : errorException responder packet = exception) :
    mute exception = false := by
  unfold errorException at thrown
  cases parsed : ErrorPacket.ofRaw packet with
  | error illegal =>
      rw [parsed] at thrown
      subst thrown
      exact mute_of_isIllegal (ErrorPacket.ofRaw_error parsed)
  | ok error =>
      rw [parsed] at thrown
      subst thrown
      rfl

theorem mute_classifyAck {responder : Bytes} {blockNumber : Nat}
    (result :
      classifyAck responder blockNumber packet = .error exception) :
    mute exception = false := by
  cases known : getOpcodeFromRaw packet with
  | error illegal =>
      simp only [classifyAck, known, bind, Except.bind] at result
      cases result
      exact mute_of_isIllegal (getOpcodeFromRaw_error known)
  | ok opcode =>
      cases opcode with
      | ERROR =>
          rw [classifyAck_of_error known] at result
          cases result
          exact mute_errorException rfl
      | ACK =>
          simp only [classifyAck, known, bind, Except.bind, pure,
            Except.pure, throw, throwThe, MonadExceptOf.throw] at result
          cases parsed : AckPacket.ofRaw packet with
          | error illegal =>
              rw [parsed] at result
              cases result
              exact mute_of_isIllegal (AckPacket.ofRaw_error parsed)
          | ok ack =>
              rw [parsed] at result
              dsimp only at result
              split_ifs at result
              cases result
              rfl
      | _ =>
          simp [classifyAck, known, bind, Except.bind, pure,
            Except.pure] at result

theorem mute_classifyData
    {responder : Bytes} {expected announced blksize : Nat}
    (result :
      classifyData responder expected announced blksize packet =
        .error exception) :
    mute exception = false := by
  cases known : getOpcodeFromRaw packet with
  | error illegal =>
      simp only [classifyData, known, bind, Except.bind] at result
      cases result
      exact mute_of_isIllegal (getOpcodeFromRaw_error known)
  | ok opcode =>
      cases opcode with
      | ERROR =>
          rw [classifyData_of_error known] at result
          cases result
          exact mute_errorException rfl
      | DATA =>
          simp only [classifyData, known, bind, Except.bind, pure,
            Except.pure, throw, throwThe, MonadExceptOf.throw] at result
          cases parsed : DataPacket.ofRaw packet blksize with
          | error illegal =>
              rw [parsed] at result
              cases result
              exact mute_of_isIllegal (DataPacket.ofRaw_error parsed)
          | ok data =>
              rw [parsed] at result
              dsimp only at result
              split_ifs at result
              cases result
              rfl
      | _ =>
          simp [classifyData, known, bind, Except.bind, pure,
            Except.pure] at result

theorem mute_classifyOackReply
    (result : Session.classifyOackReply packet = .error exception) :
    mute exception = false := by
  unfold Session.classifyOackReply at result
  cases known : getOpcodeFromRaw packet with
  | error illegal =>
      simp only [known, bind, Except.bind] at result
      cases result
      exact mute_of_isIllegal (getOpcodeFromRaw_error known)
  | ok opcode =>
      simp only [known, bind, Except.bind, pure, Except.pure, throw,
        throwThe, MonadExceptOf.throw] at result
      cases opcode with
      | ERROR =>
          cases parsed : ErrorPacket.ofRaw packet with
          | error illegal =>
              rw [parsed] at result
              cases result
              exact mute_of_isIllegal (ErrorPacket.ofRaw_error parsed)
          | ok error =>
              rw [parsed] at result
              cases result
              rfl
      | ACK =>
          cases parsed : AckPacket.ofRaw packet with
          | error illegal =>
              rw [parsed] at result
              cases result
              exact mute_of_isIllegal (AckPacket.ofRaw_error parsed)
          | ok ack =>
              rw [parsed] at result
              dsimp only at result
              split_ifs at result
              cases result
              rfl
      | RRQ => cases result
      | _ =>
          cases result
          rfl

/-- The two exceptions of a writer are turned into reported ones. -/
theorem mute_writeException
    {writer next : Writer} {storage stored : Storage} {host : HostChoice}
    {block : Bytes}
    (result :
      writer.writeFile storage host block =
        (.threw exception, next, stored)) :
    mute (Session.writeException exception) = false := by
  have opened : ∀ (open_ : Writer) (storage : Storage) position,
      open_.writeOpened storage host position block =
          (.threw exception, next, stored) →
        mute (Session.writeException exception) = false := by
    intro open_ storage position result
    unfold Writer.writeOpened at result
    split at result
    · cases result
    · split at result <;> cases result
      rfl
  rcases writer.writeFile_cases storage host block with
    ⟨position, _, wrote⟩ | ⟨_, _, wrote⟩ | ⟨_, _, wrote⟩
  · rw [wrote] at result
    exact opened _ _ _ result
  · rw [wrote] at result
    cases result
    rfl
  · rw [wrote] at result
    exact opened _ _ _ result

theorem mute_readFile
    {reader : Reader} {storage : Storage} {host : HostChoice}
    {numBytes : Nat}
    (result :
      (reader.readFile storage host numBytes).1 = .error exception) :
    mute exception = true := by
  rcases Reader.readFile_error result with rfl | ⟨failure, rfl⟩
  · rfl
  · rfl

/-! ## Sending loops -/

namespace Judged

variable {peer : Address} {session : Session}

theorem sendBlock (silent : Silent peer session) (host : HostChoice)
    (reader : Reader) (blockNumber : Nat) :
    Judged peer
      (reader.unreadable session.storage host session.blksize = true)
      (session.sendBlock host reader blockNumber) := by
  unfold Session.sendBlock Reader.unreadable
  cases read : reader.readFile session.storage host session.blksize with
  | mk result storage =>
      have stored := silent.withStorage storage
      cases result with
      | error exception =>
          have failed := mute_readFile (congrArg Prod.fst read)
          exact (raise_mute stored failed).of_iff (by simp)
      | ok pair =>
          have sent :=
            stored.send (DataPacket.getOpcode_makeRaw
              ⟨UInt16.ofNat blockNumber, pair.1⟩) (by decide)
          exact of_iff (waits sent (by simp) trivial) (by simp)

theorem timeoutError (silent : Silent peer session) :
    Judged peer False (session.raise Transfer.timeoutError) :=
  raise_heard silent rfl

theorem awaitAckAgain (silent : Silent peer session)
    (sending : Sending) (retries : Nat) :
    Judged peer False (session.awaitAckAgain sending retries) := by
  unfold Session.awaitAckAgain
  split_ifs
  · exact waits silent (by simp) trivial
  · exact ends (by simp)
  · exact timeoutError silent

theorem afterAck (silent : Silent peer session) (host : HostChoice)
    (sending : Sending) :
    Judged peer
      (sending.lastPacketSent = false ∧
        sending.reader.unreadable session.storage host session.blksize =
          true)
      (session.afterAck host sending) := by
  unfold Session.afterAck
  split_ifs with last
  · exact (ends (by simp)).of_iff (by simp [last])
  · exact
      (sendBlock silent.timeoutReset host sending.reader _).of_iff
        (by simp [last])

theorem awaitOackAckAgain (silent : Silent peer session)
    (reader : Reader) (retries : Nat) :
    Judged peer False (session.awaitOackAckAgain reader retries) := by
  unfold Session.awaitOackAckAgain
  split_ifs
  · exact waits silent (by simp) trivial
  · exact timeoutError silent

theorem checkForSigintRRQ (silent : Silent peer session)
    (host : HostChoice) (reader : Reader) :
    Judged peer (host.removeFails = true)
      (session.checkForSigintRRQ host reader) := by
  obtain ⟨rfl, errors⟩ := silent
  apply deleteAndTerminate
  simp [errors]

end Judged

/-- The reader with which a handler reads in a step, if it reads. -/
def Handler.reads (handler : Handler) (event : Event) : Option Reader :=
  match handler.control with
  | .awaitOackAck reader _ foreign =>
      match (handler.session.recievePacketFromClient foreign
          event.reception).2 with
      | .delivered packet =>
          match Session.classifyOackReply packet with
          | .ok .acknowledged => some reader
          | _ => none
      | _ => none
  | .awaitAck sending _ foreign =>
      match (handler.session.recievePacketFromClient foreign
          event.reception).2 with
      | .delivered packet =>
          match classifyAck (text "Client") sending.blockNumber packet with
          | .ok .received =>
              if sending.lastPacketSent then none else some sending.reader
          | _ => none
      | _ => none
  | _ => none

/-- SIGINT is noticed by a waiting handler, and the file stays. -/
def Handler.Leftover (handler : Handler) (event : Event) : Prop :=
  (∀ outcome, handler.control ≠ .ended outcome) ∧
    event.reception = .sigint ∧ event.host.removeFails = true

/-- The next block is due, and it cannot be read. -/
def Handler.ReadFails (handler : Handler) (event : Event) : Prop :=
  ∃ reader, handler.reads event = some reader ∧
    reader.unreadable handler.session.storage event.host
      handler.session.blksize = true

/-- The failures of a waiting handler which nobody is told about. -/
def Handler.Silenced (handler : Handler) (event : Event) : Prop :=
  handler.Leftover event ∨ handler.ReadFails event

namespace Judged

variable {peer : Address} {session : Session}

theorem stepAwaitOackAck (silent : Silent peer session)
    (reader : Reader) (retries foreign : Nat) (event : Event) :
    Judged peer
      (Handler.Silenced ⟨session, .awaitOackAck reader retries foreign⟩
        event)
      (session.stepAwaitOackAck reader retries foreign event) := by
  have heard := silent.recievePacketFromClient foreign event.reception
  have talks :=
    session.recievePacketFromClient_talks foreign event.reception
  have sigint :=
    session.recievePacketFromClient_sigint foreign event.reception
  unfold Session.stepAwaitOackAck Handler.Silenced Handler.Leftover
    Handler.ReadFails Handler.reads
  dsimp only
  cases result :
      session.recievePacketFromClient foreign event.reception with
  | mk next delivery =>
      rw [result] at heard talks sigint
      dsimp only at heard talks sigint
      rw [← talks.storage, ← talks.blksize, ← sigint]
      cases delivery with
      | pending foreign =>
          exact of_iff (waits heard (by simp) trivial) (by simp)
      | threw exception =>
          rcases Session.recievePacketFromClient_threw result with
            rfl | rfl | ⟨message, rfl⟩
          · exact
              (awaitOackAckAgain heard.increaseTimeout _ _).of_iff
                (by simp)
          · exact (checkForSigintRRQ heard _ _).of_iff (by simp)
          · exact of_iff (raise_heard heard rfl) (by simp)
      | delivered packet =>
          dsimp only
          cases reply : Session.classifyOackReply packet with
          | ok answer =>
              cases answer with
              | acknowledged =>
                  exact
                    (sendBlock heard.timeoutReset _ _ _).of_iff (by simp)
              | requestedAgain =>
                  exact (awaitOackAckAgain heard _ _).of_iff (by simp)
          | error exception =>
              have told := mute_classifyOackReply reply
              exact of_iff (raise_heard heard told) (by simp)

theorem stepAwaitAck (silent : Silent peer session)
    (sending : Sending) (retries foreign : Nat) (event : Event) :
    Judged peer
      (Handler.Silenced ⟨session, .awaitAck sending retries foreign⟩
        event)
      (session.stepAwaitAck sending retries foreign event) := by
  have heard := silent.recievePacketFromClient foreign event.reception
  have talks :=
    session.recievePacketFromClient_talks foreign event.reception
  have sigint :=
    session.recievePacketFromClient_sigint foreign event.reception
  unfold Session.stepAwaitAck Handler.Silenced Handler.Leftover
    Handler.ReadFails Handler.reads
  dsimp only
  cases result :
      session.recievePacketFromClient foreign event.reception with
  | mk next delivery =>
      rw [result] at heard talks sigint
      dsimp only at heard talks sigint
      rw [← talks.storage, ← talks.blksize, ← sigint]
      cases delivery with
      | pending foreign =>
          exact of_iff (waits heard (by simp) trivial) (by simp)
      | threw exception =>
          rcases Session.recievePacketFromClient_threw result with
            rfl | rfl | ⟨message, rfl⟩
          · exact
              (awaitAckAgain heard.increaseTimeout _ _).of_iff (by simp)
          · exact (checkForSigintRRQ heard _ _).of_iff (by simp)
          · exact of_iff (raise_heard heard rfl) (by simp)
      | delivered packet =>
          dsimp only
          cases reply :
              classifyAck (text "Client") sending.blockNumber packet with
          | ok answer =>
              cases answer with
              | received =>
                  exact (afterAck heard _ _).of_iff (by simp)
              | old =>
                  exact
                    (awaitAckAgain heard.increaseTimeout _ _).of_iff
                      (by simp)
              | ignored =>
                  exact (awaitAckAgain heard _ _).of_iff (by simp)
          | error exception =>
              have told := mute_classifyAck reply
              exact of_iff (raise_heard heard told) (by simp)

/-! ### Receiving loops -/

theorem abandonWrite_heard (silent : Silent peer session)
    (host : HostChoice) (writer : Writer) {exception : Exception}
    (heard : mute exception = false) :
    Judged peer False (session.abandonWrite host writer exception) :=
  raise_heard (silent.withStorage _) heard

theorem checkForSigintWRQ (silent : Silent peer session)
    (host : HostChoice) (writer : Writer) :
    Judged peer (host.removeFails = true)
      (session.checkForSigintWRQ host writer) := by
  obtain ⟨rfl, errors⟩ := silent
  apply deleteAndTerminate
  simp [errors]

theorem awaitDataAgain (silent : Silent peer session)
    (host : HostChoice) (writer : Writer) (blockNumber retries : Nat) :
    Judged peer False
      (session.awaitDataAgain host writer blockNumber retries) := by
  unfold Session.awaitDataAgain
  split_ifs
  · have acknowledged :=
      silent.send
        (AckPacket.getOpcode_makeRaw ⟨UInt16.ofNat blockNumber⟩)
        (by decide)
    exact waits acknowledged (by simp) trivial
  · exact abandonWrite_heard silent host writer rfl

theorem storeBlock (silent : Silent peer session) (host : HostChoice)
    (writer : Writer) (blockNumber : Nat) (data : Bytes) :
    Judged peer False
      (session.storeBlock host writer blockNumber data) := by
  unfold Session.storeBlock
  split
  · exact ends (by simp)
  · rename_i written
    exact
      abandonWrite_heard (silent.withStorage _) host _
        (mute_writeException written)
  · dsimp only
    split_ifs
    · exact ends (by simp)
    · exact
        awaitDataAgain (silent.withStorage _).timeoutReset host _ _ _

/-- The answer which a handler repeats can be encoded. -/
theorem awaitFirstDataAgain (silent : Silent peer session)
    (host : HostChoice) {options negotiated : List TftpOption}
    {raw : Bytes}
    (answers : Session.openingReply options negotiated = .ok raw)
    (writer : Writer) (retries : Nat) :
    Judged peer False
      (session.awaitFirstDataAgain host options negotiated writer
        retries) := by
  unfold Session.awaitFirstDataAgain
  rw [answers]
  split_ifs
  · have answered : Silent peer (session.send raw) := by
      unfold Session.openingReply at answers
      split_ifs at answers
      · exact
          silent.send (OackPacket.getOpcode_makeRaw answers) (by decide)
      · cases answers
        exact silent.send (AckPacket.getOpcode_makeRaw _) (by decide)
    exact waits answered (by simp) ⟨raw, answers⟩
  · exact abandonWrite_heard silent host writer rfl

theorem stepAwaitData (silent : Silent peer session) (writer : Writer)
    (blockNumber retries foreign : Nat) (event : Event) :
    Judged peer
      (Handler.Silenced
        ⟨session, .awaitData writer blockNumber retries foreign⟩ event)
      (session.stepAwaitData writer blockNumber retries foreign
        event) := by
  have heard := silent.recievePacketFromClient foreign event.reception
  have sigint :=
    session.recievePacketFromClient_sigint foreign event.reception
  unfold Session.stepAwaitData Handler.Silenced Handler.Leftover
    Handler.ReadFails Handler.reads
  dsimp only
  cases result :
      session.recievePacketFromClient foreign event.reception with
  | mk next delivery =>
      rw [result] at heard sigint
      dsimp only at heard sigint
      rw [← sigint]
      cases delivery with
      | pending foreign =>
          exact of_iff (waits heard (by simp) trivial) (by simp)
      | threw exception =>
          rcases Session.recievePacketFromClient_threw result with
            rfl | rfl | ⟨message, rfl⟩
          · exact
              (awaitDataAgain heard.increaseTimeout _ _ _ _).of_iff
                (by simp)
          · exact (checkForSigintWRQ heard _ _).of_iff (by simp)
          · exact of_iff (abandonWrite_heard heard _ _ rfl) (by simp)
      | delivered packet =>
          dsimp only
          cases reply :
              classifyData (text "Server") (blockNumber + 1)
                (blockNumber + 1) next.blksize packet with
          | ok answer =>
              cases answer with
              | accepted data =>
                  exact (storeBlock heard _ _ _ _).of_iff (by simp)
              | old =>
                  exact
                    (awaitDataAgain heard.increaseTimeout _ _ _ _).of_iff
                      (by simp)
              | ignored =>
                  exact (awaitDataAgain heard _ _ _ _).of_iff (by simp)
          | error exception =>
              have told := mute_classifyData reply
              exact of_iff (abandonWrite_heard heard _ _ told) (by simp)

theorem stepAwaitFirstData (silent : Silent peer session)
    {options negotiated : List TftpOption} {raw : Bytes}
    (answers : Session.openingReply options negotiated = .ok raw)
    (writer : Writer) (retries foreign : Nat) (event : Event) :
    Judged peer
      (Handler.Silenced
        ⟨session,
          .awaitFirstData options negotiated writer retries foreign⟩
        event)
      (session.stepAwaitFirstData options negotiated writer retries
        foreign event) := by
  have heard := silent.recievePacketFromClient foreign event.reception
  have sigint :=
    session.recievePacketFromClient_sigint foreign event.reception
  unfold Session.stepAwaitFirstData Handler.Silenced Handler.Leftover
    Handler.ReadFails Handler.reads
  dsimp only
  cases result :
      session.recievePacketFromClient foreign event.reception with
  | mk next delivery =>
      rw [result] at heard sigint
      dsimp only at heard sigint
      rw [← sigint]
      cases delivery with
      | pending foreign =>
          exact
            of_iff (waits heard (by simp) ⟨raw, answers⟩) (by simp)
      | threw exception =>
          rcases Session.recievePacketFromClient_threw result with
            rfl | rfl | ⟨message, rfl⟩
          · exact
              (awaitFirstDataAgain heard.increaseTimeout _ answers _
                _).of_iff (by simp)
          · exact (checkForSigintWRQ heard _ _).of_iff (by simp)
          · exact of_iff (abandonWrite_heard heard _ _ rfl) (by simp)
      | delivered packet =>
          dsimp only
          cases reply :
              classifyData (text "Client") 1 2 next.blksize packet with
          | ok answer =>
              cases answer with
              | accepted data =>
                  exact (storeBlock heard _ _ _ _).of_iff (by simp)
              | old =>
                  exact
                    (awaitFirstDataAgain heard.increaseTimeout _ answers
                      _ _).of_iff (by simp)
              | ignored =>
                  exact
                    (awaitFirstDataAgain heard _ answers _ _).of_iff
                      (by simp)
          | error exception =>
              have told := mute_classifyData reply
              exact of_iff (abandonWrite_heard heard _ _ told) (by simp)

/-! ### Steps and runs -/

variable {handler : Handler} {silenced : Prop}

/-- A handler which waits has not been silenced. -/
theorem not_silenced (judged : Judged peer silenced handler)
    (waiting : ∀ outcome, handler.control ≠ .ended outcome) :
    ¬ silenced := by
  apply judged.reports.mp
  intro exception threw
  exact absurd threw (waiting _)

theorem withFiles (judged : Judged peer silenced handler)
    (files : FileSystem) :
    Judged peer silenced (handler.withFiles files) where
  reports := judged.reports
  silent waiting := (judged.silent waiting).withStorage _
  answerable := judged.answerable

/-- One step, which may be silenced now or was silenced before. -/
theorem step (judged : Judged peer silenced handler) (event : Event) :
    Judged peer (silenced ∨ handler.Silenced event)
      (handler.step event) := by
  obtain ⟨session, control⟩ := handler
  cases control with
  | awaitOackAck reader retries foreign =>
      have open_ := judged.not_silenced (by simp)
      exact
        (stepAwaitOackAck (judged.silent (by simp)) _ _ _ _).of_iff
          (by simp [open_])
  | awaitAck sending retries foreign =>
      have open_ := judged.not_silenced (by simp)
      exact
        (stepAwaitAck (judged.silent (by simp)) _ _ _ _).of_iff
          (by simp [open_])
  | awaitFirstData options negotiated writer retries foreign =>
      have open_ := judged.not_silenced (by simp)
      obtain ⟨raw, answers⟩ := judged.answerable
      exact
        (stepAwaitFirstData (judged.silent (by simp)) answers _ _ _
          _).of_iff (by simp [open_])
  | awaitData writer blockNumber retries foreign =>
      have open_ := judged.not_silenced (by simp)
      exact
        (stepAwaitData (judged.silent (by simp)) _ _ _ _ _).of_iff
          (by simp [open_])
  | ended outcome =>
      refine judged.of_iff ?_
      simp [Handler.Silenced, Handler.Leftover, Handler.ReadFails,
        Handler.reads]

/-- Some step of a run is silenced, or the handler was before. -/
theorem run (judged : Judged peer silenced handler)
    (changes : List (FileSystem × Event)) :
    Judged peer
      (silenced ∨ ∃ taken ∈ stepsOf Handler.stepAmid handler changes,
        (taken.1.withFiles taken.2.1).Silenced taken.2.2)
      (run Handler.stepAmid handler changes) := by
  induction changes generalizing handler silenced with
  | nil => exact judged.of_iff (by simp)
  | cons change changes induction =>
      have next := (judged.withFiles change.1).step change.2
      refine (induction next).of_iff ?_
      rw [stepsOf_cons]
      simp only [List.mem_cons, exists_eq_or_imp, or_assoc]
      rfl

end Judged

end IsaTftp.Server
