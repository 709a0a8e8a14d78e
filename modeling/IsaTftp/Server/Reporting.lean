import IsaTftp.Wire.Failures
import IsaTftp.Server.Steps

/-!
# Which failures of a handler are reported

A handler which ends by an exception should have sent one ERROR packet which
describes it.  The catch clauses of `FollowOnIntroPacket` do this for the
exceptions of `TftpPacket.h`; those of the file handler, of the conversions
and of the file system library pass them by.
-/

namespace IsaTftp.Server

open IsaTftp.Wire
open IsaTftp.Files
open IsaTftp.Transfer

/-! ## Failures and their codes -/

/-- The client itself has reported an error, or the socket has failed. -/
def excused : Exception → Bool
  | .recievedErrorPacket _ => true
  | .udp _ => true
  | _ => false

/-- The error codes which describe a failure. -/
def codesOf : Exception → List ErrorCode
  | .tftp .unknownError => [.NOT_DEFINED]
  | .tftp (.fileNotFoundError _) => [.FILE_NOT_FOUND]
  | .tftp .accessViolationError => [.ACCESS_VIOLATION]
  | .tftp .diskFullError => [.DISK_FULL]
  | .tftp (.illegalOperationError _) => [.ILLEGAL_OPERATION]
  | .tftp .unknownTransferIDError => [.UNKNOWN_TID]
  | .tftp (.fileAlreadyExistsError _) => [.FILE_ALREADY_EXISTS]
  | .tftp .noSuchUserError => [.NO_SUCH_USER]
  | .tftp .optionNegotiationError => [.FAILED_NEGOTIATION]
  -- the values of options
  | .unsupportedOption => [.FAILED_NEGOTIATION]
  | .invalidOptionValue _ _ => [.FAILED_NEGOTIATION]
  | .stdInvalidArgument => [.FAILED_NEGOTIATION]
  | .stdOutOfRange => [.FAILED_NEGOTIATION]
  -- the disk
  | .fileHandler .failedToWriteToFile => [.DISK_FULL]
  | .fileHandler .notEnoughSpace => [.DISK_FULL]
  -- access to a file
  | .fileHandler _ => [.FILE_NOT_FOUND, .ACCESS_VIOLATION]
  | .filesystemError => [.FILE_NOT_FOUND, .ACCESS_VIOLATION]
  | _ => []

/-- The exceptions which leave a handler without a report. -/
def mute : Exception → Bool
  | .tftp exception => (errorReply exception).isNone
  | exception => !excused exception

/-- The ERROR packet of a catch clause has the code of its exception. -/
theorem errorReply_describes
    {exception : TftpException} {packet : ErrorPacket}
    (replies : errorReply exception = some packet) :
    packet.errorCode ∈ codesOf (.tftp exception) := by
  cases exception <;> cases replies <;> simp [codesOf]

/-- Nothing is sent for a mute exception. -/
theorem reportException_of_mute
    {exception : Exception} (silenced : mute exception = true)
    (udp : UdpClient) (peer : Address) :
    reportException udp peer exception = udp := by
  cases exception with
  | tftp exception =>
      cases replies : errorReply exception with
      | none => simp [reportException, replies]
      | some packet => simp [mute, replies] at silenced
  | _ => rfl

theorem mute_of_isIllegal
    {exception : Exception} (illegal : exception.IsIllegal) :
    mute exception = false := by
  obtain ⟨operation, rfl⟩ := illegal
  rfl

theorem mute_of_isConversion
    {exception : Exception} (conversion : exception.IsConversion) :
    mute exception = true := by
  rcases conversion with rfl | rfl <;> rfl

/-! ## ERROR packets to one peer -/

/-- The ERROR packets among these datagrams which went to one peer. -/
def errorsTo (peer : Address) (sent : List Datagram) : List Bytes :=
  (sent.filter fun datagram =>
    datagram.1 = peer ∧ getOpcodeFromRaw datagram.2 = .ok .ERROR).map
      Prod.snd

@[simp]
theorem errorsTo_append_error (peer : Address) (sent : List Datagram)
    (packet : ErrorPacket) :
    errorsTo peer (sent ++ [(peer, packet.makeRaw)]) =
      errorsTo peer sent ++ [packet.makeRaw] := by
  simp [errorsTo]

theorem errorsTo_append_of_opcode
    {raw : Bytes} {opcode : Opcode}
    (known : getOpcodeFromRaw raw = .ok opcode)
    (other : opcode ≠ .ERROR) (peer reciever : Address)
    (sent : List Datagram) :
    errorsTo peer (sent ++ [(reciever, raw)]) = errorsTo peer sent := by
  simp [errorsTo, known, other]

theorem errorsTo_append_of_ne
    {peer reciever : Address} (other : reciever ≠ peer)
    (sent : List Datagram) (raw : Bytes) :
    errorsTo peer (sent ++ [(reciever, raw)]) = errorsTo peer sent := by
  simp [errorsTo, other]

theorem errorCode_toByte_injective :
    Function.Injective ErrorCode.toByte := by
  intro first second same
  cases first <;> cases second <;> first | rfl | cases same

/-- The code of an ERROR packet can be read off its bytes. -/
theorem errorCode_of_makeRaw
    {first second : ErrorPacket} (same : first.makeRaw = second.makeRaw) :
    first.errorCode = second.errorCode := by
  simp only [ErrorPacket.makeRaw, List.cons_append, List.cons.injEq,
    true_and] at same
  exact errorCode_toByte_injective same.1

/-- If a handler ends by an exception, it has reported this exception. -/
def Reports (peer : Address) (handler : Handler) : Prop :=
  ∀ exception, handler.control = .ended (.threw exception) →
    excused exception = false →
      ∃ packet : ErrorPacket,
        errorsTo peer handler.sent = [packet.makeRaw] ∧
          packet.errorCode ∈ codesOf exception

/-- Without an ERROR packet nothing is reported. -/
theorem not_reports_of_nothing
    {peer : Address} {handler : Handler} {exception : Exception}
    (threw : handler.control = .ended (.threw exception))
    (owed : excused exception = false)
    (nothing : errorsTo peer handler.sent = []) :
    ¬ Reports peer handler := by
  intro reports
  obtain ⟨packet, sent, _⟩ := reports exception threw owed
  rw [nothing] at sent
  cases sent

/-- A session which serves a peer and has sent it no ERROR packet. -/
structure Silent (peer : Address) (session : Session) : Prop where
  clientAddress : session.clientAddress = peer
  errors : errorsTo peer session.udp.sent = []

namespace Silent

variable {peer : Address} {session next : Session}

theorem increaseTimeout (silent : Silent peer session) :
    Silent peer session.increaseTimeout :=
  ⟨silent.clientAddress, silent.errors⟩

theorem timeoutReset (silent : Silent peer session) :
    Silent peer session.timeoutReset :=
  ⟨silent.clientAddress, silent.errors⟩

theorem withStorage (silent : Silent peer session) (storage : Storage) :
    Silent peer (session.withStorage storage) :=
  ⟨silent.clientAddress, silent.errors⟩

/-- The negotiation sends nothing. -/
theorem negotiated (silent : Silent peer session)
    (quiet : session.Negotiated next) : Silent peer next := by
  refine ⟨quiet.clientAddress.trans silent.clientAddress, ?_⟩
  rw [quiet.sent]
  exact silent.errors

theorem send
    (silent : Silent peer session) {raw : Bytes} {opcode : Opcode}
    (known : getOpcodeFromRaw raw = .ok opcode)
    (other : opcode ≠ .ERROR) :
    Silent peer (session.send raw) := by
  refine ⟨silent.clientAddress, ?_⟩
  change errorsTo peer (session.udp.sent ++ _) = []
  rw [errorsTo_append_of_opcode known other]
  exact silent.errors

/-- The receiving helper sends ERROR packets to other senders only. -/
theorem recievePacketFromClient (silent : Silent peer session)
    (foreign : Nat) (reception : Reception) :
    Silent peer (session.recievePacketFromClient foreign reception).1 := by
  obtain ⟨rfl, errors⟩ := silent
  refine ⟨?_, ?_⟩
  · exact (session.recievePacketFromClient_talks _ _).clientAddress
  · unfold Session.recievePacketFromClient
    cases reception with
    | datagram sender bytes =>
        simp only [recievePacketFrom, receive]
        split_ifs with unknown
        · change errorsTo _ (session.udp.sent ++ _) = []
          rw [errorsTo_append_of_ne unknown.1]
          exact errors
        · exact errors
        · exact errors
    | _ => exact errors

end Silent

/-- What the receiving helper can throw. -/
theorem Session.recievePacketFromClient_threw
    {session next : Session} {foreign : Nat} {reception : Reception}
    {exception : Exception}
    (result :
      session.recievePacketFromClient foreign reception =
        (next, .threw exception)) :
    exception = .udpTimeout ∨ exception = .udpSigint ∨
      ∃ message, exception = .udp message := by
  unfold recievePacketFromClient recievePacketFrom at result
  cases reception with
  | datagram sender bytes =>
      simp only [receive] at result
      split_ifs at result <;> cases result
      exact Or.inl rfl
  | timeout =>
      cases result
      exact Or.inl rfl
  | sigint =>
      cases result
      exact Or.inr (Or.inl rfl)
  | failure =>
      cases result
      exact Or.inr (Or.inr ⟨_, rfl⟩)

/-! ## What silences a handler -/

/-- The answer to a WRQ can be encoded. -/
def Control.Answerable : Control → Prop
  | .awaitFirstData options negotiated _ _ _ =>
      ∃ raw, Session.openingReply options negotiated = .ok raw
  | _ => True

/--
A handler keeps silent about its failure exactly if `silenced`; as long as it
waits it has nothing to report.
-/
structure Judged (peer : Address) (silenced : Prop)
    (handler : Handler) : Prop where
  reports : Reports peer handler ↔ ¬ silenced
  silent : (∀ outcome, handler.control ≠ .ended outcome) →
    Silent peer handler.session
  answerable : handler.control.Answerable

namespace Judged

variable {peer : Address} {session : Session} {handler : Handler}
  {first second : Prop}

theorem of_iff (judged : Judged peer first handler)
    (same : second ↔ first) : Judged peer second handler :=
  ⟨judged.reports.trans (not_congr same.symm), judged.silent,
    judged.answerable⟩

theorem waits (silent : Silent peer session) {control : Control}
    (waiting : ∀ outcome, control ≠ .ended outcome)
    (answerable : control.Answerable) :
    Judged peer False ⟨session, control⟩ where
  reports := by
    refine ⟨fun _ => id, fun _ => ?_⟩
    intro exception threw
    exact absurd threw (waiting _)
  silent _ := silent
  answerable := answerable

theorem ends {outcome : Outcome}
    (calm : ∀ exception, outcome ≠ .threw exception) :
    Judged peer False ⟨session, .ended outcome⟩ where
  reports := by
    refine ⟨fun _ => id, fun _ => ?_⟩
    intro exception threw
    exact absurd (Control.ended.inj threw) (calm exception)
  silent waiting := absurd rfl (waiting outcome)
  answerable := trivial

/-- The catch clauses report an exception, unless it is a mute one. -/
theorem raise (silent : Silent peer session) (exception : Exception) :
    Judged peer (mute exception = true) (session.raise exception) where
  reports := by
    obtain ⟨rfl, errors⟩ := silent
    have unreported : excused exception = false →
        (session.raise exception).sent = session.udp.sent →
          ¬ Reports session.clientAddress (session.raise exception) := by
      intro owed nothing
      refine not_reports_of_nothing rfl owed ?_
      rw [nothing]
      exact errors
    cases exception with
    | tftp exception =>
        cases replies : errorReply exception with
        | none =>
            have silenced : mute (.tftp exception) = true := by
              simp [mute, replies]
            refine iff_of_false (unreported rfl ?_) (not_not.mpr silenced)
            simp [Handler.sent, reportException, replies]
        | some packet =>
            have heard : mute (.tftp exception) = false := by
              simp [mute, replies]
            refine iff_of_true ?_ (by simp [heard])
            intro thrown ended _
            cases ended
            refine ⟨packet, ?_, errorReply_describes replies⟩
            simp [Handler.sent, reportException, replies, errors]
    | recievedErrorPacket message =>
        refine iff_of_true ?_ (by simp [mute, excused])
        intro thrown ended owed
        cases ended
        cases owed
    | udp message =>
        refine iff_of_true ?_ (by simp [mute, excused])
        intro thrown ended owed
        cases ended
        cases owed
    | _ => exact iff_of_false (unreported rfl rfl) (not_not.mpr rfl)
  silent waiting := absurd rfl (waiting (.threw exception))
  answerable := trivial

/-- An exception which is not mute. -/
theorem raise_heard (silent : Silent peer session)
    {exception : Exception} (heard : mute exception = false) :
    Judged peer False (session.raise exception) :=
  (raise silent exception).of_iff (by simp [heard])

theorem raise_mute (silent : Silent peer session)
    {exception : Exception} (silenced : mute exception = true) :
    Judged peer True (session.raise exception) :=
  (raise silent exception).of_iff (by simp [silenced])

/--
After SIGINT the client has been told that the user interrupted the transfer;
a removal which fails is not reported.
-/
theorem deleteAndTerminate
    (session : Session) (host : HostChoice) (path : Path)
    (told : errorsTo peer session.udp.sent =
      [Session.interrupted.makeRaw]) :
    Judged peer (host.removeFails = true)
      (session.deleteAndTerminate host path) := by
  unfold Session.deleteAndTerminate Storage.deleteFile
  dsimp only
  split_ifs with fails
  · refine ⟨iff_of_false ?_ (not_not.mpr fails), ?_, trivial⟩
    · intro reports
      obtain ⟨packet, sent, describes⟩ :=
        reports .filesystemError rfl rfl
      have one := List.singleton_inj.mp (told.symm.trans sent)
      rw [← errorCode_of_makeRaw one] at describes
      simp [Session.interrupted, codesOf] at describes
    · intro waiting
      exact absurd rfl (waiting (.threw .filesystemError))
  · exact (ends (by simp)).of_iff (by simp [fails])

end Judged

end IsaTftp.Server
