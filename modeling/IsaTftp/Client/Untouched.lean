import IsaTftp.Client.Interruption
import IsaTftp.Client.Origin
import IsaTftp.Client.Permission

/-!
# A download without a block

The writer opens the local file for the first block, so until then an
exception leaves it as it was.  `CheckForSigintRRQ` however deletes by the path
of the writer, whether this writer has opened the file or not.
-/

namespace IsaTftp.Client

open IsaTftp.Wire
open IsaTftp.Files
open IsaTftp.Transfer
open IsaTftp.Library.Runs

/-! ## The files -/

section

variable {path : Path} {files : FileSystem} {host : HostChoice}

/-- Every file is as it was, and the writer has not opened its own. -/
def Unopened (path : Path) (files : FileSystem) (client : TftpClient) :
    Prop :=
  client.session.storage.files = files ∧
    match client.control with
    | .awaitRrqReply writer _ =>
        writer.filepath = path ∧ writer.file = none
    | .awaitData writer _ _ _ =>
        writer.filepath = path ∧ writer.file = none
    | .ended _ => True
    | _ => False

/-- The files after `DeleteFile`. -/
def withoutFile (path : Path) (files : FileSystem) (host : HostChoice) :
    FileSystem :=
  if host.removeFails then files else files.setFile (files.entry path) none

/-- `CheckForSigintRRQ` has deleted the file, if it could. -/
structure Deleted (path : Path) (files : FileSystem) (host : HostChoice)
    (client : TftpClient) : Prop where
  ended : ∃ outcome, client.control = .ended outcome
  files : client.session.storage.files = withoutFile path files host

/-- How a step without a block ends. -/
def LeavesFiles (path : Path) (files : FileSystem) (host : HostChoice)
    (seen : Bool) (client : TftpClient) : Prop :=
  if seen then Deleted path files host client
  else Unopened path files client

namespace LeavesFiles

variable {session : Session} {writer : Writer} {event : Event}

theorem interruptRead
    (same : session.storage.files = files)
    (samePath : writer.filepath = path) (unopened : writer.file = none) :
    LeavesFiles path files host true
      (session.interruptRead host writer) := by
  have closed : writer.close session.storage host = session.storage :=
    writer.close_of_unopened unopened _ _
  unfold Session.interruptRead Storage.deleteFile
  simp only [Session.send_storage, closed]
  cases fails : host.removeFails with
  | true =>
      refine ⟨⟨_, rfl⟩, ?_⟩
      rw [withoutFile, fails, if_pos rfl, ← same]
      rfl
  | false =>
      refine ⟨⟨_, rfl⟩, ?_⟩
      rw [withoutFile, fails, ← same, ← samePath]
      rfl

theorem abandonRead
    (same : session.storage.files = files) (unopened : writer.file = none)
    (exception : Exception) :
    LeavesFiles path files host false
      (session.abandonRead host writer exception) := by
  have closed : writer.close session.storage host = session.storage :=
    writer.close_of_unopened unopened _ _
  unfold Session.abandonRead
  rw [closed]
  exact ⟨same, trivial⟩

/-- One check; `later` says whether a check behind it sees the flag. -/
theorem checkForSigintRRQ
    (same : session.storage.files = files)
    (samePath : writer.filepath = path) (unopened : writer.file = none)
    {received later seen : Bool} (first : received = true → seen = true)
    (then_ : received = false → seen = later)
    {proceed : Session → TftpClient}
    (proceeds : LeavesFiles path files host later (proceed session)) :
    LeavesFiles path files host seen
      (session.checkForSigintRRQ host writer received proceed) := by
  unfold Session.checkForSigintRRQ
  cases received with
  | true =>
      rw [first rfl]
      exact interruptRead same samePath unopened
  | false =>
      rw [then_ rfl]
      exact proceeds

theorem awaitDataAgain
    (same : session.storage.files = files)
    (samePath : writer.filepath = path) (unopened : writer.file = none)
    (blockNumber : UInt16) (retries : Nat) :
    LeavesFiles path files event.host (event.sigintAt 4)
      (session.awaitDataAgain writer blockNumber retries event) := by
  unfold Session.awaitDataAgain
  split_ifs
  · apply checkForSigintRRQ same samePath unopened id id
    exact ⟨same, samePath, unopened⟩
  · apply checkForSigintRRQ same samePath unopened id id
    exact abandonRead same unopened _

theorem awaitRrqReplyAgain
    (same : session.storage.files = files)
    (samePath : writer.filepath = path) (unopened : writer.file = none)
    (retries : Nat) :
    LeavesFiles path files event.host (event.sigintAt 1)
      (session.awaitRrqReplyAgain writer retries event) := by
  unfold Session.awaitRrqReplyAgain
  apply checkForSigintRRQ same samePath unopened id id
  split_ifs
  · dsimp only
    split
    · exact abandonRead same unopened _
    · exact ⟨same, samePath, unopened⟩
  · exact abandonRead same unopened _

/-- Behind an OACK the flag is looked at three times. -/
theorem afterRrqReply
    (same : session.storage.files = files)
    (samePath : writer.filepath = path) (unopened : writer.file = none)
    (settled : session.Settled) :
    LeavesFiles path files event.host (event.sigintAt 4)
      (session.afterRrqReply writer 0 false event) := by
  have scanned :
      Session.scanBlksize session.timeoutReset.blksize
          session.timeoutReset.args.options =
        .ok session.timeoutReset.blksize :=
    settled
  have grows : ∀ check ≤ 4,
      event.sigintAt check = true → event.sigintAt 4 = true := by
    intro check before
    contrapose!
    simpa using sigintAt_of_le before
  unfold Session.afterRrqReply
  apply checkForSigintRRQ same samePath unopened (grows 2 (by omega))
    fun _ => rfl
  simp only [scanned]
  have reset : session.timeoutReset.storage.files = files := same
  exact
    checkForSigintRRQ reset samePath unopened (grows 3 (by omega))
      (fun _ => rfl) (awaitDataAgain reset samePath unopened 0 0)

end LeavesFiles

/-! ## Steps and runs without a block -/

theorem LeavesFiles.stepAwaitData
    {session : Session} {writer : Writer} {event : Event}
    (same : session.storage.files = files)
    (samePath : writer.filepath = path) (unopened : writer.file = none)
    (blockNumber : UInt16) (retries foreign : Nat)
    (nothing :
      TftpClient.takes
        ⟨session, .awaitData writer blockNumber retries foreign⟩ event =
          none) :
    LeavesFiles path files event.host
      (TftpClient.seesSigint
        ⟨session, .awaitData writer blockNumber retries foreign⟩ event)
      (session.stepAwaitData writer blockNumber retries foreign event) := by
  unfold TftpClient.seesSigint TftpClient.lastCheck
  unfold TftpClient.takes at nothing
  unfold Session.stepAwaitData
  cases heard : event.reception with
  | timeout =>
      have increased : session.increaseTimeout.storage.files = files := same
      exact awaitDataAgain increased samePath unopened _ _
  | sigint => exact interruptRead same samePath unopened
  | failure => exact abandonRead same unopened _
  | datagram sender bytes =>
      have bytesOnly : (Reception.datagram sender bytes == .sigint) = false :=
        rfl
      simp only [heard, Session.recievePacketFromServer] at nothing
      simp only [Session.recievePacketFromServer, Control.writer,
        Option.isSome_some, bytesOnly, Bool.true_and, Bool.false_or]
      by_cases known : sender = session.serverAddress
      · subst known
        rw [recievePacketFrom_peer] at nothing ⊢
        split_ifs at nothing ⊢
        · have increased : session.increaseTimeout.storage.files = files :=
            same
          dsimp only at nothing ⊢
          cases classified :
              classifyData (text "Server") (blockNumber.toNat + 1)
                (blockNumber.toNat + 1) session.blksize.toNat
                (bytes.take UdpClient.maxPacketSize) with
          | error exception => exact abandonRead same unopened _
          | ok reply =>
              cases reply with
              | accepted data =>
                  rw [classified] at nothing
                  cases nothing
              | old => exact awaitDataAgain increased samePath unopened _ _
              | ignored => exact awaitDataAgain same samePath unopened _ _
        · have increased : session.increaseTimeout.storage.files = files :=
            same
          exact awaitDataAgain increased samePath unopened _ _
      · rw [recievePacketFrom_foreign known]
        split_ifs
        · exact ⟨same, samePath, unopened⟩
        · have increased : session.increaseTimeout.storage.files = files :=
            same
          exact awaitDataAgain increased samePath unopened _ _

theorem LeavesFiles.stepAwaitRrqReply
    {session : Session} {writer : Writer} {event : Event}
    (same : session.storage.files = files)
    (samePath : writer.filepath = path) (unopened : writer.file = none)
    (retries : Nat)
    (nothing :
      TftpClient.takes ⟨session, .awaitRrqReply writer retries⟩ event =
        none) :
    LeavesFiles path files event.host
      (TftpClient.seesSigint
        ⟨session, .awaitRrqReply writer retries⟩ event)
      (session.stepAwaitRrqReply writer retries event) := by
  unfold TftpClient.seesSigint TftpClient.lastCheck
  unfold TftpClient.takes at nothing
  unfold Session.stepAwaitRrqReply
  cases heard : event.reception with
  | timeout =>
      have increased : session.increaseTimeout.storage.files = files := same
      exact awaitRrqReplyAgain increased samePath unopened _
  | sigint => exact interruptRead same samePath unopened
  | failure =>
      have silent :
          TftpClient.agreement ⟨session, .awaitRrqReply writer retries⟩
              event = none := by
        simp [TftpClient.agreement, heard, receive]
      simp only [silent]
      exact abandonRead same unopened _
  | datagram sender bytes =>
      have bytesOnly : (Reception.datagram sender bytes == .sigint) = false :=
        rfl
      simp only [heard, receive] at nothing
      simp only [Control.writer, Option.isSome_some, bytesOnly,
        Bool.true_and, Bool.false_or, TftpClient.agreement, heard, receive,
        Session.agreeRrq]
      cases classified :
          (session.adoptPort sender).classifyRrqReply
            (bytes.take UdpClient.maxPacketSize) with
      | error exception =>
          have adopted : (session.adoptPort sender).storage.files = files :=
            same
          exact abandonRead adopted unopened exception
      | ok reply =>
          cases reply with
          | firstBlock data =>
              rw [classified] at nothing
              cases nothing
          | oack options =>
              have adopted :
                  ((session.adoptPort sender).withOptions
                    options).storage.files = files :=
                same
              obtain ⟨next, setUp, setsUp⟩ :=
                setupUdpClient_setsUp
                  ((session.adoptPort sender).withOptions options)
              have settled : next.Settled := setsUp.settled rfl
              simp only [Session.acceptOack, setUp]
              cases space :
                  ((session.adoptPort sender).withOptions
                    options).checkSpace options with
              | error exception => exact abandonRead adopted unopened _
              | ok enough =>
                  rw [← setsUp.storage] at adopted
                  exact afterRrqReply adopted samePath unopened settled

/-- Every step of a client which has not opened its file. -/
theorem LeavesFiles.step {client : TftpClient} {event : Event}
    (waits : Unopened path files client)
    (nothing : client.takes event = none) :
    LeavesFiles path files event.host (client.seesSigint event)
      (client.step event) := by
  obtain ⟨session, control⟩ := client
  obtain ⟨same, here⟩ := waits
  cases control with
  | awaitRrqReply writer retries =>
      exact stepAwaitRrqReply same here.1 here.2 retries nothing
  | awaitData writer blockNumber retries foreign =>
      exact stepAwaitData same here.1 here.2 blockNumber retries foreign
        nothing
  | ended outcome => exact ⟨same, trivial⟩
  | awaitWrqReply => exact here.elim
  | awaitAck => exact here.elim

/-- Without a signal the files stay; a deleted file was there or was not. -/
theorem withoutFile_entry_iff :
    (withoutFile path files host).node (files.entry path) =
        files.node (files.entry path) ↔
      host.removeFails = true ∨ files.node (files.entry path) = none := by
  unfold withoutFile
  cases host.removeFails with
  | true => simp
  | false =>
      simp only [Bool.false_eq_true, if_false, false_or,
        FileSystem.node_setFile_self, Option.map_none]
      exact eq_comm

theorem withoutFile_of_absent
    (absent : host.removeFails = true ∨
      files.node (files.entry path) = none) :
    withoutFile path files host = files := by
  unfold withoutFile
  split_ifs with fails
  · rfl
  · have missing := absent.resolve_left fails
    have same : Function.update files.node (files.entry path) none =
        files.node := by
      rw [← missing]
      exact Function.update_eq_self _ _
    obtain ⟨node, entry, available, resolved⟩ := files
    simp only [FileSystem.setFile, Option.map_none] at same ⊢
    simp only [same]

/-- The step does not delete a file which was there. -/
def Spares (path : Path) (files : FileSystem) (client : TftpClient)
    (event : Event) : Prop :=
  client.seesSigint event = true →
    event.host.removeFails = true ∨ files.node (files.entry path) = none

/-- What is at a path, and what the path leads to, is as it was. -/
def SameFile (path : Path) (before after : FileSystem) : Prop :=
  after.node (before.entry path) = before.node (before.entry path) ∧
    after.lookup path = before.lookup path

theorem SameFile.of_eq {after : FileSystem} (same : after = files) :
    SameFile path files after := by
  rw [same]
  exact ⟨rfl, rfl⟩

/-- An end by `CheckForSigintRRQ`. -/
theorem Deleted.sameFile_iff {client : TftpClient}
    (deleted : Deleted path files host client) :
    SameFile path files client.session.storage.files ↔
      host.removeFails = true ∨ files.node (files.entry path) = none := by
  rw [deleted.files]
  constructor
  · intro same
    exact withoutFile_entry_iff.mp same.1
  · intro absent
    exact .of_eq (withoutFile_of_absent absent)

/-- After its end a client sees no signal any more. -/
theorem run_of_ended {client : TftpClient} {outcome : Outcome}
    (ended : client.control = .ended outcome) (events : List Event) :
    run TftpClient.step client events = client ∧
      ∀ taken ∈ stepsOf TftpClient.step client events,
        taken.1.seesSigint taken.2 = false := by
  obtain ⟨session, control⟩ := client
  cases ended
  induction events with
  | nil => simp
  | cons event events induction =>
      rw [run_cons, stepsOf_cons, TftpClient.step_ended]
      refine ⟨induction.1, ?_⟩
      intro taken member
      rcases List.mem_cons.mp member with rfl | later
      · rfl
      · exact induction.2 taken later

/-- A run of a client which has not opened its file, and takes no block. -/
theorem Unopened.sameFile_run_iff {client : TftpClient}
    (waits : Unopened path files client) {events : List Event}
    (nothing : ∀ taken ∈ stepsOf TftpClient.step client events,
      taken.1.takes taken.2 = none) :
    SameFile path files
        (run TftpClient.step client events).session.storage.files ↔
      ∀ taken ∈ stepsOf TftpClient.step client events,
        Spares path files taken.1 taken.2 := by
  induction events generalizing client with
  | nil => simpa using SameFile.of_eq waits.1
  | cons event events induction =>
      rw [stepsOf_cons] at nothing ⊢
      obtain ⟨now, later⟩ := List.forall_mem_cons.mp nothing
      have leaves := LeavesFiles.step waits now
      rw [run_cons, List.forall_mem_cons]
      unfold LeavesFiles at leaves
      split_ifs at leaves with seen
      · obtain ⟨outcome, ended⟩ := leaves.ended
        obtain ⟨same, unseen⟩ := run_of_ended ended events
        have calm : ∀ taken ∈
            stepsOf TftpClient.step (client.step event) events,
            Spares path files taken.1 taken.2 := by
          intro taken member sees
          rw [unseen taken member] at sees
          cases sees
        rw [same, leaves.sameFile_iff]
        constructor
        · intro absent
          exact ⟨fun _ => absent, calm⟩
        · rintro ⟨spares, _⟩
          exact spares seen
      · have quiet : Spares path files client event :=
          fun sees => absurd sees seen
        rw [induction leaves later]
        exact ⟨fun rest => ⟨quiet, rest⟩, And.right⟩

end

/--
Exactly when a download which takes no block leaves the local file as it was:
if nothing is at its path, or wherever SIGINT is seen the file cannot be
removed.
-/
theorem untouched_without_block_iff
    {args : TftpClientArgs} {serverAddress : Address} {stdin : Bytes}
    {files : FileSystem} {session : Session}
    (made : Session.make args serverAddress stdin files = .ok session)
    (first : Event) {events : List Event}
    (nothing :
      ∀ taken ∈ stepsOf TftpClient.step (session.read first) events,
        taken.1.takes taken.2 = none) :
    let steps := stepsOf TftpClient.step (session.read first) events
    let reached := run TftpClient.step (session.read first) events
    SameFile args.destFilepath files reached.session.storage.files ↔
      files.node (files.entry args.destFilepath) = none ∨
        ((first.sigintAt 1 = true → first.host.removeFails = true) ∧
          ∀ taken ∈ steps, taken.1.seesSigint taken.2 = true →
            taken.2.host.removeFails = true) := by
  intro steps reached
  have setsUp := setsUp_of_setupUdpClient made
  have sameFiles : session.storage.files = files := by
    rw [setsUp.storage]
  have samePath : session.args.destFilepath = args.destFilepath := by
    rw [setsUp.args]
  have starts :
      LeavesFiles args.destFilepath files first.host (first.sigintAt 1)
        (session.read first) :=
    .awaitRrqReplyAgain sameFiles samePath rfl 0
  unfold LeavesFiles at starts
  split_ifs at starts with early
  · obtain ⟨outcome, ended⟩ := starts.ended
    obtain ⟨same, unseen⟩ := run_of_ended ended events
    have stays : reached = session.read first := same
    have calm : ∀ taken ∈ steps, taken.1.seesSigint taken.2 = true →
        taken.2.host.removeFails = true := by
      intro taken member sees
      rw [unseen taken member] at sees
      cases sees
    rw [stays, starts.sameFile_iff]
    constructor
    · rintro (fails | absent)
      · exact Or.inr ⟨fun _ => fails, calm⟩
      · exact Or.inl absent
    · rintro (absent | ⟨fails, _⟩)
      · exact Or.inr absent
      · exact Or.inl (fails early)
  · have spares := starts.sameFile_run_iff nothing
    by_cases absent :
        files.node (files.entry args.destFilepath) = none
    · refine iff_of_true (spares.mpr ?_) (Or.inl absent)
      intro taken _ _
      exact Or.inr absent
    · rw [or_iff_right absent]
      constructor
      · intro same
        refine ⟨fun sees => absurd sees early, ?_⟩
        intro taken member sees
        exact (spares.mp same taken member sees).resolve_right absent
      · rintro ⟨_, fails⟩
        apply spares.mpr
        intro taken member sees
        exact Or.inl (fails taken member sees)

/-! ## A file which is there before -/

/-- A client which is about to read into the existing file `f`. -/
def overwritingSession : Session :=
  { readingSession [] with storage := ⟨smallDisk (some (text "old")), []⟩ }

/-- The server refuses the request. -/
def refusal : Event :=
  { reception := .datagram ⟨1, 1000⟩
      (ErrorPacket.makeRaw ⟨.FILE_NOT_FOUND, text "no"⟩) }

/-- The theorem where the server refuses the request. -/
theorem untouched_without_block_small :
    SameFile (text "f") (smallDisk (some (text "old")))
      (run TftpClient.step (overwritingSession.read {})
        [refusal]).session.storage.files := by
  have made :
      Session.make ⟨text "f", text "f", .READ, .OCTET, []⟩ ⟨1, 69⟩ []
          (smallDisk (some (text "old"))) = .ok overwritingSession :=
    rfl
  refine (untouched_without_block_iff made {} ?_).mpr (Or.inr ⟨?_, ?_⟩)
  · decide
  · decide
  · decide

/-- SIGINT before the request is sent: the file of before is gone. -/
theorem sigint_removes_file :
    let reached := overwritingSession.read { sigintFrom := some 0 }
    reached.control = .ended .terminated ∧
      overwritingSession.storage.files.content (text "f") =
          some (text "old") ∧
        reached.session.storage.files.content (text "f") = none ∧
          ¬ SameFile (text "f") overwritingSession.storage.files
            reached.session.storage.files := by
  refine ⟨by decide, by decide, by decide, ?_⟩
  rintro ⟨same, _⟩
  exact absurd same (by decide)

end IsaTftp.Client
