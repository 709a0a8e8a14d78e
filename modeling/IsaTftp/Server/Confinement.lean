import IsaTftp.Server.Steps

/-!
# Root confinement

A handler checks the path of its request before it touches any file, and later
touches this path only.  Other processes may change the files at any time; the
path stays below the root as long as they leave the links alone.
-/

namespace IsaTftp.Server

open IsaTftp.Wire
open IsaTftp.Files
open IsaTftp.Transfer
open IsaTftp.Library.Runs

/-- A handler which has touched, and can touch, allowed paths only. -/
structure Confined (allowed : Path → Prop) (handler : Handler) :
    Prop where
  accesses : ∀ access ∈ handler.session.storage.accesses,
    allowed access.path
  reader : ∀ reader, handler.control.reader = some reader →
    allowed reader.filepath
  writer : ∀ writer, handler.control.writer = some writer →
    allowed writer.filepath

variable {allowed : Path → Prop} {session next : Session}

/-- The accesses of a session which may touch one more path. -/
def Session.Keeps (allowed : Path → Prop) (session : Session) : Prop :=
  ∀ access ∈ session.storage.accesses, allowed access.path

theorem Session.Keeps.touches
    (keeps : session.Keeps allowed) {path : Path}
    (permitted : allowed path)
    (touches : session.storage.Touches path next.storage) :
    next.Keeps allowed := by
  obtain ⟨more, noted, only⟩ := touches
  intro access member
  rw [noted] at member
  rcases List.mem_append.mp member with old | new
  · exact keeps access old
  · rw [only access new]
    exact permitted

theorem Session.Keeps.talks
    (keeps : session.Keeps allowed) (talks : session.Talks next) :
    next.Keeps allowed := by
  unfold Session.Keeps
  rw [talks.storage]
  exact keeps

theorem Session.Keeps.interrupted (keeps : session.Keeps allowed) :
    (session.send Session.interrupted.makeRaw).Keeps allowed :=
  keeps

theorem Confined.ended
    (keeps : session.Keeps allowed) (outcome : Outcome) :
    Confined allowed ⟨session, .ended outcome⟩ where
  accesses := keeps
  reader := by simp [Control.reader]
  writer := by simp [Control.writer]

theorem Confined.raise
    (keeps : session.Keeps allowed) (exception : Exception) :
    Confined allowed (session.raise exception) where
  accesses := keeps
  reader := by simp [Control.reader, Session.raise]
  writer := by simp [Control.writer, Session.raise]

/-! ## Every step keeps a handler confined -/

theorem Confined.deleteAndTerminate
    (keeps : session.Keeps allowed) {path : Path}
    (permitted : allowed path) (host : HostChoice) :
    Confined allowed (session.deleteAndTerminate host path) := by
  have touches := session.storage.touches_deleteFile host path
  unfold Session.deleteAndTerminate
  cases deleted : session.storage.deleteFile host path with
  | mk result storage =>
      rw [deleted] at touches
      have keepsNow : (session.withStorage storage).Keeps allowed :=
        keeps.touches permitted touches
      cases result with
      | ok => exact .ended keepsNow _
      | error exception => exact .raise keepsNow exception

theorem Confined.sendBlock
    (keeps : session.Keeps allowed) {reader : Reader}
    (permitted : allowed reader.filepath) (host : HostChoice)
    (blockNumber : Nat) :
    Confined allowed (session.sendBlock host reader blockNumber) := by
  have reads :=
    reader.readFile_onlyReads session.storage host session.blksize
  unfold Session.sendBlock
  cases read : reader.readFile session.storage host session.blksize with
  | mk result storage =>
      rw [read] at reads
      have keepsNow : (session.withStorage storage).Keeps allowed :=
        keeps.touches permitted reads.touches
      cases result with
      | error exception => exact .raise keepsNow exception
      | ok pair =>
          obtain ⟨data, next⟩ := pair
          refine ⟨keepsNow, ?_, by simp [Control.writer]⟩
          intro reader' same
          cases same
          rw [Reader.filepath_readFile read]
          exact permitted

theorem Confined.abandonWrite
    (keeps : session.Keeps allowed) {writer : Writer}
    (permitted : allowed writer.filepath) (host : HostChoice)
    (exception : Exception) :
    Confined allowed (session.abandonWrite host writer exception) :=
  .raise
    (keeps.touches permitted (writer.touches_close session.storage host))
    exception

theorem Confined.finishWrite
    (keeps : session.Keeps allowed) {writer : Writer}
    (permitted : allowed writer.filepath) (host : HostChoice)
    (blockNumber : Nat) :
    Confined allowed (session.finishWrite host writer blockNumber) := by
  have closed :
      (session.finishWrite host writer blockNumber).session.Keeps
        allowed :=
    keeps.touches permitted (writer.touches_close session.storage host)
  exact .ended closed _

theorem Confined.awaitDataAgain
    (keeps : session.Keeps allowed) {writer : Writer}
    (permitted : allowed writer.filepath) (host : HostChoice)
    (blockNumber retries : Nat) :
    Confined allowed
      (session.awaitDataAgain host writer blockNumber retries) := by
  unfold Session.awaitDataAgain
  split_ifs
  · refine ⟨keeps, by simp [Control.reader], ?_⟩
    intro writer' same
    cases same
    exact permitted
  · exact .abandonWrite keeps permitted host _

theorem Confined.storeBlock
    (keeps : session.Keeps allowed) {writer : Writer}
    (permitted : allowed writer.filepath) (host : HostChoice)
    (blockNumber : Nat) (data : Bytes) :
    Confined allowed
      (session.storeBlock host writer blockNumber data) := by
  have touches := writer.touches_writeFile session.storage host data
  have samePath := writer.filepath_writeFile session.storage host data
  unfold Session.storeBlock
  cases written : writer.writeFile session.storage host data with
  | mk status rest =>
      obtain ⟨next, storage⟩ := rest
      rw [written] at touches samePath
      dsimp only at touches samePath
      have keepsNow : (session.withStorage storage).Keeps allowed :=
        keeps.touches permitted touches
      have permittedNow : allowed next.filepath := by
        rwa [samePath]
      cases status with
      | undefined => exact .ended keepsNow _
      | threw exception =>
          exact .abandonWrite keepsNow permittedNow host _
      | done =>
          have keepsThen :
              (session.withStorage storage).timeoutReset.Keeps allowed :=
            keepsNow
          dsimp only
          split_ifs
          · exact .finishWrite keepsThen permittedNow host blockNumber
          · exact
              .awaitDataAgain keepsThen permittedNow host blockNumber 0

theorem Confined.step
    {handler : Handler} (confined : Confined allowed handler)
    (event : Event) :
    Confined allowed (handler.step event) := by
  have keeps : handler.session.Keeps allowed := confined.accesses
  cases reads : handler.control.reader with
  | some reader =>
      have permitted := confined.reader reader reads
      have step := Handler.step_sending reads event
      generalize handler.step event = next at step ⊢
      cases step with
      | waits talks control same =>
          refine ⟨keeps.talks talks, ?_, ?_⟩
          · intro reader' found
            cases same.symm.trans found
            exact permitted
          · intro writer found
            cases control <;> simp_all [Control.reader, Control.writer]
      | raises talks exception => exact .raise (keeps.talks talks) _
      | returns talks => exact .ended (keeps.talks talks) _
      | interrupts talks =>
          have keepsNow := keeps.talks talks
          exact .deleteAndTerminate keepsNow.interrupted permitted _
      | sends talks =>
          exact .sendBlock (keeps.talks talks) permitted _ _
  | none =>
      cases writes : handler.control.writer with
      | some writer =>
          have permitted := confined.writer writer writes
          have step := Handler.step_receiving writes event
          generalize handler.meaning event = meaning at step
          generalize handler.step event = next at step ⊢
          cases step with
          | waits talks control same =>
              refine ⟨keeps.talks talks, ?_, ?_⟩
              · intro reader found
                cases control <;>
                  simp_all [Control.reader, Control.writer]
              · intro writer' found
                cases same.symm.trans found
                exact permitted
          | refuses talks exception =>
              exact .abandonWrite (keeps.talks talks) permitted _ _
          | raises talks exception =>
              exact .abandonWrite (keeps.talks talks) permitted _ _
          | interrupts talks =>
              have keepsNow := (keeps.talks talks).interrupted
              exact
                .deleteAndTerminate
                  (keepsNow.touches permitted
                    (writer.touches_close _ event.host))
                  permitted _
          | stores talks blockNumber data =>
              exact .storeBlock (keeps.talks talks) permitted _ _ _
      | none =>
          obtain ⟨session, control⟩ := handler
          cases control with
          | ended outcome => exact confined
          | awaitOackAck => cases reads
          | awaitAck => cases reads
          | awaitFirstData => cases writes
          | awaitData => cases writes

/-! ## Requests -/

/-- A read request touches its path only, once the path was checked. -/
theorem Confined.followOnRRQ (clientAddress : Address)
    (rootDirpath : Path) (files : FileSystem) (host : HostChoice)
    {introPacket : Bytes} {allowed : Path → Prop}
    (permits : ∀ rrq : ReadWritePacket,
      ReadWritePacket.ofRaw introPacket = .ok rrq →
        files.Under (rootDirpath ++ slash :: rrq.filepath)
            rootDirpath →
          allowed (rootDirpath ++ slash :: rrq.filepath)) :
    Confined allowed
      ((Session.make clientAddress rootDirpath files).followOnRRQ host
        introPacket) := by
  let fresh := Session.make clientAddress rootDirpath files
  have nothing : fresh.Keeps allowed := by
    intro access member
    cases member
  rcases fresh.followOnRRQ_cases host introPacket with
    ⟨reached, exception, quiet, refused⟩ |
      ⟨rrq, reached, negotiated, parsed, exists_, check, opened, answers⟩
  · have keeps : reached.Keeps allowed := by
      unfold Session.Keeps
      rw [quiet.storage]
      exact nothing
    rw [refused]
    exact .raise keeps exception
  · have found : files.lookup (fresh.filePath rrq.filepath) ≠ none := by
      have isSome := Storage.isSome_of_fileExists exists_
      exact Option.ne_none_iff_isSome.mpr isSome
    have permitted : allowed (fresh.filePath rrq.filepath) :=
      permits rrq parsed (FileSystem.under_of_check found check)
    have keeps : reached.Keeps allowed :=
      nothing.touches permitted opened.storage.touches
    rcases answers with ⟨exception, refused⟩ | diverged | answered
    · rw [refused]
      exact .raise keeps exception
    · rw [diverged]
      exact .ended keeps _
    · rw [answered]
      unfold Session.answerRRQ
      split_ifs
      · split
        · exact .raise keeps _
        · refine ⟨keeps, ?_, by simp [Control.writer]⟩
          intro reader same
          cases same
          exact permitted
      · exact .sendBlock keeps permitted host 1

/-- So does a write request, once nothing was found at the path. -/
theorem Confined.followOnWRQ (clientAddress : Address)
    (rootDirpath : Path) (files : FileSystem) (host : HostChoice)
    {introPacket : Bytes} {allowed : Path → Prop}
    (permits : ∀ wrq : ReadWritePacket,
      ReadWritePacket.ofRaw introPacket = .ok wrq →
        files.lookup (rootDirpath ++ slash :: wrq.filepath) = none →
          files.isFilePathUnderDirectory
              (rootDirpath ++ slash :: wrq.filepath) rootDirpath = true →
            allowed (rootDirpath ++ slash :: wrq.filepath)) :
    Confined allowed
      ((Session.make clientAddress rootDirpath files).followOnWRQ host
        introPacket) := by
  let fresh := Session.make clientAddress rootDirpath files
  have nothing : ∀ reached, fresh.Negotiated reached →
      reached.Keeps allowed := by
    intro reached quiet access member
    rw [quiet.storage] at member
    cases member
  rcases fresh.followOnWRQ_cases host introPacket with
    ⟨reached, exception, quiet, refused⟩ |
      ⟨wrq, reached, negotiated, parsed, absent, check, quiet, started⟩
  · rw [refused]
    exact .raise (nothing reached quiet) exception
  · have missing : files.lookup (fresh.filePath wrq.filepath) = none := by
      have isSome := Storage.isSome_of_fileExists absent
      exact Option.isNone_iff_eq_none.mp (Option.isSome_eq_false_iff.mp isSome)
    have permitted : allowed (fresh.filePath wrq.filepath) :=
      permits wrq parsed missing check
    have keeps := nothing reached quiet
    rw [started]
    unfold Session.awaitFirstDataAgain
    split_ifs
    · split
      · exact .abandonWrite keeps permitted host _
      · refine ⟨keeps, by simp [Control.reader], ?_⟩
        intro writer same
        cases same
        exact permitted
    · exact .abandonWrite keeps permitted host _

/-! ## Runs -/

/-- A step which finds the files as others have left them. -/
def Handler.stepAmid (handler : Handler)
    (change : FileSystem × Event) : Handler :=
  (handler.withFiles change.1).step change.2

theorem Confined.run
    {start : Handler} (confined : Confined allowed start)
    (changes : List (FileSystem × Event)) :
    Confined allowed (run Handler.stepAmid start changes) := by
  refine run_invariant (Confined allowed) ?_ confined changes
  intro handler change here
  have meanwhile : Confined allowed (handler.withFiles change.1) :=
    ⟨here.accesses, here.reader, here.writer⟩
  exact meanwhile.step change.2

end IsaTftp.Server
