import IsaTftp.Server.Confinement

/-!
# Serving a file

`FollowOnRRQ` only reads, but `CheckForSigintRRQ` was written like its sibling
for write requests and deletes the file which is served.  This is the only way
in which a read request changes the files.
-/

namespace IsaTftp.Server

open IsaTftp.Wire
open IsaTftp.Files
open IsaTftp.Transfer
open IsaTftp.Library.Runs

variable {session : Session} {host : HostChoice} {reader : Reader}

/-! ## One step -/

/-- The files are as before, and at most the same file is still served. -/
structure Leaves (session : Session) (reader : Reader)
    (handler : Handler) : Prop where
  files : handler.session.storage.files = session.storage.files
  blocks : handler.session.storage.writtenBlocks =
    session.storage.writtenBlocks
  noWriter : handler.control.writer = none
  reader : ∀ next, handler.control.reader = some next →
    next.filepath = reader.filepath

theorem Leaves.ended (session : Session) (reader : Reader)
    (outcome : Outcome) :
    Leaves session reader ⟨session, .ended outcome⟩ :=
  ⟨rfl, rfl, rfl, by simp [Control.reader]⟩

theorem Leaves.raise (session : Session) (reader : Reader)
    (exception : Exception) :
    Leaves session reader (session.raise exception) :=
  ⟨rfl, rfl, rfl, by simp [Control.reader, Session.raise]⟩

theorem Leaves.sendBlock (session : Session) (host : HostChoice)
    (reader : Reader) (blockNumber : Nat) :
    Leaves session reader
      (session.sendBlock host reader blockNumber) := by
  have reads :=
    reader.readFile_onlyReads session.storage host session.blksize
  unfold Session.sendBlock
  cases read : reader.readFile session.storage host session.blksize with
  | mk result storage =>
      rw [read] at reads
      cases result with
      | error exception =>
          exact
            ⟨reads.files, reads.writtenBlocks, rfl,
              by simp [Control.reader, Session.raise]⟩
      | ok pair =>
          refine ⟨reads.files, reads.writtenBlocks, rfl, ?_⟩
          intro next same
          cases same
          exact Reader.filepath_readFile read

/-- The interrupted handler deletes what it serves, if it can. -/
theorem checkForSigintRRQ_cases (session : Session)
    (host : HostChoice) (reader : Reader) :
    (host.removeFails = true ∧
        Leaves session reader (session.checkForSigintRRQ host reader)) ∨
      (host.removeFails = false ∧
        (session.checkForSigintRRQ host reader).control =
            .ended .terminated ∧
          (session.checkForSigintRRQ host
              reader).session.storage.files =
            session.storage.files.setFile
              (session.storage.files.entry reader.filepath) none) := by
  unfold Session.checkForSigintRRQ Session.deleteAndTerminate
    Storage.deleteFile
  cases fails : host.removeFails with
  | true =>
      left
      refine ⟨rfl, ?_⟩
      simp only [if_true]
      exact
        ⟨rfl, by simp [Storage.writtenBlocks, Session.raise], rfl,
          by simp [Control.reader, Session.raise]⟩
  | false => exact Or.inr ⟨rfl, rfl, rfl⟩

/-- A step which is not interrupted leaves the files alone. -/
theorem SendingStep.leaves
    {current : Control} {interrupted : Bool} {handler : Handler}
    (step :
      SendingStep session host current reader interrupted handler)
    (spared : interrupted = true → host.removeFails = true) :
    Leaves session reader handler := by
  have moved : ∀ {next : Session}, session.Talks next →
      Leaves next reader handler → Leaves session reader handler := by
    intro next talks leaves
    exact
      ⟨by rw [leaves.files, talks.storage],
        by rw [leaves.blocks, talks.storage], leaves.noWriter,
        leaves.reader⟩
  cases step with
  | waits talks control same =>
      refine moved talks ⟨rfl, rfl, ?_, ?_⟩
      · cases control <;> simp_all [Control.reader, Control.writer]
      · intro next found
        cases same.symm.trans found
        rfl
  | raises talks exception => exact moved talks (.raise _ _ exception)
  | returns talks => exact moved talks (.ended _ _ _)
  | interrupts talks noticed =>
      rcases checkForSigintRRQ_cases _ host reader with
        ⟨_, leaves⟩ | ⟨removes, _⟩
      · exact moved talks leaves
      · rw [spared noticed] at removes
        cases removes
  | sends talks =>
      exact moved talks (.sendBlock _ host reader current.following)

/-! ## Runs -/

/-- The same things are found at every path under the root. -/
def SameUnder (rootDirpath : Path) (before after : FileSystem) : Prop :=
  ∀ path, before.Under path rootDirpath →
    after.lookup path = before.lookup path

/-- SIGINT is noticed while the handler waits, and the removal succeeds. -/
def Interrupted (handler : Handler) (event : Event) : Prop :=
  handler.control.reader ≠ none ∧ event.reception = .sigint ∧
    event.host.removeFails = false

/-- As long as a handler waits, it serves one of these files. -/
structure Serves (files : FileSystem) (rootDirpath : Path)
    (handler : Handler) : Prop where
  noWriter : handler.control.writer = none
  reader : ∀ reader, handler.control.reader = some reader →
    handler.session.storage.files = files ∧
      files.Under reader.filepath rootDirpath ∧
        files.lookup reader.filepath ≠ none

variable {files : FileSystem} {rootDirpath : Path}

theorem Leaves.serves
    {handler : Handler} (leaves : Leaves session reader handler)
    (same : session.storage.files = files)
    (under : files.Under reader.filepath rootDirpath)
    (found : files.lookup reader.filepath ≠ none) :
    Serves files rootDirpath handler where
  noWriter := leaves.noWriter
  reader next waits := by
    rw [leaves.reader next waits]
    exact ⟨leaves.files.trans same, under, found⟩

/-- A step of a handler which does not wait changes nothing. -/
theorem Handler.step_of_idle
    {handler : Handler} (noReader : handler.control.reader = none)
    (noWriter : handler.control.writer = none) (event : Event) :
    handler.step event = handler := by
  obtain ⟨session, control⟩ := handler
  cases control with
  | ended outcome => rfl
  | awaitOackAck => cases noReader
  | awaitAck => cases noReader
  | awaitFirstData => cases noWriter
  | awaitData => cases noWriter

/-- An interrupted handler deletes its file and terminates. -/
theorem step_of_interrupted
    {handler : Handler} {event : Event}
    (interrupted : Interrupted handler event) :
    ∃ reader, handler.control.reader = some reader ∧
      (handler.step event).control = .ended .terminated ∧
        (handler.step event).session.storage.files =
          handler.session.storage.files.setFile
            (handler.session.storage.files.entry reader.filepath)
            none := by
  obtain ⟨waits, sigint, removes⟩ := interrupted
  obtain ⟨reader, waits⟩ := Option.ne_none_iff_exists'.mp waits
  have step := Handler.step_sending waits event
  rw [decide_eq_true sigint] at step
  generalize handler.step event = reached at step ⊢
  refine ⟨reader, waits, ?_⟩
  cases step with
  | interrupts talks =>
      rcases checkForSigintRRQ_cases _ event.host reader with
        ⟨fails, _⟩ | ⟨_, isOver, gone⟩
      · rw [removes] at fails
        cases fails
      · rw [talks.storage] at gone
        exact ⟨isOver, gone⟩
  | waits _ _ _ calm => cases calm
  | raises _ _ calm => cases calm
  | returns _ calm => cases calm
  | sends _ calm => cases calm

/-- A step which is not interrupted leaves the files alone. -/
theorem Serves.leaves
    {handler : Handler} (serves : Serves files rootDirpath handler)
    {event : Event} (spared : ¬ Interrupted handler event) :
    Serves files rootDirpath (handler.step event) ∧
      (handler.step event).session.storage.files =
        handler.session.storage.files := by
  cases waits : handler.control.reader with
  | none =>
      rw [Handler.step_of_idle waits serves.noWriter]
      exact ⟨serves, rfl⟩
  | some reader =>
      obtain ⟨same, under, found⟩ := serves.reader reader waits
      have leaves :=
        (Handler.step_sending waits event).leaves fun noticed => by
          by_contra removes
          refine spared ⟨by simp [waits], of_decide_eq_true noticed, ?_⟩
          simpa using removes
      exact ⟨leaves.serves same under found, leaves.files⟩

theorem Serves.step
    {handler : Handler} (serves : Serves files rootDirpath handler)
    (event : Event) :
    Serves files rootDirpath (handler.step event) := by
  by_cases interrupted : Interrupted handler event
  · obtain ⟨_, _, isOver, _⟩ := step_of_interrupted interrupted
    exact ⟨by rw [isOver]; rfl, by simp [isOver, Control.reader]⟩
  · exact (serves.leaves interrupted).1

/-- Nothing happens to a handler which has ended. -/
theorem Handler.run_of_ended
    {handler : Handler} {outcome : Outcome}
    (isOver : handler.control = .ended outcome) (events : List Event) :
    run Handler.step handler events = handler :=
  run_of_halted
    (fun event =>
      Handler.step_of_idle (by rw [isOver]; rfl) (by rw [isOver]; rfl) event)
    events

/-- The files are as before exactly when no step was interrupted. -/
theorem Serves.run_iff
    {start : Handler} (serves : Serves files rootDirpath start)
    (before : start.session.storage.files = files)
    (events : List Event) :
    SameUnder rootDirpath files
        (run Handler.step start events).session.storage.files ↔
      ∀ taken ∈ stepsOf Handler.step start events,
        ¬ Interrupted taken.1 taken.2 := by
  constructor
  · intro same taken member interrupted
    have here : Serves files rootDirpath taken.1 :=
      stepsOf_invariant (Serves files rootDirpath)
        (fun _ event here => here.step event) serves member
    obtain ⟨reader, waits, isOver, gone⟩ :=
      step_of_interrupted interrupted
    obtain ⟨files, under, found⟩ := here.reader reader waits
    obtain ⟨rest, reached⟩ := run_of_mem_stepsOf member
    rw [reached, Handler.run_of_ended isOver rest, gone, files] at same
    have lost := same reader.filepath under
    rw [FileSystem.lookup_setFile_entry] at lost
    exact found lost.symm
  · intro spared
    have kept :=
      run_invariant_of_steps
        (fun handler => Serves files rootDirpath handler ∧
          handler.session.storage.files = files)
        ⟨serves, before⟩
        fun taken member here =>
          have step := here.1.leaves (spared taken member)
          ⟨step.1, step.2.trans here.2⟩
    intro path _
    rw [kept.2]

/-! ## Requests -/

theorem Serves.followOnRRQ (clientAddress : Address)
    (rootDirpath : Path) (files : FileSystem) (host : HostChoice)
    (introPacket : Bytes) :
    let start :=
      (Session.make clientAddress rootDirpath files).followOnRRQ host
        introPacket
    Serves files rootDirpath start ∧
      start.session.storage.files = files ∧
        start.session.storage.writtenBlocks = [] := by
  let fresh := Session.make clientAddress rootDirpath files
  dsimp only
  rcases fresh.followOnRRQ_cases host introPacket with
    ⟨reached, exception, quiet, refused⟩ |
      ⟨rrq, reached, negotiated, _, exists_, check, opened, answers⟩
  · rw [refused]
    refine ⟨⟨rfl, by simp [Control.reader, Session.raise]⟩, ?_⟩
    simp only [Session.raise_session_storage, quiet.storage]
    exact ⟨rfl, rfl⟩
  · have same : reached.storage.files = files := opened.storage.files
    have found :
        files.lookup (fresh.filePath rrq.filepath) ≠ none := by
      have isSome := Storage.isSome_of_fileExists exists_
      exact Option.ne_none_iff_isSome.mpr isSome
    have under :
        files.Under (fresh.filePath rrq.filepath) rootDirpath :=
      FileSystem.under_of_check found check
    let reader :=
      Reader.make (fresh.filePath rrq.filepath) (formatOfMode rrq.mode)
    have nothing : reached.storage.writtenBlocks = [] :=
      opened.storage.writtenBlocks
    have served : ∀ handler, Leaves reached reader handler →
        Serves files rootDirpath handler ∧
          handler.session.storage.files = files ∧
            handler.session.storage.writtenBlocks = [] :=
      fun handler leaves =>
        ⟨leaves.serves same under found, leaves.files.trans same,
          leaves.blocks.trans nothing⟩
    rcases answers with ⟨exception, refused⟩ | diverged | answered
    · rw [refused]
      exact served _ (.raise reached reader exception)
    · rw [diverged]
      exact served _ (.ended reached reader _)
    · rw [answered]
      apply served
      unfold Session.answerRRQ
      split_ifs
      · split
        · exact .raise reached reader _
        · refine ⟨rfl, rfl, rfl, ?_⟩
          intro next waits
          cases waits
          rfl
      · exact .sendBlock reached host reader 1

/--
Exactly when serving a read leaves everything under the root as it was: no
SIGINT was noticed while the handler waited for an ACK, or the removal of the
file failed.
-/
theorem serving_leaves_root_iff (clientAddress : Address)
    (rootDirpath : Path) (files : FileSystem) (host : HostChoice)
    (introPacket : Bytes) (events : List Event) :
    let start :=
      (Session.make clientAddress rootDirpath files).followOnRRQ host
        introPacket
    SameUnder rootDirpath files
        (run Handler.step start events).session.storage.files ↔
      ∀ taken ∈ stepsOf Handler.step start events,
        ¬ Interrupted taken.1 taken.2 := by
  obtain ⟨serves, before, _⟩ :=
    Serves.followOnRRQ clientAddress rootDirpath files host introPacket
  exact serves.run_iff before events

/-- SIGINT during a download of the file `f` deletes this file. -/
theorem interrupted_serving_deletes_file :
    let disk := smallDisk (some (text "hello"))
    let request := [0, 1] ++ text "f" ++ [0] ++ text "octet" ++ [0]
    let reached :=
      run Handler.step
        ((Session.make ⟨2, 1024⟩ (text "r") disk).followOnRRQ {}
          request)
        [{ reception := .sigint }]
    getOpcodeFromRaw request = .ok .RRQ ∧
      disk.content (text "r/f") = some (text "hello") ∧
        reached.session.storage.files.lookup (text "r/f") = none ∧
          ¬ SameUnder (text "r") disk reached.session.storage.files := by
  refine ⟨by decide, by decide, by decide, ?_⟩
  intro same
  have kept := same (text "r/f") (by decide)
  exact absurd kept (by decide)

end IsaTftp.Server
