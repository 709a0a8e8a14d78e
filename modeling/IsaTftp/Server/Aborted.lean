import IsaTftp.Server.Serving

/-!
# Aborted uploads

`FollowOnWRQ` creates its file with the first block.  When it ends without
having received everything, only `CheckForSigintWRQ` removes the file; every
exception leaves it behind, and the same request is then refused.
-/

namespace IsaTftp.Server

open IsaTftp.Wire
open IsaTftp.Files
open IsaTftp.Transfer
open IsaTftp.Library.Runs

variable {session : Session} {host : HostChoice} {writer : Writer}
variable {path : Path} {handler : Handler} {event : Event}

/-! ## Ends of an upload -/

/-- The function has ended, but not by returning. -/
def Handler.Failed (handler : Handler) : Prop :=
  ∃ outcome, handler.control = .ended outcome ∧ outcome ≠ .returned

/-- A handler which still receives or has left nothing at its path. -/
structure Uploads (path : Path) (handler : Handler) : Prop where
  noReader : handler.control.reader = none
  opening : handler.control.opening = true →
    ∀ writer, handler.control.writer = some writer → writer.file = none
  writer : ∀ writer, handler.control.writer = some writer →
    writer.filepath = path ∧ writer.Holds handler.session.storage ∧
      (writer.file = none →
        handler.session.storage.files.lookup path = none)

/-- An upload which has failed has left nothing behind. -/
def Clean (path : Path) (handler : Handler) : Prop :=
  handler.Failed → handler.session.storage.files.lookup path = none

theorem Uploads.ended (session : Session) (outcome : Outcome) :
    Uploads path ⟨session, .ended outcome⟩ :=
  ⟨rfl, by simp [Control.opening], by simp [Control.writer]⟩

theorem Uploads.raise (session : Session) (exception : Exception) :
    Uploads path (session.raise exception) :=
  .ended _ _

theorem Failed_raise (session : Session) (exception : Exception) :
    (session.raise exception).Failed :=
  ⟨.threw exception, rfl, by simp⟩

/-- A handler which waits has not failed. -/
theorem Handler.not_failed_of_writer
    (waits : handler.control.writer = some writer) :
    ¬ handler.Failed := by
  rintro ⟨outcome, isOver, _⟩
  rw [isOver] at waits
  cases waits

/-- An exception before the file was opened leaves nothing behind. -/
theorem lookup_abandonWrite_of_unopened
    (unopened : writer.file = none) (session : Session)
    (host : HostChoice) (exception : Exception) :
    (session.abandonWrite host writer
        exception).session.storage.files =
      session.storage.files := by
  simp [Session.abandonWrite,
    Writer.close_of_unopened unopened session.storage host]

/-- An exception after the file was opened leaves the file behind. -/
theorem content_abandonWrite_of_opened
    (holds : writer.Holds session.storage)
    (opened : writer.file ≠ none) (host : HostChoice)
    (exception : Exception) :
    (session.abandonWrite host writer
        exception).session.storage.files.content writer.filepath ≠
      none := by
  have content := holds.close opened host
  simp [Session.abandonWrite, content]

/-- An interrupted upload leaves nothing behind, if the file can go. -/
theorem clean_checkForSigintWRQ
    (session : Session)
    (gone : host.removeFails = false ∨
      writer.file = none ∧
        session.storage.files.lookup writer.filepath = none) :
    (session.checkForSigintWRQ host
        writer).session.storage.files.lookup writer.filepath = none := by
  unfold Session.checkForSigintWRQ Session.deleteAndTerminate
    Storage.deleteFile
  cases fails : host.removeFails with
  | false => simp
  | true =>
      rcases gone with removes | ⟨unopened, missing⟩
      · rw [fails] at removes
        cases removes
      · simp [Writer.close_of_unopened unopened, missing]

/-- If the file cannot be removed, it is left behind. -/
theorem failed_checkForSigintWRQ
    (session : Session) (holds : writer.Holds session.storage)
    (opened : writer.file ≠ none) (fails : host.removeFails = true) :
    (session.checkForSigintWRQ host writer).Failed ∧
      (session.checkForSigintWRQ host
          writer).session.storage.files.content writer.filepath ≠
        none := by
  have content := holds.close opened host
  unfold Session.checkForSigintWRQ Session.deleteAndTerminate
    Storage.deleteFile
  simp only [fails, if_true]
  exact ⟨Failed_raise _ _, by simp [content]⟩

theorem Uploads.checkForSigintWRQ (session : Session)
    (host : HostChoice) (writer : Writer) :
    Uploads path (session.checkForSigintWRQ host writer) := by
  unfold Session.checkForSigintWRQ Session.deleteAndTerminate
  dsimp only
  split
  · exact .ended _ _
  · exact .raise _ _

/-! ## Storing a block -/

/-- Whether the call of `WriteFile` will fail with the file open. -/
def Writer.Breaks (writer : Writer) (host : HostChoice)
    (block : Bytes) : Prop :=
  (writer.file ≠ none ∨ host.openFails = false) ∧
    ¬ writer.Accepts host block

theorem Uploads.awaitDataAgain
    (samePath : writer.filepath = path)
    (holds : writer.Holds session.storage) (opened : writer.file ≠ none)
    (host : HostChoice) (blockNumber retries : Nat) :
    Uploads path
      (session.awaitDataAgain host writer blockNumber retries) := by
  unfold Session.awaitDataAgain
  split_ifs
  · refine ⟨rfl, by simp [Control.opening], ?_⟩
    intro next waits
    cases waits
    exact
      ⟨samePath, ⟨holds.unopened, holds.opened⟩,
        fun unopened => absurd unopened opened⟩
  · exact .raise _ _

/-- After a block was stored the function returns or waits. -/
theorem not_failed_awaitDataAgain (session : Session)
    (host : HostChoice) (writer : Writer) (blockNumber : Nat) :
    ¬ (session.awaitDataAgain host writer blockNumber 0).Failed := by
  apply Handler.not_failed_of_writer
  rw [Session.awaitDataAgain, if_pos (by decide)]
  rfl

theorem not_failed_finishWrite (session : Session)
    (host : HostChoice) (writer : Writer) (blockNumber : Nat) :
    ¬ (session.finishWrite host writer blockNumber).Failed := by
  rintro ⟨outcome, isOver, other⟩
  cases isOver
  exact other rfl

/-- What becomes of an upload when it stores a block. -/
structure Stored (path : Path) (breaks : Prop) (handler : Handler) :
    Prop where
  uploads : Uploads path handler
  left : breaks → handler.Failed ∧
    handler.session.storage.files.content path ≠ none
  clean : ¬ breaks → Clean path handler

theorem Stored.storeBlock
    (samePath : writer.filepath = path)
    (holds : writer.Holds session.storage)
    (missing : writer.file = none →
      session.storage.files.lookup path = none)
    (host : HostChoice) (blockNumber : Nat) (data : Bytes) :
    Stored path (Writer.Breaks writer host data)
      (session.storeBlock host writer blockNumber data) := by
  subst samePath
  unfold Session.storeBlock
  rcases holds.writeFile host data with
    ⟨unopened, refused, exception, result⟩ |
      ⟨opens, status, next, stored, result, samePath, holdsNow, opened,
        accepts, _⟩
  · have absent := missing unopened
    simp only [result]
    refine ⟨.raise _ _, fun breaks => ?_, fun _ _ => ?_⟩
    · simp only [absent, reduceCtorEq, or_false] at refused
      simp [Writer.Breaks, unopened, refused] at breaks
    · rw [lookup_abandonWrite_of_unopened unopened]
      simpa using absent
  · have breaks : Writer.Breaks writer host data ↔ status ≠ .done := by
      rw [ne_eq, accepts, Writer.Breaks, and_iff_right_iff_imp]
      intro _
      refine opens.imp_right fun opening => ?_
      simpa using (not_or.mp opening).1
    simp only [result]
    rw [breaks, ← samePath]
    cases status with
    | undefined =>
        refine ⟨.ended _ _, fun _ => ⟨⟨_, rfl, by simp⟩, ?_⟩, by simp⟩
        obtain ⟨position, isOpen⟩ := Option.ne_none_iff_exists'.mp opened
        simp [(holdsNow.opened position isOpen).1]
    | threw exception =>
        refine ⟨.raise _ _, fun _ => ⟨Failed_raise _ _, ?_⟩, by simp⟩
        have holdsThen :
            next.Holds (session.withStorage stored).storage := holdsNow
        exact content_abandonWrite_of_opened holdsThen opened host _
    | done =>
        dsimp only
        split_ifs
        · exact
            ⟨.ended _ _, by simp,
              fun _ failed =>
                (not_failed_finishWrite _ host next _ failed).elim⟩
        · have holdsThen :
              next.Holds
                (session.withStorage stored).timeoutReset.storage :=
            holdsNow
          exact
            ⟨.awaitDataAgain rfl holdsThen opened host blockNumber 0,
              by simp,
              fun _ failed =>
                (not_failed_awaitDataAgain _ host next _ failed).elim⟩

/-! ## One step -/

/--
The step ends the upload while its file is open, and nobody removes the file.
-/
def LeavesFile (handler : Handler) (event : Event) : Prop :=
  ∃ writer, handler.control.writer = some writer ∧
    match handler.meaning event with
    | .waits => False
    | .breaks => writer.file ≠ none
    | .interrupts =>
        writer.file ≠ none ∧ event.host.removeFails = true
    | .block data => Writer.Breaks writer event.host data

/-- What becomes of an upload in one step. -/
theorem Uploads.stored
    (uploads : Uploads path handler) (idle : ¬ handler.Failed)
    (event : Event) :
    Stored path (LeavesFile handler event) (handler.step event) := by
  cases waits : handler.control.writer with
  | none =>
      rw [Handler.step_of_idle uploads.noReader waits]
      refine ⟨uploads, ?_, fun _ failed => absurd failed idle⟩
      rintro ⟨writer, found, _⟩
      rw [waits] at found
      cases found
  | some writer =>
      obtain ⟨samePath, holds, missing⟩ := uploads.writer writer waits
      have step := Handler.step_receiving waits event
      have unopened : handler.control.opening = true →
          writer.file = none :=
        fun first => uploads.opening first writer waits
      have leaves : LeavesFile handler event ↔
          match handler.meaning event with
          | .waits => False
          | .breaks => writer.file ≠ none
          | .interrupts =>
              writer.file ≠ none ∧ event.host.removeFails = true
          | .block data => Writer.Breaks writer event.host data := by
        simp [LeavesFile, waits]
      rw [leaves]
      generalize handler.meaning event = meaning at step ⊢
      generalize handler.step event = reached at step ⊢
      have holdsStill : ∀ {next : Session},
          handler.session.Talks next → writer.Holds next.storage := by
        intro next talks
        rw [talks.storage]
        exact holds
      have missingStill : ∀ {next : Session},
          handler.session.Talks next → writer.file = none →
            next.storage.files.lookup path = none := by
        intro next talks
        rw [talks.storage]
        exact missing
      cases step with
      | waits talks control same phase =>
          refine ⟨⟨?_, ?_, ?_⟩, False.elim, fun _ failed => ?_⟩
          · cases control <;> simp_all [Control.reader, Control.writer]
          · intro first next found
            cases same.symm.trans found
            exact unopened (phase.symm.trans first)
          · intro next found
            cases same.symm.trans found
            exact ⟨samePath, holdsStill talks, missingStill talks⟩
          · exact (Handler.not_failed_of_writer same failed).elim
      | refuses talks exception first =>
          refine ⟨.raise _ _, False.elim, fun _ _ => ?_⟩
          rw [lookup_abandonWrite_of_unopened (unopened first)]
          exact missingStill talks (unopened first)
      | raises talks exception =>
          refine
            ⟨.raise _ _, fun opened => ⟨Failed_raise _ _, ?_⟩,
              fun closed _ => ?_⟩
          · rw [← samePath]
            exact
              content_abandonWrite_of_opened (holdsStill talks) opened _ _
          · rw [not_not] at closed
            rw [lookup_abandonWrite_of_unopened closed]
            exact missingStill talks closed
      | interrupts talks =>
          rw [← samePath] at missingStill ⊢
          refine ⟨.checkForSigintWRQ _ _ writer, ?_, fun calm _ => ?_⟩
          · rintro ⟨opened, fails⟩
            exact
              failed_checkForSigintWRQ _ (holdsStill talks) opened fails
          · refine clean_checkForSigintWRQ _ ?_
            by_cases closed : writer.file = none
            · exact Or.inr ⟨closed, missingStill talks closed⟩
            · left
              simpa using fun fails => calm ⟨closed, fails⟩
      | stores talks blockNumber data =>
          exact
            .storeBlock samePath (holdsStill talks) (missingStill talks) _
              blockNumber data

/-! ## Runs -/

theorem Uploads.step
    (uploads : Uploads path handler) (event : Event) :
    Uploads path (handler.step event) := by
  by_cases failed : handler.Failed
  · obtain ⟨outcome, isOver, _⟩ := failed
    rw [Handler.step_of_idle (by rw [isOver]; rfl) (by rw [isOver]; rfl)]
    exact uploads
  · exact (uploads.stored failed event).uploads

theorem Uploads.clean_step
    (uploads : Uploads path handler) (clean : Clean path handler)
    (calm : ¬ LeavesFile handler event) :
    Clean path (handler.step event) := by
  by_cases failed : handler.Failed
  · obtain ⟨outcome, isOver, _⟩ := failed
    rw [Handler.step_of_idle (by rw [isOver]; rfl) (by rw [isOver]; rfl)]
    exact clean
  · exact (uploads.stored failed event).clean calm

/-- An upload is clean exactly when no step has left the file behind. -/
theorem Uploads.run_iff
    {start : Handler} (uploads : Uploads path start)
    (clean : Clean path start) (events : List Event) :
    Clean path (run Handler.step start events) ↔
      ∀ taken ∈ stepsOf Handler.step start events,
        ¬ LeavesFile taken.1 taken.2 := by
  constructor
  · intro cleanNow taken member leaves
    have here : Uploads path taken.1 :=
      stepsOf_invariant (Uploads path)
        (fun _ event here => here.step event) uploads member
    have idle : ¬ taken.1.Failed := by
      obtain ⟨writer, waits, _⟩ := leaves
      exact Handler.not_failed_of_writer waits
    obtain ⟨failed, content⟩ :=
      (here.stored idle taken.2).left leaves
    have isOver := failed
    obtain ⟨outcome, isOver, _⟩ := isOver
    obtain ⟨rest, reached⟩ := run_of_mem_stepsOf member
    rw [reached, Handler.run_of_ended isOver rest] at cleanNow
    exact
      FileSystem.lookup_ne_none_of_content content (cleanNow failed)
  · intro calm
    exact
      (run_invariant_of_steps
        (fun handler => Uploads path handler ∧ Clean path handler)
        ⟨uploads, clean⟩
        fun taken member here =>
          ⟨here.1.step taken.2,
            here.1.clean_step here.2 (calm taken member)⟩).2

/-! ## Requests -/

theorem Uploads.followOnWRQ (clientAddress : Address)
    (rootDirpath : Path) {files : FileSystem} (host : HostChoice)
    {introPacket : Bytes} {wrq : ReadWritePacket}
    (parsed : ReadWritePacket.ofRaw introPacket = .ok wrq)
    (absent :
      files.lookup (rootDirpath ++ slash :: wrq.filepath) = none) :
    let start :=
      (Session.make clientAddress rootDirpath files).followOnWRQ host
        introPacket
    let path := rootDirpath ++ slash :: wrq.filepath
    Uploads path start ∧ Clean path start := by
  let fresh := Session.make clientAddress rootDirpath files
  dsimp only
  rcases fresh.followOnWRQ_cases host introPacket with
    ⟨reached, exception, quiet, refused⟩ |
      ⟨wrq', reached, negotiated, parses, _, _, quiet, started⟩
  · rw [refused]
    refine ⟨.raise _ _, fun _ => ?_⟩
    simpa [quiet.storage, fresh, Session.make] using absent
  · rw [parsed, Except.ok.injEq] at parses
    subst parses
    have nothing : reached.storage.writtenBlocks = [] := by
      rw [quiet.storage]
      rfl
    have missing :
        reached.storage.files.lookup
          (rootDirpath ++ slash :: wrq.filepath) = none := by
      rw [quiet.storage]
      exact absent
    have abandoned : ∀ exception,
        (reached.abandonWrite host
            (Writer.make (fresh.filePath wrq.filepath)
              (formatOfMode wrq.mode))
            exception).session.storage.files = reached.storage.files :=
      fun exception =>
        lookup_abandonWrite_of_unopened rfl reached host exception
    rw [started]
    unfold Session.awaitFirstDataAgain
    split_ifs
    · split
      · refine ⟨.raise _ _, fun _ => ?_⟩
        rw [abandoned]
        exact missing
      · refine ⟨⟨rfl, ?_, ?_⟩, ?_⟩
        · intro _ writer waits
          cases waits
          rfl
        · intro writer waits
          cases waits
          exact
            ⟨rfl,
              ⟨fun _ => nothing, fun _ isOpen => nomatch isOpen⟩,
              fun _ => missing⟩
        · intro failed
          exact (Handler.not_failed_of_writer rfl failed).elim
    · refine ⟨.raise _ _, fun _ => ?_⟩
      rw [abandoned]
      exact missing

/--
Exactly when an upload to a new path which fails leaves nothing at its path:
no step has ended it with the file open, except by an interruption which could
remove the file.
-/
theorem failed_upload_leaves_nothing_iff (clientAddress : Address)
    (rootDirpath : Path) (files : FileSystem) (host : HostChoice)
    (introPacket : Bytes) (wrq : ReadWritePacket)
    (parsed : ReadWritePacket.ofRaw introPacket = .ok wrq)
    (absent :
      files.lookup (rootDirpath ++ slash :: wrq.filepath) = none)
    (events : List Event) :
    let start :=
      (Session.make clientAddress rootDirpath files).followOnWRQ host
        introPacket
    Clean (rootDirpath ++ slash :: wrq.filepath)
        (run Handler.step start events) ↔
      ∀ taken ∈ stepsOf Handler.step start events,
        ¬ LeavesFile taken.1 taken.2 := by
  obtain ⟨uploads, clean⟩ :=
    Uploads.followOnWRQ clientAddress rootDirpath host parsed absent
  exact uploads.run_iff clean events

/-- The handler which has answered a request for blocks of eight bytes. -/
def smallUpload : Handler :=
  (Session.make ⟨2, 1024⟩ (text "r") (smallDisk none)).followOnWRQ {}
    (requestOfEight .WRQ)

/-- The client sends a full block. -/
def smallBlock : Event where
  reception :=
    .datagram ⟨2, 1024⟩ (DataPacket.makeRaw ⟨1, text "12345678"⟩)

/-- An interruption after the first block removes what is stored. -/
theorem failed_upload_leaves_nothing_small :
    let interrupted : Event := { reception := .sigint }
    let stored := run Handler.step smallUpload [smallBlock]
    let reached := run Handler.step smallUpload [smallBlock, interrupted]
    stored.session.storage.files.content (text "r/f") =
        some (text "12345678") ∧
      reached.Failed ∧
        reached.session.storage.files.lookup (text "r/f") = none := by
  intro interrupted stored reached
  have clean : Clean (text "r/f") reached := by
    apply
      (failed_upload_leaves_nothing_iff ⟨2, 1024⟩ (text "r")
        (smallDisk none) {} (requestOfEight .WRQ)
        ⟨.WRQ, text "f", .OCTET, [optionOfEight]⟩ (by decide) (by decide)
        [smallBlock, interrupted]).mpr
    intro taken member
    rw [stepsOf_cons, stepsOf_cons, stepsOf_nil, List.mem_cons,
      List.mem_singleton] at member
    rcases member with rfl | rfl
    · rintro ⟨writer, waits, leaves⟩
      have unopened :
          smallUpload.control.writer =
            some (Writer.make (text "r/f") .OCTET) := by
        decide
      have block :
          smallUpload.meaning smallBlock = .block (text "12345678") := by
        decide
      cases unopened.symm.trans waits
      simp only [smallUpload] at block
      simp only [block] at leaves
      exact leaves.2 ⟨nofun, rfl⟩
    · rintro ⟨writer, waits, leaves⟩
      have signal :
          (smallUpload.step smallBlock).meaning interrupted =
            .interrupts := by
        decide
      simp only [smallUpload] at signal
      simp only [signal] at leaves
      exact absurd leaves.2 (by decide)
  have failed : reached.Failed :=
    ⟨.terminated, by decide, by decide⟩
  exact ⟨by decide, failed, clean failed⟩

/-- The client sends an ERROR packet. -/
def smallError : Event where
  reception :=
    .datagram ⟨2, 1024⟩
      (ErrorPacket.makeRaw ⟨.NOT_DEFINED, text "stop"⟩)

/-- After a block and an ERROR packet the file is still there. -/
theorem aborted_upload_leaves_file :
    let reached := run Handler.step smallUpload [smallBlock, smallError]
    (smallDisk none).lookup (text "r/f") = none ∧
      reached.Failed ∧
        reached.session.storage.files.content (text "r/f") =
          some (text "12345678") ∧
          ¬ Clean (text "r/f") reached := by
  have isOver :
      (run Handler.step smallUpload [smallBlock, smallError]).control =
        .ended
          (.threw
            (.recievedErrorPacket
              (text "Server responded with error: stop"))) := by
    decide
  have content :
      (run Handler.step smallUpload
        [smallBlock, smallError]).session.storage.files.content
          (text "r/f") =
        some (text "12345678") := by
    decide
  refine ⟨by decide, ⟨_, isOver, by simp⟩, content, fun clean => ?_⟩
  refine FileSystem.lookup_ne_none_of_content ?_ (clean ⟨_, isOver, by simp⟩)
  rw [content]
  simp

end IsaTftp.Server
