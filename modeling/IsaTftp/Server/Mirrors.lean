import IsaTftp.Server.Transparency

/-!
# Two disks

A handler which receives a file looks at nothing on the disk but its own path.
Two handlers whose disks agree on this path therefore send the same, wherever
the path leads on each of the disks.
-/

namespace IsaTftp.Server

open IsaTftp.Wire
open IsaTftp.Files
open IsaTftp.Transfer
open IsaTftp.Library.Runs

/-! ## Writing to two disks -/

/-- At this path the same is found on both disks. -/
def SameAt (path : Path) (here there : Storage) : Prop :=
  there.files.lookup path = here.files.lookup path

namespace SameAt

variable {path : Path} {here there : Storage}

theorem access (same : SameAt path here there) (noted : Access) :
    SameAt path (here.access noted) (there.access noted) :=
  same

theorem emptied (path : Path) (here there : Storage) :
    SameAt path (here.emptied path) (there.emptied path) := by
  show FileSystem.lookup (FileSystem.setFile _ _ _) path =
    FileSystem.lookup (FileSystem.setFile _ _ _) path
  rw [FileSystem.lookup_setFile_canonical,
    FileSystem.lookup_setFile_canonical]

theorem writeAt (same : SameAt path here there) (position : Nat)
    (bytes : Bytes) :
    SameAt path (here.writeAt path position bytes)
      (there.writeAt path position bytes) := by
  unfold SameAt at same ⊢
  unfold Storage.writeAt
  rw [same]
  split
  · simp only [FileSystem.lookup_setFile_canonical]
  · exact same

theorem close {writer : Writer}
    (same : SameAt writer.filepath here there) (host : HostChoice) :
    SameAt writer.filepath (writer.close here host)
      (writer.close there host) := by
  unfold Writer.close
  split
  · exact same
  · split_ifs
    · exact same
    · exact same.writeAt _ _

/-- A call of `WriteFile` has the same result on both disks. -/
structure Alike (path : Path)
    (result other : WriteStatus × Writer × Storage) : Prop where
  status : other.1 = result.1
  next : other.2.1 = result.2.1
  filepath : result.2.1.filepath = path
  same : SameAt path result.2.2 other.2.2

theorem writeOpened {writer : Writer}
    (same : SameAt writer.filepath here there) (host : HostChoice)
    (position : Nat) (block : Bytes) :
    Alike writer.filepath (writer.writeOpened here host position block)
      (writer.writeOpened there host position block) := by
  unfold Writer.writeOpened
  split
  · exact ⟨rfl, rfl, rfl, same⟩
  · split
    · exact ⟨rfl, rfl, rfl, same.writeAt _ _⟩
    · exact ⟨rfl, rfl, rfl, same.writeAt _ _⟩

theorem writeFile {writer : Writer}
    (same : SameAt writer.filepath here there) (host : HostChoice)
    (block : Bytes) :
    Alike writer.filepath (writer.writeFile here host block)
      (writer.writeFile there host block) := by
  cases isOpen : writer.file with
  | some position =>
      rw [Writer.writeFile_of_open isOpen, Writer.writeFile_of_open isOpen]
      exact same.writeOpened host position block
  | none =>
      by_cases refused : host.openFails ∨
          here.files.lookup writer.filepath = some .directory
      · have refusedThere : host.openFails ∨
            there.files.lookup writer.filepath = some .directory := by
          rwa [same]
        rw [Writer.writeFile_of_refused isOpen refused,
          Writer.writeFile_of_refused isOpen refusedThere]
        exact ⟨rfl, rfl, rfl, same.access _⟩
      · have opensThere : ¬ (host.openFails ∨
            there.files.lookup writer.filepath = some .directory) := by
          rwa [same]
        rw [Writer.writeFile_of_opens isOpen refused,
          Writer.writeFile_of_opens isOpen opensThere]
        have opened :
            SameAt { writer with file := some 0 }.filepath
              (here.emptied writer.filepath)
              (there.emptied writer.filepath) :=
          emptied writer.filepath here there
        exact opened.writeOpened host 0 block

end SameAt

/-! ## Two handlers -/

/-- Two handlers which differ at most in the disk they write to. -/
inductive Mirrors : Handler → Handler → Prop where
  | ended (session : Session) (here there : Storage) (outcome : Outcome) :
      Mirrors ⟨session.withStorage here, .ended outcome⟩
        ⟨session.withStorage there, .ended outcome⟩
  | awaitFirstData (session : Session) {here there : Storage}
      (options negotiated : List TftpOption) {writer : Writer}
      (same : SameAt writer.filepath here there) (retries foreign : Nat) :
      Mirrors
        ⟨session.withStorage here,
          .awaitFirstData options negotiated writer retries foreign⟩
        ⟨session.withStorage there,
          .awaitFirstData options negotiated writer retries foreign⟩
  | awaitData (session : Session) {here there : Storage} {writer : Writer}
      (same : SameAt writer.filepath here there)
      (blockNumber retries foreign : Nat) :
      Mirrors
        ⟨session.withStorage here,
          .awaitData writer blockNumber retries foreign⟩
        ⟨session.withStorage there,
          .awaitData writer blockNumber retries foreign⟩

namespace Mirrors

variable {handler other : Handler} {here there : Storage} {writer : Writer}

theorem sent (mirrors : Mirrors handler other) :
    handler.sent = other.sent := by
  cases mirrors <;> rfl

theorem raise (session : Session) (here there : Storage)
    (exception : Exception) :
    Mirrors ((session.withStorage here).raise exception)
      ((session.withStorage there).raise exception) :=
  .ended (session.raise exception).session here there _

theorem abandonWrite (session : Session) (here there : Storage)
    (host : HostChoice) (writer : Writer) (exception : Exception) :
    Mirrors ((session.withStorage here).abandonWrite host writer exception)
      ((session.withStorage there).abandonWrite host writer exception) :=
  raise session _ _ exception

theorem checkForSigintWRQ (session : Session) (here there : Storage)
    (host : HostChoice) (writer : Writer) :
    Mirrors ((session.withStorage here).checkForSigintWRQ host writer)
      ((session.withStorage there).checkForSigintWRQ host writer) := by
  unfold Session.checkForSigintWRQ Session.deleteAndTerminate
    Storage.deleteFile
  cases host.removeFails with
  | true => exact raise (session.send Session.interrupted.makeRaw) _ _ _
  | false => exact ended (session.send Session.interrupted.makeRaw) _ _ _

theorem awaitDataAgain (session : Session)
    (same : SameAt writer.filepath here there) (host : HostChoice)
    (blockNumber retries : Nat) :
    Mirrors
      ((session.withStorage here).awaitDataAgain host writer blockNumber
        retries)
      ((session.withStorage there).awaitDataAgain host writer blockNumber
        retries) := by
  unfold Session.awaitDataAgain
  split_ifs
  · exact awaitData (session.send _) same blockNumber retries 0
  · exact abandonWrite session here there host writer _

theorem storeBlock (session : Session)
    (same : SameAt writer.filepath here there) (host : HostChoice)
    (blockNumber : Nat) (data : Bytes) :
    Mirrors
      ((session.withStorage here).storeBlock host writer blockNumber data)
      ((session.withStorage there).storeBlock host writer blockNumber
        data) := by
  have alike := same.writeFile host data
  unfold Session.storeBlock
  simp only [Session.withStorage_storage]
  cases result : writer.writeFile here host data with
  | mk status rest =>
      obtain ⟨next, stored⟩ := rest
      cases mirrored : writer.writeFile there host data with
      | mk statusThere restThere =>
          obtain ⟨nextThere, storedThere⟩ := restThere
          rw [result, mirrored] at alike
          obtain ⟨sameStatus, sameNext, filepath, sameNow⟩ := alike
          dsimp only at sameStatus sameNext filepath sameNow
          subst sameStatus
          subst sameNext
          rw [← filepath] at sameNow
          cases statusThere with
          | undefined => exact ended session stored storedThere _
          | threw exception =>
              exact
                abandonWrite session stored storedThere host nextThere _
          | done =>
              simp only [Session.timeoutReset_blksize,
                Session.withStorage_blksize]
              split_ifs
              · exact ended (session.timeoutReset.send _) _ _ _
              · exact
                  awaitDataAgain session.timeoutReset sameNow host
                    blockNumber 0

theorem awaitFirstDataAgain (session : Session)
    (same : SameAt writer.filepath here there) (host : HostChoice)
    (options negotiated : List TftpOption) (retries : Nat) :
    Mirrors
      ((session.withStorage here).awaitFirstDataAgain host options
        negotiated writer retries)
      ((session.withStorage there).awaitFirstDataAgain host options
        negotiated writer retries) := by
  unfold Session.awaitFirstDataAgain
  split_ifs
  · split
    · exact abandonWrite session here there host writer _
    · exact
        awaitFirstData (session.send _) options negotiated same retries 0
  · exact abandonWrite session here there host writer _

/-! ## Steps -/

/-- A reception does not look at the disk. -/
theorem recieves (session : Session) (storage : Storage) (foreign : Nat)
    (reception : Reception) :
    (session.withStorage storage).recievePacketFromClient foreign
        reception =
      ((session.recievePacketFromClient foreign reception).1.withStorage
          storage,
        (session.recievePacketFromClient foreign reception).2) :=
  rfl

theorem stepAwaitData (session : Session)
    (same : SameAt writer.filepath here there)
    (blockNumber retries foreign : Nat) (event : Event) :
    Mirrors
      ((session.withStorage here).stepAwaitData writer blockNumber retries
        foreign event)
      ((session.withStorage there).stepAwaitData writer blockNumber retries
        foreign event) := by
  unfold Session.stepAwaitData
  rw [recieves, recieves]
  cases session.recievePacketFromClient foreign event.reception with
  | mk next delivery =>
      cases delivery with
      | pending foreign => exact awaitData next same _ _ foreign
      | threw exception =>
          cases exception with
          | udpTimeout =>
              exact awaitDataAgain next.increaseTimeout same _ _ _
          | udpSigint => exact checkForSigintWRQ next here there _ writer
          | _ => exact abandonWrite next here there _ writer _
      | delivered packet =>
          dsimp only [Session.withStorage]
          split
          · exact storeBlock next same _ _ _
          · exact awaitDataAgain next.increaseTimeout same _ _ _
          · exact awaitDataAgain next same _ _ _
          · exact abandonWrite next here there _ writer _

theorem stepAwaitFirstData (session : Session)
    (same : SameAt writer.filepath here there)
    (options negotiated : List TftpOption) (retries foreign : Nat)
    (event : Event) :
    Mirrors
      ((session.withStorage here).stepAwaitFirstData options negotiated
        writer retries foreign event)
      ((session.withStorage there).stepAwaitFirstData options negotiated
        writer retries foreign event) := by
  unfold Session.stepAwaitFirstData
  rw [recieves, recieves]
  cases session.recievePacketFromClient foreign event.reception with
  | mk next delivery =>
      cases delivery with
      | pending foreign =>
          exact awaitFirstData next options negotiated same _ foreign
      | threw exception =>
          cases exception with
          | udpTimeout =>
              exact awaitFirstDataAgain next.increaseTimeout same _ _ _ _
          | udpSigint => exact checkForSigintWRQ next here there _ writer
          | _ => exact abandonWrite next here there _ writer _
      | delivered packet =>
          dsimp only [Session.withStorage]
          split
          · exact storeBlock next same _ _ _
          · exact awaitFirstDataAgain next.increaseTimeout same _ _ _ _
          · exact awaitFirstDataAgain next same _ _ _ _
          · exact abandonWrite next here there _ writer _

/-- One event. -/
theorem step (mirrors : Mirrors handler other) (event : Event) :
    Mirrors (handler.step event) (other.step event) := by
  cases mirrors with
  | ended session here there outcome => exact ended session here there _
  | awaitFirstData session options negotiated same retries foreign =>
      exact stepAwaitFirstData session same options negotiated _ _ event
  | awaitData session same blockNumber retries foreign =>
      exact stepAwaitData session same blockNumber _ _ event

/-- All events. -/
theorem run (mirrors : Mirrors handler other) (events : List Event) :
    Mirrors (run Handler.step handler events)
      (run Handler.step other events) :=
  run_related (fun here event => here.step event) mirrors events

end Mirrors

/-! ## The start -/

/-- The negotiation does not look at the disk either. -/
theorem negotiateOption_withStorage (session : Session)
    (storage : Storage) (option : TftpOption) :
    (session.withStorage storage).negotiateOption option =
      (session.negotiateOption option).map
        fun next => next.withStorage storage := by
  unfold Session.negotiateOption
  cases option.name with
  | UNSUPPORTED => rfl
  | _ => cases stoi option.value <;> rfl

theorem negotiateOptions_withStorage (session : Session)
    (storage : Storage) (options : List TftpOption) :
    (session.withStorage storage).negotiateOptions options =
      ((session.negotiateOptions options).1.withStorage storage,
        (session.negotiateOptions options).2) := by
  induction options generalizing session with
  | nil => rfl
  | cons option options induction =>
      rw [Session.negotiateOptions, Session.negotiateOptions,
        negotiateOption_withStorage]
      cases session.negotiateOption option with
      | error exception => rfl
      | ok next =>
          simp only [Except.map, induction]
          cases next.negotiateOptions options with
          | mk reached result => cases result <;> rfl

/-- Two write requests which are both answered start alike. -/
theorem Mirrors.openWRQ (session : Session) {here there : Storage}
    {request : ReadWritePacket} (host : HostChoice)
    (same : SameAt (session.filePath request.filepath) here there)
    (welcome : ¬ (session.withStorage here).WriteSilenced request)
    (welcomeThere : ¬ (session.withStorage there).WriteSilenced request) :
    Mirrors ((session.withStorage here).openWRQ host request)
      ((session.withStorage there).openWRQ host request) := by
  rcases openWRQ_answers (session.withStorage here) host request with
    ⟨silenced, _⟩ | ⟨_, reached, raw, negotiated, answers, waits⟩
  · exact absurd silenced welcome
  rcases openWRQ_answers (session.withStorage there) host request with
    ⟨silenced, _⟩ |
      ⟨_, reachedThere, rawThere, negotiatedThere, answersThere,
        waitsThere⟩
  · exact absurd silenced welcomeThere
  rw [negotiateOptions_withStorage, Prod.mk.injEq] at negotiated
  rw [negotiateOptions_withStorage, Prod.mk.injEq] at negotiatedThere
  rw [answers, Except.ok.injEq] at answersThere
  rw [waits, waitsThere, ← negotiated.1, ← negotiatedThere.1,
    ← answersThere]
  exact
    awaitFirstData ((session.negotiateOptions request.options).1.send raw)
      request.options (supported request.options)
      same 0 0

end IsaTftp.Server
