import IsaTftp.Server.Handler

/-!
# Paths outside the root

Both functions which follow on a request look first whether the file exists,
and only then whether its path lies under the root.  The ERROR packet of a
refusal says which of the two checks has refused it.
-/

namespace IsaTftp.Server

open IsaTftp.Wire
open IsaTftp.Files
open IsaTftp.Transfer
open IsaTftp.Library.Runs

/-! ## Agreement under the root -/

/-- What lies under the root is at the same place and is the same. -/
def KeepsUnder (rootDirpath : Path) (first second : FileSystem) : Prop :=
  ∀ path, first.Under path rootDirpath →
    second.canonical path = first.canonical path ∧
      second.lookup path = first.lookup path

/-- Two states of the file system agree on everything under the root. -/
structure AgreeUnder (rootDirpath : Path)
    (first second : FileSystem) : Prop where
  root :
    second.weaklyCanonical rootDirpath = first.weaklyCanonical rootDirpath
  onFirst : KeepsUnder rootDirpath first second
  onSecond : KeepsUnder rootDirpath second first

/-- What exists outside in one state does not pass the check of the other. -/
theorem AgreeUnder.outside
    {rootDirpath path : Path} {first second : FileSystem}
    (agree : AgreeUnder rootDirpath first second)
    (outside : ¬ first.Inside path rootDirpath)
    (found : second.lookup path ≠ none) :
    ¬ second.Under path rootDirpath := by
  intro under
  apply outside
  obtain ⟨samePlace, sameNode⟩ := agree.onSecond path under
  have here : first.Under path rootDirpath := by
    unfold FileSystem.Under at under ⊢
    rwa [samePlace, ← agree.root]
  constructor
  · rw [FileSystem.lies_iff_under (by rwa [sameNode])]
    exact here
  · exact here

/-! ## Refusals -/

/-- The exception which refuses a request for a path outside the root. -/
def refusal (host : HostChoice) (request : ReadWritePacket)
    (found : Bool) : Exception :=
  if host.statFails then .filesystemError
  else
    match request.opcode, found with
    | .RRQ, false =>
        .tftp
          (.fileNotFoundError
            (text "File does not exist: " ++ request.filepath))
    | .RRQ, true => .tftp .accessViolationError
    | _, true =>
        .tftp
          (.fileAlreadyExistsError
            (text "File already exists: " ++ request.filepath))
    | _, false => .tftp .accessViolationError

/-- Whether something is found at the path of a request. -/
def Session.finds (session : Session) (request : ReadWritePacket) :
    Bool :=
  (session.storage.files.lookup
    (session.filePath request.filepath)).isSome

/-- Whether the path of a request passes the directory check. -/
def Session.passes (session : Session) (request : ReadWritePacket) :
    Bool :=
  session.storage.files.isFilePathUnderDirectory
    (session.filePath request.filepath) session.rootDirpath

/-- Whether the first check lets a request through to the second one. -/
def Session.Proceeds (session : Session) (request : ReadWritePacket) :
    Prop :=
  session.finds request = true ↔ request.opcode = .RRQ

section Refused

variable {session : Session} {host : HostChoice} {introPacket : Bytes}
  {request : ReadWritePacket}

theorem followOnRRQ_refused
    (parsed : ReadWritePacket.ofRaw introPacket = .ok request)
    (reads : request.opcode = .RRQ)
    (refused : session.finds request = true →
      session.passes request = false) :
    session.followOnRRQ host introPacket =
      session.raise (refusal host request (session.finds request)) := by
  simp only [Session.followOnRRQ, parsed, Storage.fileExists, refusal,
    reads]
  unfold Session.finds Session.passes at *
  cases host.statFails with
  | true => rfl
  | false =>
      cases found : (session.storage.files.lookup
        (session.filePath request.filepath)).isSome with
      | true => simp [refused found]
      | false => rfl

theorem followOnWRQ_refused
    (parsed : ReadWritePacket.ofRaw introPacket = .ok request)
    (writes : request.opcode = .WRQ)
    (refused : session.finds request = false →
      session.passes request = false) :
    session.followOnWRQ host introPacket =
      session.raise (refusal host request (session.finds request)) := by
  simp only [Session.followOnWRQ, parsed, Storage.fileExists, refusal,
    writes]
  unfold Session.finds Session.passes at *
  cases host.statFails with
  | true => rfl
  | false =>
      cases found : (session.storage.files.lookup
        (session.filePath request.filepath)).isSome with
      | true => rfl
      | false => simp [refused found]

/-- A request which is held up by one of the checks is refused at once. -/
theorem followOnIntroPacket_refused
    (parsed : ReadWritePacket.ofRaw introPacket = .ok request)
    (refused : session.Proceeds request → session.passes request = false) :
    session.followOnIntroPacket host introPacket =
      session.raise (refusal host request (session.finds request)) := by
  unfold Session.Proceeds at refused
  obtain ⟨known, kinds⟩ := ReadWritePacket.getOpcode_ofRaw parsed
  rcases kinds with reads | writes
  · rw [reads] at known
    rw [Session.followOnIntroPacket, known]
    exact followOnRRQ_refused parsed reads fun found =>
      refused (iff_of_true found reads)
  · rw [writes] at known
    rw [Session.followOnIntroPacket, known]
    exact followOnWRQ_refused parsed writes fun missing =>
      refused (iff_of_false (by simp [missing]) (by simp [writes]))

/-- The datagrams of a refused request, which later events do not change. -/
theorem sent_of_refused
    (parsed : ReadWritePacket.ofRaw introPacket = .ok request)
    (refused : session.Proceeds request → session.passes request = false)
    (events : List Event) :
    (run Handler.step (session.followOnIntroPacket host introPacket)
        events).sent =
      (reportException session.udp session.clientAddress
        (refusal host request (session.finds request))).sent := by
  have isOver :
      run Handler.step (session.raise (refusal host request _)) events =
        session.raise (refusal host request (session.finds request)) :=
    run_of_halted (fun _ => rfl) events
  rw [followOnIntroPacket_refused parsed refused, isOver]
  rfl

end Refused

/-- The name `r`. -/
def rootName : FileName :=
  ⟨text "r", by decide, by decide, by decide⟩

end IsaTftp.Server
