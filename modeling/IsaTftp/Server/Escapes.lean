import IsaTftp.Server.Failures
import IsaTftp.Server.Waits

/-!
# A way out of the root

The check of a write request looks at the weakly canonical form of a path,
which stops at a link whose target does not exist.  Opening the path for
writing follows the link and creates the target, wherever it lies.
-/

namespace IsaTftp.Server

open IsaTftp.Wire
open IsaTftp.Files
open IsaTftp.Transfer
open IsaTftp.Library.Runs

/-- Nothing is found at a path which passes the check and leads outside. -/
structure Escapes (files : FileSystem) (path rootDirpath : Path) :
    Prop where
  missing : files.lookup path = none
  passes : files.isFilePathUnderDirectory path rootDirpath = true
  outside : ¬ files.Under path rootDirpath

/-! ## A first block opens the file -/

theorem opens_storeBlock
    {writer : Writer} (unopened : writer.file = none)
    (session : Session) (host : HostChoice) (blockNumber : Nat)
    (data : Bytes) :
    Access.openWrite writer.filepath ∈
      (session.storeBlock host writer blockNumber
        data).session.storage.accesses := by
  have noted := Writer.opens_writeFile unopened session.storage host data
  unfold Session.storeBlock
  cases written : writer.writeFile session.storage host data with
  | mk status rest =>
      obtain ⟨next, storage⟩ := rest
      rw [written] at noted
      have closed := (next.touches_close storage host).mem noted
      cases status with
      | undefined => exact noted
      | threw exception => exact closed
      | done =>
          dsimp only
          unfold Session.awaitDataAgain
          split_ifs
          · exact closed
          · exact noted
          · exact closed

/-- DATA 1 without a byte, from this client. -/
def firstData (client : Address) : Event :=
  { reception := .datagram client (DataPacket.makeRaw ⟨1, []⟩) }

/-- A handler which waits for its first block opens its file for it. -/
theorem opens_firstData
    {writer : Writer} (unopened : writer.file = none)
    (session : Session) (options negotiated : List TftpOption) :
    Access.openWrite writer.filepath ∈
      (Handler.step ⟨session, .awaitFirstData options negotiated writer 0 0⟩
        (firstData session.clientAddress)).session.storage.accesses := by
  have accepted :
      classifyData (text "Client") 1 2 session.blksize
          ((DataPacket.makeRaw ⟨1, []⟩).take UdpClient.maxPacketSize) =
        .ok (.accepted []) :=
    classifyData_makeRaw (text "Client") 2 ⟨1, []⟩ (Nat.zero_le _)
  show Access.openWrite writer.filepath ∈
    (session.stepAwaitFirstData options negotiated writer 0 0
      (firstData session.clientAddress)).session.storage.accesses
  unfold Session.stepAwaitFirstData
  rw [Session.recievePacketFromClient_first rfl]
  simp only [accepted]
  exact opens_storeBlock unopened _ _ _ _

/-! ## Root confinement -/

section Confinement

variable (clientAddress : Address) (rootDirpath : Path) (files : FileSystem)
variable (host : HostChoice) {introPacket : Bytes}

/-- A handler which was refused has touched nothing. -/
theorem Confined.refused (allowed : Path → Prop) {reached : Session}
    (quiet :
      (Session.make clientAddress rootDirpath files).Negotiated reached)
    (exception : Exception) :
    Confined allowed (reached.raise exception) := by
  apply Confined.raise
  unfold Session.Keeps
  rw [quiet.storage]
  intro access member
  cases member

/-- What a write request touches, if it is no way out. -/
theorem Confined.followOnWRQ_of_inside
    (inside : ∀ request, ReadWritePacket.ofRaw introPacket = .ok request →
      Escapes files (rootDirpath ++ slash :: request.filepath)
          rootDirpath →
        (Session.make clientAddress rootDirpath files).WriteSilenced
          request) :
    Confined (fun path => files.Under path rootDirpath)
      ((Session.make clientAddress rootDirpath files).followOnWRQ host
        introPacket) := by
  let fresh := Session.make clientAddress rootDirpath files
  rcases fresh.followOnWRQ_checks host introPacket with
    ⟨exception, refused⟩ | ⟨request, parsed, _, _, opens⟩
  · rw [refused]
    exact .refused clientAddress rootDirpath files _ (.refl fresh) exception
  · rcases openWRQ_answers fresh host request with
      ⟨_, reached, exception, quiet, _, refused⟩ | ⟨welcome, _⟩
    · rw [opens, refused]
      exact .refused clientAddress rootDirpath files _ quiet exception
    · apply Confined.followOnWRQ
      intro other same missing passes
      rw [parsed, Except.ok.injEq] at same
      subst same
      by_contra outside
      exact welcome (inside request parsed ⟨missing, passes, outside⟩)

theorem Confined.followOnIntroPacket
    (inside : ∀ request, ReadWritePacket.ofRaw introPacket = .ok request →
      request.opcode = .WRQ →
        Escapes files (rootDirpath ++ slash :: request.filepath)
            rootDirpath →
          (Session.make clientAddress rootDirpath files).WriteSilenced
            request) :
    Confined (fun path => files.Under path rootDirpath)
      ((Session.make clientAddress rootDirpath files).followOnIntroPacket
        host introPacket) := by
  unfold Session.followOnIntroPacket
  cases known : getOpcodeFromRaw introPacket with
  | error exception =>
      apply Confined.ended
      intro access member
      cases member
  | ok opcode =>
      cases opcode with
      | RRQ =>
          exact
            .followOnRRQ clientAddress rootDirpath files host
              fun _ _ under => under
      | WRQ =>
          apply Confined.followOnWRQ_of_inside
          intro request parsed
          apply inside request parsed
          have kind := (ReadWritePacket.getOpcode_ofRaw parsed).1
          rw [known] at kind
          exact (Except.ok.inj kind).symm
      | _ =>
          exact
            .refused clientAddress rootDirpath files _
              (.refl (Session.make clientAddress rootDirpath files)) _

/--
Exactly which requests stay under the root, whatever the handler hears and
whatever others do to the files meanwhile: every path which is opened,
created, written or deleted leads to the root or below it, by the links which
were there when the request came, unless a write request gets through which
is a way out.
-/
theorem accesses_under_root_iff (introPacket : Bytes) :
    let session := Session.make clientAddress rootDirpath files
    (∀ host changes,
        ∀ access ∈
          (run Handler.stepAmid
            (session.followOnIntroPacket host introPacket)
            changes).session.storage.accesses,
        files.Under access.path rootDirpath) ↔
      ∀ request, ReadWritePacket.ofRaw introPacket = .ok request →
        request.opcode = .WRQ →
          Escapes files (session.filePath request.filepath) rootDirpath →
            session.WriteSilenced request := by
  intro session
  constructor
  · intro confined request parsed writes escapes
    rcases openWRQ_answers session {} request with
      ⟨silenced, _⟩ | ⟨_, reached, raw, negotiated, _, waits⟩
    · exact silenced
    · exfalso
      have known := (ReadWritePacket.getOpcode_ofRaw parsed).1
      rw [writes] at known
      have start :
          session.followOnIntroPacket {} introPacket =
            session.openWRQ {} request := by
        have missing : session.storage.files.lookup
            (session.filePath request.filepath) = none := escapes.missing
        have passes : session.storage.files.isFilePathUnderDirectory
            (session.filePath request.filepath) session.rootDirpath =
              true :=
          escapes.passes
        simp [Session.followOnIntroPacket, known, Session.followOnWRQ,
          parsed, Storage.fileExists, missing, passes]
      have opened :=
        opens_firstData
          (show (Writer.make (session.filePath request.filepath)
            (formatOfMode request.mode)).file = none from rfl)
          ((reached.send raw).withStorage
            ⟨files, reached.storage.accesses⟩)
          request.options (supported request.options)
      apply escapes.outside
      apply confined {} [(files, firstData reached.clientAddress)]
        (.openWrite (session.filePath request.filepath))
      rw [start, waits]
      exact opened
  · intro inside host changes
    have start :=
      Confined.followOnIntroPacket clientAddress rootDirpath files host
        inside
    exact (start.run changes).accesses

end Confinement

/-! ## A link which leads nowhere -/

/-- The name `l`. -/
def linkName : FileName :=
  ⟨text "l", by decide, by decide, by decide⟩

/--
A disk with the directory `r` and in it the link `l` to `../f`, where nothing
is.
-/
def linkDisk : FileSystem where
  node place :=
    if place = [rootName] then some .directory
    else if place = [rootName, linkName] then some (.link [smallName])
    else none
  entry path := if path = text "r" then [rootName] else [rootName, linkName]
  available _ := none
  resolved place target further linked := by
    split_ifs at linked
    · cases linked
    · cases linked
      rw [if_neg (by decide), if_neg (by decide)]
      exact nofun

/-- A write request for `l` creates the file beside the root. -/
theorem link_leads_out :
    let session := Session.make ⟨2, 1024⟩ (text "r") linkDisk
    let request := [0, 2] ++ text "l" ++ [0] ++ text "octet" ++ [0]
    let reached :=
      run Handler.stepAmid (session.followOnIntroPacket {} request)
        [(linkDisk,
          { reception :=
              .datagram ⟨2, 1024⟩ ([0, 3, 0, 1] ++ text "hello") })]
    .openWrite (text "r/l") ∈ reached.session.storage.accesses ∧
      ¬ linkDisk.Under (text "r/l") (text "r") ∧
        linkDisk.node [smallName] = none ∧
          reached.session.storage.files.node [smallName] =
            some (.file (text "hello")) := by
  decide

end IsaTftp.Server
