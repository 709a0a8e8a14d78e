import IsaTftp.Server.Threads

/-!
# The server and its threads

`TftpServer::run` starts a thread for every request.  The threads take turns
in any order; between two receives a handler runs undisturbed.  The existence
check of a write request and the `open` which truncates its file lie in
different turns.
-/

namespace IsaTftp.Server

open IsaTftp.Wire
open IsaTftp.Files
open IsaTftp.Transfer
open IsaTftp.Library.Runs

structure TftpServer where
  rootDirpath : Path
  files : FileSystem
  handlers : List Handler

/-- What happens next: a request comes, or a handler goes on. -/
inductive Turn where
  | request (client : Address) (host : HostChoice) (introPacket : Bytes)
  | handler (index : Nat) (event : Event)

namespace TftpServer

/-- One handler has ended the process. -/
def stopped (server : TftpServer) : Bool :=
  server.handlers.any Handler.stopsProcess

/-- One turn of the process. -/
def step (server : TftpServer) (turn : Turn) : TftpServer :=
  if server.stopped then server
  else
    match turn with
    | .request client host introPacket =>
        let handler :=
          (Session.make client server.rootDirpath
            server.files).followOnIntroPacket host introPacket
        { server with
          files := handler.session.storage.files
          handlers := server.handlers ++ [handler] }
    | .handler index event =>
        match server.handlers[index]? with
        | none => server
        | some handler =>
            let next := (handler.withFiles server.files).step event
            { server with
              files := next.session.storage.files
              handlers := server.handlers.set index next }

/-- The turn makes a handler open, and truncate, the file at a path. -/
def OpensAt (server : TftpServer) (turn : Turn) (path : Path) : Prop :=
  server.stopped = false ∧
    ∃ index event handler, turn = .handler index event ∧
      server.handlers[index]? = some handler ∧
        handler.Opens event path

/-- Some handler has written through a path which leads to the same place. -/
def Begun (server : TftpServer) (path : Path) : Prop :=
  ∃ handler ∈ server.handlers, ∃ other,
    handler.session.storage.Wrote other ∧
      server.files.canonical other = server.files.canonical path

/-- A file is opened only where no handler has begun one. -/
def OpensFirst (server : TftpServer) (turn : Turn) : Prop :=
  ∀ path, server.OpensAt turn path → ¬ server.Begun path

/-- A file is opened only where nothing exists. -/
def OpensMissing (server : TftpServer) (turn : Turn) : Prop :=
  ∀ path, server.OpensAt turn path → server.files.lookup path = none

/-- A handler which has its file open opens nothing. -/
theorem opensFirst_of_isOpen
    {server : TftpServer} {index : Nat}
    (isOpen :
      (server.handlers[index]?.bind fun handler =>
        handler.control.writer).all fun writer => writer.file.isSome)
    (event : Event) :
    server.OpensFirst (.handler index event) := by
  rintro path ⟨_, _, _, handler, same, found, ⟨waiting, _⟩⟩
  cases same
  obtain ⟨writer, waits, unopened, _⟩ := waiting
  rw [found] at isOpen
  simp [waits, unopened] at isOpen

/-! ## The invariant -/

/-- What holds as long as no handler opens what another one has begun. -/
structure Sound (server : TftpServer) : Prop where
  one : ∀ handler ∈ server.handlers,
    ∃ path, Confined (fun other => other = path) handler
  stored : ∀ handler ∈ server.handlers, ∀ path,
    handler.session.storage.Wrote path →
      server.files.content path =
        some handler.session.storage.writtenBlocks.flatten
  atEnd : ∀ handler ∈ server.handlers, ∀ writer,
    handler.control.writer = some writer →
      AtEnd writer handler.session.storage
  alone : ∀ (index other : Nat) (handler rival : Handler),
    index ≠ other →
    server.handlers[index]? = some handler →
      server.handlers[other]? = some rival →
        ∀ path place, handler.session.storage.Wrote path →
          rival.session.storage.Wrote place →
            server.files.canonical path ≠ server.files.canonical place
  fresh : ∀ handler ∈ server.handlers, ∀ writer,
    handler.control.writer = some writer → writer.file = none →
      server.files.lookup writer.filepath = none ∨
        server.Begun writer.filepath

/-! ## Requests -/

/-- What a request leaves behind in its first turn. -/
structure Started (files : FileSystem) (handler : Handler) : Prop where
  one : ∃ path, Confined (fun other => other = path) handler
  same : handler.session.storage.files = files
  blocks : handler.session.storage.writtenBlocks = []
  writer : ∀ writer, handler.control.writer = some writer →
    writer.file = none ∧ files.lookup writer.filepath = none

/-- The path which a request names, if it can be read. -/
theorem exists_path (rootDirpath : Path) (introPacket : Bytes) :
    ∃ path, ∀ packet : ReadWritePacket,
      ReadWritePacket.ofRaw introPacket = .ok packet →
        rootDirpath ++ slash :: packet.filepath = path := by
  cases ReadWritePacket.ofRaw introPacket with
  | error exception => exact ⟨[], fun _ impossible => nomatch impossible⟩
  | ok packet =>
      refine ⟨rootDirpath ++ slash :: packet.filepath, ?_⟩
      intro other same
      cases same
      rfl

theorem Started.followOnRRQ (client : Address) (rootDirpath : Path)
    (files : FileSystem) (host : HostChoice) (introPacket : Bytes) :
    Started files
      ((Session.make client rootDirpath files).followOnRRQ host
        introPacket) := by
  obtain ⟨path, names⟩ := exists_path rootDirpath introPacket
  obtain ⟨serves, same, blocks⟩ :=
    Serves.followOnRRQ client rootDirpath files host introPacket
  refine ⟨⟨path, ?_⟩, same, blocks, by simp [serves.noWriter]⟩
  exact
    .followOnRRQ client rootDirpath files host
      fun packet parsed _ => names packet parsed

/-- The loop for the first block begins without touching the files. -/
theorem awaitFirstDataAgain_quiet
    (session : Session) (host : HostChoice)
    (options negotiated : List TftpOption) {writer : Writer}
    (unopened : writer.file = none) (retries : Nat) :
    let started :=
      session.awaitFirstDataAgain host options negotiated writer retries
    started.session.storage = session.storage ∧
      ∀ other, started.control.writer = some other → other = writer := by
  dsimp only
  unfold Session.awaitFirstDataAgain
  have closed := Writer.close_of_unopened unopened session.storage host
  split_ifs
  · split
    · exact
        ⟨closed, by
          simp [Control.writer, Session.abandonWrite, Session.raise]⟩
    · refine ⟨rfl, fun other waits => ?_⟩
      cases waits
      rfl
  · exact
      ⟨closed, by
        simp [Control.writer, Session.abandonWrite, Session.raise]⟩

theorem Started.followOnWRQ (client : Address) (rootDirpath : Path)
    (files : FileSystem) (host : HostChoice) (introPacket : Bytes) :
    Started files
      ((Session.make client rootDirpath files).followOnWRQ host
        introPacket) := by
  obtain ⟨path, names⟩ := exists_path rootDirpath introPacket
  let fresh := Session.make client rootDirpath files
  have one :
      Confined (fun other => other = path)
        (fresh.followOnWRQ host introPacket) :=
    .followOnWRQ client rootDirpath files host
      fun packet parsed _ _ => names packet parsed
  rcases fresh.followOnWRQ_cases host introPacket with
    ⟨reached, exception, quiet, refused⟩ |
      ⟨wrq, reached, negotiated, _, absent, _, quiet, started⟩
  · refine ⟨⟨path, one⟩, ?_, ?_, ?_⟩
    · rw [refused, Session.raise_session_storage, quiet.storage]
      rfl
    · rw [refused, Session.raise_session_storage, quiet.storage]
      rfl
    · rw [refused]
      simp [Control.writer, Session.raise]
  · have missing : files.lookup (fresh.filePath wrq.filepath) = none := by
      have nothing := Storage.isSome_of_fileExists absent
      simpa [fresh, Session.make] using nothing
    obtain ⟨storage, waits⟩ :=
      awaitFirstDataAgain_quiet reached host wrq.options negotiated
        (show (Writer.make (fresh.filePath wrq.filepath)
          (formatOfMode wrq.mode)).file = none from rfl) 0
    rw [← started, quiet.storage] at storage
    rw [← started] at waits
    refine ⟨⟨path, one⟩, ?_, ?_, ?_⟩
    · rw [storage]
      rfl
    · rw [storage]
      rfl
    · intro writer found
      rw [waits writer found]
      exact ⟨rfl, missing⟩

theorem Started.followOnIntroPacket (client : Address)
    (rootDirpath : Path) (files : FileSystem) (host : HostChoice)
    (introPacket : Bytes) :
    Started files
      ((Session.make client rootDirpath files).followOnIntroPacket host
        introPacket) := by
  have ended : ∀ handler : Handler,
      handler.session.storage = ⟨files, []⟩ →
        handler.control.reader = none →
          handler.control.writer = none → Started files handler := by
    intro handler storage noReader noWriter
    refine ⟨⟨[], ?_, ?_, ?_⟩, by rw [storage], by rw [storage]; rfl, ?_⟩
    · simp [storage]
    · simp [noReader]
    · simp [noWriter]
    · simp [noWriter]
  unfold Session.followOnIntroPacket
  split
  · exact ended _ rfl rfl rfl
  · exact .followOnRRQ client rootDirpath files host introPacket
  · exact .followOnWRQ client rootDirpath files host introPacket
  · exact ended _ rfl rfl rfl

/-! ## A turn of a request -/

theorem getElem?_append_one
    {handlers : List Handler} {last handler : Handler} {index : Nat}
    (found : (handlers ++ [last])[index]? = some handler) :
    handlers[index]? = some handler ∨
      index = handlers.length ∧ handler = last := by
  rcases Nat.lt_or_ge index handlers.length with below | above
  · rw [List.getElem?_append_left below] at found
    exact Or.inl found
  · rw [List.getElem?_append_right above] at found
    obtain ⟨zero, same⟩ := List.getElem?_eq_some_iff.mp found
    right
    simp only [List.length_singleton] at zero
    refine ⟨by omega, ?_⟩
    simpa using same.symm

/-- A handler which has written nothing joins. -/
theorem Sound.request
    {server : TftpServer} (sound : server.Sound) {handler : Handler}
    (started : Started server.files handler) :
    Sound
      { server with
        files := handler.session.storage.files
        handlers := server.handlers ++ [handler] } := by
  have silent : ∀ path, ¬ handler.session.storage.Wrote path :=
    fun path wrote => wrote.writtenBlocks_ne_nil started.blocks
  rw [started.same]
  refine ⟨?_, ?_, ?_, ?_, ?_⟩
  · intro other member
    rcases List.mem_append.mp member with old | new
    · exact sound.one other old
    · rw [List.mem_singleton.mp new]
      exact started.one
  · intro other member path wrote
    rcases List.mem_append.mp member with old | new
    · exact sound.stored other old path wrote
    · rw [List.mem_singleton.mp new] at wrote
      exact absurd wrote (silent path)
  · intro other member writer waits
    rcases List.mem_append.mp member with old | new
    · exact sound.atEnd other old writer waits
    · rw [List.mem_singleton.mp new] at waits ⊢
      obtain ⟨unopened, _⟩ := started.writer writer waits
      exact ⟨fun _ => started.blocks, by simp [unopened]⟩
  · intro index other first second different here there path place
      wroteFirst wroteSecond
    rcases getElem?_append_one here with old | ⟨_, rfl⟩
    · rcases getElem?_append_one there with older | ⟨_, rfl⟩
      · exact
          sound.alone index other first second different old older path
            place wroteFirst wroteSecond
      · exact absurd wroteSecond (silent place)
    · exact absurd wroteFirst (silent path)
  · intro other member writer waits unopened
    rcases List.mem_append.mp member with old | new
    · rcases sound.fresh other old writer waits unopened with
        missing | ⟨rival, among, place, wrote, same⟩
      · exact Or.inl missing
      · exact
          Or.inr
            ⟨rival, List.mem_append_left _ among, place, wrote, same⟩
    · rw [List.mem_singleton.mp new] at waits
      exact Or.inl (started.writer writer waits).2

/-! ## A turn of a handler -/

/-- Behind a replacement there is the new handler, and elsewhere the old. -/
theorem getElem?_set_cases
    {handlers : List Handler} {next handler : Handler}
    {index position : Nat}
    (found : (handlers.set index next)[position]? = some handler) :
    (position = index ∧ handler = next) ∨
      (position ≠ index ∧ handlers[position]? = some handler) := by
  by_cases here : position = index
  · subst here
    rw [List.getElem?_set_self'] at found
    left
    cases handlers[position]? <;> simp_all
  · rw [List.getElem?_set_ne (Ne.symm here)] at found
    exact Or.inr ⟨here, found⟩

theorem mem_set_cases
    {handlers : List Handler} {next handler : Handler} {index : Nat}
    (member : handler ∈ handlers.set index next) :
    handler = next ∨
      ∃ other, other ≠ index ∧ handlers[other]? = some handler := by
  obtain ⟨other, found⟩ := List.mem_iff_getElem?.mp member
  rcases getElem?_set_cases found with ⟨_, isNext⟩ | stays
  · exact Or.inl isNext
  · exact Or.inr ⟨other, stays⟩

/-- A handler has gone on, and its file belongs to no other handler. -/
structure Turned (server : TftpServer) (index : Nat) (path : Path)
    (handler next : Handler) : Prop where
  found : server.handlers[index]? = some handler
  before : Confined (fun other => other = path) handler
  after : Confined (fun other => other = path) next
  advanced :
    Advanced path (handler.withFiles server.files).session.storage next
  receives : next.control.writer ≠ none → handler.control.writer ≠ none
  apart : next.session.storage.writtenBlocks ≠ [] →
    ∀ (other : Nat) (rival : Handler), other ≠ index →
      server.handlers[other]? = some rival →
        ∀ place, rival.session.storage.Wrote place →
          server.files.canonical place ≠ server.files.canonical path

/-- The server after the turn. -/
def afterTurn (server : TftpServer) (index : Nat) (next : Handler) :
    TftpServer :=
  { server with
    files := next.session.storage.files
    handlers := server.handlers.set index next }

theorem Sound.turned
    {server : TftpServer} (sound : server.Sound) {index : Nat}
    {handler : Handler} {event : Event}
    (found : server.handlers[index]? = some handler)
    (running : server.stopped = false)
    (first : server.OpensFirst (.handler index event))
    (goesOn :
      ((handler.withFiles server.files).step event).stopsProcess =
        false) :
    ∃ path, Turned server index path handler
      ((handler.withFiles server.files).step event) := by
  have among : handler ∈ server.handlers :=
    List.mem_iff_getElem?.mpr ⟨index, found⟩
  obtain ⟨path, confined⟩ := sound.one handler among
  have confinedHere :
      Confined (fun other => other = path)
        (handler.withFiles server.files) :=
    ⟨confined.accesses, confined.reader, confined.writer⟩
  have proceeds :
      Proceeds path (handler.withFiles server.files) event := by
    refine .of_confined confinedHere ?_ ?_ goesOn
    · intro writer waits
      have atEnd := sound.atEnd handler among writer waits
      exact ⟨atEnd.unopened, atEnd.opened⟩
    · intro written
      exact sound.stored handler among path (confined.wrote written)
  refine
    ⟨path, found, confined, confinedHere.step event, proceeds.advanced,
      proceeds.receives, ?_⟩
  intro written other rival different there place wrote same
  by_cases nothing : handler.session.storage.writtenBlocks = []
  · have member : rival ∈ server.handlers :=
      List.mem_iff_getElem?.mpr ⟨other, there⟩
    exact
      first path
        ⟨running, index, event, handler, rfl, found,
          proceeds.opens nothing written⟩
        ⟨rival, member, place, wrote, same⟩
  · exact
      sound.alone other index rival handler different there found place
        path wrote (confined.wrote nothing) same

namespace Turned

variable {server : TftpServer} {index : Nat} {path : Path}
variable {handler next : Handler}

theorem canonical (turned : Turned server index path handler next)
    (other : Path) :
    next.session.storage.files.canonical other =
      server.files.canonical other :=
  turned.advanced.advances.changes.canonical other

/-- If nothing was written so far, the files are as before. -/
theorem silent (turned : Turned server index path handler next)
    (nothing : next.session.storage.writtenBlocks = []) :
    next.session.storage.files = server.files :=
  turned.advanced.advances.silent nothing

/-- The files of the other handlers are as before. -/
theorem kept (turned : Turned server index path handler next)
    {other : Nat} {rival : Handler} (different : other ≠ index)
    (there : server.handlers[other]? = some rival) {place : Path}
    (wrote : rival.session.storage.Wrote place) :
    next.session.storage.files.content place =
      server.files.content place := by
  by_cases nothing : next.session.storage.writtenBlocks = []
  · rw [turned.silent nothing]
  · exact
      turned.advanced.advances.changes.content
        (turned.apart nothing other rival different there place wrote)

/-- What was begun before is still begun. -/
theorem begun (turned : Turned server index path handler next)
    {place : Path} (before : server.Begun place) :
    (server.afterTurn index next).Begun place := by
  obtain ⟨rival, member, other, wrote, same⟩ := before
  obtain ⟨position, there⟩ := List.mem_iff_getElem?.mp member
  have sameNow :
      next.session.storage.files.canonical other =
        next.session.storage.files.canonical place := by
    rw [turned.canonical, turned.canonical]
    exact same
  by_cases here : position = index
  · subst here
    cases there.symm.trans turned.found
    have written :=
      turned.advanced.advances.grows wrote.writtenBlocks_ne_nil
    cases turned.before.only wrote
    have below : position < server.handlers.length :=
      (List.getElem?_eq_some_iff.mp there).choose
    exact
      ⟨next, List.mem_set below next, path, turned.after.wrote written,
        sameNow⟩
  · have stays : rival ∈ server.handlers.set index next := by
      refine List.mem_iff_getElem?.mpr ⟨position, ?_⟩
      rw [List.getElem?_set_ne (Ne.symm here)]
      exact there
    exact ⟨rival, stays, other, wrote, sameNow⟩

/-- No two handlers have written at one place. -/
theorem alone (turned : Turned server index path handler next)
    {other : Nat} {rival : Handler} (different : other ≠ index)
    (there : server.handlers[other]? = some rival) {mine place : Path}
    (wroteMine : next.session.storage.Wrote mine)
    (wrote : rival.session.storage.Wrote place) :
    next.session.storage.files.canonical mine ≠
      next.session.storage.files.canonical place := by
  rw [turned.canonical, turned.canonical, turned.after.only wroteMine]
  exact
    (turned.apart wroteMine.writtenBlocks_ne_nil other rival different
      there place wrote).symm

/-- A writer which waits for its first block finds nothing, or a rival. -/
theorem fresh (turned : Turned server index path handler next)
    {place : Path}
    (before : server.files.lookup place = none ∨ server.Begun place) :
    next.session.storage.files.lookup place = none ∨
      (server.afterTurn index next).Begun place := by
  rcases before with missing | rivals
  · by_cases nothing : next.session.storage.writtenBlocks = []
    · left
      rw [turned.silent nothing]
      exact missing
    · by_cases here :
          server.files.canonical place = server.files.canonical path
      · right
        have below : index < server.handlers.length :=
          (List.getElem?_eq_some_iff.mp turned.found).choose
        refine
          ⟨next, List.mem_set below next, path,
            turned.after.wrote nothing, ?_⟩
        change
          next.session.storage.files.canonical path =
            next.session.storage.files.canonical place
        rw [turned.canonical, turned.canonical]
        exact here.symm
      · left
        rw [turned.advanced.advances.changes.elsewhere place here]
        exact missing
  · exact Or.inr (turned.begun rivals)

end Turned

/-- While no other handler has begun the file, a handler may go on. -/
theorem Sound.handler
    {server : TftpServer} (sound : server.Sound) {index : Nat}
    {path : Path} {handler next : Handler}
    (turned : Turned server index path handler next) :
    (server.afterTurn index next).Sound := by
  have among : handler ∈ server.handlers :=
    List.mem_iff_getElem?.mpr ⟨index, turned.found⟩
  refine ⟨?_, ?_, ?_, ?_, ?_⟩
  · intro rival member
    rcases mem_set_cases member with rfl | ⟨other, _, there⟩
    · exact ⟨path, turned.after⟩
    · exact sound.one rival (List.mem_iff_getElem?.mpr ⟨other, there⟩)
  · intro rival member place wrote
    rcases mem_set_cases member with rfl | ⟨other, different, there⟩
    · rw [turned.after.only wrote]
      exact turned.advanced.stored wrote.writtenBlocks_ne_nil
    · exact
        (turned.kept different there wrote).trans
          (sound.stored rival
            (List.mem_iff_getElem?.mpr ⟨other, there⟩) place wrote)
  · intro rival member writer waits
    rcases mem_set_cases member with rfl | ⟨other, _, there⟩
    · exact turned.advanced.atEnd writer waits
    · exact
        sound.atEnd rival (List.mem_iff_getElem?.mpr ⟨other, there⟩)
          writer waits
  · intro first second handler' rival different here there mine place
      wroteMine wrote
    rcases getElem?_set_cases here with ⟨rfl, rfl⟩ | ⟨isFirst, was⟩
    · rcases getElem?_set_cases there with ⟨same, _⟩ | ⟨_, rivalWas⟩
      · exact absurd same.symm different
      · exact
          turned.alone (Ne.symm different) rivalWas wroteMine wrote
    · rcases getElem?_set_cases there with ⟨rfl, rfl⟩ | ⟨_, rivalWas⟩
      · exact (turned.alone different was wrote wroteMine).symm
      · change
          next.session.storage.files.canonical mine ≠
            next.session.storage.files.canonical place
        rw [turned.canonical, turned.canonical]
        exact
          sound.alone first second handler' rival different was rivalWas
            mine place wroteMine wrote
  · intro rival member writer waits unopened
    rcases mem_set_cases member with rfl | ⟨other, _, there⟩
    · have nothing :=
        (turned.advanced.atEnd writer waits).unopened unopened
      obtain ⟨old, waited⟩ :=
        Option.ne_none_iff_exists'.mp (turned.receives (by simp [waits]))
      have samePath : writer.filepath = old.filepath :=
        (turned.after.writer writer waits).trans
          (turned.before.writer old waited).symm
      have closed : old.file = none := by
        by_contra opened
        obtain ⟨position, isOpen⟩ := Option.ne_none_iff_exists'.mp opened
        have written :=
          ((sound.atEnd handler among old waited).opened position
            isOpen).1
        exact turned.advanced.advances.grows written nothing
      rw [samePath]
      exact turned.fresh (sound.fresh handler among old waited closed)
    · exact
        turned.fresh
          (sound.fresh rival (List.mem_iff_getElem?.mpr ⟨other, there⟩)
            writer waits unopened)

/-! ## What is opened -/

/-- What somebody has begun exists. -/
theorem Sound.opensFirst
    {server : TftpServer} {turn : Turn}
    (sound : server.stopped = false → server.Sound)
    (missing : server.OpensMissing turn) :
    server.OpensFirst turn := by
  rintro path opens ⟨rival, member, other, wrote, same⟩
  have stored := (sound opens.1).stored rival member other wrote
  have lost := missing path opens
  rw [FileSystem.lookup, ← same] at lost
  exact
    FileSystem.lookup_ne_none_of_content (by simp [stored]) lost

theorem Sound.empty (rootDirpath : Path) (files : FileSystem) :
    Sound ⟨rootDirpath, files, []⟩ where
  one := by simp
  stored := by simp
  atEnd := by simp
  alone := by simp
  fresh := by simp

/-! ## Two uploads to one path -/

/-- A client sends its only block. -/
def lastBlock (client : Address) (data : Bytes) : Event where
  reception := .datagram client (DataPacket.makeRaw ⟨1, data⟩)

/-- Two clients ask for the same new file, then both send their data. -/
def twoUploads : List Turn :=
  let request := [0, 2] ++ text "f" ++ [0] ++ text "octet" ++ [0]
  [.request ⟨2, 1024⟩ {} request, .request ⟨3, 1025⟩ {} request,
    .handler 0 (lastBlock ⟨2, 1024⟩ (text "hello")),
    .handler 1 (lastBlock ⟨3, 1025⟩ (text "bye"))]

end TftpServer

end IsaTftp.Server
