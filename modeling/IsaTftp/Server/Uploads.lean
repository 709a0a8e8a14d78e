import IsaTftp.Server.Elsewhere
import IsaTftp.Server.Failures
import IsaTftp.Server.Gathering
import IsaTftp.Server.Transparency

/-!
# Uploads one after the other

A write request is refused if its file exists, but the file is created only
with the first block.  As long as no second request for a file is let in
between, no handler ever opens a file which exists, and whatever was uploaded
is kept: while the process runs, and after SIGINT has stopped it.
-/

namespace IsaTftp.Server

open IsaTftp.Wire
open IsaTftp.Files
open IsaTftp.Transfer
open IsaTftp.Library.Runs
open IsaTftp.Library.Chunking

/-! ## Requests -/

/-- The handler of a request has nothing of the data yet. -/
theorem Gathers.followOnIntroPacket (address : Address)
    (rootDirpath : Path) (files : FileSystem) (host : HostChoice)
    {introPacket : Bytes} {client : ClientData}
    (mode : ∀ wrq, ReadWritePacket.ofRaw introPacket = .ok wrq →
      wrq.opcode = .WRQ → formatOfMode wrq.mode = client.mode) :
    Gathers client
      ((Session.make address rootDirpath files).followOnIntroPacket host
        introPacket) := by
  let fresh := Session.make address rootDirpath files
  have started :=
    TftpServer.Started.followOnIntroPacket address rootDirpath files host
      introPacket
  cases waits : (fresh.followOnIntroPacket host introPacket).control.writer
      with
  | none => exact quiet started.blocks waits
  | some writer =>
      unfold Session.followOnIntroPacket at waits ⊢
      cases known : getOpcodeFromRaw introPacket with
      | error exception => simp [known, Control.writer] at waits
      | ok opcode =>
          cases opcode with
          | WRQ =>
              dsimp only
              rcases fresh.followOnWRQ_cases host introPacket with
                ⟨reached, exception, _, refused⟩ |
                  ⟨wrq, reached, negotiated, parsed, _, _, quiet, begins⟩
              · rw [refused]
                exact raise reached exception
              · have kind := (ReadWritePacket.getOpcode_ofRaw parsed).1
                rw [known] at kind
                have positive : 0 < reached.blksize := by
                  rcases quiet.blksize with same | ⟨least, _⟩
                  · rw [same]
                    exact Nat.zero_lt_succ 511
                  · exact Nat.lt_of_lt_of_le (by decide) least
                have nothing : reached.storage.writtenBlocks = [] := by
                  rw [quiet.storage]
                  rfl
                rw [begins]
                apply awaitFirstDataAgain
                constructor
                · exact positive
                · exact mode wrq parsed (Except.ok.inj kind).symm
                · rw [nothing]
                  exact .nothing
                · simp
          | RRQ =>
              have serves :=
                (Serves.followOnRRQ address rootDirpath files host
                  introPacket).1
              rw [known] at waits
              rw [serves.noWriter] at waits
              cases waits
          | _ => simp [known, Control.writer, Session.raise] at waits

namespace TftpServer

/-! ## What comes in order -/

/-- What every client sends is its request and its data. -/
def Genuine (clients : Nat → ClientData) (server : TftpServer) :
    Turn → Prop
  | .request _ _ introPacket =>
      ∀ wrq, ReadWritePacket.ofRaw introPacket = .ok wrq →
        wrq.opcode = .WRQ →
          formatOfMode wrq.mode = (clients server.handlers.length).mode
  | .handler index event =>
      ∀ handler, server.handlers[index]? = some handler →
        (clients index).Sends handler.session event

/-- Some handler waits for the first block of the file at a path. -/
def Awaited (server : TftpServer) (path : Path) : Prop :=
  ∃ handler ∈ server.handlers, ∃ writer,
    handler.control.writer = some writer ∧ writer.file = none ∧
      server.files.canonical writer.filepath = server.files.canonical path

/-- A write request gets past all checks, those of its options included. -/
def LetsIn (session : Session) (host : HostChoice)
    (wrq : ReadWritePacket) : Prop :=
  session.Admits host wrq ∧ ¬ session.WriteSilenced wrq

/-- A write request is let in while the first block of its file is awaited. -/
def Overlaps (server : TftpServer) (turn : Turn) : Prop :=
  ∃ client host introPacket wrq,
    turn = .request client host introPacket ∧
      ReadWritePacket.ofRaw introPacket = .ok wrq ∧
        wrq.opcode = .WRQ ∧
          LetsIn (Session.make client server.rootDirpath server.files)
              host wrq ∧
            server.Awaited (server.rootDirpath ++ slash :: wrq.filepath)

/-- A handler which serves an uploaded file is interrupted, and deletes it. -/
def DeletesServed (server : TftpServer) (turn : Turn) : Prop :=
  ∃ index event handler reader,
    turn = .handler index event ∧
      server.handlers[index]? = some handler ∧
        handler.control.reader = some reader ∧
          Interrupted handler event ∧ server.Begun reader.filepath

/--
Every handler which has returned from an upload finds in its file what its own
client has sent.
-/
def HoldsUploads (clients : Nat → ClientData) (server : TftpServer) :
    Prop :=
  ∀ (index : Nat) (handler : Handler),
    server.handlers[index]? = some handler →
      handler.control = .ended .returned →
        ∀ path, handler.session.storage.Wrote path →
          ∃ bytes, server.files.content path = some bytes ∧
            (clients index).Stored handler.session.blksize bytes ∧
              ((clients index).mode = .OCTET →
                bytes = (clients index).data)


/-! ## The invariant -/

/-- Every upload which has not begun yet may begin. -/
structure Orderly (clients : Nat → ClientData) (server : TftpServer) :
    Prop where
  sound : server.Sound
  missing : ∀ handler ∈ server.handlers, ∀ writer,
    handler.control.writer = some writer → writer.file = none →
      server.files.lookup writer.filepath = none
  apart : ∀ (index other : Nat) (handler rival : Handler),
    index ≠ other →
      server.handlers[index]? = some handler →
        server.handlers[other]? = some rival →
          ∀ writer next, handler.control.writer = some writer →
            rival.control.writer = some next →
              writer.file = none → next.file = none →
                server.files.canonical writer.filepath ≠
                  server.files.canonical next.filepath
  gathers : ∀ (index : Nat) (handler : Handler),
    server.handlers[index]? = some handler →
      Gathers (clients index) handler

namespace Orderly

variable {clients : Nat → ClientData} {server : TftpServer}

theorem empty (clients : Nat → ClientData) (rootDirpath : Path)
    (files : FileSystem) : Orderly clients ⟨rootDirpath, files, []⟩ where
  sound := .empty rootDirpath files
  missing := by simp
  apart := by simp
  gathers := by simp

/-- A handler which has returned has stored what its client sent. -/
theorem holds (orderly : Orderly clients server) :
    server.HoldsUploads clients := by
  intro index handler found isOver path wrote
  have among : handler ∈ server.handlers :=
    List.mem_iff_getElem?.mpr ⟨index, found⟩
  obtain ⟨positive, stored⟩ :=
    (orderly.gathers index handler found).done isOver
      wrote.writtenBlocks_ne_nil
  exact
    ⟨_, orderly.sound.stored handler among path wrote, stored,
      stored.octet positive⟩

/-- Whatever a handler opens is missing. -/
theorem opensMissing (orderly : Orderly clients server) (turn : Turn) :
    server.OpensMissing turn := by
  rintro path ⟨_, index, event, handler, _, found, ⟨waiting, _⟩⟩
  obtain ⟨writer, waits, unopened, rfl⟩ := waiting
  exact
    orderly.missing handler (List.mem_iff_getElem?.mpr ⟨index, found⟩)
      writer waits unopened

theorem opensFirst (orderly : Orderly clients server) (turn : Turn) :
    server.OpensFirst turn :=
  Sound.opensFirst (fun _ => orderly.sound) (orderly.opensMissing turn)

/-! ## A turn of a request -/

/-- A request which leaves a writer behind was let in for its file. -/
theorem writer_followOnIntroPacket (address : Address)
    (rootDirpath : Path) (files : FileSystem) (host : HostChoice)
    {introPacket : Bytes} {writer : Writer}
    (waits :
      ((Session.make address rootDirpath files).followOnIntroPacket host
        introPacket).control.writer = some writer) :
    ∃ wrq, ReadWritePacket.ofRaw introPacket = .ok wrq ∧
      wrq.opcode = .WRQ ∧
        LetsIn (Session.make address rootDirpath files) host wrq ∧
          writer.filepath = rootDirpath ++ slash :: wrq.filepath := by
  let fresh := Session.make address rootDirpath files
  unfold Session.followOnIntroPacket at waits
  cases known : getOpcodeFromRaw introPacket with
  | error exception => simp [known, Control.writer] at waits
  | ok opcode =>
      cases opcode with
      | WRQ =>
          simp only [known] at waits
          rcases fresh.followOnWRQ_checks host introPacket with
            ⟨exception, refused⟩ | ⟨wrq, parsed, found, under, opens⟩
          · rw [refused] at waits
            cases waits
          · have kind := (ReadWritePacket.getOpcode_ofRaw parsed).1
            rw [known] at kind
            have isWrite : wrq.opcode = .WRQ := (Except.ok.inj kind).symm
            rcases openWRQ_answers fresh host wrq with
              ⟨_, reached, exception, _, _, refused⟩ |
                ⟨welcome, reached, raw, _, _, awaits⟩
            · rw [opens, refused] at waits
              cases waits
            · rw [opens, awaits] at waits
              cases waits
              have admits : fresh.Admits host wrq := by
                refine ⟨?_, under⟩
                rw [isWrite]
                exact found
              exact ⟨wrq, parsed, isWrite, ⟨admits, welcome⟩, rfl⟩
      | RRQ =>
          have serves :=
            (Serves.followOnRRQ address rootDirpath files host
              introPacket).1
          rw [known] at waits
          rw [serves.noWriter] at waits
          cases waits
      | _ => simp [known, Control.writer, Session.raise] at waits

theorem request (orderly : Orderly clients server) {address : Address}
    {host : HostChoice} {introPacket : Bytes}
    (genuine : server.Genuine clients (.request address host introPacket))
    (first : ¬ server.Overlaps (.request address host introPacket))
    {handler : Handler}
    (begins : handler =
      (Session.make address server.rootDirpath
        server.files).followOnIntroPacket host introPacket) :
    Orderly clients
      { server with
        files := handler.session.storage.files
        handlers := server.handlers ++ [handler] } := by
  have started : Started server.files handler := by
    rw [begins]
    exact
      .followOnIntroPacket address server.rootDirpath server.files host
        introPacket
  -- nobody waits to create the file which the new handler may create
  have alone : ∀ rival ∈ server.handlers, ∀ writer next,
      handler.control.writer = some writer →
        rival.control.writer = some next → next.file = none →
          server.files.canonical next.filepath ≠
            server.files.canonical writer.filepath := by
    intro rival among writer next waits rivals unopened same
    rw [begins] at waits
    obtain ⟨wrq, parsed, isWrite, letIn, names⟩ :=
      writer_followOnIntroPacket address server.rootDirpath server.files
        host waits
    rw [names] at same
    exact
      first
        ⟨address, host, introPacket, wrq, rfl, parsed, isWrite, letIn,
          rival, among, next, rivals, unopened, same⟩
  constructor
  · exact orderly.sound.request started
  · intro other member writer waits unopened
    rw [started.same]
    rcases List.mem_append.mp member with old | new
    · exact orderly.missing other old writer waits unopened
    · rw [List.mem_singleton.mp new] at waits
      exact (started.writer writer waits).2
  · intro index other mine rival different here there writer next waits
      rivals unopened closed
    rw [started.same]
    rcases getElem?_append_one here with old | ⟨isLast, rfl⟩
    · rcases getElem?_append_one there with older | ⟨_, rfl⟩
      · exact
          orderly.apart index other mine rival different old older writer
            next waits rivals unopened closed
      · exact
          alone mine (List.mem_iff_getElem?.mpr ⟨index, old⟩) next writer
            rivals waits unopened
    · rcases getElem?_append_one there with older | ⟨isLastToo, rfl⟩
      · exact
          (alone rival (List.mem_iff_getElem?.mpr ⟨other, older⟩) writer
            next waits rivals closed).symm
      · exact absurd (isLast.trans isLastToo.symm) different
  · intro index other found
    rcases getElem?_append_one found with old | ⟨rfl, rfl⟩
    · exact orderly.gathers index other old
    · rw [begins]
      exact
        .followOnIntroPacket address server.rootDirpath server.files host
          genuine

/-! ## A turn of a handler -/

/-- What a writer of the next state was, if it is still closed. -/
theorem wasClosed (orderly : Orderly clients server) {index : Nat}
    {path : Path} {handler next : Handler}
    (turned : Turned server index path handler next)
    {position : Nat} {mine : Handler}
    (found :
      (server.afterTurn index next).handlers[position]? = some mine)
    {writer : Writer} (waits : mine.control.writer = some writer)
    (unopened : writer.file = none) :
    (position = index → next.session.storage.writtenBlocks = []) ∧
      ∃ before old, server.handlers[position]? = some before ∧
        before.control.writer = some old ∧ old.file = none ∧
          old.filepath = writer.filepath := by
  rcases getElem?_set_cases found with ⟨rfl, rfl⟩ | ⟨here, there⟩
  · have nothing :=
      (turned.advanced.atEnd writer waits).unopened unopened
    obtain ⟨old, waited⟩ :=
      Option.ne_none_iff_exists'.mp (turned.receives (by simp [waits]))
    refine ⟨fun _ => nothing, handler, old, turned.found, waited, ?_, ?_⟩
    · by_contra opened
      obtain ⟨place, isOpen⟩ := Option.ne_none_iff_exists'.mp opened
      have among : handler ∈ server.handlers :=
        List.mem_iff_getElem?.mpr ⟨position, turned.found⟩
      have written :=
        ((orderly.sound.atEnd handler among old waited).opened place
          isOpen).1
      exact turned.advanced.advances.grows written nothing
    · exact
        (turned.before.writer old waited).trans
          (turned.after.writer writer waits).symm
  · exact
      ⟨fun same => absurd same here, mine, writer, there, waits, unopened,
        rfl⟩

/-- The file which another handler is going to create is not touched. -/
theorem stillMissing (orderly : Orderly clients server) {index : Nat}
    {path : Path} {handler next : Handler}
    (turned : Turned server index path handler next)
    (writes : next.session.storage.writtenBlocks ≠ [] →
      handler.control.writer = none →
        handler.session.storage.writtenBlocks ≠ [])
    {position : Nat} (different : position ≠ index) {rival : Handler}
    (there : server.handlers[position]? = some rival)
    {writer : Writer} (waits : rival.control.writer = some writer)
    (unopened : writer.file = none) :
    next.session.storage.files.lookup writer.filepath = none := by
  have member : rival ∈ server.handlers :=
    List.mem_iff_getElem?.mpr ⟨position, there⟩
  have missing := orderly.missing rival member writer waits unopened
  have among : handler ∈ server.handlers :=
    List.mem_iff_getElem?.mpr ⟨index, turned.found⟩
  by_cases nothing : next.session.storage.writtenBlocks = []
  · rw [turned.silent nothing]
    exact missing
  · rw [turned.advanced.advances.changes.elsewhere writer.filepath ?_]
    · exact missing
    · intro same
      by_cases silent : handler.session.storage.writtenBlocks = []
      · -- the handler creates its own file, which is another one
        have receives : handler.control.writer ≠ none :=
          fun noWriter => writes nothing noWriter silent
        obtain ⟨old, waited⟩ := Option.ne_none_iff_exists'.mp receives
        have closed : old.file = none := by
          by_contra opened
          obtain ⟨place, isOpen⟩ := Option.ne_none_iff_exists'.mp opened
          exact
            ((orderly.sound.atEnd handler among old waited).opened place
              isOpen).1 silent
        rw [← turned.before.writer old waited] at same
        exact
          orderly.apart position index rival handler different there
            turned.found writer old waits waited unopened closed same
      · -- its own file exists already
        have stored :=
          orderly.sound.stored handler among path
            (turned.before.wrote silent)
        rw [FileSystem.lookup] at missing
        change server.files.canonical writer.filepath =
          server.files.canonical path at same
        rw [same, ← FileSystem.lookup] at missing
        exact
          FileSystem.lookup_ne_none_of_content (by simp [stored]) missing

/-- A turn of a handler which goes on. -/
theorem handler (orderly : Orderly clients server)
    (running : server.stopped = false) {index : Nat} {handler : Handler}
    {event : Event} (found : server.handlers[index]? = some handler)
    (genuine : server.Genuine clients (.handler index event))
    (goesOn :
      ((handler.withFiles server.files).step event).stopsProcess =
        false) :
    Orderly clients
      (server.afterTurn index
        ((handler.withFiles server.files).step event)) := by
  obtain ⟨path, turned⟩ :=
    orderly.sound.turned found running
      (orderly.opensFirst (.handler index event)) goesOn
  have gathers :
      Gathers (clients index)
        ((handler.withFiles server.files).step event) :=
    ((orderly.gathers index handler found).withFiles server.files).step
      (genuine handler found)
  have writes :
      ((handler.withFiles server.files).step
          event).session.storage.writtenBlocks ≠ [] →
        handler.control.writer = none →
          handler.session.storage.writtenBlocks ≠ [] := by
    intro written noWriter
    have quiet :
        (handler.withFiles server.files).control.writer = none := noWriter
    obtain ⟨_, blocks, _⟩ := Handler.step_quiet quiet goesOn
    rw [blocks] at written
    exact written
  generalize (handler.withFiles server.files).step event = next at *
  constructor
  · exact orderly.sound.handler turned
  · intro mine member writer waits unopened
    obtain ⟨position, there⟩ := List.mem_iff_getElem?.mp member
    obtain ⟨nothing, before, old, was, waited, closed, same⟩ :=
      orderly.wasClosed turned there waits unopened
    rw [← same]
    by_cases here : position = index
    · change next.session.storage.files.lookup old.filepath = none
      rw [turned.silent (nothing here)]
      exact
        orderly.missing before
          (List.mem_iff_getElem?.mpr ⟨position, was⟩) old waited closed
    · exact orderly.stillMissing turned writes here was waited closed
  · intro first second mine rival different here there writer other waits
      rivals unopened closed
    obtain ⟨_, before, old, was, waited, oldClosed, same⟩ :=
      orderly.wasClosed turned here waits unopened
    obtain ⟨_, rivalBefore, rivalOld, rivalWas, rivalWaited, rivalClosed,
        rivalSame⟩ :=
      orderly.wasClosed turned there rivals closed
    change
      next.session.storage.files.canonical writer.filepath ≠
        next.session.storage.files.canonical other.filepath
    rw [turned.canonical, turned.canonical, ← same, ← rivalSame]
    exact
      orderly.apart first second before rivalBefore different was rivalWas
        old rivalOld waited rivalWaited oldClosed rivalClosed
  · intro position mine there
    rcases getElem?_set_cases there with ⟨rfl, rfl⟩ | ⟨_, was⟩
    · exact gathers
    · exact orderly.gathers position mine was

/-! ## A turn which stops the process -/

/-- Another handler which has returned keeps its file. -/
theorem keeps (orderly : Orderly clients server)
    {index other : Nat} {handler rival : Handler} {event : Event}
    (different : other ≠ index)
    (found : server.handlers[index]? = some handler)
    (there : server.handlers[other]? = some rival)
    (spared : ¬ server.DeletesServed (.handler index event))
    {path : Path} (wrote : rival.session.storage.Wrote path)
    {bytes : Bytes} (stored : server.files.content path = some bytes) :
    ((handler.withFiles server.files).step
        event).session.storage.files.content path = some bytes := by
  have among : handler ∈ server.handlers :=
    List.mem_iff_getElem?.mpr ⟨index, found⟩
  have member : rival ∈ server.handlers :=
    List.mem_iff_getElem?.mpr ⟨other, there⟩
  cases waits : handler.control.writer with
  | some writer =>
      have writes :
          (handler.withFiles server.files).control.writer =
            some writer := waits
      refine Handler.content_step_elsewhere writes ?_ stored
      change server.files.canonical path ≠
        server.files.canonical writer.filepath
      cases isOpen : writer.file with
      | none =>
          -- nothing is found where this handler waits to create a file
          have missing :=
            orderly.missing handler among writer waits isOpen
          intro same
          rw [FileSystem.lookup, ← same, ← FileSystem.lookup] at missing
          exact
            FileSystem.lookup_ne_none_of_content (by simp [stored]) missing
      | some position =>
          obtain ⟨mine, confined⟩ := orderly.sound.one handler among
          have written :=
            ((orderly.sound.atEnd handler among writer waits).opened
              position isOpen).1
          rw [confined.writer writer waits]
          exact
            orderly.sound.alone other index rival handler different there
              found path mine wrote (confined.wrote written)
  | none =>
      cases serves : handler.control.reader with
      | none =>
          have idle :
              (handler.withFiles server.files).control.reader = none :=
            serves
          rw [Handler.step_of_idle idle waits]
          exact stored
      | some reader =>
          by_cases interrupted :
              Interrupted (handler.withFiles server.files) event
          · obtain ⟨same, reads, _, gone⟩ :=
              step_of_interrupted interrupted
            cases serves.symm.trans reads
            rw [gone]
            apply FileSystem.content_setFile_entry_of_ne _ stored
            intro leads
            apply spared
            exact
              ⟨index, event, handler, reader, rfl, found, serves,
                interrupted, rival, member, path, wrote, leads⟩
          · have leaves :=
              (Handler.step_sending
                (show (handler.withFiles server.files).control.reader =
                  some reader from serves) event).leaves fun noticed => by
                by_contra removes
                refine
                  interrupted
                    ⟨by simp [serves], of_decide_eq_true noticed, ?_⟩
                simpa using removes
            rw [leaves.files]
            exact stored

/-- Whoever stops the process has not returned. -/
theorem holds_of_stopped (orderly : Orderly clients server)
    {index : Nat} {handler : Handler} {event : Event}
    (found : server.handlers[index]? = some handler)
    (spared : ¬ server.DeletesServed (.handler index event))
    (stops :
      ((handler.withFiles server.files).step event).stopsProcess =
        true) :
    (server.afterTurn index
      ((handler.withFiles server.files).step event)).HoldsUploads
        clients := by
  intro position mine there isOver path wrote
  rcases getElem?_set_cases there with ⟨rfl, rfl⟩ | ⟨here, was⟩
  · simp [Handler.stopsProcess, isOver] at stops
  · obtain ⟨bytes, stored, rest⟩ :=
      orderly.holds position mine was isOver path wrote
    exact
      ⟨bytes,
        orderly.keeps here found was spared wrote stored, rest⟩

end Orderly

/-! ## Runs -/

/-- No request overlaps, and no uploaded file is deleted while served. -/
structure Calm (clients : Nat → ClientData) (server : TftpServer)
    (turn : Turn) : Prop where
  genuine : server.Genuine clients turn
  apart : ¬ server.Overlaps turn
  spares : ¬ server.DeletesServed turn

/-- The invariant of a process, while it runs and behind its end. -/
structure Keeping (clients : Nat → ClientData) (server : TftpServer) :
    Prop where
  orderly : server.stopped = false → server.Orderly clients
  holds : server.HoldsUploads clients

theorem Keeping.step
    {clients : Nat → ClientData} {server : TftpServer}
    (keeping : Keeping clients server) {turn : Turn}
    (calm : server.Calm clients turn) :
    Keeping clients (server.step turn) := by
  by_cases isOver : server.stopped = true
  · rw [step_of_stopped isOver]
    exact keeping
  · rw [Bool.not_eq_true] at isOver
    have orderly := keeping.orderly isOver
    have of_orderly : ∀ {next : TftpServer}, next.Orderly clients →
        Keeping clients next :=
      fun next => ⟨fun _ => next, next.holds⟩
    cases turn with
    | request client host introPacket =>
        rw [step_request isOver]
        exact of_orderly (orderly.request calm.genuine calm.apart rfl)
    | handler index event =>
        cases found : server.handlers[index]? with
        | none =>
            rw [step_handler_of_none found]
            exact keeping
        | some handler =>
            rw [step_handler isOver found]
            cases goesOn :
                ((handler.withFiles server.files).step
                  event).stopsProcess with
            | false =>
                exact
                  of_orderly
                    (orderly.handler isOver found calm.genuine goesOn)
            | true =>
                constructor
                · intro running
                  have still := goesOn_of_running found running
                  rw [goesOn] at still
                  cases still
                · exact
                    orderly.holds_of_stopped found calm.spares goesOn

theorem Keeping.empty (clients : Nat → ClientData) (rootDirpath : Path)
    (files : FileSystem) :
    Keeping clients ⟨rootDirpath, files, []⟩ where
  orderly _ := .empty clients rootDirpath files
  holds := by simp [HoldsUploads]

/--
Whatever requests come and in whatever order the threads take turns, until and
behind the end of the process: if every client sends its own data, no write
request is let in while the first block of its file is awaited, and no handler
is interrupted which serves an uploaded file, then a handler only opens what is
missing and what nobody has begun, and whoever has returned finds what its
client sent in its file.
-/
theorem uploads_are_kept (clients : Nat → ClientData)
    (rootDirpath : Path) (files : FileSystem) (turns : List Turn)
    (calm : ∀ taken ∈
      stepsOf TftpServer.step ⟨rootDirpath, files, []⟩ turns,
        taken.1.Calm clients taken.2) :
    (∀ taken ∈ stepsOf TftpServer.step ⟨rootDirpath, files, []⟩ turns,
      taken.1.OpensMissing taken.2 ∧ taken.1.OpensFirst taken.2) ∧
      (run TftpServer.step ⟨rootDirpath, files, []⟩ turns).HoldsUploads
        clients := by
  have initially := Keeping.empty clients rootDirpath files
  have preserved :
      ∀ taken ∈ stepsOf TftpServer.step ⟨rootDirpath, files, []⟩ turns,
        Keeping clients taken.1 →
          Keeping clients (taken.1.step taken.2) :=
    fun taken member keeping => keeping.step (calm taken member)
  constructor
  · intro taken member
    have keeping :=
      stepsOf_invariant_of_steps (Keeping clients) initially preserved
        member
    constructor
    · intro path opens
      exact (keeping.orderly opens.1).opensMissing taken.2 path opens
    · intro path opens
      exact (keeping.orderly opens.1).opensFirst taken.2 path opens
  · exact
      (run_invariant_of_steps (Keeping clients) initially preserved).holds

/-! ## An upload of two blocks -/

end TftpServer

/-- A client sends one block of its data. -/
def ClientData.send (client : ClientData) (sender : Address)
    (size number : Nat) : Event where
  reception :=
    .datagram sender
      (DataPacket.makeRaw
        ⟨UInt16.ofNat (number + 1), chunk size client.data number⟩)

theorem ClientData.sends_send
    {client : ClientData} (octet : client.mode = .OCTET)
    {session : Session} {size : Nat} (sized : session.blksize = size)
    (fits : size + 4 ≤ UdpClient.maxPacketSize) (sender : Address)
    {number : Nat} (bounded : number + 1 < 65536) :
    client.Sends session (client.send sender size number) := by
  subst sized
  constructor
  · rintro other data ⟨bytes, same, brings⟩
    cases same
    have short :
        (chunk session.blksize client.data number).length ≤
          session.blksize := by
      simp [chunk]
    rw [dataIn_take fits, dataIn_makeRaw _ short] at brings
    obtain ⟨isNumber, rfl⟩ := Prod.mk.inj (Option.some.inj brings)
    rw [UInt16.toNat_ofNat_of_lt' bounded] at isNumber
    rw [Nat.succ.inj isNumber]
  · intro netascii
    rw [octet] at netascii
    cases netascii

namespace TftpServer

variable {clients : Nat → ClientData} {server : TftpServer}

/-- A request for the mode in which its client wants to store. -/
theorem Genuine.request
    (wrq : ReadWritePacket) {introPacket : Bytes} {client : Address}
    {host : HostChoice}
    (mode : formatOfMode wrq.mode =
      (clients server.handlers.length).mode)
    (parsed : ReadWritePacket.ofRaw introPacket = .ok wrq) :
    server.Genuine clients (.request client host introPacket) := by
  intro other same _
  cases parsed.symm.trans same
  exact mode

/-- A request comes while nobody receives. -/
theorem Calm.request
    (idle : ∀ handler ∈ server.handlers, handler.control.writer = none)
    {client : Address} {host : HostChoice} {introPacket : Bytes}
    (genuine :
      server.Genuine clients (.request client host introPacket)) :
    server.Calm clients (.request client host introPacket) where
  genuine := genuine
  apart := by
    rintro ⟨_, _, _, _, _, _, _, _, handler, member, writer, waits, _⟩
    rw [idle handler member] at waits
    cases waits
  spares := by
    rintro ⟨_, _, _, _, impossible, _⟩
    cases impossible

/-- A block of the data comes. -/
theorem Calm.send
    {index size : Nat}
    (sized : ∀ handler, server.handlers[index]? = some handler →
      handler.session.blksize = size)
    (octet : (clients index).mode = .OCTET)
    (fits : size + 4 ≤ UdpClient.maxPacketSize) (sender : Address)
    {number : Nat} (bounded : number + 1 < 65536) :
    server.Calm clients
      (.handler index ((clients index).send sender size number)) where
  genuine := fun handler found =>
    ClientData.sends_send octet (sized handler found) fits sender bounded
  apart := by
    rintro ⟨_, _, _, _, impossible, _⟩
    cases impossible
  spares := by
    rintro ⟨_, _, _, _, same, _, _, ⟨_, sigint, _⟩, _⟩
    cases same
    cases sigint

/-- What two clients want to store under one name. -/
def smallClients (index : Nat) : ClientData where
  mode := .OCTET
  data := if index = 0 then text "ABCDEFGHI" else text "bye"

/--
The first client stores two blocks, and sends the first one twice; behind that
the second client comes with its request.
-/
def uploadThenRequest : List Turn :=
  let request := [0, 2] ++ text "f" ++ [0] ++ text "octet" ++ [0]
  let blksize := text "blksize" ++ [0] ++ text "8" ++ [0]
  [.request ⟨2, 1024⟩ {} (request ++ blksize),
    .handler 0 ((smallClients 0).send ⟨2, 1024⟩ 8 0),
    .handler 0 ((smallClients 0).send ⟨2, 1024⟩ 8 0),
    .handler 0 ((smallClients 0).send ⟨2, 1024⟩ 8 1),
    .request ⟨3, 1025⟩ {} request]

/-- What is found where a client has stored its data in octet mode. -/
theorem HoldsUploads.found
    (holds : server.HoldsUploads clients) {index : Nat}
    (octet : (clients index).mode = .OCTET) {accesses : List Access}
    (returned : server.handlers[index]?.map (fun handler =>
        (handler.control, handler.session.storage.accesses)) =
      some (.ended .returned, accesses))
    {path : Path} {bytes : Bytes}
    (noted : Access.write path bytes ∈ accesses) :
    server.files.content path = some (clients index).data := by
  obtain ⟨handler, found, same⟩ := Option.map_eq_some_iff.mp returned
  obtain ⟨isOver, rfl⟩ := Prod.mk.inj same
  obtain ⟨stored, content, _, whole⟩ :=
    holds index handler found isOver path ⟨bytes, noted⟩
  rw [content, whole octet]

theorem uploads_are_kept_small :
    let reached :=
      run TftpServer.step ⟨text "r", smallDisk none, []⟩ uploadThenRequest
    reached.HoldsUploads smallClients ∧
      reached.files.content (text "r/f") = some (text "ABCDEFGHI") := by
  let start : TftpServer := ⟨text "r", smallDisk none, []⟩
  have calm : ∀ taken ∈ stepsOf TftpServer.step start uploadThenRequest,
      taken.1.Calm smallClients taken.2 := by
    have sized : ∀ taken ∈
        stepsOf TftpServer.step start uploadThenRequest,
        ∀ handler ∈ taken.1.handlers, handler.session.blksize = 8 := by
      decide
    intro taken member
    have eight : ∀ handler, taken.1.handlers[0]? = some handler →
        handler.session.blksize = 8 :=
      fun handler found =>
        sized taken member handler
          (List.mem_iff_getElem?.mpr ⟨0, found⟩)
    simp only [uploadThenRequest, stepsOf_cons, stepsOf_nil,
      List.mem_cons, List.not_mem_nil, or_false] at member
    rcases member with rfl | rfl | rfl | rfl | rfl
    · apply Calm.request (by simp [start])
      apply Genuine.request
        ⟨.WRQ, text "f", .OCTET,
          [⟨.BLKSIZE, text "blksize", text "8", rfl⟩]⟩ rfl
      decide
    · exact .send eight rfl (by decide) _ (by decide)
    · exact .send eight rfl (by decide) _ (by decide)
    · exact .send eight rfl (by decide) _ (by decide)
    · apply Calm.request (by decide)
      apply Genuine.request ⟨.WRQ, text "f", .OCTET, []⟩ rfl
      decide
  have holds :=
    (uploads_are_kept smallClients (text "r") (smallDisk none)
      uploadThenRequest calm).2
  have returned :
      (run TftpServer.step start uploadThenRequest).handlers[0]?.map
          (fun handler =>
            (handler.control, handler.session.storage.accesses)) =
        some
          (.ended .returned,
            [.openWrite (text "r/f"),
              .write (text "r/f") (text "ABCDEFGH"),
              .write (text "r/f") (text "I")]) := by
    decide
  exact ⟨holds, holds.found rfl returned (List.mem_cons_of_mem _
    (List.mem_cons_of_mem _ (List.mem_singleton.mpr rfl)))⟩

/-! ## Uploads which are lost -/

/-- A client has nothing to send any more, and SIGINT comes. -/
def noticed : Event where
  reception := .sigint

/-- Two clients ask for one new file; the second one is interrupted. -/
def rivalInterrupted : List Turn :=
  let request := [0, 2] ++ text "f" ++ [0] ++ text "octet" ++ [0]
  [.request ⟨2, 1024⟩ {} request, .request ⟨3, 1025⟩ {} request,
    .handler 0 (lastBlock ⟨2, 1024⟩ (text "hello")), .handler 1 noticed]

/-- A file is stored and then served, which is interrupted. -/
def servingInterrupted : List Turn :=
  let request := text "f" ++ [0] ++ text "octet" ++ [0]
  [.request ⟨2, 1024⟩ {} ([0, 2] ++ request),
    .handler 0 (lastBlock ⟨2, 1024⟩ (text "hello")),
    .request ⟨3, 1025⟩ {} ([0, 1] ++ request), .handler 1 noticed]

/-- What the two clients want to store. -/
def rivalClients (index : Nat) : ClientData where
  mode := .OCTET
  data := if index = 0 then text "hello" else text "bye"

/--
In each of these runs the first handler has returned, and then its file holds
what the second client has sent, or is gone.
-/
theorem upload_is_lost :
    let start : TftpServer := ⟨text "r", smallDisk none, []⟩
    (∃ taken ∈ stepsOf TftpServer.step start twoUploads,
      ¬ taken.1.OpensMissing taken.2) ∧
      (∀ turns ∈ [twoUploads, rivalInterrupted, servingInterrupted],
        ¬ (run TftpServer.step start turns).HoldsUploads
          rivalClients) := by
  have lost : ∀ turns,
      (run TftpServer.step ⟨text "r", smallDisk none, []⟩
          turns).handlers[0]?.map (fun handler =>
            (handler.control, handler.session.storage.accesses)) =
        some
          (.ended .returned,
            [.openWrite (text "r/f"),
              .write (text "r/f") (text "hello")]) →
      (run TftpServer.step ⟨text "r", smallDisk none, []⟩
          turns).files.content (text "r/f") ≠ some (text "hello") →
        ¬ (run TftpServer.step ⟨text "r", smallDisk none, []⟩
          turns).HoldsUploads rivalClients := by
    intro turns returned other holds
    apply other
    exact
      holds.found rfl returned
        (List.mem_cons_of_mem _ (List.mem_singleton.mpr rfl))
  constructor
  · let before :=
      run TftpServer.step ⟨text "r", smallDisk none, []⟩
        (twoUploads.take 3)
    let last := lastBlock ⟨3, 1025⟩ (text "bye")
    refine ⟨(before, .handler 1 last), ?_, ?_⟩
    · simp [twoUploads, before, last]
    · intro missing
      have waits :
          before.handlers[1]?.map (fun handler =>
              (handler.control.writer, handler.meaning last)) =
            some
              (some (Writer.make (text "r/f") .OCTET),
                .block (text "bye")) := by
        rfl
      obtain ⟨handler, found, same⟩ := Option.map_eq_some_iff.mp waits
      obtain ⟨waiting, meaning⟩ := Prod.mk.inj same
      have exists_ : before.files.lookup (text "r/f") ≠ none := by
        decide
      apply exists_
      apply missing
      refine ⟨by decide, 1, last, handler, rfl, found, ?_⟩
      exact
        ⟨⟨_, waiting, rfl, rfl⟩, ⟨_, meaning⟩, rfl⟩
  · intro turns member
    simp only [List.mem_cons, List.not_mem_nil, or_false] at member
    rcases member with rfl | rfl | rfl
    · apply lost <;> decide
    · apply lost <;> decide
    · apply lost <;> decide

end TftpServer

end IsaTftp.Server
