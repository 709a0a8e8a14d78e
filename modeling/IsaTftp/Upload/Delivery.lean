import IsaTftp.Upload.LostBlocks

/-!
# When uploads are delivered

The handler has the file exactly if no block is lost; the client knows exactly
if the last ACK is not lost either.
-/

namespace IsaTftp.Upload

open IsaTftp.Wire
open IsaTftp.Files
open IsaTftp.Transfer
open IsaTftp.Client
open IsaTftp.Server
open IsaTftp.Library.Chunking
open IsaTftp.Download (blksizeIn_fits)

variable {size count retries lost : Nat} {content : Bytes} {path : Path}
variable {before : FileSystem} {address : Address}
variable {traffic : Traffic} {loss : Loss}

/-! ## Losses which doom an upload -/

theorem Awaits.lacksAck
    {client : TftpClient}
    (awaits : Awaits size content address count retries client) :
    LacksAck address count client := by
  obtain ⟨sending, waits, offers⟩ := awaits
  left
  exact ⟨offers.server, sending, retries, offers.waits.number, waits⟩

theorem HandlerAwaits.lacksData
    {handler : Handler}
    (awaits : HandlerAwaits size content path count retries handler) :
    LacksData count False handler := by
  obtain ⟨writer, waits, _⟩ := awaits
  exact .later waits

/-- The block which the client has sent is lost. -/
theorem Doomed.of_lost
    (client :
      Awaits size content address count retries
        (traffic.clientAfter address loss))
    (handler : LacksData count False traffic.handler)
    (few : count + 1 < 65536) (missed : loss.toHandler = true) :
    Doomed address count False (traffic.turn address loss) := by
  have misses := handler.misses
  have step : traffic.handlerAfter address loss = traffic.handler.step {} :=
    Traffic.handlerAfter_of_lost missed
  rw [← step] at misses
  constructor
  · exact client.lacksAck
  · exact misses.1
  · exact misses.2
  · exact few

/-- The client sends nothing while the last ACK is on the way. -/
theorem LastAcked.silent
    (last : LastAcked before size content path address traffic) :
    traffic.toHandler address loss = none := by
  obtain ⟨count, _, awaits, short, carried⟩ := last.client
  rw [Traffic.toHandler, Traffic.clientAfter, carried]
  cases loss.toClient with
  | false =>
      rw [arrival_kept, (awaits.finish short).2, news_self]
  | true =>
      have waitsOn := awaits.waitsOn (by decide)
      rw [arrival_lost, waitsOn.2, news_self]

/-- The last ACK is lost. -/
theorem LastAcked.doomed
    (last : LastAcked before size content path address traffic)
    (fits : Fits size content) (missed : loss.toClient = true) :
    (∃ count, Doomed address count True (traffic.turn address loss)) ∧
      (traffic.turn address loss).toClient = none := by
  obtain ⟨count, within, awaits, _⟩ := last.client
  have handler : traffic.handlerAfter address loss = traffic.handler :=
    last.handler.handlerAfter
  have silent : (traffic.turn address loss).toClient = none := by
    show news traffic.handler.sent
      (traffic.handlerAfter address loss).sent = none
    rw [handler, news_self]
  have client :
      traffic.clientAfter address loss = traffic.client.step {} := by
    rw [Traffic.clientAfter, missed, arrival_lost]
  have waitsOn := awaits.waitsOn (by decide)
  rw [← client] at waitsOn
  refine ⟨⟨count, ?_⟩, silent⟩
  constructor
  · exact waitsOn.1.lacksAck
  · apply LacksData.returned trivial
    show (traffic.handlerAfter address loss).control = _
    rw [handler]
    exact last.handler.returned
  · rw [silent]
    exact noAck_none
  · have most := fits.few
    omega

/-! ## The phases of a whole run -/

/-- In which turns the datagram of the handler is lost. -/
def repliesLost (losses : Nat → Loss) (turn : Nat) : Bool :=
  (losses turn).toClient

/--
Where an upload is after so many turns, and how many these can be;
`lastLost` is what it takes to lose the last ACK.
-/
inductive Phase (before : FileSystem) (size : Nat) (content : Bytes)
    (path : Path) (address : Address) (losses : Nat → Loss)
    (lastLost : Prop) (now : Nat) (traffic : Traffic) : Prop where
  | acked {count lost : Nat}
      (acked :
        Acked before size content path address count lost traffic)
      (within : count + 1 < chunkCount size content)
      (early : now ≤ maxRetries * count + 1 + lost)
      (inRow : InRow (repliesLost losses) now lost)
  | last (last : LastAcked before size content path address traffic)
      (early : now ≤ maxRetries * chunkCount size content)
  | done (done : Done before path content traffic.conversation)
      (silent : traffic.toClient = none)
  | missed {count : Nat} (because : lastLost)
      (kept : Kept before path content traffic.handler)
      (doomed : Doomed address count True traffic)
      (silent : traffic.toClient = none)

variable {losses : Nat → Loss} {lastLost : Prop} {now : Nat}

namespace Phase

theorem of_sent
    (sent : BlockSent before size content path address count traffic)
    (fits : Fits size content)
    (within : count < chunkCount size content)
    (early : now ≤ maxRetries * count + 1) :
    Phase before size content path address losses lastLost now
      traffic := by
  cases sent with
  | acked acked =>
      apply Phase.acked acked
      · by_contra all
        apply acked.full
        apply (length_chunk_lt_iff fits.positive content count).mpr
        omega
      · exact early
      · exact InRow.zero _ now
  | last last =>
      apply Phase.last last
      simp only [maxRetries] at early ⊢
      omega

/-- A turn leads from phase to phase, as long as the blocks arrive. -/
theorem turn
    (phase :
      Phase before size content path address losses lastLost now traffic)
    (fits : Fits size content)
    (arrive : SomeArrive (repliesLost losses))
    (kept : ∀ bytes,
      traffic.toHandler address (losses now) = some bytes →
        getOpcodeFromRaw bytes = .ok .DATA →
          (losses now).toHandler = false)
    (misses : traffic.handler.control = .ended .returned →
      traffic.toClient ≠ none → (losses now).toClient = true →
        lastLost) :
    Phase before size content path address losses lastLost (now + 1)
      (traffic.turn address (losses now)) := by
  cases phase with
  | @acked count lost acked within early inRow =>
      have fewer := inRow.lt_maxRetries arrive
      cases missed : (losses now).toClient with
      | false =>
          obtain ⟨_, answer⟩ := acked.hear missed
          have arrives :=
            kept _ answer (DataPacket.getOpcode_makeRaw _)
          have sent := acked.goesOn fits within missed arrives
          apply Phase.of_sent sent fits within
          simp only [maxRetries] at early fewer ⊢
          omega
      | true =>
          have more := inRow.succ missed
          have again :=
            acked.again missed (more.lt_maxRetries arrive)
          apply Phase.acked again within
          · omega
          · exact more
  | last last early =>
      cases missed : (losses now).toClient with
      | false =>
          obtain ⟨done, silent⟩ := last.finish missed
          exact .done done silent
      | true =>
          obtain ⟨⟨count, doomed⟩, silent⟩ := last.doomed fits missed
          have because : lastLost := by
            obtain ⟨_, _, _, _, carried⟩ := last.client
            apply misses last.handler.returned _ missed
            simp [carried]
          have handler :
              (traffic.turn address (losses now)).handler =
                traffic.handler :=
            last.handler.handlerAfter
          refine .missed because ?_ doomed silent
          rw [handler]
          exact last.handler
  | done done silent =>
      have same :
          (traffic.turn address (losses now)).conversation =
            traffic.conversation :=
        done.turn
      apply Phase.done
      · rw [same]
        exact done
      · have handler :
            traffic.handlerAfter address (losses now) =
              traffic.handler :=
          congrArg Conversation.handler same
        show news traffic.handler.sent
          (traffic.handlerAfter address (losses now)).sent = none
        rw [handler, news_self]
  | missed because kept doomed silent =>
      have handler :
          traffic.handlerAfter address (losses now) = traffic.handler :=
        kept.handlerAfter
      refine .missed because ?_ doomed.turn ?_
      · show Kept before path content
          (traffic.handlerAfter address (losses now))
        rw [handler]
        exact kept
      · show news traffic.handler.sent
          (traffic.handlerAfter address (losses now)).sent = none
        rw [handler, news_self]

/-- A block which is lost dooms the upload, whichever it is. -/
theorem doomed_of_lost
    (phase :
      Phase before size content path address losses lastLost now traffic)
    (fits : Fits size content)
    (arrive : SomeArrive (repliesLost losses)) {bytes : Bytes}
    (sent : traffic.toHandler address (losses now) = some bytes)
    (opcode : getOpcodeFromRaw bytes = .ok .DATA)
    (missed : (losses now).toHandler = true) :
    ∃ count,
      Doomed address count False
        (traffic.turn address (losses now)) := by
  cases phase with
  | @acked count lost acked within early inRow =>
      cases heard : (losses now).toClient with
      | false =>
          obtain ⟨client, _⟩ := acked.hear heard
          refine
            ⟨count + 1,
              Doomed.of_lost client acked.handler.lacksData ?_ missed⟩
          have most := fits.few
          omega
      | true =>
          have fewer := (inRow.succ heard).lt_maxRetries arrive
          obtain ⟨_, nothing⟩ := acked.miss heard fewer
          rw [nothing] at sent
          cases sent
  | last last early =>
      rw [last.silent] at sent
      cases sent
  | done done silent =>
      have ended : traffic.client.control = .ended .returned :=
        done.client
      rw [Traffic.toHandler, Traffic.clientAfter, TftpClient.step, ended,
        news_self] at sent
      cases sent
  | missed because kept doomed silent =>
      exact absurd opcode (doomed.sends_no_block sent)

/-- What a handler which has returned has on the way is the last ACK. -/
theorem last_of_carried
    (phase :
      Phase before size content path address losses lastLost now traffic)
    (returned : traffic.handler.control = .ended .returned)
    (carried : traffic.toClient ≠ none) :
    LastAcked before size content path address traffic := by
  cases phase with
  | acked acked within early inRow =>
      obtain ⟨writer, waits, _⟩ := acked.handler
      rw [waits] at returned
      cases returned
  | last last early => exact last
  | done done silent => exact absurd silent carried
  | missed because kept doomed silent => exact absurd silent carried

/-- After so many turns the handler has everything. -/
theorem kept
    (phase :
      Phase before size content path address losses lastLost
        (maxRetries * chunkCount size content + 1) traffic)
    (arrive : SomeArrive (repliesLost losses)) :
    Kept before path content traffic.handler ∧
      (¬ lastLost → Done before path content traffic.conversation) := by
  cases phase with
  | @acked count lost acked within early inRow =>
      have fewer := inRow.lt_maxRetries arrive
      simp only [maxRetries] at early fewer
      omega
  | last last early => omega
  | done done silent =>
      exact
        ⟨⟨done.handler, done.stored, done.changes⟩, fun _ => done⟩
  | missed because kept doomed silent =>
      exact ⟨kept, fun arrives => absurd because arrives⟩

end Phase

/-! ## The start -/

variable {args : TftpClientArgs} {request stdin : Bytes}
variable {rootDirpath : Path} {files clientFiles : FileSystem}
variable {session : Client.Session} {serverAddress : Address}

/-- What an upload which nothing stands in the way of fits into. -/
theorem Unhindered.fits
    (unhindered : Unhindered args request stdin rootDirpath files) :
    Fits (blksizeIn args.options) stdin := by
  constructor
  · have least := (blksizeIn_bounds args.options).1
    omega
  · exact blksizeIn_fits args.options
  · have bound := unhindered.few
    rw [Nat.mul_comm] at bound
    exact Nat.div_lt_of_lt_mul bound

/-- The first answer arrives, and the client sends the first block. -/
theorem Unhindered.sendsFirst
    (unhindered : Unhindered args request stdin rootDirpath files)
    (made :
      Client.Session.make args serverAddress stdin clientFiles =
        .ok session)
    (clientAddress : Address) {address : Address}
    (sameHost : address.ip = serverAddress.ip)
    (answered : loss.toClient = false) :
    let start :=
      Traffic.start session clientAddress rootDirpath files
    Awaits (blksizeIn args.options) stdin address 0 0
        (start.clientAfter address loss) ∧
      start.toHandler address loss =
        some (blockAfter (blksizeIn args.options) stdin 0).makeRaw := by
  intro start
  obtain ⟨⟨⟨sending, offers⟩, sent⟩, _⟩ :=
    unhindered.begins made clientAddress sameHost
  have heard :
      start.clientAfter address loss =
        start.client.step (hear address start.handler.sent) := by
    rw [Traffic.clientAfter, answered, hear,
      show start.toClient = newest start.handler.sent from rfl]
    cases newest start.handler.sent with
    | none => rfl
    | some bytes => rfl
  constructor
  · rw [heard]
    exact offers.awaits
  · rw [Traffic.toHandler, heard]
    have more :
        (start.client.step (hear address start.handler.sent)).sent =
          start.client.sent ++ _ :=
      sent
    rw [more, news_append]

/-! ## Whole runs -/

/-- If the client sends a block in this turn, it arrives. -/
def BlockArrives (address : Address) (losses : Nat → Loss)
    (start : Traffic) (turn : Nat) : Prop :=
  ∀ bytes,
    (start.after address losses turn).toHandler address (losses turn) =
        some bytes →
      getOpcodeFromRaw bytes = .ok .DATA →
        (losses turn).toHandler = false

/-- What the handler has sent when it returns arrives. -/
def LastAckArrives (address : Address) (losses : Nat → Loss)
    (start : Traffic) : Prop :=
  ∀ turn,
    (start.after address losses turn).handler.control =
        .ended .returned →
      (start.after address losses turn).toClient ≠ none →
        (losses turn).toClient = false

section

variable (unhindered : Unhindered args request stdin rootDirpath files)
variable
  (made :
    Client.Session.make args serverAddress stdin clientFiles = .ok session)
variable (clientAddress : Address) (sameHost : address.ip = serverAddress.ip)
variable (answered : (losses 0).toClient = false)

include unhindered made sameHost answered

/-- The first turn, if the first block arrives. -/
theorem Unhindered.firstTurn
    (arrives :
      BlockArrives address losses
        (Traffic.start session clientAddress rootDirpath files) 0) :
    Phase files (blksizeIn args.options) stdin
      (rootDirpath ++ slash :: args.destFilepath) address losses lastLost 1
      ((Traffic.start session clientAddress rootDirpath files).turn address
        (losses 0)) := by
  obtain ⟨client, answer⟩ :=
    unhindered.sendsFirst made clientAddress sameHost answered
  obtain ⟨_, ⟨writer, waits⟩, sameFiles⟩ :=
    unhindered.begins made clientAddress sameHost
  have kept := arrives _ answer (DataPacket.getOpcode_makeRaw _)
  have some_ : 0 < chunkCount (blksizeIn args.options) stdin :=
    Nat.succ_pos _
  have unchanged :
      files.ChangesAt (rootDirpath ++ slash :: args.destFilepath)
        (Conversation.start session clientAddress rootDirpath
          files).handler.session.storage.files := by
    rw [sameFiles]
    exact .refl _ _
  have sent :=
    BlockSent.of_accepted client answer kept some_
      (waits.accepts unhindered.fits some_ unchanged)
  exact Phase.of_sent sent unhindered.fits some_ le_rfl

/-- The first turn, if the first block is lost. -/
theorem Unhindered.firstLost (missed : (losses 0).toHandler = true) :
    Doomed address 0 False
      ((Traffic.start session clientAddress rootDirpath files).turn address
        (losses 0)) := by
  obtain ⟨client, _⟩ :=
    unhindered.sendsFirst made clientAddress sameHost answered
  obtain ⟨_, ⟨writer, waiting⟩, _⟩ :=
    unhindered.begins made clientAddress sameHost
  have handler :
      LacksData 0 False
        (Traffic.start session clientAddress rootDirpath files).handler := by
    rcases waiting.waits with
      ⟨_, _, _, options, negotiated, waits⟩ | ⟨positive, _⟩
    · exact .first rfl waits
    · exact absurd positive (Nat.lt_irrefl 0)
  exact Doomed.of_lost client handler (by decide) missed

variable (arrive : SomeArrive (repliesLost losses))

include arrive

/-- As long as the blocks arrive, the upload is in one of the phases. -/
theorem Unhindered.phases {turn : Nat}
    (arrives : ∀ earlier ≤ turn,
      BlockArrives address losses
        (Traffic.start session clientAddress rootDirpath files) earlier) :
    Phase files (blksizeIn args.options) stdin
      (rootDirpath ++ slash :: args.destFilepath) address losses
      (¬ LastAckArrives address losses
        (Traffic.start session clientAddress rootDirpath files))
      (turn + 1)
      ((Traffic.start session clientAddress rootDirpath files).after
        address losses (turn + 1)) := by
  induction turn with
  | zero =>
      exact
        unhindered.firstTurn made clientAddress sameHost answered
          (arrives 0 le_rfl)
  | succ turn induction =>
      have before := induction fun earlier within =>
        arrives earlier (Nat.le_succ_of_le within)
      apply before.turn unhindered.fits arrive (arrives _ le_rfl)
      intro returned carried missed last
      rw [last _ returned carried] at missed
      cases missed

/-- The first block which is lost dooms the upload. -/
theorem Unhindered.doomed_of_lost
    (lost : ∃ turn, ¬ BlockArrives address losses
      (Traffic.start session clientAddress rootDirpath files) turn) :
    ∃ now count,
      Doomed address count False
        ((Traffic.start session clientAddress rootDirpath files).after
          address losses now) := by
  classical
  obtain ⟨first, isLost, before⟩ :
      ∃ first,
        ¬ BlockArrives address losses
            (Traffic.start session clientAddress rootDirpath files)
            first ∧
          ∀ earlier < first,
            BlockArrives address losses
              (Traffic.start session clientAddress rootDirpath files)
              earlier := by
    refine ⟨Nat.find lost, Nat.find_spec lost, ?_⟩
    intro earlier fewer
    exact not_not.mp (Nat.find_min lost fewer)
  simp only [BlockArrives, not_forall] at isLost
  obtain ⟨bytes, sent, opcode, notKept⟩ := isLost
  have missed : (losses first).toHandler = true :=
    Bool.eq_true_of_not_eq_false notKept
  cases first with
  | zero =>
      exact
        ⟨1, 0,
          unhindered.firstLost made clientAddress sameHost answered
            missed⟩
  | succ turn =>
      have phase :=
        unhindered.phases made clientAddress sameHost answered arrive
          (fun earlier (within : earlier ≤ turn) =>
            before earlier (Nat.lt_succ_of_le within))
      obtain ⟨count, doomed⟩ :=
        phase.doomed_of_lost unhindered.fits arrive sent opcode missed
      exact ⟨turn + 1 + 1, count, doomed⟩

/-- The last ACK, if it is lost, dooms the client. -/
theorem Unhindered.doomed_of_last_lost
    (arrives : ∀ turn,
      BlockArrives address losses
        (Traffic.start session clientAddress rootDirpath files) turn)
    (lost : ¬ LastAckArrives address losses
      (Traffic.start session clientAddress rootDirpath files)) :
    ∃ now count,
      Doomed address count True
        ((Traffic.start session clientAddress rootDirpath files).after
          address losses now) := by
  simp only [LastAckArrives, not_forall] at lost
  obtain ⟨turn, returned, carried, notKept⟩ := lost
  have missed : (losses turn).toClient = true :=
    Bool.eq_true_of_not_eq_false notKept
  cases turn with
  | zero =>
      rw [answered] at missed
      cases missed
  | succ turn =>
      have phase :=
        unhindered.phases made clientAddress sameHost answered arrive
          (fun earlier (_ : earlier ≤ turn) => arrives earlier)
      have last := phase.last_of_carried returned carried
      obtain ⟨⟨count, doomed⟩, _⟩ := last.doomed unhindered.fits missed
      exact ⟨turn + 1 + 1, count, doomed⟩

end

/--
The handler returns exactly if no block is lost, and then it has the file; the
client returns exactly if the last ACK is not lost either.  It is provided that
the first answer arrives, that of five answers in a row one arrives, and that
nothing else is in the way of the upload.
-/
theorem delivered_iff_no_block_is_lost
    (unhindered : Unhindered args request stdin rootDirpath files)
    (made :
      Client.Session.make args serverAddress stdin clientFiles =
        .ok session)
    (clientAddress : Address) {address : Address}
    (sameHost : address.ip = serverAddress.ip)
    (arrive : SomeArrive (repliesLost losses))
    (answered : (losses 0).toClient = false) :
    let start := Traffic.start session clientAddress rootDirpath files
    let path := rootDirpath ++ slash :: args.destFilepath
    let traffic := start.after address losses
    let turns :=
      maxRetries * chunkCount (blksizeIn args.options) stdin + 1
    let blocks := ∀ turn, BlockArrives address losses start turn
    let lastAck := LastAckArrives address losses start
    ((∃ turn, (traffic turn).handler.control = .ended .returned) ↔
        blocks) ∧
      ((∃ turn, (traffic turn).client.control = .ended .returned) ↔
          blocks ∧ lastAck) ∧
        (blocks → Kept files path stdin (traffic turns).handler) ∧
          (blocks → lastAck →
            Done files path stdin (traffic turns).conversation) := by
  intro start path traffic turns blocks lastAck
  have everything : blocks →
      Kept files path stdin (traffic turns).handler ∧
        (¬ ¬ lastAck →
          Done files path stdin (traffic turns).conversation) := by
    intro arrives
    have phase :=
      unhindered.phases made clientAddress sameHost answered arrive
        (fun earlier
          (_ : earlier ≤
            maxRetries * chunkCount (blksizeIn args.options) stdin) =>
          arrives earlier)
    exact phase.kept arrive
  have doomed : ¬ blocks →
      ∃ now count, Doomed address count False (traffic now) := by
    intro lost
    apply unhindered.doomed_of_lost made clientAddress sameHost answered
      arrive
    exact not_forall.mp lost
  refine ⟨⟨?_, ?_⟩, ⟨?_, ?_⟩, ?_, ?_⟩
  · rintro ⟨turn, returned⟩
    by_contra lost
    obtain ⟨now, count, doomed⟩ := doomed lost
    exact doomed.never_served turn returned
  · intro arrives
    exact ⟨turns, (everything arrives).1.returned⟩
  · rintro ⟨turn, returned⟩
    have arrives : blocks := by
      by_contra lost
      obtain ⟨now, count, doomed⟩ := doomed lost
      exact doomed.never turn returned
    refine ⟨arrives, ?_⟩
    by_contra lost
    obtain ⟨now, count, doomed⟩ :=
      unhindered.doomed_of_last_lost made clientAddress sameHost answered
        arrive arrives lost
    exact doomed.never turn returned
  · rintro ⟨arrives, last⟩
    exact ⟨turns, ((everything arrives).2 (not_not.mpr last)).client⟩
  · intro arrives
    exact (everything arrives).1
  · intro arrives last
    exact (everything arrives).2 (not_not.mpr last)

/--
The theorem for the small client: the answers of two turns in a row are lost,
and the server has the file all the same.
-/
theorem delivered_iff_no_block_is_lost_small :
    ∃ session,
      Client.Session.make smallArgs ⟨1, 69⟩ (text "hello world")
            (smallDisk none) =
          .ok session ∧
        Kept (smallDisk none) (text "r/f") (text "hello world")
          ((Traffic.start session ⟨2, 1024⟩ (text "r")
              (smallDisk none)).after ⟨1, 2001⟩
            (fun turn => ⟨turn == 1 || turn == 2, false⟩)
            11).handler := by
  obtain ⟨session, made, _⟩ :=
    setupUdpClient_setsUp
      ⟨smallArgs, ⟨1, 69⟩, 512, 1, UdpClient.make,
        ⟨text "hello world", false⟩, ⟨smallDisk none, []⟩⟩
  have arrive :
      SomeArrive
        (repliesLost fun turn => ⟨turn == 1 || turn == 2, false⟩) := by
    intro turn
    by_cases early : turn < 3
    · exact ⟨3, by decide, by simp [repliesLost]⟩
    · exact ⟨0, by decide, by simp [repliesLost]; omega⟩
  obtain ⟨_, _, kept, _⟩ :=
    delivered_iff_no_block_is_lost smallUnhindered made ⟨2, 1024⟩
      (show (⟨1, 2001⟩ : Address).ip = (⟨1, 69⟩ : Address).ip from rfl)
      arrive rfl
  exact ⟨session, made, kept fun _ _ _ _ => rfl⟩

end IsaTftp.Upload
