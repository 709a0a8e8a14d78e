import IsaTftp.Server.Failures
import IsaTftp.Server.InOrder

/-!
# Unsupported options

`NegotiateOptions` leaves an option which it does not know out of its answer,
but the functions ask the request, not the answer, whether there are options.
Two handlers which differ in nothing but unsupported options do the same until
one of the lists is empty and the other is not.
-/

namespace IsaTftp.Server

open IsaTftp.Wire
open IsaTftp.Files
open IsaTftp.Transfer
open IsaTftp.Library.Runs

/-! ## The negotiation -/

/-- An unsupported option is not even seen. -/
theorem negotiateOptions_supported (session : Session)
    (options : List TftpOption) :
    session.negotiateOptions (supported options) =
      session.negotiateOptions options := by
  induction options generalizing session with
  | nil => rfl
  | cons option options induction =>
      by_cases unknown : option.name = .UNSUPPORTED
      · have accepted : session.negotiateOption option = .ok session := by
          simp [Session.negotiateOption, unknown, pure, Except.pure]
        have without :
            supported (option :: options) = supported options := by
          simp [supported, unknown]
        rw [without, induction, Session.negotiateOptions]
        simp only [accepted, unknown, if_true]
        cases session.negotiateOptions options with
        | mk next result => cases result <;> rfl
      · have kept :
            supported (option :: options) =
              option :: supported options := by
          simp [supported, unknown]
        rw [kept, Session.negotiateOptions, Session.negotiateOptions]
        cases session.negotiateOption option with
        | error exception => rfl
        | ok next => simp only [induction]

/-! ## Two handlers -/

/-- Two handlers which differ in the options they were asked for at most. -/
inductive Similar : Handler → Handler → Prop where
  | refl (handler : Handler) : Similar handler handler
  | awaitFirstData (session : Session)
      {options others : List TftpOption} (same : options = [] ↔ others = [])
      (negotiated : List TftpOption) (writer : Writer)
      (retries foreign : Nat) :
      Similar
        ⟨session,
          .awaitFirstData options negotiated writer retries foreign⟩
        ⟨session,
          .awaitFirstData others negotiated writer retries foreign⟩

section Similar

variable {options others : List TftpOption}
variable (same : options = [] ↔ others = [])

include same

/-- The functions only ask whether there are options. -/
theorem length_pos_congr : options.length > 0 ↔ others.length > 0 := by
  simp only [gt_iff_lt, List.length_pos_iff]
  exact not_congr same

theorem openingReply_congr (negotiated : List TftpOption) :
    Session.openingReply options negotiated =
      Session.openingReply others negotiated := by
  simp only [Session.openingReply, length_pos_congr same]

theorem answerRRQ_congr (session : Session) (host : HostChoice)
    (reader : Reader) (negotiated : List TftpOption) :
    session.answerRRQ host reader options negotiated =
      session.answerRRQ host reader others negotiated := by
  simp only [Session.answerRRQ, length_pos_congr same]

theorem Similar.awaitFirstDataAgain (session : Session)
    (host : HostChoice) (negotiated : List TftpOption) (writer : Writer)
    (retries : Nat) :
    Similar
      (session.awaitFirstDataAgain host options negotiated writer retries)
      (session.awaitFirstDataAgain host others negotiated writer
        retries) := by
  unfold Session.awaitFirstDataAgain
  rw [openingReply_congr same]
  split_ifs
  · split
    · exact .refl _
    · exact .awaitFirstData _ same negotiated writer retries 0
  · exact .refl _

theorem Similar.stepAwaitFirstData (session : Session)
    (negotiated : List TftpOption) (writer : Writer)
    (retries foreign : Nat) (event : Event) :
    Similar
      (session.stepAwaitFirstData options negotiated writer retries foreign
        event)
      (session.stepAwaitFirstData others negotiated writer retries foreign
        event) := by
  unfold Session.stepAwaitFirstData
  split
  · exact .awaitFirstData _ same negotiated writer retries _
  · exact awaitFirstDataAgain same _ event.host negotiated writer _
  · exact .refl _
  · exact .refl _
  · split
    · exact .refl _
    · exact awaitFirstDataAgain same _ event.host negotiated writer _
    · exact awaitFirstDataAgain same _ event.host negotiated writer _
    · exact .refl _

end Similar

/-- One event. -/
theorem Similar.step
    {handler other : Handler} (similar : Similar handler other)
    (event : Event) : Similar (handler.step event) (other.step event) := by
  cases similar with
  | refl => exact .refl _
  | awaitFirstData session same negotiated writer retries foreign =>
      exact
        stepAwaitFirstData same session negotiated writer retries foreign
          event

/-- What can be observed of two handlers is the same. -/
structure Handler.BehavesAs (handler other : Handler) : Prop where
  sent : handler.sent = other.sent
  storage : handler.session.storage = other.session.storage
  outcome : handler.outcome = other.outcome

theorem Similar.behavesAs
    {handler other : Handler} (similar : Similar handler other) :
    handler.BehavesAs other := by
  cases similar with
  | refl => exact ⟨rfl, rfl, rfl⟩
  | awaitFirstData => exact ⟨rfl, rfl, rfl⟩

/-- All events. -/
theorem Similar.run
    {handler other : Handler} (similar : Similar handler other)
    (events : List Event) :
    (run Handler.step handler events).BehavesAs
      (run Handler.step other events) :=
  (run_related (fun here event => here.step event) similar
    events).behavesAs

/-! ## The start -/

/-- A request which passes the checks of its file. -/
def Session.Admits (session : Session) (host : HostChoice)
    (request : ReadWritePacket) : Prop :=
  session.storage.fileExists host (session.filePath request.filepath) =
      .ok (decide (request.opcode = .RRQ)) ∧
    session.storage.files.isFilePathUnderDirectory
      (session.filePath request.filepath) session.rootDirpath = true

/-- Behind the checks: negotiate, and answer. -/
def Session.openRequest (session : Session) (host : HostChoice)
    (request : ReadWritePacket) : Handler :=
  if request.opcode = .RRQ then session.openRRQ host request
  else session.openWRQ host request

variable {session : Session} {host : HostChoice} {raw reduced : Bytes}
variable {request : ReadWritePacket}

theorem followOnIntroPacket_of_admits
    (parsed : ReadWritePacket.ofRaw raw = .ok request)
    (admits : session.Admits host request) :
    session.followOnIntroPacket host raw =
      session.openRequest host request := by
  obtain ⟨found, under⟩ := admits
  obtain ⟨known, isRead | isWrite⟩ :=
    ReadWritePacket.getOpcode_ofRaw parsed
  · simp only [Session.followOnIntroPacket, known, isRead,
      Session.followOnRRQ, parsed, found, under, decide_true, if_true,
      Session.openRequest]
  · simp only [Session.followOnIntroPacket, known, isWrite,
      Session.followOnWRQ, parsed, found, decide_false, under,
      if_true, Session.openRequest, reduceCtorEq, if_false]

/-- A request which fails them is refused, whatever its options are. -/
theorem exists_refusal
    (parsed : ReadWritePacket.ofRaw raw = .ok request)
    (refused : ¬ session.Admits host request) :
    ∃ exception, ∀ {other : Bytes} {options : List TftpOption},
      ReadWritePacket.ofRaw other =
          .ok { request with options := options } →
        session.followOnIntroPacket host other =
          session.raise exception := by
  have known : ∀ {other : Bytes} {options : List TftpOption},
      ReadWritePacket.ofRaw other =
          .ok { request with options := options } →
        getOpcodeFromRaw other = .ok request.opcode := by
    intro other options otherParsed
    exact (ReadWritePacket.getOpcode_ofRaw otherParsed).1
  unfold Session.Admits at refused
  rcases (ReadWritePacket.getOpcode_ofRaw parsed).2 with isRead | isWrite
  · cases found :
        session.storage.fileExists host
          (session.filePath request.filepath) with
    | error exception =>
        refine ⟨exception, fun otherParsed => ?_⟩
        simp only [Session.followOnIntroPacket, known otherParsed, isRead,
          Session.followOnRRQ, otherParsed, found]
    | ok isThere =>
        cases isThere with
        | false =>
            refine
              ⟨.tftp
                (.fileNotFoundError
                  (text "File does not exist: " ++ request.filepath)),
                fun otherParsed => ?_⟩
            simp only [Session.followOnIntroPacket, known otherParsed,
              isRead, Session.followOnRRQ, otherParsed, found]
        | true =>
            rw [found, isRead] at refused
            have outside := fun under => refused ⟨rfl, under⟩
            refine ⟨.tftp .accessViolationError, fun otherParsed => ?_⟩
            simp only [Session.followOnIntroPacket, known otherParsed,
              isRead, Session.followOnRRQ, otherParsed, found,
              if_neg outside]
  · cases found :
        session.storage.fileExists host
          (session.filePath request.filepath) with
    | error exception =>
        refine ⟨exception, fun otherParsed => ?_⟩
        simp only [Session.followOnIntroPacket, known otherParsed, isWrite,
          Session.followOnWRQ, otherParsed, found]
    | ok isThere =>
        cases isThere with
        | true =>
            refine
              ⟨.tftp
                (.fileAlreadyExistsError
                  (text "File already exists: " ++ request.filepath)),
                fun otherParsed => ?_⟩
            simp only [Session.followOnIntroPacket, known otherParsed,
              isWrite, Session.followOnWRQ, otherParsed, found]
        | false =>
            rw [found, isWrite] at refused
            have outside := fun under => refused ⟨rfl, under⟩
            refine ⟨.tftp .accessViolationError, fun otherParsed => ?_⟩
            simp only [Session.followOnIntroPacket, known otherParsed,
              isWrite, Session.followOnWRQ, otherParsed, found,
              if_neg outside]

/-- The same request without its unsupported options. -/
def withoutUnsupported (request : ReadWritePacket) : ReadWritePacket :=
  { request with options := supported request.options }

/-- As long as something is left to negotiate, nothing changes. -/
theorem Similar.openRequest
    (same : request.options = [] ↔ supported request.options = [])
    (session : Session) (host : HostChoice) :
    Similar (session.openRequest host request)
      (session.openRequest host (withoutUnsupported request)) := by
  unfold Session.openRequest withoutUnsupported
  split_ifs
  · have equal :
        session.openRRQ host request =
          session.openRRQ host
            { request with options := supported request.options } := by
      simp only [Session.openRRQ, negotiateOptions_supported,
        answerRRQ_congr same]
    rw [equal]
    exact .refl _
  · unfold Session.openWRQ
    simp only [negotiateOptions_supported]
    split
    · exact .refl _
    · split_ifs
      · exact .refl _
      · exact awaitFirstDataAgain same _ host _ _ 0

/-! ## OACKs -/

/-- No datagram is an OACK. -/
def NoOack (sent : List Datagram) : Prop :=
  ∀ datagram ∈ sent, getOpcodeFromRaw datagram.2 ≠ .ok .OACK

theorem NoOack.append
    {sent : List Datagram} (noOack : NoOack sent) {raw : Bytes}
    {opcode : Opcode} (known : getOpcodeFromRaw raw = .ok opcode)
    (other : opcode ≠ .OACK) (reciever : Address) :
    NoOack (sent ++ [(reciever, raw)]) := by
  intro datagram member
  rcases List.mem_append.mp member with old | new
  · exact noOack datagram old
  · rw [List.mem_singleton.mp new, known]
    simpa using other

/-- The options of the request, as long as the answer is sent again. -/
def Control.requested : Control → List TftpOption
  | .awaitFirstData options _ _ _ _ => options
  | _ => []

/-- A handler which has sent no OACK and will send none. -/
structure Handler.Plain (handler : Handler) : Prop where
  sent : NoOack handler.sent
  requested : handler.control.requested = []

namespace Handler.Plain

section Functions

variable (session : Session) (noOack : NoOack session.udp.sent)

include noOack

theorem raise (exception : Exception) :
    Plain (session.raise exception) where
  sent := by
    show NoOack (reportException session.udp _ _).sent
    rcases sent_reportException session.udp session.clientAddress exception
      with same | ⟨packet, more⟩
    · rw [same]
      exact noOack
    · rw [more]
      exact noOack.append packet.getOpcode_makeRaw (by decide) _
  requested := rfl

theorem deleteAndTerminate (host : HostChoice) (path : Path) :
    Plain (session.deleteAndTerminate host path) := by
  unfold Session.deleteAndTerminate
  split
  · exact ⟨noOack, rfl⟩
  · rename_i storage _
    exact raise (session.withStorage storage) noOack _

theorem checkForSigintRRQ (host : HostChoice) (reader : Reader) :
    Plain (session.checkForSigintRRQ host reader) :=
  deleteAndTerminate (session.send Session.interrupted.makeRaw)
    (noOack.append Session.interrupted.getOpcode_makeRaw (by decide) _)
    host reader.filepath

theorem checkForSigintWRQ (host : HostChoice) (writer : Writer) :
    Plain (session.checkForSigintWRQ host writer) :=
  deleteAndTerminate
    ((session.send Session.interrupted.makeRaw).withStorage
      (writer.close session.storage host))
    (noOack.append Session.interrupted.getOpcode_makeRaw (by decide) _)
    host writer.filepath

theorem abandonWrite (host : HostChoice) (writer : Writer)
    (exception : Exception) :
    Plain (session.abandonWrite host writer exception) :=
  raise (session.withStorage (writer.close session.storage host)) noOack
    exception

theorem sendBlock (host : HostChoice) (reader : Reader)
    (blockNumber : Nat) :
    Plain (session.sendBlock host reader blockNumber) := by
  unfold Session.sendBlock
  split
  · rename_i storage _
    exact raise (session.withStorage storage) noOack _
  · exact
      ⟨noOack.append (DataPacket.getOpcode_makeRaw _) (by decide) _, rfl⟩

theorem awaitAckAgain (sending : Sending) (retries : Nat) :
    Plain (session.awaitAckAgain sending retries) := by
  unfold Session.awaitAckAgain
  split_ifs
  · exact ⟨noOack, rfl⟩
  · exact ⟨noOack, rfl⟩
  · exact raise session noOack _

theorem awaitOackAckAgain (reader : Reader) (retries : Nat) :
    Plain (session.awaitOackAckAgain reader retries) := by
  unfold Session.awaitOackAckAgain
  split_ifs
  · exact ⟨noOack, rfl⟩
  · exact raise session noOack _

theorem awaitFirstDataAgain (host : HostChoice)
    (negotiated : List TftpOption) (writer : Writer) (retries : Nat) :
    Plain
      (session.awaitFirstDataAgain host [] negotiated writer retries) := by
  unfold Session.awaitFirstDataAgain
  split_ifs
  · exact
      ⟨noOack.append (AckPacket.getOpcode_makeRaw _) (by decide) _, rfl⟩
  · exact abandonWrite session noOack host writer _

theorem awaitDataAgain (host : HostChoice) (writer : Writer)
    (blockNumber retries : Nat) :
    Plain (session.awaitDataAgain host writer blockNumber retries) := by
  unfold Session.awaitDataAgain
  split_ifs
  · exact
      ⟨noOack.append (AckPacket.getOpcode_makeRaw _) (by decide) _, rfl⟩
  · exact abandonWrite session noOack host writer _

theorem storeBlock (host : HostChoice) (writer : Writer)
    (blockNumber : Nat) (data : Bytes) :
    Plain (session.storeBlock host writer blockNumber data) := by
  unfold Session.storeBlock
  split
  · exact ⟨noOack, rfl⟩
  · rename_i storage _
    exact abandonWrite (session.withStorage storage) noOack host _ _
  · rename_i storage _
    dsimp only
    split_ifs
    · exact
        ⟨noOack.append (AckPacket.getOpcode_makeRaw _) (by decide) _, rfl⟩
    · exact
        awaitDataAgain (session.withStorage storage).timeoutReset noOack
          host _ blockNumber 0

theorem again (host : HostChoice) {control : Control}
    (requested : control.requested = []) (retries : Nat) :
    Plain (session.again host control retries) := by
  cases control with
  | awaitOackAck reader =>
      exact awaitOackAckAgain session noOack reader retries
  | awaitAck sending => exact awaitAckAgain session noOack sending retries
  | awaitFirstData options negotiated writer =>
      obtain rfl : options = [] := requested
      exact
        awaitFirstDataAgain session noOack host negotiated writer retries
  | awaitData writer blockNumber =>
      exact awaitDataAgain session noOack host writer blockNumber retries
  | ended outcome => exact ⟨noOack, rfl⟩

/-- The receiving helper refuses a foreign sender. -/
theorem refuse (sender : Address) {control : Control}
    (requested : control.requested = []) (foreign : Nat) :
    Plain ⟨session.reply sender, control.withForeign foreign⟩ := by
  constructor
  · exact noOack.append unknownSender.getOpcode_makeRaw (by decide) _
  · cases control with
    | awaitFirstData => exact requested
    | _ => rfl

end Functions

/-- One event. -/
theorem step
    {handler : Handler} (plain : handler.Plain) (event : Event) :
    (handler.step event).Plain := by
  obtain ⟨session, control⟩ := handler
  obtain ⟨noOack, requested⟩ := plain
  have step := Handler.step_cases ⟨session, control⟩ event
  generalize Handler.step ⟨session, control⟩ event = next at step ⊢
  cases step with
  | refuses sender foreign => exact refuse session noOack sender requested _
  | again retries =>
      exact again session noOack event.host requested retries
  | slowerAgain retries =>
      exact
        again session.increaseTimeout noOack event.host requested retries
  | raises _ exception => exact raise session noOack exception
  | abandons _ exception =>
      exact abandonWrite session noOack event.host _ exception
  | interruptsRRQ => exact checkForSigintRRQ session noOack event.host _
  | interruptsWRQ => exact checkForSigintWRQ session noOack event.host _
  | begins => exact sendBlock session.timeoutReset noOack event.host _ 1
  | acknowledged =>
      unfold Session.afterAck
      split_ifs
      · exact ⟨noOack, rfl⟩
      · exact sendBlock session.timeoutReset noOack event.host _ _
  | stores _ blockNumber data =>
      exact storeBlock session noOack event.host _ blockNumber data
  | isOver => exact ⟨noOack, requested⟩

/-- All events. -/
theorem run
    {handler : Handler} (plain : handler.Plain) (events : List Event) :
    (run Handler.step handler events).Plain :=
  run_invariant Plain (fun _ event here => here.step event) plain events

end Handler.Plain

/-- An OACK was sent. -/
def Handler.SendsOack (handler : Handler) : Prop :=
  ∃ datagram ∈ handler.sent, getOpcodeFromRaw datagram.2 = .ok .OACK

theorem Handler.Plain.not_sendsOack
    {handler : Handler} (plain : handler.Plain) : ¬ handler.SendsOack := by
  rintro ⟨datagram, member, isOack⟩
  exact plain.sent datagram member isOack

/-- What was sent stays on the wire. -/
theorem mem_sent_of_history
    {start udp : UdpClient} {calls : List Library.Backoff.Call}
    (history : UdpClient.History start calls udp) {datagram : Datagram}
    (member : datagram ∈ start.sent) : datagram ∈ udp.sent := by
  induction history with
  | refl => exact member
  | send before data reciever induction =>
      exact List.mem_append_left _ induction
  | increaseTimeout before induction => exact induction
  | timeoutReset before induction => exact induction

theorem Handler.SendsOack.run
    {handler : Handler} (sends : handler.SendsOack)
    (events : List Event) :
    (run Handler.step handler events).SendsOack := by
  obtain ⟨datagram, member, isOack⟩ := sends
  obtain ⟨calls, history⟩ :=
    ((Session.Continues.refl handler.session).run events).calls
  exact ⟨datagram, mem_sent_of_history history member, isOack⟩

/-- At least one option is negotiated. -/
def Session.NegotiatesSome (session : Session)
    (options : List TftpOption) : Prop :=
  ∃ next negotiated,
    session.negotiateOptions options = (next, .ok negotiated) ∧
      negotiated ≠ []

theorem Handler.outcome_raise (session : Session)
    (exception : Exception) :
    (session.raise exception).outcome = some (.threw exception) :=
  rfl

/-- A request which is answered was negotiated. -/
theorem negotiates_of_openRequest
    (waits : (session.openRequest host request).outcome = none) :
    ∃ next,
      session.negotiateOptions request.options =
        (next, .ok (supported request.options)) := by
  unfold Session.openRequest Session.openRRQ Session.openWRQ at waits
  cases negotiation : session.negotiateOptions request.options with
  | mk next result =>
      cases result with
      | error exception =>
          simp only [negotiation, Handler.outcome_raise, ite_self,
            reduceCtorEq] at waits
      | ok negotiated =>
          obtain ⟨_, rfl⟩ := negotiateOptions_of_ok negotiation
          exact ⟨next, rfl⟩

/-- If it had options the answer is an OACK. -/
theorem sendsOack_openRequest
    (some_ : request.options ≠ [])
    (waits : (session.openRequest host request).outcome = none) :
    (session.openRequest host request).SendsOack := by
  have long : request.options.length > 0 := List.length_pos_iff.mpr some_
  have sends : ∀ (reached : Session) (control : Control)
      (negotiated : List TftpOption) (raw : Bytes),
      OackPacket.makeRaw ⟨negotiated⟩ = .ok raw →
        Handler.SendsOack ⟨reached.send raw, control⟩ := by
    intro reached control negotiated raw encoded
    exact
      ⟨_, List.mem_append_right _ (List.mem_singleton.mpr rfl),
        OackPacket.getOpcode_makeRaw encoded⟩
  unfold Session.openRequest at waits ⊢
  split_ifs at waits ⊢
  · unfold Session.openRRQ at waits ⊢
    dsimp only at waits ⊢
    split at waits
    · cases waits
    · split at waits
      · cases waits
      · cases waits
      · simp only [Session.answerRRQ, if_pos long] at waits ⊢
        split at waits
        · cases waits
        · rename_i raw encoded
          exact sends _ _ _ raw encoded
  · unfold Session.openWRQ at waits ⊢
    dsimp only at waits ⊢
    split at waits
    · cases waits
    · split_ifs at waits ⊢
      · cases waits
      · unfold Session.awaitFirstDataAgain Session.openingReply at waits ⊢
        simp only [if_pos long] at waits ⊢
        split_ifs at waits ⊢
        · split at waits
          · cases waits
          · rename_i raw encoded
            exact sends _ _ _ raw encoded
        · cases waits

/-- Without options it is the first block, or ACK 0. -/
theorem plain_openRequest
    (noOack : NoOack session.udp.sent) (none_ : request.options = []) :
    (session.openRequest host request).Plain := by
  unfold Session.openRequest
  split_ifs
  · simp only [Session.openRRQ, Session.answerRRQ, none_,
      List.length_nil, gt_iff_lt, Nat.lt_irrefl, if_false]
    exact
      Handler.Plain.sendBlock (session.withStorage session.storage) noOack
        host _ 1
  · simp only [Session.openWRQ, none_]
    exact .awaitFirstDataAgain session noOack host [] _ 0

/-- With unsupported options only it is an empty OACK. -/
theorem waits_of_unsupported
    (unsupported : supported request.options = [])
    (some_ : request.options ≠ []) :
    (session.openRequest host request).outcome = none := by
  have long : request.options.length > 0 := List.length_pos_iff.mpr some_
  have nothing :
      session.negotiateOptions request.options = (session, .ok []) := by
    rw [← negotiateOptions_supported, unsupported]
    rfl
  have measured : ∀ reader : Reader,
      session.measureForTsize host reader [] =
        (.done, session.storage) :=
    fun _ => rfl
  have encoded :
      OackPacket.makeRaw ⟨[]⟩ = .ok [0, Opcode.OACK.toByte] := rfl
  have enough : session.lacksSpace [] = false := rfl
  have more : 0 < maxRetries := by decide
  unfold Session.openRequest
  split_ifs
  · simp only [Session.openRRQ, nothing, measured, Session.answerRRQ,
      if_pos long, encoded]
    rfl
  · simp only [Session.openWRQ, nothing, enough, Bool.false_eq_true,
      if_false, Session.awaitFirstDataAgain, if_pos more,
      Session.openingReply, if_pos long, encoded]
    rfl

/-! ## Transparency -/

/--
The unsupported options of a request make no difference; and a handler which
has not ended at once sends an OACK exactly if it has negotiated an option.
-/
structure Transparent (session : Session) (host : HostChoice)
    (request : ReadWritePacket) (raw reduced : Bytes) : Prop where
  same : ∀ events,
    (run Handler.step (session.followOnIntroPacket host raw)
        events).BehavesAs
      (run Handler.step (session.followOnIntroPacket host reduced) events)
  oack : (session.followOnIntroPacket host raw).outcome = none →
    ∀ events,
      (run Handler.step (session.followOnIntroPacket host raw)
          events).SendsOack ↔
        session.NegotiatesSome request.options

/-- A request which is refused is refused all the same. -/
theorem transparent_of_refused
    (parsed : ReadWritePacket.ofRaw raw = .ok request)
    (alsoParsed :
      ReadWritePacket.ofRaw reduced = .ok (withoutUnsupported request))
    (refused : ¬ session.Admits host request) :
    Transparent session host request raw reduced := by
  obtain ⟨exception, start⟩ := exists_refusal parsed refused
  constructor
  · intro events
    rw [start parsed, start alsoParsed]
    exact ⟨rfl, rfl, rfl⟩
  · intro waits
    rw [start parsed] at waits
    cases waits

/-- The condition is enough. -/
theorem transparent_of_kept
    (noOack : NoOack session.udp.sent)
    (parsed : ReadWritePacket.ofRaw raw = .ok request)
    (alsoParsed :
      ReadWritePacket.ofRaw reduced = .ok (withoutUnsupported request))
    (kept : supported request.options = [] → request.options = []) :
    Transparent session host request raw reduced := by
  have same : request.options = [] ↔ supported request.options = [] := by
    constructor
    · intro none_
      rw [none_]
      rfl
    · exact kept
  by_cases admits : session.Admits host request
  · have start := followOnIntroPacket_of_admits parsed admits
    constructor
    · intro events
      rw [start, followOnIntroPacket_of_admits alsoParsed admits]
      exact (Similar.openRequest same session host).run events
    · intro waits events
      rw [start] at waits ⊢
      obtain ⟨next, negotiation⟩ := negotiates_of_openRequest waits
      by_cases none_ : request.options = []
      · have plain : (session.openRequest host request).Plain :=
          plain_openRequest noOack none_
        refine iff_of_false (plain.run events).not_sendsOack ?_
        rintro ⟨other, negotiated, result, some_⟩
        rw [negotiation] at result
        cases result
        exact some_ (same.mp none_)
      · refine iff_of_true ?_ ?_
        · exact (sendsOack_openRequest none_ waits).run events
        · exact ⟨next, _, negotiation, fun empty => none_ (kept empty)⟩
  · exact transparent_of_refused parsed alsoParsed admits

/--
Exactly when unsupported options are transparent: if the request has a
supported option as well, or is refused anyway.
-/
theorem unsupported_options_are_transparent_iff
    (clientAddress : Address) (rootDirpath : Path) (files : FileSystem)
    (host : HostChoice) {raw reduced : Bytes} {request : ReadWritePacket}
    (parsed : ReadWritePacket.ofRaw raw = .ok request)
    (alsoParsed :
      ReadWritePacket.ofRaw reduced = .ok (withoutUnsupported request)) :
    let session := Session.make clientAddress rootDirpath files
    Transparent session host request raw reduced ↔
      (supported request.options = [] → request.options = []) ∨
        ¬ session.Admits host request := by
  intro session
  have noOack : NoOack session.udp.sent := by
    intro datagram member
    cases member
  constructor
  · intro transparent
    by_contra fails
    simp only [not_or, not_not, Classical.not_imp] at fails
    obtain ⟨⟨unsupported, some_⟩, admits⟩ := fails
    have sends : (session.openRequest host request).SendsOack :=
      sendsOack_openRequest some_ (waits_of_unsupported unsupported some_)
    have plain :
        (session.openRequest host (withoutUnsupported request)).Plain :=
      plain_openRequest noOack unsupported
    rw [← followOnIntroPacket_of_admits parsed admits] at sends
    rw [← followOnIntroPacket_of_admits alsoParsed admits] at plain
    apply plain.not_sendsOack
    obtain ⟨datagram, member, isOack⟩ := sends
    exact
      ⟨datagram, (transparent.same []).sent ▸ member, isOack⟩
  · rintro (kept | refused)
    · exact transparent_of_kept noOack parsed alsoParsed kept
    · exact transparent_of_refused parsed alsoParsed refused

/-! ## A small download -/

/-- A request for the file `f` in octet mode, with these options. -/
def requestWith (options : Bytes) : Bytes :=
  [0, 1] ++ text "f" ++ [0] ++ text "octet" ++ [0] ++ options

/-- An option which the server does not know. -/
def unknownOption : TftpOption :=
  ⟨.UNSUPPORTED, text "x", text "1", rfl⟩

/-- The theorem at a request with the options `blksize` and `x`. -/
theorem unsupported_options_are_transparent_small :
    Transparent
      (Session.make ⟨2, 1024⟩ (text "r") (smallDisk (some (text "hi"))))
      {} ⟨.RRQ, text "f", .OCTET,
        [⟨.BLKSIZE, text "blksize", text "8", rfl⟩, unknownOption]⟩
      (requestWith
        (text "blksize" ++ [0] ++ text "8" ++ [0] ++ text "x" ++ [0] ++
          text "1" ++ [0]))
      (requestWith (text "blksize" ++ [0] ++ text "8" ++ [0])) := by
  refine
    (unsupported_options_are_transparent_iff ⟨2, 1024⟩ (text "r")
      (smallDisk (some (text "hi"))) {} ?_ ?_).mpr (Or.inl ?_)
  · decide
  · decide
  · decide

/--
With the option `x` alone the server sends an empty OACK and waits; without it
the file is sent.
-/
theorem unsupported_option_is_answered :
    let session :=
      Session.make ⟨2, 1024⟩ (text "r") (smallDisk (some (text "hi")))
    let raw := requestWith (text "x" ++ [0] ++ text "1" ++ [0])
    let request : ReadWritePacket :=
      ⟨.RRQ, text "f", .OCTET, [unknownOption]⟩
    ReadWritePacket.ofRaw raw = .ok request ∧
      ReadWritePacket.ofRaw (requestWith []) =
          .ok (withoutUnsupported request) ∧
        (session.followOnIntroPacket {} raw).sent =
            [(⟨2, 1024⟩, [0, 6])] ∧
          (session.followOnIntroPacket {} (requestWith [])).sent =
              [(⟨2, 1024⟩, [0, 3, 0, 1, 104, 105])] ∧
            ¬ Transparent session {} request raw (requestWith []) := by
  have answered :
      ((Session.make ⟨2, 1024⟩ (text "r")
            (smallDisk (some (text "hi")))).followOnIntroPacket {}
          (requestWith (text "x" ++ [0] ++ text "1" ++ [0]))).sent =
        [(⟨2, 1024⟩, [0, 6])] := by
    decide
  have sent :
      ((Session.make ⟨2, 1024⟩ (text "r")
            (smallDisk (some (text "hi")))).followOnIntroPacket {}
          (requestWith [])).sent =
        [(⟨2, 1024⟩, [0, 3, 0, 1, 104, 105])] := by
    decide
  refine ⟨by decide, by decide, answered, sent, ?_⟩
  intro transparent
  have same := (transparent.same []).sent
  simp only [run_nil] at same
  rw [answered, sent] at same
  cases same

end IsaTftp.Server
