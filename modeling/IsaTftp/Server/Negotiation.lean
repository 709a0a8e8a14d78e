import IsaTftp.Server.Continuing

/-!
# What NegotiateOptions agrees to

The server accepts every supported option with the value which the client has
requested, and leaves the unsupported ones out of its answer.  A transfer which
waits for the client has been negotiated like this.
-/

namespace IsaTftp.Server

open IsaTftp.Wire
open IsaTftp.Files
open IsaTftp.Transfer

/-- What negotiating some options makes of a session. -/
structure NegotiatesTo (options : List TftpOption)
    (session next : Session) : Prop where
  clientAddress : next.clientAddress = session.clientAddress
  rootDirpath : next.rootDirpath = session.rootDirpath
  storage : next.storage = session.storage
  sent : next.udp.sent = session.udp.sent
  udpTimeout : next.udp.timeout = session.udp.timeout
  blksize : next.blksize = lastNumber .BLKSIZE session.blksize options
  timeout : next.timeout = lastNumber .TIMEOUT session.timeout options
  receiveTimeout : next.udp.receiveTimeout =
    lastNumber .TIMEOUT session.udp.receiveTimeout options

theorem NegotiatesTo.refl (session : Session) :
    NegotiatesTo [] session session :=
  ⟨rfl, rfl, rfl, rfl, rfl, rfl, rfl, rfl⟩

theorem NegotiatesTo.trans
    {first second third : Session} {option : TftpOption}
    {options : List TftpOption}
    (earlier : NegotiatesTo [option] first second)
    (later : NegotiatesTo options second third) :
    NegotiatesTo (option :: options) first third where
  clientAddress := later.clientAddress.trans earlier.clientAddress
  rootDirpath := later.rootDirpath.trans earlier.rootDirpath
  storage := later.storage.trans earlier.storage
  sent := later.sent.trans earlier.sent
  udpTimeout := later.udpTimeout.trans earlier.udpTimeout
  blksize := by
    rw [later.blksize, earlier.blksize]
    rfl
  timeout := by
    rw [later.timeout, earlier.timeout]
    rfl
  receiveTimeout := by
    rw [later.receiveTimeout, earlier.receiveTimeout]
    rfl

/-- The size of a file must fit into an `int`. -/
def Convertible (option : TftpOption) : Prop :=
  option.name = .TSIZE → ∃ number, stoi option.value = .ok number

/-- One round of `NegotiateOptions`: only `tsize` can fail. -/
theorem negotiateOption_cases (session : Session)
    (option : TftpOption) :
    (∃ next, session.negotiateOption option = .ok next ∧
        NegotiatesTo [option] session next) ∨
      ∃ exception, session.negotiateOption option = .error exception ∧
        ¬ Convertible option := by
  unfold Session.negotiateOption
  cases name : option.name with
  | BLKSIZE =>
      left
      obtain ⟨converted, _, _⟩ := numberOf_blksize name
      simp only [converted, bind, Except.bind, pure, Except.pure,
        Int.toNat_natCast]
      refine ⟨_, rfl, rfl, rfl, rfl, rfl, rfl, ?_, ?_, ?_⟩
      all_goals simp [lastNumber_cons, name]
  | TIMEOUT =>
      left
      obtain ⟨converted, _, _⟩ := numberOf_timeout name
      simp only [converted, bind, Except.bind, pure, Except.pure,
        Int.toNat_natCast]
      refine ⟨_, rfl, rfl, rfl, rfl, rfl, rfl, ?_, ?_, ?_⟩
      all_goals simp [lastNumber_cons, name, UdpClient.changeTimeout]
  | TSIZE =>
      cases converted : stoi option.value with
      | ok number =>
          left
          simp only [bind, Except.bind, pure, Except.pure]
          refine ⟨_, rfl, rfl, rfl, rfl, rfl, rfl, ?_, ?_, ?_⟩
          all_goals simp [lastNumber_cons, name]
      | error exception =>
          right
          refine ⟨exception, rfl, ?_⟩
          intro convertible
          obtain ⟨number, converts⟩ := convertible name
          rw [converted] at converts
          cases converts
  | UNSUPPORTED =>
      left
      refine ⟨session, rfl, rfl, rfl, rfl, rfl, rfl, ?_, ?_, ?_⟩
      all_goals simp [lastNumber_cons, name]

/-- The options which are in the answer. -/
def supported (options : List TftpOption) : List TftpOption :=
  options.filter fun option => option.name ≠ .UNSUPPORTED

/-- `NegotiateOptions` agrees to everything it knows, if it can. -/
theorem negotiateOptions_of_ok
    {options negotiated : List TftpOption} {session next : Session}
    (result :
      session.negotiateOptions options = (next, .ok negotiated)) :
    NegotiatesTo options session next ∧
      negotiated = supported options := by
  induction options generalizing session next negotiated with
  | nil =>
      cases result
      exact ⟨.refl _, rfl⟩
  | cons option options induction =>
      rw [Session.negotiateOptions] at result
      rcases negotiateOption_cases session option with
        ⟨middle, accepted, earlier⟩ | ⟨exception, rejected, _⟩
      · simp only [accepted] at result
        cases rest : middle.negotiateOptions options with
        | mk reached answer =>
            rw [rest] at result
            cases answer with
            | error exception => cases result
            | ok remaining =>
                obtain ⟨later, same⟩ := induction rest
                cases result
                refine ⟨earlier.trans later, ?_⟩
                rw [same]
                by_cases unknown : option.name = .UNSUPPORTED
                · simp [supported, unknown]
                · simp [supported, unknown]
      · simp only [rejected] at result
        cases result

/-- It can if every file size fits. -/
theorem exists_negotiateOptions
    {options : List TftpOption}
    (convertible : ∀ option ∈ options, Convertible option)
    (session : Session) :
    ∃ next, session.negotiateOptions options =
      (next, .ok (supported options)) := by
  induction options generalizing session with
  | nil => exact ⟨session, rfl⟩
  | cons option options induction =>
      rw [Session.negotiateOptions]
      rcases negotiateOption_cases session option with
        ⟨middle, accepted, _⟩ | ⟨_, _, unfit⟩
      · obtain ⟨next, rest⟩ :=
          induction
            (fun other member =>
              convertible other (List.mem_cons_of_mem _ member))
            middle
        refine ⟨next, ?_⟩
        simp only [accepted, rest]
        by_cases unknown : option.name = .UNSUPPORTED
        · simp [supported, unknown]
        · simp [supported, unknown]
      · exact absurd (convertible option List.mem_cons_self) unfit

/-! ## The start of a transfer -/

/-- A handler goes on as it was negotiated for these options. -/
def Session.Started (session : Session) (options : List TftpOption)
    (handler : Handler) : Prop :=
  ∃ agreed, NegotiatesTo options session agreed ∧
    agreed.Continues handler.session

variable {session : Session} {host : HostChoice} {introPacket : Bytes}

theorem ended_raise (session : Session) (exception : Exception) :
    ∃ outcome, (session.raise exception).control = .ended outcome :=
  ⟨_, rfl⟩

/-- A handler which follows on a RRQ and has not ended was negotiated. -/
theorem followOnRRQ_started :
    (∃ outcome, (session.followOnRRQ host introPacket).control =
        .ended outcome) ∨
      ∃ request, ReadWritePacket.ofRaw introPacket = .ok request ∧
        session.Started request.options
          (session.followOnRRQ host introPacket) := by
  rcases session.followOnRRQ_checks host introPacket with
    ⟨exception, fails⟩ | ⟨request, parsed, _, _, opens⟩
  · rw [fails]
    exact Or.inl (ended_raise session exception)
  · rw [opens]
    rcases session.openRRQ_cases host request with
      ⟨reached, exception, _, rejected⟩ |
        ⟨agreed, negotiated, measured, storage, negotiation, _, goesOn⟩
    · rw [rejected]
      exact Or.inl (ended_raise reached exception)
    · rcases goesOn with ⟨exception, _, throws⟩ | ⟨_, spins⟩ | ⟨_, answers⟩
      · rw [throws]
        exact Or.inl (ended_raise _ exception)
      · rw [spins]
        exact Or.inl ⟨_, rfl⟩
      · right
        obtain ⟨negotiates, _⟩ := negotiateOptions_of_ok negotiation
        have here := Session.Continues.refl agreed
        refine ⟨request, parsed, agreed, negotiates, ?_⟩
        rw [answers]
        unfold Session.answerRRQ
        split_ifs
        · split
          · exact (here.withStorage _).raise _
          · exact (here.withStorage _).send _
        · exact (here.withStorage _).sendBlock _ _

/-- A handler which follows on a WRQ and has not ended was negotiated. -/
theorem followOnWRQ_started :
    (∃ outcome, (session.followOnWRQ host introPacket).control =
        .ended outcome) ∨
      ∃ request, ReadWritePacket.ofRaw introPacket = .ok request ∧
        session.Started request.options
          (session.followOnWRQ host introPacket) := by
  rcases session.followOnWRQ_checks host introPacket with
    ⟨exception, fails⟩ | ⟨request, parsed, _, _, opens⟩
  · rw [fails]
    exact Or.inl (ended_raise session exception)
  · rw [opens]
    rcases session.openWRQ_cases host request with
      ⟨reached, exception, _, rejected⟩ |
        ⟨agreed, negotiated, negotiation, waits⟩
    · rw [rejected]
      exact Or.inl (ended_raise reached exception)
    · right
      obtain ⟨negotiates, _⟩ := negotiateOptions_of_ok negotiation
      refine ⟨request, parsed, agreed, negotiates, ?_⟩
      rw [waits]
      exact (Session.Continues.refl agreed).awaitFirstDataAgain _ _ _ _

/-- A handler which has not ended at once was negotiated. -/
theorem followOnIntroPacket_started :
    (∃ outcome, (session.followOnIntroPacket host introPacket).control =
        .ended outcome) ∨
      ∃ request, ReadWritePacket.ofRaw introPacket = .ok request ∧
        session.Started request.options
          (session.followOnIntroPacket host introPacket) := by
  unfold Session.followOnIntroPacket
  split
  · exact Or.inl ⟨_, rfl⟩
  · exact followOnRRQ_started
  · exact followOnWRQ_started
  · exact Or.inl (ended_raise _ _)

end IsaTftp.Server
