import IsaTftp.Client.Steps
import IsaTftp.Network

/-!
# The first answer

`agreement` is the session in which the client goes on when it has accepted
the first answer: `SetupUdpClient` has run on the acknowledged options.  This
module says what the agreement consists of, and everything else which the step
of a client can do while it waits for its first answer.
-/

namespace IsaTftp.Client

open IsaTftp.Wire
open IsaTftp.Files
open IsaTftp.Transfer
open IsaTftp.Library.Backoff

/-! ## SetupUdpClient -/

theorem toNat_toUint16_of_lt
    {number : Nat} (fits : number < 65536) :
    (Session.toUint16 (number : Int)).toNat = number := by
  have same : ((number : Int) % 2 ^ 16).toNat = number := by
    omega
  rw [Session.toUint16, same]
  exact UInt16.toNat_ofNat_of_lt fits

/-- What setting up with some options makes of a session. -/
structure SetsUp (options : List TftpOption) (session next : Session) :
    Prop where
  serverAddress : next.serverAddress = session.serverAddress
  args : next.args = session.args
  stdin : next.stdin = session.stdin
  storage : next.storage = session.storage
  sent : next.udp.sent = session.udp.sent
  udpTimeout : next.udp.timeout = session.udp.timeout
  blksize : next.blksize.toNat =
    lastNumber .BLKSIZE session.blksize.toNat options
  timeout : next.timeout = lastNumber .TIMEOUT session.timeout options
  receiveTimeout : next.udp.receiveTimeout =
    lastNumber .TIMEOUT session.udp.receiveTimeout options

theorem SetsUp.trans
    {first second third : Session} {option : TftpOption}
    {options : List TftpOption}
    (earlier : SetsUp [option] first second)
    (later : SetsUp options second third) :
    SetsUp (option :: options) first third where
  serverAddress := later.serverAddress.trans earlier.serverAddress
  args := later.args.trans earlier.args
  stdin := later.stdin.trans earlier.stdin
  storage := later.storage.trans earlier.storage
  sent := later.sent.trans earlier.sent
  udpTimeout := later.udpTimeout.trans earlier.udpTimeout
  blksize := by
    rw [later.blksize, earlier.blksize]
    rfl
  timeout := by
    rw [later.timeout, earlier.timeout]
    rfl
  receiveTimeout := by
    rw [later.receiveTimeout, earlier.receiveTimeout]
    rfl

/-- The value of a validated option can always be converted again. -/
theorem setupOption_setsUp (session : Session) (option : TftpOption) :
    ∃ next, session.setupOption option = .ok next ∧
      SetsUp [option] session next := by
  unfold Session.setupOption
  cases name : option.name with
  | BLKSIZE =>
      obtain ⟨converted, _, most⟩ := numberOf_blksize name
      simp only [converted, bind, Except.bind, pure, Except.pure]
      refine ⟨_, rfl, rfl, rfl, rfl, rfl, rfl, rfl, ?_, ?_, ?_⟩
      · simp only [lastNumber_cons, name, if_true, lastNumber_nil]
        exact toNat_toUint16_of_lt (by omega)
      · simp [lastNumber_cons, name]
      · simp [lastNumber_cons, name]
  | TIMEOUT =>
      obtain ⟨converted, _, _⟩ := numberOf_timeout name
      simp only [converted, bind, Except.bind, pure, Except.pure,
        Int.toNat_natCast]
      refine ⟨_, rfl, rfl, rfl, rfl, rfl, rfl, rfl, ?_, ?_, ?_⟩
      · simp [lastNumber_cons, name]
      · simp [lastNumber_cons, name]
      · simp [lastNumber_cons, name, UdpClient.changeTimeout]
  | _ =>
      refine ⟨session, rfl, rfl, rfl, rfl, rfl, rfl, rfl, ?_, ?_, ?_⟩
      all_goals simp [lastNumber_cons, name]

theorem foldlM_setupOption_setsUp (options : List TftpOption)
    (session : Session) :
    ∃ next, options.foldlM Session.setupOption session = .ok next ∧
      SetsUp options session next := by
  induction options generalizing session with
  | nil =>
      exact ⟨session, rfl, rfl, rfl, rfl, rfl, rfl, rfl, rfl, rfl, rfl⟩
  | cons option options induction =>
      obtain ⟨middle, first, earlier⟩ := setupOption_setsUp session option
      obtain ⟨next, rest, later⟩ := induction middle
      refine ⟨next, ?_, earlier.trans later⟩
      rw [List.foldlM_cons, first]
      exact rest

/-- `SetupUdpClient` never fails. -/
theorem setupUdpClient_setsUp (session : Session) :
    ∃ next, session.setupUdpClient = .ok next ∧
      SetsUp session.args.options session next :=
  foldlM_setupOption_setsUp session.args.options session

theorem setsUp_of_setupUdpClient
    {session next : Session} (setUp : session.setupUdpClient = .ok next) :
    SetsUp session.args.options session next := by
  obtain ⟨reached, reaches, setsUp⟩ := setupUdpClient_setsUp session
  rw [setUp] at reaches
  cases reaches
  exact setsUp

/-- The later search for the block size finds the same one. -/
theorem scanBlksize_eq (options : List TftpOption) (blksize : UInt16) :
    ∃ scanned, Session.scanBlksize blksize options = .ok scanned ∧
      scanned.toNat = lastNumber .BLKSIZE blksize.toNat options := by
  induction options generalizing blksize with
  | nil => exact ⟨blksize, rfl, rfl⟩
  | cons option options induction =>
      rw [Session.scanBlksize, lastNumber_cons]
      split_ifs with name
      · obtain ⟨converted, _, most⟩ := numberOf_blksize name
        have fits :
            (Session.toUint16 (numberOf option.value : Int)).toNat =
              numberOf option.value :=
          toNat_toUint16_of_lt (by omega)
        rw [converted]
        obtain ⟨scanned, scan, value⟩ :=
          induction (Session.toUint16 (numberOf option.value : Int))
        rw [fits] at value
        exact ⟨scanned, scan, value⟩
      · exact induction blksize

/-- The options of a session are set up. -/
def Session.Settled (session : Session) : Prop :=
  Session.scanBlksize session.blksize session.args.options =
    .ok session.blksize

theorem settled_of_blksize
    {session : Session} {start : Nat}
    (blksize : session.blksize.toNat =
      lastNumber .BLKSIZE start session.args.options) :
    session.Settled := by
  obtain ⟨scanned, scan, value⟩ :=
    scanBlksize_eq session.args.options session.blksize
  have same : scanned = session.blksize := by
    apply UInt16.toNat_inj.mp
    rw [value]
    by_cases named :
        ∃ option ∈ session.args.options, option.name = .BLKSIZE
    · obtain ⟨option, member, name⟩ := named
      rw [blksize]
      exact lastNumber_of_mem member name _ _
    · apply lastNumber_of_absent
      intro option member name
      exact named ⟨option, member, name⟩
  rw [Session.Settled, scan, same]

/-- `SetupUdpClient` leaves nothing to set up. -/
theorem SetsUp.settled
    {session next : Session} {options : List TftpOption}
    (setsUp : SetsUp options session next)
    (same : session.args.options = options) :
    next.Settled := by
  apply settled_of_blksize
  rw [setsUp.args, same]
  exact setsUp.blksize

/-! ## The checks of an OACK -/

/-- A traversal succeeds where it succeeds at every element. -/
theorem forM_eq_ok_iff {α : Type*} {check : α → Except Exception Unit}
    {list : List α} :
    list.forM check = .ok () ↔ ∀ item ∈ list, check item = .ok () := by
  induction list with
  | nil => simp [pure, Except.pure]
  | cons item list induction =>
      rw [List.forall_mem_cons, ← induction,
        show (item :: list).forM check =
          (check item >>= fun _ => list.forM check) from rfl]
      cases checked : check item with
      | error exception => simp [bind, Except.bind]
      | ok => simp [bind, Except.bind]

/-- An OACK passes if every option was requested and is comparable. -/
theorem checkOack_eq_ok_iff
    {session : Session} {oack : OackPacket} :
    session.checkOack oack = .ok () ↔
      oack.options.length ≤ session.args.options.length ∧
        ∀ option ∈ oack.options,
          (∃ requested ∈ session.args.options,
              option.name = requested.name) ∧
            ∀ requested ∈ session.args.options,
              option.name = requested.name →
                Session.compareOptions option requested = .ok () := by
  have validate : ∀ option,
      Session.validateOption session.args.options option = .ok () ↔
        (∃ requested ∈ session.args.options,
            option.name = requested.name) ∧
          ∀ requested ∈ session.args.options,
            option.name = requested.name →
              Session.compareOptions option requested = .ok () := by
    intro option
    unfold Session.validateOption
    by_cases absent :
        session.args.options.filter
          (fun requested => option.name = requested.name) = []
    · simp only [absent, if_true, throw, throwThe, MonadExceptOf.throw,
        bind, Except.bind, reduceCtorEq, false_iff, not_and]
      rintro ⟨requested, member, same⟩
      have kept :
          requested ∈ session.args.options.filter
            (fun requested => option.name = requested.name) :=
        List.mem_filter.mpr ⟨member, decide_eq_true same⟩
      rw [absent] at kept
      cases kept
    · simp only [absent, if_false, bind, Except.bind]
      rw [forM_eq_ok_iff]
      constructor
      · intro checked
        obtain ⟨requested, kept⟩ := List.exists_mem_of_ne_nil _ absent
        have member := List.mem_filter.mp kept
        refine
          ⟨⟨requested, member.1, of_decide_eq_true member.2⟩, ?_⟩
        intro other among same
        exact
          checked other
            (List.mem_filter.mpr ⟨among, decide_eq_true same⟩)
      · rintro ⟨_, checked⟩ other kept
        have member := List.mem_filter.mp kept
        exact checked other member.1 (of_decide_eq_true member.2)
  unfold Session.checkOack
  by_cases many : session.args.options.length < oack.options.length
  · simp [many, throw, throwThe, MonadExceptOf.throw, bind, Except.bind,
      Nat.not_le_of_lt many]
  · simp only [many, if_false, bind, Except.bind]
    rw [forM_eq_ok_iff]
    simp only [validate, Nat.le_of_not_lt many, true_and]

/-- An acknowledged block size is at most a requested one. -/
theorem blksize_le_of_compareOptions
    {option requested : TftpOption} (isBlksize : option.name = .BLKSIZE)
    (sameName : option.name = requested.name)
    (compared : Session.compareOptions option requested = .ok ()) :
    numberOf option.value ≤ numberOf requested.value := by
  obtain ⟨converted, _⟩ := numberOf_blksize isBlksize
  obtain ⟨other, _⟩ := numberOf_blksize (sameName.symm.trans isBlksize)
  unfold Session.compareOptions at compared
  simp only [isBlksize, converted, other, bind, Except.bind] at compared
  split_ifs at compared with higher
  omega

/-! ## The agreement -/

/-- `SendWrq`: the session after an accepted answer. -/
def Session.agreeWrq (session : Session) (sender : Address)
    (packet : Bytes) : Option Session :=
  ((session.adoptPort sender).acceptWrqReply packet).toOption

/-- `Read`: the session after an accepted first answer. -/
def Session.agreeRrq (session : Session) (sender : Address)
    (packet : Bytes) : Option Session :=
  let session := session.adoptPort sender
  match session.classifyRrqReply packet with
  | .error _ => none
  | .ok (.firstBlock _) =>
      (session.withOptions []).setupUdpClient.toOption
  | .ok (.oack options) =>
      let session := session.withOptions options
      match session.checkSpace options with
      | .error _ => none
      | .ok () => session.setupUdpClient.toOption

/-- The session which is agreed on when an event brings the first answer. -/
def TftpClient.agreement (client : TftpClient) (event : Event) :
    Option Session :=
  match client.control, receive event.reception with
  | .awaitWrqReply, .ok (sender, packet) =>
      client.session.agreeWrq sender packet
  | .awaitRrqReply _ _, .ok (sender, packet) =>
      client.session.agreeRrq sender packet
  | _, _ => none

/-- The options which a first answer acknowledges: those of an OACK. -/
def acknowledgedOptions (packet : Bytes) : List TftpOption :=
  match OackPacket.ofRaw packet with
  | .ok oack => oack.options
  | .error _ => []

theorem acknowledgedOptions_of_opcode
    {packet : Bytes} {opcode : Opcode}
    (known : getOpcodeFromRaw packet = .ok opcode)
    (other : opcode ≠ .OACK) :
    acknowledgedOptions packet = [] := by
  have rejected :
      OackPacket.ofRaw packet =
        .error
          (illegalOperation (text "Invalid opcode for OackPacket")) := by
    simp [OackPacket.ofRaw, known, bind, Except.bind, other, throw,
      throwThe, MonadExceptOf.throw]
  simp [acknowledgedOptions, rejected]

/-- What was agreed on: the acknowledged options are allowed and set up. -/
structure Acknowledges (session : Session) (sender : Address)
    (packet : Bytes) (agreed : Session) : Prop where
  setsUp :
    SetsUp (acknowledgedOptions packet)
      ((session.adoptPort sender).withOptions (acknowledgedOptions packet))
      agreed
  checked : session.checkOack ⟨acknowledgedOptions packet⟩ = .ok ()

theorem Acknowledges.settled
    {session agreed : Session} {sender : Address} {packet : Bytes}
    (acknowledges : Acknowledges session sender packet agreed) :
    agreed.Settled :=
  acknowledges.setsUp.settled rfl

theorem checkOack_nil (session : Session) :
    session.checkOack ⟨[]⟩ = .ok () :=
  rfl

/-- The answers which `SendWrq` accepts. -/
theorem acknowledges_of_agreeWrq
    {session agreed : Session} {sender : Address} {packet : Bytes}
    (agrees : session.agreeWrq sender packet = some agreed) :
    Acknowledges session sender packet agreed := by
  unfold Session.agreeWrq Session.acceptWrqReply at agrees
  cases known : getOpcodeFromRaw packet with
  | error exception =>
      simp [known, bind, Except.bind, Except.toOption] at agrees
  | ok opcode =>
      simp only [known, bind, Except.bind, throw, throwThe,
        MonadExceptOf.throw] at agrees
      cases opcode with
      | ACK =>
          have none_ := acknowledgedOptions_of_opcode known (by decide)
          cases parsed : AckPacket.ofRaw packet with
          | error exception => simp [parsed, Except.toOption] at agrees
          | ok ack =>
              simp only [parsed] at agrees
              split_ifs at agrees with other
              · simp [Except.toOption] at agrees
              · obtain ⟨next, setUp, setsUp⟩ :=
                  setupUdpClient_setsUp
                    ((session.adoptPort sender).withOptions [])
                rw [setUp] at agrees
                cases agrees
                constructor
                · rw [none_]
                  exact setsUp
                · rw [none_]
                  exact checkOack_nil session
      | OACK =>
          cases parsed : OackPacket.ofRaw packet with
          | error exception => simp [parsed, Except.toOption] at agrees
          | ok oack =>
              have options :
                  acknowledgedOptions packet = oack.options := by
                simp [acknowledgedOptions, parsed]
              simp only [parsed] at agrees
              cases checked :
                  (session.adoptPort sender).checkOack oack with
              | error exception =>
                  simp [checked, Except.toOption] at agrees
              | ok =>
                  obtain ⟨next, setUp, setsUp⟩ :=
                    setupUdpClient_setsUp
                      ((session.adoptPort sender).withOptions oack.options)
                  simp only [checked, setUp] at agrees
                  cases agrees
                  constructor
                  · rw [options]
                    exact setsUp
                  · rw [options]
                    exact checked
      | ERROR =>
          cases parsed : ErrorPacket.ofRaw packet with
          | error exception => simp [parsed, Except.toOption] at agrees
          | ok error => simp [parsed, Except.toOption] at agrees
      | _ => simp [Except.toOption] at agrees

/-- What `Read` takes for a first answer. -/
theorem classifyRrqReply_cases
    {session : Session} {packet : Bytes} {reply : Session.RrqReply}
    (classified : session.classifyRrqReply packet = .ok reply) :
    (∃ data, reply = .firstBlock data ∧
        getOpcodeFromRaw packet = .ok .DATA ∧
          dataIn session.blksize.toNat packet = some (1, data)) ∨
      ∃ oack, reply = .oack oack.options ∧
        OackPacket.ofRaw packet = .ok oack ∧
          session.checkOack oack = .ok () := by
  unfold Session.classifyRrqReply at classified
  cases known : getOpcodeFromRaw packet with
  | error exception => simp [known, bind, Except.bind] at classified
  | ok opcode =>
      simp only [known, bind, Except.bind, throw, throwThe,
        MonadExceptOf.throw, pure, Except.pure] at classified
      cases opcode with
      | DATA =>
          cases parsed :
              DataPacket.ofRaw packet session.blksize.toNat with
          | error exception => simp [parsed] at classified
          | ok block =>
              simp only [parsed] at classified
              split_ifs at classified with other
              cases classified
              rw [not_not] at other
              exact Or.inl ⟨_, rfl, rfl, by simp [dataIn, parsed, other]⟩
      | OACK =>
          cases parsed : OackPacket.ofRaw packet with
          | error exception => simp [parsed] at classified
          | ok oack =>
              cases checked : session.checkOack oack with
              | error exception => simp [parsed, checked] at classified
              | ok =>
                  simp only [parsed, checked] at classified
                  cases classified
                  exact Or.inr ⟨oack, rfl, rfl, checked⟩
      | ERROR =>
          cases parsed : ErrorPacket.ofRaw packet with
          | error exception => simp [parsed] at classified
          | ok error => simp [parsed] at classified
      | _ => simp at classified

/-- The first answers which `Read` accepts. -/
theorem acknowledges_of_agreeRrq
    {session agreed : Session} {sender : Address} {packet : Bytes}
    (agrees : session.agreeRrq sender packet = some agreed) :
    Acknowledges session sender packet agreed := by
  unfold Session.agreeRrq at agrees
  cases classified :
      (session.adoptPort sender).classifyRrqReply packet with
  | error exception => simp [classified] at agrees
  | ok reply =>
      rcases classifyRrqReply_cases classified with
        ⟨data, rfl, known, _⟩ | ⟨oack, rfl, parsed, checked⟩
      · have none_ := acknowledgedOptions_of_opcode known (by decide)
        obtain ⟨next, setUp, setsUp⟩ :=
          setupUdpClient_setsUp ((session.adoptPort sender).withOptions [])
        simp only [classified, setUp] at agrees
        cases agrees
        constructor
        · rw [none_]
          exact setsUp
        · rw [none_]
          exact checkOack_nil session
      · have options : acknowledgedOptions packet = oack.options := by
          simp [acknowledgedOptions, parsed]
        obtain ⟨next, setUp, setsUp⟩ :=
          setupUdpClient_setsUp
            ((session.adoptPort sender).withOptions oack.options)
        simp only [classified, setUp] at agrees
        split at agrees
        · cases agrees
        · cases agrees
          constructor
          · rw [options]
            exact setsUp
          · rw [options]
            exact checked

/-- An agreement comes from a datagram, whoever has sent it. -/
theorem TftpClient.acknowledges_of_agreement
    {client : TftpClient} {event : Event} {agreed : Session}
    (agrees : client.agreement event = some agreed) :
    ∃ sender bytes, event.reception = .datagram sender bytes ∧
      Acknowledges client.session sender
        (bytes.take UdpClient.maxPacketSize) agreed := by
  unfold TftpClient.agreement at agrees
  cases heard : event.reception with
  | datagram sender bytes =>
      rw [heard] at agrees
      refine ⟨sender, bytes, rfl, ?_⟩
      cases control : client.control with
      | awaitWrqReply =>
          rw [control] at agrees
          exact acknowledges_of_agreeWrq agrees
      | awaitRrqReply writer retries =>
          rw [control] at agrees
          exact acknowledges_of_agreeRrq agrees
      | _ =>
          rw [control] at agrees
          cases agrees
  | _ =>
      rw [heard] at agrees
      cases control : client.control with
      | _ =>
          rw [control] at agrees
          cases agrees

/-! ## The step which agrees -/

theorem Proceeds.sendData
    {session next : Session} (continues : session.Continues next)
    (settled : next.Settled) (event : Event) :
    Proceeds session (next.sendData event) := by
  unfold Session.sendData
  apply checkForSigintWRQ continues
  simp only [show Session.scanBlksize next.blksize next.args.options =
    .ok next.blksize from settled]
  exact .sendNextBlock continues _ _

/-- `SendData` changes nothing settled but, at most, the block size. -/
theorem sendData_proceeds (session : Session) (event : Event) :
    ∃ blksize,
      Proceeds { session with blksize := blksize }
        (session.sendData event) := by
  unfold Session.sendData Session.checkForSigintWRQ
  split_ifs
  · exact ⟨session.blksize, .interruptWrite (.refl session)⟩
  · dsimp only
    split
    · exact ⟨session.blksize, .raise (.refl session) _⟩
    · rename_i blksize scanned
      exact ⟨blksize, .sendNextBlock (.refl _) _ _⟩

theorem Proceeds.afterRrqReply
    {session next : Session} (continues : session.Continues next)
    (settled : next.Settled) (writer : Writer) (blockNumber : UInt16)
    (last : Bool) (event : Event) :
    Proceeds session
      (next.afterRrqReply writer blockNumber last event) := by
  have scanned :
      Session.scanBlksize next.timeoutReset.blksize
          next.timeoutReset.args.options =
        .ok next.timeoutReset.blksize :=
    settled
  unfold Session.afterRrqReply
  apply checkForSigintRRQ continues
  simp only [scanned]
  apply checkForSigintRRQ continues.timeoutReset
  exact .afterData continues.timeoutReset _ _ _

/-- After an accepted answer `SendWrq` returns, and `SendData` begins. -/
theorem stepAwaitWrqReply_of_agreement
    {session agreed : Session} {event : Event}
    (agrees :
      TftpClient.agreement ⟨session, .awaitWrqReply⟩ event =
        some agreed) :
    session.stepAwaitWrqReply event =
      agreed.checkForSigintWRQ (event.sigintAt 2)
        fun session => session.sendData event := by
  unfold Session.stepAwaitWrqReply
  cases heard : event.reception with
  | datagram sender bytes =>
      simp only [TftpClient.agreement, heard, receive,
        Session.agreeWrq] at agrees
      simp only [receive]
      cases accepted :
          (session.adoptPort sender).acceptWrqReply
            (bytes.take UdpClient.maxPacketSize) with
      | error exception =>
          rw [accepted] at agrees
          cases agrees
      | ok next =>
          rw [accepted] at agrees
          cases agrees
          rfl
  | _ =>
      simp only [TftpClient.agreement, heard, receive] at agrees
      cases agrees

/-- After an accepted answer `Read` stores a first block, or goes on. -/
theorem stepAwaitRrqReply_of_agreement
    {session agreed : Session} {writer : Writer} {retries : Nat}
    {event : Event}
    (agrees :
      TftpClient.agreement ⟨session, .awaitRrqReply writer retries⟩ event =
        some agreed) :
    (∃ sender bytes data, event.reception = .datagram sender bytes ∧
        (session.adoptPort sender).classifyRrqReply
            (bytes.take UdpClient.maxPacketSize) =
          .ok (.firstBlock data) ∧
        session.stepAwaitRrqReply writer retries event =
          agreed.storeBlock writer event data fun session writer =>
            session.afterRrqReply writer 1
              (decide (data.length < session.blksize.toNat)) event) ∨
      session.stepAwaitRrqReply writer retries event =
        agreed.afterRrqReply writer 0 false event := by
  unfold Session.stepAwaitRrqReply
  cases heard : event.reception with
  | datagram sender bytes =>
      simp only [TftpClient.agreement, heard, receive,
        Session.agreeRrq] at agrees
      simp only [receive]
      cases classified :
          (session.adoptPort sender).classifyRrqReply
            (bytes.take UdpClient.maxPacketSize) with
      | error exception =>
          rw [classified] at agrees
          cases agrees
      | ok reply =>
          cases reply with
          | firstBlock data =>
              left
              refine ⟨sender, bytes, data, rfl, classified, ?_⟩
              simp only [classified] at agrees
              simp only [Session.acceptFirstBlock]
              split
              · rename_i exception setUp
                rw [setUp] at agrees
                cases agrees
              · rename_i next setUp
                rw [setUp] at agrees
                cases agrees
                rfl
          | oack options =>
              right
              simp only [classified] at agrees
              simp only [Session.acceptOack]
              split
              · rename_i exception lacks
                rw [lacks] at agrees
                cases agrees
              · rename_i enough
                rw [enough] at agrees
                dsimp only at agrees
                split
                · rename_i exception setUp
                  rw [setUp] at agrees
                  cases agrees
                · rename_i next setUp
                  rw [setUp] at agrees
                  cases agrees
                  rfl
  | _ =>
      simp only [TftpClient.agreement, heard, receive] at agrees
      cases agrees

/-- After an accepted answer the transfer goes on as agreed. -/
theorem TftpClient.step_of_agreement
    {client : TftpClient} {event : Event} {agreed : Session}
    (agrees : client.agreement event = some agreed) :
    Proceeds agreed (client.step event) := by
  obtain ⟨sender, bytes, heard, acknowledges⟩ :=
    acknowledges_of_agreement agrees
  have settled := acknowledges.settled
  have here := Session.Continues.refl agreed
  obtain ⟨session, control⟩ := client
  cases control with
  | awaitWrqReply =>
      show Proceeds agreed (session.stepAwaitWrqReply event)
      rw [stepAwaitWrqReply_of_agreement agrees]
      exact .checkForSigintWRQ here (.sendData here settled event)
  | awaitRrqReply writer retries =>
      show Proceeds agreed (session.stepAwaitRrqReply writer retries event)
      rcases stepAwaitRrqReply_of_agreement agrees with
        ⟨_, _, data, _, _, first⟩ | goesOn
      · rw [first]
        apply Proceeds.storeBlock here
        intro storage writer
        exact .afterRrqReply (here.withStorage storage) settled _ _ _ _
      · rw [goesOn]
        exact .afterRrqReply here settled _ _ _ _
  | _ =>
      simp only [TftpClient.agreement] at agrees
      cases agrees

/-- `CheckForSigintRRQ` ends the function. -/
theorem ended_interruptRead (session : Session) (host : HostChoice)
    (writer : Writer) :
    ∃ outcome, (session.interruptRead host writer).control =
      .ended outcome := by
  unfold Session.interruptRead
  dsimp only
  split
  · exact ⟨_, rfl⟩
  · exact ⟨_, rfl⟩

/-- Between the two loops of `Read` the timeout is reset. -/
theorem afterRrqReply_cases
    {next : Session} (settled : next.Settled) (writer : Writer)
    (blockNumber : UInt16) (last : Bool) (event : Event) :
    (∃ outcome,
        (next.afterRrqReply writer blockNumber last event).control =
          .ended outcome) ∨
      Proceeds next.timeoutReset
        (next.afterRrqReply writer blockNumber last event) := by
  have scanned :
      Session.scanBlksize next.timeoutReset.blksize
          next.timeoutReset.args.options =
        .ok next.timeoutReset.blksize :=
    settled
  unfold Session.afterRrqReply
  cases interrupted : event.sigintAt 2 with
  | true =>
      left
      exact ended_interruptRead next event.host writer
  | false =>
      right
      have goesOn (following : Session → TftpClient) :
          next.checkForSigintRRQ event.host writer false following =
            following next :=
        rfl
      rw [goesOn]
      simp only [scanned]
      apply Proceeds.checkForSigintRRQ (.refl next.timeoutReset)
      exact .afterData (.refl _) _ _ _

/-- `Read` goes on from an accepted answer with its timeout reset. -/
theorem stepAwaitRrqReply_resets
    {session agreed : Session} {writer : Writer} {retries : Nat}
    {event : Event}
    (agrees :
      TftpClient.agreement ⟨session, .awaitRrqReply writer retries⟩ event =
        some agreed) :
    (∃ outcome,
        (session.stepAwaitRrqReply writer retries event).control =
          .ended outcome) ∨
      Proceeds agreed.timeoutReset
        (session.stepAwaitRrqReply writer retries event) := by
  obtain ⟨_, _, _, acknowledges⟩ :=
    TftpClient.acknowledges_of_agreement agrees
  have settled := acknowledges.settled
  rcases stepAwaitRrqReply_of_agreement agrees with
    ⟨_, _, data, _, _, first⟩ | goesOn
  · rw [first]
    unfold Session.storeBlock
    split
    · exact Or.inl ⟨_, rfl⟩
    · exact Or.inl ⟨_, rfl⟩
    · rename_i stored storage written
      have storedSettled : (agreed.withStorage storage).Settled := settled
      rcases afterRrqReply_cases storedSettled stored 1 _ event with
        isOver | proceeds
      · exact Or.inl isOver
      · right
        obtain ⟨address, args, blksize, timeout, calls⟩ :=
          proceeds.continues
        exact ⟨⟨address, args, blksize, timeout, calls⟩, proceeds.settled⟩
  · rw [goesOn]
    exact afterRrqReply_cases settled _ _ _ _

/-! ## Every other step before the first answer -/

/-- The outcomes by which a process tells that the transfer has failed. -/
def Failed : Outcome → Prop
  | .threw _ => True
  | .terminated => True
  | _ => False

/-- The client has failed, and has sent no data since. -/
structure FailsFrom (session : Session) (client : TftpClient) : Prop where
  host : client.session.serverAddress.ip = session.serverAddress.ip
  data : dataSent client.session.udp.sent = dataSent session.udp.sent
  failed : ∃ outcome, client.control = .ended outcome ∧ Failed outcome

namespace FailsFrom

variable {session : Session}

theorem raise (next : Session)
    (host : next.serverAddress.ip = session.serverAddress.ip)
    (data : dataSent next.udp.sent = dataSent session.udp.sent)
    (exception : Exception) :
    FailsFrom session (next.raise exception) where
  host := host
  data := by
    rw [← data]
    exact dataSent_reportException _ _ _
  failed := ⟨_, rfl, trivial⟩

theorem abandonRead (next : Session)
    (host : next.serverAddress.ip = session.serverAddress.ip)
    (data : dataSent next.udp.sent = dataSent session.udp.sent)
    (choice : HostChoice) (writer : Writer) (exception : Exception) :
    FailsFrom session (next.abandonRead choice writer exception) := by
  apply raise
  · exact host
  · exact data

theorem dataSent_interrupted (session : Session) :
    dataSent (session.send Session.interrupted.makeRaw).udp.sent =
      dataSent session.udp.sent :=
  dataSent_append_of_opcode (ErrorPacket.getOpcode_makeRaw _) (by decide)
    _ _

theorem interruptWrite (next : Session)
    (host : next.serverAddress.ip = session.serverAddress.ip)
    (data : dataSent next.udp.sent = dataSent session.udp.sent) :
    FailsFrom session next.interruptWrite where
  host := host
  data := (dataSent_interrupted next).trans data
  failed := ⟨_, rfl, trivial⟩

theorem interruptRead (next : Session)
    (host : next.serverAddress.ip = session.serverAddress.ip)
    (data : dataSent next.udp.sent = dataSent session.udp.sent)
    (choice : HostChoice) (writer : Writer) :
    FailsFrom session (next.interruptRead choice writer) := by
  have quiet := (dataSent_interrupted next).trans data
  unfold Session.interruptRead
  dsimp only
  split
  · exact ⟨host, quiet, _, rfl, trivial⟩
  · apply raise
    · exact host
    · exact quiet

/-- A client which has failed awaits no answer. -/
theorem settled {client : TftpClient}
    (fails : FailsFrom session client) :
    client.control.opening = false := by
  obtain ⟨outcome, isOver, _⟩ := fails.failed
  rw [isOver]
  rfl

end FailsFrom

/-- What a step can do if it brings no agreement. -/
inductive OpeningStep (session : Session) (event : Event) :
    TftpClient → Prop where
  | fails {client : TftpClient} (fails : FailsFrom session client) :
      OpeningStep session event client
  /-- `Read` sends its request again -/
  | asksAgain {next : Session} (continues : session.Continues next)
      (data : dataSent next.udp.sent = dataSent session.udp.sent)
      (writer : Writer) (retries : Nat) :
      OpeningStep session event ⟨next, .awaitRrqReply writer retries⟩
  /-- `SendWrq` takes a timeout for an answer -/
  | goesOn (silent : event.reception = .timeout) :
      OpeningStep session event
        (session.increaseTimeout.timeoutReset.sendData event)

/-- `Read` sends its request, or fails before. -/
theorem awaitRrqReplyAgain_cases (session : Session) (writer : Writer)
    (retries : Nat) (event : Event) :
    FailsFrom session (session.awaitRrqReplyAgain writer retries event) ∨
      ∃ raw, getOpcodeFromRaw raw = .ok .RRQ ∧
        session.awaitRrqReplyAgain writer retries event =
          ⟨session.send raw, .awaitRrqReply writer retries⟩ := by
  unfold Session.awaitRrqReplyAgain Session.checkForSigintRRQ
  split_ifs
  · exact Or.inl (.interruptRead session rfl rfl _ _)
  · dsimp only
    split
    · exact Or.inl (.abandonRead session rfl rfl _ _ _)
    · rename_i raw encoded
      exact
        Or.inr ⟨raw, ReadWritePacket.getOpcode_makeRaw encoded, rfl⟩
  · exact Or.inl (.abandonRead session rfl rfl _ _ _)

theorem OpeningStep.awaitRrqReplyAgain
    {session next : Session} (continues : session.Continues next)
    (data : dataSent next.udp.sent = dataSent session.udp.sent)
    (writer : Writer) (retries : Nat) (event : Event) :
    OpeningStep session event
      (next.awaitRrqReplyAgain writer retries event) := by
  have host : next.serverAddress.ip = session.serverAddress.ip := by
    rw [continues.serverAddress]
  rcases awaitRrqReplyAgain_cases next writer retries event with
    fails | ⟨raw, known, sends⟩
  · exact
      .fails
        ⟨fails.host.trans host, fails.data.trans data, fails.failed⟩
  · rw [sends]
    refine .asksAgain (continues.send raw) ?_ _ _
    rw [← data]
    exact dataSent_append_of_opcode known (by decide) _ _

/-- The one reception of `SendWrq`, if it brings no agreement. -/
theorem stepAwaitWrqReply_cases
    {session : Session} {event : Event}
    (nothing : TftpClient.agreement ⟨session, .awaitWrqReply⟩ event = none) :
    FailsFrom session (session.stepAwaitWrqReply event) ∨
      event.reception = .timeout ∧
        session.stepAwaitWrqReply event =
          session.increaseTimeout.checkForSigintWRQ (event.sigintAt 2)
            fun session => session.timeoutReset.sendData event := by
  unfold Session.stepAwaitWrqReply
  cases heard : event.reception with
  | datagram sender bytes =>
      left
      simp only [TftpClient.agreement, heard, receive,
        Session.agreeWrq] at nothing
      simp only [receive]
      cases accepted :
          (session.adoptPort sender).acceptWrqReply
            (bytes.take UdpClient.maxPacketSize) with
      | error exception =>
          dsimp only
          apply FailsFrom.raise
          · rfl
          · rfl
      | ok next =>
          rw [accepted] at nothing
          cases nothing
  | timeout => exact Or.inr ⟨rfl, rfl⟩
  | sigint => exact Or.inl (.interruptWrite session rfl rfl)
  | failure => exact Or.inl (.raise session rfl rfl _)

theorem OpeningStep.stepAwaitWrqReply
    {session : Session} {event : Event}
    (nothing : TftpClient.agreement ⟨session, .awaitWrqReply⟩ event = none) :
    OpeningStep session event (session.stepAwaitWrqReply event) := by
  rcases stepAwaitWrqReply_cases nothing with fails | ⟨silent, goesOn⟩
  · exact .fails fails
  · rw [goesOn]
    unfold Session.checkForSigintWRQ
    split_ifs
    · exact .fails (.interruptWrite session.increaseTimeout rfl rfl)
    · exact .goesOn silent

/-- One reception while `Read` waits, if it brings no agreement. -/
theorem stepAwaitRrqReply_cases
    {session : Session} {writer : Writer} {retries : Nat} {event : Event}
    (nothing :
      TftpClient.agreement ⟨session, .awaitRrqReply writer retries⟩ event =
        none) :
    FailsFrom session (session.stepAwaitRrqReply writer retries event) ∨
      session.stepAwaitRrqReply writer retries event =
        session.increaseTimeout.awaitRrqReplyAgain writer (retries + 1)
          event := by
  unfold Session.stepAwaitRrqReply
  cases heard : event.reception with
  | datagram sender bytes =>
      left
      simp only [TftpClient.agreement, heard, receive,
        Session.agreeRrq] at nothing
      simp only [receive]
      cases classified :
          (session.adoptPort sender).classifyRrqReply
            (bytes.take UdpClient.maxPacketSize) with
      | error exception =>
          dsimp only
          apply FailsFrom.abandonRead
          · rfl
          · rfl
      | ok reply =>
          cases reply with
          | firstBlock data =>
              obtain ⟨next, setUp, _⟩ :=
                setupUdpClient_setsUp
                  ((session.adoptPort sender).withOptions [])
              simp only [classified, setUp] at nothing
              cases nothing
          | oack options =>
              simp only [classified] at nothing
              simp only [Session.acceptOack]
              split
              · apply FailsFrom.abandonRead
                · rfl
                · rfl
              · rename_i enough
                obtain ⟨next, setUp, _⟩ :=
                  setupUdpClient_setsUp
                    ((session.adoptPort sender).withOptions options)
                simp only [enough, setUp] at nothing
                cases nothing
  | timeout => exact Or.inr rfl
  | sigint => exact Or.inl (.interruptRead session rfl rfl _ _)
  | failure => exact Or.inl (.abandonRead session rfl rfl _ _ _)

theorem OpeningStep.stepAwaitRrqReply
    {session : Session} {writer : Writer} {retries : Nat} {event : Event}
    (nothing :
      TftpClient.agreement ⟨session, .awaitRrqReply writer retries⟩ event =
        none) :
    OpeningStep session event
      (session.stepAwaitRrqReply writer retries event) := by
  rcases stepAwaitRrqReply_cases nothing with fails | again
  · exact .fails fails
  · rw [again]
    exact
      .awaitRrqReplyAgain (Session.Continues.refl session).increaseTimeout
        rfl _ _ _

/-- Everything a step can do before the first answer, but agree. -/
theorem TftpClient.step_opening
    {client : TftpClient} (opening : client.control.opening = true)
    {event : Event} (nothing : client.agreement event = none) :
    OpeningStep client.session event (client.step event) := by
  obtain ⟨session, control⟩ := client
  cases control with
  | awaitWrqReply => exact .stepAwaitWrqReply nothing
  | awaitRrqReply writer retries => exact .stepAwaitRrqReply nothing
  | _ => cases opening

/-- `SendWrq` sends its request, or fails before. -/
theorem sendWrq_cases (session : Session) (event : Event) :
    FailsFrom session (session.sendWrq event) ∨
      ∃ raw, getOpcodeFromRaw raw = .ok .WRQ ∧
        session.sendWrq event = ⟨session.send raw, .awaitWrqReply⟩ := by
  unfold Session.sendWrq Session.checkForSigintWRQ
  split_ifs with early late
  · exact Or.inl (.interruptWrite session rfl rfl)
  · left
    dsimp only
    split
    · exact .raise session rfl rfl _
    · rename_i raw encoded
      have known := ReadWritePacket.getOpcode_makeRaw encoded
      apply FailsFrom.interruptWrite
      · rfl
      · exact dataSent_append_of_opcode known (by simp) _ _
  · dsimp only
    split
    · exact Or.inl (.raise session rfl rfl _)
    · rename_i raw encoded
      exact
        Or.inr ⟨raw, ReadWritePacket.getOpcode_makeRaw encoded, rfl⟩

/-- Up to the first receive the client sends its request, or fails. -/
theorem run_cases (session : Session) (first : Event) :
    FailsFrom session (session.run first) ∨
      ∃ raw control, control.opening = true ∧
        session.run first = ⟨session.send raw, control⟩ := by
  cases mode : session.args.mode with
  | READ =>
      rw [Session.run_of_read mode, Session.read]
      rcases awaitRrqReplyAgain_cases session _ 0 first with
        fails | ⟨raw, _, sends⟩
      · exact Or.inl fails
      · exact Or.inr ⟨raw, _, rfl, sends⟩
  | WRITE =>
      rw [Session.run_of_write mode]
      rcases sendWrq_cases session first with fails | ⟨raw, _, sends⟩
      · exact Or.inl fails
      · exact Or.inr ⟨raw, _, rfl, sends⟩

/-- Nobody comes back to the wait for the first answer to a WRQ. -/
theorem TftpClient.step_ne_awaitWrqReply (client : TftpClient)
    (event : Event) :
    (client.step event).control ≠ .awaitWrqReply := by
  have moved : ∀ {reached : TftpClient},
      reached.control.opening = false →
        reached.control ≠ .awaitWrqReply := by
    rintro reached settled waits
    rw [waits] at settled
    cases settled
  cases opening : client.control.opening with
  | false => exact moved (step_proceeds opening event).settled
  | true =>
      cases agrees : client.agreement event with
      | some agreed => exact moved (step_of_agreement agrees).settled
      | none =>
          have step := step_opening opening agrees
          generalize client.step event = reached at step ⊢
          cases step with
          | fails fails => exact moved fails.settled
          | asksAgain => simp
          | goesOn =>
              obtain ⟨blksize, proceeds⟩ :=
                sendData_proceeds
                  client.session.increaseTimeout.timeoutReset event
              exact moved proceeds.settled

end IsaTftp.Client
