import IsaTftp.Client.Origin
import IsaTftp.Client.Permission

/-!
# Falling back to the defaults

The constructor sets the block size and the timeout to the requested values.
When the first answer leaves an option out, the options are dropped "to use
default block size and timeout", and `SetupUdpClient` runs again; but it only
sets what is among the options, so the requested values stay.

The timeout in force is that of the socket.  `Read` resets it to one second
behind the first answer, whatever the answer says; `SendData` keeps what
`SetupUdpClient` has left until its first reset.
-/

namespace IsaTftp.Client

open IsaTftp.Wire
open IsaTftp.Files
open IsaTftp.Transfer
open IsaTftp.Library.Runs
open IsaTftp.Library.Backoff

/-! ## Defaults -/

/-- One of the options has this name. -/
def Names (options : List TftpOption) (name : OptionName) : Prop :=
  ∃ option ∈ options, option.name = name

/--
A number which was set by the requested options and then by the acknowledged
ones is what the acknowledged ones say exactly when these name the option, or
when what was requested is the default.
-/
theorem lastNumber_reset_iff
    (name : OptionName) (default : Nat)
    (requested acknowledged : List TftpOption) :
    lastNumber name (lastNumber name default requested) acknowledged =
        lastNumber name default acknowledged ↔
      Names acknowledged name ∨
        lastNumber name default requested = default := by
  by_cases named : Names acknowledged name
  · obtain ⟨option, member, isNamed⟩ := id named
    simp only [named, true_or, iff_true]
    exact lastNumber_of_mem member isNamed _ _
  · have absent : ∀ option ∈ acknowledged, option.name ≠ name :=
      fun option member isNamed => named ⟨option, member, isNamed⟩
    simp only [lastNumber_of_absent absent, named, false_or]

theorem blksizeIn_bounds (options : List TftpOption) :
    8 ≤ blksizeIn options ∧ blksizeIn options ≤ 65464 := by
  by_cases named : Names options .BLKSIZE
  · obtain ⟨option, _, isBlksize, value⟩ :=
      exists_lastNumber named defaultBlksize
    obtain ⟨_, bounds⟩ := numberOf_blksize isBlksize
    rw [blksizeIn, value]
    exact bounds
  · have absent : ∀ option ∈ options, option.name ≠ .BLKSIZE :=
      fun option member isNamed => named ⟨option, member, isNamed⟩
    rw [blksizeIn, lastNumber_of_absent absent]
    decide

/-! ## Before the first answer -/

/-- While the first answer is awaited, what was requested is in force. -/
def Requests (args : TftpClientArgs) (client : TftpClient) : Prop :=
  client.control.opening = true →
    client.session.args = args ∧
      client.session.blksize.toNat = blksizeIn args.options

/-- A step which still awaits the answer has changed none of it. -/
theorem TftpClient.step_awaits
    {client : TftpClient} {event : Event}
    (awaits : (client.step event).control.opening = true) :
    client.control.opening = true ∧
      client.session.Continues (client.step event).session := by
  cases opening : client.control.opening with
  | false =>
      rw [(step_proceeds opening event).settled] at awaits
      cases awaits
  | true =>
      refine ⟨rfl, ?_⟩
      cases agrees : client.agreement event with
      | some agreed =>
          rw [(step_of_agreement agrees).settled] at awaits
          cases awaits
      | none =>
          have step := step_opening opening agrees
          generalize client.step event = reached at step awaits ⊢
          cases step with
          | fails fails =>
              rw [fails.settled] at awaits
              cases awaits
          | asksAgain continues => exact continues
          | goesOn =>
              obtain ⟨blksize, proceeds⟩ :=
                sendData_proceeds
                  client.session.increaseTimeout.timeoutReset event
              rw [proceeds.settled] at awaits
              cases awaits

theorem Requests.step
    {args : TftpClientArgs} {client : TftpClient}
    (requests : Requests args client) (event : Event) :
    Requests args (client.step event) := by
  intro awaits
  obtain ⟨opening, continues⟩ := TftpClient.step_awaits awaits
  rw [continues.args, continues.blksize]
  exact requests opening

theorem Requests.run
    {args : TftpClientArgs} {serverAddress : Address} {stdin : Bytes}
    {files : FileSystem} {session : Session}
    (made : Session.make args serverAddress stdin files = .ok session)
    (first : Event) :
    Requests args (session.run first) := by
  have setsUp := setsUp_of_setupUdpClient made
  have here :
      session.args = args ∧
        session.blksize.toNat = blksizeIn args.options :=
    ⟨setsUp.args, setsUp.blksize⟩
  intro awaits
  rcases run_cases session first with fails | ⟨raw, control, _, sends⟩
  · rw [fails.settled] at awaits
    cases awaits
  · rw [sends]
    exact here

/-! ## After the first answer -/

/-- Only a client which awaits its first answer can agree. -/
theorem TftpClient.opening_of_agreement
    {client : TftpClient} {event : Event} {agreed : Session}
    (agrees : client.agreement event = some agreed) :
    client.control.opening = true := by
  obtain ⟨session, control⟩ := client
  cases control with
  | awaitWrqReply => rfl
  | awaitRrqReply => rfl
  | _ => cases agrees

/-- The requested block size is replaced by the acknowledged one. -/
theorem Requests.agrees
    {args : TftpClientArgs} {client : TftpClient} {event : Event}
    {agreed : Session} (requests : Requests args client)
    {sender : Address} {packet : Bytes}
    (agrees : client.agreement event = some agreed)
    (acknowledges : Acknowledges client.session sender packet agreed) :
    client.session.args = args ∧
      agreed.blksize.toNat =
        lastNumber .BLKSIZE (blksizeIn args.options)
          (acknowledgedOptions packet) := by
  obtain ⟨sameArgs, blksize⟩ :=
    requests (TftpClient.opening_of_agreement agrees)
  refine ⟨sameArgs, ?_⟩
  rw [acknowledges.setsUp.blksize, ← blksize]
  rfl

/-- What was agreed on stays in force for the rest of the run. -/
theorem Proceeds.run
    {session : Session} {client : TftpClient}
    (proceeds : Proceeds session client) (events : List Event) :
    Proceeds session (run TftpClient.step client events) :=
  run_invariant (Proceeds session)
    (fun _ event here =>
      have next := TftpClient.step_proceeds here.settled event
      ⟨here.continues.trans next.continues, next.settled⟩)
    proceeds events

/-- An acknowledged block size is not larger than the requested one. -/
theorem blksizeIn_le_of_checkOack
    {session : Session} {options : List TftpOption}
    (checked : session.checkOack ⟨options⟩ = .ok ()) :
    blksizeIn options ≤
      max defaultBlksize (blksizeIn session.args.options) := by
  by_cases named : Names options .BLKSIZE
  · obtain ⟨option, member, isBlksize, value⟩ :=
      exists_lastNumber named defaultBlksize
    obtain ⟨⟨requested, among, sameName⟩, compared⟩ :=
      (checkOack_eq_ok_iff.mp checked).2 option member
    obtain ⟨last, among, isNamed, lastValue⟩ :=
      exists_lastNumber
        ⟨requested, among, sameName.symm.trans isBlksize⟩ defaultBlksize
    have smaller :=
      blksize_le_of_compareOptions isBlksize (isBlksize.trans isNamed.symm)
        (compared last among (isBlksize.trans isNamed.symm))
    rw [blksizeIn, value, blksizeIn, lastValue]
    exact le_max_of_le_right smaller
  · have absent : ∀ option ∈ options, option.name ≠ .BLKSIZE :=
      fun option member isNamed => named ⟨option, member, isNamed⟩
    rw [blksizeIn, lastNumber_of_absent absent]
    exact le_max_left _ _

/-! ## The timeout in force -/

/-- While `SendWrq` waits, the requested timeout is in force. -/
def AsksToWrite (args : TftpClientArgs) (client : TftpClient) : Prop :=
  client.control = .awaitWrqReply →
    client.session.udp.timeout = UdpClient.defaultTimeout ∧
      client.session.udp.receiveTimeout = timeoutIn args.options

theorem AsksToWrite.step (args : TftpClientArgs) (client : TftpClient)
    (event : Event) :
    AsksToWrite args (client.step event) :=
  fun waits => absurd waits (client.step_ne_awaitWrqReply event)

theorem AsksToWrite.run
    {args : TftpClientArgs} {serverAddress : Address} {stdin : Bytes}
    {files : FileSystem} {session : Session}
    (made : Session.make args serverAddress stdin files = .ok session)
    (first : Event) :
    AsksToWrite args (session.run first) := by
  have setsUp := setsUp_of_setupUdpClient made
  intro waits
  rcases run_cases session first with fails | ⟨raw, control, _, sends⟩
  · have settled := fails.settled
    rw [waits] at settled
    cases settled
  · rw [sends]
    exact ⟨setsUp.udpTimeout, setsUp.receiveTimeout⟩

/-- The socket still has the requested timeout, if the answer names none. -/
theorem AsksToWrite.agrees
    {args : TftpClientArgs} {client : TftpClient} {agreed : Session}
    {sender : Address} {packet : Bytes} (asks : AsksToWrite args client)
    (waits : client.control = .awaitWrqReply)
    (acknowledges : Acknowledges client.session sender packet agreed) :
    agreed.udp.timeout = UdpClient.defaultTimeout ∧
      (agreed.udp.receiveTimeout = timeoutIn (acknowledgedOptions packet) ↔
        Names (acknowledgedOptions packet) .TIMEOUT ∨
          timeoutIn args.options = 1) := by
  obtain ⟨timeout, receiveTimeout⟩ := asks waits
  have setsUp := acknowledges.setsUp.receiveTimeout
  simp only [Session.withOptions_udp, Session.adoptPort_udp,
    receiveTimeout] at setsUp
  refine ⟨acknowledges.setsUp.udpTimeout.trans timeout, ?_⟩
  rw [setsUp]
  exact lastNumber_reset_iff _ _ _ _

/--
While the client waits, its timeout is the given one, doubled for every
increase since the last reset.
-/
def WaitsFor (agreed : Session) (timeout : Nat) (client : TftpClient) :
    Prop :=
  (∀ outcome, client.control ≠ .ended outcome) →
    ∃ calls, UdpClient.History agreed.udp calls client.session.udp ∧
      client.session.udp.receiveTimeout = timeout * 2 ^ increases calls

/-- A client which has ended does not wait any more. -/
theorem WaitsFor.of_ended
    {client : TftpClient}
    (isOver : ∃ outcome, client.control = .ended outcome)
    (agreed : Session) (timeout : Nat) (later : List Event) :
    WaitsFor agreed timeout (run TftpClient.step client later) := by
  obtain ⟨outcome, isOver⟩ := isOver
  obtain ⟨session, control⟩ := client
  dsimp only at isOver
  subst isOver
  rw [run_of_halted (fun event => TftpClient.step_ended _ _ event)]
  intro waits
  exact absurd rfl (waits outcome)

/-- The transfer is not over with the answer which is accepted. -/
def GoesOn (client : TftpClient) (event : Event) (agreed : Session) :
    Prop :=
  match client.control with
  | .awaitWrqReply => agreed.Begins event ∧ event.sigintAt 6 = false
  | _ => event.sigintAt 4 = false

/--
One second is what the answer says or leaves to the default; and if `SendData`
goes on with the timeout of `SendWrq`, this was one second, too, or the answer
has replaced it.
-/
def OneSecond (requested acknowledged : List TftpOption)
    (client : TftpClient) : Prop :=
  timeoutIn acknowledged = 1 ∧
    (client.control = .awaitWrqReply →
      Names acknowledged .TIMEOUT ∨ timeoutIn requested = 1)

/-! ### Read -/

section Reading

variable {agreed : Session} {event : Event}

/-- A signal which is noticed by the last check ends the transfer. -/
theorem ended_afterRrqReply
    (settled : agreed.Settled) (noticed : event.sigintAt 4 = true)
    (writer : Writer) (blockNumber : UInt16) (last : Bool) :
    ∃ outcome,
      (agreed.afterRrqReply writer blockNumber last event).control =
        .ended outcome := by
  have ended := fun session : Session =>
    ended_interruptRead session event.host writer
  have later : ∀ session : Session, ∃ outcome,
      (session.afterData writer blockNumber last event).control =
        .ended outcome := by
    intro session
    simp only [Session.afterData, Session.finishRead,
      Session.awaitDataAgain, Session.checkForSigintRRQ, noticed, if_true]
    split_ifs
    · exact ended _
    · exact ended _
    · exact ended _
  have scanned :
      Session.scanBlksize agreed.timeoutReset.blksize
          agreed.timeoutReset.args.options =
        .ok agreed.timeoutReset.blksize :=
    settled
  unfold Session.afterRrqReply Session.checkForSigintRRQ
  simp only [scanned]
  split_ifs
  · exact ended _
  · exact ended _
  · exact later _

/-- Otherwise the client waits for the first block, for one second. -/
theorem afterRrqReply_waits
    (settled : agreed.Settled) (calm : event.sigintAt 4 = false)
    (writer : Writer) :
    let next := agreed.afterRrqReply writer 0 false event
    next.control = .awaitData writer 0 0 0 ∧
      next.session.udp.receiveTimeout = 1 := by
  have second : event.sigintAt 2 = false := sigintAt_of_le (by decide) calm
  have third : event.sigintAt 3 = false := sigintAt_of_le (by decide) calm
  have more : 0 < maxRetries := by decide
  simp only [Session.afterRrqReply, Session.checkForSigintRRQ, second,
    third, calm, Session.timeoutReset_blksize, Session.timeoutReset_args,
    show Session.scanBlksize agreed.blksize agreed.args.options =
      .ok agreed.blksize from settled,
    Session.afterData, Session.awaitDataAgain, more, if_true,
    Bool.false_eq_true, if_false]
  exact ⟨trivial, rfl⟩

variable {session : Session} {writer : Writer} {retries : Nat}
variable {sender : Address} {packet : Bytes}

/-- A signal in this step ends the transfer, if there is another check. -/
theorem ended_reading
    (agrees :
      TftpClient.agreement ⟨session, .awaitRrqReply writer retries⟩ event =
        some agreed)
    (settled : agreed.Settled) (noticed : event.sigintAt 4 = true) :
    ∃ outcome,
      (session.stepAwaitRrqReply writer retries event).control =
        .ended outcome := by
  rcases stepAwaitRrqReply_of_agreement agrees with
    ⟨_, _, data, _, _, first⟩ | goesOn
  · rw [first]
    unfold Session.storeBlock
    split
    · exact ⟨_, rfl⟩
    · exact ⟨_, rfl⟩
    · rename_i stored storage _
      exact
        ended_afterRrqReply
          (show (agreed.withStorage storage).Settled from settled) noticed
          stored 1 _
  · rw [goesOn]
    exact ended_afterRrqReply settled noticed writer 0 false

/-- In `Read` every wait starts from one second. -/
theorem waitsFor_reading
    (agrees :
      TftpClient.agreement ⟨session, .awaitRrqReply writer retries⟩ event =
        some agreed)
    (later : List Event) :
    WaitsFor agreed 1
      (run TftpClient.step
        (session.stepAwaitRrqReply writer retries event) later) := by
  rcases stepAwaitRrqReply_resets agrees with isOver | proceeds
  · exact .of_ended isOver agreed 1 later
  · intro _
    obtain ⟨calls, history⟩ := (proceeds.run later).continues.calls
    refine
      ⟨[.reset] ++ calls, UdpClient.History.refl.timeoutReset.trans history,
        ?_⟩
    have begun : calls = [] →
        agreed.udp.timeoutReset.receiveTimeout = 1 :=
      fun _ => rfl
    have inForce := (history.inForce_iff rfl 1).mpr (by simpa using begun)
    rw [inForce]
    rfl

/-- So this is what the answer must name, unless the transfer is over. -/
theorem oneSecond_of_reading
    (agrees :
      TftpClient.agreement ⟨session, .awaitRrqReply writer retries⟩ event =
        some agreed)
    {bytes : Bytes} (heard : event.reception = .datagram sender bytes)
    (acknowledges :
      Acknowledges session sender (bytes.take UdpClient.maxPacketSize)
        agreed)
    (calm : event.sigintAt 4 = false)
    (waits :
      WaitsFor agreed
        (timeoutIn
          (acknowledgedOptions (bytes.take UdpClient.maxPacketSize)))
        (session.stepAwaitRrqReply writer retries event)) :
    timeoutIn
        (acknowledgedOptions (bytes.take UdpClient.maxPacketSize)) =
      1 := by
  rcases stepAwaitRrqReply_of_agreement agrees with
    ⟨other, contents, data, hears, classified, _⟩ | goesOn
  · cases heard.symm.trans hears
    rcases classifyRrqReply_cases classified with
      ⟨block, _, known, _⟩ | ⟨oack, isOack, _⟩
    · rw [acknowledgedOptions_of_opcode known (by decide)]
      rfl
    · cases isOack
  · obtain ⟨control, receiveTimeout⟩ :=
      afterRrqReply_waits acknowledges.settled calm writer
    rw [goesOn] at waits
    obtain ⟨calls, _, inForce⟩ := waits (by simp [control])
    rw [receiveTimeout] at inForce
    exact Nat.eq_one_of_mul_eq_one_right inForce.symm

end Reading

/-! ### SendData -/

section Writing

variable {agreed session : Session} {event : Event}

/-- `SendData` sends its first block and waits with the timeout it has. -/
theorem stepAwaitWrqReply_waits
    (agrees :
      TftpClient.agreement ⟨session, .awaitWrqReply⟩ event = some agreed)
    (settled : agreed.Settled) (begins : agreed.Begins event)
    (calm : event.sigintAt 6 = false) :
    ∃ sending data, (session.stepAwaitWrqReply event).control =
        .awaitAck sending 0 0 ∧
      (session.stepAwaitWrqReply event).session.udp =
        agreed.udp.send data agreed.serverAddress := by
  obtain ⟨_, block, readable⟩ := begins
  have unseen := fun check (before : check ≤ 6) =>
    sigintAt_of_le before calm
  have more : 0 < maxRetries := by decide
  rw [stepAwaitWrqReply_of_agreement agrees]
  simp only [Session.checkForSigintWRQ, Session.sendData,
    Session.sendNextBlock, Session.sendBlock, Session.awaitAckAgain,
    unseen 2 (by decide), unseen 3 (by decide), unseen 5 (by decide), calm,
    show Session.scanBlksize agreed.blksize agreed.args.options =
      .ok agreed.blksize from settled,
    readable, more, if_true, Bool.false_eq_true, if_false]
  exact ⟨_, _, rfl, rfl⟩

/-- Otherwise the transfer is over. -/
theorem ended_writing
    (agrees :
      TftpClient.agreement ⟨session, .awaitWrqReply⟩ event = some agreed)
    (settled : agreed.Settled)
    (isOver : ¬ (agreed.Begins event ∧ event.sigintAt 6 = false)) :
    ∃ outcome, (session.stepAwaitWrqReply event).control =
      .ended outcome := by
  have sends : ∀ sending : Session,
      sending.blksize = agreed.blksize → event.sigintAt 5 = false →
        ∃ outcome,
          (sending.sendBlock
            (StdHandler.make (formatOfMode agreed.args.fileMode)
              agreed.stdin) 1 event).control = .ended outcome := by
    intro sending sameSize fifth
    unfold Session.sendBlock
    rw [sameSize]
    split
    · exact ⟨_, rfl⟩
    · exact ⟨_, rfl⟩
    · rename_i data next readable
      have noticed : event.sigintAt 6 = true := by
        by_contra calm
        exact isOver ⟨⟨fifth, _, readable⟩, by simpa using calm⟩
      have more : 0 < maxRetries := by decide
      simp only [Session.awaitAckAgain, Session.checkForSigintWRQ, more,
        noticed, if_true]
      exact ⟨_, rfl⟩
  rw [stepAwaitWrqReply_of_agreement agrees]
  simp only [Session.checkForSigintWRQ, Session.sendData,
    Session.sendNextBlock,
    show Session.scanBlksize agreed.blksize agreed.args.options =
      .ok agreed.blksize from settled]
  split_ifs with second third fifth
  · exact ⟨_, rfl⟩
  · exact ⟨_, rfl⟩
  · exact ⟨_, rfl⟩
  · exact sends _ rfl (by simpa using fifth)

/-- After a timeout the client waits again, for twice as long. -/
theorem step_of_silence
    {client : TftpClient} {sending : Sending}
    (waits : client.control = .awaitAck sending 0 0) :
    let next := run TftpClient.step client [{ reception := .timeout }]
    next.control = .awaitAck sending 1 0 ∧
      next.session.udp = client.session.udp.increaseTimeout := by
  obtain ⟨session, control⟩ := client
  dsimp only at waits
  subst waits
  exact ⟨rfl, rfl⟩

/-- The first wait and the one after a timeout both take what was agreed. -/
theorem oneSecond_of_writing
    (agrees :
      TftpClient.agreement ⟨session, .awaitWrqReply⟩ event = some agreed)
    (settled : agreed.Settled)
    (fresh : agreed.udp.timeout = UdpClient.defaultTimeout)
    (begins : agreed.Begins event) (calm : event.sigintAt 6 = false)
    {timeout : Nat}
    (waits : ∀ later,
      WaitsFor agreed timeout
        (run TftpClient.step (session.stepAwaitWrqReply event) later)) :
    timeout = 1 ∧ agreed.udp.receiveTimeout = timeout := by
  obtain ⟨sending, data, control, udp⟩ :=
    stepAwaitWrqReply_waits agrees settled begins calm
  have one : timeout = 1 := by
    obtain ⟨waiting, increased⟩ := step_of_silence control
    obtain ⟨calls, history, inForce⟩ :=
      waits [{ reception := .timeout }] (by rw [waiting]; simp)
    have called : calls ≠ [] := by
      rintro rfl
      have same := history.timeout
      rw [increased, udp] at same
      have doubled : agreed.udp.timeout * 2 = agreed.udp.timeout := same
      rw [fresh] at doubled
      exact absurd doubled (by decide)
    rw [history.inForce_iff fresh, if_neg called] at inForce
    exact inForce
  refine ⟨one, ?_⟩
  obtain ⟨calls, history, inForce⟩ := waits [] (by simp [control])
  rw [history.inForce_iff fresh] at inForce
  by_cases called : calls = []
  · rw [if_pos called] at inForce
    exact inForce
  · have same := history.receiveTimeout
    rw [if_neg called] at same
    simp only [run, List.foldl_nil, udp] at same
    rw [one]
    exact same.trans fresh

/-- If it was one second from the start, it stays so. -/
theorem waitsFor_writing
    (agrees :
      TftpClient.agreement ⟨session, .awaitWrqReply⟩ event = some agreed)
    (fresh : agreed.udp.timeout = UdpClient.defaultTimeout)
    (one : agreed.udp.receiveTimeout = 1) (later : List Event) :
    WaitsFor agreed 1
      (run TftpClient.step (session.stepAwaitWrqReply event) later) := by
  intro _
  have proceeds : Proceeds agreed (session.stepAwaitWrqReply event) :=
    TftpClient.step_of_agreement agrees
  obtain ⟨calls, history⟩ := (proceeds.run later).continues.calls
  refine ⟨calls, history, (history.inForce_iff fresh 1).mpr ?_⟩
  split_ifs
  · exact one
  · rfl

end Writing

/--
The client falls back to what the first answer acknowledges: from this step
to the end of every run its block size is that of the acknowledged options, or
the default, and so is the timeout of every wait; a block which came instead of
an OACK is read and tested with the same block size.
-/
structure FallsBack (requested : List TftpOption) (client : TftpClient)
    (event : Event) (sender : Address) (packet : Bytes)
    (agreed : Session) : Prop where
  blksize : ∀ later,
    (run TftpClient.step (client.step event)
        later).session.blksize.toNat =
      blksizeIn (acknowledgedOptions packet)
  timeout : ∀ later,
    WaitsFor agreed (timeoutIn (acknowledgedOptions packet))
      (run TftpClient.step (client.step event) later)
  bounds : ∀ later,
    8 ≤ (run TftpClient.step (client.step event)
          later).session.blksize.toNat ∧
      (run TftpClient.step (client.step event)
          later).session.blksize.toNat ≤
        max defaultBlksize (blksizeIn requested)
  firstBlock : ∀ writer retries data,
    client.control = .awaitRrqReply writer retries →
      (client.session.adoptPort sender).classifyRrqReply packet =
          .ok (.firstBlock data) →
        dataIn (blksizeIn (acknowledgedOptions packet)) packet =
            some (1, data) ∧
          client.step event =
            agreed.storeBlock writer event data fun session writer =>
              session.afterRrqReply writer 1
                (decide
                  (data.length <
                    blksizeIn (acknowledgedOptions packet)))
                event

/-- What the code does with a block which came instead of an OACK. -/
theorem step_of_firstBlock
    {session agreed : Session} {writer : Writer} {retries : Nat}
    {event : Event} {sender : Address} {bytes data : Bytes}
    (heard : event.reception = .datagram sender bytes)
    (classified :
      (session.adoptPort sender).classifyRrqReply
          (bytes.take UdpClient.maxPacketSize) =
        .ok (.firstBlock data))
    (agrees :
      TftpClient.agreement ⟨session, .awaitRrqReply writer retries⟩
        event = some agreed) :
    TftpClient.step ⟨session, .awaitRrqReply writer retries⟩ event =
      agreed.storeBlock writer event data fun session writer =>
        session.afterRrqReply writer 1
          (decide (data.length < agreed.blksize.toNat)) event := by
  simp only [TftpClient.agreement, heard, receive, Session.agreeRrq,
    classified] at agrees
  simp only [TftpClient.step, Session.stepAwaitRrqReply, heard, receive,
    classified, Session.acceptFirstBlock]
  obtain ⟨next, setUp, _⟩ :=
    setupUdpClient_setsUp ((session.adoptPort sender).withOptions [])
  rw [setUp] at agrees ⊢
  cases agrees
  rfl

/-- Such a block has number one, and is read with the agreed block size. -/
theorem dataIn_of_firstBlock
    {session agreed : Session} {sender : Address} {packet data : Bytes}
    (classified :
      (session.adoptPort sender).classifyRrqReply packet =
        .ok (.firstBlock data))
    (acknowledges : Acknowledges session sender packet agreed) :
    dataIn agreed.blksize.toNat packet = some (1, data) := by
  rcases classifyRrqReply_cases classified with
    ⟨block, isBlock, known, carried⟩ | ⟨oack, isOack, _⟩
  · cases isBlock
    have same := acknowledges.setsUp.blksize
    rw [acknowledgedOptions_of_opcode known (by decide)] at same
    rw [same]
    exact carried
  · cases isOack

/-- Exactly when every wait takes the acknowledged timeout. -/
theorem waitsFor_iff
    {args : TftpClientArgs} {client : TftpClient} {event : Event}
    {sender : Address} {bytes : Bytes} {agreed : Session}
    (asks : AsksToWrite args client)
    (heard : event.reception = .datagram sender bytes)
    (agrees : client.agreement event = some agreed)
    (acknowledges :
      Acknowledges client.session sender
        (bytes.take UdpClient.maxPacketSize) agreed) :
    let acknowledged :=
      acknowledgedOptions (bytes.take UdpClient.maxPacketSize)
    (∀ later,
        WaitsFor agreed (timeoutIn acknowledged)
          (run TftpClient.step (client.step event) later)) ↔
      (GoesOn client event agreed →
        OneSecond args.options acknowledged client) := by
  intro acknowledged
  have settled := acknowledges.settled
  obtain ⟨session, control⟩ := client
  cases control with
  | awaitWrqReply =>
      obtain ⟨fresh, kept⟩ := asks.agrees rfl acknowledges
      constructor
      · rintro waits ⟨begins, calm⟩
        obtain ⟨one, same⟩ :=
          oneSecond_of_writing agrees settled fresh begins calm waits
        exact ⟨one, fun _ => kept.mp same⟩
      · intro oneSecond later
        by_cases goesOn : agreed.Begins event ∧ event.sigintAt 6 = false
        · obtain ⟨one, hidden⟩ := oneSecond goesOn
          have same := kept.mpr (hidden rfl)
          rw [one]
          exact waitsFor_writing agrees fresh (same.trans one) later
        · exact
            .of_ended (ended_writing agrees settled goesOn) agreed _ later
  | awaitRrqReply writer retries =>
      constructor
      · intro waits calm
        exact
          ⟨oneSecond_of_reading agrees heard acknowledges calm (waits []),
            fun writes => nomatch writes⟩
      · intro oneSecond later
        cases noticed : event.sigintAt 4 with
        | true =>
            exact
              .of_ended (ended_reading agrees settled noticed) agreed _
                later
        | false =>
            rw [(oneSecond noticed).1]
            exact waitsFor_reading agrees later
  | _ => cases agrees

/--
Exactly when the client falls back to what the server acknowledged.  For the
block size: the option is acknowledged, or what was requested is the default.
For the timeout: the transfer is over with this answer, or what is acknowledged
is the default of one second, and so is what `SendWrq` has waited for unless it
was replaced.
-/
theorem falls_back_iff
    (args : TftpClientArgs) (serverAddress : Address) (stdin : Bytes)
    (files : FileSystem) (session : Session) (first : Event)
    (events : List Event) (taken : TftpClient × Event)
    (sender : Address) (bytes : Bytes) (agreed : Session)
    (made : Session.make args serverAddress stdin files = .ok session)
    (member :
      taken ∈ stepsOf TftpClient.step (session.run first) events)
    (heard : taken.2.reception = .datagram sender bytes)
    (agrees : taken.1.agreement taken.2 = some agreed) :
    let packet := bytes.take UdpClient.maxPacketSize
    FallsBack args.options taken.1 taken.2 sender packet agreed ↔
      (Names (acknowledgedOptions packet) .BLKSIZE ∨
          blksizeIn args.options = defaultBlksize) ∧
        (GoesOn taken.1 taken.2 agreed →
          OneSecond args.options (acknowledgedOptions packet)
            taken.1) := by
  dsimp only
  obtain ⟨client, event⟩ := taken
  dsimp only at heard agrees ⊢
  have requests : Requests args client :=
    stepsOf_invariant (Requests args)
      (fun _ event here => here.step event) (Requests.run made first)
      member
  have asks : AsksToWrite args client :=
    stepsOf_invariant (AsksToWrite args)
      (fun client event _ => .step args client event) (.run made first)
      member
  obtain ⟨other, contents, hears, acknowledges⟩ :=
    TftpClient.acknowledges_of_agreement agrees
  rw [heard] at hears
  cases hears
  obtain ⟨sameArgs, agreedBlksize⟩ := requests.agrees agrees acknowledges
  have stays := fun later =>
    ((TftpClient.step_of_agreement agrees).run later).continues
  have sizes :=
    lastNumber_reset_iff .BLKSIZE defaultBlksize args.options
      (acknowledgedOptions (bytes.take UdpClient.maxPacketSize))
  have times := waitsFor_iff asks heard agrees acknowledges
  constructor
  · intro fallsBack
    constructor
    · have same := fallsBack.blksize []
      rw [(stays []).blksize, agreedBlksize] at same
      exact sizes.mp same
    · exact times.mp fallsBack.timeout
  · rintro ⟨size, time⟩
    have sameSize : agreed.blksize.toNat =
        blksizeIn
          (acknowledgedOptions (bytes.take UdpClient.maxPacketSize)) :=
      agreedBlksize.trans (sizes.mpr size)
    constructor
    · intro later
      rw [(stays later).blksize, sameSize]
    · exact times.mpr time
    · intro later
      rw [(stays later).blksize, sameSize]
      refine ⟨(blksizeIn_bounds _).1, ?_⟩
      rw [← sameArgs]
      exact blksizeIn_le_of_checkOack acknowledges.checked
    · intro writer retries data waits classified
      obtain ⟨waiting, control⟩ := client
      dsimp only at waits
      subst waits
      rw [step_of_firstBlock heard classified agrees, sameSize]
      refine ⟨?_, rfl⟩
      rw [← sameSize]
      exact dataIn_of_firstBlock classified acknowledges

/-! ## A small download -/

/-- The option `blksize` with the value 8. -/
def smallBlksize : TftpOption :=
  ⟨.BLKSIZE, text "blksize", text "8", by decide⟩

/-- The option `timeout` with the value 1. -/
def shortTimeout : TftpOption :=
  ⟨.TIMEOUT, text "timeout", text "1", by decide⟩

/-- The client which asks for blocks of 8 bytes. -/
def askingSession : Session :=
  { readingSession [smallBlksize] with blksize := 8 }

/-- The client which asks for blocks of 8 bytes and waits of one second. -/
def askingForBoth : Session :=
  { readingSession [smallBlksize, shortTimeout] with blksize := 8 }

/-- DATA 1 with nine bytes, from the server. -/
def nineBytes : Event :=
  { reception := .datagram ⟨1, 1000⟩ ([0, 3, 0, 1] ++ text "123456789") }

/-- An OACK with both options. -/
def bothOptions : Bytes :=
  [0, 6] ++ text "blksize" ++ [0] ++ text "8" ++ [0] ++ text "timeout" ++
    [0] ++ text "1" ++ [0]

/-- Both options are acknowledged, so both are in force from now on. -/
theorem falls_back_small :
    let start := askingForBoth.run {}
    let event : Event := { reception := .datagram ⟨1, 1000⟩ bothOptions }
    ∃ agreed, start.agreement event = some agreed ∧
      FallsBack [smallBlksize, shortTimeout] start event ⟨1, 1000⟩
        (bothOptions.take UdpClient.maxPacketSize) agreed := by
  intro start event
  obtain ⟨agreed, agrees⟩ :
      ∃ agreed, start.agreement event = some agreed :=
    ⟨_, rfl⟩
  have both :
      acknowledgedOptions (bothOptions.take UdpClient.maxPacketSize) =
        [smallBlksize, shortTimeout] := by
    rfl
  refine ⟨agreed, agrees, ?_⟩
  apply
    (falls_back_iff askingForBoth.args ⟨1, 69⟩ [] (smallDisk none)
      askingForBoth {} [event] (start, event) ⟨1, 1000⟩ bothOptions agreed
      rfl (List.mem_singleton.mpr rfl) rfl agrees).mpr
  rw [both]
  constructor
  · exact Or.inl ⟨smallBlksize, by simp, rfl⟩
  · intro _
    exact ⟨by decide, fun writes => nomatch writes⟩

/--
The server knows no options and sends all nine bytes as its only block.  The
client cuts the block to the eight bytes which it had asked for, takes it for
a full one and goes on waiting.
-/
theorem requested_blksize_stays :
    let start := askingSession.run {}
    Session.make askingSession.args ⟨1, 69⟩ [] (smallDisk none) =
        .ok askingSession ∧
      (start.agreement nineBytes).isSome ∧
        (start.step nineBytes).session.storage.files.content (text "f") =
            some (text "12345678") ∧
          (start.step nineBytes).control ≠ .ended .returned ∧
            ∀ agreed,
              ¬ FallsBack [smallBlksize] start nineBytes ⟨1, 1000⟩
                (([0, 3, 0, 1] ++ text "123456789").take
                  UdpClient.maxPacketSize) agreed := by
  refine ⟨rfl, by decide, by decide, by decide, ?_⟩
  intro agreed fallsBack
  exact absurd (fallsBack.blksize []) (by decide)

end IsaTftp.Client
