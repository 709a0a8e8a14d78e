import IsaTftp.Client.Agreement
import IsaTftp.Library.Runs

/-!
# No data before permission

`SendWrq` sends its request once.  Its `try` block encloses the loop which
would send it again, so a timeout leaves the loop, and the function returns as
if the server had answered: `SendData` begins without a permission.
-/

namespace IsaTftp.Client

open IsaTftp.Wire
open IsaTftp.Files
open IsaTftp.Transfer
open IsaTftp.Library.Runs

/-! ## Permission -/

/-- An ACK of block 0, or an OACK which passes the checks. -/
def Grants (session : Session) (packet : Bytes) : Prop :=
  ackIn packet = some 0 ∨
    ∃ oack, OackPacket.ofRaw packet = .ok oack ∧
      session.checkOack oack = .ok ()

/-- `SendWrq` receives a permission, and from the server. -/
def Permits (client : TftpClient) (event : Event) : Prop :=
  client.control = .awaitWrqReply ∧
    ∃ sender bytes, event.reception = .datagram sender bytes ∧
      sender.ip = client.session.serverAddress.ip ∧
        Grants client.session (bytes.take UdpClient.maxPacketSize)

/-- Whatever `SendWrq` accepts grants a permission. -/
theorem grants_of_agreeWrq
    {session agreed : Session} {sender : Address} {packet : Bytes}
    (agrees : session.agreeWrq sender packet = some agreed) :
    Grants session packet := by
  unfold Session.agreeWrq Session.acceptWrqReply at agrees
  cases known : getOpcodeFromRaw packet with
  | error exception =>
      simp [known, bind, Except.bind, Except.toOption] at agrees
  | ok opcode =>
      simp only [known, bind, Except.bind, throw, throwThe,
        MonadExceptOf.throw] at agrees
      cases opcode with
      | ACK =>
          cases parsed : AckPacket.ofRaw packet with
          | error exception => simp [parsed, Except.toOption] at agrees
          | ok ack =>
              simp only [parsed] at agrees
              split_ifs at agrees with other
              · simp [Except.toOption] at agrees
              · left
                rw [not_not] at other
                simp only [ackIn, parsed, other]
      | OACK =>
          cases parsed : OackPacket.ofRaw packet with
          | error exception => simp [parsed, Except.toOption] at agrees
          | ok oack =>
              simp only [parsed] at agrees
              cases checked :
                  (session.adoptPort sender).checkOack oack with
              | error exception =>
                  simp [checked, Except.toOption] at agrees
              | ok => exact Or.inr ⟨oack, parsed, checked⟩
      | ERROR =>
          cases parsed : ErrorPacket.ofRaw packet with
          | error exception => simp [parsed, Except.toOption] at agrees
          | ok error => simp [parsed, Except.toOption] at agrees
      | _ => simp [Except.toOption] at agrees

/-! ## The start of SendData -/

/-- The first block can be read, and SIGINT is not noticed before it is sent. -/
def Session.Begins (session : Session) (event : Event) : Prop :=
  event.sigintAt 5 = false ∧
    ∃ block,
      (StdHandler.make (formatOfMode session.args.fileMode)
          session.stdin).readBytesFromStdin event.host
        session.blksize.toNat = .ok block

/-- The checks are numbered in the order in which they run. -/
theorem sigintAt_of_le
    {event : Event} {earlier later : Nat} (before : earlier ≤ later)
    (calm : event.sigintAt later = false) :
    event.sigintAt earlier = false := by
  unfold Event.sigintAt at calm ⊢
  cases set : event.sigintFrom with
  | none => rfl
  | some first =>
      rw [set] at calm
      have behind : ¬ first ≤ later := of_decide_eq_false calm
      exact decide_eq_false (by omega)

theorem sendBlock_sends
    {session : Session} {handler : StdHandler} {blockNumber : UInt16}
    {event : Event} {block : Bytes × StdHandler}
    (readable :
      handler.readBytesFromStdin event.host session.blksize.toNat =
        .ok block) :
    dataSent (session.sendBlock handler blockNumber event).sent =
      dataSent session.udp.sent ++
        [(session.serverAddress,
          DataPacket.makeRaw ⟨blockNumber, block.1⟩)] := by
  have sent :=
    dataSent_append_data session.udp.sent ⟨blockNumber, block.1⟩
      session.serverAddress
  unfold Session.sendBlock
  rw [readable]
  dsimp only
  unfold Session.awaitAckAgain Session.checkForSigintWRQ
  split_ifs
  · exact (FailsFrom.dataSent_interrupted _).trans sent
  · exact sent
  · exact (FailsFrom.dataSent_interrupted _).trans sent
  · exact (dataSent_reportException _ _ _).trans sent

theorem sendBlock_fails
    {session : Session} {handler : StdHandler} {blockNumber : UInt16}
    {event : Event}
    (unreadable :
      ∀ block,
        handler.readBytesFromStdin event.host session.blksize.toNat ≠
          .ok block) :
    FailsFrom session (session.sendBlock handler blockNumber event) := by
  unfold Session.sendBlock
  split
  · exact .raise session rfl rfl _
  · exact .raise session rfl rfl _
  · rename_i data next readable
    exact absurd readable (unreadable _)

/-- Where `SendData` begins, it sends a block before it waits or fails. -/
theorem sendData_sends
    {session : Session} {event : Event} (settled : session.Settled)
    (begins : session.Begins event) :
    dataSent (session.sendData event).sent ≠ dataSent session.udp.sent := by
  obtain ⟨calm, block, readable⟩ := begins
  have before : event.sigintAt 3 = false := sigintAt_of_le (by decide) calm
  unfold Session.sendData Session.sendNextBlock Session.checkForSigintWRQ
  rw [before, calm]
  simp only [show Session.scanBlksize session.blksize session.args.options =
    .ok session.blksize from settled, Bool.false_eq_true, if_false]
  rw [sendBlock_sends readable]
  simp

/-- Where it does not begin, the client fails without having sent data. -/
theorem sendData_fails
    {session : Session} {event : Event} (settled : session.Settled)
    (stays : ¬ session.Begins event) :
    FailsFrom session (session.sendData event) := by
  unfold Session.sendData Session.sendNextBlock Session.checkForSigintWRQ
  simp only [show Session.scanBlksize session.blksize session.args.options =
    .ok session.blksize from settled]
  split_ifs with early late
  · exact .interruptWrite session rfl rfl
  · exact .interruptWrite session rfl rfl
  · apply sendBlock_fails
    intro block readable
    exact stays ⟨by simpa using late, block, readable⟩

/-! ## The first reception -/

/--
Without a permission from the server `SendData` begins: after a timeout, or
after a reply which another host has sent.
-/
def Unpermitted (client : TftpClient) (event : Event) : Prop :=
  client.control = .awaitWrqReply ∧
    ((event.reception = .timeout ∧ client.session.Begins event) ∨
      ∃ sender bytes agreed,
        event.reception = .datagram sender bytes ∧
          sender.ip ≠ client.session.serverAddress.ip ∧
            client.agreement event = some agreed ∧ agreed.Begins event)

theorem Unpermitted.not_permits
    {client : TftpClient} {event : Event}
    (unpermitted : Unpermitted client event) :
    ¬ Permits client event := by
  rintro ⟨_, sender, bytes, heard, host, _⟩
  rcases unpermitted.2 with ⟨silent, _⟩ | ⟨other, bytes', _, hears, ip, _⟩
  · rw [heard] at silent
    cases silent
  · rw [heard] at hears
    cases hears
    exact ip host

section FirstReception

variable {session : Session} {event : Event}

theorem FailsFrom.of_agreed
    {agreed : Session} {sender : Address} {packet : Bytes}
    (acknowledges : Acknowledges session sender packet agreed)
    {client : TftpClient} (fails : FailsFrom agreed client) :
    FailsFrom session client where
  host := by
    rw [fails.host, acknowledges.setsUp.serverAddress]
    rfl
  data := by
    rw [fails.data, acknowledges.setsUp.sent]
    rfl
  failed := fails.failed

/-- The wait is permitted to end, or the client fails without sending data. -/
theorem permits_or_fails
    (settled : session.Settled)
    (fine : ¬ Unpermitted ⟨session, .awaitWrqReply⟩ event) :
    Permits ⟨session, .awaitWrqReply⟩ event ∨
      FailsFrom session (session.stepAwaitWrqReply event) := by
  cases agrees :
      TftpClient.agreement ⟨session, .awaitWrqReply⟩ event with
  | some agreed =>
      obtain ⟨sender, bytes, heard, acknowledges⟩ :=
        TftpClient.acknowledges_of_agreement agrees
      by_cases host : sender.ip = session.serverAddress.ip
      · left
        refine ⟨rfl, sender, bytes, heard, host, ?_⟩
        simp only [TftpClient.agreement, heard, receive] at agrees
        exact grants_of_agreeWrq agrees
      · right
        have stays : ¬ agreed.Begins event :=
          fun begins =>
            fine
              ⟨rfl, Or.inr
                ⟨sender, bytes, agreed, heard, host, agrees, begins⟩⟩
        apply FailsFrom.of_agreed acknowledges
        rw [stepAwaitWrqReply_of_agreement agrees]
        unfold Session.checkForSigintWRQ
        split_ifs
        · exact .interruptWrite agreed rfl rfl
        · exact sendData_fails acknowledges.settled stays
  | none =>
      right
      rcases stepAwaitWrqReply_cases agrees with fails | ⟨silent, goesOn⟩
      · exact fails
      · have stays :
            ¬ session.increaseTimeout.timeoutReset.Begins event :=
          fun begins => fine ⟨rfl, Or.inl ⟨silent, begins⟩⟩
        have fails :
            FailsFrom session.increaseTimeout.timeoutReset
              (session.increaseTimeout.timeoutReset.sendData event) :=
          sendData_fails settled stays
        rw [goesOn]
        unfold Session.checkForSigintWRQ
        split_ifs
        · exact .interruptWrite session.increaseTimeout rfl rfl
        · exact ⟨fails.host, fails.data, fails.failed⟩

/-- Without permission a block is sent. -/
theorem sends_of_unpermitted
    (settled : session.Settled)
    (unpermitted : Unpermitted ⟨session, .awaitWrqReply⟩ event) :
    dataSent (session.stepAwaitWrqReply event).sent ≠
      dataSent session.udp.sent := by
  rcases unpermitted.2 with
    ⟨silent, begins⟩ | ⟨sender, bytes, agreed, _, _, agrees, begins⟩
  · have calm : event.sigintAt 2 = false :=
      sigintAt_of_le (by decide) begins.1
    have sends :
        dataSent
            (session.increaseTimeout.timeoutReset.sendData event).sent ≠
          dataSent session.udp.sent :=
      sendData_sends settled begins
    unfold Session.stepAwaitWrqReply Session.checkForSigintWRQ
    simp only [silent, receive, calm, Bool.false_eq_true, if_false]
    exact sends
  · obtain ⟨other, bytes, _, acknowledges⟩ :=
      TftpClient.acknowledges_of_agreement agrees
    have calm : event.sigintAt 2 = false :=
      sigintAt_of_le (by decide) begins.1
    have sends := sendData_sends acknowledges.settled begins
    rw [stepAwaitWrqReply_of_agreement agrees]
    unfold Session.checkForSigintWRQ
    simp only [calm, Bool.false_eq_true, if_false]
    rw [acknowledges.setsUp.sent] at sends
    exact sends

end FirstReception

/-! ## Runs -/

/-- A permission has been received in one of these steps. -/
def Permitted (start : TftpClient) (events : List Event) : Prop :=
  ∃ taken ∈ stepsOf TftpClient.step start events, Permits taken.1 taken.2

/-- No data was sent, and the client has failed or still waits for a reply. -/
def Refrains (start : TftpClient) (events : List Event) : Prop :=
  dataSent (run TftpClient.step start events).sent = [] ∧
    ((∃ outcome, Failed outcome ∧
        (run TftpClient.step start events).control = .ended outcome) ∨
      (run TftpClient.step start events).control = .awaitWrqReply ∧
        events.length < maxRetries)

/-- A client which has failed stays as it is. -/
theorem FailsFrom.run
    {session : Session} {client : TftpClient}
    (fails : FailsFrom session client) (events : List Event) :
    run TftpClient.step client events = client := by
  obtain ⟨outcome, isOver, _⟩ := fails.failed
  obtain ⟨next, control⟩ := client
  dsimp only at isOver
  subst isOver
  exact run_of_halted (fun event => TftpClient.step_ended _ _ event) _

theorem Refrains.of_failsFrom
    {session : Session} (noData : dataSent session.udp.sent = [])
    {start reached : TftpClient} {events : List Event}
    (reaches : run TftpClient.step start events = reached)
    (fails : FailsFrom session reached) :
    Refrains start events := by
  obtain ⟨outcome, isOver, failed⟩ := fails.failed
  unfold Refrains
  rw [reaches]
  exact ⟨fails.data.trans noData, Or.inl ⟨outcome, failed, isOver⟩⟩

/-- The constructor has set up the options and has sent nothing. -/
theorem settled_of_make
    {args : TftpClientArgs} {serverAddress : Address} {stdin : Bytes}
    {files : FileSystem} {session : Session}
    (made : Session.make args serverAddress stdin files = .ok session) :
    session.Settled ∧ session.udp.sent = [] ∧
      session.serverAddress = serverAddress ∧ session.args = args := by
  have setsUp := setsUp_of_setupUdpClient made
  exact
    ⟨setsUp.settled rfl, setsUp.sent, setsUp.serverAddress, setsUp.args⟩

/--
Exactly when `Write` sends no data before permission, in every state of a run:
`SendData` never begins after a timeout, or after a reply of another host.
-/
theorem no_data_before_permission_iff
    (args : TftpClientArgs) (serverAddress : Address) (stdin : Bytes)
    (files : FileSystem) (session : Session) (first : Event)
    (events : List Event)
    (made : Session.make args serverAddress stdin files = .ok session) :
    let start := session.sendWrq first
    (∀ earlier, earlier <+: events →
        Permitted start earlier ∨ Refrains start earlier) ↔
      ∀ taken ∈ stepsOf TftpClient.step start events,
        ¬ Unpermitted taken.1 taken.2 := by
  obtain ⟨settled, nothing, _, _⟩ := settled_of_make made
  have noData : dataSent session.udp.sent = [] := by rw [nothing]; rfl
  dsimp only
  rcases sendWrq_cases session first with fails | ⟨raw, known, sends⟩
  · obtain ⟨outcome, isOver, failed⟩ := fails.failed
    constructor
    · intro _ taken member unpermitted
      have same :=
        stepsOf_invariant_of_steps
          (fun client : TftpClient => client.control = .ended outcome)
          isOver
          (by
            rintro ⟨⟨next, control⟩, event⟩ _ ended
            cases ended
            rfl)
          member
      cases same.symm.trans unpermitted.1
    · intro _ earlier _
      exact Or.inr (.of_failsFrom noData (fails.run earlier) fails)
  · rw [sends]
    have quiet : dataSent (session.send raw).udp.sent = [] := by
      rw [← noData]
      exact dataSent_append_of_opcode known (by decide) _ _
    have settledNow : (session.send raw).Settled := settled
    have waits : Refrains ⟨session.send raw, .awaitWrqReply⟩ [] :=
      ⟨quiet, Or.inr ⟨rfl, by decide⟩⟩
    constructor
    · intro obeys taken member unpermitted
      cases events with
      | nil => cases member
      | cons event events =>
          rcases List.mem_cons.mp member with rfl | later
          · rcases obeys [event] ⟨events, rfl⟩ with
              ⟨taken, among, permits⟩ | refrains
            · rw [List.mem_singleton.mp among] at permits
              exact unpermitted.not_permits permits
            · apply sends_of_unpermitted settledNow unpermitted
              rw [quiet]
              exact refrains.1
          · refine
              stepsOf_invariant
                (fun client : TftpClient =>
                  client.control ≠ .awaitWrqReply)
                (fun client event _ => client.step_ne_awaitWrqReply event)
                (TftpClient.step_ne_awaitWrqReply _ event) later
                unpermitted.1
    · intro fine earlier before
      cases earlier with
      | nil => exact Or.inr waits
      | cons event earlier =>
          obtain ⟨rest, rfl⟩ := before
          rcases permits_or_fails settledNow (fine _ List.mem_cons_self)
            with permits | fails
          · exact Or.inl ⟨_, List.mem_cons_self, permits⟩
          · exact Or.inr (.of_failsFrom quiet (fails.run earlier) fails)

/-! ## A small upload -/

def writingArgs : TftpClientArgs :=
  ⟨[], text "f", .WRITE, .OCTET, []⟩

/-- A client of host 1 which writes the text `hi`. -/
def writingSession : Session where
  args := writingArgs
  serverAddress := ⟨1, 69⟩
  blksize := 512
  timeout := 1
  udp := UdpClient.make
  stdin := ⟨text "hi", false⟩
  storage := ⟨smallDisk none, []⟩

/-- With ACK 0 from the server there is data only after permission. -/
theorem no_data_before_permission_small :
    let reply : Event := { reception := .datagram ⟨1, 1000⟩ [0, 4, 0, 0] }
    ∀ earlier, earlier <+: [reply] →
      Permitted (writingSession.sendWrq {}) earlier ∨
        Refrains (writingSession.sendWrq {}) earlier := by
  refine
    (no_data_before_permission_iff writingArgs ⟨1, 69⟩ (text "hi")
      (smallDisk none) writingSession {}
      [{ reception := .datagram ⟨1, 1000⟩ [0, 4, 0, 0] }] rfl).mpr ?_
  intro taken member unpermitted
  rw [List.mem_singleton.mp member] at unpermitted
  rcases unpermitted.2 with ⟨silent, _⟩ | ⟨_, _, _, heard, other, _⟩
  · cases silent
  · cases heard
    exact other rfl

/-- After one timeout the whole text is sent. -/
theorem data_after_timeout :
    let start := writingSession.sendWrq {}
    Session.make writingArgs ⟨1, 69⟩ (text "hi") (smallDisk none) =
        .ok writingSession ∧
      dataSent (run TftpClient.step start [{}]).sent =
          [(⟨1, 69⟩, [0, 3, 0, 1] ++ text "hi")] ∧
        ¬ (Permitted start [{}] ∨ Refrains start [{}]) := by
  refine ⟨rfl, by decide, ?_⟩
  rintro (⟨taken, member, permits⟩ | refrains)
  · rw [List.mem_singleton.mp member] at permits
    obtain ⟨_, _, _, heard, _⟩ := permits
    cases heard
  · exact absurd refrains.1 (by decide)

end IsaTftp.Client
