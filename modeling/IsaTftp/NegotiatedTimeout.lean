import IsaTftp.Client.Fallback
import IsaTftp.Server.Negotiation

/-!
# The timeout in force after a negotiation

Both parties hand a negotiated timeout to `ChangeTimeout`, which only sets the
socket option.  The first call of `IncreaseTimeout` or `TimeoutReset` computes
the next timeout from the wrapper's own one, which is still one second.
-/

namespace IsaTftp

open IsaTftp.Wire
open IsaTftp.Files
open IsaTftp.Transfer
open IsaTftp.Library.Runs
open IsaTftp.Library.Backoff

/-- The timeout in force is the agreed one, doubled for every increase. -/
def InForce (udp : UdpClient) (agreed : Nat) (calls : List Call) : Prop :=
  udp.receiveTimeout = agreed * 2 ^ increases calls

instance (udp : UdpClient) (agreed : Nat) (calls : List Call) :
    Decidable (InForce udp agreed calls) :=
  inferInstanceAs (Decidable (_ = _))

/--
A socket has come by calls since `begun`, and the agreed timeout is in force
exactly where these calls keep it.
-/
structure KeptExactlyIf (begun udp : UdpClient) (agreed : Nat)
    (kept : List Call → Prop) : Prop where
  called : ∃ calls, UdpClient.History begun calls udp
  inForce_iff : ∀ calls, UdpClient.History begun calls udp →
    (InForce udp agreed calls ↔ kept calls)

/-! ## The server -/

namespace Server

/-- What `NegotiateOptions` leaves of a new socket. -/
theorem NegotiatesTo.udp
    {options : List TftpOption} {session next : Session}
    (negotiates : NegotiatesTo options session next)
    (fresh : session.udp = UdpClient.make) :
    next.udp = UdpClient.make.changeTimeout (timeoutIn options) := by
  have timeout := negotiates.udpTimeout
  have receiveTimeout := negotiates.receiveTimeout
  have sent := negotiates.sent
  rw [fresh] at timeout receiveTimeout sent
  obtain ⟨_, _, _, _, _, udp, _⟩ := next
  obtain ⟨_, _, _⟩ := udp
  dsimp only at timeout receiveTimeout sent
  subst timeout receiveTimeout sent
  rfl

/-- On the server the agreed timeout is kept until the first call. -/
theorem timeout_kept_iff
    (clientAddress : Address) (rootDirpath : Path) (files : FileSystem)
    (host : HostChoice) (introPacket : Bytes) (events : List Event) :
    let start :=
      (Session.make clientAddress rootDirpath files).followOnIntroPacket
        host introPacket
    (∃ outcome, start.control = .ended outcome) ∨
      ∃ request, ReadWritePacket.ofRaw introPacket = .ok request ∧
        KeptExactlyIf
          (UdpClient.make.changeTimeout (timeoutIn request.options))
          (run Handler.step start events).session.udp
          (timeoutIn request.options)
          (fun calls => calls = [] ∨ timeoutIn request.options = 1) := by
  dsimp only
  rcases followOnIntroPacket_started with isOver | ⟨request, parsed, started⟩
  · exact Or.inl isOver
  · right
    obtain ⟨agreed, negotiates, continues⟩ := started
    refine ⟨request, parsed, ?_⟩
    rw [← negotiates.udp rfl]
    have timeout : agreed.udp.timeout = UdpClient.defaultTimeout :=
      negotiates.udpTimeout
    have receiveTimeout :
        agreed.udp.receiveTimeout = timeoutIn request.options :=
      negotiates.receiveTimeout
    constructor
    · exact (continues.run events).calls
    · intro calls history
      rw [InForce, history.inForce_iff timeout, receiveTimeout]
      by_cases none_ : calls = []
      · simp [none_]
      · simp [none_]

end Server

/-! ## The client -/

namespace Client

variable {session agreed : Session} {event : Event} {later : List Event}

/--
In `SendData` the agreed timeout is kept until the first call, unless the
requested one was never undone.
-/
theorem timeout_kept_writing_iff
    {args : TftpClientArgs} {client : TftpClient} {sender : Address}
    {packet : Bytes} (asks : AsksToWrite args client)
    (waits : client.control = .awaitWrqReply)
    (acknowledges : Acknowledges client.session sender packet agreed)
    (agrees : client.agreement event = some agreed) :
    KeptExactlyIf agreed.udp
      (run TftpClient.step (client.step event) later).session.udp
      (timeoutIn (acknowledgedOptions packet))
      (fun calls =>
        if calls = [] then
          Names (acknowledgedOptions packet) .TIMEOUT ∨
            timeoutIn args.options = 1
        else timeoutIn (acknowledgedOptions packet) = 1) := by
  obtain ⟨fresh, begun⟩ := asks.agrees waits acknowledges
  constructor
  · exact ((TftpClient.step_of_agreement agrees).run later).continues.calls
  · intro calls history
    rw [InForce, history.inForce_iff fresh, begun]

/-- `Read` gives the agreed timeout up at once. -/
theorem timeout_kept_reading_iff
    {writer : Writer} {retries : Nat} (options : List TftpOption)
    (agrees :
      TftpClient.agreement ⟨session, .awaitRrqReply writer retries⟩ event =
        some agreed) :
    let next :=
      TftpClient.step ⟨session, .awaitRrqReply writer retries⟩ event
    (∃ outcome, next.control = .ended outcome) ∨
      KeptExactlyIf agreed.udp.timeoutReset
        (run TftpClient.step next later).session.udp (timeoutIn options)
        (fun _ => timeoutIn options = 1) := by
  rcases stepAwaitRrqReply_resets agrees with isOver | proceeds
  · exact Or.inl isOver
  · right
    constructor
    · exact (proceeds.run later).continues.calls
    · intro calls history
      rw [InForce, history.inForce_iff rfl]
      split_ifs
      · exact eq_comm
      · rfl

end Client

/-! ## Both parties -/

/-- What a client keeps of the timeout which a first answer agrees on. -/
def KeptByClient (args : Client.TftpClientArgs)
    (client : Client.TftpClient) (event : Event)
    (agreed : Client.Session) (later : List Event)
    (acknowledged : List TftpOption) : Prop :=
  let next := client.step event
  let reached := run Client.TftpClient.step next later
  if client.control = .awaitWrqReply then
    KeptExactlyIf agreed.udp reached.session.udp (timeoutIn acknowledged)
      (fun calls =>
        if calls = [] then
          Client.Names acknowledged .TIMEOUT ∨ timeoutIn args.options = 1
        else timeoutIn acknowledged = 1)
  else
    (∃ outcome, next.control = .ended outcome) ∨
      KeptExactlyIf agreed.udp.timeoutReset reached.session.udp
        (timeoutIn acknowledged)
        (fun _ => timeoutIn acknowledged = 1)

/--
Exactly when the agreed timeout is in force.  On the server, and while the
client writes, it is until the first call of `IncreaseTimeout` or
`TimeoutReset`; afterwards, and while the client reads, only if it is one
second.
-/
theorem negotiated_timeout_in_force_iff
    (files : FileSystem) (events : List Event) :
    (∀ (clientAddress : Address) (rootDirpath : Path)
      (host : HostChoice) (introPacket : Bytes),
      let start :=
        (Server.Session.make clientAddress rootDirpath
          files).followOnIntroPacket host introPacket
      (∃ outcome, start.control = .ended outcome) ∨
        ∃ request, ReadWritePacket.ofRaw introPacket = .ok request ∧
          KeptExactlyIf
            (UdpClient.make.changeTimeout (timeoutIn request.options))
            (run Server.Handler.step start events).session.udp
            (timeoutIn request.options)
            (fun calls => calls = [] ∨ timeoutIn request.options = 1)) ∧
      ∀ (args : Client.TftpClientArgs) (serverAddress : Address)
        (stdin : Bytes) (session : Client.Session) (first : Event)
        (taken : Client.TftpClient × Event) (agreed : Client.Session)
        (later : List Event),
        Client.Session.make args serverAddress stdin files = .ok session →
          taken ∈ stepsOf Client.TftpClient.step (session.run first)
              events →
            taken.1.agreement taken.2 = some agreed →
              ∃ sender bytes,
                taken.2.reception = .datagram sender bytes ∧
                  KeptByClient args taken.1 taken.2 agreed later
                    (Client.acknowledgedOptions
                      (bytes.take UdpClient.maxPacketSize)) := by
  refine ⟨fun clientAddress rootDirpath host introPacket =>
    Server.timeout_kept_iff clientAddress rootDirpath files host
      introPacket events, ?_⟩
  intro args serverAddress stdin session first taken agreed later made
    member agrees
  obtain ⟨client, event⟩ := taken
  dsimp only at agrees ⊢
  obtain ⟨sender, bytes, heard, acknowledges⟩ :=
    Client.TftpClient.acknowledges_of_agreement agrees
  refine ⟨sender, bytes, heard, ?_⟩
  unfold KeptByClient
  dsimp only
  split_ifs with waits
  · have asks : Client.AsksToWrite args client :=
      stepsOf_invariant (Client.AsksToWrite args)
        (fun client event _ => .step args client event)
        (.run made first) member
    exact Client.timeout_kept_writing_iff asks waits acknowledges agrees
  · obtain ⟨waiting, control⟩ := client
    cases control with
    | awaitRrqReply writer retries =>
        exact Client.timeout_kept_reading_iff _ agrees
    | awaitWrqReply => exact absurd rfl waits
    | _ => cases agrees

/-! ## Five seconds -/

/-- A request for the file `f` with the option `timeout` and the value 5. -/
def patientRequest : Bytes :=
  [0, 1] ++ text "f" ++ [0] ++ text "octet" ++ [0] ++ text "timeout" ++
    [0] ++ text "5" ++ [0]

/-- The server which has sent the OACK for this request. -/
def patientHandler : Server.Handler :=
  (Server.Session.make ⟨2, 1024⟩ (text "r")
    (smallDisk (some (text "hello")))).followOnIntroPacket {} patientRequest

/-- A client which asks for this option and sends the text `hi`. -/
def patientClient : Client.Session where
  args := ⟨[], text "f", .WRITE, .OCTET, [patientOption]⟩
  serverAddress := ⟨1, 69⟩
  blksize := 512
  timeout := 5
  udp := UdpClient.make.changeTimeout 5
  stdin := ⟨text "hi", false⟩
  storage := ⟨smallDisk none, []⟩

/-- An OACK with this option. -/
def patientOack : Bytes :=
  [0, 6] ++ text "timeout" ++ [0] ++ text "5" ++ [0]

/--
The theorem at this client, which gets the OACK and then no ACK of its block:
the five seconds are in force until the timeout, and then two.
-/
theorem negotiated_timeout_in_force_small :
    let start := patientClient.run {}
    let event : Event := { reception := .datagram ⟨1, 1000⟩ patientOack }
    let waits := (start.step event).session.udp
    let later := (run Client.TftpClient.step (start.step event)
      [{ reception := .timeout }]).session.udp
    ∃ agreed, start.agreement event = some agreed ∧
      KeptExactlyIf agreed.udp later 5 (fun calls => calls = []) ∧
        waits.receiveTimeout = 5 ∧ later.receiveTimeout = 2 := by
  intro start event waits later
  obtain ⟨agreed, agrees⟩ :
      ∃ agreed, start.agreement event = some agreed :=
    ⟨_, rfl⟩
  refine ⟨agreed, agrees, ?_, by decide, by decide⟩
  obtain ⟨sender, bytes, heard, kept⟩ :=
    (negotiated_timeout_in_force_iff (smallDisk none) [event]).2
      patientClient.args ⟨1, 69⟩ (text "hi") patientClient {}
      (start, event) agreed [{ reception := .timeout }] rfl
      (List.mem_singleton.mpr rfl) agrees
  cases heard
  have named :
      Client.acknowledgedOptions
          (patientOack.take UdpClient.maxPacketSize) =
        [patientOption] := by
    rfl
  have five : timeoutIn [patientOption] = 5 := by
    decide
  unfold KeptByClient at kept
  rw [named, five, if_pos (by rfl)] at kept
  refine ⟨kept.called, ?_⟩
  intro calls history
  rw [kept.inForce_iff calls history]
  by_cases none_ : calls = []
  · simp only [none_, if_true, iff_true]
    exact Or.inl ⟨patientOption, by simp, rfl⟩
  · simp [none_]

/--
After one timeout the server waits two seconds for the ACK of its OACK, although
five were agreed on and the timeout was increased once.
-/
theorem negotiated_timeout_is_forgotten :
    let reached := patientHandler.step { reception := .timeout }
    (∃ reader retries foreign,
        reached.control = .awaitOackAck reader retries foreign) ∧
      UdpClient.History (UdpClient.make.changeTimeout 5) [.increase]
          reached.session.udp ∧
        reached.session.udp.receiveTimeout = 2 ∧
          ¬ InForce reached.session.udp 5 [.increase] := by
  refine ⟨⟨_, _, _, rfl⟩, ?_, by decide, by decide⟩
  exact (UdpClient.History.refl.send _ _).increaseTimeout

end IsaTftp
