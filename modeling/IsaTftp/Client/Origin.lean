import IsaTftp.Client.Agreement
import IsaTftp.Library.Runs

/-!
# Whose datagrams the client acts on

The helper which receives during a transfer compares the sender with the
server.  The two receives of the handshake do not: the first datagram which
arrives, from whatever host, is taken for the server's answer.
-/

namespace IsaTftp.Client

open IsaTftp.Wire
open IsaTftp.Files
open IsaTftp.Transfer
open IsaTftp.Library.Runs

/-- The same event, with this datagram for what is received. -/
def hearing (event : Event) (sender : Address) (bytes : Bytes) : Event :=
  { event with reception := .datagram sender bytes }

/--
The client acts on the contents of a datagram: with other contents it would
have come to another state.
-/
def ActsOn (client : TftpClient) (event : Event) (sender : Address)
    (bytes : Bytes) : Prop :=
  ∃ other,
    client.step (hearing event sender other) ≠
      client.step (hearing event sender bytes)

/-! ## The host stays the same -/

theorem sendData_host (session : Session) (event : Event) :
    (session.sendData event).session.serverAddress.ip =
      session.serverAddress.ip := by
  obtain ⟨blksize, proceeds⟩ := sendData_proceeds session event
  rw [proceeds.continues.serverAddress]

theorem OpeningStep.host
    {session : Session} {event : Event} {client : TftpClient}
    (step : OpeningStep session event client) :
    client.session.serverAddress.ip = session.serverAddress.ip := by
  cases step with
  | fails fails => exact fails.host
  | asksAgain continues => rw [continues.serverAddress]
  | goesOn => exact sendData_host _ event

/-- No step changes the host of the server. -/
theorem TftpClient.step_host (client : TftpClient) (event : Event) :
    (client.step event).session.serverAddress.ip =
      client.session.serverAddress.ip := by
  cases opening : client.control.opening with
  | false =>
      rw [(step_proceeds opening event).continues.serverAddress]
  | true =>
      cases agrees : client.agreement event with
      | none => exact (step_opening opening agrees).host
      | some agreed =>
          obtain ⟨sender, bytes, _, acknowledges⟩ :=
            acknowledges_of_agreement agrees
          rw [(step_of_agreement agrees).continues.serverAddress,
            acknowledges.setsUp.serverAddress]
          rfl

theorem run_host (session : Session) (event : Event) :
    (session.run event).session.serverAddress.ip =
      session.serverAddress.ip := by
  rcases run_cases session event with fails | ⟨raw, control, _, sends⟩
  · exact fails.host
  · rw [sends]
    rfl

/-! ## One step -/

/-- An ERROR packet whose text has this many bytes. -/
def errorOfLength (length : Nat) : Bytes :=
  (ErrorPacket.mk .NOT_DEFINED (List.replicate length nul)).makeRaw

/-- The text of an ERROR packet is part of what the client throws. -/
theorem step_of_error
    {client : TftpClient} (opening : client.control.opening = true)
    (event : Event) (sender : Address) {length : Nat}
    (short : length < 2) :
    (client.step
        (hearing event sender (errorOfLength length))).control =
      .ended
        (.threw
          (.recievedErrorPacket
            (text "Server responded with error: " ++
              List.replicate length nul))) := by
  obtain ⟨session, control⟩ := client
  match length, short with
  | 0, _ =>
      cases control with
      | awaitWrqReply => rfl
      | awaitRrqReply => rfl
      | _ => cases opening
  | 1, _ =>
      cases control with
      | awaitWrqReply => rfl
      | awaitRrqReply => rfl
      | _ => cases opening

/-- In the handshake the client acts on every datagram. -/
theorem actsOn_of_opening
    {client : TftpClient} (opening : client.control.opening = true)
    (event : Event) (sender : Address) (bytes : Bytes) :
    ActsOn client event sender bytes := by
  by_contra ignores
  have same : ∀ other,
      client.step (hearing event sender other) =
        client.step (hearing event sender bytes) := by
    intro other
    by_contra differs
    exact ignores ⟨other, differs⟩
  have first :=
    step_of_error opening event sender (show 0 < 2 by decide)
  have second :=
    step_of_error opening event sender (show 1 < 2 by decide)
  rw [same] at first second
  rw [first] at second
  simp at second

/-- After the handshake the client acts on datagrams of the server only. -/
theorem not_actsOn_of_foreign
    {client : TftpClient} (settled : client.control.opening = false)
    {sender : Address} (foreign : sender ≠ client.session.serverAddress)
    (event : Event) (bytes : Bytes) :
    ¬ ActsOn client event sender bytes := by
  rintro ⟨other, differs⟩
  apply differs
  obtain ⟨session, control⟩ := client
  have read : ∀ budget contents,
      session.recievePacketFromServer budget
          (.datagram sender contents) =
        if budget < maxRetries then
          ({ session with
              udp := session.udp.send unknownSender.makeRaw sender },
            .pending (budget + 1))
        else (session, .threw .udpTimeout) := by
    intro budget contents
    unfold Session.recievePacketFromServer
    rw [recievePacketFrom_foreign foreign]
    split_ifs
    · rfl
    · rfl
  cases control with
  | awaitAck sending retries budget =>
      simp only [TftpClient.step, Session.stepAwaitAck, hearing, read]
      split_ifs
      · rfl
      · rfl
  | awaitData writer blockNumber retries budget =>
      simp only [TftpClient.step, Session.stepAwaitData, hearing, read]
      split_ifs
      · rfl
      · rfl
  | ended outcome => rfl
  | awaitWrqReply => cases settled
  | awaitRrqReply => cases settled

/-! ## Runs -/

/-- Every datagram which a step acts on comes from this host. -/
def ActsOnlyOn (host : Nat) (client : TftpClient) (event : Event) :
    Prop :=
  ∀ sender bytes, event.reception = .datagram sender bytes →
    ActsOn client event sender bytes → sender.ip = host

/-- A first answer, if it arrives in this step, comes from this host. -/
def AnsweredBy (host : Nat) (client : TftpClient) (event : Event) :
    Prop :=
  client.control.opening = true →
    ∀ sender bytes, event.reception = .datagram sender bytes →
      sender.ip = host

theorem actsOnlyOn_iff
    {client : TftpClient} {host : Nat}
    (sameHost : client.session.serverAddress.ip = host) (event : Event) :
    ActsOnlyOn host client event ↔ AnsweredBy host client event := by
  constructor
  · intro only opening sender bytes heard
    exact only sender bytes heard (actsOn_of_opening opening event _ _)
  · intro answered sender bytes heard acts
    cases opening : client.control.opening with
    | true => exact answered opening sender bytes heard
    | false =>
        by_contra other
        refine not_actsOn_of_foreign opening ?_ event bytes acts
        rintro rfl
        exact other sameHost

/--
Exactly when the client acts only on datagrams of the host it asked: whatever
arrives during the handshake comes from this host.
-/
theorem acts_only_on_server_iff (session : Session) (first : Event)
    (events : List Event) :
    let steps := stepsOf TftpClient.step (session.run first) events
    let host := session.serverAddress.ip
    (∀ taken ∈ steps, ActsOnlyOn host taken.1 taken.2) ↔
      ∀ taken ∈ steps, AnsweredBy host taken.1 taken.2 := by
  dsimp only
  have sameHost :
      ∀ taken ∈ stepsOf TftpClient.step (session.run first) events,
        taken.1.session.serverAddress.ip = session.serverAddress.ip :=
    fun taken member =>
      stepsOf_invariant
        (fun client : TftpClient =>
          client.session.serverAddress.ip = session.serverAddress.ip)
        (fun client event same => (client.step_host event).trans same)
        (run_host session first) member
  constructor
  · intro only taken member
    exact (actsOnlyOn_iff (sameHost taken member) _).mp (only taken member)
  · intro answered taken member
    exact
      (actsOnlyOn_iff (sameHost taken member) _).mpr
        (answered taken member)

/-- A client of host 1 which reads into the file `f` of an empty disk. -/
def readingSession (options : List TftpOption) : Session where
  args := ⟨text "f", text "f", .READ, .OCTET, options⟩
  serverAddress := ⟨1, 69⟩
  blksize := 512
  timeout := 1
  udp := UdpClient.make
  stdin := ⟨[], false⟩
  storage := ⟨smallDisk none, []⟩

/-- A block which host 9 has sent becomes the file. -/
theorem answer_of_other_host_is_stored :
    let start := (readingSession []).run {}
    let event : Event :=
      { reception := .datagram ⟨9, 1000⟩ [0, 3, 0, 1, 101] }
    let reached := run TftpClient.step start [event]
    reached.control = .ended .returned ∧
      reached.session.storage.files.content (text "f") = some [101] ∧
        ¬ ∀ taken ∈ stepsOf TftpClient.step start [event],
          ActsOnlyOn 1 taken.1 taken.2 := by
  refine ⟨by decide, by decide, ?_⟩
  intro only
  have opening :
      ((readingSession []).run {}).control.opening = true := by
    decide
  have sameHost :=
    only (_, _) (List.mem_singleton.mpr rfl) ⟨9, 1000⟩ [0, 3, 0, 1, 101]
      rfl (actsOn_of_opening opening _ _ _)
  exact absurd sameHost (by decide)

end IsaTftp.Client
