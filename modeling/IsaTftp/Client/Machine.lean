import IsaTftp.Library.Runs
import IsaTftp.Client.Read
import IsaTftp.Client.Write

/-!
# The client as a machine

One step of the client takes what its receive brings and runs to the next
receive or to the end.  `Session.run` starts it.
-/

namespace IsaTftp.Client

open IsaTftp.Wire
open IsaTftp.Files
open IsaTftp.Transfer

/-- From one receive to the next. -/
def TftpClient.step (client : TftpClient) (event : Event) : TftpClient :=
  match client.control with
  | .awaitWrqReply => client.session.stepAwaitWrqReply event
  | .awaitAck sending retries foreign =>
      client.session.stepAwaitAck sending retries foreign event
  | .awaitRrqReply writer retries =>
      client.session.stepAwaitRrqReply writer retries event
  | .awaitData writer blockNumber retries foreign =>
      client.session.stepAwaitData writer blockNumber retries foreign event
  | .ended _ => client

/-- `TftpClient::run()`, up to the first receive. -/
def Session.run (session : Session) (event : Event) : TftpClient :=
  match session.args.mode with
  | .READ => session.read event
  | .WRITE => session.sendWrq event

theorem Session.run_of_read
    {session : Session} (reads : session.args.mode = .READ)
    (event : Event) : session.run event = session.read event := by
  rw [Session.run, reads]

theorem Session.run_of_write
    {session : Session} (writes : session.args.mode = .WRITE)
    (event : Event) : session.run event = session.sendWrq event := by
  rw [Session.run, writes]

/-- Every datagram which the client has sent, oldest first. -/
def TftpClient.sent (client : TftpClient) : List (Address × Bytes) :=
  client.session.udp.sent

@[simp]
theorem TftpClient.step_ended (session : Session) (outcome : Outcome)
    (event : Event) :
    TftpClient.step ⟨session, .ended outcome⟩ event =
      ⟨session, .ended outcome⟩ :=
  rfl

end IsaTftp.Client
