import IsaTftp.Library.Runs
import IsaTftp.Server.ReadRequest
import IsaTftp.Server.WriteRequest

/-!
# A client handler as a machine

One step of a handler takes what its receive brings and runs to the next
receive or to the end.  `followOnIntroPacket` starts it.
-/

namespace IsaTftp.Server

open IsaTftp.Wire
open IsaTftp.Files
open IsaTftp.Transfer
open IsaTftp.Library.Runs

/-- From one receive to the next. -/
def Handler.step (handler : Handler) (event : Event) : Handler :=
  match handler.control with
  | .awaitOackAck reader retries foreign =>
      handler.session.stepAwaitOackAck reader retries foreign event
  | .awaitAck sending retries foreign =>
      handler.session.stepAwaitAck sending retries foreign event
  | .awaitFirstData options negotiated writer retries foreign =>
      handler.session.stepAwaitFirstData options negotiated writer retries
        foreign event
  | .awaitData writer blockNumber retries foreign =>
      handler.session.stepAwaitData writer blockNumber retries foreign
        event
  | .ended _ => handler

/-- `FollowOnIntroPacket(intro_packet)`, up to the first receive. -/
def Session.followOnIntroPacket (session : Session) (host : HostChoice)
    (introPacket : Bytes) : Handler :=
  match getOpcodeFromRaw introPacket with
  | .error exception =>
      let error : ErrorPacket :=
        ⟨.ILLEGAL_OPERATION, text "Invalid opcode in intro packet"⟩
      ⟨session.send error.makeRaw, .ended (.threw exception)⟩
  | .ok .RRQ => session.followOnRRQ host introPacket
  | .ok .WRQ => session.followOnWRQ host introPacket
  | .ok _ =>
      session.raise (illegalOperation (text "Expected RRQ or WRQ"))

/-- Every datagram which a handler has sent, oldest first. -/
def Handler.sent (handler : Handler) : List (Address × Bytes) :=
  handler.session.udp.sent

/-- Meanwhile others have changed the files. -/
@[simps]
def Handler.withFiles (handler : Handler) (files : FileSystem) :
    Handler where
  session :=
    handler.session.withStorage
      { handler.session.storage with files := files }
  control := handler.control

@[simp]
theorem Handler.step_ended (session : Session) (outcome : Outcome)
    (event : Event) :
    Handler.step ⟨session, .ended outcome⟩ event =
      ⟨session, .ended outcome⟩ :=
  rfl

end IsaTftp.Server
