import IsaTftp.Timeouts
import IsaTftp.Client.Rounds

/-!
# What one step of the client can do

Until its first answer the client waits for anything from anyone.  The step
which accepts the answer settles the server's port, the options and what they
set up; after it the client waits for blocks or ACKs, and what was settled does
not change any more.
-/

namespace IsaTftp.Client

open IsaTftp.Wire
open IsaTftp.Files
open IsaTftp.Transfer
open IsaTftp.Library.Backoff

/-! ## What does not change -/

/-- The same transfer goes on: only calls which change nothing settled. -/
structure Session.Continues (session next : Session) : Prop where
  serverAddress : next.serverAddress = session.serverAddress
  args : next.args = session.args
  blksize : next.blksize = session.blksize
  timeout : next.timeout = session.timeout
  calls : ∃ calls, UdpClient.History session.udp calls next.udp

namespace Session.Continues

variable {session next : Session}

theorem refl (session : Session) : session.Continues session :=
  ⟨rfl, rfl, rfl, rfl, [], .refl⟩

theorem trans
    {first second third : Session}
    (earlier : first.Continues second) (later : second.Continues third) :
    first.Continues third where
  serverAddress := later.serverAddress.trans earlier.serverAddress
  args := later.args.trans earlier.args
  blksize := later.blksize.trans earlier.blksize
  timeout := later.timeout.trans earlier.timeout
  calls := by
    obtain ⟨calls, before⟩ := earlier.calls
    obtain ⟨more, after⟩ := later.calls
    exact ⟨calls ++ more, before.trans after⟩

/-- A datagram goes to some address. -/
theorem sendTo (continues : session.Continues next) (data : Bytes)
    (reciever : Address) :
    session.Continues
      { next with udp := next.udp.send data reciever } where
  serverAddress := continues.serverAddress
  args := continues.args
  blksize := continues.blksize
  timeout := continues.timeout
  calls := by
    obtain ⟨calls, history⟩ := continues.calls
    exact ⟨calls, history.send data reciever⟩

theorem send (continues : session.Continues next) (data : Bytes) :
    session.Continues (next.send data) :=
  continues.sendTo data next.serverAddress

theorem increaseTimeout (continues : session.Continues next) :
    session.Continues next.increaseTimeout where
  serverAddress := continues.serverAddress
  args := continues.args
  blksize := continues.blksize
  timeout := continues.timeout
  calls := by
    obtain ⟨calls, history⟩ := continues.calls
    exact ⟨_, history.increaseTimeout⟩

theorem timeoutReset (continues : session.Continues next) :
    session.Continues next.timeoutReset where
  serverAddress := continues.serverAddress
  args := continues.args
  blksize := continues.blksize
  timeout := continues.timeout
  calls := by
    obtain ⟨calls, history⟩ := continues.calls
    exact ⟨_, history.timeoutReset⟩

theorem withStorage (continues : session.Continues next)
    (storage : Storage) :
    session.Continues (next.withStorage storage) :=
  ⟨continues.serverAddress, continues.args, continues.blksize,
    continues.timeout, continues.calls⟩

theorem raise (continues : session.Continues next)
    (exception : Exception) :
    session.Continues (next.raise exception).session := by
  unfold Session.raise reportException
  split
  · split
    · exact continues.sendTo _ _
    · exact continues
  · exact continues

end Session.Continues

/-! ## After the first answer -/

/-- The transfer goes on, and the first answer is not awaited any more. -/
structure Proceeds (session : Session) (client : TftpClient) : Prop where
  continues : session.Continues client.session
  settled : client.control.opening = false

namespace Proceeds

variable {session next : Session} {writer : Writer} {event : Event}

theorem raise (continues : session.Continues next)
    (exception : Exception) :
    Proceeds session (next.raise exception) :=
  ⟨continues.raise exception, rfl⟩

theorem abandonRead (continues : session.Continues next)
    (host : HostChoice) (writer : Writer) (exception : Exception) :
    Proceeds session (next.abandonRead host writer exception) :=
  .raise (continues.withStorage _) exception

theorem interruptWrite (continues : session.Continues next) :
    Proceeds session next.interruptWrite :=
  ⟨continues.send _, rfl⟩

theorem interruptRead (continues : session.Continues next)
    (host : HostChoice) (writer : Writer) :
    Proceeds session (next.interruptRead host writer) := by
  unfold Session.interruptRead
  dsimp only
  split
  · exact ⟨(continues.send _).withStorage _, rfl⟩
  · exact .raise ((continues.send _).withStorage _) _

theorem checkForSigintWRQ
    (continues : session.Continues next) {received : Bool}
    {proceed : Session → TftpClient}
    (proceeds : Proceeds session (proceed next)) :
    Proceeds session (next.checkForSigintWRQ received proceed) := by
  unfold Session.checkForSigintWRQ
  split_ifs
  · exact .interruptWrite continues
  · exact proceeds

theorem checkForSigintRRQ
    (continues : session.Continues next) {host : HostChoice}
    {received : Bool} {proceed : Session → TftpClient}
    (proceeds : Proceeds session (proceed next)) :
    Proceeds session
      (next.checkForSigintRRQ host writer received proceed) := by
  unfold Session.checkForSigintRRQ
  split_ifs
  · exact .interruptRead continues host writer
  · exact proceeds

/-! ### Sending -/

theorem awaitAckAgain (continues : session.Continues next)
    (sending : Sending) (retries : Nat) :
    Proceeds session (next.awaitAckAgain sending retries event) := by
  unfold Session.awaitAckAgain
  split_ifs
  · apply checkForSigintWRQ continues
    exact ⟨continues, rfl⟩
  · apply checkForSigintWRQ continues
    exact .raise continues timeoutError

theorem sendBlock (continues : session.Continues next)
    (handler : StdHandler) (blockNumber : UInt16) :
    Proceeds session (next.sendBlock handler blockNumber event) := by
  unfold Session.sendBlock
  split
  · exact .raise continues _
  · exact .raise continues _
  · exact .awaitAckAgain (continues.send _) _ 0

theorem sendNextBlock (continues : session.Continues next)
    (handler : StdHandler) (blockNumber : UInt16) :
    Proceeds session (next.sendNextBlock handler blockNumber event) :=
  checkForSigintWRQ continues (.sendBlock continues handler blockNumber)

theorem afterAck (continues : session.Continues next)
    (sending : Sending) :
    Proceeds session (next.afterAck sending event) := by
  unfold Session.afterAck
  apply checkForSigintWRQ continues
  split_ifs
  · exact ⟨continues.timeoutReset, rfl⟩
  · exact .sendNextBlock continues.timeoutReset _ _

/-! ### Receiving -/

theorem finishRead (continues : session.Continues next)
    (writer : Writer) (blockNumber : UInt16) :
    Proceeds session (next.finishRead writer blockNumber event) := by
  unfold Session.finishRead
  apply checkForSigintRRQ continues
  exact ⟨(continues.send _).withStorage _, rfl⟩

theorem awaitDataAgain (continues : session.Continues next)
    (writer : Writer) (blockNumber : UInt16) (retries : Nat) :
    Proceeds session
      (next.awaitDataAgain writer blockNumber retries event) := by
  unfold Session.awaitDataAgain
  split_ifs
  · apply checkForSigintRRQ continues
    exact ⟨continues.send _, rfl⟩
  · apply checkForSigintRRQ continues
    exact .abandonRead continues _ _ _

theorem storeBlock (continues : session.Continues next)
    (writer : Writer) (data : Bytes)
    {proceed : Session → Writer → TftpClient}
    (proceeds : ∀ storage writer,
      Proceeds session (proceed (next.withStorage storage) writer)) :
    Proceeds session (next.storeBlock writer event data proceed) := by
  unfold Session.storeBlock
  split
  · exact ⟨continues.withStorage _, rfl⟩
  · exact .abandonRead (continues.withStorage _) _ _ _
  · exact proceeds _ _

theorem afterData (continues : session.Continues next)
    (writer : Writer) (blockNumber : UInt16) (last : Bool) :
    Proceeds session
      (next.afterData writer blockNumber last event) := by
  unfold Session.afterData
  split_ifs
  · exact .finishRead continues writer blockNumber
  · exact .awaitDataAgain continues writer blockNumber 0

/-- The head of either loop. -/
theorem again (continues : session.Continues next) {control : Control}
    (settled : control.opening = false) (retries : Nat) :
    Proceeds session (next.again event control retries) := by
  cases control with
  | awaitAck sending => exact .awaitAckAgain continues sending retries
  | awaitData writer blockNumber =>
      exact .awaitDataAgain continues writer blockNumber retries
  | ended outcome => exact ⟨continues, rfl⟩
  | awaitWrqReply => cases settled
  | awaitRrqReply => cases settled

end Proceeds

/-- After the first answer every step goes on with what was settled. -/
theorem TftpClient.step_proceeds
    {client : TftpClient} (settled : client.control.opening = false)
    (event : Event) :
    Proceeds client.session (client.step event) := by
  have here := Session.Continues.refl client.session
  have step := client.step_cases settled event
  generalize client.step event = next at step ⊢
  cases step with
  | refuses sender foreign =>
      refine ⟨here.sendTo _ sender, ?_⟩
      rw [Control.opening_withForeign]
      exact settled
  | again retries => exact .again here settled retries
  | slowerAgain retries => exact .again here.increaseTimeout settled retries
  | raises _ exception => exact .raise here exception
  | abandons _ exception => exact .abandonRead here event.host _ exception
  | interruptsWrite => exact .interruptWrite here
  | interruptsRead => exact .interruptRead here event.host _
  | acknowledged => exact .afterAck here _
  | stores waits data =>
      apply Proceeds.storeBlock here
      intro storage writer
      exact .afterData (here.withStorage storage).timeoutReset _ _ _
  | isOver => exact ⟨here, settled⟩

end IsaTftp.Client
