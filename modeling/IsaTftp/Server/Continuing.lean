import IsaTftp.Timeouts
import IsaTftp.Server.Rounds

/-!
# What a running transfer does not change

From the end of the negotiation on a handler keeps its client, its block size
and its timeout.  Its socket goes through calls of `IncreaseTimeout` and
`TimeoutReset` and through sends only.
-/

namespace IsaTftp.Server

open IsaTftp.Wire
open IsaTftp.Files
open IsaTftp.Transfer
open IsaTftp.Library.Runs
open IsaTftp.Library.Backoff

/-- The same transfer goes on: only calls which change nothing negotiated. -/
structure Session.Continues (session next : Session) : Prop where
  clientAddress : next.clientAddress = session.clientAddress
  rootDirpath : next.rootDirpath = session.rootDirpath
  blksize : next.blksize = session.blksize
  timeout : next.timeout = session.timeout
  calls : ∃ calls, UdpClient.History session.udp calls next.udp

namespace Session.Continues

variable {session next : Session} {host : HostChoice}

theorem refl (session : Session) : session.Continues session :=
  ⟨rfl, rfl, rfl, rfl, [], .refl⟩

theorem trans
    {first second third : Session}
    (earlier : first.Continues second) (later : second.Continues third) :
    first.Continues third where
  clientAddress := later.clientAddress.trans earlier.clientAddress
  rootDirpath := later.rootDirpath.trans earlier.rootDirpath
  blksize := later.blksize.trans earlier.blksize
  timeout := later.timeout.trans earlier.timeout
  calls := by
    obtain ⟨calls, before⟩ := earlier.calls
    obtain ⟨more, after⟩ := later.calls
    exact ⟨calls ++ more, before.trans after⟩

/-- A datagram goes to some address. -/
theorem sendTo (continues : session.Continues next) (data : Bytes)
    (reciever : Address) :
    session.Continues
      { next with udp := next.udp.send data reciever } where
  clientAddress := continues.clientAddress
  rootDirpath := continues.rootDirpath
  blksize := continues.blksize
  timeout := continues.timeout
  calls := by
    obtain ⟨calls, history⟩ := continues.calls
    exact ⟨calls, history.send data reciever⟩

theorem send (continues : session.Continues next) (data : Bytes) :
    session.Continues (next.send data) :=
  continues.sendTo data next.clientAddress

theorem increaseTimeout (continues : session.Continues next) :
    session.Continues next.increaseTimeout where
  clientAddress := continues.clientAddress
  rootDirpath := continues.rootDirpath
  blksize := continues.blksize
  timeout := continues.timeout
  calls := by
    obtain ⟨calls, history⟩ := continues.calls
    exact ⟨_, history.increaseTimeout⟩

theorem timeoutReset (continues : session.Continues next) :
    session.Continues next.timeoutReset where
  clientAddress := continues.clientAddress
  rootDirpath := continues.rootDirpath
  blksize := continues.blksize
  timeout := continues.timeout
  calls := by
    obtain ⟨calls, history⟩ := continues.calls
    exact ⟨_, history.timeoutReset⟩

theorem withStorage (continues : session.Continues next)
    (storage : Storage) :
    session.Continues (next.withStorage storage) :=
  ⟨continues.clientAddress, continues.rootDirpath, continues.blksize,
    continues.timeout, continues.calls⟩

theorem raise (continues : session.Continues next)
    (exception : Exception) :
    session.Continues (next.raise exception).session := by
  unfold Session.raise reportException
  split
  · split
    · exact continues.sendTo _ _
    · exact continues
  · exact continues

/-! ## Both directions -/

theorem deleteAndTerminate (continues : session.Continues next)
    (path : Path) :
    session.Continues (next.deleteAndTerminate host path).session := by
  unfold Session.deleteAndTerminate
  split
  · exact continues.withStorage _
  · exact (continues.withStorage _).raise _

/-! ## FollowOnRRQ -/

theorem sendBlock (continues : session.Continues next)
    (reader : Reader) (blockNumber : Nat) :
    session.Continues (next.sendBlock host reader blockNumber).session := by
  unfold Session.sendBlock
  split
  · exact (continues.withStorage _).raise _
  · exact (continues.withStorage _).send _

theorem awaitAckAgain (continues : session.Continues next)
    (sending : Sending) (retries : Nat) :
    session.Continues (next.awaitAckAgain sending retries).session := by
  unfold Session.awaitAckAgain
  split_ifs
  · exact continues
  · exact continues.timeoutReset
  · exact continues.raise timeoutError

theorem afterAck (continues : session.Continues next)
    (sending : Sending) :
    session.Continues (next.afterAck host sending).session := by
  unfold Session.afterAck
  split_ifs
  · exact continues.timeoutReset
  · exact continues.timeoutReset.sendBlock _ _

theorem awaitOackAckAgain (continues : session.Continues next)
    (reader : Reader) (retries : Nat) :
    session.Continues (next.awaitOackAckAgain reader retries).session := by
  unfold Session.awaitOackAckAgain
  split_ifs
  · exact continues
  · exact continues.raise timeoutError

theorem checkForSigintRRQ (continues : session.Continues next)
    (reader : Reader) :
    session.Continues (next.checkForSigintRRQ host reader).session :=
  (continues.send _).deleteAndTerminate _

/-! ## FollowOnWRQ -/

theorem abandonWrite (continues : session.Continues next)
    (writer : Writer) (exception : Exception) :
    session.Continues
      (next.abandonWrite host writer exception).session :=
  (continues.withStorage _).raise exception

theorem checkForSigintWRQ (continues : session.Continues next)
    (writer : Writer) :
    session.Continues (next.checkForSigintWRQ host writer).session :=
  ((continues.send _).withStorage _).deleteAndTerminate _

theorem awaitDataAgain (continues : session.Continues next)
    (writer : Writer) (blockNumber retries : Nat) :
    session.Continues
      (next.awaitDataAgain host writer blockNumber retries).session := by
  unfold Session.awaitDataAgain
  split_ifs
  · exact continues.send _
  · exact continues.abandonWrite writer timeoutError

theorem awaitFirstDataAgain (continues : session.Continues next)
    (options negotiated : List TftpOption) (writer : Writer)
    (retries : Nat) :
    session.Continues
      (next.awaitFirstDataAgain host options negotiated writer
        retries).session := by
  unfold Session.awaitFirstDataAgain
  split_ifs
  · split
    · exact continues.abandonWrite writer _
    · exact continues.send _
  · exact continues.abandonWrite writer timeoutError

theorem storeBlock (continues : session.Continues next)
    (writer : Writer) (blockNumber : Nat) (data : Bytes) :
    session.Continues
      (next.storeBlock host writer blockNumber data).session := by
  unfold Session.storeBlock
  split
  · exact continues.withStorage _
  · exact (continues.withStorage _).abandonWrite _ _
  · dsimp only
    split_ifs
    · exact
        ((continues.withStorage _).timeoutReset.send _).withStorage _
    · exact (continues.withStorage _).timeoutReset.awaitDataAgain _ _ _

/-! ## Every loop -/

theorem again (continues : session.Continues next) (control : Control)
    (retries : Nat) :
    session.Continues (next.again host control retries).session := by
  cases control with
  | awaitOackAck reader => exact continues.awaitOackAckAgain reader retries
  | awaitAck sending => exact continues.awaitAckAgain sending retries
  | awaitFirstData options negotiated writer =>
      exact continues.awaitFirstDataAgain options negotiated writer retries
  | awaitData writer blockNumber =>
      exact continues.awaitDataAgain writer blockNumber retries
  | ended outcome => exact continues

end Session.Continues

/-- Every step of a handler goes on with what was negotiated. -/
theorem Handler.step_continues (handler : Handler) (event : Event) :
    handler.session.Continues (handler.step event).session := by
  have here := Session.Continues.refl handler.session
  have step := handler.step_cases event
  generalize handler.step event = next at step ⊢
  cases step with
  | refuses sender foreign => exact here.sendTo _ sender
  | again retries => exact here.again _ retries
  | slowerAgain retries => exact here.increaseTimeout.again _ retries
  | raises _ exception => exact here.raise exception
  | abandons _ exception => exact here.abandonWrite _ exception
  | interruptsRRQ => exact here.checkForSigintRRQ _
  | interruptsWRQ => exact here.checkForSigintWRQ _
  | begins => exact here.timeoutReset.sendBlock _ 1
  | acknowledged => exact here.afterAck _
  | stores _ blockNumber data => exact here.storeBlock _ blockNumber data
  | isOver => exact here

/-- So does every run. -/
theorem Session.Continues.run
    {session : Session} {handler : Handler}
    (continues : session.Continues handler.session)
    (events : List Event) :
    session.Continues (run Handler.step handler events).session :=
  run_invariant
    (fun reached : Handler => session.Continues reached.session)
    (fun reached event here => here.trans (reached.step_continues event))
    continues events

end IsaTftp.Server
