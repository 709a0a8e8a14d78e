import IsaTftp.Files.Confinement
import IsaTftp.Files.Readers
import IsaTftp.Files.Writer
import IsaTftp.Transfer

/-!
# The state of a client handler

`Session` holds the members of `ClientHandler`, together with the storage it
works on.  `Control` says at which receive a handler is blocked, with the
local variables which are alive there; between two receives a handler runs
without looking at its environment.
-/

namespace IsaTftp.Server

open IsaTftp.Wire
open IsaTftp.Files
open IsaTftp.Transfer

structure Session where
  clientAddress : Address
  rootDirpath : Path
  blksize : Nat
  timeout : Nat
  tsize : Int
  udp : UdpClient
  storage : Storage

/-- The constructor `ClientHandler(hostname, port, root_dirpath)`. -/
def Session.make (clientAddress : Address) (rootDirpath : Path)
    (files : FileSystem) : Session where
  clientAddress := clientAddress
  rootDirpath := rootDirpath
  blksize := 512
  timeout := 1
  tsize := 0
  udp := UdpClient.make
  storage := ⟨files, []⟩

/-- The local variables of the loop which sends one block after the other. -/
structure Sending where
  reader : Reader
  blockNumber : Nat
  data : Bytes
  lastPacketSent : Bool
deriving DecidableEq, Repr

/-- The receive at which a handler is blocked. -/
inductive Control where
  /-- `FollowOnRRQ`, after the OACK -/
  | awaitOackAck (reader : Reader) (retries foreign : Nat)
  /-- `FollowOnRRQ`, after a DATA packet -/
  | awaitAck (sending : Sending) (retries foreign : Nat)
  /-- `FollowOnWRQ`, in the loop for the first DATA packet -/
  | awaitFirstData (options negotiated : List TftpOption)
      (writer : Writer) (retries foreign : Nat)
  /-- `FollowOnWRQ`, in the loop for the later DATA packets -/
  | awaitData (writer : Writer) (blockNumber retries foreign : Nat)
  | ended (outcome : Outcome)
deriving DecidableEq

structure Handler where
  session : Session
  control : Control

namespace Session

/-- Send to the client. -/
@[simps]
def send (session : Session) (data : Bytes) : Session :=
  { session with udp := session.udp.send data session.clientAddress }

@[simps]
def increaseTimeout (session : Session) : Session :=
  { session with udp := session.udp.increaseTimeout }

@[simps]
def timeoutReset (session : Session) : Session :=
  { session with udp := session.udp.timeoutReset }

@[simps]
def withStorage (session : Session) (storage : Storage) : Session :=
  { session with storage := storage }

/-- One round of `NegotiateOptions`. -/
def negotiateOption (session : Session) (option : TftpOption) :
    Except Exception Session := do
  match option.name with
  | .BLKSIZE =>
      let blksize ← stoi option.value
      pure { session with blksize := blksize.toNat }
  | .TIMEOUT =>
      let timeout ← stoi option.value
      pure
        { session with
          timeout := timeout.toNat
          udp := session.udp.changeTimeout timeout.toNat }
  | .TSIZE =>
      let tsize ← stoi option.value
      pure { session with tsize := tsize }
  | .UNSUPPORTED => pure session

/-- `NegotiateOptions`: unsupported options are left out of the answer. -/
def negotiateOptions (session : Session) :
    List TftpOption → Session × Except Exception (List TftpOption)
  | [] => (session, .ok [])
  | option :: options =>
      match session.negotiateOption option with
      | .error exception => (session, .error exception)
      | .ok session =>
          match session.negotiateOptions options with
          | (session, .error exception) => (session, .error exception)
          | (session, .ok negotiated) =>
              (session,
                .ok
                  (if option.name = .UNSUPPORTED then negotiated
                  else option :: negotiated))

/-- What the negotiation leaves alone, and the block sizes it can set. -/
structure Negotiated (session next : Session) : Prop where
  clientAddress : next.clientAddress = session.clientAddress
  rootDirpath : next.rootDirpath = session.rootDirpath
  storage : next.storage = session.storage
  sent : next.udp.sent = session.udp.sent
  blksize : next.blksize = session.blksize ∨
    8 ≤ next.blksize ∧ next.blksize ≤ 65464

theorem Negotiated.refl (session : Session) :
    session.Negotiated session :=
  ⟨rfl, rfl, rfl, rfl, Or.inl rfl⟩

theorem Negotiated.trans
    {first second third : Session}
    (earlier : first.Negotiated second) (later : second.Negotiated third) :
    first.Negotiated third where
  clientAddress := later.clientAddress.trans earlier.clientAddress
  rootDirpath := later.rootDirpath.trans earlier.rootDirpath
  storage := later.storage.trans earlier.storage
  sent := later.sent.trans earlier.sent
  blksize := by
    rcases later.blksize with same | bounds
    · rw [same]
      exact earlier.blksize
    · exact Or.inr bounds

theorem negotiateOption_negotiated
    {session next : Session} {option : TftpOption}
    (accepted : session.negotiateOption option = .ok next) :
    session.Negotiated next := by
  unfold negotiateOption at accepted
  cases name : option.name with
  | BLKSIZE =>
      obtain ⟨number, converted, least, most⟩ := option.blksize_value name
      simp only [name, converted, bind, Except.bind, pure, Except.pure,
        Except.ok.injEq] at accepted
      subst accepted
      simp only [minBlockSize] at least
      simp only [maxBlockSize] at most
      exact
        ⟨rfl, rfl, rfl, rfl, Or.inr ⟨by simp; omega, by simp; omega⟩⟩
  | TIMEOUT =>
      cases converted : stoi option.value with
      | error exception =>
          simp [name, converted, bind, Except.bind] at accepted
      | ok number =>
          simp only [name, converted, bind, Except.bind, pure,
            Except.pure, Except.ok.injEq] at accepted
          subst accepted
          exact ⟨rfl, rfl, rfl, rfl, Or.inl rfl⟩
  | TSIZE =>
      cases converted : stoi option.value with
      | error exception =>
          simp [name, converted, bind, Except.bind] at accepted
      | ok number =>
          simp only [name, converted, bind, Except.bind, pure,
            Except.pure, Except.ok.injEq] at accepted
          subst accepted
          exact ⟨rfl, rfl, rfl, rfl, Or.inl rfl⟩
  | UNSUPPORTED =>
      simp only [name, pure, Except.pure, Except.ok.injEq] at accepted
      subst accepted
      exact Negotiated.refl session

theorem negotiateOptions_negotiated
    {session next : Session} {options : List TftpOption}
    {result : Except Exception (List TftpOption)}
    (negotiation : session.negotiateOptions options = (next, result)) :
    session.Negotiated next := by
  induction options generalizing session next result with
  | nil =>
      cases negotiation
      exact Negotiated.refl session
  | cons option options induction =>
      rw [negotiateOptions] at negotiation
      cases first : session.negotiateOption option with
      | error exception =>
          rw [first] at negotiation
          cases negotiation
          exact Negotiated.refl session
      | ok updated =>
          rw [first] at negotiation
          have earlier := negotiateOption_negotiated first
          cases rest : updated.negotiateOptions options with
          | mk reached answer =>
              have later := induction rest
              simp only [rest] at negotiation
              cases answer <;> cases negotiation <;>
                exact earlier.trans later

/-- `RecievePacketFromClient`, one reception. -/
def recievePacketFromClient (session : Session) (foreign : Nat)
    (reception : Reception) : Session × Delivery :=
  match recievePacketFrom session.clientAddress session.udp foreign
      reception with
  | (udp, delivery) => ({ session with udp := udp }, delivery)

/-- Everything the receiving helper can do with one reception. -/
theorem recievePacketFromClient_cases (session : Session)
    (foreign : Nat) (reception : Reception) :
    (∃ sender,
        session.recievePacketFromClient foreign reception =
          ({ session with
              udp := session.udp.send unknownSender.makeRaw sender },
            .pending (foreign + 1))) ∨
      (∃ exception,
          session.recievePacketFromClient foreign reception =
            (session, .threw exception)) ∨
        ∃ sender bytes, reception = .datagram sender bytes ∧
          session.recievePacketFromClient foreign reception =
            (session,
              .delivered (bytes.take UdpClient.maxPacketSize)) := by
  unfold recievePacketFromClient
  cases result :
      recievePacketFrom session.clientAddress session.udp foreign
        reception with
  | mk udp delivery =>
      rcases recievePacketFrom_cases result with
        ⟨sender, rfl, rfl⟩ | ⟨rfl, exception, rfl⟩ |
          ⟨rfl, sender, bytes, heard, rfl⟩
      · exact Or.inl ⟨sender, rfl⟩
      · exact Or.inr (Or.inl ⟨exception, rfl⟩)
      · exact Or.inr (Or.inr ⟨sender, bytes, heard, rfl⟩)

/-- What is delivered to a handler comes from its client. -/
theorem recievePacketFromClient_delivered
    {session next : Session} {foreign : Nat} {reception : Reception}
    {packet : Bytes}
    (result :
      session.recievePacketFromClient foreign reception =
        (next, .delivered packet)) :
    next = session ∧ foreign < maxRetries ∧
      ∃ bytes, reception = .datagram session.clientAddress bytes ∧
        packet = bytes.take UdpClient.maxPacketSize := by
  unfold recievePacketFromClient at result
  cases received :
      recievePacketFrom session.clientAddress session.udp foreign
        reception with
  | mk udp delivery =>
      rw [received] at result
      cases result
      obtain ⟨rfl, few, bytes, heard, rfl⟩ :=
        recievePacketFrom_delivered received
      exact ⟨rfl, few, bytes, heard, rfl⟩

/-- An exception leaves the handler; the catch clauses report it. -/
@[simps]
def raise (session : Session) (exception : Exception) : Handler where
  session :=
    { session with
      udp :=
        reportException session.udp session.clientAddress exception }
  control := .ended (.threw exception)

/-- The ERROR packet of `CheckForSigintWRQ` and `CheckForSigintRRQ`. -/
def interrupted : ErrorPacket :=
  ⟨.NOT_DEFINED, text "User interrupted transfer"⟩

/--
The end of both functions `CheckForSigint…`, after the file was closed: the
path is deleted and the process terminates.
-/
def deleteAndTerminate (session : Session) (host : HostChoice)
    (path : Path) : Handler :=
  match session.storage.deleteFile host path with
  | (.ok (), storage) =>
      ⟨session.withStorage storage, .ended .terminated⟩
  | (.error exception, storage) =>
      (session.withStorage storage).raise exception

/-- The path which a request names. -/
def filePath (session : Session) (filepath : Bytes) : Path :=
  session.rootDirpath ++ slash :: filepath

end Session

end IsaTftp.Server
