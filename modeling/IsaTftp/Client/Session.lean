import IsaTftp.Files.Readers
import IsaTftp.Files.Writer
import IsaTftp.Transfer

/-!
# The state of the client

`Session` holds the members of `TftpClient`, the standard input of the process
and the storage it works on.  As for a client handler of the server, `Control`
says at which receive the client is blocked, with the local variables alive
there.

Between two receives the client looks several times whether SIGINT was
received.  The checks carry the numbers by which `Event.sigintAt` orders them:
along every path through the code the numbers grow.  Two checks with nothing
between them are one.
-/

namespace IsaTftp.Client

open IsaTftp.Wire
open IsaTftp.Files
open IsaTftp.Transfer

inductive TftpMode where
  | READ
  | WRITE
deriving DecidableEq, Repr

structure TftpClientArgs where
  filepath : Bytes
  destFilepath : Bytes
  mode : TftpMode
  fileMode : Mode
  options : List TftpOption
deriving DecidableEq

structure Session where
  args : TftpClientArgs
  serverAddress : Address
  blksize : UInt16
  timeout : Nat
  udp : UdpClient
  stdin : Stream
  storage : Storage

/-- The local variables of the loop in `SendData`. -/
structure Sending where
  stdHandler : StdHandler
  blockNumber : UInt16
  data : Bytes
  lastPacketSent : Bool
deriving DecidableEq, Repr

/-- The receive at which the client is blocked. -/
inductive Control where
  /-- `SendWrq` -/
  | awaitWrqReply
  /-- `SendData` -/
  | awaitAck (sending : Sending) (retries foreign : Nat)
  /-- `Read`, in the loop which sends the RRQ -/
  | awaitRrqReply (writer : Writer) (retries : Nat)
  /-- `Read`, in the loop for the DATA packets -/
  | awaitData (writer : Writer) (blockNumber : UInt16)
      (retries foreign : Nat)
  | ended (outcome : Outcome)
deriving DecidableEq

/-- The running client. -/
structure TftpClient where
  session : Session
  control : Control

namespace Session

/-- Send to the server. -/
@[simps]
def send (session : Session) (data : Bytes) : Session :=
  { session with udp := session.udp.send data session.serverAddress }

@[simps]
def increaseTimeout (session : Session) : Session :=
  { session with udp := session.udp.increaseTimeout }

@[simps]
def timeoutReset (session : Session) : Session :=
  { session with udp := session.udp.timeoutReset }

@[simps]
def withStorage (session : Session) (storage : Storage) : Session :=
  { session with storage := storage }

@[simps]
def withOptions (session : Session) (options : List TftpOption) :
    Session :=
  { session with args := { session.args with options := options } }

/-- "change port to the one that the first server response came from" -/
@[simps]
def adoptPort (session : Session) (sender : Address) : Session :=
  { session with
    serverAddress := { session.serverAddress with port := sender.port } }

/-! ## Options -/

/-- An `int` stored in a `uint16_t`. -/
def toUint16 (number : Int) : UInt16 :=
  UInt16.ofNat (number % 2 ^ 16).toNat

/-- One round of `SetupUdpClient`. -/
def setupOption (session : Session) (option : TftpOption) :
    Except Exception Session := do
  match option.name with
  | .BLKSIZE =>
      let blksize ← stoi option.value
      pure { session with blksize := toUint16 blksize }
  | .TIMEOUT =>
      let timeout ← stoi option.value
      pure
        { session with
          timeout := timeout.toNat
          udp := session.udp.changeTimeout timeout.toNat }
  | _ => pure session

/-- `SetupUdpClient`: what is not among the options stays as it was. -/
def setupUdpClient (session : Session) : Except Exception Session :=
  session.args.options.foldlM setupOption session

/-- The loop which looks for the `blksize` option. -/
def scanBlksize (blksize : UInt16) :
    List TftpOption → Except Exception UInt16
  | [] => .ok blksize
  | option :: options =>
      if option.name = .BLKSIZE then
        match stoi option.value with
        | .error exception => .error exception
        | .ok number => scanBlksize (toUint16 number) options
      else scanBlksize blksize options

/-- The comparison of an option in an OACK with the requested one. -/
def compareOptions (oackOption clientOption : TftpOption) :
    Except Exception Unit := do
  match oackOption.name with
  | .BLKSIZE =>
      if (← stoi oackOption.value) > (← stoi clientOption.value) then
        throw
          (illegalOperation
            (text "Server responded with option 'blksize' with value " ++
              text "higher than client requested"))
  | .TIMEOUT =>
      if (← stoi oackOption.value) ≠ (← stoi clientOption.value) then
        throw
          (illegalOperation
            (text "Server responded with option 'timeout' with value " ++
              text "different than client requested"))
  | .TSIZE =>
      if (← stoi oackOption.value) ≠ (← stoi clientOption.value) then
        throw
          (illegalOperation
            (text "Server responded with option 'tsize' with value " ++
              text "different than client requested"))
  | .UNSUPPORTED =>
      throw
        (illegalOperation (text "Server responded with unsupported option"))

/-- `ValidateOptionsInOack`, for one option of the OACK. -/
def validateOption (requested : List TftpOption)
    (oackOption : TftpOption) : Except Exception Unit := do
  let sameName :=
    requested.filter fun clientOption =>
      oackOption.name = clientOption.name
  if sameName = [] then
    throw
      (illegalOperation
        (text "Server responded with option '" ++ oackOption.nameStr ++
          text "' that client did not request"))
  sameName.forM (compareOptions oackOption)

/-- What both handshakes demand of an OACK. -/
def checkOack (session : Session) (oack : OackPacket) :
    Except Exception Unit := do
  if session.args.options.length < oack.options.length then
    throw
      (illegalOperation
        (text "Server responded with more options than client requested"))
  oack.options.forM (validateOption session.args.options)

/-! ## Ends of the client -/

/-- `RecievePacketFromServer`, one reception. -/
def recievePacketFromServer (session : Session) (foreign : Nat)
    (reception : Reception) : Session × Delivery :=
  match recievePacketFrom session.serverAddress session.udp foreign
      reception with
  | (udp, delivery) => ({ session with udp := udp }, delivery)

/-- Everything the receiving helper can do with one reception. -/
theorem recievePacketFromServer_cases (session : Session)
    (foreign : Nat) (reception : Reception) :
    (∃ sender,
        session.recievePacketFromServer foreign reception =
          ({ session with
              udp := session.udp.send unknownSender.makeRaw sender },
            .pending (foreign + 1))) ∨
      (∃ exception,
          session.recievePacketFromServer foreign reception =
            (session, .threw exception)) ∨
        ∃ sender bytes, reception = .datagram sender bytes ∧
          session.recievePacketFromServer foreign reception =
            (session,
              .delivered (bytes.take UdpClient.maxPacketSize)) := by
  unfold recievePacketFromServer
  cases result :
      recievePacketFrom session.serverAddress session.udp foreign
        reception with
  | mk udp delivery =>
      rcases recievePacketFrom_cases result with
        ⟨sender, rfl, rfl⟩ | ⟨rfl, exception, rfl⟩ |
          ⟨rfl, sender, bytes, heard, rfl⟩
      · exact Or.inl ⟨sender, rfl⟩
      · exact Or.inr (Or.inl ⟨exception, rfl⟩)
      · exact Or.inr (Or.inr ⟨sender, bytes, heard, rfl⟩)

/-- What is delivered to the client comes from its server. -/
theorem recievePacketFromServer_delivered
    {session next : Session} {foreign : Nat} {reception : Reception}
    {packet : Bytes}
    (result :
      session.recievePacketFromServer foreign reception =
        (next, .delivered packet)) :
    next = session ∧ foreign < maxRetries ∧
      ∃ bytes, reception = .datagram session.serverAddress bytes ∧
        packet = bytes.take UdpClient.maxPacketSize := by
  unfold recievePacketFromServer at result
  cases received :
      recievePacketFrom session.serverAddress session.udp foreign
        reception with
  | mk udp delivery =>
      rw [received] at result
      cases result
      obtain ⟨rfl, few, bytes, heard, rfl⟩ :=
        recievePacketFrom_delivered received
      exact ⟨rfl, few, bytes, heard, rfl⟩

/-- An exception leaves the client; the catch clauses of `run` report it. -/
@[simps]
def raise (session : Session) (exception : Exception) : TftpClient where
  session :=
    { session with
      udp :=
        reportException session.udp session.serverAddress exception }
  control := .ended (.threw exception)

/-- The ERROR packet of `CheckForSigintWRQ` and `CheckForSigintRRQ`. -/
def interrupted : ErrorPacket :=
  ⟨.NOT_DEFINED, text "User interrupted"⟩

/-- The client's `CheckForSigintWRQ`, called with the flag set. -/
@[simps]
def interruptWrite (session : Session) : TftpClient :=
  ⟨session.send interrupted.makeRaw, .ended .terminated⟩

/-- The client's `CheckForSigintWRQ`; `received` is the flag. -/
def checkForSigintWRQ (session : Session) (received : Bool)
    (proceed : Session → TftpClient) : TftpClient :=
  if received then session.interruptWrite else proceed session

/-- The client's `CheckForSigintRRQ`, called with the flag set. -/
def interruptRead (session : Session) (host : HostChoice)
    (writer : Writer) : TftpClient :=
  let session := session.send interrupted.makeRaw
  let closed := writer.close session.storage host
  match closed.deleteFile host writer.filepath with
  | (.ok (), storage) =>
      ⟨session.withStorage storage, .ended .terminated⟩
  | (.error exception, storage) =>
      (session.withStorage storage).raise exception

/-- The client's `CheckForSigintRRQ`; `received` is the flag. -/
def checkForSigintRRQ (session : Session) (host : HostChoice)
    (writer : Writer) (received : Bool)
    (proceed : Session → TftpClient) : TftpClient :=
  if received then session.interruptRead host writer
  else proceed session

end Session

/-- The constructor, once the name of the server has been resolved. -/
def Session.make (args : TftpClientArgs) (serverAddress : Address)
    (stdin : Bytes) (files : FileSystem) : Except Exception Session :=
  setupUdpClient
    { args := args
      serverAddress := serverAddress
      blksize := 512
      timeout := 1
      udp := UdpClient.make
      stdin := ⟨stdin, false⟩
      storage := ⟨files, []⟩ }

end IsaTftp.Client
