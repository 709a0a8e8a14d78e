import IsaTftp.Library.StopAndWait
import IsaTftp.Network
import IsaTftp.Server.Handler

/-!
# FollowOnWRQ receives by stop-and-wait

In octet mode, on a disk which accepts every write, a handler which follows
on a WRQ implements the receiver of the library: the blocks it has accepted
are the blocks it has handed to the operating system, and its numbers are the
ACK packets it has sent.  `ReceiverView` says in addition what the control
state knows, in particular what the file holds.
-/

namespace IsaTftp.Server

open IsaTftp.Wire
open IsaTftp.Files
open IsaTftp.Transfer
open IsaTftp.Library.StopAndWait

/-- What the session knows about the receiver, whatever its control. -/
structure Agrees (early : Prop) (session : Session)
    (receiver : Receiver Bytes) : Prop where
  accepted : receiver.accepted = session.storage.writtenBlocks
  acks : receiver.acks = acksOn session.udp.sent
  /-- the number zero is only sent in place of an OACK -/
  zero : 0 ∈ receiver.acks → early

/-- A session which receives through a writer. -/
structure Receiving (size : Nat) (path : Path) (session : Session)
    (writer : Writer) (receiver : Receiver Bytes) : Prop where
  sameSize : session.blksize = size
  samePath : writer.filepath = path
  stores :
    writer.Stores session.storage.files receiver.accepted.flatten
  full : ∀ block ∈ receiver.accepted, size ≤ block.length

/-- What the control state knows about the receiver. -/
def ControlAgrees (size : Nat) (path : Path) (early : Prop)
    (handler : Handler) (receiver : Receiver Bytes) : Prop :=
  match handler.control with
  | .awaitFirstData options _ writer _ _ =>
      Receiving size path handler.session writer receiver ∧
        receiver.accepted = [] ∧ (options.length = 0 → early)
  | .awaitData writer blockNumber _ _ =>
      Receiving size path handler.session writer receiver ∧
        writer.file ≠ none ∧ blockNumber = receiver.accepted.length ∧
          0 < blockNumber ∧ blockNumber < 65536
  | .ended .returned =>
      handler.session.storage.files.content path =
          some receiver.accepted.flatten ∧
        ∃ block, receiver.accepted.getLast? = some block ∧
          block.length < size
  | .ended _ => ∀ block ∈ receiver.accepted, size ≤ block.length
  | _ => False

/-- A handler seen as the receiver of a stop-and-wait exchange. -/
structure ReceiverView (size : Nat) (path : Path) (early : Prop)
    (handler : Handler) (receiver : Receiver Bytes) : Prop where
  session : Agrees early handler.session receiver
  control : ControlAgrees size path early handler receiver

variable {size : Nat} {path : Path} {early : Prop}
variable {session : Session} {writer : Writer}
variable {receiver : Receiver Bytes}

/-- Until the handler returns, every accepted block is full. -/
theorem ReceiverView.full
    {handler : Handler}
    (view : ReceiverView size path early handler receiver)
    (going : handler.control ≠ .ended .returned) :
    ∀ block ∈ receiver.accepted, size ≤ block.length := by
  obtain ⟨session, control⟩ := handler
  have knows := view.control
  cases control with
  | awaitFirstData options negotiated writer retries foreign =>
      exact knows.1.full
  | awaitData writer blockNumber retries foreign => exact knows.1.full
  | ended outcome =>
      cases outcome with
      | returned => exact absurd rfl going
      | _ => exact knows
  | awaitOackAck => exact knows.elim
  | awaitAck => exact knows.elim

/-! ## Ways to end -/

theorem Agrees.raise
    (agrees : Agrees early session receiver) (exception : Exception) :
    Agrees early (session.raise exception).session receiver where
  accepted := by simpa using agrees.accepted
  acks := by simpa using agrees.acks
  zero := agrees.zero

/-- After an exception the receiver stays as it is. -/
theorem ReceiverView.abandonWrite
    (agrees : Agrees early session receiver)
    (receiving : Receiving size path session writer receiver)
    (host : HostChoice) (exception : Exception) :
    ReceiverView size path early
      (session.abandonWrite host writer exception) receiver := by
  unfold Session.abandonWrite
  rw [receiving.stores.close host]
  exact ⟨agrees.raise exception, receiving.full⟩

/-- After SIGINT the receiver stays as it is, though the file is gone. -/
theorem ReceiverView.checkForSigintWRQ
    (agrees : Agrees early session receiver)
    (receiving : Receiving size path session writer receiver)
    (host : HostChoice) :
    ReceiverView size path early
      (session.checkForSigintWRQ host writer) receiver := by
  have closed :
      writer.close (session.send Session.interrupted.makeRaw).storage
          host = session.storage :=
    receiving.stores.close host
  have blocks :=
    Storage.writtenBlocks_deleteFile session.storage host
      writer.filepath
  unfold Session.checkForSigintWRQ Session.deleteAndTerminate
  simp only [closed, Session.withStorage_storage]
  cases deleted :
      session.storage.deleteFile host writer.filepath with
  | mk result storage =>
      rw [deleted] at blocks
      have stays :
          Agrees early
            (((session.send Session.interrupted.makeRaw).withStorage
              session.storage).withStorage storage) receiver :=
        { accepted := by simpa [blocks] using agrees.accepted
          acks := by simpa using agrees.acks
          zero := agrees.zero }
      cases result with
      | ok => exact ⟨stays, receiving.full⟩
      | error exception =>
          exact ⟨stays.raise exception, receiving.full⟩

/-! ## The later blocks -/

/-- Sending an ACK is a move of the receiver. -/
theorem Agrees.sendAck
    (agrees : Agrees early session receiver)
    {blockNumber : Nat} (fits : blockNumber < 65536)
    (allowed : blockNumber = 0 → early) :
    Agrees early
      (session.send (AckPacket.makeRaw ⟨UInt16.ofNat blockNumber⟩))
      { receiver with acks := receiver.acks ++ [blockNumber] } where
  accepted := by simpa using agrees.accepted
  acks := by
    have number : (UInt16.ofNat blockNumber).toNat = blockNumber :=
      UInt16.toNat_ofNat_of_lt fits
    simp [agrees.acks, number]
  zero := by
    intro member
    rcases List.mem_append.mp member with old | new
    · exact agrees.zero old
    · exact allowed (by simpa using (List.mem_singleton.mp new).symm)

/-- The handler has made a move of the receiver. -/
def Follows (size : Nat) (path : Path) (early : Prop)
    (heard : Option (Nat × Bytes)) (receiver : Receiver Bytes)
    (handler : Handler) : Prop :=
  ∃ moved, Receiver.Move heard receiver moved ∧
    ReceiverView size path early handler moved

theorem ReceiverView.follows
    {handler : Handler}
    (view : ReceiverView size path early handler receiver)
    (heard : Option (Nat × Bytes)) :
    Follows size path early heard receiver handler :=
  ⟨receiver, Receiver.Move.idle heard receiver, view⟩

/-- The head of the loop for the later blocks sends at most one number. -/
theorem ReceiverView.awaitDataAgain
    (agrees : Agrees early session receiver)
    (receiving : Receiving size path session writer receiver)
    (isOpen : writer.file ≠ none)
    (positive : 0 < receiver.accepted.length)
    (fits : receiver.accepted.length < 65536)
    (host : HostChoice) (retries : Nat) :
    ∃ numbers, (∀ number ∈ numbers, number = receiver.accepted.length) ∧
      ReceiverView size path early
        (session.awaitDataAgain host writer receiver.accepted.length
          retries)
        { receiver with acks := receiver.acks ++ numbers } := by
  unfold Session.awaitDataAgain
  split_ifs with again
  · refine ⟨[receiver.accepted.length], by simp, ?_, ?_⟩
    · exact agrees.sendAck fits (by omega)
    · exact ⟨{ receiving with }, isOpen, rfl, positive, fits⟩
  · refine ⟨[], by simp, ?_⟩
    simpa using ReceiverView.abandonWrite agrees receiving host _

/-- A round of the loop in which no block is accepted. -/
theorem Follows.awaitDataAgain
    (session : Session)
    (agrees : Agrees early session receiver)
    (receiving : Receiving size path session writer receiver)
    (isOpen : writer.file ≠ none)
    (positive : 0 < receiver.accepted.length)
    (fits : receiver.accepted.length < 65536)
    (host : HostChoice) (retries : Nat)
    (heard : Option (Nat × Bytes)) :
    Follows size path early heard receiver
      (session.awaitDataAgain host writer receiver.accepted.length
        retries) := by
  obtain ⟨numbers, current, view⟩ :=
    ReceiverView.awaitDataAgain agrees receiving isOpen positive fits host
      retries
  refine ⟨_, .acknowledge receiver numbers ?_, view⟩
  intro number member
  exact (current number member).le

/-- The last block is acknowledged and the file is complete. -/
theorem ReceiverView.finishWrite
    (agrees : Agrees early session receiver)
    (stores :
      writer.Stores session.storage.files receiver.accepted.flatten)
    (samePath : writer.filepath = path) (isOpen : writer.file ≠ none)
    (positive : 0 < receiver.accepted.length)
    (fits : receiver.accepted.length < 65536)
    (block : Bytes) (last : receiver.accepted.getLast? = some block)
    (short : block.length < size) (host : HostChoice) :
    ReceiverView size path early
      (session.finishWrite host writer receiver.accepted.length)
      { receiver with
        acks := receiver.acks ++ [receiver.accepted.length] } := by
  have content := stores.content isOpen
  rw [samePath] at content
  have closed :
      writer.close (session.send (AckPacket.makeRaw
          ⟨UInt16.ofNat receiver.accepted.length⟩)).storage host =
        session.storage :=
    stores.close host
  have sent := agrees.sendAck fits (by omega)
  unfold Session.finishWrite
  simp only [closed]
  exact
    ⟨⟨sent.accepted, sent.acks, sent.zero⟩, content, block, last, short⟩

/-- Storing the next block is the move which accepts it. -/
theorem Follows.storeBlock
    (agrees : Agrees early session receiver)
    (receiving : Receiving size path session writer receiver)
    (fits : receiver.accepted.length + 1 < 65536)
    {host : HostChoice} (diskAccepts : host.writeFails = none)
    (data : Bytes) :
    Follows size path early
      (some (receiver.accepted.length + 1, data)) receiver
      (session.storeBlock host writer (receiver.accepted.length + 1)
        data) := by
  unfold Session.storeBlock
  rcases receiving.stores.writeFile diskAccepts data with
    ⟨_, _, exception, refused⟩ | ⟨opened, stored, done, stores,
      isOpen, samePath, blocks⟩
  · simp only [refused]
    have noted :
        Agrees early
          (session.withStorage
            (session.storage.access (.openWrite writer.filepath)))
          receiver :=
      { accepted := by simpa using agrees.accepted
        acks := agrees.acks
        zero := agrees.zero }
    exact
      (ReceiverView.abandonWrite noted { receiving with } host
        _).follows _
  · simp only [done]
    let accepted : Receiver Bytes :=
      { receiver with accepted := receiver.accepted ++ [data] }
    have count : accepted.accepted.length = receiver.accepted.length + 1 :=
      by simp [accepted]
    have agreesNow :
        Agrees early (session.withStorage stored).timeoutReset
          accepted :=
      { accepted := by simp [accepted, agrees.accepted, blocks]
        acks := agrees.acks
        zero := agrees.zero }
    have storesNow :
        opened.Stores
          (session.withStorage stored).timeoutReset.storage.files
          accepted.accepted.flatten := by
      simpa [accepted] using stores
    have sameSize :
        (session.withStorage stored).timeoutReset.blksize = size :=
      receiving.sameSize
    have pathNow : opened.filepath = path :=
      samePath.trans receiving.samePath
    rw [sameSize, ← count]
    split_ifs with short
    · have view :=
        ReceiverView.finishWrite agreesNow storesNow pathNow isOpen
          (by omega) (by omega) data (by simp [accepted]) short host
      refine ⟨_, .accept receiver data [accepted.accepted.length] ?_ ?_,
        view⟩
      · rw [count]
      · simp [count]
    · have receivingNow :
          Receiving size path (session.withStorage stored).timeoutReset
            opened accepted :=
        { sameSize := sameSize
          samePath := pathNow
          stores := storesNow
          full := by
            intro block member
            rcases List.mem_append.mp member with old | new
            · exact receiving.full block old
            · have same := List.mem_singleton.mp new
              rw [same]
              exact not_lt.mp short }
      obtain ⟨numbers, current, view⟩ :=
        ReceiverView.awaitDataAgain agreesNow receivingNow isOpen
          (by omega) (by omega) host 0
      refine ⟨_, .accept receiver data numbers ?_ ?_, view⟩
      · rw [count]
      · intro number member
        rw [current number member, count]

/-- A move of the handler, and what it must have heard for it. -/
def Moves (size : Nat) (path : Path) (early : Prop)
    (sent : List Datagram) (receiver : Receiver Bytes)
    (handler : Handler) : Prop :=
  ∃ heard,
    (∀ message, heard = some message → message ∈ dataOn size sent) ∧
      Follows size path early heard receiver handler

theorem Follows.unheard
    {handler : Handler}
    (follows : Follows size path early none receiver handler)
    (sent : List Datagram) :
    Moves size path early sent receiver handler :=
  ⟨none, by simp, follows⟩

/-- One reception in the loop for the later blocks. -/
theorem Moves.stepAwaitData
    (fitsBuffer : size + 4 ≤ UdpClient.maxPacketSize)
    (agrees : Agrees early session receiver)
    (receiving : Receiving size path session writer receiver)
    (isOpen : writer.file ≠ none)
    (positive : 0 < receiver.accepted.length)
    (fits : receiver.accepted.length < 65536)
    {event : Event} (diskAccepts : event.host.writeFails = none)
    {sent : List Datagram} (carries : Carries sent event.reception)
    (retries foreign : Nat) :
    Moves size path early sent receiver
      (session.stepAwaitData writer receiver.accepted.length retries
        foreign event) := by
  have loopAgain := fun retries =>
    (Follows.awaitDataAgain session agrees receiving isOpen positive fits
      event.host retries none).unheard sent
  have slowerAgain := fun retries =>
    (Follows.awaitDataAgain session.increaseTimeout
      { agrees with } { receiving with } isOpen positive fits event.host
      retries none).unheard sent
  have abandons := fun exception =>
    ((ReceiverView.abandonWrite agrees receiving event.host
      exception).follows none).unheard sent
  unfold Session.stepAwaitData
  rcases session.recievePacketFromClient_cases foreign event.reception
    with ⟨sender, result⟩ | ⟨exception, result⟩ |
      ⟨sender, bytes, heard, result⟩
  · simp only [result]
    have stays :
        ReceiverView size path early
          ⟨{ session with
              udp := session.udp.send unknownSender.makeRaw sender },
            .awaitData writer receiver.accepted.length retries
              (foreign + 1)⟩ receiver :=
      ⟨{ accepted := agrees.accepted
         acks := by simpa using agrees.acks
         zero := agrees.zero },
        { receiving with }, isOpen, rfl, positive, fits⟩
    exact (stays.follows none).unheard sent
  · rw [result]
    cases exception with
    | udpTimeout => exact slowerAgain _
    | udpSigint =>
        exact
          ((ReceiverView.checkForSigintWRQ agrees receiving
            event.host).follows none).unheard sent
    | _ => exact abandons _
  · rw [result]
    rw [heard] at carries
    cases classified :
        classifyData (text "Server") (receiver.accepted.length + 1)
          (receiver.accepted.length + 1) session.blksize
          (bytes.take UdpClient.maxPacketSize) with
    | error exception =>
        simp only [classified]
        exact abandons _
    | ok reply =>
        simp only [classified]
        cases reply with
        | accepted data =>
            rw [receiving.sameSize] at classified
            obtain ⟨onWire, room⟩ :=
              mem_dataOn_of_accepted fitsBuffer carries classified
            refine ⟨some (receiver.accepted.length + 1, data), ?_, ?_⟩
            · intro message same
              cases same
              exact onWire
            · exact
                Follows.storeBlock agrees receiving room diskAccepts data
        | old => exact slowerAgain _
        | ignored => exact loopAgain _

/-! ## The first block -/

/-- Before the first block the handler sends an OACK or the number zero. -/
theorem ReceiverView.awaitFirstDataAgain
    (agrees : Agrees early session receiver)
    (receiving : Receiving size path session writer receiver)
    (nothing : receiver.accepted = [])
    {options : List TftpOption} (negotiated : List TftpOption)
    (opening : options.length = 0 → early)
    (host : HostChoice) (retries : Nat) :
    ∃ numbers, (∀ number ∈ numbers, number = 0) ∧
      ReceiverView size path early
        (session.awaitFirstDataAgain host options negotiated writer
          retries)
        { receiver with acks := receiver.acks ++ numbers } := by
  have abandons := fun exception =>
    ReceiverView.abandonWrite agrees receiving host exception
  unfold Session.awaitFirstDataAgain Session.openingReply
  split_ifs with again requested
  · cases encoded : OackPacket.makeRaw ⟨negotiated⟩ with
    | error exception =>
        exact ⟨[], by simp, by simpa using abandons exception⟩
    | ok raw =>
        have silent :
            acksOn (session.send raw).udp.sent =
              acksOn session.udp.sent :=
          acksOn_append_of_opcode (OackPacket.getOpcode_makeRaw encoded)
            (by decide) _ _
        refine ⟨[], by simp, ?_, ?_⟩
        · exact
            { accepted := by simpa using agrees.accepted
              acks := by
                rw [silent, ← agrees.acks, List.append_nil]
              zero := by simpa using agrees.zero }
        · exact ⟨{ receiving with }, nothing, opening⟩
  · have zero : options.length = 0 := by omega
    refine ⟨[0], by simp, ?_, ?_⟩
    · exact agrees.sendAck (by decide) fun _ => opening zero
    · exact ⟨{ receiving with }, nothing, opening⟩
  · exact ⟨[], by simp, by simpa using abandons timeoutError⟩

theorem Follows.awaitFirstDataAgain
    (session : Session)
    (agrees : Agrees early session receiver)
    (receiving : Receiving size path session writer receiver)
    (nothing : receiver.accepted = [])
    {options : List TftpOption} (negotiated : List TftpOption)
    (opening : options.length = 0 → early)
    (host : HostChoice) (retries : Nat)
    (heard : Option (Nat × Bytes)) :
    Follows size path early heard receiver
      (session.awaitFirstDataAgain host options negotiated writer
        retries) := by
  obtain ⟨numbers, zeros, view⟩ :=
    ReceiverView.awaitFirstDataAgain agrees receiving nothing negotiated
      opening host retries
  refine ⟨_, .acknowledge receiver numbers ?_, view⟩
  intro number member
  simp [zeros number member]

/-- One reception in the loop for the first block. -/
theorem Moves.stepAwaitFirstData
    (fitsBuffer : size + 4 ≤ UdpClient.maxPacketSize)
    (agrees : Agrees early session receiver)
    (receiving : Receiving size path session writer receiver)
    (nothing : receiver.accepted = [])
    {options negotiated : List TftpOption}
    (opening : options.length = 0 → early)
    {event : Event} (diskAccepts : event.host.writeFails = none)
    {sent : List Datagram} (carries : Carries sent event.reception)
    (retries foreign : Nat) :
    Moves size path early sent receiver
      (session.stepAwaitFirstData options negotiated writer retries
        foreign event) := by
  have loopAgain := fun retries =>
    (Follows.awaitFirstDataAgain session agrees receiving nothing
      negotiated opening event.host retries none).unheard sent
  have slowerAgain := fun retries =>
    (Follows.awaitFirstDataAgain session.increaseTimeout
      { agrees with } { receiving with } nothing negotiated opening
      event.host retries none).unheard sent
  have abandons := fun exception =>
    ((ReceiverView.abandonWrite agrees receiving event.host
      exception).follows none).unheard sent
  unfold Session.stepAwaitFirstData
  rcases session.recievePacketFromClient_cases foreign event.reception
    with ⟨sender, result⟩ | ⟨exception, result⟩ |
      ⟨sender, bytes, heard, result⟩
  · simp only [result]
    have stays :
        ReceiverView size path early
          ⟨{ session with
              udp := session.udp.send unknownSender.makeRaw sender },
            .awaitFirstData options negotiated writer retries
              (foreign + 1)⟩ receiver :=
      ⟨{ accepted := agrees.accepted
         acks := by simpa using agrees.acks
         zero := agrees.zero },
        { receiving with }, nothing, opening⟩
    exact (stays.follows none).unheard sent
  · rw [result]
    cases exception with
    | udpTimeout => exact slowerAgain _
    | udpSigint =>
        exact
          ((ReceiverView.checkForSigintWRQ agrees receiving
            event.host).follows none).unheard sent
    | _ => exact abandons _
  · rw [result]
    rw [heard] at carries
    cases classified :
        classifyData (text "Client") 1 2 session.blksize
          (bytes.take UdpClient.maxPacketSize) with
    | error exception =>
        simp only [classified]
        exact abandons _
    | ok reply =>
        simp only [classified]
        cases reply with
        | accepted data =>
            rw [receiving.sameSize] at classified
            obtain ⟨onWire, room⟩ :=
              mem_dataOn_of_accepted fitsBuffer carries classified
            refine ⟨some (1, data), ?_, ?_⟩
            · intro message same
              cases same
              exact onWire
            · have first : receiver.accepted.length + 1 = 1 := by
                simp [nothing]
              have stored :=
                Follows.storeBlock agrees receiving (by omega)
                  diskAccepts data
              rwa [first] at stored
        | old => exact slowerAgain _
        | ignored => exact loopAgain _

/-! ## The handler as a receiver -/

/--
A step of a handler which hears the given datagrams, on a disk which accepts
every write.
-/
def Handler.StepOnDisk (incoming : List Datagram)
    (handler next : Handler) : Prop :=
  ∃ event, Carries incoming event.reception ∧
    event.host.writeFails = none ∧ next = handler.step event

/-- A handler which follows on a WRQ implements the receiver. -/
theorem implementsReceiver
    (fitsBuffer : size + 4 ≤ UdpClient.maxPacketSize) (path : Path)
    (early : Prop) :
    ImplementsReceiver Handler.sent Handler.StepOnDisk (dataOn size)
      acksOn (fun _ => True) (ReceiverView size path early) where
  acks view := view.session.acks
  move := by
    rintro incoming ⟨session, control⟩ next receiver view
      _ ⟨event, carries, diskAccepts, rfl⟩
    obtain ⟨agrees, knows⟩ := view
    have moves :
        Moves size path early incoming receiver
          (Handler.step ⟨session, control⟩ event) := by
      cases control with
      | awaitFirstData options negotiated writer retries foreign =>
          obtain ⟨receiving, nothing, opening⟩ := knows
          exact
            Moves.stepAwaitFirstData fitsBuffer agrees receiving nothing
              opening diskAccepts carries retries foreign
      | awaitData writer blockNumber retries foreign =>
          obtain ⟨receiving, isOpen, rfl, positive, fits⟩ := knows
          exact
            Moves.stepAwaitData fitsBuffer agrees receiving isOpen
              positive fits diskAccepts carries retries foreign
      | ended outcome =>
          have stays :
              ReceiverView size path early ⟨session, .ended outcome⟩
                receiver :=
            ⟨agrees, knows⟩
          exact (stays.follows none).unheard incoming
      | awaitOackAck => exact knows.elim
      | awaitAck => exact knows.elim
    obtain ⟨heard, onWire, moved, move, view⟩ := moves
    exact ⟨heard, moved, onWire, move, view⟩

/-- The loop for the first block waits with what it was called with. -/
theorem Session.waits_awaitFirstDataAgain
    {session : Session} {host : HostChoice}
    {options negotiated options' negotiated' : List TftpOption}
    {writer writer' : Writer} {retries retries' foreign : Nat}
    (waits :
      (session.awaitFirstDataAgain host options negotiated writer
          retries).control =
        .awaitFirstData options' negotiated' writer' retries' foreign) :
    options' = options ∧ writer' = writer ∧
      ∃ raw, openingReply options negotiated = .ok raw ∧
        session.awaitFirstDataAgain host options negotiated writer
            retries =
          ⟨session.send raw,
            .awaitFirstData options negotiated writer retries 0⟩ := by
  unfold awaitFirstDataAgain at waits ⊢
  split_ifs at waits ⊢
  · split at waits
    · cases waits
    · rename_i raw opening
      cases waits
      exact ⟨rfl, rfl, raw, opening, rfl⟩
  · cases waits

/-- A handler which has just sent its answer to a WRQ in octet mode. -/
theorem ReceiverView.start
    {clientAddress : Address} {rootDirpath : Path} {files : FileSystem}
    {host : HostChoice} {introPacket : Bytes} {handler : Handler}
    {options negotiated : List TftpOption} {retries foreign : Nat}
    (entered :
      handler =
        (Session.make clientAddress rootDirpath files).followOnWRQ host
          introPacket)
    (waits :
      handler.control =
        .awaitFirstData options negotiated writer retries foreign)
    (octet : writer.mode = .OCTET) :
    (∀ number ∈ acksOn handler.sent, number = 0) ∧
      8 ≤ handler.session.blksize ∧ handler.session.blksize ≤ 65464 ∧
        ReceiverView handler.session.blksize writer.filepath
          (options = []) handler ⟨[], acksOn handler.sent⟩ := by
  rcases Session.followOnWRQ_cases
      (Session.make clientAddress rootDirpath files) host introPacket
    with ⟨reached, exception, quiet, refused⟩ |
      ⟨wrq, reached, asked, parsed, missing, under, quiet, started⟩
  · rw [entered, refused] at waits
    cases waits
  · rw [entered, started] at waits
    obtain ⟨rfl, rfl, raw, _, waiting⟩ :=
      Session.waits_awaitFirstDataAgain waits
    have noAccess : reached.storage.writtenBlocks = [] := by
      rw [quiet.storage]
      rfl
    have noDatagram : reached.udp.sent = [] := quiet.sent
    have agrees : Agrees (wrq.options = []) reached ⟨[], []⟩ :=
      { accepted := noAccess.symm
        acks := by simp [noDatagram, acksOn]
        zero := by simp }
    have receiving :
        Receiving reached.blksize
          ((Session.make clientAddress rootDirpath files).filePath
            wrq.filepath) reached
          (Writer.make
            ((Session.make clientAddress rootDirpath files).filePath
              wrq.filepath) (formatOfMode wrq.mode)) ⟨[], []⟩ :=
      { sameSize := rfl
        samePath := rfl
        stores := by
          have mode : formatOfMode wrq.mode = .OCTET := octet
          rw [mode]
          exact Writer.Stores.make _ _
        full := by simp }
    obtain ⟨numbers, zeros, view⟩ :=
      ReceiverView.awaitFirstDataAgain agrees receiving rfl asked
        (fun empty => List.length_eq_zero_iff.mp empty) host 0
    have acks := view.session.acks
    rw [← started, ← entered] at view acks waiting
    have numbersEqual : numbers = acksOn handler.sent := acks
    rw [numbersEqual] at view zeros
    have bounds : 8 ≤ reached.blksize ∧ reached.blksize ≤ 65464 := by
      rcases quiet.blksize with same | bounds
      · rw [same]
        exact ⟨by simp [Session.make], by simp [Session.make]⟩
      · exact bounds
    have handlerSize : handler.session.blksize = reached.blksize := by
      rw [waiting]
      rfl
    rw [handlerSize]
    exact ⟨zeros, bounds.1, bounds.2, view⟩

end IsaTftp.Server
