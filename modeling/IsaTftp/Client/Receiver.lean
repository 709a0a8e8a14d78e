import IsaTftp.Client.Agreement

/-!
# Read receives by stop-and-wait

In octet mode, on a disk which accepts every write, the client implements the
receiver of the library.  The first block can come in the loop which sends
the request; otherwise an OACK comes there and is acknowledged with the
number zero.
-/

namespace IsaTftp.Client

open IsaTftp.Wire
open IsaTftp.Files
open IsaTftp.Transfer
open IsaTftp.Library.StopAndWait

/-- What the session knows about the receiver, whatever its control. -/
structure Agrees (session : Session) (receiver : Receiver Bytes) :
    Prop where
  accepted : receiver.accepted = session.storage.writtenBlocks
  acks : receiver.acks = acksOn session.udp.sent

/-- A session which receives through a writer. -/
structure Receiving (size : Nat) (path : Path) (session : Session)
    (writer : Writer) (receiver : Receiver Bytes) : Prop where
  sameSize : session.blksize.toNat = size
  samePath : writer.filepath = path
  stores :
    writer.Stores session.storage.files receiver.accepted.flatten
  isOpen : 0 < receiver.accepted.length → writer.file ≠ none

/-- The last accepted block is a short one. -/
def EndsShort (size : Nat) (receiver : Receiver Bytes) : Prop :=
  ∃ block, receiver.accepted.getLast? = some block ∧
    block.length < size

/-- What the control state knows about the receiver. -/
def ReceivingAgrees (size : Nat) (path : Path) (client : TftpClient)
    (receiver : Receiver Bytes) : Prop :=
  match client.control with
  | .awaitRrqReply writer _ =>
      Receiving size path client.session writer receiver ∧
        receiver.accepted = []
  | .awaitData writer blockNumber _ _ =>
      Receiving size path client.session writer receiver ∧
        blockNumber.toNat = receiver.accepted.length
  | .ended .returned =>
      client.session.storage.files.content path =
          some receiver.accepted.flatten ∧ EndsShort size receiver
  | .ended _ => True
  | _ => False

/-- The client seen as the receiver of a stop-and-wait exchange. -/
structure ReceiverView (size : Nat) (path : Path) (client : TftpClient)
    (receiver : Receiver Bytes) : Prop where
  session : Agrees client.session receiver
  control : ReceivingAgrees size path client receiver

variable {size : Nat} {path : Path} {session : Session}
variable {writer : Writer} {receiver : Receiver Bytes}

/-! ## Ways to end -/

/-- After an exception the receiver stays as it is. -/
theorem ReceiverView.abandonRead
    (agrees : Agrees session receiver)
    (receiving : Receiving size path session writer receiver)
    (host : HostChoice) (exception : Exception) :
    ReceiverView size path (session.abandonRead host writer exception)
      receiver := by
  unfold Session.abandonRead
  rw [receiving.stores.close host]
  exact
    ⟨{ accepted := by simpa using agrees.accepted
       acks := by simpa using agrees.acks }, trivial⟩

/-- After SIGINT the receiver stays as it is, though the file is gone. -/
theorem ReceiverView.interruptRead
    (agrees : Agrees session receiver)
    (receiving : Receiving size path session writer receiver)
    (host : HostChoice) :
    ReceiverView size path (session.interruptRead host writer)
      receiver := by
  have closed :
      writer.close (session.send Session.interrupted.makeRaw).storage
          host = session.storage :=
    receiving.stores.close host
  have blocks :=
    Storage.writtenBlocks_deleteFile session.storage host
      writer.filepath
  unfold Session.interruptRead
  simp only [closed]
  cases deleted :
      session.storage.deleteFile host writer.filepath with
  | mk result storage =>
      rw [deleted] at blocks
      cases result with
      | ok =>
          exact
            ⟨{ accepted := by simpa [blocks] using agrees.accepted
               acks := by simpa using agrees.acks }, trivial⟩
      | error exception =>
          exact
            ⟨{ accepted := by simpa [blocks] using agrees.accepted
               acks := by simpa using agrees.acks }, trivial⟩

/-! ## Answers -/

/-- The client has acknowledged the last accepted block, or nothing. -/
def Answers (size : Nat) (path : Path) (receiver : Receiver Bytes)
    (client : TftpClient) : Prop :=
  ∃ numbers, (∀ number ∈ numbers, number = receiver.accepted.length) ∧
    ReceiverView size path client
      { receiver with acks := receiver.acks ++ numbers }

theorem ReceiverView.answers
    {client : TftpClient}
    (view : ReceiverView size path client receiver) :
    Answers size path receiver client :=
  ⟨[], by simp, by simpa using view⟩

theorem Answers.checkForSigintRRQ
    {host : HostChoice} {received : Bool}
    {proceed : Session → TftpClient}
    (agrees : Agrees session receiver)
    (receiving : Receiving size path session writer receiver)
    (proceeds : Answers size path receiver (proceed session)) :
    Answers size path receiver
      (session.checkForSigintRRQ host writer received proceed) := by
  unfold Session.checkForSigintRRQ
  split_ifs
  · exact (ReceiverView.interruptRead agrees receiving host).answers
  · exact proceeds

/-- Sending an ACK is a move of the receiver. -/
theorem Agrees.sendAck
    (agrees : Agrees session receiver) (packet : AckPacket) :
    Agrees (session.send packet.makeRaw)
      { receiver with
        acks := receiver.acks ++ [packet.blockNumber.toNat] } where
  accepted := by simpa using agrees.accepted
  acks := by simp [agrees.acks]

/-- The head of the loop for one block. -/
theorem Answers.awaitDataAgain
    (session : Session) (agrees : Agrees session receiver)
    (receiving : Receiving size path session writer receiver)
    {blockNumber : UInt16}
    (number : blockNumber.toNat = receiver.accepted.length)
    (retries : Nat) (event : Event) :
    Answers size path receiver
      (session.awaitDataAgain writer blockNumber retries event) := by
  unfold Session.awaitDataAgain
  split_ifs
  · refine Answers.checkForSigintRRQ agrees receiving ?_
    refine ⟨[blockNumber.toNat], by simpa using number, ?_⟩
    exact ⟨agrees.sendAck ⟨blockNumber⟩, { receiving with }, number⟩
  · refine Answers.checkForSigintRRQ agrees receiving ?_
    exact
      (ReceiverView.abandonRead agrees receiving event.host _).answers

/-- The end of the function. -/
theorem Answers.finishRead
    (agrees : Agrees session receiver)
    (receiving : Receiving size path session writer receiver)
    {blockNumber : UInt16}
    (number : blockNumber.toNat = receiver.accepted.length)
    (short : EndsShort size receiver) (event : Event) :
    Answers size path receiver
      (session.finishRead writer blockNumber event) := by
  have some_ : 0 < receiver.accepted.length := by
    obtain ⟨block, last, _⟩ := short
    exact List.length_pos_of_mem (List.mem_of_getLast? last)
  have content := receiving.stores.content (receiving.isOpen some_)
  rw [receiving.samePath] at content
  unfold Session.finishRead
  refine Answers.checkForSigintRRQ agrees receiving ?_
  have closed :
      writer.close
          (session.send (AckPacket.makeRaw ⟨blockNumber⟩)).storage
          event.host = session.storage :=
    receiving.stores.close event.host
  simp only [closed]
  have sent := agrees.sendAck ⟨blockNumber⟩
  refine ⟨[blockNumber.toNat], by simpa using number, ?_⟩
  exact ⟨⟨sent.accepted, sent.acks⟩, content, short⟩

theorem Answers.afterData
    (session : Session) (agrees : Agrees session receiver)
    (receiving : Receiving size path session writer receiver)
    {blockNumber : UInt16}
    (number : blockNumber.toNat = receiver.accepted.length)
    {lastPacketReceived : Bool}
    (short : lastPacketReceived = true → EndsShort size receiver)
    (event : Event) :
    Answers size path receiver
      (session.afterData writer blockNumber lastPacketReceived
        event) := by
  unfold Session.afterData
  split_ifs with last
  · exact Answers.finishRead agrees receiving number (short last) event
  · exact
      Answers.awaitDataAgain session agrees receiving number 0 event

/-! ## Receiving blocks -/

/-- The client has made a move of the receiver. -/
def Follows (size : Nat) (path : Path) (heard : Option (Nat × Bytes))
    (receiver : Receiver Bytes) (client : TftpClient) : Prop :=
  ∃ moved, Receiver.Move heard receiver moved ∧
    ReceiverView size path client moved

theorem Answers.follows
    {client : TftpClient} (answers : Answers size path receiver client)
    (heard : Option (Nat × Bytes)) :
    Follows size path heard receiver client := by
  obtain ⟨numbers, last, view⟩ := answers
  refine ⟨_, .acknowledge receiver numbers ?_, view⟩
  intro number member
  exact (last number member).le

/-- The receiver after it has accepted one more block. -/
def acceptOne (receiver : Receiver Bytes) (data : Bytes) :
    Receiver Bytes :=
  { receiver with accepted := receiver.accepted ++ [data] }

@[simp]
theorem length_acceptOne (receiver : Receiver Bytes) (data : Bytes) :
    (acceptOne receiver data).accepted.length =
      receiver.accepted.length + 1 := by
  simp [acceptOne]

theorem endsShort_acceptOne
    (receiver : Receiver Bytes) {data : Bytes}
    (short : data.length < size) :
    EndsShort size (acceptOne receiver data) :=
  ⟨data, by simp [acceptOne], short⟩

/-- Storing the next block is the move which accepts it. -/
theorem Follows.storeBlock
    (agrees : Agrees session receiver)
    (receiving : Receiving size path session writer receiver)
    {event : Event} (diskAccepts : event.host.writeFails = none)
    (data : Bytes) {proceed : Session → Writer → TftpClient}
    (proceeds : ∀ storage next,
      Agrees (session.withStorage storage) (acceptOne receiver data) →
        Receiving size path (session.withStorage storage) next
            (acceptOne receiver data) →
          Answers size path (acceptOne receiver data)
            (proceed (session.withStorage storage) next)) :
    Follows size path (some (receiver.accepted.length + 1, data))
      receiver (session.storeBlock writer event data proceed) := by
  unfold Session.storeBlock
  rcases receiving.stores.writeFile diskAccepts data with
    ⟨_, _, exception, refused⟩ | ⟨opened, stored, done, stores, isOpen,
      samePath, blocks⟩
  · simp only [refused]
    have noted :
        Agrees
          (session.withStorage
            (session.storage.access (.openWrite writer.filepath)))
          receiver :=
      { accepted := by simpa using agrees.accepted
        acks := agrees.acks }
    exact
      (ReceiverView.abandonRead noted { receiving with } event.host
        _).answers.follows _
  · simp only [done]
    obtain ⟨numbers, current, view⟩ :=
      proceeds stored opened
        { accepted := by simp [acceptOne, agrees.accepted, blocks]
          acks := agrees.acks }
        { sameSize := receiving.sameSize
          samePath := samePath.trans receiving.samePath
          stores := by simpa [acceptOne] using stores
          isOpen := fun _ => isOpen }
    refine ⟨_, .accept receiver data numbers rfl ?_, view⟩
    intro number member
    rw [current number member, length_acceptOne]

/-- A move of the client, and what it must have heard for it. -/
def ReceivingMoves (size : Nat) (path : Path)
    (incoming : List Datagram) (receiver : Receiver Bytes)
    (client : TftpClient) : Prop :=
  ∃ heard moved,
    (∀ message, heard = some message →
        message ∈ dataOn size incoming) ∧
      Receiver.Move heard receiver moved ∧
        ReceiverView size path client moved

theorem Answers.moves
    {client : TftpClient} (answers : Answers size path receiver client)
    (incoming : List Datagram) :
    ReceivingMoves size path incoming receiver client := by
  obtain ⟨moved, move, view⟩ := answers.follows none
  exact ⟨none, moved, by simp, move, view⟩

/-- One reception in the loop for the DATA packets. -/
theorem ReceivingMoves.stepAwaitData
    (fitsBuffer : size + 4 ≤ UdpClient.maxPacketSize)
    (agrees : Agrees session receiver)
    (receiving : Receiving size path session writer receiver)
    {blockNumber : UInt16}
    (number : blockNumber.toNat = receiver.accepted.length)
    {event : Event} (diskAccepts : event.host.writeFails = none)
    {incoming : List Datagram}
    (carries : Carries incoming event.reception)
    (retries foreign : Nat) :
    ReceivingMoves size path incoming receiver
      (session.stepAwaitData writer blockNumber retries foreign
        event) := by
  have loopAgain := fun retries =>
    (Answers.awaitDataAgain session agrees receiving number retries
      event).moves incoming
  have slowerAgain := fun retries =>
    (Answers.awaitDataAgain session.increaseTimeout
      ⟨agrees.accepted, agrees.acks⟩ { receiving with } number retries
      event).moves incoming
  have abandons := fun exception =>
    (ReceiverView.abandonRead agrees receiving event.host
      exception).answers.moves incoming
  unfold Session.stepAwaitData
  rcases session.recievePacketFromServer_cases foreign event.reception
    with ⟨other, result⟩ | ⟨exception, result⟩ |
      ⟨other, bytes, heard, result⟩
  · simp only [result]
    have stays :
        ReceiverView size path
          ⟨{ session with
              udp := session.udp.send unknownSender.makeRaw other },
            .awaitData writer blockNumber retries (foreign + 1)⟩
          receiver :=
      ⟨{ accepted := agrees.accepted
         acks := by simpa using agrees.acks },
        { receiving with }, number⟩
    exact stays.answers.moves incoming
  · rw [result]
    cases exception with
    | udpTimeout => exact slowerAgain _
    | udpSigint =>
        exact
          (ReceiverView.interruptRead agrees receiving
            event.host).answers.moves incoming
    | _ => exact abandons _
  · rw [result]
    rw [heard] at carries
    cases classified :
        classifyData (text "Server") (blockNumber.toNat + 1)
          (blockNumber.toNat + 1) session.blksize.toNat
          (bytes.take UdpClient.maxPacketSize) with
    | error exception =>
        simp only [classified]
        exact abandons _
    | ok reply =>
        simp only [classified]
        cases reply with
        | accepted data =>
            rw [receiving.sameSize] at classified
            obtain ⟨onWire, room⟩ :=
              mem_dataOn_of_accepted fitsBuffer carries classified
            rw [number] at onWire
            have next :
                (blockNumber + 1).toNat =
                  (acceptOne receiver data).accepted.length := by
              rw [length_acceptOne, ← number, UInt16.toNat_add]
              exact Nat.mod_eq_of_lt room
            have follows :
                Follows size path
                  (some (receiver.accepted.length + 1, data)) receiver
                  (session.storeBlock writer event data
                    fun session writer =>
                      session.timeoutReset.afterData writer
                        (blockNumber + 1)
                        (decide (data.length < session.blksize.toNat))
                        event) :=
              Follows.storeBlock agrees receiving diskAccepts data
                fun storage opened agreesNow receivingNow =>
                  Answers.afterData
                    (session.withStorage storage).timeoutReset
                    ⟨agreesNow.accepted, agreesNow.acks⟩
                    { receivingNow with } next
                    (fun last =>
                      endsShort_acceptOne receiver
                        (by
                          rw [← receivingNow.sameSize]
                          exact of_decide_eq_true last))
                    event
            obtain ⟨moved, move, view⟩ := follows
            refine ⟨_, moved, ?_, move, view⟩
            intro message same
            cases same
            exact onWire
        | old => exact slowerAgain _
        | ignored => exact loopAgain _

/-! ## The first answer -/

/-- Options which name no other block size than this one. -/
def OptionsAgree (size : Nat) (options : List TftpOption) : Prop :=
  ∀ option ∈ options, option.name = .BLKSIZE →
    stoi option.value = .ok (size : Int)

theorem lastNumber_of_agree
    {options : List TftpOption} (agree : OptionsAgree size options) :
    lastNumber .BLKSIZE size options = size := by
  induction options with
  | nil => rfl
  | cons option options induction =>
      have rest : OptionsAgree size options :=
        fun later member => agree later (List.mem_cons_of_mem _ member)
      rw [lastNumber_cons]
      split_ifs with name
      · have converted := (numberOf_blksize name).1
        rw [agree option List.mem_cons_self name] at converted
        have same : size = numberOf option.value := by
          simpa using converted
        rw [← same]
        exact induction rest
      · exact induction rest

theorem scanBlksize_of_agree
    {options : List TftpOption} (agree : OptionsAgree size options)
    {blksize scanned : UInt16} (before : blksize.toNat = size)
    (result : Session.scanBlksize blksize options = .ok scanned) :
    scanned.toNat = size := by
  obtain ⟨found, scan, value⟩ := scanBlksize_eq options blksize
  rw [result] at scan
  cases scan
  rw [value, before]
  exact lastNumber_of_agree agree

/-- What `SetupUdpClient` leaves alone when the options agree. -/
structure SetUp (size : Nat) (session next : Session) : Prop where
  sameSize : next.blksize.toNat = size
  args : next.args = session.args
  storage : next.storage = session.storage
  sent : next.udp.sent = session.udp.sent

theorem foldlM_setupOption_of_agree
    {options : List TftpOption} (agree : OptionsAgree size options)
    {session next : Session} (before : session.blksize.toNat = size)
    (result :
      options.foldlM Session.setupOption session = .ok next) :
    SetUp size session next := by
  obtain ⟨reached, reaches, setsUp⟩ :=
    foldlM_setupOption_setsUp options session
  rw [result] at reaches
  cases reaches
  refine ⟨?_, setsUp.args, setsUp.storage, setsUp.sent⟩
  rw [setsUp.blksize, before]
  exact lastNumber_of_agree agree

/-- Between the two loops. -/
theorem Answers.afterRrqReply
    (session : Session) (agrees : Agrees session receiver)
    (receiving : Receiving size path session writer receiver)
    (agree : OptionsAgree size session.args.options)
    {blockNumber : UInt16}
    (number : blockNumber.toNat = receiver.accepted.length)
    {lastPacketReceived : Bool}
    (short : lastPacketReceived = true → EndsShort size receiver)
    (event : Event) :
    Answers size path receiver
      (session.afterRrqReply writer blockNumber lastPacketReceived
        event) := by
  unfold Session.afterRrqReply
  refine Answers.checkForSigintRRQ agrees receiving ?_
  have agreesNow : Agrees session.timeoutReset receiver :=
    ⟨agrees.accepted, agrees.acks⟩
  have receivingNow :
      Receiving size path session.timeoutReset writer receiver :=
    { receiving with }
  cases scan :
      Session.scanBlksize session.timeoutReset.blksize
        session.timeoutReset.args.options with
  | error exception =>
      simp only [scan]
      exact
        (ReceiverView.abandonRead agreesNow receivingNow event.host
          exception).answers
  | ok blksize =>
      simp only [scan]
      have sameSize :=
        scanBlksize_of_agree agree receiving.sameSize scan
      have agreesThen :
          Agrees { session.timeoutReset with blksize := blksize }
            receiver :=
        ⟨agrees.accepted, agrees.acks⟩
      have receivingThen :
          Receiving size path
            { session.timeoutReset with blksize := blksize } writer
            receiver :=
        ⟨sameSize, receiving.samePath, receiving.stores,
          receiving.isOpen⟩
      refine Answers.checkForSigintRRQ agreesThen receivingThen ?_
      exact
        Answers.afterData _ agreesThen receivingThen number short event

/-- The head of the loop which sends the RRQ. -/
theorem Answers.awaitRrqReplyAgain
    (session : Session) (agrees : Agrees session receiver)
    (receiving : Receiving size path session writer receiver)
    (nothing : receiver.accepted = []) (retries : Nat) (event : Event) :
    Answers size path receiver
      (session.awaitRrqReplyAgain writer retries event) := by
  unfold Session.awaitRrqReplyAgain
  refine Answers.checkForSigintRRQ agrees receiving ?_
  have abandons := fun exception =>
    (ReceiverView.abandonRead agrees receiving event.host
      exception).answers
  split_ifs
  · dsimp only
    split
    · exact abandons _
    · rename_i raw encoded
      have silent :
          acksOn (session.send raw).udp.sent =
            acksOn session.udp.sent :=
        acksOn_append_of_opcode
          (ReadWritePacket.getOpcode_makeRaw encoded) (by simp) _ _
      have view :
          ReceiverView size path
            ⟨session.send raw, .awaitRrqReply writer retries⟩ receiver :=
        ⟨⟨agrees.accepted, by rw [silent, ← agrees.acks]⟩,
          { receiving with }, nothing⟩
      exact view.answers
  · exact abandons _

/-- The first block is the answer to the request. -/
theorem Follows.acceptFirstBlock
    (agrees : Agrees session receiver)
    (receiving : Receiving size path session writer receiver)
    (nothing : receiver.accepted = [])
    {event : Event} (diskAccepts : event.host.writeFails = none)
    (data : Bytes) :
    Follows size path (some (1, data)) receiver
      (session.acceptFirstBlock writer event data) := by
  have first : 1 = receiver.accepted.length + 1 := by
    simp [nothing]
  have reduced :
      session.acceptFirstBlock writer event data =
        (session.withOptions []).storeBlock writer event data
          fun session writer =>
            session.afterRrqReply writer 1
              (decide (data.length < session.blksize.toNat)) event :=
    rfl
  rw [reduced, first]
  have agreesNow : Agrees (session.withOptions []) receiver :=
    ⟨agrees.accepted, agrees.acks⟩
  have receivingNow :
      Receiving size path (session.withOptions []) writer receiver :=
    { receiving with }
  refine
    Follows.storeBlock agreesNow receivingNow diskAccepts data
      fun storage opened agreesThen receivingThen => ?_
  refine
    Answers.afterRrqReply _ agreesThen receivingThen
      (by simp [OptionsAgree]) (by simp [nothing]) ?_ event
  intro last
  refine endsShort_acceptOne receiver ?_
  rw [← receivingThen.sameSize]
  exact of_decide_eq_true last

/-- An OACK is the answer to the request. -/
theorem Answers.acceptOack
    (agrees : Agrees session receiver)
    (receiving : Receiving size path session writer receiver)
    (nothing : receiver.accepted = []) {options : List TftpOption}
    (agree : OptionsAgree size options) (event : Event) :
    Answers size path receiver
      (session.acceptOack writer event options) := by
  have agreesNow : Agrees (session.withOptions options) receiver :=
    ⟨agrees.accepted, agrees.acks⟩
  have receivingNow :
      Receiving size path (session.withOptions options) writer
        receiver :=
    { receiving with }
  have abandons := fun exception =>
    (ReceiverView.abandonRead agreesNow receivingNow event.host
      exception).answers
  unfold Session.acceptOack
  dsimp only
  split
  · exact abandons _
  · split
    · exact abandons _
    · rename_i next result
      have set : SetUp size (session.withOptions options) next :=
        foldlM_setupOption_of_agree agree receivingNow.sameSize result
      refine
        Answers.afterRrqReply next
          ⟨by rw [set.storage]; exact agrees.accepted,
            by rw [set.sent]; exact agrees.acks⟩
          ⟨set.sameSize, receiving.samePath,
            by rw [set.storage]; exact receiving.stores,
            receiving.isOpen⟩
          (by rw [set.args]; exact agree) (by simp [nothing])
          (by simp) event

/-- One reception in the loop which sends the RRQ. -/
theorem ReceivingMoves.stepAwaitRrqReply
    (fitsBuffer : size + 4 ≤ UdpClient.maxPacketSize)
    (agrees : Agrees session receiver)
    (receiving : Receiving size path session writer receiver)
    (nothing : receiver.accepted = [])
    {event : Event} (diskAccepts : event.host.writeFails = none)
    {incoming : List Datagram}
    (carries : Carries incoming event.reception)
    (oacks : OackAgrees size incoming) (retries : Nat) :
    ReceivingMoves size path incoming receiver
      (session.stepAwaitRrqReply writer retries event) := by
  unfold Session.stepAwaitRrqReply
  cases reception : event.reception with
  | timeout =>
      exact
        (Answers.awaitRrqReplyAgain session.increaseTimeout
          ⟨agrees.accepted, agrees.acks⟩ { receiving with } nothing
          (retries + 1) event).moves incoming
  | sigint =>
      exact
        (ReceiverView.interruptRead agrees receiving
          event.host).answers.moves incoming
  | failure =>
      exact
        (ReceiverView.abandonRead agrees receiving event.host
          _).answers.moves incoming
  | datagram sender bytes =>
      rw [reception] at carries
      obtain ⟨reciever, onWire⟩ := carries
      simp only [receive]
      have agreesNow : Agrees (session.adoptPort sender) receiver :=
        ⟨agrees.accepted, agrees.acks⟩
      have receivingNow :
          Receiving size path (session.adoptPort sender) writer
            receiver :=
        { receiving with }
      have abandons : ∀ (other : Session),
          Agrees other receiver →
            Receiving size path other writer receiver →
              ∀ exception,
                ReceivingMoves size path incoming receiver
                  (other.abandonRead event.host writer exception) :=
        fun other agreesOther receivingOther exception =>
          (ReceiverView.abandonRead agreesOther receivingOther event.host
            exception).answers.moves incoming
      cases classified :
          (session.adoptPort sender).classifyRrqReply
            (bytes.take UdpClient.maxPacketSize) with
      | error exception =>
          exact abandons _ agreesNow receivingNow _
      | ok reply =>
          rcases classifyRrqReply_cases classified with
            ⟨data, rfl, _, first⟩ | ⟨oack, rfl, parsed, _⟩
          · have sameSize :
                (session.adoptPort sender).blksize.toNat = size :=
              receiving.sameSize
            rw [sameSize, dataIn_take fitsBuffer] at first
            obtain ⟨moved, move, view⟩ :=
              Follows.acceptFirstBlock agreesNow receivingNow
                nothing diskAccepts data
            refine ⟨_, moved, ?_, move, view⟩
            intro message same
            cases same
            exact mem_dataOn onWire first
          · have agree : OptionsAgree size oack.options :=
              oacks _ onWire _ parsed
            exact
              (Answers.acceptOack agreesNow receivingNow nothing
                agree event).moves incoming

/-! ## The client as a receiver -/

/--
A step of the client which hears the given datagrams, on a disk which accepts
every write.
-/
def TftpClient.StepOnDisk (incoming : List Datagram)
    (client next : TftpClient) : Prop :=
  ∃ event, Carries incoming event.reception ∧
    event.host.writeFails = none ∧ next = client.step event

/-- The client which reads implements the receiver. -/
theorem implementsReceiver
    (fitsBuffer : size + 4 ≤ UdpClient.maxPacketSize) (path : Path) :
    ImplementsReceiver TftpClient.sent TftpClient.StepOnDisk
      (dataOn size) acksOn (OackAgrees size)
      (ReceiverView size path) where
  acks view := view.session.acks
  move := by
    rintro incoming ⟨session, control⟩ next receiver ⟨agrees, knows⟩
      oacks ⟨event, carries, diskAccepts, rfl⟩
    cases control with
    | awaitRrqReply writer retries =>
        obtain ⟨receiving, nothing⟩ := knows
        exact
          ReceivingMoves.stepAwaitRrqReply fitsBuffer agrees receiving
            nothing diskAccepts carries oacks retries
    | awaitData writer blockNumber retries foreign =>
        obtain ⟨receiving, number⟩ := knows
        exact
          ReceivingMoves.stepAwaitData fitsBuffer agrees receiving number
            diskAccepts carries retries foreign
    | ended outcome =>
        have stays :
            ReceiverView size path ⟨session, .ended outcome⟩ receiver :=
          ⟨agrees, knows⟩
        exact stays.answers.moves incoming
    | awaitWrqReply => exact knows.elim
    | awaitAck => exact knows.elim

/-- `Read` begins like a receiver which has accepted nothing. -/
theorem ReceiverView.start
    (sameSize : session.blksize.toNat = size)
    (octet : session.args.fileMode = .OCTET)
    (fresh : session.storage.writtenBlocks = [])
    (silent : acksOn session.udp.sent = []) (event : Event) :
    Answers size session.args.destFilepath ⟨[], []⟩
      (session.read event) := by
  unfold Session.read
  rw [octet]
  refine
    Answers.awaitRrqReplyAgain session ⟨fresh.symm, silent.symm⟩ ?_ rfl 0
      event
  exact
    { sameSize := sameSize
      samePath := rfl
      stores := Writer.Stores.make _ _
      isOpen := by simp }

end IsaTftp.Client
