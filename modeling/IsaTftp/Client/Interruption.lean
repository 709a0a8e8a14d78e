import IsaTftp.Client.Permission

/-!
# SIGINT while the client reads

`Read` looks at the flag between two receives, and `Receive` looks at it
before it blocks; both lead to `CheckForSigintRRQ`.  A signal which arrives
while the process is blocked makes `recvfrom` fail instead, which is an
exception like any other; and behind a signal which comes too late for the
checks of a step there may be no receive any more.
-/

namespace IsaTftp.Client

open IsaTftp.Wire
open IsaTftp.Files
open IsaTftp.Transfer
open IsaTftp.Library.Runs

/-- The writer of a client which waits for a file. -/
def Control.writer : Control → Option Writer
  | .awaitRrqReply writer _ => some writer
  | .awaitData writer _ _ _ => some writer
  | _ => none

/-! ## What a reception brings -/

/-- The payload of a DATA packet which is accepted. -/
def TftpClient.takes (client : TftpClient) (event : Event) :
    Option Bytes :=
  match client.control with
  | .awaitRrqReply _ _ =>
      match receive event.reception with
      | .error _ => none
      | .ok (sender, packet) =>
          match (client.session.adoptPort sender).classifyRrqReply packet with
          | .ok (.firstBlock data) => some data
          | _ => none
  | .awaitData _ blockNumber _ foreign =>
      match (client.session.recievePacketFromServer foreign
          event.reception).2 with
      | .delivered packet =>
          match classifyData (text "Server") (blockNumber.toNat + 1)
              (blockNumber.toNat + 1) client.session.blksize.toNat
              packet with
          | .ok (.accepted data) => some data
          | _ => none
      | _ => none
  | _ => none

/--
The number of the last check of the flag behind a reception which brings no
block; nothing if an exception comes before it.
-/
def TftpClient.lastCheck (client : TftpClient) (event : Event) :
    Option Nat :=
  match client.control with
  | .awaitRrqReply _ _ =>
      match event.reception with
      | .timeout => some 1
      | _ => if (client.agreement event).isSome then some 4 else none
  | .awaitData _ blockNumber _ foreign =>
      match (client.session.recievePacketFromServer foreign
          event.reception).2 with
      | .threw .udpTimeout => some 4
      | .delivered packet =>
          match classifyData (text "Server") (blockNumber.toNat + 1)
              (blockNumber.toNat + 1) client.session.blksize.toNat
              packet with
          | .ok _ => some 4
          | .error _ => none
      | _ => none
  | _ => none

/-- SIGINT is seen before the receive, or at a check behind it. -/
def TftpClient.seesSigint (client : TftpClient) (event : Event) : Bool :=
  client.control.writer.isSome &&
    (event.reception == .sigint ||
      match client.lastCheck event with
      | some check => event.sigintAt check
      | none => false)

/-- The block which a reception brings can be written. -/
def TftpClient.stores (client : TftpClient) (event : Event) : Bool :=
  match client.control.writer, client.takes event with
  | some writer, some data =>
      (writer.writeFile client.session.storage event.host data).1 = .done
  | _, _ => true

/-- The request which `Read` sends. -/
def TftpClientArgs.rrq (args : TftpClientArgs) : ReadWritePacket :=
  ⟨.RRQ, args.filepath, .OCTET, args.options⟩

/-- The loops of `Read` go on behind a reception, and receive again. -/
def TftpClient.receivesAgain (client : TftpClient) (event : Event) :
    Bool :=
  match client.control with
  | .awaitRrqReply _ retries =>
      match event.reception with
      | .timeout =>
          decide (retries + 1 < maxRetries) &&
            client.session.args.rrq.makeRaw.isOk
      | _ =>
          (client.agreement event).isSome &&
            match client.takes event with
            | some data =>
                !decide (data.length < client.session.blksize.toNat)
            | none => true
  | .awaitData _ blockNumber retries foreign =>
      match (client.session.recievePacketFromServer foreign
          event.reception).2 with
      | .pending _ => true
      | .threw .udpTimeout => retries + 1 < maxRetries
      | .threw _ => false
      | .delivered packet =>
          match classifyData (text "Server") (blockNumber.toNat + 1)
              (blockNumber.toNat + 1) client.session.blksize.toNat
              packet with
          | .ok (.accepted data) =>
              !decide (data.length < client.session.blksize.toNat)
          | .ok .old => retries + 1 < maxRetries
          | .ok .ignored => retries < maxRetries
          | .error _ => false
  | _ => false

/-! ## The end of the process -/

/-- An ERROR packet was sent last, the file is gone and the process ended. -/
structure CleanedUp (path : Path) (client : TftpClient) : Prop where
  reported : ∃ earlier,
    client.sent =
      earlier ++
        [(client.session.serverAddress, Session.interrupted.makeRaw)]
  removed : client.session.storage.files.lookup path = none
  ended : client.control = .ended .terminated

/-- `CheckForSigintRRQ` cleans up exactly if the file can be removed. -/
theorem cleanedUp_interruptRead_iff
    {session : Session} {host : HostChoice} {writer : Writer} :
    CleanedUp writer.filepath (session.interruptRead host writer) ↔
      host.removeFails = false := by
  unfold Session.interruptRead Storage.deleteFile
  cases fails : host.removeFails with
  | true =>
      simp only [if_true, Bool.true_eq_false, iff_false]
      intro cleaned
      cases cleaned.ended
  | false =>
      simp only [Bool.false_eq_true, if_false, iff_true]
      exact ⟨⟨session.udp.sent, rfl⟩, by simp, rfl⟩

/-- If the process ends in these events, then only after it has cleaned up. -/
def CleansUp (path : Path) (client : TftpClient) (events : List Event) :
    Prop :=
  ∀ outcome, (run TftpClient.step client events).control = .ended outcome →
    CleanedUp path (run TftpClient.step client events)

/-- The flag stays set: every later receive sees it before it blocks. -/
def FlagStays (events : List Event) : Prop :=
  ∀ event ∈ events, event.reception = .sigint

/-! ## What a step does about the flag -/

/-- How a piece of `Read` ends, if a check sees the flag, or if none does. -/
inductive Looks (path : Path) (host : HostChoice) :
    Bool → Bool → TftpClient → Prop where
  | notices {again : Bool} (session : Session) {writer : Writer}
      (samePath : writer.filepath = path) :
      Looks path host true again (session.interruptRead host writer)
  | waits {client : TftpClient} {writer : Writer}
      (receives : client.control.writer = some writer)
      (samePath : writer.filepath = path) :
      Looks path host false true client
  | ends {client : TftpClient} {outcome : Outcome}
      (isOver : client.control = .ended outcome)
      (otherwise : outcome ≠ .terminated) :
      Looks path host false false client

namespace Looks

variable {path : Path} {host : HostChoice} {session : Session}
variable {writer : Writer} {event : Event} {again : Bool}

theorem abandonRead (session : Session) (writer : Writer)
    (exception : Exception) :
    Looks path host false false
      (session.abandonRead host writer exception) :=
  .ends rfl (by simp)

/-- One check; `later` says whether a check behind it sees the flag. -/
theorem checkForSigintRRQ
    (samePath : writer.filepath = path) {received later seen : Bool}
    (first : received = true → seen = true)
    (then_ : received = false → seen = later)
    {proceed : Session → TftpClient}
    (proceeds : Looks path host later again (proceed session)) :
    Looks path host seen again
      (session.checkForSigintRRQ host writer received proceed) := by
  unfold Session.checkForSigintRRQ
  cases received with
  | true =>
      rw [first rfl]
      exact .notices session samePath
  | false =>
      rw [then_ rfl]
      exact proceeds

/-- The last check of a step. -/
theorem lastCheck
    (samePath : writer.filepath = path) {received : Bool}
    {proceed : Session → TftpClient}
    (proceeds : Looks path host false again (proceed session)) :
    Looks path host received again
      (session.checkForSigintRRQ host writer received proceed) :=
  checkForSigintRRQ samePath id id proceeds

theorem finishRead
    (samePath : writer.filepath = path) (blockNumber : UInt16) :
    Looks path event.host (event.sigintAt 4) false
      (session.finishRead writer blockNumber event) :=
  lastCheck samePath (.ends rfl (by simp))

theorem awaitDataAgain
    (samePath : writer.filepath = path) (blockNumber : UInt16)
    (retries : Nat) :
    Looks path event.host (event.sigintAt 4) (retries < maxRetries)
      (session.awaitDataAgain writer blockNumber retries event) := by
  unfold Session.awaitDataAgain
  split_ifs with more
  · rw [decide_eq_true more]
    exact lastCheck samePath (.waits rfl samePath)
  · rw [decide_eq_false more]
    exact lastCheck samePath (abandonRead _ _ _)

theorem afterData
    (samePath : writer.filepath = path) (blockNumber : UInt16)
    (last : Bool) :
    Looks path event.host (event.sigintAt 4) (!last)
      (session.afterData writer blockNumber last event) := by
  unfold Session.afterData
  cases last with
  | true => exact finishRead samePath blockNumber
  | false => exact awaitDataAgain samePath blockNumber 0

/-- Behind the first answer the flag is looked at three times. -/
theorem afterRrqReply
    (samePath : writer.filepath = path) (settled : session.Settled)
    (blockNumber : UInt16) (last : Bool) :
    Looks path event.host (event.sigintAt 4) (!last)
      (session.afterRrqReply writer blockNumber last event) := by
  have scanned :
      Session.scanBlksize session.timeoutReset.blksize
          session.timeoutReset.args.options =
        .ok session.timeoutReset.blksize :=
    settled
  have grows : ∀ check ≤ 4,
      event.sigintAt check = true → event.sigintAt 4 = true := by
    intro check before
    contrapose!
    simpa using sigintAt_of_le before
  unfold Session.afterRrqReply
  apply checkForSigintRRQ samePath (grows 2 (by omega)) fun _ => rfl
  simp only [scanned]
  apply checkForSigintRRQ samePath (grows 3 (by omega)) fun _ => rfl
  exact afterData samePath blockNumber last

theorem awaitRrqReplyAgain
    (samePath : writer.filepath = path) (retries : Nat) :
    Looks path event.host (event.sigintAt 1)
      (decide (retries < maxRetries) && session.args.rrq.makeRaw.isOk)
      (session.awaitRrqReplyAgain writer retries event) := by
  unfold Session.awaitRrqReplyAgain
  apply lastCheck samePath
  split_ifs with more
  · rw [decide_eq_true more]
    have same :
        ReadWritePacket.makeRaw
            ⟨.RRQ, session.args.filepath, .OCTET, session.args.options⟩ =
          session.args.rrq.makeRaw :=
      rfl
    dsimp only
    rw [same]
    cases session.args.rrq.makeRaw with
    | error exception => exact abandonRead session writer exception
    | ok raw => exact .waits rfl samePath
  · rw [decide_eq_false more]
    exact abandonRead session writer timeoutError

/-- Whatever follows a block follows it only if it could be written. -/
theorem storeBlock
    (samePath : writer.filepath = path) (data : Bytes) {seen : Bool}
    {proceed : Session → Writer → TftpClient}
    (proceeds : ∀ storage next, Writer.filepath next = path →
      Looks path event.host seen again
        (proceed (session.withStorage storage) next)) :
    let stored : Bool :=
      (writer.writeFile session.storage event.host data).1 = .done
    Looks path event.host (seen && stored) (again && stored)
      (session.storeBlock writer event data proceed) := by
  have next := writer.filepath_writeFile session.storage event.host data
  unfold Session.storeBlock
  cases written : writer.writeFile session.storage event.host data with
  | mk status rest =>
      obtain ⟨stored, storage⟩ := rest
      rw [written] at next
      cases status with
      | undefined => simpa using ends rfl (by simp)
      | threw exception => simpa using abandonRead _ _ _
      | done => simpa using proceeds storage stored (next.trans samePath)

/-- A first block is stored with the block size which was there before. -/
theorem acceptFirstBlock
    (samePath : writer.filepath = path) (data : Bytes) :
    let stored : Bool :=
      (writer.writeFile session.storage event.host data).1 = .done
    Looks path event.host (event.sigintAt 4 && stored)
      ((!decide (data.length < session.blksize.toNat)) && stored)
      (session.acceptFirstBlock writer event data) := by
  obtain ⟨next, setUp, setsUp⟩ :=
    setupUdpClient_setsUp (session.withOptions [])
  have blksize : next.blksize = session.blksize := by
    rw [← UInt16.toNat_inj, setsUp.blksize]
    rfl
  have storage : next.storage = session.storage :=
    setsUp.storage
  unfold Session.acceptFirstBlock
  simp only [setUp]
  rw [← storage, ← blksize]
  apply storeBlock samePath
  intro storage following samePath
  have settled : (next.withStorage storage).Settled :=
    setsUp.settled rfl
  exact afterRrqReply samePath settled 1 _

/-! ### Steps -/

/-- One reception in the loop for the DATA packets. -/
theorem stepAwaitData
    (samePath : writer.filepath = path) (blockNumber : UInt16)
    (retries foreign : Nat) :
    let client : TftpClient :=
      ⟨session, .awaitData writer blockNumber retries foreign⟩
    Looks path event.host (client.seesSigint event && client.stores event)
      (client.receivesAgain event && client.stores event)
      (client.step event) := by
  intro client
  change Looks path event.host _ _
    (session.stepAwaitData writer blockNumber retries foreign event)
  simp only [client, TftpClient.seesSigint, TftpClient.lastCheck,
    TftpClient.stores, TftpClient.takes, TftpClient.receivesAgain,
    Control.writer, Option.isSome_some, Bool.true_and]
  unfold Session.stepAwaitData
  cases heard : event.reception with
  | timeout =>
      have timedOut :
          session.recievePacketFromServer foreign .timeout =
            (session, .threw .udpTimeout) :=
        rfl
      have timeoutOnly : (Reception.timeout == .sigint) = false := rfl
      simp only [timedOut, timeoutOnly, Bool.false_or, Bool.and_true]
      exact awaitDataAgain samePath _ _
  | sigint => exact .notices session samePath
  | failure => exact abandonRead session writer _
  | datagram sender bytes =>
      have bytesOnly : (Reception.datagram sender bytes == .sigint) = false :=
        rfl
      simp only [Session.recievePacketFromServer, bytesOnly, Bool.false_or]
      by_cases known : sender = session.serverAddress
      · subst known
        rw [recievePacketFrom_peer]
        split_ifs
        · dsimp only
          cases classifyData (text "Server") (blockNumber.toNat + 1)
              (blockNumber.toNat + 1) session.blksize.toNat
              (bytes.take UdpClient.maxPacketSize) with
          | error exception => exact abandonRead session writer exception
          | ok reply =>
              cases reply with
              | accepted data =>
                  apply storeBlock samePath
                  intro storage next samePath
                  exact afterData samePath _ _
              | old =>
                  simp only [Bool.and_true]
                  exact awaitDataAgain samePath _ _
              | ignored =>
                  simp only [Bool.and_true]
                  exact awaitDataAgain samePath _ _
        · simp only [Bool.and_true]
          exact awaitDataAgain samePath _ _
      · rw [recievePacketFrom_foreign known]
        split_ifs
        · exact .waits rfl samePath
        · simp only [Bool.and_true]
          exact awaitDataAgain samePath _ _

/-- One reception in the loop which sends the RRQ. -/
theorem stepAwaitRrqReply
    (samePath : writer.filepath = path) (retries : Nat) :
    let client : TftpClient := ⟨session, .awaitRrqReply writer retries⟩
    Looks path event.host (client.seesSigint event && client.stores event)
      (client.receivesAgain event && client.stores event)
      (client.step event) := by
  intro client
  change Looks path event.host _ _
    (session.stepAwaitRrqReply writer retries event)
  simp only [client, TftpClient.seesSigint, TftpClient.lastCheck,
    TftpClient.stores, TftpClient.takes, TftpClient.receivesAgain,
    Control.writer, Option.isSome_some, Bool.true_and]
  unfold Session.stepAwaitRrqReply
  cases heard : event.reception with
  | timeout =>
      have timeoutOnly : (Reception.timeout == .sigint) = false := rfl
      simp only [receive, timeoutOnly, Bool.false_or, Bool.and_true]
      have slower :
          Looks path event.host (event.sigintAt 1) _
            (session.increaseTimeout.awaitRrqReplyAgain writer (retries + 1)
              event) :=
        awaitRrqReplyAgain samePath _
      exact slower
  | sigint => exact .notices session samePath
  | failure =>
      have silent :
          TftpClient.agreement ⟨session, .awaitRrqReply writer retries⟩
              event = none := by
        simp [TftpClient.agreement, heard, receive]
      simp only [silent]
      exact abandonRead session writer _
  | datagram sender bytes =>
      have bytesOnly : (Reception.datagram sender bytes == .sigint) = false :=
        rfl
      simp only [bytesOnly, Bool.false_or, TftpClient.agreement, heard,
        receive, Session.agreeRrq]
      cases (session.adoptPort sender).classifyRrqReply
          (bytes.take UdpClient.maxPacketSize) with
      | error exception =>
          exact abandonRead (session.adoptPort sender) writer exception
      | ok reply =>
          cases reply with
          | firstBlock data =>
              obtain ⟨next, setUp, _⟩ :=
                setupUdpClient_setsUp
                  ((session.adoptPort sender).withOptions [])
              simp only [setUp]
              have stores :
                  Looks path event.host _ _
                    ((session.adoptPort sender).acceptFirstBlock writer
                      event data) :=
                acceptFirstBlock samePath data
              exact stores
          | oack options =>
              obtain ⟨next, setUp, setsUp⟩ :=
                setupUdpClient_setsUp
                  ((session.adoptPort sender).withOptions options)
              have settled : next.Settled := setsUp.settled rfl
              simp only [Session.acceptOack, setUp]
              cases ((session.adoptPort sender).withOptions
                  options).checkSpace options with
              | error exception => exact abandonRead _ _ _
              | ok enough =>
                  simp only [Bool.and_true]
                  exact afterRrqReply samePath settled 0 false

/-- `Read` looks at the flag before it sends its request. -/
theorem read (session : Session) (first : Event) :
    Looks session.args.destFilepath first.host (first.sigintAt 1)
      session.args.rrq.makeRaw.isOk (session.read first) := by
  have more : decide (0 < maxRetries) = true := by decide
  have samePath :
      (Writer.make session.args.destFilepath
        (formatOfMode session.args.fileMode)).filepath =
        session.args.destFilepath :=
    rfl
  rw [← Bool.true_and session.args.rrq.makeRaw.isOk, ← more]
  exact awaitRrqReplyAgain samePath 0

/-- One step of a client which waits for a file. -/
theorem step
    {client : TftpClient}
    (receives : client.control.writer = some writer) (event : Event) :
    Looks writer.filepath event.host
      (client.seesSigint event && client.stores event)
      (client.receivesAgain event && client.stores event)
      (client.step event) := by
  obtain ⟨session, control⟩ := client
  cases control with
  | awaitRrqReply waiting retries =>
      cases receives
      exact stepAwaitRrqReply rfl retries
  | awaitData waiting blockNumber retries foreign =>
      cases receives
      exact stepAwaitData rfl blockNumber retries foreign
  | _ => cases receives

end Looks

/-- `Receive` sees the flag before it blocks. -/
theorem step_of_sigint
    {client : TftpClient} {writer : Writer} {event : Event}
    (receives : client.control.writer = some writer)
    (before : event.reception = .sigint) :
    client.step event =
      client.session.interruptRead event.host writer := by
  obtain ⟨session, control⟩ := client
  cases control with
  | awaitRrqReply waiting retries =>
      cases receives
      simp only [TftpClient.step, Session.stepAwaitRrqReply, before, receive]
  | awaitData waiting blockNumber retries foreign =>
      cases receives
      simp only [TftpClient.step, Session.stepAwaitData, before,
        Session.recievePacketFromServer, recievePacketFrom, receive]
  | _ => cases receives

/-! ## Whole runs -/

section

variable {path : Path} {client : TftpClient} {later : List Event}

/-- A process which has ended does nothing any more. -/
theorem run_of_ended_control
    {outcome : Outcome} (isOver : client.control = .ended outcome)
    (events : List Event) :
    run TftpClient.step client events = client := by
  obtain ⟨session, control⟩ := client
  cases isOver
  exact run_of_halted (fun event => TftpClient.step_ended _ _ event) events

theorem cleansUp_of_ended_iff
    {outcome : Outcome} (isOver : client.control = .ended outcome) :
    CleansUp path client later ↔ CleanedUp path client := by
  unfold CleansUp
  rw [run_of_ended_control isOver]
  exact ⟨fun cleans => cleans outcome isOver, fun cleaned _ _ => cleaned⟩

/-- The next receive of a client sees the flag before it blocks. -/
theorem cleansUp_of_waiting_iff
    {writer : Writer} (receives : client.control.writer = some writer)
    (stays : FlagStays later) :
    CleansUp writer.filepath client later ↔
      ∀ next ∈ later.head?, next.host.removeFails = false := by
  cases later with
  | nil =>
      simp only [List.head?_nil, Option.mem_def, reduceCtorEq,
        false_implies, implies_true, iff_true]
      intro outcome isOver
      rw [run_nil] at isOver
      rw [isOver] at receives
      cases receives
  | cons next rest =>
      have sigint := stays next List.mem_cons_self
      obtain ⟨outcome, isOver⟩ :=
        ended_interruptRead client.session next.host writer
      have steps :
          CleansUp writer.filepath client (next :: rest) ↔
            CleansUp writer.filepath (client.step next) rest :=
        Iff.rfl
      rw [steps, step_of_sigint receives sigint,
        cleansUp_of_ended_iff isOver, cleanedUp_interruptRead_iff]
      simp

/-- What follows if a piece of `Read` looks at the flag, or does not. -/
theorem Looks.cleansUp_iff
    {host : HostChoice} {seen again : Bool}
    (looks : Looks path host seen again client)
    (stays : FlagStays later) :
    CleansUp path client later ↔
      if seen then host.removeFails = false
      else again = true ∧
        ∀ next ∈ later.head?, next.host.removeFails = false := by
  cases looks with
  | notices session samePath =>
      rename_i writer
      obtain ⟨outcome, isOver⟩ := ended_interruptRead session host writer
      subst samePath
      rw [cleansUp_of_ended_iff isOver, cleanedUp_interruptRead_iff]
      simp
  | waits receives samePath =>
      subst samePath
      rw [cleansUp_of_waiting_iff receives stays]
      simp
  | ends isOver otherwise =>
      rw [cleansUp_of_ended_iff isOver]
      simp only [Bool.false_eq_true, if_false, false_and, iff_false]
      intro cleaned
      exact otherwise (Control.ended.inj (isOver.symm.trans cleaned.ended))

/--
A client is struck in one step, in or behind its receive.  If a check of this
step sees the flag, the file can be removed; if none does, the transfer goes
on, and the file can be removed when the next receive sees it.
-/
def Cleanable (client : TftpClient) (strike : Event)
    (later : List Event) : Prop :=
  if client.seesSigint strike && client.stores strike then
    strike.host.removeFails = false
  else
    (client.receivesAgain strike && client.stores strike) = true ∧
      ∀ next ∈ later.head?, next.host.removeFails = false

theorem cleansUp_iff
    {writer : Writer} (receives : client.control.writer = some writer)
    (strike : Event) (stays : FlagStays later) :
    CleansUp writer.filepath client (strike :: later) ↔
      Cleanable client strike later :=
  (Looks.step receives strike).cleansUp_iff stays

/-- The same for a signal which comes before the request is sent. -/
def CleanableAtStart (session : Session) (first : Event)
    (later : List Event) : Prop :=
  if first.sigintAt 1 then first.host.removeFails = false
  else
    session.args.rrq.makeRaw.isOk = true ∧
      ∀ next ∈ later.head?, next.host.removeFails = false

theorem read_cleansUp_iff
    (session : Session) (first : Event) (stays : FlagStays later) :
    CleansUp session.args.destFilepath (session.read first) later ↔
      CleanableAtStart session first later :=
  (Looks.read session first).cleansUp_iff stays

/-- A client which reads waits for its file, or has ended. -/
def ReadsTo (path : Path) (client : TftpClient) : Prop :=
  (∃ writer, client.control.writer = some writer ∧
    writer.filepath = path) ∨
    ∃ outcome, client.control = .ended outcome

theorem Looks.readsTo
    {host : HostChoice} {seen again : Bool}
    (looks : Looks path host seen again client) : ReadsTo path client := by
  cases looks with
  | notices session samePath =>
      exact Or.inr (ended_interruptRead session host _)
  | waits receives samePath => exact Or.inl ⟨_, receives, samePath⟩
  | ends isOver otherwise => exact Or.inr ⟨_, isOver⟩

theorem ReadsTo.run (session : Session) (first : Event)
    (events : List Event) :
    ReadsTo session.args.destFilepath
      (run TftpClient.step (session.read first) events) := by
  have starts :
      ReadsTo session.args.destFilepath (session.read first) :=
    (Looks.read session first).readsTo
  apply run_invariant (ReadsTo session.args.destFilepath) _ starts
  rintro client event (⟨writer, receives, samePath⟩ | ⟨outcome, isOver⟩)
  · rw [← samePath]
    exact (Looks.step receives event).readsTo
  · right
    rw [← run_of_ended_control isOver [event]] at isOver
    exact ⟨outcome, isOver⟩

end

end IsaTftp.Client
