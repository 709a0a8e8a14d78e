import IsaTftp.Network
import IsaTftp.Server.Rounds

/-!
# What one step of a handler can do

Each wait loop is taken apart once.  A step waits on, ends the function, or
calls one of the few functions which touch a file; which of these it does
depends on what its event means to the loop.  Every invariant of a handler's
files is derived from these case analyses.
-/

namespace IsaTftp.Server

open IsaTftp.Wire
open IsaTftp.Files
open IsaTftp.Transfer

/-! ## Talking without data -/

/-- Between these sessions a handler has sent nothing but replies. -/
structure Session.Talks (session next : Session) : Prop where
  clientAddress : next.clientAddress = session.clientAddress
  rootDirpath : next.rootDirpath = session.rootDirpath
  blksize : next.blksize = session.blksize
  storage : next.storage = session.storage
  data : dataSent next.udp.sent = dataSent session.udp.sent

namespace Session.Talks

variable {session next : Session}

theorem refl (session : Session) : session.Talks session :=
  ⟨rfl, rfl, rfl, rfl, rfl⟩

theorem increaseTimeout (talks : session.Talks next) :
    session.Talks next.increaseTimeout :=
  ⟨talks.clientAddress, talks.rootDirpath, talks.blksize, talks.storage,
    talks.data⟩

theorem timeoutReset (talks : session.Talks next) :
    session.Talks next.timeoutReset :=
  ⟨talks.clientAddress, talks.rootDirpath, talks.blksize, talks.storage,
    talks.data⟩

/-- A packet which is no DATA packet goes to some address. -/
theorem reply
    (talks : session.Talks next) {raw : Bytes} {opcode : Opcode}
    (known : getOpcodeFromRaw raw = .ok opcode)
    (other : opcode ≠ .DATA) (reciever : Address) :
    session.Talks { next with udp := next.udp.send raw reciever } where
  clientAddress := talks.clientAddress
  rootDirpath := talks.rootDirpath
  blksize := talks.blksize
  storage := talks.storage
  data := by
    rw [← talks.data]
    exact dataSent_append_of_opcode known other _ _

end Session.Talks

/-- What the receiving helper says to a handler, in one reception. -/
theorem Session.recievePacketFromClient_talks (session : Session)
    (foreign : Nat) (reception : Reception) :
    session.Talks
      (session.recievePacketFromClient foreign reception).1 := by
  rcases session.recievePacketFromClient_cases foreign reception with
    ⟨other, result⟩ | ⟨exception, result⟩ | ⟨other, bytes, _, result⟩
  · rw [result]
    exact
      (Talks.refl session).reply unknownSender.getOpcode_makeRaw
        (by decide) other
  · rw [result]
    exact .refl session
  · rw [result]
    exact .refl session

/-! ## Sending loops -/

/-- The number of the block which a sending loop sends next. -/
def Control.following : Control → Nat
  | .awaitAck sending _ _ => sending.blockNumber + 1
  | _ => 1

/-- What a step of a sending loop can do. -/
inductive SendingStep (session : Session) (host : HostChoice)
    (current : Control) (reader : Reader) (interrupted : Bool) :
    Handler → Prop where
  | waits {next : Session} (talks : session.Talks next)
      (control : Control) (same : control.reader = some reader)
      (calm : interrupted = false) :
      SendingStep session host current reader interrupted
        ⟨next, control⟩
  | raises {next : Session} (talks : session.Talks next)
      (exception : Exception) (calm : interrupted = false) :
      SendingStep session host current reader interrupted
        (next.raise exception)
  | returns {next : Session} (talks : session.Talks next)
      (calm : interrupted = false) :
      SendingStep session host current reader interrupted
        ⟨next, .ended .returned⟩
  | interrupts {next : Session} (talks : session.Talks next)
      (noticed : interrupted = true) :
      SendingStep session host current reader interrupted
        (next.checkForSigintRRQ host reader)
  | sends {next : Session} (talks : session.Talks next)
      (calm : interrupted = false) :
      SendingStep session host current reader interrupted
        (next.sendBlock host reader current.following)

theorem SendingStep.awaitAckAgain
    {session next : Session} (talks : session.Talks next)
    (host : HostChoice) (current : Control) (sending : Sending)
    (retries : Nat) :
    SendingStep session host current sending.reader false
      (next.awaitAckAgain sending retries) := by
  unfold Session.awaitAckAgain
  split_ifs
  · exact .waits talks _ rfl rfl
  · exact .returns talks.timeoutReset rfl
  · exact .raises talks timeoutError rfl

/-- One reception while the ACK of a block is awaited. -/
theorem Session.stepAwaitAck_cases (session : Session)
    (sending : Sending) (current foreign : Nat) (event : Event) :
    SendingStep session event.host (.awaitAck sending current foreign)
      sending.reader (decide (event.reception = .sigint))
      (session.stepAwaitAck sending current foreign event) := by
  have talks :=
    session.recievePacketFromClient_talks foreign event.reception
  have sigint :=
    session.recievePacketFromClient_sigint foreign event.reception
  unfold stepAwaitAck
  cases result :
      session.recievePacketFromClient foreign event.reception with
  | mk next delivery =>
      rw [result] at talks sigint
      dsimp only at talks sigint
      have again := fun retries =>
        SendingStep.awaitAckAgain talks event.host
          (.awaitAck sending current foreign) sending retries
      have slower := fun retries =>
        SendingStep.awaitAckAgain talks.increaseTimeout event.host
          (.awaitAck sending current foreign) sending retries
      cases delivery with
      | pending foreign =>
          rw [decide_eq_false (fun noticed => nomatch sigint.mpr noticed)]
          exact .waits talks _ rfl rfl
      | threw exception =>
          cases exception with
          | udpSigint =>
              rw [decide_eq_true (sigint.mp rfl)]
              exact .interrupts talks rfl
          | udpTimeout =>
              rw [decide_eq_false
                (fun noticed => nomatch sigint.mpr noticed)]
              exact slower _
          | _ =>
              rw [decide_eq_false
                (fun noticed => nomatch sigint.mpr noticed)]
              exact .raises talks _ rfl
      | delivered packet =>
          rw [decide_eq_false (fun noticed => nomatch sigint.mpr noticed)]
          dsimp only
          split
          · unfold afterAck
            split_ifs
            · exact .returns talks.timeoutReset rfl
            · exact .sends talks.timeoutReset rfl
          · exact slower _
          · exact again _
          · exact .raises talks _ rfl

/-- One reception while the ACK of the OACK is awaited. -/
theorem Session.stepAwaitOackAck_cases (session : Session)
    (reader : Reader) (current foreign : Nat) (event : Event) :
    SendingStep session event.host
      (.awaitOackAck reader current foreign) reader
      (decide (event.reception = .sigint))
      (session.stepAwaitOackAck reader current foreign event) := by
  have talks :=
    session.recievePacketFromClient_talks foreign event.reception
  have sigint :=
    session.recievePacketFromClient_sigint foreign event.reception
  have waits : ∀ {next : Session}, session.Talks next → ∀ retries,
      SendingStep session event.host
        (.awaitOackAck reader current foreign) reader false
        (next.awaitOackAckAgain reader retries) := by
    intro next talks retries
    unfold awaitOackAckAgain
    split_ifs
    · exact .waits talks _ rfl rfl
    · exact .raises talks timeoutError rfl
  unfold stepAwaitOackAck
  cases result :
      session.recievePacketFromClient foreign event.reception with
  | mk next delivery =>
      rw [result] at talks sigint
      dsimp only at talks sigint
      cases delivery with
      | pending foreign =>
          rw [decide_eq_false (fun noticed => nomatch sigint.mpr noticed)]
          exact .waits talks _ rfl rfl
      | threw exception =>
          cases exception with
          | udpSigint =>
              rw [decide_eq_true (sigint.mp rfl)]
              exact .interrupts talks rfl
          | udpTimeout =>
              rw [decide_eq_false
                (fun noticed => nomatch sigint.mpr noticed)]
              exact waits talks.increaseTimeout _
          | _ =>
              rw [decide_eq_false
                (fun noticed => nomatch sigint.mpr noticed)]
              exact .raises talks _ rfl
      | delivered packet =>
          rw [decide_eq_false (fun noticed => nomatch sigint.mpr noticed)]
          dsimp only
          split
          · exact .sends talks.timeoutReset rfl
          · exact waits talks _
          · exact .raises talks _ rfl

/-- One step of a handler which follows on a RRQ. -/
theorem Handler.step_sending
    {handler : Handler} {reader : Reader}
    (sends : handler.control.reader = some reader) (event : Event) :
    SendingStep handler.session event.host handler.control reader
      (decide (event.reception = .sigint)) (handler.step event) := by
  obtain ⟨session, control⟩ := handler
  cases control with
  | awaitOackAck waiting retries foreign =>
      cases sends
      exact session.stepAwaitOackAck_cases reader retries foreign event
  | awaitAck sending retries foreign =>
      cases sends
      exact session.stepAwaitAck_cases sending retries foreign event
  | awaitFirstData => cases sends
  | awaitData => cases sends
  | ended => cases sends

/-! ## Receiving loops -/

/-- Whether the loop for the first block is running. -/
def Control.opening : Control → Bool
  | .awaitFirstData .. => true
  | _ => false

/-- What an event means to a loop which waits for a block. -/
inductive Meaning where
  | waits
  | block (data : Bytes)
  | interrupts
  /-- an exception leaves the loop -/
  | breaks
deriving DecidableEq

/-- Another round of a loop, if the retries are not used up. -/
def Meaning.again (retries : Nat) : Meaning :=
  if retries < maxRetries then .waits else .breaks

/-- The meaning of an event, by what a loop makes of a packet. -/
def Session.meaning (session : Session) (retries foreign : Nat)
    (classify : Bytes → Except Exception DataReply)
    (reception : Reception) : Meaning :=
  match (session.recievePacketFromClient foreign reception).2 with
  | .pending _ => .waits
  | .threw .udpTimeout => .again (retries + 1)
  | .threw .udpSigint => .interrupts
  | .threw _ => .breaks
  | .delivered packet =>
      match classify packet with
      | .ok (.accepted data) => .block data
      | .ok .old => .again (retries + 1)
      | .ok .ignored => .again retries
      | .error _ => .breaks

/-- The meaning of an event to a handler which follows on a WRQ. -/
def Handler.meaning (handler : Handler) (event : Event) : Meaning :=
  match handler.control with
  | .awaitFirstData _ _ _ retries foreign =>
      handler.session.meaning retries foreign
        (classifyData (text "Client") 1 2 handler.session.blksize)
        event.reception
  | .awaitData _ blockNumber retries foreign =>
      handler.session.meaning retries foreign
        (classifyData (text "Server") (blockNumber + 1)
          (blockNumber + 1) handler.session.blksize)
        event.reception
  | _ => .waits

/-- What a step of a receiving loop can do. -/
inductive ReceivingStep (session : Session) (host : HostChoice)
    (writer : Writer) (opening : Bool) : Meaning → Handler → Prop where
  | waits {next : Session} (talks : session.Talks next)
      (control : Control) (same : control.writer = some writer)
      (phase : control.opening = opening) :
      ReceivingStep session host writer opening .waits ⟨next, control⟩
  /-- the OACK cannot be written -/
  | refuses {next : Session} (talks : session.Talks next)
      (exception : Exception) (first : opening = true) :
      ReceivingStep session host writer opening .waits
        (next.abandonWrite host writer exception)
  | raises {next : Session} (talks : session.Talks next)
      (exception : Exception) :
      ReceivingStep session host writer opening .breaks
        (next.abandonWrite host writer exception)
  | interrupts {next : Session} (talks : session.Talks next) :
      ReceivingStep session host writer opening .interrupts
        (next.checkForSigintWRQ host writer)
  | stores {next : Session} (talks : session.Talks next)
      (blockNumber : Nat) (data : Bytes) :
      ReceivingStep session host writer opening (.block data)
        (next.storeBlock host writer blockNumber data)

theorem ReceivingStep.awaitFirstDataAgain
    {session next : Session} (talks : session.Talks next)
    (host : HostChoice) (options negotiated : List TftpOption)
    (writer : Writer) (retries : Nat) :
    ReceivingStep session host writer true (.again retries)
      (next.awaitFirstDataAgain host options negotiated writer
        retries) := by
  unfold Session.awaitFirstDataAgain Meaning.again
  split_ifs
  · cases opening : Session.openingReply options negotiated with
    | error exception => exact .refuses talks exception rfl
    | ok raw =>
        refine .waits ?_ _ rfl rfl
        unfold Session.openingReply at opening
        split_ifs at opening
        · exact
            talks.reply (OackPacket.getOpcode_makeRaw opening)
              (by decide) _
        · cases opening
          exact
            talks.reply (AckPacket.getOpcode_makeRaw _) (by decide) _
  · exact .raises talks timeoutError

theorem ReceivingStep.awaitDataAgain
    {session next : Session} (talks : session.Talks next)
    (host : HostChoice) (writer : Writer) (blockNumber retries : Nat) :
    ReceivingStep session host writer false (.again retries)
      (next.awaitDataAgain host writer blockNumber retries) := by
  unfold Session.awaitDataAgain Meaning.again
  split_ifs
  · refine .waits ?_ _ rfl rfl
    exact talks.reply (AckPacket.getOpcode_makeRaw _) (by decide) _
  · exact .raises talks timeoutError

/-- One reception in the loop for the first block. -/
theorem Session.stepAwaitFirstData_cases (session : Session)
    (options negotiated : List TftpOption) (writer : Writer)
    (retries foreign : Nat) (event : Event) :
    ReceivingStep session event.host writer true
      (session.meaning retries foreign
        (classifyData (text "Client") 1 2 session.blksize)
        event.reception)
      (session.stepAwaitFirstData options negotiated writer retries
        foreign event) := by
  have talks :=
    session.recievePacketFromClient_talks foreign event.reception
  unfold meaning stepAwaitFirstData
  cases result :
      session.recievePacketFromClient foreign event.reception with
  | mk next delivery =>
      rw [result] at talks
      dsimp only at talks ⊢
      cases delivery with
      | pending foreign => exact .waits talks _ rfl rfl
      | threw exception =>
          cases exception with
          | udpTimeout =>
              exact
                .awaitFirstDataAgain talks.increaseTimeout event.host _ _
                  writer _
          | udpSigint => exact .interrupts talks
          | _ => exact .raises talks _
      | delivered packet =>
          dsimp only
          rw [talks.blksize]
          cases classifyData (text "Client") 1 2 session.blksize
              packet with
          | error exception => exact .raises talks exception
          | ok reply =>
              cases reply with
              | accepted data => exact .stores talks 1 data
              | old =>
                  exact
                    .awaitFirstDataAgain talks.increaseTimeout event.host
                      _ _ writer _
              | ignored =>
                  exact
                    .awaitFirstDataAgain talks event.host _ _ writer _

/-- One reception in the loop for the later blocks. -/
theorem Session.stepAwaitData_cases (session : Session)
    (writer : Writer) (blockNumber retries foreign : Nat)
    (event : Event) :
    ReceivingStep session event.host writer false
      (session.meaning retries foreign
        (classifyData (text "Server") (blockNumber + 1)
          (blockNumber + 1) session.blksize)
        event.reception)
      (session.stepAwaitData writer blockNumber retries foreign
        event) := by
  have talks :=
    session.recievePacketFromClient_talks foreign event.reception
  unfold meaning stepAwaitData
  cases result :
      session.recievePacketFromClient foreign event.reception with
  | mk next delivery =>
      rw [result] at talks
      dsimp only at talks ⊢
      cases delivery with
      | pending foreign => exact .waits talks _ rfl rfl
      | threw exception =>
          cases exception with
          | udpTimeout =>
              exact
                .awaitDataAgain talks.increaseTimeout event.host writer
                  blockNumber _
          | udpSigint => exact .interrupts talks
          | _ => exact .raises talks _
      | delivered packet =>
          dsimp only
          rw [talks.blksize]
          cases classifyData (text "Server") (blockNumber + 1)
              (blockNumber + 1) session.blksize packet with
          | error exception => exact .raises talks exception
          | ok reply =>
              cases reply with
              | accepted data =>
                  exact .stores talks (blockNumber + 1) data
              | old =>
                  exact
                    .awaitDataAgain talks.increaseTimeout event.host
                      writer blockNumber _
              | ignored =>
                  exact
                    .awaitDataAgain talks event.host writer blockNumber _

/-- One step of a handler which follows on a WRQ. -/
theorem Handler.step_receiving
    {handler : Handler} {writer : Writer}
    (receives : handler.control.writer = some writer) (event : Event) :
    ReceivingStep handler.session event.host writer
      handler.control.opening (handler.meaning event)
      (handler.step event) := by
  obtain ⟨session, control⟩ := handler
  cases control with
  | awaitFirstData options negotiated waiting retries foreign =>
      cases receives
      exact
        session.stepAwaitFirstData_cases options negotiated writer retries
          foreign event
  | awaitData waiting blockNumber retries foreign =>
      cases receives
      exact
        session.stepAwaitData_cases writer blockNumber retries foreign
          event
  | awaitOackAck => cases receives
  | awaitAck => cases receives
  | ended => cases receives

end IsaTftp.Server
