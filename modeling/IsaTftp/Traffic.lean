import IsaTftp.Conversation

/-!
# Conversations with losses

The client and the handler take turns as before, but datagrams can be lost.
What a party has sent in its turn is heard in the next turn of the other one,
or never; where nothing arrives, the receive times out.
-/

namespace IsaTftp

open IsaTftp.Wire
open IsaTftp.Files
open IsaTftp.Transfer
open IsaTftp.Client
open IsaTftp.Server
open IsaTftp.Library.Chunking
open IsaTftp.Upload

/-- The newest datagram of those which were sent since. -/
def news (before after : List Datagram) : Option Bytes :=
  newest (after.drop before.length)

@[simp]
theorem news_self (sent : List Datagram) : news sent sent = none := by
  simp [news, newest]

@[simp]
theorem news_append (sent : List Datagram) (datagram : Datagram) :
    news sent (sent ++ [datagram]) = some datagram.2 := by
  simp [news, newest]

/-- Nothing but an ERROR packet is sent when an exception is reported. -/
theorem news_reportException
    {udp : UdpClient} {peer : Address} {exception : Exception}
    {bytes : Bytes}
    (sent :
      news udp.sent (reportException udp peer exception).sent =
        some bytes) :
    getOpcodeFromRaw bytes = .ok .ERROR := by
  rcases sent_reportException udp peer exception with
    same | ⟨packet, more⟩
  · rw [same, news_self] at sent
    cases sent
  · rw [more, news_append] at sent
    cases sent
    exact packet.getOpcode_makeRaw

/-! ## What is on the way -/

/-- What a transfer of this size needs. -/
structure Fits (size : Nat) (content : Bytes) : Prop where
  positive : 0 < size
  buffer : size + 4 ≤ UdpClient.maxPacketSize
  few : chunkCount size content ≤ 65535

/-- Nothing is on the way but an ERROR packet at most. -/
def OnlyError (carried : Option Bytes) : Prop :=
  ∀ bytes, carried = some bytes → getOpcodeFromRaw bytes = .ok .ERROR

theorem onlyError_none : OnlyError none := by
  intro bytes sent
  cases sent

/-- An ACK of an earlier block is an old one. -/
theorem classifyAck_old
    (responder : Bytes) {packet : AckPacket} {blockNumber : Nat}
    (earlier : packet.blockNumber.toNat < blockNumber) :
    classifyAck responder blockNumber packet.makeRaw = .ok .old := by
  simp only [classifyAck, AckPacket.getOpcode_makeRaw,
    AckPacket.ofRaw_makeRaw, bind, Except.bind, Nat.ne_of_lt earlier,
    if_false, Nat.le_of_lt earlier, if_true]
  rfl

theorem ackOf_lt (count : Nat) :
    (ackOf count).blockNumber.toNat < count + 1 := by
  have number : (ackOf count).blockNumber.toNat = count % 65536 :=
    UInt16.toNat_ofNat
  rw [number]
  exact Nat.lt_succ_of_le (Nat.mod_le _ _)

/-- The datagram arrives, unless there is none or it is lost. -/
def arrival (sender : Address) (lost : Bool) : Option Bytes → Event
  | some bytes => if lost then {} else deliver sender bytes
  | none => {}

@[simp]
theorem arrival_none (sender : Address) (lost : Bool) :
    arrival sender lost none = {} :=
  rfl

@[simp]
theorem arrival_lost (sender : Address) (carried : Option Bytes) :
    arrival sender true carried = {} := by
  cases carried with
  | none => rfl
  | some bytes => rfl

@[simp]
theorem arrival_kept (sender : Address) (bytes : Bytes) :
    arrival sender false (some bytes) = deliver sender bytes :=
  rfl

/-- Either nothing arrives, or what is on the way. -/
theorem arrival_cases (sender : Address) (lost : Bool)
    (carried : Option Bytes) :
    arrival sender lost carried = {} ∨
      ∃ bytes, carried = some bytes ∧
        arrival sender lost carried = deliver sender bytes := by
  cases lost with
  | true => exact Or.inl (arrival_lost sender carried)
  | false =>
      cases carried with
      | none => exact Or.inl rfl
      | some bytes => exact Or.inr ⟨bytes, rfl, rfl⟩

/-- Which datagrams of a turn are lost. -/
structure Loss where
  toClient : Bool
  toHandler : Bool

/-- A conversation, and what is on the way to the client. -/
structure Traffic where
  client : TftpClient
  handler : Handler
  toClient : Option Bytes

namespace Traffic

def conversation (traffic : Traffic) : Conversation :=
  ⟨traffic.client, traffic.handler⟩

/-- The client, after its part of a turn. -/
def clientAfter (address : Address) (loss : Loss) (traffic : Traffic) :
    TftpClient :=
  traffic.client.step (arrival address loss.toClient traffic.toClient)

/-- What is on the way to the handler then. -/
def toHandler (address : Address) (loss : Loss) (traffic : Traffic) :
    Option Bytes :=
  news traffic.client.sent (traffic.clientAfter address loss).sent

/-- The handler, after its part of a turn. -/
def handlerAfter (address : Address) (loss : Loss) (traffic : Traffic) :
    Handler :=
  traffic.handler.step
    (arrival traffic.handler.session.clientAddress loss.toHandler
      (traffic.toHandler address loss))

theorem handlerAfter_of_lost
    {address : Address} {loss : Loss} {traffic : Traffic}
    (lost : loss.toHandler = true) :
    traffic.handlerAfter address loss = traffic.handler.step {} := by
  rw [handlerAfter, lost, arrival_lost]

theorem handlerAfter_of_kept
    {address : Address} {loss : Loss} {traffic : Traffic} {bytes : Bytes}
    (kept : loss.toHandler = false)
    (sent : traffic.toHandler address loss = some bytes) :
    traffic.handlerAfter address loss =
      traffic.handler.step
        (deliver traffic.handler.session.clientAddress bytes) := by
  rw [handlerAfter, sent, kept, arrival_kept]

/-- The client takes a turn, then the handler, which has this address. -/
def turn (address : Address) (loss : Loss) (traffic : Traffic) :
    Traffic where
  client := traffic.clientAfter address loss
  handler := traffic.handlerAfter address loss
  toClient :=
    news traffic.handler.sent (traffic.handlerAfter address loss).sent

/-- The request has arrived, and started the handler. -/
def start (session : Client.Session) (clientAddress : Address)
    (rootDirpath : Path) (files : FileSystem) : Traffic :=
  let opening :=
    Conversation.start session clientAddress rootDirpath files
  ⟨opening.client, opening.handler, newest opening.handler.sent⟩

/-- After so many turns; `losses` says what is lost in each of them. -/
def after (address : Address) (losses : Nat → Loss) (traffic : Traffic) :
    Nat → Traffic
  | 0 => traffic
  | count + 1 => (after address losses traffic count).turn address
      (losses count)

/-- A client which has ended does nothing more. -/
theorem ended_of_le
    {address : Address} {losses : Nat → Loss} {traffic : Traffic}
    {outcome : Outcome} {first second : Nat} (later : first ≤ second)
    (ended :
      (traffic.after address losses first).client.control =
        .ended outcome) :
    (traffic.after address losses second).client.control =
      .ended outcome := by
  induction second, later using Nat.le_induction with
  | base => exact ended
  | succ second _ induction =>
      rw [after, turn, clientAfter]
      dsimp only
      rw [TftpClient.step, induction]
      exact induction

/-- Neither does a handler which has ended. -/
theorem handler_ended_of_le
    {address : Address} {losses : Nat → Loss} {traffic : Traffic}
    {outcome : Outcome} {first second : Nat} (later : first ≤ second)
    (ended :
      (traffic.after address losses first).handler.control =
        .ended outcome) :
    (traffic.after address losses second).handler.control =
      .ended outcome := by
  induction second, later using Nat.le_induction with
  | base => exact ended
  | succ second _ induction =>
      rw [after, turn, handlerAfter]
      dsimp only
      rw [Handler.step, induction]
      exact induction

end Traffic

/-! ## Losses in a row -/

/-- Of as many datagrams in a row as there are retries, one arrives. -/
def SomeArrive (lost : Nat → Bool) : Prop :=
  ∀ turn, ∃ wait < maxRetries, lost (turn + wait) = false

/-- So many datagrams in a row were lost, up to this turn. -/
def InRow (lost : Nat → Bool) (turn count : Nat) : Prop :=
  ∃ first, turn = first + count ∧
    ∀ index < count, lost (first + index) = true

variable {lost : Nat → Bool} {now count : Nat}

/-- They are fewer than the retries. -/
theorem InRow.lt_maxRetries (inRow : InRow lost now count)
    (arrive : SomeArrive lost) : count < maxRetries := by
  obtain ⟨first, _, missed⟩ := inRow
  obtain ⟨wait, few, kept⟩ := arrive first
  by_contra many
  have fewer : wait < count := by
    omega
  rw [missed wait fewer] at kept
  cases kept

theorem InRow.succ (inRow : InRow lost now count)
    (missed : lost now = true) : InRow lost (now + 1) (count + 1) := by
  obtain ⟨first, rfl, earlier⟩ := inRow
  refine ⟨first, rfl, ?_⟩
  intro index fewer
  rcases Nat.lt_succ_iff_lt_or_eq.mp fewer with before | rfl
  · exact earlier index before
  · exact missed

/-- None was lost just before this turn. -/
theorem InRow.zero (lost : Nat → Bool) (now : Nat) : InRow lost now 0 :=
  ⟨now, rfl, by simp⟩

end IsaTftp
