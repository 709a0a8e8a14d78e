import IsaTftp.Library.Retries
import IsaTftp.Numbers
import IsaTftp.Receivers

/-!
# Packets which a wait does not count

A wait loop counts a timeout and an old packet as a retry.  A packet with an
opcode which it does not look for is dropped, and the loop waits again with the
same count.
-/

namespace IsaTftp.Transfer

open IsaTftp.Wire
open IsaTftp.Files
open IsaTftp.Library.Retries

/-- A timeout or a datagram of the peer; nobody interrupts the program. -/
structure FromPeer (peer : Address) (event : Event) : Prop where
  reception : event.reception = .timeout ∨
    ∃ bytes, event.reception = .datagram peer bytes
  calm : event.sigintFrom = none

theorem FromPeer.unsignalled
    {peer : Address} {event : Event} (fromPeer : FromPeer peer event) :
    event.reception ≠ .sigint := by
  intro signal
  rcases fromPeer.reception with silent | ⟨bytes, heard⟩
  · cases signal.symm.trans silent
  · cases signal.symm.trans heard

/-- A datagram comes, and what is read of it has this property. -/
def Brings (event : Event) (property : Bytes → Prop) : Prop :=
  ∃ sender bytes, event.reception = .datagram sender bytes ∧
    property (bytes.take UdpClient.maxPacketSize)

theorem not_brings_of_timeout
    {event : Event} (silent : event.reception = .timeout)
    (property : Bytes → Prop) : ¬ Brings event property := by
  rintro ⟨sender, bytes, heard, _⟩
  cases silent.symm.trans heard

theorem brings_iff
    {event : Event} {sender : Address} {bytes : Bytes}
    (heard : event.reception = .datagram sender bytes)
    {property : Bytes → Prop} :
    Brings event property ↔
      property (bytes.take UdpClient.maxPacketSize) := by
  constructor
  · rintro ⟨other, same, hears, holds⟩
    cases heard.symm.trans hears
    exact holds
  · intro holds
    exact ⟨sender, bytes, heard, holds⟩

/-- A known opcode, but neither the expected one nor ERROR. -/
def IsIgnored (expected : Opcode) (packet : Bytes) : Prop :=
  ∃ opcode, getOpcodeFromRaw packet = .ok opcode ∧
    opcode ≠ expected ∧ opcode ≠ .ERROR

/-- An ACK of an earlier block. -/
def IsOldAck (blockNumber : Nat) (packet : Bytes) : Prop :=
  ∃ number < blockNumber, ackIn packet = some number

/-- A DATA packet before the expected one. -/
def IsOldData (expected blksize : Nat) (packet : Bytes) : Prop :=
  ∃ number < expected, ∃ data,
    dataIn blksize packet = some (number, data)

/-- A wait for an ACK drops exactly the packets it does not look for. -/
theorem classifyAck_eq_ignored_iff
    {responder : Bytes} {blockNumber : Nat} {packet : Bytes} :
    classifyAck responder blockNumber packet = .ok .ignored ↔
      IsIgnored .ACK packet := by
  unfold classifyAck IsIgnored
  cases known : getOpcodeFromRaw packet with
  | error exception => simp [bind, Except.bind]
  | ok opcode =>
      simp only [bind, Except.bind, throw, throwThe,
        MonadExceptOf.throw, pure, Except.pure, Except.ok.injEq,
        exists_eq_left']
      cases opcode with
      | ACK =>
          cases AckPacket.ofRaw packet with
          | error exception => simp
          | ok ack =>
              dsimp only
              split_ifs <;> simp
      | ERROR => cases ErrorPacket.ofRaw packet <;> simp
      | _ => simp

/-- The ACK of an earlier block is counted. -/
theorem classifyAck_eq_old_iff
    {responder : Bytes} {blockNumber : Nat} {packet : Bytes} :
    classifyAck responder blockNumber packet = .ok .old ↔
      IsOldAck blockNumber packet := by
  unfold classifyAck IsOldAck
  cases known : getOpcodeFromRaw packet with
  | error exception =>
      simp [ackIn, AckPacket.ofRaw, known, bind, Except.bind]
  | ok opcode =>
      have other : opcode ≠ .ACK → ackIn packet = none :=
        ackIn_of_opcode known
      simp only [bind, Except.bind, throw, throwThe,
        MonadExceptOf.throw, pure, Except.pure]
      cases opcode with
      | ACK =>
          cases parsed : AckPacket.ofRaw packet with
          | error exception => simp [ackIn, parsed]
          | ok ack =>
              simp only [ackIn, parsed, Option.some.injEq]
              split_ifs <;> simp <;> omega
      | ERROR =>
          rw [other (by decide)]
          cases ErrorPacket.ofRaw packet <;> simp
      | _ =>
          rw [other (by decide)]
          simp

/-- What a wait for an ACK makes of a packet. -/
theorem classifyAck_cases
    (responder : Bytes) (blockNumber : Nat) (packet : Bytes) :
    (classifyAck responder blockNumber packet = .ok .ignored ∧
        IsIgnored .ACK packet) ∨
      (classifyAck responder blockNumber packet = .ok .old ∧
          ¬ IsIgnored .ACK packet ∧ IsOldAck blockNumber packet) ∨
        ((classifyAck responder blockNumber packet = .ok .received ∨
            ∃ exception,
              classifyAck responder blockNumber packet =
                .error exception) ∧
          ¬ IsIgnored .ACK packet ∧ ¬ IsOldAck blockNumber packet) := by
  rw [← classifyAck_eq_ignored_iff, ← classifyAck_eq_old_iff]
  cases classifyAck responder blockNumber packet with
  | error exception => simp
  | ok reply => cases reply <;> simp

/-- A wait for a DATA packet drops exactly the packets it does not look for. -/
theorem classifyData_eq_ignored_iff
    {responder : Bytes} {expected announced blksize : Nat}
    {packet : Bytes} :
    classifyData responder expected announced blksize packet =
        .ok .ignored ↔
      IsIgnored .DATA packet := by
  unfold classifyData IsIgnored
  cases known : getOpcodeFromRaw packet with
  | error exception => simp [bind, Except.bind]
  | ok opcode =>
      simp only [bind, Except.bind, throw, throwThe,
        MonadExceptOf.throw, pure, Except.pure, Except.ok.injEq,
        exists_eq_left']
      cases opcode with
      | DATA =>
          cases DataPacket.ofRaw packet blksize with
          | error exception => simp
          | ok block =>
              dsimp only
              split_ifs <;> simp
      | ERROR => cases ErrorPacket.ofRaw packet <;> simp
      | _ => simp

/-- A DATA packet before the expected one is counted. -/
theorem classifyData_eq_old_iff
    {responder : Bytes} {expected announced blksize : Nat}
    {packet : Bytes} :
    classifyData responder expected announced blksize packet =
        .ok .old ↔
      IsOldData expected blksize packet := by
  constructor
  · intro old
    rcases classifyData_cases responder expected announced blksize packet
      with ⟨_, ignored | ⟨_, refused⟩⟩ |
        ⟨number, data, carried, ⟨_, taken⟩ | ⟨lower, _⟩ |
          ⟨_, _, refused⟩⟩
    · cases ignored.symm.trans old
    · cases refused.symm.trans old
    · cases taken.symm.trans old
    · exact ⟨number, lower, data, carried⟩
    · cases refused.symm.trans old
  · rintro ⟨number, lower, data, carried⟩
    exact classifyData_of_lower carried lower responder announced

/-- What a wait for a DATA packet makes of a packet. -/
theorem classifyData_ignores
    (responder : Bytes) (expected announced blksize : Nat)
    (packet : Bytes) :
    (classifyData responder expected announced blksize packet =
          .ok .ignored ∧
        IsIgnored .DATA packet) ∨
      (classifyData responder expected announced blksize packet =
            .ok .old ∧
          ¬ IsIgnored .DATA packet ∧
            IsOldData expected blksize packet) ∨
        (((∃ data,
              classifyData responder expected announced blksize packet =
                .ok (.accepted data)) ∨
            ∃ exception,
              classifyData responder expected announced blksize packet =
                .error exception) ∧
          ¬ IsIgnored .DATA packet ∧
            ¬ IsOldData expected blksize packet) := by
  rw [← @classifyData_eq_ignored_iff responder expected announced blksize,
    ← @classifyData_eq_old_iff responder expected announced blksize]
  cases classifyData responder expected announced blksize packet with
  | error exception => simp
  | ok reply => cases reply <;> simp

end IsaTftp.Transfer
