import Mathlib.Data.List.Nodup
import IsaTftp.Network
import IsaTftp.Wire.Replies

/-!
# The numbers of DATA packets

A sender numbers its blocks from one.  The number on the wire has sixteen
bits, so that block 65536 has the number zero, and the next ones have the
numbers of the first blocks again.
-/

namespace IsaTftp.Transfer

open IsaTftp.Wire

/-- The block numbers of the DATA packets among some datagrams. -/
def dataNumbers (sent : List Datagram) : List Nat :=
  (dataOn 0 sent).map Prod.fst

@[simp]
theorem dataNumbers_nil : dataNumbers [] = [] :=
  rfl

theorem dataNumbers_append_of_opcode
    {raw : Bytes} {opcode : Opcode}
    (known : getOpcodeFromRaw raw = .ok opcode)
    (other : opcode ≠ .DATA) (sent : List Datagram)
    (reciever : Address) :
    dataNumbers (sent ++ [(reciever, raw)]) = dataNumbers sent := by
  rw [dataNumbers, dataOn_append_of_opcode known other]
  rfl

@[simp]
theorem dataNumbers_append_data (sent : List Datagram)
    (packet : DataPacket) (reciever : Address) :
    dataNumbers (sent ++ [(reciever, packet.makeRaw)]) =
      dataNumbers sent ++ [packet.blockNumber.toNat] := by
  have read : dataIn 0 packet.makeRaw =
      some (packet.blockNumber.toNat, []) := by
    change dataIn 0 (0 :: _ :: _ :: _ :: packet.data) = _
    rw [dataIn_cons, parseBlockNumber_bytes]
    rfl
  simp [dataNumbers, dataOn, read]

/-- The number of every DATA packet which was sent is among the numbers. -/
theorem mem_dataNumbers
    {sent : List Datagram} {reciever : Address} {packet : DataPacket}
    (member : (reciever, packet.makeRaw) ∈ sent) :
    packet.blockNumber.toNat ∈ dataNumbers sent := by
  obtain ⟨earlier, later, rfl⟩ := List.append_of_mem member
  have whole :
      dataNumbers (earlier ++ (reciever, packet.makeRaw) :: later) =
        dataNumbers (earlier ++ [(reciever, packet.makeRaw)]) ++
          dataNumbers later := by
    rw [List.append_cons]
    simp only [dataNumbers, dataOn, List.filterMap_append,
      List.map_append]
  rw [whole, dataNumbers_append_data]
  simp

@[simp]
theorem dataNumbers_append_error (sent : List Datagram)
    (packet : ErrorPacket) (reciever : Address) :
    dataNumbers (sent ++ [(reciever, packet.makeRaw)]) =
      dataNumbers sent :=
  dataNumbers_append_of_opcode packet.getOpcode_makeRaw (by decide) _ _

@[simp]
theorem dataNumbers_reportException (udp : UdpClient) (peer : Address)
    (exception : Exception) :
    dataNumbers (reportException udp peer exception).sent =
      dataNumbers udp.sent := by
  rw [dataNumbers, dataOn_reportException]
  rfl

/-- The numbers on the wire of so many blocks, sent one after the other. -/
def numbersUpTo (count : Nat) : List Nat :=
  (List.range count).map fun index => (index + 1) % blockNumbers

@[simp]
theorem numbersUpTo_zero : numbersUpTo 0 = [] :=
  rfl

theorem numbersUpTo_succ (count : Nat) :
    numbersUpTo (count + 1) =
      numbersUpTo count ++ [(count + 1) % blockNumbers] := by
  simp [numbersUpTo, List.range_succ]

/-- No number was used twice, and none was cut to sixteen bits. -/
structure NeverReused (sent : List Datagram) : Prop where
  distinct : (dataNumbers sent).Nodup
  unwrapped : 0 ∉ dataNumbers sent

/-- Numbers are not reused as long as there are enough of them. -/
theorem neverReused_iff
    {sent : List Datagram} {count : Nat}
    (numbers : dataNumbers sent = numbersUpTo count) :
    NeverReused sent ↔ count < blockNumbers := by
  constructor
  · rintro ⟨_, unwrapped⟩
    by_contra many
    apply unwrapped
    rw [numbers]
    refine List.mem_map.mpr ⟨65535, List.mem_range.mpr ?_, rfl⟩
    rw [blockNumbers] at many
    omega
  · intro few
    rw [blockNumbers] at few
    constructor
    · rw [numbers]
      apply List.Nodup.map_on _ List.nodup_range
      intro first earlier second later same
      have least := List.mem_range.mp earlier
      have most := List.mem_range.mp later
      rw [blockNumbers] at same
      omega
    · rw [numbers]
      intro wrapped
      obtain ⟨index, member, zero⟩ := List.mem_map.mp wrapped
      have bound := List.mem_range.mp member
      rw [blockNumbers] at zero
      omega

/-- Up to the first number which is cut, every number is a new one. -/
theorem nodup_numbersUpTo {count : Nat} (few : count ≤ blockNumbers) :
    (numbersUpTo count).Nodup := by
  rw [blockNumbers] at few
  apply List.Nodup.map_on _ List.nodup_range
  intro first earlier second later same
  have least := List.mem_range.mp earlier
  have most := List.mem_range.mp later
  rw [blockNumbers] at same
  omega

/-- Which datagrams carry a number depends on the DATA packets only. -/
theorem dataNumbers_dataSent (sent : List Datagram) :
    dataNumbers (dataSent sent) = dataNumbers sent := by
  have same : dataOn 0 (dataSent sent) = dataOn 0 sent := by
    induction sent with
    | nil => rfl
    | cons datagram sent induction =>
        unfold dataSent dataOn at induction ⊢
        rw [List.filter_cons]
        split_ifs with isData
        · rw [List.filterMap_cons, List.filterMap_cons, induction]
        · have silent : dataIn 0 datagram.2 = none := by
            cases known : getOpcodeFromRaw datagram.2 with
            | error exception =>
                simp [dataIn, DataPacket.ofRaw, known, bind, Except.bind]
            | ok opcode =>
                apply dataIn_of_opcode known
                rintro rfl
                exact isData (decide_eq_true known)
          rw [induction]
          simp only [List.filterMap_cons, silent]
  rw [dataNumbers, same]
  rfl

theorem dataNumbers_congr
    {sent later : List Datagram} (same : dataSent later = dataSent sent) :
    dataNumbers later = dataNumbers sent := by
  rw [← dataNumbers_dataSent, same, dataNumbers_dataSent]

/-- The packet acknowledges the block with this number. -/
theorem classifyAck_received_iff
    {responder packet : Bytes} {blockNumber : Nat} :
    classifyAck responder blockNumber packet = .ok .received ↔
      ackIn packet = some blockNumber := by
  constructor
  · exact ackIn_of_received
  · intro heard
    unfold ackIn at heard
    cases parsed : AckPacket.ofRaw packet with
    | error exception =>
        rw [parsed] at heard
        cases heard
    | ok ack =>
        rw [parsed] at heard
        obtain ⟨_, _, _, rfl, _⟩ := AckPacket.ofRaw_eq_ok parsed
        have same : ack.blockNumber.toNat = blockNumber :=
          Option.some.inj heard
        simp only [classifyAck, getOpcodeFromRaw_toByte, parsed, bind,
          Except.bind, if_pos same]
        rfl

end IsaTftp.Transfer
