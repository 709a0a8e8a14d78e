import IsaTftp.Library.Chunking
import IsaTftp.Library.StopAndWait
import IsaTftp.Transfer

/-!
# Block numbers on the wire

The stop-and-wait library knows a wire on which numbered blocks and bare
numbers travel.  Here they are read off the datagrams which a party has sent,
and the functions which both parties share get their specifications in these
terms: which datagrams they add, and what an accepted packet says.
-/

namespace IsaTftp.Transfer

open IsaTftp.Wire
open IsaTftp.Files
open IsaTftp.Library.Chunking
open IsaTftp.Library.StopAndWait

abbrev Datagram := Address × Bytes

/-! ## Reading datagrams -/

/-- Block number and payload, as a party with this block size reads them. -/
def dataIn (blksize : Nat) (raw : Bytes) : Option (Nat × Bytes) :=
  match DataPacket.ofRaw raw blksize with
  | .ok packet => some (packet.blockNumber.toNat, packet.data)
  | .error _ => none

/-- The number of an ACK. -/
def ackIn (raw : Bytes) : Option Nat :=
  match AckPacket.ofRaw raw with
  | .ok packet => some packet.blockNumber.toNat
  | .error _ => none

/-- The numbered blocks among the datagrams of a party. -/
def dataOn (blksize : Nat) (sent : List Datagram) : List (Nat × Bytes) :=
  sent.filterMap fun datagram => dataIn blksize datagram.2

/-- The acknowledged numbers among the datagrams of a party. -/
def acksOn (sent : List Datagram) : List Nat :=
  sent.filterMap fun datagram => ackIn datagram.2

/-- A packet with another opcode carries no block. -/
theorem dataIn_of_opcode
    {raw : Bytes} {opcode : Opcode}
    (known : getOpcodeFromRaw raw = .ok opcode)
    (other : opcode ≠ .DATA) (blksize : Nat) :
    dataIn blksize raw = none := by
  have rejected :
      DataPacket.ofRaw raw blksize =
        .error
          (illegalOperation (text "Invalid opcode for DataPacket")) := by
    simp [DataPacket.ofRaw, known, bind, Except.bind, other, throw,
      throwThe, MonadExceptOf.throw]
  simp [dataIn, rejected]

/-- A packet with another opcode acknowledges nothing. -/
theorem ackIn_of_opcode
    {raw : Bytes} {opcode : Opcode}
    (known : getOpcodeFromRaw raw = .ok opcode)
    (other : opcode ≠ .ACK) :
    ackIn raw = none := by
  have rejected :
      AckPacket.ofRaw raw =
        .error (illegalOperation (text "Invalid opcode for AckPacket")) := by
    simp [AckPacket.ofRaw, known, bind, Except.bind, other, throw,
      throwThe, MonadExceptOf.throw]
  simp [ackIn, rejected]

theorem dataIn_cons
    (high low : UInt8) (payload : Bytes) (blksize : Nat) :
    dataIn blksize (0 :: Opcode.DATA.toByte :: high :: low :: payload) =
      some ((parseBlockNumber high low).toNat, payload.take blksize) := by
  simp only [dataIn, DataPacket.ofRaw_cons]

/-- A block which fits is read as it was sent. -/
theorem dataIn_makeRaw
    (packet : DataPacket) {blksize : Nat}
    (fits : packet.data.length ≤ blksize) :
    dataIn blksize packet.makeRaw =
      some (packet.blockNumber.toNat, packet.data) := by
  simp only [dataIn, DataPacket.ofRaw_makeRaw packet fits]

/-- A DATA packet with the expected number is accepted. -/
theorem classifyData_makeRaw
    (responder : Bytes) (announced : Nat) (packet : DataPacket)
    {size : Nat} (fits : packet.data.length ≤ size) :
    classifyData responder packet.blockNumber.toNat announced size
        packet.makeRaw = .ok (.accepted packet.data) := by
  simp [classifyData, DataPacket.ofRaw_makeRaw packet fits, bind,
    Except.bind, pure, Except.pure]

@[simp]
theorem ackIn_makeRaw (packet : AckPacket) :
    ackIn packet.makeRaw = some packet.blockNumber.toNat := by
  simp [ackIn]

/-- The receive buffer is large enough for every block. -/
theorem dataIn_take
    {blksize : Nat} (fits : blksize + 4 ≤ UdpClient.maxPacketSize)
    (raw : Bytes) :
    dataIn blksize (raw.take UdpClient.maxPacketSize) =
      dataIn blksize raw := by
  match raw with
  | [] => rfl
  | [_] => rfl
  | [_, _] => rfl
  | [_, _, _] => rfl
  | first :: second :: high :: low :: payload =>
      have cut :
          (first :: second :: high :: low :: payload).take
              UdpClient.maxPacketSize =
            first :: second :: high :: low :: payload.take 65496 :=
        rfl
      rw [cut]
      cases parsed : parseOpcode first second with
      | error exception => simp [dataIn, DataPacket.ofRaw,
          getOpcodeFromRaw, parsed, bind, Except.bind]
      | ok opcode =>
          obtain ⟨rfl, rfl⟩ := parseOpcode_eq_ok parsed
          by_cases isData : opcode = .DATA
          · subst isData
            have bound : blksize ≤ 65496 := by
              simp only [UdpClient.maxPacketSize] at fits
              omega
            rw [dataIn_cons, dataIn_cons, List.take_take,
              Nat.min_eq_left bound]
          · rw [dataIn_of_opcode (getOpcodeFromRaw_toByte _ _) isData,
              dataIn_of_opcode (getOpcodeFromRaw_toByte _ _) isData]

theorem ackIn_take (raw : Bytes) :
    ackIn (raw.take UdpClient.maxPacketSize) = ackIn raw := by
  match raw with
  | [] => rfl
  | [_] => rfl
  | [_, _] => rfl
  | [_, _, _] => rfl
  | _ :: _ :: _ :: _ :: _ => rfl

/-! ## The blocks of a transfer -/

/-- The counters of both parties have sixteen bits on the wire. -/
def blockNumbers : Nat := 65536

/-- The block with a number, counted from one. -/
def blockOf (blksize : Nat) (content : Bytes) (number : Nat) : Bytes :=
  chunk blksize content (number - 1)

theorem flatten_blocksUpTo (blksize : Nat) (content : Bytes)
    (count : Nat) :
    (blocksUpTo (blockOf blksize content) count).flatten =
      firstChunks blksize content count := by
  simp [blocksUpTo, blockOf, firstChunks, List.flatMap_def]

/-- The state of the sender after it has sent one more block. -/
def sendOne (size : Nat) (content : Bytes) (acknowledged : Nat)
    (data : List (Nat × Bytes)) : Sender Bytes where
  sent := acknowledged + 1
  acknowledged := acknowledged
  data := data ++
    [((acknowledged + 1) % blockNumbers,
      blockOf size content (acknowledged + 1))]

/-- What a coherent receiver has accepted are the first blocks. -/
theorem accepted_flatten
    {size : Nat} {content : Bytes} {exchange : Exchange Bytes}
    (coherent : Coherent blockNumbers (blockOf size content) exchange) :
    exchange.receiver.accepted.flatten =
      firstChunks size content exchange.receiver.accepted.length := by
  rw [← flatten_blocksUpTo, ← coherent.inOrder]

/-- As soon as a short block is accepted, all blocks are. -/
theorem chunkCount_le_of_short
    {size : Nat} {content : Bytes} (positive : 0 < size)
    {exchange : Exchange Bytes}
    (coherent : Coherent blockNumbers (blockOf size content) exchange)
    {block : Bytes}
    (last : exchange.receiver.accepted.getLast? = some block)
    (short : block.length < size) :
    chunkCount size content ≤ exchange.receiver.accepted.length := by
  have inOrder := coherent.inOrder
  cases count : exchange.receiver.accepted.length with
  | zero =>
      rw [List.length_eq_zero_iff.mp count] at last
      cases last
  | succ count' =>
      rw [count, blocksUpTo_succ] at inOrder
      rw [inOrder, List.getLast?_concat, Option.some.injEq] at last
      rw [← last] at short
      exact (length_chunk_lt_iff positive content count').mp short

/-- When all blocks are accepted, one of them is short. -/
theorem exists_short_of_chunkCount_le
    {size : Nat} {content : Bytes} (positive : 0 < size)
    {exchange : Exchange Bytes}
    (coherent : Coherent blockNumbers (blockOf size content) exchange)
    (complete :
      chunkCount size content ≤ exchange.receiver.accepted.length) :
    ∃ block ∈ exchange.receiver.accepted, block.length < size := by
  refine ⟨chunk size content (chunkCount size content - 1), ?_, ?_⟩
  · rw [coherent.inOrder]
    refine List.mem_map.mpr ⟨chunkCount size content - 1, ?_, rfl⟩
    have positiveCount : 0 < chunkCount size content := Nat.succ_pos _
    exact List.mem_range.mpr (by omega)
  · exact
      (length_chunk_lt_iff positive content _).mpr (by omega)

/-! ## What a party adds to the wire -/

theorem dataOn_append_of_opcode
    {raw : Bytes} {opcode : Opcode}
    (known : getOpcodeFromRaw raw = .ok opcode)
    (other : opcode ≠ .DATA) (blksize : Nat) (sent : List Datagram)
    (reciever : Address) :
    dataOn blksize (sent ++ [(reciever, raw)]) = dataOn blksize sent := by
  simp [dataOn, dataIn_of_opcode known other]

theorem acksOn_append_of_opcode
    {raw : Bytes} {opcode : Opcode}
    (known : getOpcodeFromRaw raw = .ok opcode)
    (other : opcode ≠ .ACK) (sent : List Datagram)
    (reciever : Address) :
    acksOn (sent ++ [(reciever, raw)]) = acksOn sent := by
  simp [acksOn, ackIn_of_opcode known other]

@[simp]
theorem dataOn_append_error (blksize : Nat) (sent : List Datagram)
    (packet : ErrorPacket) (reciever : Address) :
    dataOn blksize (sent ++ [(reciever, packet.makeRaw)]) =
      dataOn blksize sent :=
  dataOn_append_of_opcode packet.getOpcode_makeRaw (by decide) _ _ _

@[simp]
theorem acksOn_append_error (sent : List Datagram)
    (packet : ErrorPacket) (reciever : Address) :
    acksOn (sent ++ [(reciever, packet.makeRaw)]) = acksOn sent :=
  acksOn_append_of_opcode packet.getOpcode_makeRaw (by decide) _ _

@[simp]
theorem acksOn_append_ack (sent : List Datagram)
    (packet : AckPacket) (reciever : Address) :
    acksOn (sent ++ [(reciever, packet.makeRaw)]) =
      acksOn sent ++ [packet.blockNumber.toNat] := by
  simp [acksOn]

theorem dataOn_append_data
    {blksize : Nat} (sent : List Datagram) (packet : DataPacket)
    (reciever : Address) (fits : packet.data.length ≤ blksize) :
    dataOn blksize (sent ++ [(reciever, packet.makeRaw)]) =
      dataOn blksize sent ++
        [(packet.blockNumber.toNat, packet.data)] := by
  simp [dataOn, dataIn_makeRaw packet fits]

/-- Reporting an exception sends at most an ERROR packet. -/
theorem sent_reportException (udp : UdpClient) (peer : Address)
    (exception : Exception) :
    (reportException udp peer exception).sent = udp.sent ∨
      ∃ packet : ErrorPacket,
        (reportException udp peer exception).sent =
          udp.sent ++ [(peer, packet.makeRaw)] := by
  unfold reportException
  split
  · split
    · exact Or.inr ⟨_, rfl⟩
    · exact Or.inl rfl
  · exact Or.inl rfl

@[simp]
theorem dataOn_reportException (blksize : Nat) (udp : UdpClient)
    (peer : Address) (exception : Exception) :
    dataOn blksize (reportException udp peer exception).sent =
      dataOn blksize udp.sent := by
  rcases sent_reportException udp peer exception with same | ⟨_, more⟩
  · rw [same]
  · rw [more, dataOn_append_error]

@[simp]
theorem acksOn_reportException (udp : UdpClient) (peer : Address)
    (exception : Exception) :
    acksOn (reportException udp peer exception).sent =
      acksOn udp.sent := by
  rcases sent_reportException udp peer exception with same | ⟨_, more⟩
  · rw [same]
  · rw [more, acksOn_append_error]

/-! ## DATA packets, byte by byte -/

/-- The datagrams which are DATA packets, with their receivers. -/
def dataSent (sent : List Datagram) : List Datagram :=
  sent.filter fun datagram => getOpcodeFromRaw datagram.2 = .ok .DATA

theorem dataSent_append_of_opcode
    {raw : Bytes} {opcode : Opcode}
    (known : getOpcodeFromRaw raw = .ok opcode)
    (other : opcode ≠ .DATA) (sent : List Datagram)
    (reciever : Address) :
    dataSent (sent ++ [(reciever, raw)]) = dataSent sent := by
  simp [dataSent, known, other]

@[simp]
theorem dataSent_append_data (sent : List Datagram)
    (packet : DataPacket) (reciever : Address) :
    dataSent (sent ++ [(reciever, packet.makeRaw)]) =
      dataSent sent ++ [(reciever, packet.makeRaw)] := by
  simp [dataSent]

@[simp]
theorem dataSent_reportException (udp : UdpClient) (peer : Address)
    (exception : Exception) :
    dataSent (reportException udp peer exception).sent =
      dataSent udp.sent := by
  rcases sent_reportException udp peer exception with same | ⟨_, more⟩
  · rw [same]
  · rw [more]
    exact
      dataSent_append_of_opcode (ErrorPacket.getOpcode_makeRaw _)
        (by decide) _ _

/-! ## The network -/

/--
What the network may bring to a party when the other one has sent these
datagrams: one of them, however old and however often it was heard before, or
no datagram at all.  The address which the receiver reads is left open.
-/
def Carries (sent : List Datagram) : Reception → Prop
  | .datagram _ bytes => ∃ reciever, (reciever, bytes) ∈ sent
  | _ => True

theorem mem_dataOn
    {blksize number : Nat} {payload bytes : Bytes} {reciever : Address}
    {sent : List Datagram} (onWire : (reciever, bytes) ∈ sent)
    (carried : dataIn blksize bytes = some (number, payload)) :
    (number, payload) ∈ dataOn blksize sent :=
  List.mem_filterMap.mpr ⟨_, onWire, carried⟩

theorem mem_acksOn
    {number : Nat} {bytes : Bytes} {reciever : Address}
    {sent : List Datagram} (onWire : (reciever, bytes) ∈ sent)
    (carried : ackIn bytes = some number) :
    number ∈ acksOn sent :=
  List.mem_filterMap.mpr ⟨_, onWire, carried⟩

/-! ## Agreement on the block size -/

/-- Every OACK among these datagrams which names a block size names this one. -/
def OackAgrees (size : Nat) (sent : List Datagram) : Prop :=
  ∀ datagram ∈ sent, ∀ oack,
    OackPacket.ofRaw (datagram.2.take UdpClient.maxPacketSize) =
        .ok oack →
      ∀ option ∈ oack.options, option.name = .BLKSIZE →
        stoi option.value = .ok (size : Int)

theorem getOpcodeFromRaw_take (raw : Bytes) :
    getOpcodeFromRaw (raw.take UdpClient.maxPacketSize) =
      getOpcodeFromRaw raw := by
  match raw with
  | [] => rfl
  | [_] => rfl
  | _ :: _ :: _ => rfl

/-- A packet with another opcode says nothing about the block size. -/
theorem OackAgrees.append_of_opcode
    {size : Nat} {sent : List Datagram} (agrees : OackAgrees size sent)
    {raw : Bytes} {opcode : Opcode}
    (known : getOpcodeFromRaw raw = .ok opcode)
    (other : opcode ≠ .OACK) (reciever : Address) :
    OackAgrees size (sent ++ [(reciever, raw)]) := by
  intro datagram member oack parsed
  rcases List.mem_append.mp member with old | new
  · exact agrees datagram old oack parsed
  · rw [List.mem_singleton.mp new] at parsed
    simp [OackPacket.ofRaw, getOpcodeFromRaw_take, known, bind,
      Except.bind, other, throw, throwThe, MonadExceptOf.throw] at parsed

theorem OackAgrees.reportException
    {size : Nat} {udp : UdpClient} (agrees : OackAgrees size udp.sent)
    (peer : Address) (exception : Exception) :
    OackAgrees size (reportException udp peer exception).sent := by
  rcases sent_reportException udp peer exception with
    same | ⟨packet, more⟩
  · rw [same]
    exact agrees
  · rw [more]
    exact
      agrees.append_of_opcode packet.getOpcode_makeRaw (by decide) peer

/-! ## Shared functions -/

/-- Only an ACK with the awaited number counts as received. -/
theorem ackIn_of_received
    {responder : Bytes} {blockNumber : Nat} {packet : Bytes}
    (received :
      classifyAck responder blockNumber packet = .ok .received) :
    ackIn packet = some blockNumber := by
  unfold classifyAck at received
  cases known : getOpcodeFromRaw packet with
  | error exception => simp [known, bind, Except.bind] at received
  | ok opcode =>
      cases opcode with
      | ACK =>
          cases parsed : AckPacket.ofRaw packet with
          | error exception =>
              simp [known, parsed, bind, Except.bind] at received
          | ok ack =>
              simp only [known, parsed, bind, Except.bind] at received
              split_ifs at received with equal old
              · simp [ackIn, parsed, equal]
              · cases received
      | ERROR =>
          cases parsed : ErrorPacket.ofRaw packet <;>
            simp [known, parsed, bind, Except.bind, throw, throwThe,
              MonadExceptOf.throw] at received
      | _ => simp [known, bind, Except.bind, pure, Except.pure] at received

/-- Only a block with the expected number is accepted. -/
theorem dataIn_of_accepted
    {responder : Bytes} {expected announced blksize : Nat}
    {packet data : Bytes}
    (accepted :
      classifyData responder expected announced blksize packet =
        .ok (.accepted data)) :
    dataIn blksize packet = some (expected, data) := by
  unfold classifyData at accepted
  cases known : getOpcodeFromRaw packet with
  | error exception => simp [known, bind, Except.bind] at accepted
  | ok opcode =>
      cases opcode with
      | DATA =>
          cases parsed : DataPacket.ofRaw packet blksize with
          | error exception =>
              simp [known, parsed, bind, Except.bind] at accepted
          | ok block =>
              simp only [known, parsed, bind, Except.bind] at accepted
              split_ifs at accepted with equal old
              · cases accepted
                simp [dataIn, parsed, equal]
              · cases accepted
      | ERROR =>
          cases parsed : ErrorPacket.ofRaw packet <;>
            simp [known, parsed, bind, Except.bind, throw, throwThe,
              MonadExceptOf.throw] at accepted
      | _ => simp [known, bind, Except.bind, pure, Except.pure] at accepted

/-- A block number on the wire has sixteen bits. -/
theorem lt_of_dataIn
    {blksize number : Nat} {payload raw : Bytes}
    (carried : dataIn blksize raw = some (number, payload)) :
    number < 65536 := by
  unfold dataIn at carried
  split at carried
  · rename_i packet parsed
    cases carried
    exact packet.blockNumber.toNat_lt
  · cases carried

theorem lt_of_ackIn
    {number : Nat} {raw : Bytes}
    (carried : ackIn raw = some number) :
    number < 65536 := by
  unfold ackIn at carried
  split at carried
  · rename_i packet parsed
    cases carried
    exact packet.blockNumber.toNat_lt
  · cases carried

/-- What is accepted was on the wire. -/
theorem mem_dataOn_of_accepted
    {responder : Bytes} {expected announced blksize : Nat}
    {data bytes : Bytes} {sender : Address} {sent : List Datagram}
    (fits : blksize + 4 ≤ UdpClient.maxPacketSize)
    (carries : Carries sent (.datagram sender bytes))
    (accepted :
      classifyData responder expected announced blksize
        (bytes.take UdpClient.maxPacketSize) = .ok (.accepted data)) :
    (expected, data) ∈ dataOn blksize sent ∧ expected < 65536 := by
  obtain ⟨reciever, onWire⟩ := carries
  have carried := dataIn_of_accepted accepted
  rw [dataIn_take fits] at carried
  exact ⟨mem_dataOn onWire carried, lt_of_dataIn carried⟩

/-- A number which is received was on the wire. -/
theorem mem_acksOn_of_received
    {responder : Bytes} {blockNumber : Nat} {bytes : Bytes}
    {sender : Address} {sent : List Datagram}
    (carries : Carries sent (.datagram sender bytes))
    (received :
      classifyAck responder blockNumber
        (bytes.take UdpClient.maxPacketSize) = .ok .received) :
    blockNumber ∈ acksOn sent ∧ blockNumber < 65536 := by
  obtain ⟨reciever, onWire⟩ := carries
  have carried := ackIn_of_received received
  rw [ackIn_take] at carried
  exact ⟨mem_acksOn onWire carried, lt_of_ackIn carried⟩

end IsaTftp.Transfer
