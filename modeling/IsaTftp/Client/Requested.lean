import IsaTftp.Network
import IsaTftp.Wire.Cut
import IsaTftp.Client.Main

/-!
# The mode which a request asks for

`Read` and `SendWrq` both put octet mode into their request, whatever the mode
of the file is.  A server reads this mode off the request, as long as no NUL in
the path takes the place of the one behind it.
-/

namespace IsaTftp.Client

open IsaTftp.Wire
open IsaTftp.Files
open IsaTftp.Transfer
open IsaTftp.Library.Runs

/-- What is read of a request asks for the mode which was put into it. -/
theorem mode_of_makeRaw
    {packet request : ReadWritePacket} {raw : Bytes}
    (pathFree : nul ∉ packet.filepath)
    (encoded : packet.makeRaw = .ok raw)
    (parsed : ReadWritePacket.ofRaw raw = .ok request) :
    request.mode = packet.mode := by
  have known := ReadWritePacket.getOpcode_makeRaw encoded
  obtain ⟨sameOpcode, isRequest⟩ := ReadWritePacket.getOpcode_ofRaw parsed
  rw [known, Except.ok.injEq] at sameOpcode
  rw [← sameOpcode] at isRequest
  obtain ⟨modeFree, isMode⟩ := parseMode_toBytes packet.mode
  let sent : RequestHead :=
    { opcode := packet.opcode
      isRequest := isRequest
      filepath := packet.filepath
      pathFree := pathFree
      modeText := packet.mode.toBytes
      mode := packet.mode
      isMode := parseMode_eq_ok isMode }
  have begins : ∃ options, raw = sent.raw ++ options := by
    unfold ReadWritePacket.makeRaw at encoded
    cases options : makeRawOptions packet.options with
    | error exception => simp [options, bind, Except.bind] at encoded
    | ok bytes =>
        rw [options] at encoded
        cases encoded
        exact ⟨bytes, rfl⟩
  obtain ⟨options, rfl⟩ := begins
  rw [← ReadWritePacket.ofRaw_take] at parsed
  have short :
      ((sent.raw ++ options).take maxRequestLength).length ≤
        maxRequestLength :=
    List.length_take_le _ _
  rcases ReadWritePacket.ofRaw_cases short with
    ⟨exception, refused, _⟩ | ⟨head, rest, looked⟩
  · rw [refused] at parsed
    cases parsed
  · rw [looked] at short parsed
    rw [head.ofRaw short] at parsed
    have whole :
        sent.raw ++ options =
          head.raw ++ (rest ++ (sent.raw ++ options).drop maxRequestLength) := by
      rw [← List.append_assoc, ← looked, List.take_append_drop]
    obtain ⟨same, _⟩ := RequestHead.raw_inj whole
    cases result :
        rethrowInvalidValue (ReadWritePacket.parseOptions rest) with
    | error exception =>
        rw [result] at parsed
        cases parsed
    | ok options =>
        rw [result] at parsed
        cases parsed
        rw [← same]

/-- Every request among these datagrams asks for octet mode. -/
def OctetRequests (sent : List Datagram) : Prop :=
  ∀ datagram ∈ sent, ∀ request,
    ReadWritePacket.ofRaw datagram.2 = .ok request → request.mode = .OCTET

namespace OctetRequests

variable {sent : List Datagram} {raw : Bytes}

theorem nil : OctetRequests [] := by
  intro datagram member
  cases member

theorem append (requests : OctetRequests sent) (reciever : Address)
    (octet : ∀ request, ReadWritePacket.ofRaw raw = .ok request →
      request.mode = .OCTET) :
    OctetRequests (sent ++ [(reciever, raw)]) := by
  intro datagram member request parsed
  rcases List.mem_append.mp member with old | new
  · exact requests datagram old request parsed
  · rw [List.mem_singleton.mp new] at parsed
    exact octet request parsed

/-- A packet with another opcode is no request. -/
theorem append_of_opcode
    (requests : OctetRequests sent) {opcode : Opcode}
    (known : getOpcodeFromRaw raw = .ok opcode)
    (other : opcode ≠ .RRQ ∧ opcode ≠ .WRQ) (reciever : Address) :
    OctetRequests (sent ++ [(reciever, raw)]) := by
  apply requests.append reciever
  intro request parsed
  obtain ⟨same, isRequest⟩ := ReadWritePacket.getOpcode_ofRaw parsed
  rw [known, Except.ok.injEq] at same
  rw [← same] at isRequest
  exact absurd isRequest (not_or.mpr other)

/-- The request of a client. -/
theorem append_request
    (requests : OctetRequests sent) {packet : ReadWritePacket}
    (pathFree : nul ∉ packet.filepath) (octet : packet.mode = .OCTET)
    (encoded : packet.makeRaw = .ok raw) (reciever : Address) :
    OctetRequests (sent ++ [(reciever, raw)]) := by
  apply requests.append reciever
  intro request parsed
  rw [mode_of_makeRaw pathFree encoded parsed, octet]

end OctetRequests

end IsaTftp.Client
