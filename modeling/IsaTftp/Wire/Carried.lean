import Mathlib.Data.List.Nodup
import IsaTftp.Wire.RoundTrip

/-!
# Requests which arrive as they were meant

A request is cut to the buffer of the server, and its path ends at the first
NUL.  What is short enough and has no NUL is read as it was written, and an
OACK can repeat its options.
-/

namespace IsaTftp.Wire

/-- Options which a request and its answer carry unchanged. -/
structure CarriedOptions (options : List TftpOption) : Prop where
  each : ∀ option ∈ options, option.Encodable
  distinct : (options.map fun option => option.name).Nodup

/-- The bytes of a request which reaches the server as it was meant. -/
structure CarriedRequest (packet : ReadWritePacket) (request : Bytes) :
    Prop where
  isRequest : packet.opcode = .RRQ ∨ packet.opcode = .WRQ
  nulFree : nul ∉ packet.filepath
  options : CarriedOptions packet.options
  encoded : packet.makeRaw = .ok request
  fits : request.length ≤ maxRequestLength

namespace CarriedRequest

variable {packet : ReadWritePacket} {request : Bytes}

/-- The server reads what the client meant. -/
theorem parsed (carried : CarriedRequest packet request) :
    ReadWritePacket.ofRaw request = .ok packet := by
  obtain ⟨raw, encoded, decoded⟩ :
      ∃ raw, packet.makeRaw = .ok raw ∧
        (raw.length ≤ maxRequestLength →
          ReadWritePacket.ofRaw raw = .ok packet) :=
    ReadWritePacket.ofRaw_makeRaw carried.isRequest carried.nulFree
      carried.options.each carried.options.distinct
  rw [carried.encoded, Except.ok.injEq] at encoded
  rw [encoded]
  apply decoded
  rw [← encoded]
  exact carried.fits

theorem opcode (carried : CarriedRequest packet request) :
    getOpcodeFromRaw request = .ok packet.opcode :=
  ReadWritePacket.getOpcode_makeRaw carried.encoded

/-- The encoded options are a part of the request. -/
theorem length_options
    (carried : CarriedRequest packet request) {options : Bytes}
    (encoded : makeRawOptions packet.options = .ok options) :
    options.length ≤ maxRequestLength := by
  have whole := carried.encoded
  simp only [ReadWritePacket.makeRaw, encoded, bind, Except.bind, pure,
    Except.pure, Except.ok.injEq] at whole
  have fits := carried.fits
  rw [← whole] at fits
  simp only [List.length_append] at fits
  omega

/-- An OACK which answers the request can repeat its options. -/
theorem oack (carried : CarriedRequest packet request) :
    ∃ raw, OackPacket.makeRaw ⟨packet.options⟩ = .ok raw ∧
      raw.length ≤ maxRequestLength + 2 ∧
        OackPacket.ofRaw raw = .ok ⟨packet.options⟩ := by
  obtain ⟨raw, encoded, decoded⟩ :
      ∃ raw, OackPacket.makeRaw ⟨packet.options⟩ = .ok raw ∧
        OackPacket.ofRaw raw = .ok ⟨packet.options⟩ :=
    OackPacket.ofRaw_makeRaw carried.options.each
      carried.options.distinct
  refine ⟨raw, encoded, ?_, decoded⟩
  cases options : makeRawOptions packet.options with
  | error exception =>
      simp [OackPacket.makeRaw, options, bind, Except.bind] at encoded
  | ok bytes =>
      have short := carried.length_options options
      simp only [OackPacket.makeRaw, options, bind, Except.bind, pure,
        Except.pure, Except.ok.injEq] at encoded
      rw [← encoded]
      simp only [List.length_append, List.length_cons, List.length_nil]
      omega

end CarriedRequest

/-- The small request reaches the server as it was meant. -/
theorem carried_requestOfEight
    {opcode : Opcode} (isRequest : opcode = .RRQ ∨ opcode = .WRQ) :
    CarriedRequest ⟨opcode, text "f", .OCTET, [optionOfEight]⟩
      (requestOfEight opcode) where
  isRequest := isRequest
  nulFree := show nul ∉ text "f" by decide
  options :=
    { each := by
        intro option member
        obtain rfl := List.mem_singleton.mp member
        have numeral : IsNumeral (text "8") :=
          .of_all (by decide) (by decide)
        exact
          { constructed := ⟨text "blksize", rfl⟩
            supported := by decide
            nonempty := numeral.nonempty
            plain := numeral.plain }
      distinct := List.nodup_singleton _ }
  encoded := by
    rcases isRequest with rfl | rfl <;> decide
  fits := by
    rcases isRequest with rfl | rfl <;> decide

end IsaTftp.Wire
