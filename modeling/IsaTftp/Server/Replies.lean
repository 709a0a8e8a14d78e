import IsaTftp.Wire.Cut
import IsaTftp.Wire.Replies
import IsaTftp.Server.Negotiation

/-!
# The replies of the server are decoded as they were

DATA, ACK and ERROR packets carry their fields whatever they are.  An OACK
carries options which have been read from a request, and these survive the
second parser: they are in lower case, hold no NUL, have a value, and no two
have the same name.
-/

namespace IsaTftp.Server

open IsaTftp.Wire
open IsaTftp.Files

/-! ## Options of a request -/

/-- A supported option has a value. -/
theorem nonempty_of_supported
    {option : TftpOption} (supported : option.name ≠ .UNSUPPORTED) :
    option.value ≠ [] := by
  intro empty
  have valid := option.valid
  rw [empty] at valid
  cases name : option.name with
  | BLKSIZE =>
      rw [name] at valid
      cases valid
  | TIMEOUT =>
      rw [name] at valid
      cases valid
  | TSIZE =>
      rw [name] at valid
      cases valid
  | UNSUPPORTED => exact supported name

/-- A pair of a request is read as an option which can be encoded. -/
theorem encodable_of_pair
    {pair : OptionText} (valid : pair.checked = .ok ())
    (supported : pair.optionName ≠ .UNSUPPORTED) :
    (pair.option valid).Encodable where
  constructed := by
    rcases pair.make with ⟨_, made⟩ | ⟨exception, invalid, _⟩
    · exact ⟨pair.lowered, made⟩
    · rw [valid] at invalid
      cases invalid
  supported := supported
  nonempty := nonempty_of_supported supported
  plain := by
    constructor
    · intro member
      obtain ⟨byte, inside, lowered⟩ := List.mem_map.mp member
      obtain rfl : byte = nul := toLower_eq_nul lowered
      exact pair.valueFree inside
    · exact map_toLower_toLower pair.value

/-- What is true of the options of a request which was accepted. -/
structure Requested (options : List TftpOption) : Prop where
  encodable : ∀ option ∈ options, option.name ≠ .UNSUPPORTED →
    option.Encodable
  distinct : (options.map fun option => option.name).Nodup

theorem requested_of_ofRaw
    {raw : Bytes} {request : ReadWritePacket}
    (accepted : ReadWritePacket.ofRaw raw = .ok request) :
    Requested request.options := by
  rw [← ReadWritePacket.ofRaw_take] at accepted
  obtain ⟨text_, _, rfl, names⟩ :=
    ReadWritePacket.means_of_ofRaw (List.length_take_le _ _) accepted
  constructor
  · intro option member supported
    obtain ⟨pair, inside, rfl⟩ := List.mem_pmap.mp member
    exact encodable_of_pair _ supported
  · show ((optionsOf text_.pairs text_.valid).map TftpOption.name).Nodup
    rw [map_name_optionsOf]
    exact names

/-- The options which `NegotiateOptions` returns. -/
def NegotiatedFrom (options : List TftpOption) : Prop :=
  ∃ (raw : Bytes) (request : ReadWritePacket) (session next : Session),
    ReadWritePacket.ofRaw raw = .ok request ∧
      session.negotiateOptions request.options = (next, .ok options)

theorem NegotiatedFrom.requested
    {options : List TftpOption} (negotiated : NegotiatedFrom options) :
    (∀ option ∈ options, option.Encodable) ∧
      (options.map fun option => option.name).Nodup := by
  obtain ⟨raw, request, session, next, accepted, result⟩ := negotiated
  obtain ⟨encodable, distinct⟩ := requested_of_ofRaw accepted
  obtain ⟨_, rfl⟩ := negotiateOptions_of_ok result
  constructor
  · intro option member
    obtain ⟨inside, supported⟩ := List.mem_filter.mp member
    exact encodable option inside (of_decide_eq_true supported)
  · exact distinct.sublist (List.filter_sublist.map _)

/-! ## Every reply -/

/-- A reply which the program can make, at a block size. -/
def Repliable (blksize : Nat) : Reply → Prop
  | .data packet => packet.data.length ≤ blksize
  | .ack _ => True
  | .error _ => True
  | .oack packet => NegotiatedFrom packet.options

/-- The class of a reply decodes what `MakeRaw` has encoded. -/
theorem ofRaw_makeRaw_reply
    {reply : Reply} {blksize : Nat} (repliable : Repliable blksize reply) :
    ∃ raw, reply.makeRaw = .ok raw ∧
      reply.class_.ofRaw raw blksize = .ok reply := by
  cases reply with
  | data packet =>
      refine ⟨packet.makeRaw, rfl, ?_⟩
      have decoded := packet.ofRaw_makeRaw repliable
      simp only [Reply.class_, ReplyClass.ofRaw, decoded, Except.map]
  | ack packet =>
      refine ⟨packet.makeRaw, rfl, ?_⟩
      have decoded := packet.ofRaw_makeRaw
      simp only [Reply.class_, ReplyClass.ofRaw, decoded, Except.map]
  | error packet =>
      refine ⟨packet.makeRaw, rfl, ?_⟩
      have decoded := packet.ofRaw_makeRaw
      simp only [Reply.class_, ReplyClass.ofRaw, decoded, Except.map]
  | oack packet =>
      obtain ⟨encodable, distinct⟩ := repliable.requested
      obtain ⟨raw, encoded, decoded⟩ :=
        OackPacket.ofRaw_makeRaw encodable distinct
      refine ⟨raw, encoded, ?_⟩
      simp only [Reply.class_, ReplyClass.ofRaw, decoded, Except.map]

/--
What is encoded is decoded to the same fields by its own class, and refused by
the other three.
-/
theorem replies_round_trip
    {reply : Reply} {blksize : Nat} (repliable : Repliable blksize reply) :
    ∃ raw, reply.makeRaw = .ok raw ∧
      reply.class_.ofRaw raw blksize = .ok reply ∧
        ∀ other ≠ reply.class_, ∃ exception,
          other.ofRaw raw blksize = .error exception := by
  obtain ⟨raw, encoded, decoded⟩ := ofRaw_makeRaw_reply repliable
  refine ⟨raw, encoded, decoded, ?_⟩
  intro other differs
  exact ReplyClass.refused (Reply.getOpcode_makeRaw encoded) differs blksize

/-- The theorem at the OACK for a block size of 1024. -/
theorem replies_round_trip_small :
    ∃ raw, (Reply.oack ⟨(blockSizeRequest (text "f")).options⟩).makeRaw =
        .ok raw ∧
      (Reply.oack ⟨(blockSizeRequest (text "f")).options⟩).class_.ofRaw raw
          512 =
        .ok (.oack ⟨(blockSizeRequest (text "f")).options⟩) ∧
        ∀ other ≠ ReplyClass.oack, ∃ exception,
          other.ofRaw raw 512 = .error exception := by
  have sendable : (blockSizeRequest (text "f")).Sendable :=
    sendable_blockSizeRequest (by decide)
  have accepted := sendable.ofRaw (makeRaw_blockSizeRequest _) (by decide)
  have negotiated :
      (Session.make ⟨2, 1024⟩ (text "r") (smallDisk none)).negotiateOptions
          (blockSizeRequest (text "f")).options =
        (_, .ok (blockSizeRequest (text "f")).options) :=
    rfl
  have repliable :
      Repliable 512 (.oack ⟨(blockSizeRequest (text "f")).options⟩) :=
    ⟨_, _, _, _, accepted, negotiated⟩
  exact replies_round_trip repliable

end IsaTftp.Server
