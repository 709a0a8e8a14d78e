import Mathlib.Data.List.Nodup
import IsaTftp.Wire.RoundTrip
import IsaTftp.Client.Agreement
import IsaTftp.Server.Negotiation

/-!
# The agreement of a handshake

A request goes through both encoders, both parsers, the negotiation and the
validation of the OACK.  With options which are numerals nothing of this
fails, and both parties end with the same block size and timeout.
-/

namespace IsaTftp

open IsaTftp.Wire
open IsaTftp.Files
open IsaTftp.Transfer

/-- An option which a client can request, with a size that fits an `int`. -/
structure Requestable (option : TftpOption) : Prop where
  constructed : ∃ given, TftpOption.make given option.value = .ok option
  supported : option.name ≠ .UNSUPPORTED
  numeral : IsNumeral option.value
  size : option.name = .TSIZE →
    ∃ tsize, stoull option.value = .ok tsize ∧ tsize < 2 ^ 31

namespace Requestable

variable {option : TftpOption}

theorem encodable (requestable : Requestable option) :
    option.Encodable where
  constructed := requestable.constructed
  supported := requestable.supported
  nonempty := requestable.numeral.nonempty
  plain := requestable.numeral.plain

theorem stoi_value (requestable : Requestable option) :
    ∃ number, stoi option.value = .ok number := by
  cases name : option.name with
  | BLKSIZE =>
      obtain ⟨number, converted, _⟩ := option.blksize_value name
      exact ⟨number, converted⟩
  | TIMEOUT =>
      obtain ⟨number, converted, _⟩ := option.timeout_value name
      exact ⟨number, converted⟩
  | TSIZE =>
      obtain ⟨tsize, converted, small⟩ := requestable.size name
      exact ⟨tsize, requestable.numeral.stoi_of_stoull converted small⟩
  | UNSUPPORTED => exact absurd name requestable.supported

/-- An option which is acknowledged as requested passes the comparison. -/
theorem compareOptions_self (requestable : Requestable option) :
    Client.Session.compareOptions option option = .ok () := by
  obtain ⟨number, converted⟩ := requestable.stoi_value
  unfold Client.Session.compareOptions
  simp only [converted, bind, Except.bind, gt_iff_lt, lt_irrefl, ne_eq,
    not_true_eq_false, if_false]
  cases name : option.name with
  | UNSUPPORTED => exact absurd name requestable.supported
  | _ => rfl

end Requestable

/-- Options of different names which a client can request together. -/
structure RequestableList (options : List TftpOption) : Prop where
  each : ∀ option ∈ options, Requestable option
  distinct : (options.map fun option => option.name).Nodup

namespace RequestableList

variable {options : List TftpOption}

theorem supported_eq (requestable : RequestableList options) :
    Server.supported options = options :=
  List.filter_eq_self.mpr fun option member =>
    decide_eq_true (requestable.each option member).supported

/-- An OACK which repeats the request passes all checks. -/
theorem checkOack (requestable : RequestableList options)
    {session : Client.Session} (same : session.args.options = options) :
    session.checkOack ⟨options⟩ = .ok () := by
  rw [Client.checkOack_eq_ok_iff, same]
  refine ⟨le_rfl, ?_⟩
  intro option member
  refine ⟨⟨option, member, rfl⟩, ?_⟩
  intro requested among sameName
  have isSame : option = requested :=
    List.inj_on_of_nodup_map requestable.distinct member among sameName
  rw [← isSame]
  exact (requestable.each option member).compareOptions_self

end RequestableList

/-- Setting a number again from the same options changes nothing. -/
theorem lastNumber_again (name : OptionName) (default : Nat)
    (options : List TftpOption) :
    lastNumber name (lastNumber name default options) options =
      lastNumber name default options := by
  by_cases named : ∃ option ∈ options, option.name = name
  · obtain ⟨option, member, isNamed⟩ := named
    exact lastNumber_of_mem member isNamed _ _
  · have absent : ∀ option ∈ options, option.name ≠ name :=
      fun option member isNamed => named ⟨option, member, isNamed⟩
    rw [lastNumber_of_absent absent]

/--
The whole handshake for a list of requestable options and a path without NUL,
if the request is not cut: no function fails, and both sides agree.
-/
theorem handshake_agrees
    (args : Client.TftpClientArgs) (serverAddress : Address)
    (stdin : Bytes) (clientFiles : FileSystem)
    (clientAddress : Address) (rootDirpath : Path)
    (serverFiles : FileSystem) (opcode : Opcode) (filepath : Bytes)
    (mode : Mode) (isRequest : opcode = .RRQ ∨ opcode = .WRQ)
    (nulFree : nul ∉ filepath)
    (requestable : RequestableList args.options)
    (fits : ∀ raw,
      ReadWritePacket.makeRaw ⟨opcode, filepath, mode, args.options⟩ =
          .ok raw →
        raw.length ≤ 512) :
    let fresh :=
      Server.Session.make clientAddress rootDirpath serverFiles
    ∃ client request parsed server negotiated reply oack agreed,
      Client.Session.make args serverAddress stdin clientFiles =
          .ok client ∧
        ReadWritePacket.makeRaw ⟨opcode, filepath, mode, args.options⟩ =
            .ok request ∧
          ReadWritePacket.ofRaw request = .ok parsed ∧
            fresh.negotiateOptions parsed.options =
                (server, .ok negotiated) ∧
              OackPacket.makeRaw ⟨negotiated⟩ = .ok reply ∧
                OackPacket.ofRaw reply = .ok oack ∧
                  client.checkOack oack = .ok () ∧
                    (client.withOptions oack.options).setupUdpClient =
                        .ok agreed ∧
                      agreed.blksize.toNat = server.blksize ∧
                        agreed.timeout = server.timeout ∧
                          agreed.udp.receiveTimeout =
                            server.udp.receiveTimeout := by
  dsimp only
  have encodable : ∀ option ∈ args.options, option.Encodable :=
    fun option member => (requestable.each option member).encodable
  -- the client's constructor
  obtain ⟨client, made, setsUp⟩ :
      ∃ client,
        Client.Session.make args serverAddress stdin clientFiles =
            .ok client ∧
          Client.SetsUp args.options _ client :=
    Client.setupUdpClient_setsUp _
  -- the request
  let packet : ReadWritePacket := ⟨opcode, filepath, mode, args.options⟩
  obtain ⟨request, encoded, decoded⟩ :
      ∃ raw, packet.makeRaw = .ok raw ∧
        (raw.length ≤ maxRequestLength →
          ReadWritePacket.ofRaw raw = .ok packet) :=
    ReadWritePacket.ofRaw_makeRaw isRequest nulFree encodable
      requestable.distinct
  -- the negotiation
  obtain ⟨server, negotiation⟩ :=
    Server.exists_negotiateOptions
      (fun option member _ => (requestable.each option member).stoi_value)
      (Server.Session.make clientAddress rootDirpath serverFiles)
  rw [requestable.supported_eq] at negotiation
  obtain ⟨negotiates, _⟩ := Server.negotiateOptions_of_ok negotiation
  -- the OACK
  obtain ⟨reply, answered, heard⟩ :
      ∃ raw, OackPacket.makeRaw ⟨args.options⟩ = .ok raw ∧
        OackPacket.ofRaw raw = .ok ⟨args.options⟩ :=
    OackPacket.ofRaw_makeRaw encodable requestable.distinct
  -- the set-up
  obtain ⟨agreed, accepted, setsUpAgain⟩ :=
    Client.setupUdpClient_setsUp (client.withOptions args.options)
  have same : client.args.options = args.options := by
    rw [setsUp.args]
  refine
    ⟨client, request, _, server, _, reply, _, agreed, made, encoded,
      decoded (fits request encoded), negotiation, answered, heard,
      requestable.checkOack same, accepted, ?_, ?_, ?_⟩
  · have size : client.blksize.toNat = lastNumber .BLKSIZE 512 args.options :=
      setsUp.blksize
    rw [setsUpAgain.blksize, negotiates.blksize]
    show lastNumber .BLKSIZE client.blksize.toNat args.options = _
    rw [size, lastNumber_again]
    rfl
  · have timeout : client.timeout = lastNumber .TIMEOUT 1 args.options :=
      setsUp.timeout
    rw [setsUpAgain.timeout, negotiates.timeout]
    show lastNumber .TIMEOUT client.timeout args.options = _
    rw [timeout, lastNumber_again]
    rfl
  · have inForce :
        client.udp.receiveTimeout = lastNumber .TIMEOUT 1 args.options :=
      setsUp.receiveTimeout
    rw [setsUpAgain.receiveTimeout, negotiates.receiveTimeout]
    show lastNumber .TIMEOUT client.udp.receiveTimeout args.options = _
    rw [inForce, lastNumber_again]
    rfl

/-! ## A small handshake -/

/-- The options `blksize` with 16, `timeout` with 5 and `tsize` with 100. -/
def threeOptions : List TftpOption :=
  [⟨.BLKSIZE, text "blksize", text "16", by decide⟩,
    patientOption,
    ⟨.TSIZE, text "tsize", text "100", by decide⟩]

theorem requestable_threeOptions : RequestableList threeOptions where
  each := by
    intro option member
    simp only [threeOptions, List.mem_cons, List.not_mem_nil,
      or_false] at member
    rcases member with rfl | rfl | rfl
    · exact
        ⟨⟨text "blksize", rfl⟩, by decide, .of_all (by decide) (by decide),
          fun isSize => by cases isSize⟩
    · exact
        ⟨⟨text "timeout", rfl⟩, by decide, .of_all (by decide) (by decide),
          fun isSize => by cases isSize⟩
    · exact
        ⟨⟨text "tsize", rfl⟩, by decide, .of_all (by decide) (by decide),
          fun _ => ⟨100, rfl, by decide⟩⟩
  distinct := by decide

/-- The theorem at a request to read the file `f` with three options. -/
theorem handshake_agrees_small :
    ∃ client request parsed server negotiated reply oack agreed,
      Client.Session.make
            ⟨text "f", text "f", .READ, .OCTET, threeOptions⟩ ⟨1, 69⟩ []
            (smallDisk none) =
          .ok client ∧
        ReadWritePacket.makeRaw ⟨.RRQ, text "f", .OCTET, threeOptions⟩ =
            .ok request ∧
          ReadWritePacket.ofRaw request = .ok parsed ∧
            (Server.Session.make ⟨2, 1024⟩ (text "r")
                  (smallDisk none)).negotiateOptions parsed.options =
                (server, .ok negotiated) ∧
              OackPacket.makeRaw ⟨negotiated⟩ = .ok reply ∧
                OackPacket.ofRaw reply = .ok oack ∧
                  client.checkOack oack = .ok () ∧
                    (client.withOptions oack.options).setupUdpClient =
                        .ok agreed ∧
                      agreed.blksize.toNat = server.blksize ∧
                        agreed.timeout = server.timeout ∧
                          agreed.udp.receiveTimeout =
                            server.udp.receiveTimeout :=
  handshake_agrees ⟨text "f", text "f", .READ, .OCTET, threeOptions⟩
    ⟨1, 69⟩ [] (smallDisk none) ⟨2, 1024⟩ (text "r") (smallDisk none) .RRQ
    (text "f") .OCTET (Or.inl rfl) (by decide) requestable_threeOptions
    (fun raw encoded => by
      cases encoded
      decide)

end IsaTftp
