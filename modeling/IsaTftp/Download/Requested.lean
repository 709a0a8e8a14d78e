import IsaTftp.Client.Fallback
import IsaTftp.Client.Reading
import IsaTftp.Download.Stored
import IsaTftp.Library.ManySenders
import IsaTftp.Server.Negotiation
import IsaTftp.Wire.Carried

/-!
# A request and its handlers

The handler which a RRQ starts sends the blocks of the file in the size which
the request asks for.  An OACK of such a handler repeats the options of the
request, so it names no other size.
-/

namespace IsaTftp.Download

open IsaTftp.Wire
open IsaTftp.Files
open IsaTftp.Transfer
open IsaTftp.Client
open IsaTftp.Server
open IsaTftp.Library.Chunking
open IsaTftp.Library.StopAndWait

/-- A client which asks for a file in octet mode; the request is not cut. -/
structure AsksFor (args : TftpClientArgs) (request : Bytes) : Prop where
  reads : args.mode = .READ
  octet : args.fileMode = .OCTET
  carried :
    CarriedRequest ⟨.RRQ, args.filepath, .OCTET, args.options⟩ request

variable {args : TftpClientArgs} {request : Bytes}

/-! ## Options -/

theorem supported_of_carried
    {options : List TftpOption} (carried : CarriedOptions options) :
    Server.supported options = options :=
  List.filter_eq_self.mpr fun option member =>
    decide_eq_true (carried.each option member).supported

/-- The option `blksize` names the size which is asked for. -/
theorem optionsAgree_of_carried
    {options : List TftpOption} (carried : CarriedOptions options) :
    OptionsAgree (blksizeIn options) options := by
  intro option member isBlksize
  obtain ⟨other, among, named, value⟩ :=
    exists_lastNumber ⟨option, member, isBlksize⟩ defaultBlksize
  have same : option = other :=
    List.inj_on_of_nodup_map carried.distinct member among
      (isBlksize.trans named.symm)
  rw [blksizeIn, value, same]
  exact (numberOf_blksize named).1

/-- Every size which can be asked for fits into the buffers. -/
theorem blksizeIn_fits (options : List TftpOption) :
    blksizeIn options + 4 ≤ UdpClient.maxPacketSize := by
  have most := (blksizeIn_bounds options).2
  simp only [UdpClient.maxPacketSize]
  omega

/-- The OACK which answers the request fits into the buffer. -/
theorem AsksFor.oack (asks : AsksFor args request) :
    ∃ raw, OackPacket.makeRaw ⟨args.options⟩ = .ok raw ∧
      raw.length ≤ UdpClient.maxPacketSize ∧
        OackPacket.ofRaw raw = .ok ⟨args.options⟩ := by
  obtain ⟨raw, encoded, short, decoded⟩ := asks.carried.oack
  refine ⟨raw, encoded, le_trans short ?_, decoded⟩
  decide

/-- An OACK which repeats the options names no other block size. -/
theorem oackAgrees_of_carried
    {packet : ReadWritePacket} (carried : CarriedRequest packet request)
    {raw : Bytes} (encoded : OackPacket.makeRaw ⟨packet.options⟩ = .ok raw)
    {sent : List Datagram}
    (agrees : OackAgrees (blksizeIn packet.options) sent)
    (reciever : Address) :
    OackAgrees (blksizeIn packet.options) (sent ++ [(reciever, raw)]) := by
  obtain ⟨other, same, short, decoded⟩ := carried.oack
  rw [encoded, Except.ok.injEq] at same
  subst same
  have fits : raw.length ≤ UdpClient.maxPacketSize :=
    le_trans short (by decide)
  intro datagram member oack parsed option among isBlksize
  rcases List.mem_append.mp member with old | new
  · exact agrees datagram old oack parsed option among isBlksize
  · rw [List.mem_singleton.mp new, List.take_of_length_le fits, decoded,
      Except.ok.injEq] at parsed
    rw [← parsed] at among
    exact optionsAgree_of_carried carried.options option among isBlksize

/-! ## The handlers which a client can start -/

/-- Nothing was sent which a receiver takes for a block or an OACK. -/
theorem raises_nothing
    {size : Nat} {content : Bytes} (session : Server.Session)
    (silent : session.udp.sent = []) (exception : Exception) :
    SenderView size content (session.raise exception) Sender.fresh :=
  SenderView.raise session (sends_nothing size silent) exception

/-- The handler which the request starts. -/
theorem AsksFor.starts
    (asks : AsksFor args request) {address : Address} {rootDirpath : Path}
    {files : FileSystem} {content : Bytes}
    (found : files.content (rootDirpath ++ slash :: args.filepath) =
      some content)
    (host : HostChoice) :
    let handler :=
      (Server.Session.make address rootDirpath files).followOnIntroPacket
        host request
    SenderView (blksizeIn args.options) content handler
        Sender.fresh ∨
      SenderView (blksizeIn args.options) content handler
        (sendOne (blksizeIn args.options) content 0 []) := by
  intro handler
  let fresh := Server.Session.make address rootDirpath files
  have enters : handler = fresh.followOnRRQ host request := by
    simp only [handler, Server.Session.followOnIntroPacket, asks.carried.opcode]
    rfl
  rw [enters]
  rcases fresh.followOnRRQ_checks host request with
    ⟨exception, refused⟩ | ⟨rrq, parsed, _, _, opens⟩
  · rw [refused]
    exact Or.inl (raises_nothing fresh rfl exception)
  · rw [asks.carried.parsed, Except.ok.injEq] at parsed
    subst parsed
    rw [opens]
    rcases fresh.openRRQ_cases host _ with
      ⟨reached, exception, quiet, rejected⟩ |
        ⟨agreed, negotiated, measured, storage, negotiation, measuring,
          goesOn⟩
    · rw [rejected]
      exact
        Or.inl (raises_nothing reached (quiet.sent.trans rfl) exception)
    · obtain ⟨negotiates, same⟩ := negotiateOptions_of_ok negotiation
      rw [supported_of_carried asks.carried.options] at same
      subst same
      have silent : (agreed.withStorage storage).udp.sent = [] :=
        negotiates.sent.trans rfl
      have sameSize :
          (agreed.withStorage storage).blksize =
            blksizeIn args.options :=
        negotiates.blksize
      rcases goesOn with
        ⟨exception, _, throws⟩ | ⟨_, spins⟩ | ⟨_, answers⟩
      · rw [throws]
        exact
          Or.inl
            (raises_nothing (agreed.withStorage storage) silent exception)
      · rw [spins]
        exact
          Or.inl
            ⟨sends_nothing (blksizeIn args.options) silent, trivial⟩
      · rw [answers]
        have reads :=
          agreed.measureForTsize_onlyReads host
            (Reader.make (fresh.filePath args.filepath)
              (formatOfMode .OCTET)) args.options
        rw [measuring] at reads
        have sameFiles : storage.files = files := by
          rw [reads.files, negotiates.storage]
          rfl
        have behind :
            (Reader.make (fresh.filePath args.filepath)
                .OCTET).Behind storage.files
              (blksizeIn args.options) content 0 := by
          apply Reader.Behind.make
          rw [sameFiles]
          exact found
        refine
          answerRRQ_view silent sameSize behind ?_
        -- the OACK, or the first block, is all that was sent
        unfold Server.Session.answerRRQ Handler.sent
        split_ifs
        · obtain ⟨raw, encoded, _, _⟩ := asks.oack
          rw [encoded]
          exact
            oackAgrees_of_carried asks.carried encoded
              (sends_nothing (blksizeIn args.options) silent).oacks _
        · have sends :=
            SenderView.sendBlock (agreed.withStorage storage)
              sameSize behind
              (sends_nothing (blksizeIn args.options) silent) host
          rcases sends with view | view
          · exact view.wire.oacks
          · exact view.wire.oacks

/-- A handler which is started by anything else sends no block. -/
theorem starts_nothing
    {raw : Bytes} {opcode : Opcode}
    (known : getOpcodeFromRaw raw = .ok opcode)
    (other : opcode ≠ .RRQ ∧ opcode ≠ .WRQ) (size : Nat)
    (content : Bytes) (address : Address) (rootDirpath : Path)
    (files : FileSystem) (host : HostChoice) :
    SenderView size content
      ((Server.Session.make address rootDirpath files).followOnIntroPacket
        host raw)
      Sender.fresh := by
  unfold Server.Session.followOnIntroPacket
  rw [known]
  cases opcode with
  | RRQ => exact absurd rfl other.1
  | WRQ => exact absurd rfl other.2
  | _ => exact raises_nothing _ rfl _

end IsaTftp.Download
