import IsaTftp.Server.Continuing
import IsaTftp.Server.Mirrors

/-!
# What the replies say about the outside

The existence check comes first, so the reply to a request for a path outside
the root depends on what is outside.  Two states of the file system get the
same replies exactly if both checks say the same in both of them.
-/

namespace IsaTftp.Server

open IsaTftp.Wire
open IsaTftp.Files
open IsaTftp.Transfer
open IsaTftp.Library.Runs

/-! ## The first datagram -/

/-- What a refusal sends. -/
def refusalSent (session : Session) (host : HostChoice)
    (request : ReadWritePacket) : List Datagram :=
  (reportException session.udp session.clientAddress
    (refusal host request (session.finds request))).sent

/-- A refused request is answered with one ERROR packet. -/
theorem exists_refusalSent
    {session : Session} (silent : session.udp.sent = [])
    {host : HostChoice} (stats : host.statFails = false)
    (request : ReadWritePacket) :
    ∃ raw, refusalSent session host request =
        [(session.clientAddress, raw)] ∧
      getOpcodeFromRaw raw = .ok .ERROR := by
  unfold refusalSent refusal
  rw [stats]
  cases session.finds request with
  | true =>
      cases request.opcode with
      | _ =>
          exact
            ⟨_, by simp [reportException, errorReply, silent]; rfl,
              ErrorPacket.getOpcode_makeRaw _⟩
  | false =>
      cases request.opcode with
      | _ =>
          exact
            ⟨_, by simp [reportException, errorReply, silent]; rfl,
              ErrorPacket.getOpcode_makeRaw _⟩

/-- The opening answer of an upload is an OACK or an ACK. -/
theorem getOpcode_openingReply
    {options negotiated : List TftpOption} {raw : Bytes}
    (answers : Session.openingReply options negotiated = .ok raw) :
    getOpcodeFromRaw raw ≠ .ok .ERROR := by
  unfold Session.openingReply at answers
  split_ifs at answers
  · rw [OackPacket.getOpcode_makeRaw answers]
    decide
  · rw [← Except.ok.inj answers, AckPacket.getOpcode_makeRaw]
    decide

/-- How a session meets a request, by the datagrams of the whole run. -/
inductive Met (session : Session) (host : HostChoice)
    (request : ReadWritePacket) (sent : List Datagram) : Prop where
  | refused
      (heldUp : session.Proceeds request → session.passes request = false)
      (same : sent = refusalSent session host request)
  | entered (proceeds : session.Proceeds request)
      (passes : session.passes request = true)
      (opening :
        (session.WriteSilenced request ∧ sent = []) ∨
          (¬ session.WriteSilenced request ∧ ∃ raw more,
            getOpcodeFromRaw raw ≠ .ok .ERROR ∧
              sent = (session.clientAddress, raw) :: more))

section Meeting

variable {session : Session} {host : HostChoice} {introPacket : Bytes}
variable {request : ReadWritePacket}

/-- A request which both checks let through is followed. -/
theorem followOnIntroPacket_of_passes
    (parsed : ReadWritePacket.ofRaw introPacket = .ok request)
    (stats : host.statFails = false)
    (proceeds : session.Proceeds request)
    (passes : session.passes request = true) :
    session.followOnIntroPacket host introPacket =
      session.openRequest host request := by
  apply followOnIntroPacket_of_admits parsed
  refine ⟨?_, passes⟩
  have same : session.finds request = decide (request.opcode = .RRQ) := by
    rw [Bool.eq_iff_iff, decide_eq_true_iff]
    exact proceeds
  simp only [Storage.fileExists, stats, ← same]
  rfl

theorem Met.followOnIntroPacket
    (silent : session.udp.sent = []) (stats : host.statFails = false)
    (parsed : ReadWritePacket.ofRaw introPacket = .ok request)
    (outside : session.finds request = true →
      session.passes request = false)
    (events : List Event) :
    Met session host request
      (run Handler.step (session.followOnIntroPacket host introPacket)
        events).sent := by
  by_cases enters :
      session.Proceeds request ∧ session.passes request = true
  · obtain ⟨proceeds, passes⟩ := enters
    have writes : request.opcode ≠ .RRQ := by
      intro reads
      rw [outside (proceeds.mpr reads)] at passes
      cases passes
    rw [followOnIntroPacket_of_passes parsed stats proceeds passes,
      Session.openRequest, if_neg writes]
    rcases openWRQ_answers session host request with
      ⟨silenced, reached, exception, quiet, muted, refused⟩ |
        ⟨welcome, reached, raw, negotiated, answers, waits⟩
    · refine .entered proceeds passes (Or.inl ⟨silenced, ?_⟩)
      have isOver :
          run Handler.step (reached.raise exception) events =
            reached.raise exception :=
        run_of_halted (fun _ => rfl) events
      rw [refused, isOver, Handler.sent, Session.raise_session_udp,
        reportException_of_mute muted, quiet.sent, silent]
    · have quiet := Session.negotiateOptions_negotiated negotiated
      let start : Handler :=
        ⟨reached.send raw,
          .awaitFirstData request.options (supported request.options)
            (Writer.make (session.filePath request.filepath)
              (formatOfMode request.mode)) 0 0⟩
      have continues : start.session.Continues
          (run Handler.step start events).session :=
        (Session.Continues.refl start.session).run events
      obtain ⟨calls, history⟩ := continues.calls
      obtain ⟨more, sent⟩ := history.sent
      refine
        .entered proceeds passes
          (Or.inr
            ⟨welcome, raw, more, getOpcode_openingReply answers, ?_⟩)
      rw [waits, Handler.sent, sent]
      simp [start, Session.send, UdpClient.send, quiet.sent, silent,
        quiet.clientAddress]
  · have heldUp :
        session.Proceeds request → session.passes request = false := by
      intro proceeds
      rw [Bool.eq_false_iff]
      exact fun passes => enters ⟨proceeds, passes⟩
    exact .refused heldUp (sent_of_refused parsed heldUp events)

end Meeting

/-! ## Two states of the file system -/

section TwoStates

variable (clientAddress : Address) (rootDirpath : Path)
variable {first second : FileSystem} {host : HostChoice}
variable {introPacket : Bytes} {request : ReadWritePacket}

/-- What gets past both checks is met differently from what does not. -/
theorem Met.apart
    {refused entered : Session} {sent otherSent : List Datagram}
    (silent : refused.udp.sent = []) (stats : host.statFails = false)
    (heldUp : refused.Proceeds request → refused.passes request = false)
    (same : sent = refusalSent refused host request)
    (proceeds : entered.Proceeds request)
    (passes : entered.passes request = true)
    (opening :
      (entered.WriteSilenced request ∧ otherSent = []) ∨
        (¬ entered.WriteSilenced request ∧ ∃ raw more,
          getOpcodeFromRaw raw ≠ .ok .ERROR ∧
            otherSent = (entered.clientAddress, raw) :: more)) :
    sent ≠ otherSent ∧
      ¬ (refused.finds request = entered.finds request ∧
        refused.passes request = entered.passes request) := by
  obtain ⟨raw, refusal, isError⟩ :=
    exists_refusalSent silent stats request
  constructor
  · intro alike
    rw [same, refusal] at alike
    rcases opening with ⟨_, nothing⟩ | ⟨_, answer, more, noError, first⟩
    · rw [nothing] at alike
      cases alike
    · rw [first, List.cons.injEq, Prod.mk.injEq] at alike
      rw [← alike.1.2] at noError
      exact noError isError
  · rintro ⟨sameFinds, samePasses⟩
    have through : refused.Proceeds request := by
      unfold Session.Proceeds at proceeds ⊢
      rw [sameFinds]
      exact proceeds
    rw [heldUp through, passes] at samePasses
    cases samePasses

end TwoStates

/-! ## A file beside the root -/

end IsaTftp.Server
