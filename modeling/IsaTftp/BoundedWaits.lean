import IsaTftp.Client.Waits
import IsaTftp.Server.Waits
import IsaTftp.ReceivedInOrder

/-!
# Waits without a bound

A packet which a wait drops costs no retry, and on the receiving side the head
of the loop sends its ACK again.  So the peer can keep a wait alive for as long
as it likes, and gets a datagram for each one which it sends.
-/

namespace IsaTftp

open IsaTftp.Wire
open IsaTftp.Files
open IsaTftp.Transfer
open IsaTftp.Client
open IsaTftp.Upload
open IsaTftp.Library.Runs
open IsaTftp.Library.Retries

/--
Exactly when a wait is bounded by the retry limit: if a packet decides in time,
or nothing is dropped.
-/
theorem waits_are_bounded_iff
    {handler : Server.Handler} (handlerBegins : handler.Begins)
    {client : TftpClient} (clientBegins : client.Begins)
    {sent heard : Nat → Event}
    (fromClient : ∀ index,
      FromPeer handler.session.clientAddress (sent index))
    (fromServer : ∀ index, client.Comes (heard index)) :
    (handler.Bounded sent ↔
        (∃ index ≤ maxRetries, handler.Decides (sent index)) ∨
          ∀ index < maxRetries, ¬ handler.Ignores (sent index)) ∧
      (client.Bounded heard ↔
        (∃ index ≤ maxRetries, client.Decides (heard index)) ∨
          ∀ index < maxRetries, ¬ client.Ignores (heard index)) := by
  constructor
  · exact Server.bounded_iff handlerBegins fromClient
  · exact Client.bounded_iff clientBegins fromServer

/-- The wait of a small server for the first block. -/
theorem smallServer_begins :
    (smallServer.followOnWRQ {} smallRequest).Begins where
  waits := by decide
  head := by
    refine ⟨smallServer.withStorage ⟨smallDisk none, []⟩, {}, ?_⟩
    rfl

/-- The wait of a small client for the first answer. -/
theorem smallReader_begins : (smallReader.read {}).Begins where
  waits := trivial
  head := ⟨smallReader, {}, rfl⟩

/-- The theorem at two peers which do not answer. -/
theorem waits_are_bounded_small :
    (smallServer.followOnWRQ {} smallRequest).Bounded
        (fun _ => {}) ∧
      (smallReader.read {}).Bounded fun _ => {} := by
  let silence : Nat → Event := fun _ => {}
  have fromClient : ∀ index,
      FromPeer
        (smallServer.followOnWRQ {}
          smallRequest).session.clientAddress
        (silence index) :=
    fun _ => ⟨Or.inl rfl, rfl⟩
  have fromServer : ∀ index,
      (smallReader.read {}).Comes (silence index) :=
    fun _ => ⟨⟨1, 69⟩, trivial, Or.inl rfl, rfl⟩
  have bounded :=
    waits_are_bounded_iff smallServer_begins smallReader_begins
      fromClient fromServer
  constructor
  · apply bounded.1.mpr
    right
    exact fun _ _ => not_brings_of_timeout rfl _
  · apply bounded.2.mpr
    right
    exact fun _ _ => not_brings_of_timeout rfl _

/-- The client which sends ACK 0 again and again instead of a block. -/
def endlessAcks : Nat → Event :=
  fun _ => deliver ⟨2, 1024⟩ (ackOf 0).makeRaw

/-- Every one of these ACKs is dropped, and answered by another ACK. -/
theorem run_endlessAcks (count : Nat) :
    let reached :=
      run Server.Handler.step
        (smallServer.followOnWRQ {} smallRequest)
        (firstEvents endlessAcks count)
    reached.control =
        .awaitFirstData [] [] (Writer.make (text "r/f") .OCTET) 0 0 ∧
      reached.session.clientAddress = ⟨2, 1024⟩ ∧
        reached.sent =
          List.replicate (count + 1) (⟨2, 1024⟩, (ackOf 0).makeRaw) := by
  dsimp only
  induction count with
  | zero =>
      refine ⟨?_, rfl, ?_⟩
      · decide
      · decide
  | succ count induction =>
      obtain ⟨control, client, sent⟩ := induction
      rw [run_firstEvents_succ]
      generalize
        run Server.Handler.step
          (smallServer.followOnWRQ {} smallRequest)
          (firstEvents endlessAcks count) = reached at *
      obtain ⟨session, _⟩ := reached
      subst control
      have dropped :
          classifyData (text "Client") 1 2 session.blksize
              ((ackOf 0).makeRaw.take UdpClient.maxPacketSize) =
            .ok .ignored :=
        rfl
      have peer : session.clientAddress = ⟨2, 1024⟩ := client
      have again :
          Server.Handler.step
              ⟨session,
                .awaitFirstData [] [] (Writer.make (text "r/f") .OCTET) 0
                  0⟩
              (endlessAcks count) =
            session.awaitFirstDataAgain {} [] []
              (Writer.make (text "r/f") .OCTET) 0 := by
        show session.stepAwaitFirstData [] [] _ 0 0 _ = _
        have heard :
            (endlessAcks count).reception =
              .datagram session.clientAddress (ackOf 0).makeRaw := by
          rw [peer]
          rfl
        simp only [Server.Session.stepAwaitFirstData,
          Server.Session.recievePacketFromClient_first heard, dropped]
        rfl
      rw [again]
      refine ⟨rfl, peer, ?_⟩
      show session.udp.sent ++ [(session.clientAddress, _)] = _
      rw [show session.udp.sent = _ from sent, peer]
      exact List.replicate_succ'.symm

/-- The handler waits forever, and its ACKs have no end. -/
theorem endless_acks_keep_handler_alive :
    let start := smallServer.followOnWRQ {} smallRequest
    start.Begins ∧
      (∀ index,
          FromPeer start.session.clientAddress (endlessAcks index)) ∧
        ¬ start.Bounded endlessAcks ∧
          ∀ count,
            let reached :=
              run Server.Handler.step start (firstEvents endlessAcks count)
            reached.outcome = none ∧
              reached.sent =
                List.replicate (count + 1)
                  (⟨2, 1024⟩, (ackOf 0).makeRaw) := by
  intro start
  have fromClient : ∀ index,
      FromPeer start.session.clientAddress (endlessAcks index) :=
    fun _ => ⟨Or.inr ⟨_, rfl⟩, rfl⟩
  have ignores : ∀ index, start.Ignores (endlessAcks index) := by
    intro index
    have waits : start.control = _ := (run_endlessAcks 0).1
    apply (brings_iff rfl).mpr
    rw [waits]
    exact ⟨.ACK, rfl, by decide, by decide⟩
  refine ⟨smallServer_begins, fromClient, ?_, ?_⟩
  · rw [Server.bounded_iff smallServer_begins fromClient, not_or]
    constructor
    · rintro ⟨index, _, decides⟩
      exact decides.not_ignores (ignores index)
    · intro none_
      exact none_ 0 (by decide) (ignores 0)
  · intro count
    obtain ⟨control, _, sent⟩ := run_endlessAcks count
    refine ⟨?_, sent⟩
    show Server.Handler.outcome
      (run Server.Handler.step start (firstEvents endlessAcks count)) = none
    rw [Server.Handler.outcome, show Server.Handler.control _ = _ from control]

end IsaTftp
