import IsaTftp.Client.Foreign
import IsaTftp.Server.Foreign

/-!
# Foreign datagrams do not disturb a transfer

A party answers a datagram of another sender with an ERROR packet and goes on
waiting.  It does so five times in one call of the receiving helper; then the
next datagram is dropped, whoever has sent it, and counts as a timeout.
-/

namespace IsaTftp

open IsaTftp.Wire
open IsaTftp.Files
open IsaTftp.Transfer
open IsaTftp.Library.Runs

/-- The datagrams which were sent to an address. -/
def sentTo (peer : Address) (sent : List (Address × Bytes)) : List Bytes :=
  (sent.filter fun datagram => datagram.1 = peer).map Prod.snd

theorem sentTo_of_inserts
    {peer : Address} {full base : List (Address × Bytes)}
    (inserts : Inserts (IsReply peer) full base) :
    sentTo peer full = sentTo peer base := by
  unfold sentTo
  rw [inserts.filter_eq]
  intro datagram isReply
  simpa using isReply.1

namespace Server

/--
Two handlers of one transfer agree in what was sent to the client, in the
files, and in everything which they wait for or have ended with; the first has
sent some more replies to other senders.
-/
structure Undisturbed (peer : Address) (full base : Handler) : Prop where
  sent : sentTo peer full.sent = sentTo peer base.sent
  storage : full.session.storage = base.session.storage
  control : full.control.withForeign 0 = base.control.withForeign 0
  replies : Inserts (IsReply peer) full.sent base.sent

theorem SameBut.undisturbed
    {peer : Address} {full base : Handler}
    (same : SameBut peer full base) : Undisturbed peer full base := by
  obtain ⟨session, control, address, le, sent⟩ := same
  have replies := sent.append (.refl session.udp.sent)
  constructor
  · exact sentTo_of_inserts replies
  · rfl
  · simp
  · exact replies

end Server

namespace Client

/-- The same for two clients. -/
structure Undisturbed (peer : Address) (full base : TftpClient) :
    Prop where
  sent : sentTo peer full.sent = sentTo peer base.sent
  storage : full.session.storage = base.session.storage
  control : full.control.withForeign 0 = base.control.withForeign 0
  replies : Inserts (IsReply peer) full.sent base.sent

theorem SameBut.undisturbed
    {peer : Address} {full base : TftpClient}
    (same : SameBut peer full base) : Undisturbed peer full base := by
  obtain ⟨session, control, settled, address, le, sent⟩ := same
  have replies := sent.append (.refl session.udp.sent)
  constructor
  · exact sentTo_of_inserts replies
  · rfl
  · simp
  · exact replies

end Client

/--
Inserting datagrams of other senders into the events of a transfer disturbs
neither party, if no datagram arrives at a receive whose budget is used up.
-/
theorem foreign_datagrams_do_not_disturb (full base : List Event) :
    (∀ handler : Server.Handler,
      Inserts (IsForeign handler.session.clientAddress) full base →
        (∀ taken ∈ stepsOf Server.Handler.step handler full,
          Server.InBudget taken.1 taken.2) →
          Server.Undisturbed handler.session.clientAddress
            (run Server.Handler.step handler full)
            (run Server.Handler.step handler base)) ∧
      ∀ client : Client.TftpClient,
        client.control.opening = false →
          Inserts (IsForeign client.session.serverAddress) full base →
            (∀ taken ∈ stepsOf Client.TftpClient.step client full,
              Client.InBudget taken.1 taken.2) →
              Client.Undisturbed client.session.serverAddress
                (run Client.TftpClient.step client full)
                (run Client.TftpClient.step client base) := by
  constructor
  · intro handler inserts fine
    exact (Server.SameBut.run handler inserts fine).undisturbed
  · intro client settled inserts fine
    exact (Client.SameBut.run settled inserts fine).undisturbed

/-! ## A small download -/

/-- The server which has sent the only block of the file `f`. -/
def sendingHandler : Server.Handler :=
  (Server.Session.make ⟨2, 1024⟩ (text "r")
    (smallDisk (some (text "hello")))).followOnRRQ {}
      ([0, 1] ++ text "f" ++ [0] ++ text "octet" ++ [0])

/-- The ACK of this block, from the client. -/
def clientAck : Event :=
  { reception := .datagram ⟨2, 1024⟩ [0, 4, 0, 1] }

/-- A datagram of another host. -/
def strayDatagram : Event :=
  { reception := .datagram ⟨9, 9⟩ [] }

theorem isForeign_strayDatagram :
    IsForeign sendingHandler.session.clientAddress strayDatagram :=
  ⟨⟨9, 9⟩, [], rfl, by decide⟩

/-- The theorem with one foreign datagram before the ACK. -/
theorem foreign_datagrams_do_not_disturb_small :
    Server.Undisturbed sendingHandler.session.clientAddress
      (run Server.Handler.step sendingHandler [strayDatagram, clientAck])
      (run Server.Handler.step sendingHandler [clientAck]) := by
  apply (foreign_datagrams_do_not_disturb _ _).1
  · exact .insert isForeign_strayDatagram (.refl _)
  · intro taken member foreign sender bytes counts heard
    simp only [stepsOf_cons, stepsOf_nil, List.mem_cons, List.not_mem_nil,
      or_false] at member
    rcases member with rfl | rfl
    · cases counts
      decide
    · cases counts
      decide

/--
Five foreign datagrams use up the budget: the ACK of the client is dropped, and
the server, which would have returned, waits for another one.
-/
theorem sixth_datagram_is_dropped :
    let full := List.replicate 5 strayDatagram ++ [clientAck]
    Inserts (IsForeign sendingHandler.session.clientAddress) full
        [clientAck] ∧
      (run Server.Handler.step sendingHandler [clientAck]).control =
          .ended .returned ∧
        (∃ sending,
          (run Server.Handler.step sendingHandler full).control =
            .awaitAck sending 1 0) ∧
          ¬ Server.Undisturbed sendingHandler.session.clientAddress
            (run Server.Handler.step sendingHandler full)
            (run Server.Handler.step sendingHandler [clientAck]) := by
  have stray := isForeign_strayDatagram
  refine ⟨?_, by decide, ⟨_, rfl⟩, ?_⟩
  · exact
      .insert stray (.insert stray (.insert stray (.insert stray
        (.insert stray (.refl _)))))
  · intro undisturbed
    exact absurd undisturbed.control (by decide)

end IsaTftp
