import IsaTftp.Client.Fallback
import IsaTftp.Client.Interruption
import IsaTftp.Server.Interruption

/-!
# Interrupted transfers

A party which receives a file cleans up if it looks at the flag again.  It does
not if the signal interrupts the call of `recvfrom` in which it spends nearly
all of its time, nor if this reception ends the transfer; and a handler of the
server must come to its next receive before `TftpServer::run` goes on.
-/

namespace IsaTftp

open IsaTftp.Wire
open IsaTftp.Files
open IsaTftp.Transfer
open IsaTftp.Library.Runs

/--
Exactly when a process which is interrupted while it receives ends only after
it has sent an ERROR packet and deleted the file: for a client in every run of
`Read` and at every point at which SIGINT strikes, its start included; for the
server in every order in which its threads and `TftpServer::run` go on.
-/
theorem interrupted_transfer_cleans_up_iff
    (session : Client.Session) (first : Event) (struck : Server.TftpServer) :
    (∀ (strike : Event) (before later : List Event),
      let client := run Client.TftpClient.step (session.read first) before
      client.control.writer ≠ none → Client.FlagStays later →
        (Client.CleansUp session.args.destFilepath client
            (strike :: later) ↔
          Client.Cleanable client strike later)) ∧
      (∀ later : List Event, Client.FlagStays later →
        (Client.CleansUp session.args.destFilepath (session.read first)
            later ↔
          Client.CleanableAtStart session first later)) ∧
        (struck.stopped = false → ∀ turns : List Server.After,
          let start : Server.Process := ⟨struck, none⟩
          (Server.Process.CleansUp struck
              (run Server.Process.step start turns) ↔
            ∀ taken ∈ stepsOf Server.Process.step start turns,
              taken.1.isOver = false →
                Server.Process.Spares struck taken.1 taken.2)) := by
  refine ⟨?_, ?_, ?_⟩
  · intro strike before later client receiving stays
    obtain ⟨writer, receives⟩ := Option.ne_none_iff_exists'.mp receiving
    rcases Client.ReadsTo.run session first before with
      ⟨other, same, samePath⟩ | ⟨outcome, isOver⟩
    · rw [← samePath]
      exact Client.cleansUp_iff same strike stays
    · change client.control = _ at isOver
      rw [isOver] at receives
      cases receives
  · intro later stays
    exact Client.read_cleansUp_iff session first stays
  · intro running turns start
    apply Server.Process.cleansUp_run_iff
    · simp [start, Server.Process.isOver, running]
    · exact .refl struck

/-! ## Small interruptions -/

/-- DATA 1 with eight bytes, from the server. -/
def eightBytes : Event :=
  { reception := .datagram ⟨1, 1000⟩ ([0, 3, 0, 1] ++ text "12345678") }

/-- SIGINT has arrived when a receive times out. -/
def signalBehindTimeout : Event :=
  { reception := .timeout, sigintFrom := some 0 }

/-- SIGINT arrives while the process is blocked in `recvfrom`. -/
def interruptedCall : Event :=
  { reception := .failure, sigintFrom := some 0 }

/-- A receive sees the flag before it blocks. -/
def flagSeen : Event where
  reception := .sigint

/-- A server which has received one block of an upload. -/
def receivingServer : Server.TftpServer :=
  let wrq := [0, 2] ++ text "f" ++ [0] ++ text "octet" ++ [0]
  let blksize := text "blksize" ++ [0] ++ text "8" ++ [0]
  run Server.TftpServer.step ⟨text "r", smallDisk none, []⟩
    [.request ⟨1, 1000⟩ {} (wrq ++ blksize), .handler 0 eightBytes]

theorem receivingServer_waits :
    ∃ handler writer, receivingServer.handlers[0]? = some handler ∧
      handler.control.writer = some writer ∧
        writer.filepath = text "r/f" := by
  have receives :
      receivingServer.handlers[0]?.map (fun handler =>
          handler.control.writer.map Writer.filepath) =
        some (some (text "r/f")) := by
    decide
  obtain ⟨handler, found, same⟩ := Option.map_eq_some_iff.mp receives
  obtain ⟨writer, waits, samePath⟩ := Option.map_eq_some_iff.mp same
  exact ⟨handler, writer, found, waits, samePath⟩

/--
A signal which a check behind the receive sees, and a handler which comes to
its next receive first.
-/
theorem interrupted_transfer_cleans_up_small :
    Client.CleanedUp (text "f")
        (run Client.TftpClient.step (Client.askingSession.read {})
          [eightBytes, signalBehindTimeout]) ∧
      (run Server.Process.step ⟨receivingServer, none⟩
        [.turn (.handler 0 flagSeen)]).server.CleanedUp (text "r/f")
          0 := by
  obtain ⟨client, _, server⟩ :=
    interrupted_transfer_cleans_up_iff Client.askingSession {}
      receivingServer
  constructor
  · have cleanable :
        Client.Cleanable
          (run Client.TftpClient.step (Client.askingSession.read {})
            [eightBytes]) signalBehindTimeout [] := by
      unfold Client.Cleanable
      rw [if_pos (by decide)]
      rfl
    have cleans :=
      (client signalBehindTimeout [eightBytes] [] (by decide)
        (by simp [Client.FlagStays])).mpr cleanable
    exact cleans .terminated (by decide)
  · have one : receivingServer.handlers.length = 1 := by decide
    obtain ⟨handler, writer, found, waits, samePath⟩ := receivingServer_waits
    rw [← samePath]
    refine
      (server (by decide) [.turn (.handler 0 flagSeen)]).mpr ?_
        (by decide) 0 writer ⟨handler, found, waits⟩
    intro taken member _
    obtain rfl := List.mem_singleton.mp member
    rintro current here _ other next ⟨rival, there, _⟩
    cases found.symm.trans here
    have below := (List.getElem?_eq_some_iff.mp there).choose
    rw [one] at below
    exact
      ⟨Nat.lt_one_iff.mp below, by simp [waits], rfl, rfl⟩

/--
The client has stored one block when the signal interrupts its receive: it
ends by an exception, sends nothing, and the file stays.  The server has stored
one block when `TftpServer::run` goes on: SIGUSR1 ends the process, nothing is
sent, and the file stays.
-/
theorem interrupted_receive_leaves_file :
    (let waiting :=
      run Client.TftpClient.step (Client.askingSession.read {}) [eightBytes]
    let reached := waiting.step interruptedCall
    reached.control =
        .ended (.threw (.udp (text "Error receiving data"))) ∧
      reached.sent = waiting.sent ∧
        reached.session.storage.files.content (text "f") =
            some (text "12345678") ∧
          ¬ Client.CleansUp (text "f") waiting [interruptedCall]) ∧
      let reached :=
        run Server.Process.step ⟨receivingServer, none⟩ [.main]
      reached.ending = some .killed ∧
        reached.server.handlers.map Server.Handler.sent =
            receivingServer.handlers.map Server.Handler.sent ∧
          reached.server.files.content (text "r/f") =
              some (text "12345678") ∧
            ¬ reached.CleansUp receivingServer := by
  constructor
  · refine ⟨by decide, by decide, by decide, ?_⟩
    intro cleans
    have cleaned := cleans (.threw (.udp (text "Error receiving data")))
      (by decide)
    exact absurd cleaned.ended (by decide)
  · have stays :
        (run Server.Process.step ⟨receivingServer, none⟩
            [.main]).server.files.content (text "r/f") =
          some (text "12345678") := by
      decide
    refine ⟨by decide, by decide, stays, ?_⟩
    intro cleans
    obtain ⟨handler, writer, found, waits, samePath⟩ := receivingServer_waits
    have cleaned := cleans (by decide) 0 writer ⟨handler, found, waits⟩
    have removed := cleaned.removed
    rw [samePath] at removed
    apply FileSystem.lookup_ne_none_of_content _ removed
    rw [stays]
    exact Option.some_ne_none _

end IsaTftp
