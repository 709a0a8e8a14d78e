import IsaTftp.Client.Numbers
import IsaTftp.Server.Numbers
import IsaTftp.Upload.Stored

/-!
# Block numbers are reused

Two bytes are not enough for the numbers of a long file.  The server's counter
goes on, so that it sends block 65536 with the number zero and waits for an ACK
which no packet can carry; the client's counter starts again, and so does the
transfer.
-/

namespace IsaTftp

open IsaTftp.Wire
open IsaTftp.Files
open IsaTftp.Transfer
open IsaTftp.Client
open IsaTftp.Upload
open IsaTftp.Library.Runs
open IsaTftp.Library.Chunking

/--
Exactly when the two senders never reuse a block number and stop with an
exception when there is none left: if no further block can be read then.
-/
theorem block_numbers_never_reused_iff
    (clientAddress : Address) (rootDirpath : Path)
    (serverFiles : FileSystem) (host : HostChoice) (introPacket : Bytes)
    (args : TftpClientArgs) (serverAddress : Address) (stdin : Bytes)
    (files : FileSystem) (session : Client.Session)
    (made :
      Client.Session.make args serverAddress stdin files = .ok session)
    (first : Event) (events : List Event) :
    let server :=
      (Server.Session.make clientAddress rootDirpath
        serverFiles).followOnRRQ host introPacket
    let client := session.sendWrq first
    (NeverReused (run Server.Handler.step server events).sent ∧
          Server.StopsAtLimit server events ↔
        Server.EndsAtLimit server events) ∧
      (NeverReused (run TftpClient.step client events).sent ∧
          Client.StopsAtLimit client events ↔
        Client.EndsAtLimit client events) := by
  constructor
  · exact
      Server.never_reused_iff clientAddress rootDirpath serverFiles host
        introPacket events
  · exact Client.never_reused_iff made first events

/-- The theorem at the client of a short upload. -/
theorem block_numbers_never_reused_small :
    NeverReused
        (run TftpClient.step ((smallClient (text "hi")).sendWrq {})
          [deliver ⟨1, 69⟩ (ackOf 0).makeRaw]).sent ∧
      Client.StopsAtLimit ((smallClient (text "hi")).sendWrq {})
        [deliver ⟨1, 69⟩ (ackOf 0).makeRaw] := by
  refine
    (block_numbers_never_reused_iff ⟨2, 1024⟩ (text "r") (smallDisk none)
      {} smallRequest ⟨[], text "f", .WRITE, .OCTET, []⟩ ⟨1, 69⟩
      (text "hi") (smallDisk none) (smallClient (text "hi")) rfl {}
      [deliver ⟨1, 69⟩ (ackOf 0).makeRaw]).2.mpr ?_
  intro taken member sending limit
  rw [List.mem_singleton.mp member] at limit
  obtain ⟨_, _, waits, _⟩ := limit.waits
  cases waits

/-! ## A long upload -/

/-- The ACKs of so many blocks, from the first one on. -/
def acknowledgements (server : Address) (count : Nat) : List Event :=
  (List.range count).map fun index =>
    deliver server (ackOf (index + 1)).makeRaw

/-- While its blocks are full, a client sends one after each ACK. -/
theorem sends_block_after_each_ack
    {size : Nat} {content : Bytes} {start : TftpClient}
    (first : ∃ sending, ClientWaits size content 0 start sending)
    (count : Nat)
    (full : ∀ index < count,
      ¬ (chunk size content index).length < size) :
    let reached :=
      run TftpClient.step start
        (acknowledgements start.session.serverAddress count)
    (∃ sending, ClientWaits size content count reached sending) ∧
      reached.session.serverAddress = start.session.serverAddress ∧
        ∀ index ≤ count, ∃ reciever,
          (reciever, (blockAfter size content index).makeRaw) ∈
            reached.sent := by
  induction count with
  | zero =>
      refine ⟨first, rfl, ?_⟩
      intro index none_
      obtain rfl := Nat.le_zero.mp none_
      obtain ⟨sending, waiting⟩ := first
      exact waiting.sent
  | succ count induction =>
      obtain ⟨⟨sending, waiting⟩, same, earlier⟩ :=
        induction fun index before => full index (by omega)
      obtain ⟨next, session⟩ := waiting.next (full count (by omega))
      have split :
          acknowledgements start.session.serverAddress (count + 1) =
            acknowledgements start.session.serverAddress count ++
              [deliver start.session.serverAddress
                (ackOf (count + 1)).makeRaw] := by
        simp [acknowledgements, List.range_succ]
      rw [same] at next session
      rw [split, run_append]
      refine ⟨next, ?_, ?_⟩
      · show (TftpClient.step _ _).session.serverAddress = _
        rw [session]
        exact same
      · intro index bound
        show ∃ reciever, _ ∈ (TftpClient.step _ _).session.udp.sent
        rw [session]
        rcases Nat.lt_or_eq_of_le bound with old | rfl
        · obtain ⟨reciever, member⟩ := earlier index (by omega)
          exact ⟨reciever, List.mem_append_left _ member⟩
        · exact ⟨_, List.mem_append_right _ (List.mem_singleton.mpr rfl)⟩

/-- So many full blocks of zeros, and one more byte. -/
def longInput : Bytes :=
  List.replicate (512 * 65536) 0 ++ [1]

theorem chunk_longInput_first :
    chunk 512 longInput 0 = List.replicate 512 0 := by
  rw [chunk, longInput, Nat.zero_mul, List.drop_zero,
    List.take_append_of_le_length, List.take_replicate]
  · rfl
  · rw [List.length_replicate]
    decide

theorem chunk_longInput_last : chunk 512 longInput 65536 = [1] := by
  have skipped :
      longInput.drop (65536 * 512) = [1] := by
    apply List.drop_left'
    rw [List.length_replicate]
  rw [chunk, skipped]
  rfl

theorem chunk_longInput_full :
    ∀ index < 65536, ¬ (chunk 512 longInput index).length < 512 := by
  intro index before
  rw [length_chunk, longInput, List.length_append, List.length_replicate,
    List.length_singleton]
  omega

theorem smallClient_made (stdin : Bytes) :
    Client.Session.make ⟨[], text "f", .WRITE, .OCTET, []⟩ ⟨1, 69⟩ stdin
        (smallDisk none) =
      .ok (smallClient stdin) :=
  rfl

/-- After ACK 0 the first block is on its way. -/
theorem ClientWaits.smallClient (stdin : Bytes) :
    let reached :=
      ((Upload.smallClient stdin).sendWrq {}).step
        (deliver ⟨1, 69⟩ (ackOf 0).makeRaw)
    (∃ sending, ClientWaits 512 stdin 0 reached sending) ∧
      reached.session.serverAddress = ⟨1, 69⟩ := by
  let client := (Upload.smallClient stdin).send smallRequest
  let handler := StdHandler.make .OCTET ⟨stdin, false⟩
  have sameSize : client.blksize.toNat = 512 := rfl
  have octet : handler.mode = .OCTET := rfl
  have behind : handler.stdin = Stream.behind 512 stdin 0 := rfl
  obtain ⟨sending, session⟩ :=
    ClientWaits.sendNextBlock client sameSize octet behind
      (deliver ⟨1, 69⟩ (ackOf 0).makeRaw) rfl rfl
  exact ⟨sending, congrArg Client.Session.serverAddress session⟩

/-- The whole upload up to this block, if all blocks before it are full. -/
theorem smallClient_sends
    (content : Bytes) (count : Nat)
    (full : ∀ index < count,
      ¬ (chunk 512 content index).length < 512) :
    let reached :=
      run TftpClient.step ((smallClient content).sendWrq {})
        (deliver ⟨1, 69⟩ (ackOf 0).makeRaw ::
          acknowledgements ⟨1, 69⟩ count)
    (∃ sending, reached.control = .awaitAck sending 0 0) ∧
      ∀ index ≤ count, ∃ reciever,
        (reciever, (blockAfter 512 content index).makeRaw) ∈
          reached.sent := by
  obtain ⟨first, address⟩ := ClientWaits.smallClient content
  obtain ⟨⟨sending, waiting⟩, _, blocks⟩ :=
    sends_block_after_each_ack first count full
  rw [address] at waiting blocks
  exact ⟨⟨sending, waiting.waits⟩, blocks⟩

/--
A client which sends 65537 blocks sends the first and the last one with the
same number, and goes on.
-/
theorem block_number_one_is_reused :
    let reached :=
      run TftpClient.step ((smallClient longInput).sendWrq {})
        (deliver ⟨1, 69⟩ (ackOf 0).makeRaw ::
          acknowledgements ⟨1, 69⟩ 65536)
    Client.Session.make ⟨[], text "f", .WRITE, .OCTET, []⟩ ⟨1, 69⟩
          longInput (smallDisk none) =
        .ok (smallClient longInput) ∧
      (∃ reciever,
          (reciever, DataPacket.makeRaw ⟨1, List.replicate 512 0⟩) ∈
            reached.sent) ∧
        (∃ reciever,
            (reciever, DataPacket.makeRaw ⟨1, [1]⟩) ∈ reached.sent) ∧
          ¬ NeverReused reached.sent ∧
            ∃ sending, reached.control = .awaitAck sending 0 0 := by
  obtain ⟨waits, blocks⟩ :=
    smallClient_sends longInput 65536 chunk_longInput_full
  refine ⟨smallClient_made longInput, ?_, ?_, ?_, waits⟩
  · have block := blocks 0 (Nat.zero_le _)
    rw [blockAfter, chunk_longInput_first] at block
    exact block
  · have block := blocks 65536 (Nat.le_refl _)
    rw [blockAfter, chunk_longInput_last] at block
    exact block
  · intro never
    obtain ⟨reciever, wrapped⟩ := blocks 65535 (Nat.le_succ _)
    apply never.unwrapped
    have used := mem_dataNumbers wrapped
    simp only [blockAfter, UInt16.toNat_ofNat', Nat.reduceAdd,
      Nat.reducePow, Nat.reduceMod] at used
    exact used

end IsaTftp
