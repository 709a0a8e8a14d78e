import IsaTftp.Upload.Lockstep

/-!
# What an upload stores

Two results about uploads.  At any time the server has written exactly the
first blocks of the input, in order; and the success of the client means that
everything is stored, unless the number zero is ambiguous.
-/

namespace IsaTftp.Upload

open IsaTftp.Wire
open IsaTftp.Files
open IsaTftp.Transfer
open IsaTftp.Client
open IsaTftp.Server
open IsaTftp.Library.Chunking
open IsaTftp.Library.StopAndWait

variable {size count : Nat} {stdin content : Bytes} {path : Path}
variable {options : List TftpOption} {start upload : Pair}
variable {session : Client.Session} {blksize : UInt16}
variable {serverSession : Server.Session} {host : HostChoice}
variable {introPacket : Bytes} {writer : Writer}

/-! ## What the server has stored -/

/-- The server returns as soon as it has accepted every block. -/
theorem returned_of_complete
    (positive : 0 < size) {exchange : Exchange Bytes}
    (coherent : Coherent blockNumbers (blockOf size stdin) exchange)
    (view :
      ReceiverView size path (options = []) upload.second
        exchange.receiver)
    (complete :
      chunkCount size stdin ≤ exchange.receiver.accepted.length) :
    upload.second.control = .ended .returned := by
  obtain ⟨block, member, short⟩ :=
    exists_short_of_chunkCount_le positive coherent complete
  by_contra going
  exact absurd short (not_lt.mpr (view.full going block member))

/-- When the server has returned, its file is the whole input. -/
theorem stored_of_returned
    (positive : 0 < size) {exchange : Exchange Bytes}
    (coherent : Coherent blockNumbers (blockOf size stdin) exchange)
    (view :
      ReceiverView size path (options = []) upload.second
        exchange.receiver)
    (returned : upload.second.control = .ended .returned) :
    upload.second.session.storage.files.content path = some stdin := by
  have knows := view.control
  unfold Server.ControlAgrees at knows
  rw [returned] at knows
  obtain ⟨content, block, last, short⟩ := knows
  rw [content, accepted_flatten coherent,
    firstChunks_of_chunkCount_le positive
      (chunkCount_le_of_short positive coherent last short)]

/--
An upload which the client reports as done is stored, if the number zero
cannot be mistaken for that of block 65536: the handshake used an OACK, or
there are fewer blocks.
-/
theorem stored_of_client_returned
    (started : Started size stdin options path start)
    (unambiguous : options ≠ [] ∨ stdin.length < 65535 * size)
    (reachable : Relation.ReflTransGen Step start upload)
    (returned : upload.first.control = .ended .returned) :
    upload.second.control = .ended .returned ∧
      upload.second.session.storage.files.content path = some stdin := by
  obtain ⟨initial, exchange, initially, steps, sends, view⟩ :=
    refines started reachable
  obtain ⟨_, _, _, _, server⟩ := started.server
  obtain ⟨positive, _⟩ := server.fitsBuffer
  have coherent := Coherent.of_reachable (by decide) initially steps
  have knows := sends.control
  unfold Client.ControlAgrees at knows
  rw [returned] at knows
  obtain ⟨all, complete⟩ := knows
  have accepted :
      chunkCount size stdin ≤ exchange.receiver.accepted.length := by
    have heard := coherent.heard
    rcases unambiguous with requested | few
    · have noZero : 0 ∉ exchange.receiver.acks :=
        fun zero => requested (view.session.zero zero)
      have below :=
        acknowledged_lt_of_no_zero (by decide) initially steps noZero
      have trusted := coherent.acknowledged_le below
      omega
    · have bound : chunkCount size stdin ≤ 65535 := by
        have quotient : stdin.length / size < 65535 :=
          Nat.div_lt_of_lt_mul (by rwa [Nat.mul_comm] at few)
        simp only [chunkCount]
        omega
      simp only [blockNumbers] at heard
      omega
  have done := returned_of_complete positive coherent view accepted
  exact ⟨done, stored_of_returned positive coherent view done⟩

/-! ## A small upload -/

/-- A client which is about to upload this input with default options. -/
def smallClient (stdin : Bytes) : Client.Session where
  args := ⟨[], text "f", .WRITE, .OCTET, []⟩
  serverAddress := ⟨1, 69⟩
  blksize := 512
  timeout := 1
  udp := UdpClient.make
  stdin := ⟨stdin, false⟩
  storage := ⟨smallDisk none, []⟩

/-- A server whose root directory is empty. -/
def smallServer : Server.Session :=
  Server.Session.make ⟨2, 1024⟩ (text "r") (smallDisk none)

/-- The request to write the file `f` in octet mode, without options. -/
def smallRequest : Bytes :=
  [0, 2] ++ text "f" ++ [0] ++ text "octet" ++ [0]

theorem smallClient_ready (stdin : Bytes) :
    ClientReady 512 stdin (smallClient stdin) 512 where
  octet := rfl
  input := rfl
  scanned := rfl
  sameSize := rfl
  requests := by simp [smallClient, UdpClient.make]

/-- The same client, but for blocks of eight bytes. -/
def clientOfEight (stdin : Bytes) : Client.Session :=
  { smallClient stdin with
    args := ⟨[], text "f", .WRITE, .OCTET, [optionOfEight]⟩
    blksize := 8 }

theorem clientOfEight_ready (stdin : Bytes) :
    ClientReady 8 stdin (clientOfEight stdin) 8 where
  octet := rfl
  input := rfl
  scanned := rfl
  sameSize := rfl
  requests := by simp [clientOfEight, smallClient, UdpClient.make]

theorem smallServer_started :
    ServerStarted 512 [] (text "r/f")
      (smallServer.followOnWRQ {} smallRequest) smallServer {}
      smallRequest (Writer.make (text "r/f") .OCTET) where
  fresh := ⟨_, _, _, rfl⟩
  entered := rfl
  waits := ⟨[], 0, 0, by decide⟩
  octet := rfl
  samePath := rfl
  sameSize := by decide

theorem serverOfEight_started :
    ServerStarted 8 [optionOfEight] (text "r/f")
      (smallServer.followOnWRQ {} (requestOfEight .WRQ)) smallServer {}
      (requestOfEight .WRQ) (Writer.make (text "r/f") .OCTET) where
  fresh := ⟨_, _, _, rfl⟩
  entered := rfl
  waits := ⟨[optionOfEight], 0, 0, by decide⟩
  octet := rfl
  samePath := rfl
  sameSize := by decide

/-! ## Safety -/

/--
Upload safety.  Whatever the network does, as long as every write to the disk
of the server succeeds, the server has written exactly the first blocks of the
input, as many as it has accepted; while it receives, its file holds just these
bytes and its counter is their number; and when it returns, the file is the
whole input.
-/
theorem uploaded_in_order
    (started : Started size stdin options path start)
    (reachable : Relation.ReflTransGen Step start upload) :
    upload.second.session.storage.writtenBlocks.flatten =
        firstChunks size stdin
          upload.second.session.storage.writtenBlocks.length ∧
      (∀ writer blockNumber retries foreign,
        upload.second.control =
            .awaitData writer blockNumber retries foreign →
          blockNumber =
              upload.second.session.storage.writtenBlocks.length ∧
            upload.second.session.storage.files.content path =
              some (firstChunks size stdin blockNumber)) ∧
        (upload.second.control = .ended .returned →
          upload.second.session.storage.files.content path =
            some stdin) := by
  obtain ⟨initial, exchange, initially, steps, _, view⟩ :=
    refines started reachable
  obtain ⟨_, _, _, _, server⟩ := started.server
  obtain ⟨positive, _⟩ := server.fitsBuffer
  have coherent := Coherent.of_reachable (by decide) initially steps
  have blocks := view.session.accepted
  refine ⟨?_, ?_, stored_of_returned positive coherent view⟩
  · rw [← blocks]
    exact accepted_flatten coherent
  · intro writer blockNumber retries foreign waits
    have knows := view.control
    unfold Server.ControlAgrees at knows
    rw [waits] at knows
    obtain ⟨receiving, isOpen, count, _⟩ := knows
    have content := receiving.stores.content isOpen
    rw [receiving.samePath, accepted_flatten coherent, ← count] at content
    exact ⟨by rw [count, blocks], content⟩

/--
An upload of two blocks.  The first one arrives three times, the last time
after the client has gone on, and its ACK twice.
-/
theorem uploaded_in_order_small :
    ∃ reached,
      Relation.ReflTransGen Step
          ⟨(clientOfEight (text "hello world")).sendData {},
            smallServer.followOnWRQ {} (requestOfEight .WRQ)⟩ reached ∧
        reached.second.session.storage.writtenBlocks =
            [text "hello wo", text "rld"] ∧
          reached.second.session.storage.files.content (text "r/f") =
            some (text "hello world") := by
  let start : Pair :=
    ⟨(clientOfEight (text "hello world")).sendData {},
      smallServer.followOnWRQ {} (requestOfEight .WRQ)⟩
  let block := (blockAfter 8 (text "hello world") 0).makeRaw
  let last := (blockAfter 8 (text "hello world") 1).makeRaw
  let ack := (ackOf 1).makeRaw
  let stored := start.serverHears block
  let again := stored.serverHears block
  let acknowledged := again.clientHears ack
  let repeated := acknowledged.clientHears ack
  let late := repeated.serverHears block
  let reached := late.serverHears last
  have started :
      Started 8 (text "hello world") [optionOfEight] (text "r/f") start :=
    ⟨⟨_, _, {}, clientOfEight_ready _, rfl⟩,
      ⟨_, _, _, _, serverOfEight_started⟩⟩
  have first : Step start stored :=
    Pair.step_serverHears ⟨⟨1, 69⟩, by decide⟩
  have second : Step stored again :=
    Pair.step_serverHears ⟨⟨1, 69⟩, by decide⟩
  have third : Step again acknowledged :=
    Pair.step_clientHears ⟨⟨2, 1024⟩, by decide⟩
  have fourth : Step acknowledged repeated :=
    Pair.step_clientHears ⟨⟨2, 1024⟩, by decide⟩
  have fifth : Step repeated late :=
    Pair.step_serverHears ⟨⟨1, 69⟩, by decide⟩
  have sixth : Step late reached :=
    Pair.step_serverHears ⟨⟨1, 69⟩, by decide⟩
  have steps : Relation.ReflTransGen Step start reached :=
    .tail (.tail (.tail (.tail (.tail (.single first) second) third)
      fourth) fifth) sixth
  have returned : reached.second.control = .ended .returned := by
    decide
  exact
    ⟨reached, steps, by decide,
      (uploaded_in_order started steps).2.2 returned⟩

/-! ## Beyond the last block number -/

/-- The first answer of a server which was asked for no options. -/
theorem ServerStarted.zeroOnWire
    {server : Handler}
    (started :
      ServerStarted size [] path server serverSession host introPacket
        writer) :
    ∃ reciever, (reciever, (ackOf 0).makeRaw) ∈ server.sent := by
  obtain ⟨negotiated, retries, foreign, waits⟩ := started.waits
  rcases Server.Session.followOnWRQ_cases serverSession host
      introPacket with
    ⟨_, exception, _, refused⟩ | ⟨wrq, begun, asked, _, _, _, _, entered⟩
  · rw [started.entered, refused] at waits
    cases waits
  · rw [started.entered, entered] at waits
    obtain ⟨none, _, raw, opening, waiting⟩ :=
      Server.Session.waits_awaitFirstDataAgain waits
    rw [← none] at opening
    cases opening
    rw [started.entered, entered, waiting]
    exact ⟨begun.clientAddress, by simp [Handler.sent, ackOf]⟩

/-- When every number is on the wire, the client gets on by itself. -/
theorem ClientWaits.run
    {client : TftpClient} {sending : Client.Sending} {server : Handler}
    (waiting : ClientWaits size content count client sending)
    (onWire : ∀ number,
      ∃ reciever, (reciever, (ackOf number).makeRaw) ∈ server.sent)
    {more : Nat}
    (full : ∀ index < count + more,
      ¬ (chunk size content index).length < size) :
    ∃ reached sending',
      Relation.ReflTransGen Step ⟨client, server⟩ ⟨reached, server⟩ ∧
        ClientWaits size content (count + more) reached sending' := by
  induction more with
  | zero => exact ⟨client, sending, .refl, waiting⟩
  | succ more induction =>
      obtain ⟨reached, sending', steps, here⟩ :=
        induction fun index below => full index (by omega)
      obtain ⟨⟨sending'', there⟩, _⟩ :=
        here.next (full (count + more) (by omega))
      obtain ⟨reciever, member⟩ := onWire (count + more + 1)
      let upload : Pair := ⟨reached, server⟩
      have hears :
          Step upload
            (upload.clientHears (ackOf (count + more + 1)).makeRaw) :=
        Pair.step_clientHears ⟨reciever, member⟩
      exact ⟨_, _, steps.tail hears, there⟩

theorem ackOf_mod (number : Nat) :
    ackOf (number % 65536) = ackOf number := by
  unfold ackOf
  congr 1
  exact UInt16.toNat_inj.mp (by simp)

/--
An upload of more than 65535 blocks to a server which has answered with
ACK 0.  This answer, heard again, acknowledges block 65536, which the server
cannot accept, and the old numbers acknowledge all later blocks.
-/
theorem client_returns_unstored
    (client : ClientReady size content session blksize)
    (entered : upload.first = session.sendData {})
    (server :
      ServerStarted size [] path upload.second serverSession host
        introPacket writer)
    (many : 65535 * size ≤ content.length) :
    ∃ reached, Relation.ReflTransGen Step upload reached ∧
      reached.first.control = .ended .returned ∧
        ∃ opened, ServerWaits size content path 65535 reached.second
          opened := by
  obtain ⟨positive, fitsBuffer⟩ := server.fitsBuffer
  have count : 65535 ≤ content.length / size :=
    (Nat.le_div_iff_mul_le positive).mpr many
  have full : ∀ index < content.length / size,
      ¬ (chunk size content index).length < size := by
    intro index below short
    have last := (length_chunk_lt_iff positive content index).mp short
    simp only [chunkCount] at last
    omega
  have short :
      (chunk size content (content.length / size)).length < size :=
    (length_chunk_lt_iff positive content _).mpr le_rfl
  obtain ⟨middle, steps, lockstep⟩ :=
    (Lockstep.start client entered server).run fitsBuffer
      (show 65535 < 65536 by omega)
      fun index below => full index (by omega)
  obtain ⟨sending, clientWaits⟩ := lockstep.client
  have onWire : ∀ number,
      ∃ reciever,
        (reciever, (ackOf number).makeRaw) ∈ middle.second.sent := by
    intro number
    rw [← ackOf_mod]
    have bound := Nat.mod_lt number (show 0 < 65536 by omega)
    rcases Nat.eq_zero_or_pos (number % 65536) with zero | later
    · obtain ⟨reciever, early⟩ := server.zeroOnWire
      rw [zero]
      exact ⟨reciever, lockstep.earlier _ early⟩
    · exact lockstep.acknowledged _ later (by omega)
  obtain ⟨more, sum⟩ := Nat.exists_eq_add_of_le count
  rw [sum] at full short
  obtain ⟨client', sending', laps, last⟩ := clientWaits.run onWire full
  obtain ⟨reciever, member⟩ := onWire (65535 + more + 1)
  obtain ⟨final, hears, sameServer, returned⟩ :=
    last.returns short member
  refine ⟨final, (steps.trans laps).tail hears, returned, ?_⟩
  rw [sameServer]
  exact lockstep.server

/-- A server which waits for block 65536 has not returned. -/
theorem ServerWaits.not_returned
    {server : Handler}
    (waiting : ServerWaits size content path count server writer) :
    server.control ≠ .ended .returned := by
  rcases waiting.waits with ⟨_, _, _, _, _, waits⟩ | ⟨_, _, waits⟩
  · simp [waits]
  · simp [waits]

/--
Exactly when the success of the client means that the server has stored
everything: the handshake used an OACK, or there are at most 65535 blocks.
-/
theorem client_returned_means_stored_iff
    (client : ClientReady size content session blksize)
    {server : Handler}
    (started :
      ServerStarted size options path server serverSession host
        introPacket writer) :
    (∀ event reached,
        Relation.ReflTransGen Step ⟨session.sendData event, server⟩
            reached →
          reached.first.control = .ended .returned →
            reached.second.control = .ended .returned ∧
              reached.second.session.storage.files.content path =
                some content) ↔
      options ≠ [] ∨ content.length < 65535 * size := by
  constructor
  · intro always
    by_contra ambiguous
    rw [not_or, not_not, not_lt] at ambiguous
    obtain ⟨rfl, many⟩ := ambiguous
    let upload : Pair := ⟨session.sendData {}, server⟩
    have begins : upload.first = session.sendData {} := rfl
    obtain ⟨reached, steps, returned, _, waits⟩ :=
      client_returns_unstored client begins started many
    exact waits.not_returned (always {} reached steps returned).1
  · intro unambiguous event reached steps returned
    exact
      stored_of_client_returned
        ⟨⟨_, _, event, client, rfl⟩, ⟨_, _, _, _, started⟩⟩
        unambiguous steps returned

/-- For a small input the success of the client means what it should. -/
theorem client_returned_means_stored_small :
    (text "hello").length < 65535 * 512 ∧
      ∀ event reached,
        Relation.ReflTransGen Step
            ⟨(smallClient (text "hello")).sendData event,
              smallServer.followOnWRQ {} smallRequest⟩ reached →
          reached.first.control = .ended .returned →
            reached.second.control = .ended .returned ∧
              reached.second.session.storage.files.content (text "r/f") =
                some (text "hello") := by
  have few : (text "hello").length < 65535 * 512 := by
    decide
  exact
    ⟨few, (client_returned_means_stored_iff
      (smallClient_ready (text "hello")) smallServer_started).mpr
        (Or.inr few)⟩

/-- An input of 65536 blocks of 512 bytes, the last one of a single byte. -/
def longInput : Bytes :=
  List.replicate (65535 * 512 + 1) 97

/--
The client uploads `longInput` and returns, while the server still waits for
the last block and its file lacks the last byte.
-/
theorem client_returned_before_last_block :
    ∃ reached,
      Relation.ReflTransGen Step
          ⟨(smallClient longInput).sendData {},
            smallServer.followOnWRQ {} smallRequest⟩ reached ∧
        reached.first.control = .ended .returned ∧
          reached.second.control ≠ .ended .returned ∧
            reached.second.session.storage.files.content (text "r/f") ≠
              some longInput := by
  let start : Pair :=
    ⟨(smallClient longInput).sendData {},
      smallServer.followOnWRQ {} smallRequest⟩
  have begins : start.first = (smallClient longInput).sendData {} := rfl
  have long : longInput.length = 65535 * 512 + 1 :=
    List.length_replicate
  obtain ⟨reached, steps, returned, opened, waiting⟩ :=
    client_returns_unstored (smallClient_ready longInput) begins
      smallServer_started (by omega)
  refine ⟨reached, steps, returned, waiting.not_returned, ?_⟩
  intro stored
  rcases waiting.waits with ⟨zero, _⟩ | ⟨_, isOpen, _⟩
  · omega
  · have partly := waiting.stores.content isOpen
    rw [waiting.samePath, stored, Option.some.injEq] at partly
    have shorter := congrArg List.length partly
    rw [firstChunks_eq_take, List.length_take, long] at shorter
    omega

end IsaTftp.Upload
