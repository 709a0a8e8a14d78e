import IsaTftp.Traffic
import IsaTftp.Upload.Undisturbed

/-!
# Uploads with losses

The client sends every block once, but the handler repeats its ACKs.  So an
ACK may be lost, as long as some of them arrive in time; a block may not.  The
ACK of the last block is sent once too, when everything is stored already.
-/

namespace IsaTftp.Upload

open IsaTftp.Wire
open IsaTftp.Files
open IsaTftp.Transfer
open IsaTftp.Client
open IsaTftp.Server
open IsaTftp.Library.Chunking

variable {size count retries : Nat} {content : Bytes} {path : Path}
variable {before : FileSystem} {address : Address}

/-! ## The client -/

/-- The client waits for the ACK of its block, after so many retries. -/
def Awaits (size : Nat) (content : Bytes) (address : Address)
    (count retries : Nat) (client : TftpClient) : Prop :=
  ∃ sending, client.control = .awaitAck sending retries 0 ∧
    Offers size content address count
      ⟨client.session, .awaitAck sending 0 0⟩ sending

theorem Offers.awaits
    {client : TftpClient} {sending : Client.Sending}
    (offers : Offers size content address count client sending) :
    Awaits size content address count 0 client := by
  obtain ⟨session, control⟩ := client
  obtain rfl : control = _ := offers.waits.waits
  exact ⟨sending, rfl, offers⟩

/-- The retries do not matter when the ACK arrives. -/
theorem Offers.step_eq
    {session : Client.Session} {sending : Client.Sending}
    (offers :
      Offers size content address count
        ⟨session, .awaitAck sending 0 0⟩ sending)
    (retries : Nat) :
    TftpClient.step ⟨session, .awaitAck sending retries 0⟩
        (deliver address (ackOf (count + 1)).makeRaw) =
      TftpClient.step ⟨session, .awaitAck sending 0 0⟩
        (deliver address (ackOf (count + 1)).makeRaw) := by
  obtain rfl : session.serverAddress = address := offers.server
  have heard :
      recievePacketFrom session.serverAddress session.udp 0
          (deliver session.serverAddress
            (ackOf (count + 1)).makeRaw).reception =
        (session.udp, .delivered (ackOf (count + 1)).makeRaw) :=
    recievePacketFrom_deliver _ _ (by simp [UdpClient.maxPacketSize])
  have received :
      classifyAck (text "Server") sending.blockNumber.toNat
          (ackOf (count + 1)).makeRaw = .ok .received := by
    rw [offers.waits.number]
    exact classifyAck_makeRaw _ (ackOf (count + 1))
  simp only [TftpClient.step, Client.Session.stepAwaitAck,
    Client.Session.recievePacketFromServer, heard, received]

namespace Awaits

variable {client : TftpClient}

theorem server (awaits : Awaits size content address count retries client) :
    client.session.serverAddress = address := by
  obtain ⟨sending, _, offers⟩ := awaits
  exact offers.server

/-- The client hears the ACK of a full block and sends the next one. -/
theorem next (awaits : Awaits size content address count retries client)
    (full : ¬ (chunk size content count).length < size) :
    Awaits size content address (count + 1) 0
        (client.step (deliver address (ackOf (count + 1)).makeRaw)) ∧
      (client.step (deliver address (ackOf (count + 1)).makeRaw)).sent =
        client.sent ++
          [(address, (blockAfter size content (count + 1)).makeRaw)] := by
  obtain ⟨sending, waits, offers⟩ := awaits
  obtain ⟨session, control⟩ := client
  obtain rfl : control = _ := waits
  rw [offers.step_eq retries]
  obtain ⟨onward, offersNext⟩ := offers.next full
  obtain ⟨_, sends⟩ := offers.waits.next full
  obtain rfl : session.serverAddress = address := offers.server
  constructor
  · exact offersNext.awaits
  · rw [TftpClient.sent, sends]
    rfl

/-- The client hears the ACK of its last block and returns. -/
theorem finish (awaits : Awaits size content address count retries client)
    (short : (chunk size content count).length < size) :
    (client.step
          (deliver address (ackOf (count + 1)).makeRaw)).control =
        .ended .returned ∧
      (client.step
          (deliver address (ackOf (count + 1)).makeRaw)).sent =
        client.sent := by
  obtain ⟨sending, waits, offers⟩ := awaits
  obtain ⟨session, control⟩ := client
  obtain rfl : control = _ := waits
  rw [offers.step_eq retries]
  obtain rfl : session.serverAddress = address := offers.server
  have last : sending.lastPacketSent = true := by
    rw [offers.waits.last]
    exact decide_eq_true short
  have hears := offers.waits.hear
  simp only [Client.Session.afterAck, Client.Session.checkForSigintWRQ,
    Event.sigintAt, deliver, Bool.false_eq_true, if_false, last,
    if_true] at hears
  rw [deliver, hears]
  exact ⟨rfl, rfl⟩

/-- After a timeout the client waits on, without a word. -/
theorem waitsOn (awaits : Awaits size content address count retries client)
    (fewer : retries + 1 < maxRetries) :
    Awaits size content address count (retries + 1) (client.step {}) ∧
      (client.step {}).sent = client.sent := by
  obtain ⟨sending, waits, offers⟩ := awaits
  obtain ⟨session, control⟩ := client
  obtain rfl : control = _ := waits
  have result :
      TftpClient.step ⟨session, .awaitAck sending retries 0⟩ {} =
        ⟨session.increaseTimeout, .awaitAck sending (retries + 1) 0⟩ := by
    simp only [TftpClient.step, Client.Session.stepAwaitAck,
      Client.Session.recievePacketFromServer, recievePacketFrom, receive,
      Client.Session.awaitAckAgain, fewer, if_true,
      Client.Session.checkForSigintWRQ, Event.sigintAt, Bool.false_eq_true,
      if_false]
  rw [result]
  constructor
  · refine ⟨sending, rfl, ?_⟩
    constructor
    · exact
        { waits := rfl
          sameSize := offers.waits.sameSize
          octet := offers.waits.octet
          number := offers.waits.number
          last := offers.waits.last
          more := offers.waits.more
          sent := offers.waits.sent }
    · exact offers.server
    · exact offers.sent
  · rfl

end Awaits

/-! ## The handler -/

variable {handler : Handler}

/-- The handler waits for the next block, after so many retries. -/
def HandlerAwaits (size : Nat) (content : Bytes) (path : Path)
    (count retries : Nat) (handler : Handler) : Prop :=
  ∃ writer, handler.control = .awaitData writer count retries 0 ∧
    ServerWaits size content path count
      ⟨handler.session, .awaitData writer count 0 0⟩ writer

/-- The handler has the whole file and has returned; nothing else changed. -/
structure Kept (before : FileSystem) (path : Path) (content : Bytes)
    (handler : Handler) : Prop where
  returned : handler.control = .ended .returned
  stored : handler.session.storage.files.content path = some content
  changes : before.ChangesAt path handler.session.storage.files

/-- The handler has accepted the block after `count` blocks. -/
inductive Accepted (before : FileSystem) (size : Nat) (content : Bytes)
    (path : Path) (count : Nat) (handler : Handler) : Prop where
  | more (full : ¬ (chunk size content count).length < size)
      (awaits : HandlerAwaits size content path (count + 1) 0 handler)
      (changes : before.ChangesAt path handler.session.storage.files)
  | all (short : (chunk size content count).length < size)
      (kept : Kept before path content handler)

/-- A block arrives, is stored and acknowledged. -/
theorem ServerWaits.accepts
    {server : Handler} {writer : Writer}
    (waiting : ServerWaits size content path count server writer)
    (fits : Fits size content)
    (within : count < chunkCount size content)
    (changes : before.ChangesAt path server.session.storage.files) :
    Accepted before size content path count
        (server.step
          (deliver server.session.clientAddress
            (blockAfter size content count).makeRaw)) ∧
      (server.step
          (deliver server.session.clientAddress
            (blockAfter size content count).makeRaw)).sent =
        server.sent ++
          [(server.session.clientAddress,
            (ackOf (count + 1)).makeRaw)] := by
  have few : count + 1 < 65536 := by
    have most := fits.few
    omega
  by_cases short : (chunk size content count).length < size
  · obtain ⟨returned, stored, sent⟩ :=
      waiting.complete fits.buffer few short
    have whole : chunkCount size content ≤ count + 1 :=
      (length_chunk_lt_iff fits.positive content count).mp short
    have goesOn :
        (server.step
          (deliver server.session.clientAddress
            (blockAfter size content count).makeRaw)).stopsProcess =
          false := by
      simp [Handler.stopsProcess, returned]
    refine ⟨.all short ?_, sent⟩
    constructor
    · exact returned
    · rw [stored, firstChunks_of_chunkCount_le fits.positive whole]
    · exact changes.trans (waiting.changes _ goesOn)
  · obtain ⟨⟨onward, waits⟩, _, sent⟩ :=
      waiting.next fits.buffer few short
    refine ⟨.more short ?_ ?_, sent⟩
    · rcases waits.waits with ⟨zero, _⟩ | ⟨_, _, control⟩
      · cases zero
      · refine ⟨onward, control, ?_⟩
        rw [← control]
        exact waits
    · exact changes.trans (waiting.changes _ waits.goesOn)

/-- The retries do not matter when the block arrives. -/
theorem ServerWaits.step_eq
    {session : Server.Session} {writer : Writer}
    (waiting :
      ServerWaits size content path count
        ⟨session, .awaitData writer count 0 0⟩ writer)
    (fitsBuffer : size + 4 ≤ UdpClient.maxPacketSize)
    (few : count + 1 < 65536) (retries : Nat) :
    Handler.step ⟨session, .awaitData writer count retries 0⟩
        (deliver session.clientAddress
          (blockAfter size content count).makeRaw) =
      Handler.step ⟨session, .awaitData writer count 0 0⟩
        (deliver session.clientAddress
          (blockAfter size content count).makeRaw) := by
  obtain rfl : session.blksize = size := waiting.sameSize
  have bound := length_chunk_le session.blksize content count
  have heard :
      recievePacketFrom session.clientAddress session.udp 0
          (deliver session.clientAddress
            (blockAfter session.blksize content count).makeRaw).reception =
        (session.udp,
          .delivered
            (blockAfter session.blksize content count).makeRaw) := by
    apply recievePacketFrom_deliver
    rw [DataPacket.length_makeRaw, blockAfter]
    dsimp only
    omega
  have number :
      (blockAfter session.blksize content count).blockNumber.toNat =
        count + 1 :=
    UInt16.toNat_ofNat_of_lt few
  have accepted :=
    classifyData_makeRaw (text "Server") (count + 1)
      (blockAfter session.blksize content count) bound
  rw [number] at accepted
  simp only [Handler.step, Server.Session.stepAwaitData,
    Server.Session.recievePacketFromClient, heard, accepted]

namespace HandlerAwaits

/-- The handler hears the block for which it waits. -/
theorem accepts
    (awaits : HandlerAwaits size content path count retries handler)
    (fits : Fits size content)
    (within : count < chunkCount size content)
    (changes : before.ChangesAt path handler.session.storage.files) :
    Accepted before size content path count
        (handler.step
          (deliver handler.session.clientAddress
            (blockAfter size content count).makeRaw)) ∧
      (handler.step
          (deliver handler.session.clientAddress
            (blockAfter size content count).makeRaw)).sent =
        handler.sent ++
          [(handler.session.clientAddress,
            (ackOf (count + 1)).makeRaw)] := by
  obtain ⟨writer, control, waiting⟩ := awaits
  obtain ⟨session, here⟩ := handler
  obtain rfl : here = _ := control
  have few : count + 1 < 65536 := by
    have most := fits.few
    omega
  rw [waiting.step_eq fits.buffer few retries]
  exact waiting.accepts fits within changes

/-- After a timeout the handler repeats its ACK. -/
theorem repeats
    (awaits : HandlerAwaits size content path count retries handler)
    (fewer : retries + 1 < maxRetries) :
    HandlerAwaits size content path count (retries + 1)
        (handler.step {}) ∧
      (handler.step {}).sent =
          handler.sent ++
            [(handler.session.clientAddress, (ackOf count).makeRaw)] ∧
        (handler.step {}).session.storage = handler.session.storage := by
  obtain ⟨writer, control, waiting⟩ := awaits
  obtain ⟨session, here⟩ := handler
  obtain rfl : here = _ := control
  have result :
      Handler.step ⟨session, .awaitData writer count retries 0⟩ {} =
        ⟨session.increaseTimeout.send (ackOf count).makeRaw,
          .awaitData writer count (retries + 1) 0⟩ := by
    simp only [Handler.step, Server.Session.stepAwaitData,
      Server.Session.recievePacketFromClient, recievePacketFrom, receive,
      Server.Session.awaitDataAgain, fewer, if_true]
    rfl
  rw [result]
  constructor
  · refine ⟨writer, rfl, ?_⟩
    constructor
    · rcases waiting.waits with
        ⟨_, _, _, _, _, other⟩ | ⟨positive, isOpen, _⟩
      · cases other
      · exact Or.inr ⟨positive, isOpen, rfl⟩
    · exact waiting.sameSize
    · exact waiting.samePath
    · exact waiting.stores
    · exact waiting.blocks
  · exact ⟨rfl, rfl⟩

end HandlerAwaits

/-! ## The phases of an upload -/

variable {traffic : Traffic} {loss : Loss} {lost : Nat}

/-- The ACK of the full block after `count` blocks is on the way. -/
structure Acked (before : FileSystem) (size : Nat) (content : Bytes)
    (path : Path) (address : Address) (count lost : Nat)
    (traffic : Traffic) : Prop where
  client : Awaits size content address count lost traffic.client
  handler : HandlerAwaits size content path (count + 1) lost
    traffic.handler
  full : ¬ (chunk size content count).length < size
  carried : traffic.toClient = some (ackOf (count + 1)).makeRaw
  changes : before.ChangesAt path traffic.handler.session.storage.files

/-- The ACK of the last block is on the way. -/
structure LastAcked (before : FileSystem) (size : Nat) (content : Bytes)
    (path : Path) (address : Address) (traffic : Traffic) : Prop where
  client : ∃ count < chunkCount size content,
    Awaits size content address count 0 traffic.client ∧
      (chunk size content count).length < size ∧
        traffic.toClient = some (ackOf (count + 1)).makeRaw
  handler : Kept before path content traffic.handler

/-- How a turn ends in which the client has sent this block. -/
inductive BlockSent (before : FileSystem) (size : Nat) (content : Bytes)
    (path : Path) (address : Address) (count : Nat) (traffic : Traffic) :
    Prop where
  | acked (acked : Acked before size content path address count 0 traffic)
  | last (last : LastAcked before size content path address traffic)

/-- The block which the client has sent arrives. -/
theorem BlockSent.of_accepted
    (client :
      Awaits size content address count 0
        (traffic.clientAfter address loss))
    (answer :
      traffic.toHandler address loss =
        some (blockAfter size content count).makeRaw)
    (kept : loss.toHandler = false)
    (within : count < chunkCount size content)
    (accepts :
      Accepted before size content path count
          (traffic.handler.step
            (deliver traffic.handler.session.clientAddress
              (blockAfter size content count).makeRaw)) ∧
        (traffic.handler.step
            (deliver traffic.handler.session.clientAddress
              (blockAfter size content count).makeRaw)).sent =
          traffic.handler.sent ++
            [(traffic.handler.session.clientAddress,
              (ackOf (count + 1)).makeRaw)]) :
    BlockSent before size content path address count
      (traffic.turn address loss) := by
  have step := Traffic.handlerAfter_of_kept kept answer
  rw [← step] at accepts
  obtain ⟨accepted, sent⟩ := accepts
  have carried :
      (traffic.turn address loss).toClient =
        some (ackOf (count + 1)).makeRaw := by
    show news traffic.handler.sent
      (traffic.handlerAfter address loss).sent = _
    rw [sent, news_append]
  cases accepted with
  | more full awaits changes =>
      apply BlockSent.acked
      constructor
      · exact client
      · exact awaits
      · exact full
      · exact carried
      · exact changes
  | all short everything =>
      apply BlockSent.last
      constructor
      · exact ⟨count, within, client, short, carried⟩
      · exact everything

namespace Acked

/-- The ACK arrives, and the client sends the next block. -/
theorem hear
    (acked :
      Acked before size content path address count lost traffic)
    (kept : loss.toClient = false) :
    Awaits size content address (count + 1) 0
        (traffic.clientAfter address loss) ∧
      traffic.toHandler address loss =
        some (blockAfter size content (count + 1)).makeRaw := by
  obtain ⟨awaits, sent⟩ := acked.client.next acked.full
  have heard :
      traffic.clientAfter address loss =
        traffic.client.step
          (deliver address (ackOf (count + 1)).makeRaw) := by
    rw [Traffic.clientAfter, acked.carried, kept, arrival_kept]
  rw [← heard] at awaits sent
  constructor
  · exact awaits
  · rw [Traffic.toHandler, sent, news_append]

/-- The ACK is lost, and the client waits on. -/
theorem miss
    (acked :
      Acked before size content path address count lost traffic)
    (missed : loss.toClient = true) (fewer : lost + 1 < maxRetries) :
    Awaits size content address count (lost + 1)
        (traffic.clientAfter address loss) ∧
      traffic.toHandler address loss = none := by
  obtain ⟨awaits, sent⟩ := acked.client.waitsOn fewer
  have step :
      traffic.clientAfter address loss = traffic.client.step {} := by
    rw [Traffic.clientAfter, missed, arrival_lost]
  rw [← step] at awaits sent
  constructor
  · exact awaits
  · rw [Traffic.toHandler, sent, news_self]

/-- Everything arrives. -/
theorem goesOn
    (acked :
      Acked before size content path address count lost traffic)
    (fits : Fits size content)
    (within : count + 1 < chunkCount size content)
    (heard : loss.toClient = false) (kept : loss.toHandler = false) :
    BlockSent before size content path address (count + 1)
      (traffic.turn address loss) := by
  obtain ⟨client, answer⟩ := acked.hear heard
  apply BlockSent.of_accepted client answer kept within
  exact acked.handler.accepts fits within acked.changes

/-- The ACK is lost, and the handler repeats it. -/
theorem again
    (acked :
      Acked before size content path address count lost traffic)
    (missed : loss.toClient = true) (fewer : lost + 1 < maxRetries) :
    Acked before size content path address count (lost + 1)
      (traffic.turn address loss) := by
  obtain ⟨client, nothing⟩ := acked.miss missed fewer
  obtain ⟨handler, sent, storage⟩ := acked.handler.repeats fewer
  have step :
      traffic.handlerAfter address loss = traffic.handler.step {} := by
    rw [Traffic.handlerAfter, nothing, arrival_none]
  rw [← step] at handler sent storage
  constructor
  · exact client
  · exact handler
  · exact acked.full
  · show news traffic.handler.sent
      (traffic.handlerAfter address loss).sent = _
    rw [sent, news_append]
  · show before.ChangesAt path
      (traffic.handlerAfter address loss).session.storage.files
    rw [storage]
    exact acked.changes

end Acked

/-- A handler which has returned does nothing more. -/
theorem Kept.handlerAfter
    (kept : Kept before path content traffic.handler) :
    traffic.handlerAfter address loss = traffic.handler := by
  rw [Traffic.handlerAfter, Handler.step, kept.returned]

/-- The last ACK arrives, and both are done. -/
theorem LastAcked.finish
    (last : LastAcked before size content path address traffic)
    (heard : loss.toClient = false) :
    Done before path content (traffic.turn address loss).conversation ∧
      (traffic.turn address loss).toClient = none := by
  obtain ⟨count, _, awaits, short, carried⟩ := last.client
  obtain ⟨returned, _⟩ := awaits.finish short
  have client :
      traffic.clientAfter address loss =
        traffic.client.step
          (deliver address (ackOf (count + 1)).makeRaw) := by
    rw [Traffic.clientAfter, carried, heard, arrival_kept]
  have handler :
      traffic.handlerAfter address loss = traffic.handler :=
    last.handler.handlerAfter
  rw [← client] at returned
  constructor
  · constructor
    · exact returned
    · show (traffic.handlerAfter address loss).control = _
      rw [handler]
      exact last.handler.returned
    · show (traffic.handlerAfter address loss).session.storage.files.content
        path = _
      rw [handler]
      exact last.handler.stored
    · show before.ChangesAt path
        (traffic.handlerAfter address loss).session.storage.files
      rw [handler]
      exact last.handler.changes
  · show news traffic.handler.sent
      (traffic.handlerAfter address loss).sent = none
    rw [handler, news_self]

/-- When both are done, they stay done. -/
theorem Done.turn
    (done : Done before path content traffic.conversation) :
    (traffic.turn address loss).conversation = traffic.conversation := by
  have ended : traffic.client.control = .ended .returned := done.client
  have client : traffic.clientAfter address loss = traffic.client := by
    rw [Traffic.clientAfter, TftpClient.step, ended]
  have handlerEnded : traffic.handler.control = .ended .returned := done.handler
  have handler : traffic.handlerAfter address loss = traffic.handler := by
    rw [Traffic.handlerAfter, Handler.step, handlerEnded]
  simp only [Traffic.conversation, Traffic.turn, client, handler]

end IsaTftp.Upload
