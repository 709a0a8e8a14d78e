import IsaTftp.Files.Yields
import IsaTftp.Server.Replies
import IsaTftp.Server.Transparency
import IsaTftp.Server.Waits

/-!
# The size which an OACK announces

The loop which measures the file for `tsize` writes its result into a copy of
the option, so that the OACK repeats the value of the request.  A transfer
which completes has sent what successive reads of the file return; the loop
itself does not end if the file is one full block and no more.
-/

namespace IsaTftp.Server

open IsaTftp.Wire
open IsaTftp.Files
open IsaTftp.Transfer
open IsaTftp.Library.Runs
open IsaTftp.Library.Chunking

/-! ## Payload -/

/-- The bytes which the DATA packets among these datagrams carry together. -/
def payloadBytes (sent : List Datagram) : Nat :=
  ((dataSent sent).map fun datagram => (datagram.2.drop 4).length).sum

theorem payloadBytes_congr
    {sent other : List Datagram} (same : dataSent sent = dataSent other) :
    payloadBytes sent = payloadBytes other := by
  rw [payloadBytes, payloadBytes, same]

@[simp]
theorem payloadBytes_append_data (sent : List Datagram)
    (packet : DataPacket) (reciever : Address) :
    payloadBytes (sent ++ [(reciever, packet.makeRaw)]) =
      payloadBytes sent + packet.data.length := by
  have carried : (packet.makeRaw.drop 4).length = packet.data.length :=
    rfl
  rw [payloadBytes, dataSent_append_data, List.map_append,
    List.sum_append, List.map_singleton, List.sum_singleton, carried]
  rfl

/-! ## What a transfer has sent so far -/

/-- What the reader still yields makes a whole transfer. -/
def Owes (files : FileSystem) (size : Nat) (first reader : Reader)
    (blocks bytes : Nat) : Prop :=
  ∀ count total, reader.Yields files size count total →
    first.Yields files size (blocks + count) (bytes + total)

/-- What was sent so far is the beginning of what the first reader yields. -/
def Control.Accounts (control : Control) (files : FileSystem)
    (size : Nat) (first : Reader) (bytes : Nat) : Prop :=
  match control with
  | .awaitOackAck reader _ _ => Owes files size first reader 0 bytes
  | .awaitAck sending _ _ =>
      sending.blockNumber ≤ blockNumbers ∧
        if sending.lastPacketSent then
          first.Yields files size sending.blockNumber bytes
        else
          Owes files size first sending.reader sending.blockNumber bytes
  | .ended .returned =>
      ∃ count ≤ blockNumbers, first.Yields files size count bytes
  | .ended _ => True
  | _ => False

/-- A handler which follows on a RRQ for this file. -/
structure Handler.Accounts (handler : Handler) (files : FileSystem)
    (size : Nat) (first : Reader) : Prop where
  sameFiles : handler.outcome = none →
    handler.session.storage.files = files
  sameSize : handler.session.blksize = size
  accounts :
    handler.control.Accounts files size first (payloadBytes handler.sent)

section Steps

variable {files : FileSystem} {size : Nat} {first : Reader}

/-- A handler which is over but has not returned. -/
theorem Handler.Accounts.ended
    {handler : Handler} (sameSize : handler.session.blksize = size)
    {outcome : Outcome} (isOver : handler.outcome = some outcome)
    (fails : outcome ≠ .returned) :
    handler.Accounts files size first := by
  obtain ⟨session, control⟩ := handler
  cases control with
  | ended other =>
      cases isOver
      refine ⟨nofun, sameSize, ?_⟩
      cases outcome with
      | returned => exact absurd rfl fails
      | _ => trivial
  | _ => cases isOver

theorem Handler.Accounts.raise
    (session : Session) (sameSize : session.blksize = size)
    (exception : Exception) :
    (session.raise exception).Accounts files size first :=
  .ended sameSize rfl nofun

theorem Handler.Accounts.checkForSigintRRQ
    (session : Session) (sameSize : session.blksize = size)
    (host : HostChoice) (reader : Reader) :
    (session.checkForSigintRRQ host reader).Accounts files size first := by
  unfold Session.checkForSigintRRQ Session.deleteAndTerminate
  split
  · exact .ended sameSize rfl nofun
  · exact .ended sameSize rfl nofun

/-- The next block. -/
theorem Handler.Accounts.sendBlock
    (session : Session) {reader : Reader} {blocks : Nat}
    (sameFiles : session.storage.files = files)
    (sameSize : session.blksize = size)
    (owes :
      Owes files size first reader blocks
        (payloadBytes session.udp.sent))
    (few : blocks < blockNumbers) (host : HostChoice) :
    (session.sendBlock host reader (blocks + 1)).Accounts files size
      first := by
  unfold Session.sendBlock
  split
  · rename_i exception storage _
    exact .raise (session.withStorage storage) sameSize exception
  · rename_i chunk next storage read
    refine ⟨fun _ => ?_, sameSize, ?_⟩
    · rw [← sameFiles]
      exact Reader.files_of_readFile read
    · refine ⟨few, ?_⟩
      rw [sameSize] at read
      have sent :
          payloadBytes
              (session.udp.sent ++
                [(session.clientAddress,
                  DataPacket.makeRaw
                    ⟨UInt16.ofNat (blocks + 1), chunk⟩)]) =
            payloadBytes session.udp.sent + chunk.length :=
        payloadBytes_append_data _ _ _
      simp only [Handler.sent, Session.send_udp, UdpClient.sent_send,
        Session.withStorage_udp, Session.withStorage_clientAddress, sent,
        sameSize, decide_eq_true_eq]
      split_ifs with short
      · exact owes _ _ (.last sameFiles read short)
      · intro count total later
        have whole := owes _ _ (.more sameFiles read short later)
        rw [Nat.add_assoc, Nat.add_comm 1 count, Nat.add_assoc]
        exact whole

/-- The head of the loop, after some talk. -/
theorem Handler.Accounts.again
    {session next : Session} {control : Control}
    (here : Handler.Accounts ⟨session, control⟩ files size first)
    (talks : session.Talks next) (host : HostChoice) (retries : Nat) :
    (next.again host control retries).Accounts files size first := by
  have sameSize : next.blksize = size := talks.blksize.trans here.sameSize
  have sameBytes : payloadBytes next.udp.sent =
      payloadBytes session.udp.sent :=
    payloadBytes_congr talks.data
  have accounts := here.accounts
  have sameFiles (waits : Handler.outcome ⟨session, control⟩ = none) :
      next.storage.files = files := by
    rw [talks.storage]
    exact here.sameFiles waits
  cases control with
  | awaitOackAck reader =>
      unfold Session.again Session.awaitOackAckAgain
      dsimp only
      split_ifs
      · refine ⟨fun _ => sameFiles rfl, sameSize, ?_⟩
        show Control.Accounts _ files size first
          (payloadBytes next.udp.sent)
        rw [sameBytes]
        exact accounts
      · exact .raise next sameSize _
  | awaitAck sending =>
      unfold Session.again Session.awaitAckAgain
      dsimp only
      split_ifs with more last
      · refine ⟨fun _ => sameFiles rfl, sameSize, ?_⟩
        show Control.Accounts _ files size first
          (payloadBytes next.udp.sent)
        rw [sameBytes]
        exact accounts
      · obtain ⟨few, yields⟩ := accounts
        rw [if_pos last] at yields
        refine ⟨nofun, sameSize, _, few, ?_⟩
        show first.Yields files size _ (payloadBytes next.udp.sent)
        rw [sameBytes]
        exact yields
      · exact .raise next sameSize _
  | awaitFirstData => exact accounts.elim
  | awaitData => exact accounts.elim
  | ended outcome =>
      refine ⟨nofun, sameSize, ?_⟩
      show Control.Accounts _ files size first (payloadBytes next.udp.sent)
      rw [sameBytes]
      exact accounts

/-- The reply to a foreign sender carries no payload. -/
theorem Handler.Accounts.refuses
    {session : Session} {control : Control}
    (here : Handler.Accounts ⟨session, control⟩ files size first)
    (sender : Address) (foreign : Nat) :
    Handler.Accounts ⟨session.reply sender, control.withForeign foreign⟩
      files size first where
  sameFiles waits := by
    cases control with
    | ended => cases waits
    | _ => exact here.sameFiles rfl
  sameSize := here.sameSize
  accounts := by
    have accounts := here.accounts
    have sameBytes :
        payloadBytes (session.reply sender).udp.sent =
          payloadBytes session.udp.sent :=
      payloadBytes_congr
        (dataSent_append_of_opcode unknownSender.getOpcode_makeRaw
          (by decide) _ _)
    show (control.withForeign foreign).Accounts files size first
      (payloadBytes (session.reply sender).udp.sent)
    rw [sameBytes]
    cases control with
    | awaitFirstData => exact accounts.elim
    | awaitData => exact accounts.elim
    | _ => exact accounts

/-- Such a handler writes no file. -/
theorem Handler.Accounts.writer_ne
    {session : Session} {control : Control}
    (here : Handler.Accounts ⟨session, control⟩ files size first)
    {writer : Writer} : control.writer ≠ some writer := by
  have accounts := here.accounts
  cases control with
  | awaitFirstData => exact accounts.elim
  | awaitData => exact accounts.elim
  | _ => exact Option.some_ne_none writer ∘ Eq.symm

/-- One event. -/
theorem Handler.Accounts.step
    {handler : Handler} (here : handler.Accounts files size first)
    (event : Event) :
    (handler.step event).Accounts files size first := by
  obtain ⟨session, control⟩ := handler
  have sameSize : session.blksize = size := here.sameSize
  have step := Handler.step_cases ⟨session, control⟩ event
  generalize Handler.step ⟨session, control⟩ event = next at step ⊢
  cases step with
  | refuses sender foreign => exact here.refuses sender foreign
  | again retries => exact here.again (.refl session) event.host retries
  | slowerAgain retries =>
      have talks := (Session.Talks.refl session).increaseTimeout
      exact here.again talks event.host retries
  | raises _ exception => exact .raise session sameSize exception
  | interruptsRRQ =>
      exact .checkForSigintRRQ session sameSize event.host _
  | begins waits =>
      cases waits
      exact
        .sendBlock session.timeoutReset (here.sameFiles rfl) sameSize
          here.accounts (by decide) event.host
  | acknowledged waits delivered received =>
      cases waits
      obtain ⟨few, accounts⟩ := here.accounts
      have fits := lt_of_ackIn (classifyAck_received_iff.mp received)
      unfold Session.afterAck
      split_ifs with last
      · rw [if_pos last] at accounts
        exact ⟨nofun, sameSize, _, few, accounts⟩
      · rw [if_neg last] at accounts
        exact
          .sendBlock session.timeoutReset (here.sameFiles rfl) sameSize
            accounts fits event.host
  | isOver => exact here
  | abandons writes => exact absurd writes here.writer_ne
  | interruptsWRQ writes => exact absurd writes here.writer_ne
  | stores writes => exact absurd writes here.writer_ne

/-- What a transfer which has returned has sent. -/
theorem Handler.Accounts.run
    {start : Handler} (begins : start.Accounts files size first)
    {events : List Event}
    (returned :
      (run Handler.step start events).outcome = some .returned) :
    ∃ count ≤ blockNumbers,
      first.Yields files size count
        (payloadBytes (Library.Runs.run Handler.step start events).sent) := by
  have reached :=
    run_invariant
      (fun handler : Handler => handler.Accounts files size first)
      (fun _ event here => Handler.Accounts.step here event) begins events
  generalize Library.Runs.run Handler.step start events = last
    at reached returned ⊢
  obtain ⟨session, control⟩ := last
  cases control with
  | ended outcome =>
      cases returned
      exact reached.accounts
  | _ => cases returned

end Steps

/-! ## Completing a transfer -/

/-- Nothing comes. -/
def silence : Event where
  reception := .timeout

/-- The last block needs no ACK. -/
theorem run_silence
    (session : Session) {sending : Sending}
    (last : sending.lastPacketSent = true) (retries left : Nat)
    (sum : retries + left + 1 = maxRetries) :
    let reached :=
      run Handler.step ⟨session, .awaitAck sending retries 0⟩
        (List.replicate (left + 1) silence)
    reached.outcome = some .returned ∧
      reached.sent = session.udp.sent := by
  induction left generalizing session retries with
  | zero =>
      have over_ : ¬ retries + 1 < maxRetries := by omega
      have ends_ :
          Handler.step ⟨session, .awaitAck sending retries 0⟩ silence =
            ⟨session.increaseTimeout.timeoutReset, .ended .returned⟩ := by
        show session.increaseTimeout.awaitAckAgain sending (retries + 1) = _
        rw [Session.awaitAckAgain, if_neg over_, if_pos last]
      rw [List.replicate_one, run_cons, run_nil, ends_]
      exact ⟨rfl, rfl⟩
  | succ left induction =>
      have more : retries + 1 < maxRetries := by omega
      have waits :
          Handler.step ⟨session, .awaitAck sending retries 0⟩ silence =
            ⟨session.increaseTimeout,
              .awaitAck sending (retries + 1) 0⟩ := by
        show session.increaseTimeout.awaitAckAgain sending (retries + 1) = _
        rw [Session.awaitAckAgain, if_pos more]
      rw [List.replicate_succ, run_cons, waits]
      exact induction session.increaseTimeout (retries + 1) (by omega)

/-- The handler sends the block which this reader yields in these files. -/
theorem sendBlock_of_read
    {session : Session} {host : HostChoice} {reader next : Reader}
    {storage stored : Storage} {chunk : Bytes} (blockNumber : Nat)
    (same : session.storage.files = storage.files)
    (read : reader.readFile storage host session.blksize =
      (.ok (chunk, next), stored)) :
    ∃ after, after.files = session.storage.files ∧
      session.sendBlock host reader blockNumber =
        ⟨(session.withStorage after).send
            (DataPacket.makeRaw ⟨UInt16.ofNat blockNumber, chunk⟩),
          .awaitAck
            { reader := next
              blockNumber := blockNumber
              data := chunk
              lastPacketSent := decide (chunk.length < session.blksize) }
            0 0⟩ := by
  have here :=
    Reader.readFile_of_files same reader host session.blksize
  cases whole :
      reader.readFile session.storage host session.blksize with
  | mk result after =>
      rw [whole, read] at here
      cases here
      refine ⟨after, Reader.files_of_readFile whole, ?_⟩
      rw [Session.sendBlock, whole]

/-- The client acknowledges a block, and the system calls are like this. -/
def acknowledge (client : Address) (blockNumber : Nat)
    (host : HostChoice) : Event where
  reception :=
    .datagram client (AckPacket.makeRaw ⟨UInt16.ofNat blockNumber⟩)
  host := host

theorem step_acknowledge
    (session : Session) (sending : Sending) (host : HostChoice)
    (fits : sending.blockNumber < blockNumbers) :
    Handler.step ⟨session, .awaitAck sending 0 0⟩
        (acknowledge session.clientAddress sending.blockNumber host) =
      session.afterAck host sending := by
  have same :
      (UInt16.ofNat sending.blockNumber).toNat = sending.blockNumber := by
    rw [UInt16.toNat_ofNat']
    exact Nat.mod_eq_of_lt fits
  have hears :
      Handler.Hears ⟨session, .awaitAck sending 0 0⟩
        (acknowledge session.clientAddress sending.blockNumber host)
        sending := by
    refine ⟨⟨0, 0, rfl, by decide⟩, _, rfl, ?_⟩
    rw [ackIn_makeRaw, same]
  exact hears.step

/-- Whatever a reader yields can be the payload of a complete transfer. -/
theorem exists_completion
    {files : FileSystem} {size : Nat} {reader : Reader}
    {count total : Nat} (yields : reader.Yields files size count total) :
    ∃ host, ∀ (session : Session) (blocks : Nat),
      session.storage.files = files → session.blksize = size →
        blocks + count ≤ blockNumbers →
          ∃ events,
            let reached :=
              run Handler.step
                (session.sendBlock host reader (blocks + 1)) events
            reached.outcome = some .returned ∧
              payloadBytes reached.sent =
                payloadBytes session.udp.sent + total := by
  induction yields with
  | @last reader next storage stored host chunk same read short =>
      refine ⟨host, ?_⟩
      intro session blocks sameFiles sameSize few
      rw [← sameSize] at read short
      obtain ⟨after, _, sent⟩ :=
        sendBlock_of_read (blocks + 1) (sameFiles.trans same.symm) read
      rw [sent]
      let sending : Sending :=
        { reader := next
          blockNumber := blocks + 1
          data := chunk
          lastPacketSent := decide (chunk.length < session.blksize) }
      have isLast : sending.lastPacketSent = true := decide_eq_true short
      obtain ⟨returned, silent⟩ :=
        run_silence
          ((session.withStorage after).send
            (DataPacket.makeRaw ⟨UInt16.ofNat (blocks + 1), chunk⟩))
          isLast 0 4 rfl
      refine ⟨_, returned, ?_⟩
      rw [silent]
      exact payloadBytes_append_data _ _ _
  | @more reader next storage stored host chunk count total same read full
      rest induction =>
      obtain ⟨later, completes⟩ := induction
      refine ⟨host, ?_⟩
      intro session blocks sameFiles sameSize few
      rw [← sameSize] at read full
      obtain ⟨after, files, sent⟩ :=
        sendBlock_of_read (blocks + 1) (sameFiles.trans same.symm) read
      have some_ := rest.positive
      have fits : blocks + 1 < blockNumbers := by omega
      let waiting :=
        (session.withStorage after).send
          (DataPacket.makeRaw ⟨UInt16.ofNat (blocks + 1), chunk⟩)
      let sending : Sending :=
        { reader := next
          blockNumber := blocks + 1
          data := chunk
          lastPacketSent := decide (chunk.length < session.blksize) }
      have more : ¬ sending.lastPacketSent = true := by
        show ¬ decide (chunk.length < session.blksize) = true
        simpa using full
      have onward :
          Handler.step ⟨waiting, .awaitAck sending 0 0⟩
              (acknowledge waiting.clientAddress (blocks + 1) later) =
            waiting.timeoutReset.sendBlock later next (blocks + 1 + 1) := by
        rw [show blocks + 1 = sending.blockNumber from rfl,
          step_acknowledge waiting sending later fits, Session.afterAck,
          if_neg more]
      obtain ⟨events, returned, bytes⟩ :=
        completes waiting.timeoutReset (blocks + 1)
          (files.trans sameFiles) sameSize (by omega)
      have payload :
          payloadBytes waiting.timeoutReset.udp.sent =
            payloadBytes session.udp.sent + chunk.length :=
        payloadBytes_append_data _ _ _
      rw [payload] at bytes
      refine
        ⟨acknowledge waiting.clientAddress (blocks + 1) later :: events,
          ?_⟩
      rw [sent, run_cons]
      dsimp only
      rw [onward]
      exact ⟨returned, bytes.trans (Nat.add_assoc _ _ _)⟩

/-! ## The start -/

/-- Measuring a file in octet mode does not end for a file of this size. -/
theorem measureFile_octet
    {session : Session} {host : HostChoice} {path : Path}
    {measured : Session.Measured} {storage : Storage}
    (positive : 0 < session.blksize)
    (result :
      session.measureFile host (Reader.make path .OCTET) =
        (measured, storage))
    (noException : ∀ exception, measured ≠ .threw exception) :
    ∃ content, session.storage.files.content path = some content ∧
      (measured = .diverged ↔ content.length = session.blksize) := by
  unfold Session.measureFile at result
  cases first :
      (Reader.make path .OCTET).readFile session.storage host
        session.blksize with
  | mk outcome stored =>
      rw [first] at result
      cases outcome with
      | error exception =>
          cases result
          exact absurd rfl (noException exception)
      | ok pair =>
          obtain ⟨chunk, next⟩ := pair
          obtain ⟨content, found⟩ :=
            Reader.exists_content rfl rfl positive first
          refine ⟨content, found, ?_⟩
          have behind := Reader.Behind.make found session.blksize
          obtain ⟨rfl, _, onward⟩ := behind.readFile first
          rw [length_chunk, Nat.zero_mul, Nat.sub_zero] at onward
          simp only [length_chunk, Nat.zero_mul, Nat.sub_zero] at result
          split_ifs at result with partial_
          · cases result
            constructor
            · intro same
              cases same
            · intro same
              omega
          · have later := onward (by omega)
            cases second :
                next.readFile stored host session.blksize with
            | mk outcome after =>
                rw [second] at result
                cases outcome with
                | error exception =>
                    cases result
                    exact absurd rfl (noException exception)
                | ok pair =>
                    obtain ⟨more, last⟩ := pair
                    obtain ⟨rfl, _, _⟩ := later.readFile second
                    have left :
                        chunk session.blksize content (0 + 1) = [] ↔
                          content.length = session.blksize := by
                      rw [← List.length_eq_zero_iff, length_chunk]
                      omega
                    simp only [left] at result
                    split_ifs at result with same
                    · cases result
                      simp [same]
                    · cases result
                      simp [same]

/-- In NETASCII mode it always ends. -/
theorem measureFile_netascii
    {session : Session} {host : HostChoice} {path : Path}
    {measured : Session.Measured} {storage : Storage}
    (positive : 0 < session.blksize)
    (result :
      session.measureFile host (Reader.make path .NETASCII) =
        (measured, storage)) :
    measured ≠ .diverged := by
  unfold Session.measureFile at result
  cases first :
      (Reader.make path .NETASCII).readFile session.storage host
        session.blksize with
  | mk outcome stored =>
      rw [first] at result
      cases outcome with
      | error exception =>
          cases result
          exact nofun
      | ok pair =>
          obtain ⟨chunk, next⟩ := pair
          have onward := (Reader.readFile_ne_nil rfl positive first).2
          dsimp only at result
          split_ifs at result
          · cases result
            exact nofun
          · cases second :
                next.readFile stored host session.blksize with
            | mk outcome after =>
                rw [second] at result
                cases outcome with
                | error exception =>
                    cases result
                    exact nofun
                | ok pair =>
                    obtain ⟨more, last⟩ := pair
                    have some_ :=
                      (Reader.readFile_ne_nil onward positive second).1
                    simp only [some_, if_false] at result
                    cases result
                    exact nofun

variable {session : Session} {host : HostChoice} {introPacket : Bytes}
variable {request : ReadWritePacket}

/-- Every start of a RRQ with `tsize` which throws nothing. -/
theorem followOnRRQ_of_answered
    (parsed : ReadWritePacket.ofRaw introPacket = .ok request)
    (asks : AsksSize request.options)
    (answered : ∀ exception,
      (session.followOnRRQ host introPacket).outcome ≠
        some (.threw exception)) :
    ∃ agreed measured storage,
      NegotiatesTo request.options session agreed ∧
        session.Negotiated agreed ∧
          agreed.measureFile host (session.readerOf request) =
              (measured, storage) ∧
            (∀ exception, measured ≠ .threw exception) ∧
              (measured = .diverged ∧
                  session.followOnRRQ host introPacket =
                    ⟨agreed.withStorage storage, .ended .diverged⟩ ∨
                measured = .done ∧
                  ∃ raw,
                    OackPacket.makeRaw ⟨supported request.options⟩ =
                        .ok raw ∧
                      session.followOnRRQ host introPacket =
                        ⟨(agreed.withStorage storage).send raw,
                          .awaitOackAck (session.readerOf request) 0
                            0⟩) := by
  have long : request.options.length > 0 := by
    obtain ⟨option, member, _⟩ := asks
    exact List.length_pos_of_mem member
  obtain ⟨encoded, rest⟩ := exists_makeRawOptions_supported request.options
  have raw :
      OackPacket.makeRaw ⟨supported request.options⟩ =
        .ok ([0, Opcode.OACK.toByte] ++ encoded) := by
    rw [OackPacket.makeRaw, rest]
    rfl
  rcases session.followOnRRQ_checks host introPacket with
    ⟨exception, fails⟩ | ⟨other, otherParsed, _, _, opens⟩
  · rw [fails] at answered
    exact absurd rfl (answered exception)
  · cases parsed.symm.trans otherParsed
    rw [opens] at answered ⊢
    rcases session.openRRQ_cases host request with
      ⟨reached, exception, _, rejected⟩ |
        ⟨agreed, negotiated, measured, storage, negotiation, measuring,
          goesOn⟩
    · rw [rejected] at answered
      exact absurd rfl (answered exception)
    · obtain ⟨negotiates, rfl⟩ := negotiateOptions_of_ok negotiation
      have quiet := Session.negotiateOptions_negotiated negotiation
      rw [Session.measureForTsize, if_pos ((any_tsize_supported _).mpr asks)]
        at measuring
      refine ⟨agreed, measured, storage, negotiates, quiet, measuring, ?_⟩
      rcases goesOn with
        ⟨exception, _, throws⟩ | ⟨rfl, spins⟩ | ⟨rfl, answers⟩
      · rw [throws] at answered
        exact absurd rfl (answered exception)
      · refine ⟨?_, Or.inl ⟨rfl, spins⟩⟩
        intro exception threw
        cases threw
      · refine ⟨?_, Or.inr ⟨rfl, _, raw, ?_⟩⟩
        · intro exception threw
          cases threw
        · rw [answers, Session.answerRRQ, if_pos long, raw]
          rfl

/-! ## Announced and transferred -/

/--
An OACK was sent whose `tsize` is the number of the bytes which the DATA
packets of every complete transfer carry.
-/
def Handler.AnnouncesSize (start : Handler) : Prop :=
  ∃ reciever raw oack option,
    start.sent = [(reciever, raw)] ∧ OackPacket.ofRaw raw = .ok oack ∧
      option ∈ oack.options ∧ option.name = .TSIZE ∧
        ∀ events,
          let reached := run Handler.step start events
          reached.outcome = some .returned →
            option.value = Wire.toString (payloadBytes reached.sent)

/-- ACK 0 begins the transfer. -/
theorem step_acknowledge_oack
    (session : Session) (reader : Reader) (host : HostChoice) :
    Handler.step ⟨session, .awaitOackAck reader 0 0⟩
        (acknowledge session.clientAddress 0 host) =
      session.timeoutReset.sendBlock host reader 1 := by
  show session.stepAwaitOackAck reader 0 0 _ = _
  have heard :
      (acknowledge session.clientAddress 0 host).reception =
        .datagram session.clientAddress
          (AckPacket.makeRaw ⟨UInt16.ofNat 0⟩) :=
    rfl
  have acknowledged :
      Session.classifyOackReply
          ((AckPacket.makeRaw ⟨UInt16.ofNat 0⟩).take
            UdpClient.maxPacketSize) =
        .ok .acknowledged :=
    rfl
  simp only [Session.stepAwaitOackAck,
    Session.recievePacketFromClient_first heard, acknowledged]
  rfl

/-- Behind the OACK the value has to be the sum of what is read. -/
theorem announcesSize_of_waits_iff
    {session : Session} {reader : Reader} {raw : Bytes}
    {options : List TftpOption} {option : TftpOption}
    (nothing : session.udp.sent = [])
    (decoded : OackPacket.ofRaw raw = .ok ⟨options⟩)
    (asked : option ∈ options) (isTsize : option.name = .TSIZE)
    (only : ∀ other ∈ options, other.name = .TSIZE → other = option) :
    Handler.AnnouncesSize ⟨session.send raw, .awaitOackAck reader 0 0⟩ ↔
      ∀ count total,
        reader.Yields session.storage.files session.blksize count total →
          count ≤ blockNumbers → option.value = Wire.toString total := by
  have sent : (session.send raw).udp.sent = [(session.clientAddress, raw)] := by
    simp [nothing]
  have noPayload : payloadBytes (session.send raw).udp.sent = 0 := by
    rw [Session.send_udp, UdpClient.sent_send, payloadBytes,
      dataSent_append_of_opcode (OackPacket.getOpcode_ofRaw decoded)
        (by decide), nothing]
    rfl
  constructor
  · rintro ⟨reciever, other, oack, named, sentOnly, parsed, member, isNamed,
      announces⟩
    intro count total yields few
    obtain ⟨host, completes⟩ := exists_completion yields
    obtain ⟨events, returned, bytes⟩ :=
      completes (session.send raw).timeoutReset 0 rfl rfl (by omega)
    cases sent.symm.trans sentOnly
    cases decoded.symm.trans parsed
    obtain rfl := only named member isNamed
    have announced :=
      announces (acknowledge session.clientAddress 0 host :: events)
    have first :=
      step_acknowledge_oack (session.send raw) reader host
    rw [show (session.send raw).clientAddress = session.clientAddress
      from rfl] at first
    rw [run_cons, first] at announced
    have payload :
        payloadBytes (session.send raw).timeoutReset.udp.sent = 0 :=
      noPayload
    have whole := bytes.trans (by rw [payload, Nat.zero_add])
    exact (announced returned).trans (congrArg Wire.toString whole)
  · intro named
    refine
      ⟨session.clientAddress, raw, ⟨options⟩, option, sent, decoded, asked,
        isTsize, ?_⟩
    intro events reached returned
    have begins :
        Handler.Accounts ⟨session.send raw, .awaitOackAck reader 0 0⟩
          session.storage.files session.blksize reader := by
      refine ⟨fun _ => rfl, rfl, ?_⟩
      intro count total yields
      show reader.Yields _ _ (0 + count)
        (payloadBytes (session.send raw).udp.sent + total)
      rw [noPayload, Nat.zero_add, Nat.zero_add]
      exact yields
    obtain ⟨count, few, yields⟩ := begins.run returned
    exact named count _ yields few

/-- A value which is the size of the transfer, whichever way it goes. -/
def NamesSize (files : FileSystem) (path : Path) (format : DataFormat)
    (size : Nat) (value : Bytes) : Prop :=
  match format with
  | .OCTET =>
      ∀ content, files.content path = some content →
        content.length ≠ size ∧
          (chunkCount size content ≤ blockNumbers →
            value = Wire.toString content.length)
  | .NETASCII =>
      ∀ count total,
        (Reader.make path .NETASCII).Yields files size count total →
          count ≤ blockNumbers → value = Wire.toString total

/-- The supported options of a request survive in an OACK. -/
theorem exists_oack
    (parsed : ReadWritePacket.ofRaw introPacket = .ok request) :
    ∃ raw, OackPacket.makeRaw ⟨supported request.options⟩ = .ok raw ∧
      OackPacket.ofRaw raw = .ok ⟨supported request.options⟩ := by
  obtain ⟨encodable, distinct⟩ := requested_of_ofRaw parsed
  apply OackPacket.ofRaw_makeRaw
  · intro other among
    obtain ⟨inside, known⟩ := List.mem_filter.mp among
    exact encodable other inside (of_decide_eq_true known)
  · exact distinct.sublist (List.filter_sublist.map _)

/-- A request which is answered announces the size if it was measured. -/
theorem announcesSize_of_answered_iff
    (nothing : session.udp.sent = [])
    (parsed : ReadWritePacket.ofRaw introPacket = .ok request)
    {option : TftpOption} (asked : option ∈ request.options)
    (isTsize : option.name = .TSIZE) {agreed : Session}
    {measured : Session.Measured} {storage : Storage}
    (negotiates : NegotiatesTo request.options session agreed)
    (start :
      measured = .diverged ∧
          session.followOnRRQ host introPacket =
            ⟨agreed.withStorage storage, .ended .diverged⟩ ∨
        measured = .done ∧
          ∃ raw,
            OackPacket.makeRaw ⟨supported request.options⟩ = .ok raw ∧
              session.followOnRRQ host introPacket =
                ⟨(agreed.withStorage storage).send raw,
                  .awaitOackAck (session.readerOf request) 0 0⟩) :
    (session.followOnRRQ host introPacket).AnnouncesSize ↔
      measured = .done ∧
        ∀ count total,
          (session.readerOf request).Yields storage.files agreed.blksize
              count total →
            count ≤ blockNumbers → option.value = Wire.toString total := by
  have silent : agreed.udp.sent = [] := negotiates.sent.trans nothing
  rcases start with ⟨rfl, ends_⟩ | ⟨rfl, raw, made, waits⟩
  · rw [ends_]
    apply iff_of_false
    · rintro ⟨reciever, raw, oack, named, sent, _⟩
      cases silent.symm.trans sent
    · rintro ⟨isDone, _⟩
      cases isDone
  · obtain ⟨encoded, encodes, decoded⟩ := exists_oack parsed
    cases encodes.symm.trans made
    have member : option ∈ supported request.options := by
      refine List.mem_filter.mpr ⟨asked, ?_⟩
      simp [isTsize]
    have only : ∀ other ∈ supported request.options,
        other.name = .TSIZE → other = option := by
      intro other among named
      exact
        List.inj_on_of_nodup_map (requested_of_ofRaw parsed).distinct
          (List.mem_filter.mp among).1 asked (named.trans isTsize.symm)
    rw [waits, eq_self, true_and]
    exact announcesSize_of_waits_iff silent decoded member isTsize only

/--
Exactly when the announced size is the transferred size: if the client has
announced it, and in octet mode if the file is not one full block.
-/
theorem announced_size_is_transferred_iff
    (clientAddress : Address) (rootDirpath : Path) (files : FileSystem)
    {host : HostChoice} {introPacket : Bytes} {request : ReadWritePacket}
    (parsed : ReadWritePacket.ofRaw introPacket = .ok request)
    {option : TftpOption} (asked : option ∈ request.options)
    (isTsize : option.name = .TSIZE)
    (answered : ∀ exception,
      ((Session.make clientAddress rootDirpath files).followOnRRQ host
          introPacket).outcome ≠
        some (.threw exception)) :
    let session := Session.make clientAddress rootDirpath files
    (session.followOnRRQ host introPacket).AnnouncesSize ↔
      NamesSize files (session.filePath request.filepath)
        (formatOfMode request.mode)
        (lastNumber .BLKSIZE 512 request.options) option.value := by
  intro session
  obtain ⟨agreed, measured, storage, negotiates, quiet, result, noException,
    start⟩ :=
    followOnRRQ_of_answered parsed ⟨option, asked, isTsize⟩ answered
  have size :
      agreed.blksize = lastNumber .BLKSIZE 512 request.options :=
    negotiates.blksize
  have positive : 0 < agreed.blksize := by
    rcases quiet.blksize with same | ⟨least, _⟩
    · rw [same]
      exact Nat.succ_pos 511
    · omega
  have sameFiles : storage.files = files := by
    have reads :=
      agreed.measureFile_onlyReads host (session.readerOf request)
    rw [result] at reads
    rw [reads.files, negotiates.storage]
    rfl
  have announces :
      (session.followOnRRQ host introPacket).AnnouncesSize ↔
        measured = .done ∧
          ∀ count total,
            (session.readerOf request).Yields storage.files agreed.blksize
                count total →
              count ≤ blockNumbers → option.value = Wire.toString total :=
    announcesSize_of_answered_iff rfl parsed asked isTsize negotiates start
  rw [announces, sameFiles, size]
  unfold NamesSize
  unfold Session.readerOf at result ⊢
  cases format : formatOfMode request.mode with
  | NETASCII =>
      rw [format] at result
      have isDone : measured = .done := by
        cases measured with
        | done => rfl
        | diverged => exact absurd rfl (measureFile_netascii positive result)
        | threw exception => exact absurd rfl (noException exception)
      exact and_iff_right isDone
  | OCTET =>
      rw [format] at result
      obtain ⟨content, found, diverges⟩ :=
        measureFile_octet positive result noException
      rw [negotiates.storage] at found
      have found : files.content (session.filePath request.filepath) =
          some content := found
      rw [size] at diverges positive
      have isDone : measured = .done ↔
          content.length ≠ lastNumber .BLKSIZE 512 request.options := by
        rw [ne_eq, ← diverges]
        cases measured with
        | done => simp
        | diverged => simp
        | threw exception => exact absurd rfl (noException exception)
      rw [isDone]
      simp only [Reader.yields_octet_iff found positive, found,
        Option.some.injEq, forall_eq']
      apply and_congr_right
      intro _
      constructor
      · intro names few
        exact names _ _ ⟨rfl, rfl⟩ few
      · rintro names count total ⟨rfl, rfl⟩ few
        exact names few

/-! ## A small download -/

/-- A server which has this file under the name `f`. -/
def smallSource (content : Bytes) : Session :=
  Session.make ⟨2, 1024⟩ (text "r") (smallDisk (some content))

/-- The request with these options has this one for the size. -/
def sizeOption (value : Bytes)
    (valid : OptionName.TSIZE.validate value = .ok ()) : TftpOption :=
  ⟨.TSIZE, text "tsize", value, valid⟩

/-- The theorem at a client which knows the size already. -/
theorem announced_size_is_transferred_small :
    ((smallSource (text "hi")).followOnRRQ {}
      (requestWith
        (text "tsize" ++ [0] ++ text "2" ++ [0]))).AnnouncesSize := by
  have parsed :
      ReadWritePacket.ofRaw
          (requestWith (text "tsize" ++ [0] ++ text "2" ++ [0])) =
        .ok ⟨.RRQ, text "f", .OCTET, [sizeOption (text "2") rfl]⟩ := by
    decide
  have waits :
      ((smallSource (text "hi")).followOnRRQ {}
        (requestWith
          (text "tsize" ++ [0] ++ text "2" ++ [0]))).outcome = none := by
    decide
  refine
    (announced_size_is_transferred_iff ⟨2, 1024⟩ (text "r")
      (smallDisk (some (text "hi"))) parsed List.mem_cons_self rfl
      ?_).mpr ?_
  · intro exception threw
    cases waits.symm.trans threw
  · intro content found
    have same :
        (smallDisk (some (text "hi"))).content (text "r/f") =
          some (text "hi") := by
      decide
    cases same.symm.trans found
    exact ⟨by decide, fun _ => by decide⟩

/--
A client which asks for the size with the value 0 is told that it is 0, and
gets two bytes; and the server never answers if the file is one full block.
-/
theorem announced_size_is_requested_size :
    let start :=
      (smallSource (text "hi")).followOnRRQ {}
        (requestWith (text "tsize" ++ [0] ++ text "0" ++ [0]))
    let reached :=
      run Handler.step start
        [acknowledge ⟨2, 1024⟩ 0 {}, acknowledge ⟨2, 1024⟩ 1 {}]
    let full :=
      (smallSource (text "hihihihi")).followOnRRQ {}
        (requestWith
          (text "blksize" ++ [0] ++ text "8" ++ [0] ++ text "tsize" ++
            [0] ++ text "8" ++ [0]))
    (start.sent =
          [(⟨2, 1024⟩, [0, 6] ++ text "tsize" ++ [0] ++ text "0" ++ [0])] ∧
        reached.outcome = some .returned ∧
          payloadBytes reached.sent = 2 ∧ ¬ start.AnnouncesSize) ∧
      full.outcome = some .diverged ∧ full.sent = [] ∧
        ¬ full.AnnouncesSize := by
  have announced :
      ((smallSource (text "hi")).followOnRRQ {}
          (requestWith (text "tsize" ++ [0] ++ text "0" ++ [0]))).sent =
        [(⟨2, 1024⟩, [0, 6] ++ text "tsize" ++ [0] ++ text "0" ++
          [0])] := by
    decide
  have decoded :
      OackPacket.ofRaw ([0, 6] ++ text "tsize" ++ [0] ++ text "0" ++ [0]) =
        .ok ⟨[sizeOption (text "0") rfl]⟩ := by
    decide
  have returned :
      (run Handler.step
          ((smallSource (text "hi")).followOnRRQ {}
            (requestWith (text "tsize" ++ [0] ++ text "0" ++ [0])))
          [acknowledge ⟨2, 1024⟩ 0 {},
            acknowledge ⟨2, 1024⟩ 1 {}]).outcome =
        some .returned := by
    decide
  have payload :
      payloadBytes
          (run Handler.step
            ((smallSource (text "hi")).followOnRRQ {}
              (requestWith (text "tsize" ++ [0] ++ text "0" ++ [0])))
            [acknowledge ⟨2, 1024⟩ 0 {},
              acknowledge ⟨2, 1024⟩ 1 {}]).sent =
        2 := by
    decide
  have nothing :
      ((smallSource (text "hihihihi")).followOnRRQ {}
          (requestWith
            (text "blksize" ++ [0] ++ text "8" ++ [0] ++ text "tsize" ++
              [0] ++ text "8" ++ [0]))).sent = [] := by
    decide
  refine ⟨⟨announced, returned, payload, ?_⟩, by decide, nothing, ?_⟩
  · rintro ⟨reciever, raw, oack, option, sent, parsed, member, _,
      announces⟩
    cases announced.symm.trans sent
    cases decoded.symm.trans parsed
    cases List.mem_singleton.mp member
    have same := announces _ returned
    rw [payload] at same
    exact absurd same (by decide)
  · rintro ⟨reciever, raw, oack, option, sent, _⟩
    cases nothing.symm.trans sent

end IsaTftp.Server
