import IsaTftp.Noninterference

/-!
# What a received ERROR packet leads to

No function of the program asks whether a datagram is an ERROR packet before
it decides to answer.  A first datagram which is no request and a datagram of
a foreign sender are answered whatever they are; an ERROR packet of the other
side ends the transfer, without a word if it is well formed.
-/

namespace IsaTftp

open IsaTftp.Wire
open IsaTftp.Files
open IsaTftp.Transfer
open IsaTftp.Library.Runs

/-- The constructor `ErrorPacket(raw)` accepts what was received. -/
def WellFormed (bytes : Bytes) : Prop :=
  ∃ packet,
    ErrorPacket.ofRaw (bytes.take UdpClient.maxPacketSize) = .ok packet

/-- What is sent after an ERROR packet of the other side: at most one. -/
theorem reportException_errorException (udp : UdpClient)
    (peer : Address) (responder bytes : Bytes) :
    ∃ last,
      (reportException udp peer
            (errorException responder
              (bytes.take UdpClient.maxPacketSize))).sent =
          udp.sent ++ last ∧
        (WellFormed bytes → last = []) ∧
          last.length ≤ 1 ∧ ∀ datagram ∈ last, datagram.1 = peer := by
  by_cases wellFormed : WellFormed bytes
  · obtain ⟨packet, accepted⟩ := id wellFormed
    refine ⟨[], ?_, fun _ => rfl, by simp, by simp⟩
    simp [errorException, accepted, reportException]
  · unfold reportException
    split
    · split
      · exact
          ⟨[_], rfl, fun accepted => absurd accepted wellFormed, by simp,
            by simp⟩
      · exact ⟨[], by simp, fun _ => rfl, by simp, by simp⟩
    · exact ⟨[], by simp, fun _ => rfl, by simp, by simp⟩

/-! ## The server -/

namespace Server

variable {handler : Handler} {event : Event} {bytes : Bytes}

theorem classifyOackReply_of_error
    {packet : Bytes} (known : getOpcodeFromRaw packet = .ok .ERROR) :
    Session.classifyOackReply packet =
      .error (errorException (text "Client") packet) := by
  have sameText :
      text "Client responded with error: " =
        text "Client" ++ text " responded with error: " := by
    decide
  simp only [Session.classifyOackReply, known, bind, Except.bind,
    errorException]
  cases ErrorPacket.ofRaw packet with
  | error exception => rfl
  | ok error =>
      simp only [sameText]
      rfl

/-- An ERROR packet of the client leaves the handler as an exception. -/
theorem step_of_errorPacket
    {foreign : Nat}
    (heard :
      event.reception = .datagram handler.session.clientAddress bytes)
    (known : getOpcodeFromRaw bytes = .ok .ERROR)
    (counts : handler.control.foreign = some foreign)
    (few : foreign < maxRetries) :
    ∃ storage responder,
      handler.step event =
        (handler.session.withStorage storage).raise
          (errorException responder
            (bytes.take UdpClient.maxPacketSize)) := by
  obtain ⟨session, control⟩ := handler
  have delivered :
      session.recievePacketFromClient foreign event.reception =
        (session, .delivered (bytes.take UdpClient.maxPacketSize)) := by
    unfold Session.recievePacketFromClient
    rw [heard, recievePacketFrom_peer, if_pos few]
  have isError :
      getOpcodeFromRaw (bytes.take UdpClient.maxPacketSize) =
        .ok .ERROR := by
    rw [getOpcodeFromRaw_take _ (by decide), known]
  cases control with
  | awaitOackAck reader retries =>
      cases counts
      refine ⟨session.storage, text "Client", ?_⟩
      simp only [Handler.step, Session.stepAwaitOackAck, delivered,
        classifyOackReply_of_error isError]
      rfl
  | awaitAck sending retries =>
      cases counts
      refine ⟨session.storage, text "Client", ?_⟩
      simp only [Handler.step, Session.stepAwaitAck, delivered,
        classifyAck_of_error isError]
      rfl
  | awaitFirstData options negotiated writer retries =>
      cases counts
      refine
        ⟨writer.close session.storage event.host, text "Client", ?_⟩
      simp only [Handler.step, Session.stepAwaitFirstData, delivered,
        classifyData_of_error isError]
      rfl
  | awaitData writer blockNumber retries =>
      cases counts
      refine
        ⟨writer.close session.storage event.host, text "Server", ?_⟩
      simp only [Handler.step, Session.stepAwaitData, delivered,
        classifyData_of_error isError]
      rfl
  | ended outcome => cases counts

/-- The transfer ends here; these datagrams are the last ones. -/
structure Ends (handler : Handler) (event : Event)
    (last : List (Address × Bytes)) : Prop where
  ended : ∃ exception, (handler.step event).control =
    .ended (.threw exception)
  sent : ∀ later,
    (run Handler.step (handler.step event) later).sent =
      handler.sent ++ last

/-- What a handler which waits makes of an ERROR packet. -/
structure TakesError (handler : Handler) (event : Event)
    (sender : Address) (bytes : Bytes) (foreign : Nat) : Prop where
  /-- of a foreign sender: it gets one reply, and is counted -/
  foreign : sender ≠ handler.session.clientAddress →
    handler.step event =
      ⟨handler.session.reply sender,
        handler.control.withForeign (foreign + 1)⟩
  /-- of the client: the transfer ends, silently if it is well formed -/
  client : sender = handler.session.clientAddress →
    ∃ last, Ends handler event last ∧
      (WellFormed bytes → last = []) ∧
        last.length ≤ 1 ∧
          ∀ datagram ∈ last,
            datagram.1 = handler.session.clientAddress

theorem takesError
    {sender : Address} {foreign : Nat}
    (heard : event.reception = .datagram sender bytes)
    (known : getOpcodeFromRaw bytes = .ok .ERROR)
    (counts : handler.control.foreign = some foreign)
    (few : foreign < maxRetries) :
    TakesError handler event sender bytes foreign where
  foreign unknown := step_of_foreign heard unknown counts few
  client same := by
    subst same
    obtain ⟨storage, responder, leaves⟩ :=
      step_of_errorPacket heard known counts few
    obtain ⟨last, sent, silent, short, toPeer⟩ :=
      reportException_errorException handler.session.udp
        handler.session.clientAddress responder bytes
    refine ⟨last, ⟨?_, ?_⟩, silent, short, toPeer⟩
    · rw [leaves]
      exact ⟨_, rfl⟩
    · intro later
      rw [leaves, run_of_halted (fun _ => rfl)]
      exact sent

end Server

/-! ## The client -/

namespace Client

variable {client : TftpClient} {event : Event} {bytes : Bytes}

/-- An ERROR packet of the server leaves the client as an exception. -/
theorem step_of_errorPacket
    {foreign : Nat}
    (heard :
      event.reception = .datagram client.session.serverAddress bytes)
    (known : getOpcodeFromRaw bytes = .ok .ERROR)
    (counts : client.control.foreign = some foreign)
    (few : foreign < maxRetries) :
    ∃ storage,
      client.step event =
        (client.session.withStorage storage).raise
          (errorException (text "Server")
            (bytes.take UdpClient.maxPacketSize)) := by
  obtain ⟨session, control⟩ := client
  have delivered :
      session.recievePacketFromServer foreign event.reception =
        (session, .delivered (bytes.take UdpClient.maxPacketSize)) := by
    unfold Session.recievePacketFromServer
    rw [heard, recievePacketFrom_peer, if_pos few]
  have isError :
      getOpcodeFromRaw (bytes.take UdpClient.maxPacketSize) =
        .ok .ERROR := by
    rw [getOpcodeFromRaw_take _ (by decide), known]
  cases control with
  | awaitAck sending retries =>
      cases counts
      refine ⟨session.storage, ?_⟩
      simp only [TftpClient.step, Session.stepAwaitAck, delivered,
        classifyAck_of_error isError]
      rfl
  | awaitData writer blockNumber retries =>
      cases counts
      refine ⟨writer.close session.storage event.host, ?_⟩
      simp only [TftpClient.step, Session.stepAwaitData, delivered,
        classifyData_of_error isError]
      rfl
  | _ => cases counts

theorem text_server :
    text "Server responded with error: " =
      text "Server" ++ text " responded with error: " := by
  decide

theorem acceptWrqReply_of_error
    {packet : Bytes} (known : getOpcodeFromRaw packet = .ok .ERROR)
    (session : Session) :
    session.acceptWrqReply packet =
      .error (errorException (text "Server") packet) := by
  simp only [Session.acceptWrqReply, known, bind, Except.bind,
    errorException, text_server]
  cases ErrorPacket.ofRaw packet <;> rfl

theorem classifyRrqReply_of_error
    {packet : Bytes} (known : getOpcodeFromRaw packet = .ok .ERROR)
    (session : Session) :
    session.classifyRrqReply packet =
      .error (errorException (text "Server") packet) := by
  simp only [Session.classifyRrqReply, known, bind, Except.bind,
    errorException, text_server]
  cases ErrorPacket.ofRaw packet <;> rfl

/-- So does an ERROR packet which is the first answer, whoever sent it. -/
theorem step_of_first_errorPacket
    {sender : Address}
    (heard : event.reception = .datagram sender bytes)
    (known : getOpcodeFromRaw bytes = .ok .ERROR)
    (opening : client.control.opening = true) :
    ∃ storage,
      client.step event =
        ((client.session.adoptPort sender).withStorage storage).raise
          (errorException (text "Server")
            (bytes.take UdpClient.maxPacketSize)) := by
  obtain ⟨session, control⟩ := client
  have isError :
      getOpcodeFromRaw (bytes.take UdpClient.maxPacketSize) =
        .ok .ERROR := by
    rw [getOpcodeFromRaw_take _ (by decide), known]
  cases control with
  | awaitWrqReply =>
      refine ⟨session.storage, ?_⟩
      simp only [TftpClient.step, Session.stepAwaitWrqReply, heard, receive,
        acceptWrqReply_of_error isError]
      rfl
  | awaitRrqReply writer retries =>
      refine ⟨writer.close session.storage event.host, ?_⟩
      simp only [TftpClient.step, Session.stepAwaitRrqReply, heard, receive,
        classifyRrqReply_of_error isError]
      rfl
  | _ => cases opening

/-- The transfer ends here; these datagrams are the last ones. -/
structure Ends (client : TftpClient) (event : Event)
    (last : List (Address × Bytes)) : Prop where
  ended : ∃ exception, (client.step event).control =
    .ended (.threw exception)
  sent : ∀ later,
    (run TftpClient.step (client.step event) later).sent =
      client.sent ++ last

/-- The transfer ends, silently if the ERROR packet is well formed. -/
def EndsByError (client : TftpClient) (event : Event) (peer : Address)
    (bytes : Bytes) : Prop :=
  ∃ last, Ends client event last ∧
    (WellFormed bytes → last = []) ∧
      last.length ≤ 1 ∧ ∀ datagram ∈ last, datagram.1 = peer

/-- What a client which waits makes of an ERROR packet. -/
structure TakesError (client : TftpClient) (event : Event)
    (sender : Address) (bytes : Bytes) (foreign : Nat) : Prop where
  /-- of a foreign sender: it gets one reply, and is counted -/
  foreign : sender ≠ client.session.serverAddress →
    client.step event =
      ⟨client.session.reply sender,
        client.control.withForeign (foreign + 1)⟩
  server : sender = client.session.serverAddress →
    EndsByError client event client.session.serverAddress bytes

theorem EndsByError.of_raise
    {session : Session} {peer : Address} {responder : Bytes}
    (leaves : client.step event =
      session.raise
        (errorException responder (bytes.take UdpClient.maxPacketSize)))
    (udp : session.udp = client.session.udp)
    (address : session.serverAddress = peer) :
    EndsByError client event peer bytes := by
  subst address
  obtain ⟨last, sent, silent, short, toPeer⟩ :=
    reportException_errorException session.udp session.serverAddress
      responder bytes
  refine ⟨last, ⟨?_, ?_⟩, silent, short, toPeer⟩
  · rw [leaves]
    exact ⟨_, rfl⟩
  · intro later
    rw [leaves, run_of_halted (fun _ => rfl), TftpClient.sent,
      TftpClient.sent, ← udp]
    exact sent

theorem takesError
    {sender : Address} {foreign : Nat}
    (heard : event.reception = .datagram sender bytes)
    (known : getOpcodeFromRaw bytes = .ok .ERROR)
    (counts : client.control.foreign = some foreign)
    (few : foreign < maxRetries) :
    TakesError client event sender bytes foreign where
  foreign unknown := step_of_foreign heard unknown counts few
  server same := by
    subst same
    obtain ⟨storage, leaves⟩ := step_of_errorPacket heard known counts few
    exact .of_raise leaves rfl rfl

end Client

/-! ## Both parties -/

/--
What an ERROR packet leads to: one ERROR packet if it is the first datagram or
comes from a foreign sender; the end of the transfer, without any further
datagram if it is well formed, if it comes from the other side.
-/
theorem error_packets_and_answers :
    (∀ (session : Server.Session) (host : HostChoice) (bytes : Bytes)
      (later : List Event),
      getOpcodeFromRaw bytes = .ok .ERROR →
        run Server.Handler.step (session.followOnIntroPacket host bytes)
            later =
          session.raise (illegalOperation (text "Expected RRQ or WRQ"))) ∧
      (∀ (handler : Server.Handler) (event : Event) (sender : Address)
        (bytes : Bytes) (foreign : Nat),
        event.reception = .datagram sender bytes →
          getOpcodeFromRaw bytes = .ok .ERROR →
            handler.control.foreign = some foreign →
              foreign < maxRetries →
                Server.TakesError handler event sender bytes foreign) ∧
        (∀ (client : Client.TftpClient) (event : Event)
          (sender : Address) (bytes : Bytes) (foreign : Nat),
          event.reception = .datagram sender bytes →
            getOpcodeFromRaw bytes = .ok .ERROR →
              client.control.foreign = some foreign →
                foreign < maxRetries →
                  Client.TakesError client event sender bytes foreign) ∧
          ∀ (client : Client.TftpClient) (event : Event)
            (sender : Address) (bytes : Bytes),
            event.reception = .datagram sender bytes →
              getOpcodeFromRaw bytes = .ok .ERROR →
                client.control.opening = true →
                  Client.EndsByError client event
                    (client.session.adoptPort sender).serverAddress
                    bytes := by
  refine ⟨?_, ?_, ?_, ?_⟩
  · intro session host bytes later known
    rw [Server.Session.followOnIntroPacket, known]
    exact run_of_halted (fun _ => rfl) later
  · intro handler event sender bytes foreign heard known counts few
    exact Server.takesError heard known counts few
  · intro client event sender bytes foreign heard known counts few
    exact Client.takesError heard known counts few
  · intro client event sender bytes heard known opening
    obtain ⟨storage, leaves⟩ :=
      Client.step_of_first_errorPacket heard known opening
    exact .of_raise leaves rfl rfl

/-! ## A small download -/

/-- An ERROR packet without a text. -/
def emptyError : Bytes := [0, 5, 0, 0, 0]

/-- The theorem at an ERROR packet of the client. -/
theorem error_packets_and_answers_small :
    Server.TakesError sendingHandler
      { reception := .datagram ⟨2, 1024⟩ emptyError } ⟨2, 1024⟩ emptyError
      0 :=
  error_packets_and_answers.2.1 sendingHandler
    { reception := .datagram ⟨2, 1024⟩ emptyError } ⟨2, 1024⟩ emptyError 0
    rfl rfl rfl (by decide)

/-- An ERROR packet is answered: as first datagram, and if it is foreign. -/
theorem error_packets_are_answered :
    let intro :=
      sendingHandler.session.followOnIntroPacket {} emptyError
    let foreign :=
      sendingHandler.step { reception := .datagram ⟨9, 9⟩ emptyError }
    getOpcodeFromRaw emptyError = .ok .ERROR ∧
      (∃ packet : ErrorPacket,
        intro.sent =
          sendingHandler.sent ++ [(⟨2, 1024⟩, packet.makeRaw)]) ∧
        foreign.sent =
          sendingHandler.sent ++ [(⟨9, 9⟩, unknownSender.makeRaw)] :=
  ⟨by decide, ⟨_, rfl⟩, by decide⟩

end IsaTftp
