import IsaTftp.Client.Fallback

/-!
# The command line of the client

`main` reads the arguments, checks them and starts the client.  The limit of
the path is compared with the length of `filepath` where `filepath` is empty,
so no path is ever too long for it; and a path below the limit can already be
too long for the request, which also holds the mode and the option.
-/

namespace IsaTftp.Client

open IsaTftp.Wire
open IsaTftp.Files
open IsaTftp.Transfer
open IsaTftp.Library.Runs

/-! ## Arguments -/

/-- `FILEPATH_MAX_LENGTH` -/
def filepathMaxLength : Nat := 500

/--
`std::atoi`; without a digit the result is 0.  A number which is no `int` is
undefined behaviour there; here it is the number itself.
-/
def atoi (str : Bytes) : Int :=
  match scanInteger str with
  | none => 0
  | some (negative, magnitude) =>
      if negative then -magnitude else magnitude

/-- The local variables of `main` which the arguments set. -/
structure Arguments where
  hostname : Bytes := []
  port : Int := -1
  filepath : Bytes := []
  destFilepath : Bytes := []
deriving DecidableEq, Repr

/-- The loop over `argv`; nothing if it prints the usage and exits. -/
def readArguments : List Bytes → Arguments → Option Arguments
  | [], arguments => some arguments
  | arg :: rest, arguments =>
      if arg = text "-h" then
        match rest with
        | [] => none
        | value :: rest =>
            readArguments rest { arguments with hostname := value }
      else if arg = text "-p" then
        match rest with
        | [] => none
        | value :: rest =>
            readArguments rest { arguments with port := atoi value }
      else if arg = text "-f" then
        match rest with
        | [] => none
        | value :: rest =>
            readArguments rest { arguments with filepath := value }
      else if arg = text "-t" then
        match rest with
        | [] => none
        | value :: rest =>
            readArguments rest { arguments with destFilepath := value }
      else readArguments rest arguments

/-- What `main` does with its arguments. -/
inductive Launch where
  | printsUsage
  | rejectsFilepath
  | runs (hostname : Bytes) (port : Int) (args : TftpClientArgs)
deriving DecidableEq

/-- `Option("timeout", "255")` -/
def timeoutOption : TftpOption :=
  ⟨.TIMEOUT, text "timeout", text "255", rfl⟩

theorem make_timeoutOption :
    TftpOption.make (text "timeout") (text "255") = .ok timeoutOption := by
  decide

/-- `main`, up to the construction of the client. -/
def main (argv : List Bytes) : Launch :=
  match readArguments argv {} with
  | none => .printsUsage
  | some arguments =>
      let port := if arguments.port = -1 then 69 else arguments.port
      let launch (mode : TftpMode) : Launch :=
        .runs arguments.hostname port
          ⟨arguments.filepath, arguments.destFilepath, mode, .OCTET,
            [timeoutOption]⟩
      if arguments.hostname = [] ∨ arguments.destFilepath = [] then
        .printsUsage
      else if arguments.filepath = [] then
        if arguments.filepath.length > filepathMaxLength then
          .rejectsFilepath
        else launch .WRITE
      else launch .READ

/-- Every client which is started asks for one timeout only. -/
theorem options_of_main
    {argv : List Bytes} {hostname : Bytes} {port : Int}
    {args : TftpClientArgs} (accepted : main argv = .runs hostname port args) :
    args.options = [timeoutOption] ∧ args.fileMode = .OCTET := by
  unfold main at accepted
  split at accepted
  · cases accepted
  · dsimp only at accepted
    split_ifs at accepted
    all_goals
      cases accepted
      exact ⟨rfl, rfl⟩

/-! ## The request -/

/-- The request which `Read` and `SendWrq` build. -/
def TftpClientArgs.request (args : TftpClientArgs) : ReadWritePacket :=
  match args.mode with
  | .READ => ⟨.RRQ, args.filepath, .OCTET, args.options⟩
  | .WRITE => ⟨.WRQ, args.destFilepath, .OCTET, args.options⟩

/-- The request was sent last, to the server. -/
def Asked (args : TftpClientArgs) (serverAddress : Address)
    (session : Session) : Prop :=
  session.args = args ∧ session.serverAddress = serverAddress ∧
    ∃ earlier raw, args.request.makeRaw = .ok raw ∧
      session.udp.sent = earlier ++ [(serverAddress, raw)]

/-- What a client awaits an answer to is the request of its mode. -/
def Asks (args : TftpClientArgs) (serverAddress : Address)
    (client : TftpClient) : Prop :=
  match client.control with
  | .awaitWrqReply =>
      args.mode = .WRITE ∧ Asked args serverAddress client.session
  | .awaitRrqReply _ _ =>
      args.mode = .READ ∧ Asked args serverAddress client.session
  | _ => True

section

variable {args : TftpClientArgs} {serverAddress : Address}

theorem Asks.of_settled {client : TftpClient}
    (settled : client.control.opening = false) :
    Asks args serverAddress client := by
  obtain ⟨session, control⟩ := client
  cases control with
  | awaitWrqReply => cases settled
  | awaitRrqReply => cases settled
  | _ => trivial

theorem Asks.asked {client : TftpClient}
    (asks : Asks args serverAddress client)
    (opening : client.control.opening = true) :
    Asked args serverAddress client.session := by
  obtain ⟨session, control⟩ := client
  cases control with
  | awaitWrqReply => exact asks.2
  | awaitRrqReply => exact asks.2
  | _ => cases opening

/-- The head of the loop in `Read` sends the request. -/
theorem Asks.awaitRrqReplyAgain
    {session : Session} (reads : args.mode = .READ)
    (sameArgs : session.args = args)
    (sameServer : session.serverAddress = serverAddress)
    (writer : Writer) (retries : Nat) (event : Event) :
    Asks args serverAddress
      (session.awaitRrqReplyAgain writer retries event) := by
  unfold Session.awaitRrqReplyAgain Session.checkForSigintRRQ
  split_ifs
  · exact .of_settled (FailsFrom.interruptRead session rfl rfl _ _).settled
  · dsimp only
    split
    · exact .of_settled rfl
    · rename_i raw encoded
      refine ⟨reads, sameArgs, sameServer, session.udp.sent, raw, ?_, ?_⟩
      · rw [TftpClientArgs.request, reads, ← sameArgs]
        exact encoded
      · rw [← sameServer]
        rfl
  · exact .of_settled rfl

/-- Nothing else is done while the first answer is awaited. -/
theorem Asks.step {client : TftpClient}
    (asks : Asks args serverAddress client) (event : Event) :
    Asks args serverAddress (client.step event) := by
  cases opening : (client.step event).control.opening with
  | false => exact .of_settled opening
  | true =>
      cases agrees : client.agreement event with
      | some agreed =>
          rw [(TftpClient.step_of_agreement agrees).settled] at opening
          cases opening
      | none =>
          obtain ⟨session, control⟩ := client
          cases control with
          | awaitWrqReply =>
              rcases stepAwaitWrqReply_cases agrees with
                fails | ⟨_, goesOn⟩
              · exact .of_settled fails.settled
              · obtain ⟨blksize, proceeds⟩ :=
                  sendData_proceeds session.increaseTimeout.timeoutReset
                    event
                show Asks args serverAddress (session.stepAwaitWrqReply _)
                rw [goesOn, Session.checkForSigintWRQ]
                split_ifs
                · exact .of_settled rfl
                · exact .of_settled proceeds.settled
          | awaitRrqReply writer retries =>
              obtain ⟨reads, sameArgs, sameServer, _⟩ := asks
              rcases stepAwaitRrqReply_cases agrees with fails | again
              · exact .of_settled fails.settled
              · have sameArgs : session.increaseTimeout.args = args :=
                  sameArgs
                show Asks args serverAddress
                  (session.stepAwaitRrqReply writer retries event)
                rw [again]
                exact .awaitRrqReplyAgain reads sameArgs sameServer _ _ _
          | awaitAck sending retries foreign =>
              exact .of_settled (TftpClient.step_proceeds rfl event).settled
          | awaitData writer blockNumber retries foreign =>
              exact .of_settled (TftpClient.step_proceeds rfl event).settled
          | ended outcome => exact .of_settled rfl

theorem Asks.run {stdin : Bytes} {files : FileSystem} {session : Session}
    (made : Session.make args serverAddress stdin files = .ok session)
    (first : Event) (events : List Event) :
    Asks args serverAddress
      (run TftpClient.step (session.run first) events) := by
  have setsUp := setsUp_of_setupUdpClient made
  have sameArgs : session.args = args := setsUp.args
  have sameServer : session.serverAddress = serverAddress :=
    setsUp.serverAddress
  have starts : Asks args serverAddress (session.run first) := by
    cases mode : args.mode with
    | READ =>
        rw [Session.run_of_read (by rw [sameArgs, mode])]
        exact .awaitRrqReplyAgain mode sameArgs sameServer _ _ _
    | WRITE =>
        rw [Session.run_of_write (by rw [sameArgs, mode])]
        unfold Session.sendWrq Session.checkForSigintWRQ
        split_ifs
        · exact .of_settled rfl
        · dsimp only
          split
          · exact .of_settled rfl
          · exact .of_settled rfl
        · dsimp only
          split
          · exact .of_settled rfl
          · rename_i raw encoded
            refine
              ⟨mode, sameArgs, sameServer, session.udp.sent, raw, ?_, ?_⟩
            · rw [TftpClientArgs.request, mode, ← sameArgs]
              exact encoded
            · rw [← sameServer]
              rfl
  exact
    run_invariant (Asks args serverAddress)
      (fun _ event asks => asks.step event) starts events

end

/-! ## The length of the request -/

/-- A request with the one option of `main`, by the length of its path. -/
theorem exists_makeRaw (opcode : Opcode) (filepath : Bytes) :
    ∃ raw,
      ReadWritePacket.makeRaw
          ⟨opcode, filepath, .OCTET, [timeoutOption]⟩ = .ok raw ∧
        raw.length = filepath.length + 21 := by
  refine ⟨_, rfl, ?_⟩
  have mode : Mode.OCTET.toBytes.length = 5 := rfl
  have name : (text "timeout").length = 7 := rfl
  have value : timeoutOption.value.length = 3 := rfl
  simp only [stringToVectorNullTerminated, List.length_append,
    List.length_cons, List.length_nil, mode, name, value]
  omega

theorem exists_makeRaw_request
    {args : TftpClientArgs} (options : args.options = [timeoutOption]) :
    ∃ raw, args.request.makeRaw = .ok raw ∧
      raw.length = args.request.filepath.length + 21 := by
  obtain ⟨filepath, destFilepath, mode, fileMode, options⟩ := args
  cases options
  cases mode with
  | READ => exact exists_makeRaw .RRQ filepath
  | WRITE => exact exists_makeRaw .WRQ destFilepath

/--
Whenever the client awaits the answer to its request, the request was sent and
the server keeps all of it.
-/
def RequestsFit (args : TftpClientArgs) : Prop :=
  ∀ (serverAddress : Address) (stdin : Bytes) (files : FileSystem)
    (session : Session) (first : Event) (events : List Event),
    Session.make args serverAddress stdin files = .ok session →
      let reached := run TftpClient.step (session.run first) events
      reached.control.opening = true →
        ∃ earlier raw, reached.sent = earlier ++ [(serverAddress, raw)] ∧
          raw.length ≤ maxRequestLength ∧
            raw.take maxRequestLength = raw

/-- With this option the first step of some run sends the request. -/
theorem exists_asking
    {args : TftpClientArgs} (options : args.options = [timeoutOption]) :
    ∃ session, Session.make args ⟨1, 69⟩ [] (smallDisk none) = .ok session ∧
      (session.run {}).control.opening = true := by
  obtain ⟨filepath, destFilepath, mode, fileMode, options⟩ := args
  cases options
  cases mode with
  | READ => exact ⟨_, rfl, rfl⟩
  | WRITE => exact ⟨_, rfl, rfl⟩

theorem requestsFit_iff
    {args : TftpClientArgs} (options : args.options = [timeoutOption]) :
    RequestsFit args ↔
      args.request.filepath.length + 21 ≤ maxRequestLength := by
  obtain ⟨request, encoded, length⟩ := exists_makeRaw_request options
  constructor
  · intro fits
    obtain ⟨session, made, opening⟩ := exists_asking options
    obtain ⟨earlier, raw, sent, short, _⟩ :=
      fits ⟨1, 69⟩ [] (smallDisk none) session {} [] made opening
    obtain ⟨_, _, before, other, same, asked⟩ :=
      (Asks.run made {} []).asked opening
    cases encoded.symm.trans same
    obtain ⟨_, last⟩ :=
      List.append_inj' (asked.symm.trans sent) rfl
    cases List.singleton_inj.mp last
    rwa [length] at short
  · intro short serverAddress stdin files session first events made reached
      opening
    obtain ⟨_, _, before, raw, same, asked⟩ :=
      (Asks.run made first events).asked opening
    cases encoded.symm.trans same
    rw [← length] at short
    exact ⟨before, request, asked, short, List.take_of_length_le short⟩

/--
Exactly which clients that `main` starts send requests which the server reads
whole: those of which the requested path has at most 491 bytes.
-/
theorem requests_fit_iff
    {argv : List Bytes} {hostname : Bytes} {port : Int}
    {args : TftpClientArgs}
    (accepted : main argv = .runs hostname port args) :
    RequestsFit args ↔ args.request.filepath.length ≤ 491 := by
  rw [requestsFit_iff (options_of_main accepted).1, maxRequestLength]
  omega

/-- The theorem for an upload to `f`. -/
theorem requests_fit_small :
    RequestsFit ⟨[], text "f", .WRITE, .OCTET, [timeoutOption]⟩ := by
  have accepted :
      main [text "-h", text "s", text "-t", text "f"] =
        .runs (text "s") 69
          ⟨[], text "f", .WRITE, .OCTET, [timeoutOption]⟩ := by
    decide
  exact (requests_fit_iff accepted).mpr (by decide)

/-- A path of 492 bytes is accepted, and is too long. -/
theorem long_path_is_accepted :
    let path : Bytes := List.replicate 492 97
    main [text "-h", text "s", text "-t", path] =
        .runs (text "s") 69 ⟨[], path, .WRITE, .OCTET, [timeoutOption]⟩ ∧
      ¬ RequestsFit ⟨[], path, .WRITE, .OCTET, [timeoutOption]⟩ := by
  intro path
  refine ⟨rfl, ?_⟩
  rw [requestsFit_iff rfl]
  have length : path.length = 492 := List.length_replicate
  simp [TftpClientArgs.request, length, maxRequestLength]

end IsaTftp.Client
