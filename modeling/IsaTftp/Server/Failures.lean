import IsaTftp.Server.Outside
import IsaTftp.Server.Reported

/-!
# Which failures are reported to the client

The start of a handler adds to the silent failures: the conversion of a number
which is too large, a file system which cannot look up a path, a file which
cannot be read, and a disk without enough space.
-/

namespace IsaTftp.Server

open IsaTftp.Wire
open IsaTftp.Files
open IsaTftp.Transfer
open IsaTftp.Library.Runs

/-! ## Negotiating -/

/-- The file size which the options leave in the member `tsize_`. -/
def tsizeIn (start : Int) (options : List TftpOption) : Int :=
  options.foldl
    (fun tsize option =>
      match option.name, stoi option.value with
      | .TSIZE, .ok number => number
      | _, _ => tsize)
    start

theorem tsize_negotiateOption
    {session next : Session} {option : TftpOption}
    (accepted : session.negotiateOption option = .ok next) :
    next.tsize = tsizeIn session.tsize [option] := by
  unfold Session.negotiateOption at accepted
  unfold tsizeIn
  cases name : option.name <;>
    cases converted : stoi option.value <;>
      simp [name, converted, bind, Except.bind, pure,
        Except.pure] at accepted ⊢
  all_goals subst accepted
  all_goals rfl

theorem negotiateOption_error
    {session : Session} {option : TftpOption} {exception : Exception}
    (rejected : session.negotiateOption option = .error exception) :
    exception.IsConversion := by
  unfold Session.negotiateOption at rejected
  cases converted : stoi option.value with
  | ok number =>
      simp only [converted] at rejected
      split at rejected <;> cases rejected
  | error thrown =>
      simp only [converted] at rejected
      split at rejected <;> cases rejected <;>
        exact stoSigned_error converted

theorem convertible_of_negotiateOption
    {session next : Session} {option : TftpOption}
    (accepted : session.negotiateOption option = .ok next) :
    Convertible option := by
  intro isTsize
  unfold Session.negotiateOption at accepted
  cases converted : stoi option.value with
  | ok number => exact ⟨number, rfl⟩
  | error thrown =>
      simp [isTsize, converted, bind, Except.bind] at accepted

/-- The negotiation succeeds exactly if every file size fits. -/
theorem negotiateOptions_cases (session : Session)
    (options : List TftpOption) :
    (∃ next, session.negotiateOptions options =
          (next, .ok (supported options)) ∧
        next.tsize = tsizeIn session.tsize options ∧
          ∀ option ∈ options, Convertible option) ∨
      ∃ next exception,
        session.negotiateOptions options = (next, .error exception) ∧
          mute exception = true ∧
            ¬ ∀ option ∈ options, Convertible option := by
  induction options generalizing session with
  | nil => exact Or.inl ⟨session, rfl, rfl, by simp⟩
  | cons option options induction =>
      rw [Session.negotiateOptions]
      rcases negotiateOption_cases session option with
        ⟨middle, accepted, _⟩ | ⟨exception, rejected, unfit⟩
      · have first := convertible_of_negotiateOption accepted
        have tsize := tsize_negotiateOption accepted
        simp only [accepted]
        rcases induction middle with
          ⟨next, rest, later, fit⟩ | ⟨next, exception, rest, silent, unfit⟩
        · left
          refine ⟨next, ?_, ?_, ?_⟩
          · rw [rest]
            by_cases unknown : option.name = .UNSUPPORTED
            · simp [supported, unknown]
            · simp [supported, unknown]
          · rw [later, tsize]
            rfl
          · intro other member
            rcases List.mem_cons.mp member with rfl | among
            · exact first
            · exact fit other among
        · right
          refine ⟨next, exception, ?_, silent, ?_⟩
          · rw [rest]
          · intro fit
            apply unfit
            intro other among
            exact fit other (List.mem_cons_of_mem _ among)
      · right
        simp only [rejected]
        refine ⟨session, exception, rfl, ?_, ?_⟩
        · exact mute_of_isConversion (negotiateOption_error rejected)
        · intro fit
          exact unfit (fit option List.mem_cons_self)

/-- Supported options can be encoded. -/
theorem exists_makeRawOptions {options : List TftpOption}
    (known : ∀ option ∈ options, option.name ≠ .UNSUPPORTED) :
    ∃ raw, makeRawOptions options = .ok raw := by
  induction options with
  | nil => exact ⟨[], rfl⟩
  | cons option options induction =>
      obtain ⟨rest, encoded⟩ :=
        induction fun other among =>
          known other (List.mem_cons_of_mem _ among)
      cases name : option.name with
      | UNSUPPORTED => exact absurd name (known option List.mem_cons_self)
      | _ =>
          simp [name, makeRawOptions, TftpOption.makeRaw, encoded, bind,
            Except.bind, pure, Except.pure]

theorem exists_makeRawOptions_supported (options : List TftpOption) :
    ∃ raw, makeRawOptions (supported options) = .ok raw := by
  apply exists_makeRawOptions
  intro option member
  simpa using (List.mem_filter.mp member).2

/-- The opening answer of a transfer can be encoded. -/
theorem exists_openingReply (options : List TftpOption) :
    ∃ raw,
      Session.openingReply options (supported options) = .ok raw := by
  unfold Session.openingReply
  split_ifs
  · obtain ⟨raw, encoded⟩ := exists_makeRawOptions_supported options
    exact ⟨_, by rw [OackPacket.makeRaw, encoded]; rfl⟩
  · exact ⟨_, rfl⟩

/-! ## Read requests -/

/-- The client asks for the size of a file, or tells it. -/
def AsksSize (options : List TftpOption) : Prop :=
  ∃ option ∈ options, option.name = .TSIZE

theorem any_tsize_supported (options : List TftpOption) :
    ((supported options).any fun option => option.name = .TSIZE) = true ↔
      AsksSize options := by
  simp only [supported, AsksSize, List.any_eq_true, List.mem_filter,
    decide_eq_true_eq]
  constructor
  · rintro ⟨option, ⟨member, _⟩, named⟩
    exact ⟨option, member, named⟩
  · rintro ⟨option, member, named⟩
    exact ⟨option, ⟨member, by simp [named]⟩, named⟩

/-- Measuring a file fails exactly if its first block cannot be read. -/
theorem measureFile_cases
    (session : Session) (host : HostChoice) (reader : Reader)
    (unopened : reader.file = none)
    (nothing : reader.overflowBuffer = [])
    (positive : 0 < session.blksize) :
    (reader.unreadable session.storage host session.blksize = true ∧
        ∃ exception storage,
          session.measureFile host reader = (.threw exception, storage) ∧
            mute exception = true) ∨
      (reader.unreadable session.storage host session.blksize = false ∧
        ∃ measured storage,
          session.measureFile host reader = (measured, storage) ∧
            (measured = .diverged ∨ measured = .done)) := by
  unfold Session.measureFile
  cases read : reader.readFile session.storage host session.blksize with
  | mk result storage =>
      cases result with
      | error exception =>
          left
          have failed := mute_readFile (congrArg Prod.fst read)
          exact
            ⟨by simp [Reader.unreadable, read], exception, storage, rfl,
              failed⟩
      | ok pair =>
          right
          obtain ⟨data, next⟩ := pair
          refine ⟨by simp [Reader.unreadable, read], ?_⟩
          have again :=
            Reader.unreadable_again unopened nothing positive read
          unfold Reader.unreadable at again
          dsimp only
          split_ifs with full
          · exact ⟨_, _, rfl, Or.inr rfl⟩
          · cases second : next.readFile storage host session.blksize with
            | mk result stored =>
                cases result with
                | error exception => simp [second] at again
                | ok pair =>
                    obtain ⟨more, last⟩ := pair
                    dsimp only
                    split_ifs
                    · exact ⟨_, _, rfl, Or.inl rfl⟩
                    · exact ⟨_, _, rfl, Or.inr rfl⟩

/-- The reader of a request. -/
def Session.readerOf (session : Session) (request : ReadWritePacket) :
    Reader :=
  Reader.make (session.filePath request.filepath)
    (formatOfMode request.mode)

/-- A read request whose path was checked is not answered. -/
def Session.ReadSilenced (session : Session) (host : HostChoice)
    (request : ReadWritePacket) : Prop :=
  ¬ (∀ option ∈ request.options, Convertible option) ∨
    ((request.options = [] ∨ AsksSize request.options) ∧
      (session.readerOf request).unreadable session.storage host
        (lastNumber .BLKSIZE session.blksize request.options) = true)

namespace Judged

variable {peer : Address} {session : Session}

theorem answerRRQ (silent : Silent peer session) (host : HostChoice)
    (reader : Reader) (options : List TftpOption) :
    Judged peer
      (options = [] ∧
        reader.unreadable session.storage host session.blksize = true)
      (session.answerRRQ host reader options (supported options)) := by
  unfold Session.answerRRQ
  split_ifs with some_
  · obtain ⟨encoded, rest⟩ := exists_makeRawOptions_supported options
    have raw :
        OackPacket.makeRaw ⟨supported options⟩ =
          .ok ([0, Opcode.OACK.toByte] ++ encoded) := by
      rw [OackPacket.makeRaw, rest]
      rfl
    rw [raw]
    have answered :=
      silent.send (OackPacket.getOpcode_makeRaw raw) (by decide)
    refine of_iff (waits answered (by simp) trivial) ?_
    simp [List.ne_nil_of_length_pos some_]
  · have none_ : options = [] := by
      simpa using some_
    exact (sendBlock silent host reader 1).of_iff (by simp [none_])

theorem openRRQ (silent : Silent peer session)
    (positive : 0 < session.blksize) (host : HostChoice)
    (request : ReadWritePacket) :
    Judged peer (session.ReadSilenced host request)
      (session.openRRQ host request) := by
  unfold Session.openRRQ Session.ReadSilenced Session.readerOf
  rcases negotiateOptions_cases session request.options with
    ⟨next, negotiated, _, fit⟩ | ⟨next, exception, failed, muted, unfit⟩
  · have silentNext :=
      silent.negotiated (Session.negotiateOptions_negotiated negotiated)
    have quiet := Session.negotiateOptions_negotiated negotiated
    obtain ⟨agrees, _⟩ := negotiateOptions_of_ok negotiated
    have size : 0 < next.blksize := by
      rcases quiet.blksize with same | ⟨least, _⟩
      · rw [same]
        exact positive
      · exact Nat.lt_of_lt_of_le (by decide) least
    simp only [negotiated, Session.measureForTsize]
    rw [← agrees.storage, ← agrees.blksize]
    split_ifs with asks
    · rw [any_tsize_supported] at asks
      have some_ : request.options ≠ [] := by
        obtain ⟨option, member, _⟩ := asks
        exact List.ne_nil_of_mem member
      rcases measureFile_cases next host
          (Reader.make (session.filePath request.filepath)
            (formatOfMode request.mode)) rfl rfl size with
        ⟨unreadable, exception, storage, measured, muted⟩ |
          ⟨readable, outcome, storage, measured, rfl | rfl⟩
      · rw [measured]
        exact
          (raise_mute (silentNext.withStorage storage) muted).of_iff
            (by simp [asks, unreadable])
      · rw [measured]
        refine of_iff (ends (by simp)) ?_
        simpa [readable] using fit
      · rw [measured]
        refine
          (answerRRQ (silentNext.withStorage storage) host _
            request.options).of_iff ?_
        simpa [readable, some_] using fit
    · rw [any_tsize_supported] at asks
      refine (answerRRQ silentNext host _ request.options).of_iff ?_
      rw [or_iff_right (not_not.mpr fit)]
      simp only [asks, or_false]
  · have silentNext :=
      silent.negotiated (Session.negotiateOptions_negotiated failed)
    simp only [failed]
    exact (raise_mute silentNext muted).of_iff (by simp [unfit])

end Judged

/-! ## Write requests -/

/-- A write request whose path was checked is not answered. -/
def Session.WriteSilenced (session : Session)
    (request : ReadWritePacket) : Prop :=
  ¬ (∀ option ∈ request.options, Convertible option) ∨
    (AsksSize request.options ∧
      session.storage.hasEnoughSpace session.rootDirpath
        (Session.requiredBytes
          (tsizeIn session.tsize request.options)) = false)

/--
An introducing packet is not answered: a number in it is too large, its path
cannot be looked up, or it is refused after its path was checked.
-/
def Session.Silenced (session : Session) (host : HostChoice)
    (introPacket : Bytes) : Prop :=
  ReadWritePacket.ofRaw introPacket = .error .stdOutOfRange ∨
    ∃ request, ReadWritePacket.ofRaw introPacket = .ok request ∧
      (host.statFails = true ∨
        (session.storage.files.isFilePathUnderDirectory
            (session.filePath request.filepath) session.rootDirpath =
            true ∧
          (request.opcode = .RRQ ∧ session.finds request = true ∧
              session.ReadSilenced host request ∨
            request.opcode = .WRQ ∧ session.finds request = false ∧
              session.WriteSilenced request)))

/-- The check of the disk space, by what the request says. -/
theorem lacksSpace_iff
    {session next : Session} {options : List TftpOption}
    (quiet : session.Negotiated next)
    (tsize : next.tsize = tsizeIn session.tsize options) :
    next.lacksSpace (supported options) = true ↔
      AsksSize options ∧
        session.storage.hasEnoughSpace session.rootDirpath
          (Session.requiredBytes (tsizeIn session.tsize options)) =
            false := by
  unfold Session.lacksSpace
  rw [Bool.and_eq_true, any_tsize_supported, quiet.storage,
    quiet.rootDirpath, tsize, Bool.not_eq_true']

/-- A request whose path was checked is given up in silence, or answered. -/
theorem openWRQ_answers (session : Session) (host : HostChoice)
    (request : ReadWritePacket) :
    (session.WriteSilenced request ∧
        ∃ reached exception, session.Negotiated reached ∧
          mute exception = true ∧
            session.openWRQ host request = reached.raise exception) ∨
      (¬ session.WriteSilenced request ∧
        ∃ reached raw,
          session.negotiateOptions request.options =
              (reached, .ok (supported request.options)) ∧
            Session.openingReply request.options
                (supported request.options) = .ok raw ∧
              session.openWRQ host request =
                ⟨reached.send raw,
                  .awaitFirstData request.options
                    (supported request.options)
                    (Writer.make (session.filePath request.filepath)
                      (formatOfMode request.mode)) 0 0⟩) := by
  unfold Session.openWRQ Session.WriteSilenced
  rcases negotiateOptions_cases session request.options with
    ⟨next, negotiated, tsize, fit⟩ | ⟨next, exception, failed, muted, unfit⟩
  · have quiet := Session.negotiateOptions_negotiated negotiated
    simp only [negotiated]
    rw [← lacksSpace_iff quiet tsize, or_iff_right (not_not.mpr fit)]
    split_ifs with full
    · exact Or.inl ⟨full, next, _, quiet, rfl, rfl⟩
    · obtain ⟨raw, answers⟩ := exists_openingReply request.options
      refine Or.inr ⟨full, next, raw, rfl, answers, ?_⟩
      simp [Session.awaitFirstDataAgain, answers, maxRetries]
  · have quiet := Session.negotiateOptions_negotiated failed
    simp only [failed]
    exact Or.inl ⟨Or.inl unfit, next, exception, quiet, muted, rfl⟩

namespace Judged

variable {peer : Address} {session : Session}

theorem openWRQ (silent : Silent peer session) (host : HostChoice)
    (request : ReadWritePacket) :
    Judged peer (session.WriteSilenced request)
      (session.openWRQ host request) := by
  rcases openWRQ_answers session host request with
    ⟨silenced, reached, exception, quiet, muted, refused⟩ |
      ⟨welcome, reached, raw, negotiated, answers, waits⟩
  · rw [refused]
    exact
      (raise_mute (silent.negotiated quiet) muted).of_iff
        (by simp [silenced])
  · have quiet := Session.negotiateOptions_negotiated negotiated
    have loops :=
      awaitFirstDataAgain (silent.negotiated quiet) host answers
        (Writer.make (session.filePath request.filepath)
          (formatOfMode request.mode)) 0
    simp only [Session.awaitFirstDataAgain, maxRetries, answers,
      Nat.zero_lt_succ, if_true] at loops
    rw [waits]
    exact loops.of_iff (by simp [welcome])

/-- A request which cannot be parsed. -/
theorem unparsed (silent : Silent peer session) {host : HostChoice}
    {introPacket : Bytes} {exception : Exception}
    (parsed : ReadWritePacket.ofRaw introPacket = .error exception) :
    Judged peer (session.Silenced host introPacket)
      (session.raise exception) := by
  refine (raise silent exception).of_iff ?_
  unfold Session.Silenced
  rw [parsed]
  cases ReadWritePacket.ofRaw_error parsed with
  | illegal operation => simp [illegalOperation, mute, errorReply]
  | negotiation => simp [mute, errorReply]
  | range => simp [mute, excused]

theorem followOnRRQ (silent : Silent peer session)
    (positive : 0 < session.blksize) (host : HostChoice)
    {introPacket : Bytes}
    (known : getOpcodeFromRaw introPacket = .ok .RRQ) :
    Judged peer (session.Silenced host introPacket)
      (session.followOnRRQ host introPacket) := by
  unfold Session.followOnRRQ
  cases parsed : ReadWritePacket.ofRaw introPacket with
  | error exception => exact unparsed silent parsed
  | ok request =>
      have kind : request.opcode = .RRQ := by
        have same := (ReadWritePacket.getOpcode_ofRaw parsed).1
        rw [known] at same
        exact (Except.ok.inj same).symm
      unfold Storage.fileExists Session.Silenced Session.finds
      simp only [parsed, kind, true_and, false_and, or_false, reduceCtorEq,
        false_or, Except.ok.injEq, exists_eq_left']
      by_cases fails : host.statFails = true
      · simp only [fails, if_true]
        exact (raise_mute silent rfl).of_iff (by simp)
      · simp only [fails, if_false, Bool.false_eq_true, false_or]
        cases (session.storage.files.lookup
            (session.filePath request.filepath)).isSome with
        | false => exact of_iff (raise_heard silent rfl) (by simp)
        | true =>
            dsimp only
            split_ifs with under
            · exact
                (openRRQ silent positive host request).of_iff
                  (by simp [under])
            · exact of_iff (raise_heard silent rfl) (by simp [under])

theorem followOnWRQ (silent : Silent peer session) (host : HostChoice)
    {introPacket : Bytes}
    (known : getOpcodeFromRaw introPacket = .ok .WRQ) :
    Judged peer (session.Silenced host introPacket)
      (session.followOnWRQ host introPacket) := by
  unfold Session.followOnWRQ
  cases parsed : ReadWritePacket.ofRaw introPacket with
  | error exception => exact unparsed silent parsed
  | ok request =>
      have kind : request.opcode = .WRQ := by
        have same := (ReadWritePacket.getOpcode_ofRaw parsed).1
        rw [known] at same
        exact (Except.ok.inj same).symm
      unfold Storage.fileExists Session.Silenced Session.finds
      simp only [parsed, kind, true_and, false_and, reduceCtorEq,
        false_or, Except.ok.injEq, exists_eq_left']
      by_cases fails : host.statFails = true
      · simp only [fails, if_true]
        exact (raise_mute silent rfl).of_iff (by simp)
      · simp only [fails, if_false, Bool.false_eq_true, false_or]
        cases (session.storage.files.lookup
            (session.filePath request.filepath)).isSome with
        | true => exact of_iff (raise_heard silent rfl) (by simp)
        | false =>
            dsimp only
            split_ifs with under
            · exact
                (openWRQ silent host request).of_iff (by simp [under])
            · exact of_iff (raise_heard silent rfl) (by simp [under])

/-- Only a request can be left without an answer. -/
theorem not_silenced_of_other
    {session : Session} {host : HostChoice} {introPacket : Bytes}
    (noRead : getOpcodeFromRaw introPacket ≠ .ok .RRQ)
    (noWrite : getOpcodeFromRaw introPacket ≠ .ok .WRQ) :
    ¬ session.Silenced host introPacket := by
  rintro (range | ⟨request, parsed, _⟩)
  · rcases ReadWritePacket.getOpcode_of_range range with reads | writes
    · exact noRead reads
    · exact noWrite writes
  · obtain ⟨known, kind | kind⟩ := ReadWritePacket.getOpcode_ofRaw parsed
    · rw [kind] at known
      exact noRead known
    · rw [kind] at known
      exact noWrite known

theorem followOnIntroPacket (silent : Silent peer session)
    (positive : 0 < session.blksize) (host : HostChoice)
    (introPacket : Bytes) :
    Judged peer (session.Silenced host introPacket)
      (session.followOnIntroPacket host introPacket) := by
  unfold Session.followOnIntroPacket
  cases known : getOpcodeFromRaw introPacket with
  | error exception =>
      have open_ : ¬ session.Silenced host introPacket :=
        not_silenced_of_other (by simp [known]) (by simp [known])
      obtain ⟨operation, rfl⟩ := getOpcodeFromRaw_error known
      obtain ⟨rfl, errors⟩ := silent
      refine ⟨iff_of_true ?_ open_, ?_, trivial⟩
      · intro thrown ended _
        cases ended
        refine
          ⟨⟨.ILLEGAL_OPERATION, text "Invalid opcode in intro packet"⟩,
            ?_, ?_⟩
        · simp [Handler.sent, errors]
        · simp [illegalOperation, codesOf]
      · intro waiting
        exact absurd rfl (waiting _)
  | ok opcode =>
      cases opcode with
      | RRQ => exact followOnRRQ silent positive host known
      | WRQ => exact followOnWRQ silent host known
      | _ =>
          have open_ : ¬ session.Silenced host introPacket :=
            not_silenced_of_other (by simp [known]) (by simp [known])
          exact of_iff (raise_heard silent rfl) (by simp [open_])

end Judged

/-! ## The whole run -/

theorem Silent.make (clientAddress : Address) (rootDirpath : Path)
    (files : FileSystem) :
    Silent clientAddress
      (Session.make clientAddress rootDirpath files) :=
  ⟨rfl, rfl⟩

/--
Exactly when every failure of a handler is reported, whatever is requested,
whatever the handler hears and whatever others do to the files meanwhile.
-/
theorem failures_are_reported_iff (clientAddress : Address)
    (rootDirpath : Path) (files : FileSystem) (host : HostChoice)
    (introPacket : Bytes) (changes : List (FileSystem × Event)) :
    let session := Session.make clientAddress rootDirpath files
    let start := session.followOnIntroPacket host introPacket
    Reports clientAddress (run Handler.stepAmid start changes) ↔
      ¬ session.Silenced host introPacket ∧
        ∀ taken ∈ stepsOf Handler.stepAmid start changes,
          ¬ (taken.1.withFiles taken.2.1).Silenced taken.2.2 := by
  intro session start
  have silent : Silent clientAddress session :=
    .make clientAddress rootDirpath files
  have size : 0 < session.blksize := Nat.zero_lt_succ 511
  have judged : Judged clientAddress _ start :=
    .followOnIntroPacket silent size host introPacket
  have reports := (judged.run changes).reports
  simpa [not_or] using reports

/-- A request to read `f` in blocks of 99999999999 bytes. -/
def hugeBlocksRequest : Bytes :=
  [0, 1] ++ text "f" ++ [0] ++ text "octet" ++ [0] ++ text "blksize" ++
    [0] ++ text "99999999999" ++ [0]

/-- A request to read `f`. -/
def plainRequest : Bytes :=
  [0, 1] ++ text "f" ++ [0] ++ text "octet" ++ [0]

/-- A request to write the five bytes of `f`. -/
def fiveBytesRequest : Bytes :=
  [0, 2] ++ text "f" ++ [0] ++ text "octet" ++ [0] ++ text "tsize" ++
    [0] ++ text "5" ++ [0]

/-- A disk on which four bytes are free. -/
def fullDisk : FileSystem :=
  { smallDisk none with available := fun _ => some 4 }

/--
An option value, a disk and a file: three failures, and the client hears of
none of them.
-/
theorem silent_failures :
    let serve files :=
      Session.followOnIntroPacket
        (Session.make ⟨2, 1024⟩ (text "r") files)
    let value := serve (smallDisk none) {} hugeBlocksRequest
    let disk := serve fullDisk {} fiveBytesRequest
    let file :=
      serve (smallDisk (some (text "hello"))) { readFails := true }
        plainRequest
    (value.control = .ended (.threw .stdOutOfRange) ∧ value.sent = []) ∧
      (disk.control = .ended (.threw (.fileHandler .notEnoughSpace)) ∧
        disk.sent = []) ∧
        (file.control =
            .ended (.threw (.fileHandler .failedToReadFromFile)) ∧
          file.sent = []) ∧
          ¬ Reports ⟨2, 1024⟩ (run Handler.stepAmid value []) ∧
            ¬ Reports ⟨2, 1024⟩ (run Handler.stepAmid disk []) ∧
              ¬ Reports ⟨2, 1024⟩ (run Handler.stepAmid file []) := by
  intro serve value disk file
  have first : value.control = .ended (.threw .stdOutOfRange) := by decide
  have second :
      disk.control = .ended (.threw (.fileHandler .notEnoughSpace)) := by
    decide
  have third :
      file.control =
        .ended (.threw (.fileHandler .failedToReadFromFile)) := by
    decide
  refine
    ⟨⟨first, by decide⟩, ⟨second, by decide⟩, ⟨third, by decide⟩, ?_, ?_,
      ?_⟩
  · exact not_reports_of_nothing first rfl (by decide)
  · exact not_reports_of_nothing second rfl (by decide)
  · exact not_reports_of_nothing third rfl (by decide)

end IsaTftp.Server
