import IsaTftp.Client.Main
import IsaTftp.Download.Undisturbed
import IsaTftp.Upload.Undisturbed

/-!
# What was put can be got

One client is started with a path for its standard input, and later another
one, on another machine, with the same path as the file to read.  Both are
started by `main`, so both ask for one timeout and keep the default block
size.  If nothing is lost, the second client ends with the input of the first.
-/

namespace IsaTftp

open IsaTftp.Wire
open IsaTftp.Files
open IsaTftp.Transfer
open IsaTftp.Client
open IsaTftp.Server
open IsaTftp.Library.Chunking

/-! ## Clients which `main` starts -/

theorem requestable_timeoutOption : RequestableList [timeoutOption] where
  each := by
    intro option member
    obtain rfl := List.mem_singleton.mp member
    constructor
    · exact ⟨text "timeout", make_timeoutOption⟩
    · decide
    · exact .of_all (by decide) (by decide)
    · intro isTsize
      cases isTsize
  distinct := by simp

theorem not_asksSize_timeoutOption : ¬ AsksSize [timeoutOption] := by
  rintro ⟨option, member, isTsize⟩
  obtain rfl := List.mem_singleton.mp member
  cases isTsize

/-- A request of such a client is read as it was meant, if it is not cut. -/
theorem exists_carriedRequest
    {opcode : Opcode} (isRequest : opcode = .RRQ ∨ opcode = .WRQ)
    {filepath : Bytes} (nulFree : nul ∉ filepath)
    (short : filepath.length ≤ 491) :
    ∃ request,
      CarriedRequest ⟨opcode, filepath, .OCTET, [timeoutOption]⟩
        request := by
  obtain ⟨request, encoded, length⟩ := exists_makeRaw opcode filepath
  refine ⟨request, isRequest, nulFree, ⟨?_, ?_⟩, encoded, ?_⟩
  · intro option member
    exact (requestable_timeoutOption.each option member).encodable
  · exact requestable_timeoutOption.distinct
  · rw [length, maxRequestLength]
    omega

/--
Once a missing file has been written the check of its path says the same, if
the check looked at the place where the file then was created.
-/
theorem ChangesAt.isFilePathUnderDirectory
    {before after : FileSystem} {path directory : Path}
    (changes : before.ChangesAt path after)
    (absent : before.lookup path = none)
    (served : before.lookup directory ≠ none)
    (direct : before.weaklyCanonical path = before.canonical path)
    (stored : after.lookup path ≠ none) :
    after.isFilePathUnderDirectory path directory =
      before.isFilePathUnderDirectory path directory := by
  have apart : before.canonical directory ≠ before.canonical path := by
    intro same
    apply served
    rw [FileSystem.lookup, same]
    exact absent
  have servedLater : after.lookup directory ≠ none := by
    rwa [changes.elsewhere directory apart]
  have sameDirectory :
      after.weaklyCanonical directory =
        before.weaklyCanonical directory := by
    rw [FileSystem.weaklyCanonical_of_found servedLater,
      FileSystem.weaklyCanonical_of_found served, changes.canonical]
  have samePath :
      after.weaklyCanonical path = before.weaklyCanonical path := by
    rw [FileSystem.weaklyCanonical_of_found stored, direct,
      changes.canonical]
  have sameString :
      after.relativeString path directory =
        before.relativeString path directory := by
    simp only [FileSystem.relativeString, sameDirectory, samePath]
  simp only [FileSystem.isFilePathUnderDirectory, sameString]

/-! ## Two transfers -/

/-- Two command lines, and nothing in the way of either transfer. -/
structure Shares (putArgv getArgv : List Bytes)
    (put get : TftpClientArgs) (stdin : Bytes) (rootDirpath : Path)
    (files clientFiles : FileSystem) : Prop where
  puts : ∃ hostname port, Client.main putArgv = .runs hostname port put
  gets : ∃ hostname port, Client.main getArgv = .runs hostname port get
  writes : put.mode = .WRITE
  reads : get.mode = .READ
  samePath : get.filepath = put.destFilepath
  nulFree : nul ∉ put.destFilepath
  short : put.destFilepath.length ≤ 491
  few : stdin.length < 65535 * 512
  absent : files.lookup (rootDirpath ++ slash :: put.destFilepath) = none
  served : files.lookup rootDirpath ≠ none
  /-- the path is no link which leads nowhere -/
  direct :
    files.weaklyCanonical (rootDirpath ++ slash :: put.destFilepath) =
      files.canonical (rootDirpath ++ slash :: put.destFilepath)
  under :
    files.isFilePathUnderDirectory
        (rootDirpath ++ slash :: put.destFilepath) rootDirpath =
      true
  writable : clientFiles.lookup get.destFilepath ≠ some .directory

namespace Shares

variable {putArgv getArgv : List Bytes} {put get : TftpClientArgs}
variable {stdin : Bytes} {rootDirpath : Path}
variable {files clientFiles : FileSystem}

theorem putOptions
    (shares :
      Shares putArgv getArgv put get stdin rootDirpath files clientFiles) :
    put.options = [timeoutOption] ∧ put.fileMode = .OCTET := by
  obtain ⟨hostname, port, started⟩ := shares.puts
  exact options_of_main started

theorem getOptions
    (shares :
      Shares putArgv getArgv put get stdin rootDirpath files clientFiles) :
    get.options = [timeoutOption] ∧ get.fileMode = .OCTET := by
  obtain ⟨hostname, port, started⟩ := shares.gets
  exact options_of_main started

/-- Nothing stands in the way of the first transfer. -/
theorem upload
    (shares :
      Shares putArgv getArgv put get stdin rootDirpath files clientFiles) :
    ∃ request,
      Upload.Unhindered put request stdin rootDirpath files := by
  obtain ⟨options, octet⟩ := shares.putOptions
  obtain ⟨request, carried⟩ :=
    exists_carriedRequest (Or.inr rfl) shares.nulFree shares.short
  refine ⟨request, ?_⟩
  constructor
  · exact shares.writes
  · exact octet
  · rw [options]
    exact carried
  · rw [options]
    exact requestable_timeoutOption
  · exact shares.absent
  · exact shares.under
  · rw [options]
    intro asks
    exact absurd asks not_asksSize_timeoutOption
  · rw [options]
    exact shares.few

/-- Nor in the way of the second one, once the file is there. -/
theorem download
    (shares :
      Shares putArgv getArgv put get stdin rootDirpath files clientFiles)
    {later : FileSystem}
    (changes :
      files.ChangesAt (rootDirpath ++ slash :: put.destFilepath) later)
    (stored :
      later.content (rootDirpath ++ slash :: put.destFilepath) =
        some stdin) :
    ∃ request,
      Download.Unhindered get request stdin rootDirpath later
        clientFiles := by
  obtain ⟨options, octet⟩ := shares.getOptions
  obtain ⟨request, carried⟩ :=
    exists_carriedRequest (Or.inl rfl) shares.nulFree shares.short
  refine ⟨request, ?_⟩
  constructor
  · constructor
    · exact shares.reads
    · exact octet
    · rw [options, shares.samePath]
      exact carried
  · rw [options]
    exact requestable_timeoutOption
  · rw [shares.samePath]
    exact stored
  · have found := FileSystem.lookup_ne_none_of_content
      (Option.ne_none_iff_exists'.mpr ⟨stdin, stored⟩)
    rw [shares.samePath,
      ChangesAt.isFilePathUnderDirectory changes shares.absent shares.served
        shares.direct found]
    exact shares.under
  · rw [options]
    intro asks
    exact absurd asks not_asksSize_timeoutOption
  · rw [options]
    intro option member isTsize
    exact
      absurd ⟨option, member, isTsize⟩ not_asksSize_timeoutOption
  · exact shares.writable
  · rw [options]
    exact shares.few

end Shares

variable {putArgv getArgv : List Bytes} {put get : TftpClientArgs}
variable {stdin : Bytes} {rootDirpath : Path}
variable {files clientFiles : FileSystem}

/--
What one client has put, another one gets, if nothing is in the way: no
datagram is lost and no call fails, so both destinations can be opened.  Each
transfer takes one turn for the option and one for every block of 512 bytes;
after them all four parties have returned, and the second client has the input
of the first.
-/
theorem put_then_get
    (shares :
      Shares putArgv getArgv put get stdin rootDirpath files clientFiles)
    {putSession getSession : Client.Session}
    {serverAddress : Address} {putFiles : FileSystem} {getStdin : Bytes}
    (putMade :
      Client.Session.make put serverAddress stdin putFiles =
        .ok putSession)
    (getMade :
      Client.Session.make get serverAddress getStdin clientFiles =
        .ok getSession)
    (putAddress getAddress : Address) {first second : Address}
    (firstHost : first.ip = serverAddress.ip)
    (secondHost : second.ip = serverAddress.ip) :
    let turns := chunkCount 512 stdin + 1
    let uploaded :=
      (Conversation.turn first)^[turns]
        (Conversation.start putSession putAddress rootDirpath files)
    let stored := uploaded.handler.session.storage.files
    let downloaded :=
      (Conversation.turn second)^[turns]
        (Conversation.start getSession getAddress rootDirpath stored)
    Upload.Done files (rootDirpath ++ slash :: put.destFilepath) stdin
        uploaded ∧
      Download.Done get.destFilepath stdin downloaded := by
  intro turns uploaded stored downloaded
  have size : blksizeIn [timeoutOption] = 512 := by
    decide
  have positive : 0 < 512 := by
    decide
  have fitsBuffer : 512 + 4 ≤ UdpClient.maxPacketSize := by
    decide
  have few : chunkCount 512 stdin ≤ 65535 := by
    have bound := shares.few
    rw [Nat.mul_comm] at bound
    exact Nat.div_lt_of_lt_mul bound
  have done :
      Upload.Done files (rootDirpath ++ slash :: put.destFilepath) stdin
        uploaded := by
    obtain ⟨request, upload⟩ := shares.upload
    have inTurn := upload.inTurn putMade putAddress firstHost
    rw [shares.putOptions.1, size] at inTurn
    exact (inTurn.completes positive fitsBuffer few).1
  refine ⟨done, ?_⟩
  obtain ⟨request, download⟩ :=
    shares.download done.changes done.stored
  have some_ : get.options ≠ [] := by
    simp [shares.getOptions.1]
  have lockstep :=
    download.settles some_ getMade getAddress secondHost
  rw [shares.getOptions.1, size] at lockstep
  exact (lockstep.completes positive fitsBuffer few).1

/-- `hello` goes to the path `f` of an empty server, and comes back as `g`. -/
theorem smallShares :
    Shares [text "-h", text "s", text "-t", text "f"]
      [text "-h", text "s", text "-f", text "f", text "-t", text "g"]
      ⟨[], text "f", .WRITE, .OCTET, [timeoutOption]⟩
      ⟨text "f", text "g", .READ, .OCTET, [timeoutOption]⟩
      (text "hello") (text "r") (smallDisk none) (smallDisk none) where
  puts := ⟨text "s", 69, by decide⟩
  gets := ⟨text "s", 69, by decide⟩
  writes := rfl
  reads := rfl
  samePath := rfl
  nulFree := by decide
  short := by decide
  few := by decide
  absent := by decide
  served := by decide
  direct := by decide
  under := by decide
  writable := by decide

/-- The theorem for these two clients. -/
theorem put_then_get_small :
    ∃ putSession getSession,
      Client.Session.make
            ⟨[], text "f", .WRITE, .OCTET, [timeoutOption]⟩ ⟨1, 69⟩
            (text "hello") (smallDisk none) =
          .ok putSession ∧
        Client.Session.make
              ⟨text "f", text "g", .READ, .OCTET, [timeoutOption]⟩ ⟨1, 69⟩
              [] (smallDisk none) =
            .ok getSession ∧
          let uploaded :=
            (Conversation.turn ⟨1, 2001⟩)^[2]
              (Conversation.start putSession ⟨2, 1024⟩ (text "r")
                (smallDisk none))
          Download.Done (text "g") (text "hello")
            ((Conversation.turn ⟨1, 2002⟩)^[2]
              (Conversation.start getSession ⟨3, 1025⟩ (text "r")
                uploaded.handler.session.storage.files)) := by
  obtain ⟨putSession, putMade, _⟩ :=
    setupUdpClient_setsUp
      ⟨⟨[], text "f", .WRITE, .OCTET, [timeoutOption]⟩, ⟨1, 69⟩, 512, 1,
        UdpClient.make, ⟨text "hello", false⟩, ⟨smallDisk none, []⟩⟩
  obtain ⟨getSession, getMade, _⟩ :=
    setupUdpClient_setsUp
      ⟨⟨text "f", text "g", .READ, .OCTET, [timeoutOption]⟩, ⟨1, 69⟩, 512,
        1, UdpClient.make, ⟨[], false⟩, ⟨smallDisk none, []⟩⟩
  refine ⟨putSession, getSession, putMade, getMade, ?_⟩
  exact
    (put_then_get smallShares putMade getMade ⟨2, 1024⟩ ⟨3, 1025⟩
      (show (⟨1, 2001⟩ : Address).ip = (⟨1, 69⟩ : Address).ip from rfl)
      (show (⟨1, 2002⟩ : Address).ip = (⟨1, 69⟩ : Address).ip
        from rfl)).2

end IsaTftp
