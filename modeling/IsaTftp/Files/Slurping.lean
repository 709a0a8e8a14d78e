import IsaTftp.Files.Agreeing

/-!
# Contents which both readers return alike

Every call takes at least eight bytes.  So a call of `ReadBytesFromStdin` can
read too much exactly if somewhere behind the first seven bytes a CR or an LF
comes before a byte which is neither.
-/

namespace IsaTftp.Files

open IsaTftp.Wire
open IsaTftp.Library.Runs

/-- Behind a CR or an LF there is nothing but CR and LF. -/
def LinesLast (raw : Bytes) : Prop :=
  raw.IsChain fun byte next => IsLineByte byte → IsLineByte next

theorem LinesLast.cons_iff {byte : UInt8} {rest : Bytes}
    (line : IsLineByte byte) :
    LinesLast (byte :: rest) ↔ ∀ next ∈ rest, IsLineByte next := by
  induction rest generalizing byte with
  | nil => simp [LinesLast]
  | cons next rest induction =>
      rw [LinesLast, List.isChain_cons_cons, List.forall_mem_cons]
      constructor
      · rintro ⟨onward, chain⟩
        have isLine := onward line
        exact ⟨isLine, (induction isLine).mp chain⟩
      · rintro ⟨isLine, lines⟩
        exact ⟨fun _ => isLine, (induction isLine).mpr lines⟩

theorem LinesLast.suffix {raw rest : Bytes} (last : LinesLast raw)
    (ends : rest <:+ raw) : LinesLast rest :=
  List.IsChain.suffix last ends

/-! ## Contents without such a place -/

variable {stray : UInt8} {numBytes : Nat} {overflow : Bytes}
  {stream : Stream} {content : Bytes}

/-- What is left of a stream was behind the bytes which the call needs. -/
theorem Fill.rest_suffix {buffer kept : Bytes} {next : Stream}
    (fill : Fill stray numBytes overflow stream buffer kept next) :
    next.rest <:+ stream.rest.drop (numBytes - overflow.length) := by
  cases fill with
  | short => exact List.nil_suffix
  | @stops _ taken rest some_ enough =>
      rw [List.length_append] at enough
      have before : numBytes - overflow.length ≤ taken.length := by
        omega
      dsimp only
      rw [List.drop_append_of_le_length before]
      exact List.suffix_append _ _
  | ends => exact List.nil_suffix
  | cut enough =>
      rw [List.length_append, Nat.sub_eq_zero_of_le (by omega)]
      exact List.suffix_refl _

/-- Nothing was read yet, or at least eight bytes. -/
structure StdHandler.Begun (handler : StdHandler) (content : Bytes) :
    Prop where
  netascii : handler.mode = .NETASCII
  atEnd : handler.stdin.eof = true → handler.stdin.rest = []
  place : handler.overflowBuffer = [] ∧ handler.stdin.rest = content ∨
    handler.stdin.rest <:+ content.drop 8

theorem StdHandler.Begun.not_slurps
    {handler : StdHandler} (begun : handler.Begun content)
    (last : LinesLast (content.drop 7)) (call : ReadCall) :
    ¬ handler.Slurps call := by
  rintro ⟨_, few, _, enough, line, byte, member, plain⟩
  have count : 0 < call.numBytes - handler.overflowBuffer.length := by
    omega
  have parts := List.take_append_drop
    (call.numBytes - handler.overflowBuffer.length) handler.stdin.rest
  have length :
      (handler.stdin.rest.take
        (call.numBytes - handler.overflowBuffer.length)).length =
        call.numBytes - handler.overflowBuffer.length := by
    rw [List.length_take]
    omega
  generalize handler.stdin.rest.take
    (call.numBytes - handler.overflowBuffer.length) = first at *
  generalize handler.stdin.rest.drop
    (call.numBytes - handler.overflowBuffer.length) = second at *
  obtain ⟨before, ending, rfl⟩ :=
    (List.eq_nil_or_concat' first).resolve_left
      (List.ne_nil_of_length_pos (by omega))
  rw [← List.append_assoc, endsInLineByte_concat] at line
  rw [List.append_assoc, List.singleton_append] at parts
  rw [List.length_append, List.length_singleton] at length
  have onward : LinesLast (ending :: second) := by
    rcases begun.place with ⟨empty, whole⟩ | later
    · rw [empty, List.length_nil] at length
      have atLeast := call.atLeast
      rw [← whole, ← parts,
        List.drop_append_of_le_length (by omega)] at last
      exact last.suffix (List.suffix_append _ _)
    · have inside : ending :: second <:+ content.drop 7 := by
        have step : content.drop 8 <:+ content.drop 7 := by
          rw [← List.drop_drop (i := 1) (j := 7)]
          exact List.drop_suffix _ _
        refine (List.IsSuffix.trans ?_ later).trans step
        rw [← parts]
        exact List.suffix_append _ _
      exact last.suffix inside
  exact plain ((LinesLast.cons_iff line).mp onward byte member)

/-- A call which does not read too much leaves the handler begun. -/
theorem StdHandler.Begun.after
    {handler : StdHandler} (begun : handler.Begun content)
    (last : LinesLast (content.drop 7)) (call : ReadCall) :
    (handler.after call).Begun content := by
  have calm := begun.not_slurps last call
  have least : 0 < call.numBytes := Nat.zero_lt_of_lt call.atLeast
  have quiet : ¬ Files.Slurps call.numBytes handler.overflowBuffer
      handler.stdin :=
    fun slurps => calm ⟨begun.netascii, slurps⟩
  unfold StdHandler.after StdHandler.readBytesFromStdin
  rw [begun.netascii]
  simp only [ReadCall.host, readNetascii_eq least quiet]
  cases read : Reader.readNetascii false call.stray call.numBytes
      handler.overflowBuffer handler.stdin with
  | error exception => exact begun
  | ok result =>
      obtain ⟨chunk, left, rest⟩ := result
      obtain ⟨buffer, kept, fill, _⟩ := exists_fill least begun.atEnd read
      refine ⟨rfl, fill.atEnd begun.atEnd, Or.inr ?_⟩
      refine fill.rest_suffix.trans ?_
      rcases begun.place with ⟨empty, whole⟩ | later
      · have atLeast := call.atLeast
        rw [empty, whole, List.length_nil]
        have same : call.numBytes - 0 = 8 + (call.numBytes - 8) := by
          omega
        rw [same, ← List.drop_drop]
        exact List.drop_suffix _ _
      · exact (List.drop_suffix _ _).trans later

/-- Then no call reads too much. -/
theorem not_slurps_of_linesLast
    (last : LinesLast (content.drop 7)) (calls : List ReadCall) :
    ∀ taken ∈ stepsOf StdHandler.after
        (StdHandler.make .NETASCII ⟨content, false⟩) calls,
      ¬ taken.1.Slurps taken.2 := by
  intro taken member
  have start : (StdHandler.make .NETASCII ⟨content, false⟩).Begun content :=
    ⟨rfl, by simp [StdHandler.make], Or.inl ⟨rfl, rfl⟩⟩
  have begun :=
    stepsOf_invariant (fun handler => StdHandler.Begun handler content)
      (fun _ call begun => begun.after last call) start member
  exact begun.not_slurps last taken.2

/-! ## Contents with such a place -/

section

variable {before rest : Bytes} {line plain : UInt8}

/-- A first read up to a CR or an LF. -/
theorem read_up_to (failure : Exception) (before : Bytes) (line : UInt8)
    (rest : Bytes) :
    Stream.read ⟨before ++ line :: rest, false⟩ false failure
        (before.length + 1) =
      .ok (before ++ [line], ⟨rest, false⟩) := by
  have parts : before ++ line :: rest = before ++ [line] ++ rest := by
    simp
  have length : (before ++ [line]).length = before.length + 1 := by
    simp
  have enough :
      ¬ (before ++ [line] ++ rest).length < before.length + 1 := by
    rw [List.length_append, length]
    omega
  simp only [Stream.read, Bool.false_eq_true, if_false, parts, enough,
    decide_false]
  rw [List.take_left' length, List.drop_left' length]

/-- A buffer which is too large for its chunk is cut. -/
theorem splitChunk_of_large {size : Nat} {buffer : Bytes}
    (large : size < buffer.length) (overflow : Bytes) :
    splitChunk size (encodeAndEndLine size buffer) overflow =
      ((encodeAndEndLine size buffer).take size,
        (encodeAndEndLine size buffer).drop size) := by
  apply if_pos
  have longer := length_le_formatToNETASCII buffer
  unfold encodeAndEndLine
  dsimp only
  split_ifs
  · rw [List.length_append]
    omega
  · omega

/-- `ReadFile` reads up to the plain byte behind the first chunk. -/
theorem readNetascii_in_front_of_plain
    (isLine : IsLineByte line) (other : ¬ IsLineByte plain)
    (stray : UInt8) (before rest : Bytes) :
    let size := before.length + 1
    let encoded := encodeAndEndLine size (before ++ [line, plain])
    Reader.readNetascii false stray size []
        ⟨before ++ line :: plain :: rest, false⟩ =
      .ok (encoded.take size, encoded.drop size, ⟨rest, false⟩) := by
  intro size encoded
  have ends := (endsInLineByte_concat before line).mpr isLine
  have stops :
      endsInLineByte (before ++ [line] ++ [plain]) = false := by
    rw [← Bool.not_eq_true, endsInLineByte_concat]
    exact other
  have filled :
      Reader.fillBuffer false stray size []
          ⟨before ++ line :: plain :: rest, false⟩ =
        .ok (before ++ [line, plain], ⟨rest, false⟩) := by
    unfold Reader.fillBuffer
    simp only [List.length_nil, size, Nat.succ_pos, if_true, Nat.sub_zero,
      read_up_to, List.nil_append, List.length_append,
      List.length_singleton, and_self, extendFromStream,
      Bool.false_eq_true, if_false, extendFromRest, ends,
      extendFromRest_of_plain stops]
    simp
  unfold Reader.readNetascii
  rw [takeFromOverflow, if_neg (by simp)]
  dsimp only
  rw [filled]
  dsimp only
  rw [splitChunk_of_large (by simp [size])]

/-- `ReadBytesFromStdin` reads all that is left. -/
theorem readBytes_in_front_of_plain
    (isLine : IsLineByte line) (stray : UInt8) (before rest : Bytes) :
    let size := before.length + 1
    let encoded :=
      encodeAndEndLine size (before ++ line :: rest ++ [stray])
    StdHandler.readNetascii false stray size []
        ⟨before ++ line :: rest, false⟩ =
      .ok (encoded.take size, encoded.drop size, ⟨[], true⟩) := by
  intro size encoded
  have ends := (endsInLineByte_concat before line).mpr isLine
  have filled :
      StdHandler.fillBuffer false stray size []
          ⟨before ++ line :: rest, false⟩ =
        .ok (before ++ line :: rest ++ [stray], ⟨[], true⟩) := by
    unfold StdHandler.fillBuffer
    simp only [List.length_nil, size, Nat.succ_pos, if_true, Nat.sub_zero,
      read_up_to, List.nil_append, List.length_append,
      List.length_singleton, and_self, ends, Bool.false_eq_true, if_false]
    simp
  unfold StdHandler.readNetascii
  rw [takeFromOverflow, if_neg (by simp)]
  dsimp only
  rw [filled]
  dsimp only
  rw [splitChunk_of_large (by simp [size])]

/-- At the end of the file everything kept fits into a large chunk. -/
theorem readNetascii_at_end {size : Nat} {eof : Bool}
    (fits : (formatToNETASCII overflow).length + 2 ≤ size)
    (stray : UInt8) :
    Reader.readNetascii false stray size overflow ⟨[], eof⟩ =
      .ok (formatToNETASCII overflow ++ crLf, [], ⟨[], true⟩) := by
  have longer := length_le_formatToNETASCII overflow
  cases read : Reader.readNetascii false stray size overflow ⟨[], eof⟩ with
  | error exception => cases (Reader.readNetascii_error read).2
  | ok result =>
      obtain ⟨chunk, left, next⟩ := result
      obtain ⟨buffer, kept, fill, split⟩ :=
        exists_fill (by omega) (fun _ => rfl) read
      rw [fill.splitChunk (by omega)] at split
      obtain ⟨rfl, rfl⟩ := Prod.mk.inj split
      have whole : buffer = overflow ∧ next = ⟨[], true⟩ := by
        generalize atEnd : (⟨[], eof⟩ : Stream) = stream at fill
        cases fill with
        | short =>
            obtain ⟨rfl, _⟩ := Stream.mk.inj atEnd
            exact ⟨List.append_nil _, rfl⟩
        | stops some_ =>
            have none_ := (Stream.mk.inj atEnd).1
            simp [some_] at none_
        | ends _ _ enough =>
            obtain ⟨rfl, _⟩ := Stream.mk.inj atEnd
            rw [List.append_nil] at enough
            omega
        | cut enough =>
            rw [List.length_append] at longer
            omega
      obtain ⟨rfl, rfl⟩ := whole
      have ended :
          encodeAndEndLine size buffer = formatToNETASCII buffer ++ crLf :=
        encodeAndEndLine_of_few (by omega)
      have length : (formatToNETASCII buffer ++ crLf).length ≤ size := by
        rw [List.length_append]
        exact fits
      rw [ended, List.take_of_length_le length,
        List.drop_of_length_le length]

/-- Plain bytes are encoded as they are. -/
theorem formatToNETASCII_plains {plains : Bytes}
    (others : ∀ byte ∈ plains, ¬ IsLineByte byte) (rest : Bytes) :
    formatToNETASCII (plains ++ rest) =
      plains ++ formatToNETASCII rest := by
  induction plains with
  | nil => rfl
  | cons byte plains induction =>
      obtain ⟨first, later⟩ := List.forall_mem_cons.mp others
      rw [List.cons_append, formatToNETASCII_of_not_lineByte first,
        induction later]
      rfl

/-- What is kept of such a buffer grows with its plain bytes. -/
theorem length_formatToNETASCII_kept
    {plains : Bytes} (some_ : plains ≠ [])
    (others : ∀ byte ∈ plains, ¬ IsLineByte byte)
    (least : 0 < before.length) (line : UInt8) :
    let size := before.length + 1
    (formatToNETASCII
        ((encodeAndEndLine size (before ++ line :: plains)).drop
          size)).length =
      (formatToNETASCII
          ((formatToNETASCII (before ++ [line])).drop size)).length +
        plains.length + 2 := by
  intro size
  have head : ∀ rest : Bytes, (plains ++ rest).head? ≠ some lf := by
    intro rest isLf
    obtain ⟨first, more, rfl⟩ := List.exists_cons_of_ne_nil some_
    have same : first = lf := by
      simpa using isLf
    exact others first (by simp) (Or.inr same)
  have open_ : ¬ [lf] <:+ before ++ line :: plains := by
    obtain ⟨start, last, rfl⟩ :=
      (List.eq_nil_or_concat' plains).resolve_left some_
    have plain := others last (by simp)
    rw [← List.cons_append, ← List.append_assoc, suffix_singleton_concat]
    exact fun isLf => plain (Or.inr isLf.symm)
  have encoded :
      formatToNETASCII (before ++ line :: plains) =
        formatToNETASCII (before ++ [line]) ++ plains := by
    have alone := formatToNETASCII_plains others []
    rw [List.append_nil] at alone
    rw [← List.singleton_append, ← List.append_assoc,
      formatToNETASCII_append_of_head (by simpa using head []), alone,
      formatToNETASCII_nil, List.append_nil]
  have long : size ≤ (formatToNETASCII (before ++ [line])).length := by
    have longer := length_le_formatToNETASCII (before ++ [line])
    rw [List.length_append] at longer
    exact longer
  rw [encodeAndEndLine_of_open (Nat.succ_lt_succ least) open_, encoded,
    List.append_assoc, List.drop_append_of_le_length long,
    formatToNETASCII_append_of_head (head crLf),
    formatToNETASCII_plains others]
  simp [crLf]
  omega

/-! ## Both cases -/

/-- A NETASCII read, as a call. -/
theorem Reader.At.returns_cons
    {reader : Reader} {storage : Storage} {chunk left : Bytes}
    {next : Stream}
    (here : reader.At storage.files content overflow stream)
    (call : ReadCall) (calls : List ReadCall)
    (read :
      Reader.readNetascii false call.stray call.numBytes overflow stream =
        .ok (chunk, left, next)) :
    ∃ (after : Reader) (stored : Storage),
      after.At stored.files content left next ∧
        reader.returns storage (call :: calls) =
          (chunk, next.rest.length) :: after.returns stored calls := by
  let after : Reader :=
    { reader with
      file := some next
      overflowBuffer := left }
  have step :
      reader.readStream false call.stray call.numBytes stream =
        .ok (chunk, after) := by
    simp [Reader.readStream, here.netascii, here.overflow, read, after]
  obtain ⟨stored, whole, files⟩ :=
    Reader.readFile_of_readStream here.found here.stream step
  have whole :
      reader.readFile storage call.host call.numBytes =
        (.ok (chunk, after), stored) := whole
  refine ⟨after, stored, ?_, ?_⟩
  · rw [files]
    exact ⟨here.netascii, here.found, rfl, Or.inl rfl⟩
  · rw [Reader.returns, whole]
    rfl

theorem StdHandler.returns_cons
    {chunk left : Bytes} {next : Stream} (call : ReadCall)
    (calls : List ReadCall)
    (read :
      StdHandler.readNetascii false call.stray call.numBytes overflow
          stream =
        .ok (chunk, left, next)) :
    StdHandler.returns ⟨.NETASCII, overflow, stream⟩ (call :: calls) =
      (chunk, next.rest.length) ::
        StdHandler.returns ⟨.NETASCII, left, next⟩ calls := by
  rw [StdHandler.returns]
  simp only [StdHandler.readBytesFromStdin, ReadCall.host, read]

section

variable {files : FileSystem} {path : Path}

/-- A call which ends its chunk in front of the plain byte. -/
def callUpTo (before : Bytes) (long : 7 ≤ before.length) : ReadCall :=
  ⟨before.length + 1, nul, Nat.succ_le_succ long⟩

/-- Bytes are left for `ReadFile` only. -/
theorem returns_ne_of_rest
    (found :
      files.content path = some (before ++ line :: plain :: rest))
    (long : 7 ≤ before.length) (isLine : IsLineByte line)
    (other : ¬ IsLineByte plain) (more : rest ≠ []) :
    (Reader.make path .NETASCII).returns ⟨files, []⟩
        [callUpTo before long] ≠
      (StdHandler.make .NETASCII
          ⟨before ++ line :: plain :: rest, false⟩).returns
        [callUpTo before long] := by
  have file :=
    readNetascii_in_front_of_plain isLine other nul before rest
  have input :=
    readBytes_in_front_of_plain isLine nul before (plain :: rest)
  have here : (Reader.make path .NETASCII).At (⟨files, []⟩ : Storage).files
      (before ++ line :: plain :: rest) []
      ⟨before ++ line :: plain :: rest, false⟩ :=
    ⟨rfl, found, rfl, Or.inr ⟨rfl, rfl⟩⟩
  obtain ⟨after, stored, _, returned⟩ :=
    here.returns_cons (callUpTo before long) [] file
  have readAll :=
    StdHandler.returns_cons (callUpTo before long) [] input
  intro same
  rw [returned, StdHandler.make, readAll] at same
  have left := (Prod.mk.inj (List.cons.inj same).1).2
  exact more (List.length_eq_zero_iff.mp left)

/-- Nothing is left either way, but a stray byte was kept. -/
theorem exists_returns_ne_at_end
    (found : files.content path = some (before ++ [line, plain]))
    (long : 7 ≤ before.length) (isLine : IsLineByte line)
    (other : ¬ IsLineByte plain) :
    ∃ calls,
      (Reader.make path .NETASCII).returns ⟨files, []⟩ calls ≠
        (StdHandler.make .NETASCII
          ⟨before ++ [line, plain], false⟩).returns calls := by
  have file := readNetascii_in_front_of_plain isLine other nul before []
  have input := readBytes_in_front_of_plain isLine nul before [plain]
  have least : 0 < before.length := by
    omega
  have single : ∀ byte ∈ [plain], ¬ IsLineByte byte := by
    simpa using other
  have both : ∀ byte ∈ [plain, nul], ¬ IsLineByte byte := by
    simp [other, nul_not_lineByte]
  have length := length_formatToNETASCII_kept (by simp) single least line
  have longer := length_formatToNETASCII_kept (by simp) both least line
  have whole : before ++ [line, plain, nul] =
      before ++ line :: [plain] ++ [nul] := by
    simp
  dsimp only at file input length longer
  rw [whole] at longer
  generalize (encodeAndEndLine (before.length + 1)
    (before ++ line :: [plain] ++ [nul])).drop (before.length + 1) =
      keptOfStdin at input longer
  generalize (encodeAndEndLine (before.length + 1)
    (before ++ [line, plain])).drop (before.length + 1) =
      keptOfFile at file length
  let size :=
    (formatToNETASCII keptOfFile).length +
      (formatToNETASCII keptOfStdin).length + 8
  let second : ReadCall := ⟨size, nul, Nat.le_add_left _ _⟩
  have fileAtEnd :
      Reader.readNetascii false nul size keptOfFile ⟨[], false⟩ =
        .ok (formatToNETASCII keptOfFile ++ crLf, [], ⟨[], true⟩) :=
    readNetascii_at_end (by omega) nul
  have inputAtEnd :
      StdHandler.readNetascii false nul size keptOfStdin ⟨[], true⟩ =
        .ok (formatToNETASCII keptOfStdin ++ crLf, [], ⟨[], true⟩) := by
    have least : 0 < size := Nat.zero_lt_of_lt second.atLeast
    rw [readNetascii_eq least fun slurps => Bool.noConfusion slurps.2.1]
    exact readNetascii_at_end (by omega) nul
  have here : (Reader.make path .NETASCII).At (⟨files, []⟩ : Storage).files
      (before ++ [line, plain]) [] ⟨before ++ [line, plain], false⟩ :=
    ⟨rfl, found, rfl, Or.inr ⟨rfl, rfl⟩⟩
  obtain ⟨after, stored, there, returned⟩ :=
    here.returns_cons (callUpTo before long) [second] file
  obtain ⟨_, _, _, returnedAgain⟩ :=
    there.returns_cons second [] fileAtEnd
  have readAll :=
    StdHandler.returns_cons (callUpTo before long) [second] input
  have readAgain := StdHandler.returns_cons second [] inputAtEnd
  refine ⟨[callUpTo before long, second], fun same => ?_⟩
  rw [returned, returnedAgain, StdHandler.make, readAll, readAgain] at same
  have chunks := (Prod.mk.inj (List.cons.inj (List.cons.inj same).2).1).1
  have lengths := congrArg List.length (List.append_cancel_right chunks)
  simp only [List.length_cons, List.length_nil] at length longer
  omega

/-- Where a plain byte follows, some calls return different chunks. -/
theorem exists_returns_ne
    (found : files.content path = some content)
    (mixed : ¬ LinesLast (content.drop 7)) :
    ∃ calls,
      (Reader.make path .NETASCII).returns ⟨files, []⟩ calls ≠
        (StdHandler.make .NETASCII ⟨content, false⟩).returns calls := by
  rw [LinesLast, List.isChain_iff_forall_rel_of_append_cons_cons] at mixed
  simp only [not_forall, exists_prop] at mixed
  obtain ⟨line, plain, start, rest, parts, isLine, other⟩ := mixed
  obtain ⟨before, long, rfl⟩ :
      ∃ before : Bytes, 7 ≤ before.length ∧
        content = before ++ line :: plain :: rest := by
    refine ⟨content.take 7 ++ start, ?_, ?_⟩
    · have length := congrArg List.length parts
      simp only [List.length_drop, List.length_append, List.length_cons]
        at length
      rw [List.length_append, List.length_take]
      omega
    · rw [List.append_assoc, ← parts, List.take_append_drop]
  by_cases last : rest = []
  · subst last
    exact exists_returns_ne_at_end found long isLine other
  · exact ⟨_, returns_ne_of_rest found long isLine other last⟩

/-- In octet mode no call reads too much. -/
theorem not_slurps_of_octet (stdin : Stream) (calls : List ReadCall) :
    ∀ taken ∈ stepsOf StdHandler.after (StdHandler.make .OCTET stdin)
        calls,
      ¬ taken.1.Slurps taken.2 := by
  intro taken member
  have octet :=
    stepsOf_invariant (fun handler : StdHandler => handler.mode = .OCTET)
      (by
        intro handler call octet
        unfold StdHandler.after StdHandler.readBytesFromStdin
        simp only [octet]
        cases handler.stdin.read call.host.readFails
            .failedToReadFromStdin call.numBytes with
        | error exception => exact octet
        | ok result => rfl)
      (show (StdHandler.make .OCTET stdin).mode = .OCTET from rfl) member
  rintro ⟨netascii, _⟩
  cases octet.symm.trans netascii

end

end

/--
The readers agree as long as no call reads too much.  They agree in all calls
if and only if the mode is octet or no CR or LF behind the first seven bytes
comes before another byte.
-/
theorem readers_agree_iff
    {files : FileSystem} {path : Path}
    (found : files.content path = some content) (mode : DataFormat) :
    let reader := Reader.make path mode
    let handler := StdHandler.make mode ⟨content, false⟩
    (∀ calls,
      (∀ taken ∈ stepsOf StdHandler.after handler calls,
        ¬ taken.1.Slurps taken.2) →
      reader.returns ⟨files, []⟩ calls = handler.returns calls) ∧
      ((∀ calls,
          reader.returns ⟨files, []⟩ calls = handler.returns calls) ↔
        mode = .OCTET ∨ LinesLast (content.drop 7)) := by
  intro reader handler
  have same : SamePlace reader handler (⟨files, []⟩ : Storage).files
      content :=
    .make found mode
  constructor
  · intro calls calm
    exact same.returns calm
  constructor
  · intro alike
    cases mode with
    | OCTET => exact Or.inl rfl
    | NETASCII =>
        right
        by_contra mixed
        obtain ⟨calls, different⟩ := exists_returns_ne found mixed
        exact different (alike calls)
  · rintro (rfl | last) calls
    · exact same.returns (not_slurps_of_octet _ calls)
    · cases mode with
      | OCTET => exact same.returns (not_slurps_of_octet _ calls)
      | NETASCII => exact same.returns (not_slurps_of_linesLast last calls)

/-- The theorem at a file whose only line end is its last byte. -/
theorem readers_agree_small :
    let content := text "abcdefgh\n"
    let calls : List ReadCall :=
      [⟨9, 0, Nat.le_succ 8⟩, ⟨8, 0, Nat.le_refl 8⟩]
    (Reader.make (text "r/f") .NETASCII).returns
        ⟨smallDisk (some content), []⟩ calls =
      (StdHandler.make .NETASCII ⟨content, false⟩).returns calls := by
  intro content calls
  have found :
      (smallDisk (some content)).content (text "r/f") = some content := by
    decide
  refine (readers_agree_iff found .NETASCII).2.mpr (Or.inr ?_) calls
  unfold LinesLast IsLineByte
  decide

/-- The LF is the last byte of the first chunk. -/
theorem stdin_is_read_to_its_end :
    let content := text "abcdefg\nij"
    let call : ReadCall := ⟨8, 0, Nat.le_refl 8⟩
    (Reader.make (text "r/f") .NETASCII).returns
        ⟨smallDisk (some content), []⟩ [call] ≠
      (StdHandler.make .NETASCII ⟨content, false⟩).returns [call] := by
  decide +kernel

end IsaTftp.Files
