import IsaTftp.Files.Filling
import IsaTftp.Files.Writer

/-!
# Vector accesses

The conversions, the two readers and the writer once more, as they access
their vectors: by index.  An access at an index which is not below the size
gives nothing, and so does everything behind it.  `size_t` is unsigned, so a
subtraction wraps below zero.

Where every access is in range, the result is that of the functions on lists.
-/

namespace IsaTftp.Files.Indexed

open IsaTftp.Wire

/-- `size - count` in `std::size_t`. -/
def sizeMinus (size count : Nat) : Nat :=
  if count ≤ size then size - count else size + 2 ^ 64 - count

/-! ## The conversions -/

/-- The loop of `FormatToNETASCII`. -/
def formatToLoop (data : Bytes) (i : Nat) (formattedData : Bytes) :
    Option Bytes :=
  if i < data.length then
    match data[i]? with
    | none => none
    | some byte =>
        if byte = cr then
          if i + 1 < data.length then
            match data[i + 1]? with
            | none => none
            | some next =>
                if next = lf then
                  formatToLoop data (i + 2) (formattedData ++ [cr, lf])
                else formatToLoop data (i + 1) (formattedData ++ [cr, nul])
          else formatToLoop data (i + 1) (formattedData ++ [cr, nul])
        else if byte = lf then
          formatToLoop data (i + 1) (formattedData ++ [cr, lf])
        else formatToLoop data (i + 1) (formattedData ++ [byte])
  else some formattedData
termination_by data.length - i

def formatToNETASCII (data : Bytes) : Option Bytes :=
  formatToLoop data 0 []

/-- The loop of `FormatFromNETASCII`. -/
def formatFromLoop (data : Bytes) (i : Nat) (result : Bytes) :
    Option Bytes :=
  if i < data.length then
    match data[i]? with
    | none => none
    | some byte =>
        if i < sizeMinus data.length 1 ∧ byte = cr then
          match data[i + 1]? with
          | none => none
          | some next =>
              if next = lf then
                formatFromLoop data (i + 2) (result ++ [lf])
              else if next = nul then
                formatFromLoop data (i + 2) (result ++ [cr])
              else formatFromLoop data (i + 1) (result ++ [byte])
        else formatFromLoop data (i + 1) (result ++ [byte])
  else some result
termination_by data.length - i

def formatFromNETASCII (data : Bytes) : Option Bytes :=
  formatFromLoop data 0 []

theorem drop_of_getElem?
    {data : Bytes} {i : Nat} {byte : UInt8} (here : data[i]? = some byte) :
    data.drop i = byte :: data.drop (i + 1) := by
  obtain ⟨inside, rfl⟩ := List.getElem?_eq_some_iff.mp here
  exact List.drop_eq_getElem_cons inside

/-- What the loop has not passed is encoded. -/
theorem formatToLoop_eq (data : Bytes) (i : Nat) (formattedData : Bytes) :
    formatToLoop data i formattedData =
      some (formattedData ++ Files.formatToNETASCII (data.drop i)) := by
  fun_induction formatToLoop data i formattedData with
  | case1 i formattedData inside outOfRange =>
      rw [List.getElem?_eq_none_iff] at outOfRange
      omega
  | case2 i formattedData inside inside' outOfRange here =>
      rw [List.getElem?_eq_none_iff] at outOfRange
      omega
  | case3 i formattedData inside inside' here there induction =>
      rw [induction, drop_of_getElem? here, drop_of_getElem? there,
        formatToNETASCII_cr_lf]
      simp
  | case4 i formattedData inside inside' next there notLf here induction =>
      have lone : (data.drop (i + 1)).head? ≠ some lf := by
        rw [drop_of_getElem? there]
        simpa using notLf
      rw [induction, drop_of_getElem? here, formatToNETASCII_cr lone]
      simp
  | case5 i formattedData inside last here induction =>
      have none_ : data.drop (i + 1) = [] :=
        List.drop_of_length_le (Nat.not_lt.mp last)
      rw [induction, drop_of_getElem? here, none_,
        formatToNETASCII_cr (by simp)]
      simp
  | case6 i formattedData inside here notCr induction =>
      rw [induction, drop_of_getElem? here, formatToNETASCII_lf]
      simp
  | case7 i formattedData inside byte here notCr notLf induction =>
      rw [induction, drop_of_getElem? here,
        formatToNETASCII_plain notCr notLf]
      simp
  | case8 i formattedData outside =>
      rw [List.drop_of_length_le (Nat.not_lt.mp outside)]
      simp

/-- What the loop has not passed is decoded. -/
theorem formatFromLoop_eq (data : Bytes) (i : Nat) (result : Bytes) :
    formatFromLoop data i result =
      some (result ++ Files.formatFromNETASCII (data.drop i)) := by
  fun_induction formatFromLoop data i result with
  | case1 i result inside outOfRange =>
      rw [List.getElem?_eq_none_iff] at outOfRange
      omega
  | case2 i result inside byte here pair outOfRange =>
      rw [List.getElem?_eq_none_iff] at outOfRange
      rw [sizeMinus, if_pos (by omega)] at pair
      omega
  | case3 i result inside byte here pair there induction =>
      rw [induction, drop_of_getElem? here, drop_of_getElem? there, pair.2,
        formatFromNETASCII_cr_lf]
      simp
  | case4 i result inside byte here pair there _ induction =>
      rw [induction, drop_of_getElem? here, drop_of_getElem? there, pair.2,
        formatFromNETASCII_cr_nul]
      simp
  | case5 i result inside byte here pair next there notLf notNul induction =>
      have otherLf : (data.drop (i + 1)).head? ≠ some lf := by
        rw [drop_of_getElem? there]
        simpa using notLf
      have otherNul : (data.drop (i + 1)).head? ≠ some nul := by
        rw [drop_of_getElem? there]
        simpa using notNul
      rw [induction, drop_of_getElem? here, pair.2,
        formatFromNETASCII_cr otherLf otherNul]
      simp
  | case6 i result inside byte here single induction =>
      rw [sizeMinus, if_pos (by omega)] at single
      have alone : Files.formatFromNETASCII (byte :: data.drop (i + 1)) =
          byte :: Files.formatFromNETASCII (data.drop (i + 1)) := by
        by_cases isCr : byte = cr
        · have last : ¬ i < data.length - 1 :=
            fun before => single ⟨before, isCr⟩
          have none_ : data.drop (i + 1) = [] := by
            apply List.drop_of_length_le
            omega
          rw [none_]
          rfl
        · exact formatFromNETASCII_plain isCr _
      rw [induction, drop_of_getElem? here, alone]
      simp
  | case7 i result outside =>
      rw [List.drop_of_length_le (Nat.not_lt.mp outside)]
      simp

/-- Every access of `FormatToNETASCII` is in range. -/
@[simp]
theorem formatToNETASCII_eq (data : Bytes) :
    formatToNETASCII data = some (Files.formatToNETASCII data) := by
  simp [formatToNETASCII, formatToLoop_eq]

/-- Every access of `FormatFromNETASCII` is in range. -/
@[simp]
theorem formatFromNETASCII_eq (data : Bytes) :
    formatFromNETASCII data = some (Files.formatFromNETASCII data) := by
  simp [formatFromNETASCII, formatFromLoop_eq]

/-! ## The extending loops -/

/--
A loop which looks at `buffer[lastIndex]` and reads one byte after the other.
Only `Reader` and the first loop of `StdHandler` move the index on.
-/
def extendFromRest (moves fails : Bool) (failure : Exception)
    (stray : UInt8) :
    Bytes → Nat → Bytes → Option (Except Exception (Bytes × Stream))
  | buffer, lastIndex, [] =>
      match buffer[lastIndex]? with
      | none => none
      | some last =>
          if last = cr ∨ last = lf then
            if fails then some (.error failure)
            else some (.ok (buffer ++ [stray], ⟨[], true⟩))
          else some (.ok (buffer, ⟨[], false⟩))
  | buffer, lastIndex, byte :: rest =>
      match buffer[lastIndex]? with
      | none => none
      | some last =>
          if last = cr ∨ last = lf then
            if fails then some (.error failure)
            else
              let buffer := buffer ++ [byte]
              extendFromRest moves fails failure stray buffer
                (if moves then sizeMinus buffer.length 1 else lastIndex)
                rest
          else some (.ok (buffer, ⟨byte :: rest, false⟩))

/-- The same loop on a stream which may already have hit its end. -/
def extendFromStream (moves fails : Bool) (failure : Exception)
    (stray : UInt8) (buffer : Bytes) (stream : Stream) :
    Option (Except Exception (Bytes × Stream)) :=
  let lastIndex := sizeMinus buffer.length 1
  if stream.eof then
    match buffer[lastIndex]? with
    | none => none
    | some last =>
        if last = cr ∨ last = lf then
          some (.ok (buffer ++ [stray], stream))
        else some (.ok (buffer, stream))
  else
    extendFromRest moves fails failure stray buffer lastIndex stream.rest

/-- The first extending loop of both readers. -/
def extendFromOverflow (fails : Bool) (failure : Exception)
    (stray : UInt8) :
    Bytes → Bytes → Stream →
      Option (Except Exception (Bytes × Bytes × Stream))
  | buffer, [], stream =>
      match extendFromStream true fails failure stray buffer stream with
      | none => none
      | some (.error exception) => some (.error exception)
      | some (.ok (buffer, stream)) => some (.ok (buffer, [], stream))
  | buffer, byte :: overflow, stream =>
      match buffer[sizeMinus buffer.length 1]? with
      | none => none
      | some last =>
          if last = cr ∨ last = lf then
            match (byte :: overflow)[0]? with
            | none => none
            | some first =>
                extendFromOverflow fails failure stray (buffer ++ [first])
                  overflow stream
          else some (.ok (buffer, byte :: overflow, stream))

/-- The last byte of a buffer which has one. -/
theorem getElem?_last (before : Bytes) (byte : UInt8) :
    (before ++ [byte])[sizeMinus (before ++ [byte]).length 1]? =
      some byte := by
  simp [sizeMinus]

theorem endsInLineByte_concat_iff (before : Bytes) (byte : UInt8) :
    byte = cr ∨ byte = lf ↔ endsInLineByte (before ++ [byte]) = true :=
  (endsInLineByte_concat before byte).symm

variable {failure : Exception} {fails : Bool} {stray : UInt8}

/-- With an index which moves on, the loop looks at the last byte. -/
theorem extendFromRest_moves (before : Bytes) (byte : UInt8)
    (rest : Bytes) :
    extendFromRest true fails failure stray (before ++ [byte])
        (sizeMinus (before ++ [byte]).length 1) rest =
      some
        (Files.extendFromRest fails failure stray (before ++ [byte])
          rest) := by
  induction rest generalizing before byte with
  | nil =>
      rw [extendFromRest, getElem?_last, Files.extendFromRest]
      simp only [endsInLineByte_concat_iff before byte]
      split_ifs <;> rfl
  | cons next rest induction =>
      have later := induction (before ++ [byte]) next
      rw [extendFromRest, getElem?_last, Files.extendFromRest]
      simp only [endsInLineByte_concat_iff before byte, if_true, later]
      split_ifs <;> rfl

/-- With an index which stays, it looks at the same byte for ever. -/
theorem extendFromRest_stays
    {buffer : Bytes} {index : Nat} {last : UInt8}
    (here : buffer[index]? = some last) (rest : Bytes) :
    extendFromRest false fails failure stray buffer index rest =
      some
        (if last = cr ∨ last = lf then
          if fails then .error failure
          else .ok (buffer ++ rest ++ [stray], ⟨[], true⟩)
        else .ok (buffer, ⟨rest, false⟩)) := by
  induction rest generalizing buffer with
  | nil =>
      rw [extendFromRest, here]
      dsimp only
      split_ifs <;> simp
  | cons next rest induction =>
      have inside : index < buffer.length :=
        (List.getElem?_eq_some_iff.mp here).1
      have still : (buffer ++ [next])[index]? = some last := by
        rw [List.getElem?_append_left inside, here]
      rw [extendFromRest, here]
      simp only [Bool.false_eq_true, if_false, induction still]
      split_ifs <;> simp

theorem extendFromStream_moves (before : Bytes) (byte : UInt8)
    (stream : Stream) :
    extendFromStream true fails failure stray (before ++ [byte]) stream =
      some
        (Files.extendFromStream fails failure stray (before ++ [byte])
          stream) := by
  unfold extendFromStream Files.extendFromStream
  simp only [getElem?_last, extendFromRest_moves,
    endsInLineByte_concat_iff before byte]
  split_ifs <;> rfl

theorem extendFromOverflow_eq (before : Bytes) (byte : UInt8)
    (overflow : Bytes) (stream : Stream) :
    extendFromOverflow fails failure stray (before ++ [byte]) overflow
        stream =
      some
        (Files.extendFromOverflow fails failure stray (before ++ [byte])
          overflow stream) := by
  induction overflow generalizing before byte with
  | nil =>
      rw [extendFromOverflow, Files.extendFromOverflow,
        extendFromStream_moves]
      cases Files.extendFromStream fails failure stray (before ++ [byte])
          stream with
      | error exception => rfl
      | ok extended => rfl
  | cons next overflow induction =>
      have first : (next :: overflow)[0]? = some next := rfl
      rw [extendFromOverflow, getElem?_last, Files.extendFromOverflow]
      simp only [first, induction, endsInLineByte_concat_iff before byte]
      split_ifs <;> rfl

/-! ## The two readers -/

/-- `begin() + count`, and what is before and behind it. -/
def splitAt (buffer : Bytes) (count : Nat) : Option (Bytes × Bytes) :=
  if count ≤ buffer.length then
    some (buffer.take count, buffer.drop count)
  else none

/-- What the overflow buffer provides. -/
def takeFromOverflow (fails : Bool) (failure : Exception)
    (stray : UInt8) (numBytes : Nat) (overflow : Bytes)
    (stream : Stream) :
    Option (Except Exception (Bytes × Bytes × Stream)) :=
  if overflow.length > 0 then
    if overflow.length ≥ numBytes then
      match splitAt overflow numBytes with
      | none => none
      | some (buffer, overflow) =>
          extendFromOverflow fails failure stray buffer overflow stream
    else some (.ok (overflow, [], stream))
  else some (.ok ([], overflow, stream))

/-- What the stream provides; the loop behind it as in `extendFromRest`. -/
def fillBuffer (moves fails : Bool) (failure : Exception)
    (stray : UInt8) (numBytes : Nat) (buffer : Bytes) (stream : Stream) :
    Option (Except Exception (Bytes × Stream)) :=
  if buffer.length < numBytes then
    match stream.read fails failure (numBytes - buffer.length) with
    | .error exception => some (.error exception)
    | .ok (data, stream) =>
        let buffer := buffer ++ data
        if buffer.length = numBytes ∧ stream.eof = false then
          extendFromStream moves fails failure stray buffer stream
        else some (.ok (buffer, stream))
  else some (.ok (buffer, stream))

/-- Encode, and look at the last two bytes. -/
def encodeAndEndLine (numBytes : Nat) (buffer : Bytes) : Option Bytes :=
  match formatToNETASCII buffer with
  | none => none
  | some buffer =>
      if buffer.length < numBytes then some (buffer ++ [cr, lf])
      else if buffer.length ≥ 2 then
        match buffer[sizeMinus buffer.length 2]? with
        | none => none
        | some first =>
            if first ≠ cr then some (buffer ++ [cr, lf])
            else
              match buffer[sizeMinus buffer.length 1]? with
              | none => none
              | some second =>
                  if second ≠ lf then some (buffer ++ [cr, lf])
                  else some buffer
      else some buffer

/-- Return `numBytes` bytes and keep the rest. -/
def splitChunk (numBytes : Nat) (buffer overflow : Bytes) :
    Option (Bytes × Bytes) :=
  if buffer.length > numBytes then splitAt buffer numBytes
  else some (buffer, overflow)

/-- The NETASCII branches of `ReadFile` and `ReadBytesFromStdin`. -/
def readNetascii (moves fails : Bool) (failure : Exception)
    (stray : UInt8) (numBytes : Nat) (overflow : Bytes)
    (stream : Stream) :
    Option (Except Exception (Bytes × Bytes × Stream)) :=
  match takeFromOverflow fails failure stray numBytes overflow stream with
  | none => none
  | some (.error exception) => some (.error exception)
  | some (.ok (buffer, overflow, stream)) =>
      match fillBuffer moves fails failure stray numBytes buffer stream with
      | none => none
      | some (.error exception) => some (.error exception)
      | some (.ok (buffer, stream)) =>
          match encodeAndEndLine numBytes buffer with
          | none => none
          | some buffer =>
              match splitChunk numBytes buffer overflow with
              | none => none
              | some (chunk, overflow) =>
                  some (.ok (chunk, overflow, stream))

/-- `ReadFile` is the one which moves the index on. -/
def Reader.readNetascii :=
  Indexed.readNetascii true

/-- `ReadBytesFromStdin` is the one which does not. -/
def StdHandler.readNetascii :=
  Indexed.readNetascii false

theorem splitAt_of_le {buffer : Bytes} {count : Nat}
    (enough : count ≤ buffer.length) :
    splitAt buffer count = some (buffer.take count, buffer.drop count) :=
  if_pos enough

theorem takeFromOverflow_eq {numBytes : Nat} (least : 0 < numBytes)
    (overflow : Bytes) (stream : Stream) :
    takeFromOverflow fails failure stray numBytes overflow stream =
      some
        (Files.takeFromOverflow fails failure stray numBytes overflow
          stream) := by
  unfold takeFromOverflow Files.takeFromOverflow
  split_ifs with some_ large
  · have length : (overflow.take numBytes).length = numBytes := by
      simpa using large
    obtain ⟨before, byte, first⟩ :=
      (List.eq_nil_or_concat' (overflow.take numBytes)).resolve_left
        (List.ne_nil_of_length_pos (by omega))
    rw [splitAt_of_le large, first]
    exact extendFromOverflow_eq before byte _ stream
  · rfl
  · rfl

/-- The last byte of a full buffer. -/
theorem exists_last {buffer : Bytes} {numBytes : Nat}
    (least : 0 < numBytes) (full : buffer.length = numBytes) :
    ∃ before byte, buffer = before ++ [byte] :=
  (List.eq_nil_or_concat' buffer).resolve_left
    (List.ne_nil_of_length_pos (by omega))

theorem fillBuffer_moves {numBytes : Nat} (least : 0 < numBytes)
    (buffer : Bytes) (stream : Stream) :
    fillBuffer true fails (.fileHandler .failedToReadFromFile) stray
        numBytes buffer stream =
      some (Files.Reader.fillBuffer fails stray numBytes buffer stream) := by
  unfold fillBuffer Files.Reader.fillBuffer
  split_ifs with few
  · cases stream.read fails (.fileHandler .failedToReadFromFile)
        (numBytes - buffer.length) with
    | error exception => rfl
    | ok result =>
        dsimp only
        split_ifs with more
        · obtain ⟨before, byte, same⟩ := exists_last least more.1
          rw [same]
          exact extendFromStream_moves before byte result.2
        · rfl
  · rfl

theorem fillBuffer_stays {numBytes : Nat} (least : 0 < numBytes)
    (buffer : Bytes) (stream : Stream) :
    fillBuffer false fails .failedToReadFromStdin stray numBytes buffer
        stream =
      some
        (Files.StdHandler.fillBuffer fails stray numBytes buffer
          stream) := by
  unfold fillBuffer Files.StdHandler.fillBuffer
  by_cases few : buffer.length < numBytes
  · rw [if_pos few, if_pos few]
    cases stream.read fails .failedToReadFromStdin
        (numBytes - buffer.length) with
    | error exception => rfl
    | ok result =>
        obtain ⟨data, rest, eof⟩ := result
        dsimp only
        by_cases more : (buffer ++ data).length = numBytes ∧ eof = false
        · obtain ⟨before, byte, same⟩ := exists_last least more.1
          obtain ⟨full, rfl⟩ := more
          have last := getElem?_last before byte
          have line := endsInLineByte_concat_iff before byte
          rw [same] at full ⊢
          simp only [extendFromStream, Bool.false_eq_true, if_false,
            extendFromRest_stays last, line]
          simp only [full, true_and, if_true]
        · rw [if_neg more, if_neg fun line => more ⟨line.1, line.2.1⟩]
  · rw [if_neg few, if_neg few]

theorem drop_two_eq (buffer : Bytes) (enough : 2 ≤ buffer.length) :
    ∃ first second,
      buffer[sizeMinus buffer.length 2]? = some first ∧
        buffer[sizeMinus buffer.length 1]? = some second ∧
          buffer.drop (buffer.length - 2) = [first, second] := by
  obtain ⟨before, second, rfl⟩ :=
    exists_last (Nat.zero_lt_of_lt enough) (Eq.refl buffer.length)
  rw [List.length_append, List.length_singleton] at enough
  obtain ⟨start, first, rfl⟩ :=
    exists_last (Nat.le_of_succ_le_succ enough) (Eq.refl before.length)
  refine ⟨first, second, ?_, getElem?_last _ _, ?_⟩
  · simp [sizeMinus]
  · simp

theorem encodeAndEndLine_eq (numBytes : Nat) (buffer : Bytes) :
    encodeAndEndLine numBytes buffer =
      some (Files.encodeAndEndLine numBytes buffer) := by
  unfold encodeAndEndLine Files.encodeAndEndLine
  rw [formatToNETASCII_eq]
  dsimp only
  generalize Files.formatToNETASCII buffer = encoded
  by_cases few : encoded.length < numBytes
  · rw [if_pos few, if_pos (Or.inl few)]
  · by_cases enough : 2 ≤ encoded.length
    · obtain ⟨first, second, there, here, last⟩ :=
        drop_two_eq encoded enough
      simp only [few, enough, if_false, if_true, there, here, endsInCrLf,
        last, false_or, true_and]
      by_cases isCr : first = cr
      · by_cases isLf : second = lf
        · simp [isCr, isLf]
        · simp [isCr, isLf]
      · simp [isCr]
    · rw [if_neg few, if_neg enough, if_neg]
      simp [few, enough]

theorem splitChunk_eq (numBytes : Nat) (buffer overflow : Bytes) :
    splitChunk numBytes buffer overflow =
      some (Files.splitChunk numBytes buffer overflow) := by
  unfold splitChunk Files.splitChunk
  split_ifs with large
  · exact splitAt_of_le (Nat.le_of_lt large)
  · rfl

/-- Every access of `ReadFile` is in range. -/
theorem Reader.readNetascii_eq {numBytes : Nat} (least : 0 < numBytes)
    (overflow : Bytes) (stream : Stream) :
    Reader.readNetascii fails (.fileHandler .failedToReadFromFile) stray
        numBytes overflow stream =
      some
        (Files.Reader.readNetascii fails stray numBytes overflow
          stream) := by
  unfold Reader.readNetascii Indexed.readNetascii Files.Reader.readNetascii
  rw [takeFromOverflow_eq least]
  cases Files.takeFromOverflow fails (.fileHandler .failedToReadFromFile)
      stray numBytes overflow stream with
  | error exception => rfl
  | ok taken =>
      obtain ⟨buffer, kept, next⟩ := taken
      simp only [fillBuffer_moves least, encodeAndEndLine_eq,
        splitChunk_eq]
      cases Files.Reader.fillBuffer fails stray numBytes buffer next with
      | error exception => rfl
      | ok filled => rfl

/-- Every access of `ReadBytesFromStdin` is in range. -/
theorem StdHandler.readNetascii_eq {numBytes : Nat} (least : 0 < numBytes)
    (overflow : Bytes) (stream : Stream) :
    StdHandler.readNetascii fails .failedToReadFromStdin stray numBytes
        overflow stream =
      some
        (Files.StdHandler.readNetascii fails stray numBytes overflow
          stream) := by
  unfold StdHandler.readNetascii Indexed.readNetascii
    Files.StdHandler.readNetascii
  rw [takeFromOverflow_eq least]
  cases Files.takeFromOverflow fails .failedToReadFromStdin
      stray numBytes overflow stream with
  | error exception => rfl
  | ok taken =>
      obtain ⟨buffer, kept, next⟩ := taken
      simp only [fillBuffer_stays least, encodeAndEndLine_eq,
        splitChunk_eq]
      cases Files.StdHandler.fillBuffer fails stray numBytes buffer next with
      | error exception => rfl
      | ok filled => rfl

end IsaTftp.Files.Indexed
