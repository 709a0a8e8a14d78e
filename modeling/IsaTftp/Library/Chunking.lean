import Mathlib.Data.List.Basic
import Mathlib.Tactic.Ring

/-!
# Cutting a list into blocks

`chunk size content index` is the block number `index`, counted from zero, of
a list cut into blocks of `size` elements.  Past the end the block is empty.
A transfer sends the blocks in order and ends with the first block which is
shorter than `size`; `chunkCount` is the number of blocks it sends, the short
one included.
-/

namespace IsaTftp.Library.Chunking

variable {α : Type*}

/-- Block number `index` of the list, counted from zero. -/
def chunk (size : Nat) (content : List α) (index : Nat) : List α :=
  (content.drop (index * size)).take size

/-- The concatenation of the first `count` blocks. -/
def firstChunks (size : Nat) (content : List α) (count : Nat) : List α :=
  (List.range count).flatMap (chunk size content)

/-- How many blocks a transfer of the list takes, the short last one included. -/
def chunkCount (size : Nat) (content : List α) : Nat :=
  content.length / size + 1

@[simp]
theorem firstChunks_zero (size : Nat) (content : List α) :
    firstChunks size content 0 = [] :=
  rfl

theorem firstChunks_succ (size : Nat) (content : List α) (count : Nat) :
    firstChunks size content (count + 1) =
      firstChunks size content count ++ chunk size content count := by
  simp [firstChunks, List.range_succ]

theorem firstChunks_eq_take (size : Nat) (content : List α) (count : Nat) :
    firstChunks size content count = content.take (count * size) := by
  induction count with
  | zero => simp
  | succ count induction =>
      rw [firstChunks_succ, induction, chunk, Nat.succ_mul, List.take_add]

theorem length_chunk (size : Nat) (content : List α) (index : Nat) :
    (chunk size content index).length =
      min size (content.length - index * size) := by
  simp [chunk]

theorem length_chunk_le (size : Nat) (content : List α) (index : Nat) :
    (chunk size content index).length ≤ size := by
  simp [length_chunk]

/-- The blocks before the last one are full, the last one is not. -/
theorem length_chunk_lt_iff
    {size : Nat} (positive : 0 < size) (content : List α) (index : Nat) :
    (chunk size content index).length < size ↔
      chunkCount size content ≤ index + 1 := by
  have quotient := Nat.div_add_mod content.length size
  have remainder := Nat.mod_lt content.length positive
  rw [length_chunk, chunkCount]
  constructor
  · intro short
    by_contra many
    have below : index + 1 ≤ content.length / size := by omega
    have bound := Nat.mul_le_mul_right size below
    rw [Nat.add_mul, one_mul, Nat.mul_comm (content.length / size)] at bound
    omega
  · intro few
    have below : content.length / size ≤ index := by omega
    have bound := Nat.mul_le_mul_right size below
    rw [Nat.mul_comm (content.length / size)] at bound
    omega

theorem full_of_lt
    {size : Nat} (positive : 0 < size) {content : List α} {index : Nat}
    (before : index < content.length / size) :
    ¬ (chunk size content index).length < size := by
  intro short
  have last := (length_chunk_lt_iff positive content index).mp short
  rw [chunkCount] at last
  omega

/-- All blocks of a transfer together are the whole list. -/
theorem firstChunks_of_chunkCount_le
    {size : Nat} (positive : 0 < size) {content : List α} {count : Nat}
    (enough : chunkCount size content ≤ count) :
    firstChunks size content count = content := by
  have quotient := Nat.div_add_mod content.length size
  have remainder := Nat.mod_lt content.length positive
  have bound : (content.length / size + 1) * size ≤ count * size :=
    Nat.mul_le_mul_right size enough
  rw [Nat.add_mul, one_mul, Nat.mul_comm (content.length / size)] at bound
  rw [firstChunks_eq_take]
  exact List.take_of_length_le (by omega)

/-- Reading the next block and skipping it continues with the next block. -/
theorem drop_succ_mul (size : Nat) (content : List α) (index : Nat) :
    (content.drop (index * size)).drop size =
      content.drop ((index + 1) * size) := by
  rw [List.drop_drop]
  congr 1
  ring

end IsaTftp.Library.Chunking
