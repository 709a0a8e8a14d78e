import Mathlib.Algebra.Group.Nat.Defs
import Mathlib.Data.List.Induction

/-!
# Doubling and resetting

A waiting time is doubled after every fruitless wait and goes back to a base
after a fruitful one.  After any history of these two calls it is the base,
doubled once for every increase since the last reset.
-/

namespace IsaTftp.Library.Backoff

/-- The two ways in which a waiting time changes. -/
inductive Call where
  | increase
  | reset
deriving DecidableEq, Repr

/-- The waiting time after one call. -/
def Call.apply (base value : Nat) : Call → Nat
  | .increase => value * 2
  | .reset => base

/-- The number of increases since the last reset, after one more call. -/
def Call.count (increases : Nat) : Call → Nat
  | .increase => increases + 1
  | .reset => 0

/-- The waiting time after a history of calls, oldest first. -/
def applyCalls (base value : Nat) (calls : List Call) : Nat :=
  calls.foldl (Call.apply base) value

/-- How many increases there were since the last reset. -/
def increases (calls : List Call) : Nat :=
  calls.foldl Call.count 0

@[simp]
theorem applyCalls_append_one
    (base value : Nat) (calls : List Call) (call : Call) :
    applyCalls base value (calls ++ [call]) =
      call.apply base (applyCalls base value calls) := by
  simp [applyCalls]

@[simp]
theorem increases_append_one (calls : List Call) (call : Call) :
    increases (calls ++ [call]) = call.count (increases calls) := by
  simp [increases]

/-- The base is doubled once for every increase since the last reset. -/
theorem applyCalls_base (base : Nat) (calls : List Call) :
    applyCalls base base calls = base * 2 ^ increases calls := by
  induction calls using List.reverseRecOn with
  | nil => simp [applyCalls, increases]
  | append_singleton calls call induction =>
      rw [applyCalls_append_one, increases_append_one, induction]
      cases call with
      | increase =>
          simp only [Call.apply, Call.count, Nat.pow_succ, Nat.mul_assoc]
      | reset => simp [Call.apply, Call.count]

end IsaTftp.Library.Backoff
