import Mathlib.Data.List.Infix

/-!
# Lexical relative paths

Paths are lists of names without `.` and `..`.  `relative base path` leads
from `base` to `path`: first it climbs out of what the two do not share, then
it descends.  The result for equal paths is empty, which is written `.`.

The one fact a confinement check needs is `head_relative_eq_up_iff`: a
relative path begins with a climb exactly when `path` is not at or below
`base`.
-/

namespace IsaTftp.Library.RelativePath

/-- One component of a relative path. -/
inductive Component (Name : Type*) where
  | up
  | name (name : Name)
deriving DecidableEq, Repr

variable {Name : Type*} [DecidableEq Name]

/-- The lexical path which leads from `base` to `path`. -/
def relative : List Name → List Name → List (Component Name)
  | [], path => path.map .name
  | _ :: base, [] => List.replicate (base.length + 1) .up
  | first :: base, name :: path =>
      if first = name then relative base path
      else
        List.replicate (base.length + 1) .up ++
          (name :: path).map .name

/-- Below the base a relative path only descends. -/
theorem relative_append (base below : List Name) :
    relative base (base ++ below) = below.map .name := by
  induction base with
  | nil => rfl
  | cons first base induction => simp [relative, induction]

@[simp]
theorem relative_self (base : List Name) : relative base base = [] := by
  simpa using relative_append base []

/-- A relative path climbs first exactly when it leaves the base. -/
theorem head_relative_eq_up_iff (base path : List Name) :
    (relative base path).head? = some .up ↔ ¬ base <+: path := by
  induction base generalizing path with
  | nil => cases path <;> simp [relative]
  | cons first base induction =>
      cases path with
      | nil => simp [relative, List.replicate_succ]
      | cons name path =>
          by_cases same : first = name
          · simpa [relative, same, List.cons_prefix_cons] using
              induction path
          · simp [relative, same, List.replicate_succ,
              List.cons_prefix_cons]

end IsaTftp.Library.RelativePath
