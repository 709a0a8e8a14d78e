import IsaTftp.Library.Runs

/-!
# Runs with inserted events

One list of events comes from another by inserting events of some kind.  If
an inserted event takes a machine to a state which is still related to the
old one, and an event common to both lists keeps the relation, then the two
runs end in related states.
-/

namespace IsaTftp.Library.Runs

variable {Item State Event : Type*}

/-- The first list is the second one with some items inserted. -/
inductive Inserts (Inserted : Item → Prop) :
    List Item → List Item → Prop where
  | nil : Inserts Inserted [] []
  | keep (item : Item) {full base : List Item}
      (rest : Inserts Inserted full base) :
      Inserts Inserted (item :: full) (item :: base)
  | insert {item : Item} (inserted : Inserted item)
      {full base : List Item} (rest : Inserts Inserted full base) :
      Inserts Inserted (item :: full) base

namespace Inserts

variable {Inserted : Item → Prop}

theorem refl (items : List Item) : Inserts Inserted items items := by
  induction items with
  | nil => exact .nil
  | cons item items induction => exact .keep item induction

theorem append
    {full base more rest : List Item} (earlier : Inserts Inserted full base)
    (later : Inserts Inserted more rest) :
    Inserts Inserted (full ++ more) (base ++ rest) := by
  induction earlier with
  | nil => exact later
  | keep item _ induction => exact .keep item induction
  | insert inserted _ induction => exact .insert inserted induction

/-- Without the inserted items both lists are the same. -/
theorem filter_eq
    {full base : List Item} (inserts : Inserts Inserted full base)
    {keeps : Item → Bool} (drops : ∀ item, Inserted item → keeps item = false) :
    full.filter keeps = base.filter keeps := by
  induction inserts with
  | nil => rfl
  | keep item _ induction => rw [List.filter_cons, List.filter_cons, induction]
  | insert inserted _ induction =>
      rw [List.filter_cons_of_neg (by simp [drops _ inserted]), induction]

end Inserts

/-- Two runs over the same events but for the inserted ones stay related. -/
theorem run_of_inserts
    {step : State → Event → State} {Inserted : Event → Prop}
    {Fine : State → Event → Prop} {Related : State → State → Prop}
    (insert : ∀ {state base event}, Related state base → Fine state event →
      Inserted event → Related (step state event) base)
    (keep : ∀ {state base event}, Related state base → Fine state event →
      Related (step state event) (step base event))
    {full base : List Event} (inserts : Inserts Inserted full base)
    {state other : State} (related : Related state other)
    (fine : ∀ taken ∈ stepsOf step state full, Fine taken.1 taken.2) :
    Related (run step state full) (run step other base) := by
  induction inserts generalizing state other with
  | nil => exact related
  | keep event rest induction =>
      rw [stepsOf_cons, List.forall_mem_cons] at fine
      exact induction (keep related fine.1) fine.2
  | insert inserted rest induction =>
      rw [stepsOf_cons, List.forall_mem_cons] at fine
      exact induction (insert related fine.1 inserted) fine.2

end IsaTftp.Library.Runs
