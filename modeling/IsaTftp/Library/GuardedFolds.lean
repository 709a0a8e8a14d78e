import Mathlib.Data.List.Basic

/-!
# Loops which can fail

A loop over a list whose body can fail is `List.foldlM` in `Except`.  If it
fails, some item is the first at which the body fails, behind items which it
accepts.  Two loops whose bodies differ at some items only, for example by a
guard, do the same unless they come to such an item.
-/

namespace IsaTftp.Library.GuardedFolds

variable {Item State Error : Type*}
variable {body other : State → Item → Except Error State}

theorem foldlM_append_of_ok
    {before : List Item} {start middle : State}
    (accepted : before.foldlM body start = .ok middle)
    (after : List Item) :
    (before ++ after).foldlM body start = after.foldlM body middle := by
  rw [List.foldlM_append, accepted]
  rfl

/-- A loop fails at the first item which the body does not accept. -/
theorem foldlM_eq_error_iff
    {items : List Item} {start : State} {error : Error} :
    items.foldlM body start = .error error ↔
      ∃ before bad after middle, items = before ++ bad :: after ∧
        before.foldlM body start = .ok middle ∧
          body middle bad = .error error := by
  constructor
  · intro failed
    induction items generalizing start with
    | nil => cases failed
    | cons item items induction =>
        cases first : body start item with
        | error thrown =>
            rw [List.foldlM_cons, first] at failed
            cases failed
            exact ⟨[], item, items, start, rfl, rfl, first⟩
        | ok next =>
            rw [List.foldlM_cons, first] at failed
            obtain ⟨before, bad, after, middle, rfl, accepted, thrown⟩ :=
              induction failed
            refine ⟨item :: before, bad, after, middle, rfl, ?_, thrown⟩
            rw [List.foldlM_cons, first]
            exact accepted
  · rintro ⟨before, bad, after, middle, rfl, accepted, thrown⟩
    rw [foldlM_append_of_ok accepted, List.foldlM_cons, thrown]
    rfl

/-- A loop comes to a special item, behind items which are not special. -/
structure Reaches
    (body : State → Item → Except Error State)
    (Special : Item → Prop) (items : List Item) (start : State)
    (before : List Item) (special : Item) (after : List Item)
    (middle : State) : Prop where
  split : items = before ++ special :: after
  ordinary : ∀ item ∈ before, ¬ Special item
  isSpecial : Special special
  accepted : before.foldlM body start = .ok middle

/-- Two loops do the same unless they come to an item where they differ. -/
theorem foldlM_eq_or_reaches
    (Special : Item → Prop) (items : List Item) (start : State)
    (same :
      ∀ item ∈ items, ¬ Special item →
        ∀ state, body state item = other state item) :
    items.foldlM body start = items.foldlM other start ∨
      ∃ before special after middle,
        Reaches body Special items start before special after middle := by
  induction items generalizing start with
  | nil => exact Or.inl rfl
  | cons item items induction =>
      by_cases special : Special item
      · exact
          Or.inr ⟨[], item, items, start, rfl, by simp, special, rfl⟩
      · have here := same item List.mem_cons_self special start
        cases first : body start item with
        | error thrown =>
            left
            rw [List.foldlM_cons, List.foldlM_cons, ← here, first]
            rfl
        | ok next =>
            rcases induction next
                fun later member =>
                  same later (List.mem_cons_of_mem _ member) with
              equal | ⟨before, found, after, middle, reached⟩
            · left
              rw [List.foldlM_cons, List.foldlM_cons, ← here, first]
              exact equal
            · refine
                Or.inr ⟨item :: before, found, after, middle, ?_⟩
              constructor
              · rw [reached.split]
                rfl
              · intro earlier member
                rcases List.mem_cons.mp member with rfl | later
                · exact special
                · exact reached.ordinary earlier later
              · exact reached.isSpecial
              · rw [List.foldlM_cons, first]
                exact reached.accepted

end IsaTftp.Library.GuardedFolds
