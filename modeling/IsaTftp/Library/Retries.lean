import IsaTftp.Library.Runs

/-!
# Loops with a budget of retries

A loop waits for an event which decides.  An event which does not decide costs
a retry, and the loop is left when the retries are used up; but there can be
events which are ignored and cost nothing.  The loop is left within its budget
exactly if one of the first events decides or none of them is ignored; the
event which decides is not counted among the others.
-/

namespace IsaTftp.Library.Retries

open IsaTftp.Library.Runs

variable {State Event : Type*}

/-- The first events of an infinite sequence. -/
def firstEvents (stream : Nat → Event) (count : Nat) : List Event :=
  (List.range count).map stream

theorem run_firstEvents_succ
    (step : State → Event → State) (start : State)
    (stream : Nat → Event) (count : Nat) :
    run step start (firstEvents stream (count + 1)) =
      step (run step start (firstEvents stream count)) (stream count) := by
  rw [firstEvents, List.range_succ, List.map_append, run_append]
  rfl

/-- A loop which is left after so many retries at the latest. -/
structure RetryLoop (step : State → Event → State) (limit : Nat) where
  /-- the loop goes on, and so many retries are used up -/
  Inside : Nat → State → Prop
  Left : State → Prop
  /-- the events which can come -/
  Comes : Event → Prop
  Decides : Event → Prop
  Ignores : Event → Prop
  outside : ∀ {retries state}, Inside retries state → ¬ Left state
  decided : ∀ {retries state event}, Inside retries state →
    Comes event → Decides event → Left (step state event)
  ignored : ∀ {retries state event}, Inside retries state →
    Comes event → ¬ Decides event → Ignores event →
      Inside retries (step state event)
  counted : ∀ {retries state event}, Inside retries state →
    Comes event → ¬ Decides event → ¬ Ignores event →
      retries + 1 < limit → Inside (retries + 1) (step state event)
  exhausted : ∀ {retries state event}, Inside retries state →
    Comes event → ¬ Decides event → ¬ Ignores event →
      ¬ retries + 1 < limit → Left (step state event)

namespace RetryLoop

variable {step : State → Event → State} {limit : Nat}
variable (loop : RetryLoop step limit)
variable {start : State} (begins : loop.Inside 0 start)
variable {stream : Nat → Event}
variable (comes : ∀ index, loop.Comes (stream index))

include begins comes

/-- As long as the loop is not left, every event costs a retry or is ignored. -/
theorem exists_retries (positive : 0 < limit)
    (stays : ∀ count ≤ limit,
      ¬ loop.Left (run step start (firstEvents stream count)))
    {count : Nat} (few : count ≤ limit) :
    ∃ retries < limit,
      loop.Inside retries (run step start (firstEvents stream count)) ∧
        ((∀ index < count, ¬ loop.Ignores (stream index)) →
          retries = count) := by
  induction count with
  | zero => exact ⟨0, positive, begins, fun _ => rfl⟩
  | succ count induction =>
      obtain ⟨retries, below, inside, counts⟩ := induction (by omega)
      have still := stays (count + 1) few
      rw [run_firstEvents_succ] at still ⊢
      have undecided : ¬ loop.Decides (stream count) :=
        fun decides => still (loop.decided inside (comes count) decides)
      by_cases ignores : loop.Ignores (stream count)
      · refine
          ⟨retries, below,
            loop.ignored inside (comes count) undecided ignores, ?_⟩
        intro none_
        exact absurd ignores (none_ count (Nat.lt_succ_self count))
      · have more : retries + 1 < limit := by
          by_contra last
          exact
            still
              (loop.exhausted inside (comes count) undecided ignores last)
        refine
          ⟨retries + 1, more,
            loop.counted inside (comes count) undecided ignores more, ?_⟩
        intro none_
        rw [counts fun index below => none_ index (by omega)]

/-- An event which is ignored is one which is not counted. -/
theorem inside_of_ignored
    (undecided : ∀ index < limit, ¬ loop.Decides (stream index))
    {one : Nat} (among : one < limit)
    (ignores : loop.Ignores (stream one))
    {count : Nat} (few : count ≤ limit) :
    ∃ retries ≤ count, (one < count → retries < count) ∧
      loop.Inside retries
        (run step start (firstEvents stream count)) := by
  induction count with
  | zero => exact ⟨0, Nat.le_refl 0, fun earlier => by omega, begins⟩
  | succ count induction =>
      obtain ⟨retries, most, fewer, inside⟩ := induction (by omega)
      have undecidedNow := undecided count (by omega)
      rw [run_firstEvents_succ]
      by_cases ignoresNow : loop.Ignores (stream count)
      · exact
          ⟨retries, by omega, fun _ => by omega,
            loop.ignored inside (comes count) undecidedNow ignoresNow⟩
      · have other : one ≠ count := by
          rintro rfl
          exact ignoresNow ignores
        exact
          ⟨retries + 1, by omega, fun _ => by omega,
            loop.counted inside (comes count) undecidedNow ignoresNow
              (by omega)⟩

/--
The loop is left after so many events, or by the one behind them, exactly if
one of them decides or none is ignored.
-/
theorem left_iff (positive : 0 < limit) :
    (∃ count ≤ limit,
        loop.Left (run step start (firstEvents stream count)) ∨
          loop.Decides (stream count) ∧
            loop.Left (run step start (firstEvents stream (count + 1)))) ↔
      (∃ index ≤ limit, loop.Decides (stream index)) ∨
        ∀ index < limit, ¬ loop.Ignores (stream index) := by
  constructor
  · rintro ⟨count, few, leaves⟩
    by_contra fails
    rw [not_or] at fails
    obtain ⟨undecided, some_⟩ := fails
    have undecided : ∀ index ≤ limit, ¬ loop.Decides (stream index) :=
      fun index below decides => undecided ⟨index, below, decides⟩
    apply some_
    intro one among ignores
    obtain ⟨retries, _, _, inside⟩ :=
      loop.inside_of_ignored begins comes
        (fun index below => undecided index (Nat.le_of_lt below)) among
        ignores few
    rcases leaves with left | ⟨decides, _⟩
    · exact loop.outside inside left
    · exact undecided count few decides
  · intro fine
    by_contra never
    have stays : ∀ count ≤ limit,
        ¬ loop.Left (run step start (firstEvents stream count)) :=
      fun count few left => never ⟨count, few, Or.inl left⟩
    rcases fine with ⟨index, below, decides⟩ | none_
    · obtain ⟨retries, _, inside, _⟩ :=
        loop.exists_retries begins comes positive stays
          below
      apply never
      refine ⟨index, below, Or.inr ⟨decides, ?_⟩⟩
      rw [run_firstEvents_succ]
      exact loop.decided inside (comes index) decides
    · obtain ⟨retries, below, _, counts⟩ :=
        loop.exists_retries begins comes positive stays (Nat.le_refl limit)
      have all := counts none_
      omega

end RetryLoop

end IsaTftp.Library.Retries
