import Mathlib.Data.List.Basic
import Mathlib.Logic.Relation

/-!
# Runs of event-driven machines

A machine is a step function `State → Event → State`.  A run feeds it a list
of events; the steps of a run are the pairs of the state before an event and
that event.  The invariant rules below are the only inductions over events
which the rest of the development needs: a property which one step preserves
holds at the end of every run, and of every state a run passes through.
-/

namespace IsaTftp.Library.Runs

variable {State Event : Type*}

/-- The state reached after all events, oldest first. -/
def run (step : State → Event → State) (start : State)
    (events : List Event) : State :=
  events.foldl step start

@[simp]
theorem run_nil (step : State → Event → State) (start : State) :
    run step start [] = start :=
  rfl

@[simp]
theorem run_cons (step : State → Event → State) (start : State)
    (event : Event) (events : List Event) :
    run step start (event :: events) =
      run step (step start event) events :=
  rfl

theorem run_append (step : State → Event → State) (start : State)
    (earlier later : List Event) :
    run step start (earlier ++ later) =
      run step (run step start earlier) later := by
  simp [run, List.foldl_append]

/-- Every step of a run: the state before an event, and the event. -/
def stepsOf (step : State → Event → State) :
    State → List Event → List (State × Event)
  | _, [] => []
  | start, event :: events =>
      (start, event) :: stepsOf step (step start event) events

@[simp]
theorem stepsOf_nil (step : State → Event → State) (start : State) :
    stepsOf step start [] = [] :=
  rfl

@[simp]
theorem stepsOf_cons (step : State → Event → State) (start : State)
    (event : Event) (events : List Event) :
    stepsOf step start (event :: events) =
      (start, event) :: stepsOf step (step start event) events :=
  rfl

/-- A property which every step preserves holds at the end of every run. -/
theorem run_invariant
    {step : State → Event → State} (Invariant : State → Prop)
    (preserved :
      ∀ state event, Invariant state → Invariant (step state event))
    {start : State} (initially : Invariant start)
    (events : List Event) :
    Invariant (run step start events) := by
  induction events generalizing start with
  | nil => exact initially
  | cons event events induction =>
      exact induction (preserved start event initially)

/--
The conditional rule: only the steps which the run really takes have to
preserve the property.
-/
theorem run_invariant_of_steps
    {step : State → Event → State} (Invariant : State → Prop)
    {start : State} {events : List Event}
    (initially : Invariant start)
    (preserved :
      ∀ taken ∈ stepsOf step start events,
        Invariant taken.1 → Invariant (step taken.1 taken.2)) :
    Invariant (run step start events) := by
  induction events generalizing start with
  | nil => exact initially
  | cons event events induction =>
      apply induction
      · exact preserved (start, event) (by simp) initially
      · intro taken member
        exact preserved taken (by simp [member])

/-- A property which every step preserves holds before every step of a run. -/
theorem stepsOf_invariant
    {step : State → Event → State} (Invariant : State → Prop)
    (preserved :
      ∀ state event, Invariant state → Invariant (step state event))
    {start : State} (initially : Invariant start)
    {events : List Event} {taken : State × Event}
    (member : taken ∈ stepsOf step start events) :
    Invariant taken.1 := by
  induction events generalizing start with
  | nil => simp at member
  | cons event events induction =>
      rcases List.mem_cons.mp member with rfl | later
      · exact initially
      · exact induction (preserved start event initially) later

/-- The same, where only the steps which are taken preserve the property. -/
theorem stepsOf_invariant_of_steps
    {step : State → Event → State} (Invariant : State → Prop)
    {start : State} {events : List Event}
    (initially : Invariant start)
    (preserved :
      ∀ taken ∈ stepsOf step start events,
        Invariant taken.1 → Invariant (step taken.1 taken.2))
    {taken : State × Event}
    (member : taken ∈ stepsOf step start events) :
    Invariant taken.1 := by
  induction events generalizing start with
  | nil => simp at member
  | cons event events induction =>
      rcases List.mem_cons.mp member with rfl | later
      · exact initially
      · apply induction _ _ later
        · exact preserved (start, event) (by simp) initially
        · intro other among
          exact preserved other (by simp [among])

/-- After a step of a run the run goes on with the events left over. -/
theorem run_of_mem_stepsOf
    {step : State → Event → State} {start : State}
    {events : List Event} {taken : State × Event}
    (member : taken ∈ stepsOf step start events) :
    ∃ rest,
      run step start events = run step (step taken.1 taken.2) rest := by
  induction events generalizing start with
  | nil => simp at member
  | cons event events induction =>
      rcases List.mem_cons.mp member with rfl | later
      · exact ⟨events, rfl⟩
      · exact induction later

/-- What can be observed in the steps of a run, oldest first. -/
def observed {Seen : Type*} (observe : State → Event → Option Seen)
    (step : State → Event → State) (start : State)
    (events : List Event) : List Seen :=
  (stepsOf step start events).filterMap fun taken =>
    observe taken.1 taken.2

/--
The invariant rule with a history: what one step preserves, if its observation
is added to the earlier ones, holds at the end of every run.
-/
theorem observed_invariant
    {Seen : Type*} {observe : State → Event → Option Seen}
    {step : State → Event → State}
    (Invariant : State → List Seen → Prop) {events : List Event}
    (preserved :
      ∀ state, ∀ event ∈ events, ∀ seen, Invariant state seen →
        Invariant (step state event)
          (seen ++ (observe state event).toList))
    {start : State} (initially : Invariant start []) :
    Invariant (run step start events)
      (observed observe step start events) := by
  have general : ∀ earlier, Invariant start earlier →
      Invariant (run step start events)
        (earlier ++ observed observe step start events) := by
    clear initially
    induction events generalizing start with
    | nil =>
        intro earlier here
        simpa [observed] using here
    | cons event events induction =>
        intro earlier here
        have next := preserved start event List.mem_cons_self earlier here
        have later :=
          induction
            (fun state event member =>
              preserved state event (List.mem_cons_of_mem _ member))
            _ next
        have split :
            observed observe step start (event :: events) =
              (observe start event).toList ++
                observed observe step (step start event) events := by
          simp only [observed, stepsOf_cons]
          cases seen : observe start event <;> simp [seen]
        rw [split, ← List.append_assoc]
        exact later
  exact general [] initially

/-- A state in which every event is ignored ends the run. -/
theorem run_of_halted
    {step : State → Event → State} {state : State}
    (halted : ∀ event, step state event = state)
    (events : List Event) :
    run step state events = state :=
  run_invariant (fun reached => reached = state)
    (fun _ event equal => equal ▸ halted event) rfl events

/-- A relation between two machines which every event preserves. -/
theorem run_related
    {Other : Type*} {step : State → Event → State}
    {otherStep : Other → Event → Other} {Related : State → Other → Prop}
    (preserved : ∀ {state other}, Related state other → ∀ event,
      Related (step state event) (otherStep other event))
    {start : State} {otherStart : Other}
    (initially : Related start otherStart) (events : List Event) :
    Related (run step start events) (run otherStep otherStart events) := by
  induction events generalizing start otherStart with
  | nil => exact initially
  | cons event events induction =>
      exact induction (preserved initially event)

/-- The invariant rule for a transition relation. -/
theorem reachable_invariant
    {Step : State → State → Prop} (Invariant : State → Prop)
    (preserved :
      ∀ state next, Step state next → Invariant state → Invariant next)
    {start reached : State}
    (reachable : Relation.ReflTransGen Step start reached)
    (initially : Invariant start) :
    Invariant reached := by
  induction reachable with
  | refl => exact initially
  | tail _ last induction => exact preserved _ _ last induction

end IsaTftp.Library.Runs
