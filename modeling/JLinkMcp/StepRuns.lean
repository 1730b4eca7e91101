import Mathlib.Logic.Relation

/-! Runs of a step function whose steps may be restricted to those that a condition allows. -/

namespace StepRuns

variable {State Event : Type}

/-- The event is allowed before the step, and the step can be taken. -/
def Steps (step : State → Event → Option State) (allowed : State → Event → Prop) (s s' : State) : Prop :=
  ∃ event, allowed s event ∧ step s event = some s'

/-- The states that runs of allowed steps reach. -/
def Reached (step : State → Event → Option State) (allowed : State → Event → Prop) : State → State → Prop :=
  Relation.ReflTransGen (Steps step allowed)

/-- Every step is allowed. -/
def anyStep (_ : State) (_ : Event) : Prop := True

section runs

variable {step : State → Event → Option State} {allowed allowed' : State → Event → Prop}
  {holds : State → Prop} {start s s' : State} {event : Event} {events : List Event}

theorem Reached.after (reached : Reached step allowed start s) (ok : allowed s event)
    (h : step s event = some s') : Reached step allowed start s' :=
  Relation.ReflTransGen.tail reached ⟨event, ok, h⟩

/-- What holds at the start and is kept by every allowed step holds in every state reached. -/
theorem Reached.invariant (hstart : holds start)
    (kept : ∀ s event s', holds s → allowed s event → step s event = some s' → holds s')
    (reached : Reached step allowed start s) : holds s := by
  induction reached with
  | refl => exact hstart
  | tail _ h ih =>
    obtain ⟨event, ok, hstep⟩ := h
    exact kept _ event _ ih ok hstep

/-- A run whose states all keep an invariant under which the steps are allowed. -/
theorem Reached.allowed_of_invariant (hstart : holds start)
    (kept : ∀ s event s', holds s → allowed s event → step s event = some s' → holds s')
    (sub : ∀ s event s', holds s → allowed s event → step s event = some s' → allowed' s event)
    (reached : Reached step allowed start s) : Reached step allowed' start s := by
  have hboth : holds s ∧ Reached step allowed' start s := by
    induction reached with
    | refl => exact ⟨hstart, Relation.ReflTransGen.refl⟩
    | tail _ h ih =>
      obtain ⟨event, ok, hstep⟩ := h
      exact ⟨kept _ event _ ih.1 ok hstep, ih.2.after (sub _ event _ ih.1 ok hstep) hstep⟩
  exact hboth.2

/-- The state after a row of events, each of which is allowed. -/
def run (step : State → Event → Option State) (allowed : State → Event → Prop)
    [∀ s event, Decidable (allowed s event)] : State → List Event → Option State
  | s, [] => some s
  | s, event :: events =>
    if allowed s event then (step s event).bind fun s' => run step allowed s' events else none

theorem reached_of_run [∀ s event, Decidable (allowed s event)]
    (h : run step allowed start events = some s) : Reached step allowed start s := by
  induction events generalizing start with
  | nil =>
    cases Option.some.inj h
    exact Relation.ReflTransGen.refl
  | cons event events ih =>
    rw [run] at h
    split at h
    next ok =>
      obtain ⟨s', hstep, hrest⟩ := Option.bind_eq_some_iff.mp h
      exact Relation.ReflTransGen.head ⟨event, ok, hstep⟩ (ih hrest)
    next => cases h

theorem run_append [∀ s event, Decidable (allowed s event)] (s : State) (events more : List Event) :
    run step allowed s (events ++ more) =
      (run step allowed s events).bind fun s' => run step allowed s' more := by
  induction events generalizing s with
  | nil => rfl
  | cons event events ih =>
    rw [List.cons_append, run, run]
    split
    next =>
      rw [Option.bind_assoc]
      exact congrArg _ (funext ih)
    next => rfl

/-- A row of events that ends where the check says yes. -/
theorem exists_reached_of_run [∀ s event, Decidable (allowed s event)] {check : State → Bool}
    (h : (run step allowed start events).any check = true) :
    ∃ s, Reached step allowed start s ∧ check s = true := by
  obtain ⟨s, hrun, hcheck⟩ := (Option.any_eq_true _ _).mp h
  exact ⟨s, reached_of_run hrun, hcheck⟩

instance (s : State) (event : Event) : Decidable (anyStep s event) := isTrue trivial

end runs

end StepRuns
