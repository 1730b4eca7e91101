import JLinkMcp.StepRuns

/-! Unending runs in which no action that stays possible is put off for ever, and what such runs lead to. -/

namespace FairRuns

open StepRuns

variable {State Event Action : Type}

/-- The action is possible: one of its events is a step. -/
def Enabled (step : State → Event → Option State) (action? : Event → Option Action) (s : State)
    (a : Action) : Prop :=
  ∃ event s', action? event = some a ∧ step s event = some s'

/-- A run that may also rest, and in which an action that stays possible is taken. -/
structure FairRun (step : State → Event → Option State) (action? : Event → Option Action) (start : State) where
  state : Nat → State
  event : Nat → Option Event
  starts : state 0 = start
  rests : ∀ n, event n = none → state (n + 1) = state n
  steps : ∀ n taken, event n = some taken → step (state n) taken = some (state (n + 1))
  fair : ∀ a n, (∀ m, n ≤ m → Enabled step action? (state m) a) → ∃ m, n ≤ m ∧ (event m).bind action? = some a

section run

variable {step : State → Event → Option State} {action? : Event → Option Action} {start : State}
  (run : FairRun step action? start)

/-- Every step that the run takes is allowed. -/
def FairRun.Follows (allowed : State → Event → Prop) : Prop :=
  ∀ n event, run.event n = some event → allowed (run.state n) event

theorem FairRun.reached_of_follows {allowed : State → Event → Prop} (follows : run.Follows allowed) (n : Nat) :
    Reached step allowed start (run.state n) := by
  induction n with
  | zero =>
    rw [run.starts]
    exact Relation.ReflTransGen.refl
  | succ n ih =>
    cases hevent : run.event n with
    | none =>
      rw [run.rests n hevent]
      exact ih
    | some event => exact ih.after (follows n event hevent) (run.steps n event hevent)

theorem FairRun.reached (n : Nat) : Reached step anyStep start (run.state n) :=
  run.reached_of_follows (fun _ _ _ => trivial) n

/-- Waiting with a rank that no step raises, where at every moment one action would lower it and stays the
same one until it is taken or the rank is lowered. -/
structure Helped (step : State → Event → Option State) (action? : Event → Option Action)
    (holds waits : State → Prop)
    (rank : State → Nat) (helpful : State → Action) : Prop where
  enabled : ∀ s, holds s → waits s → Enabled step action? s (helpful s)
  kept : ∀ s event s', holds s → waits s → step s event = some s' → waits s' →
    rank s' < rank s ∨ (rank s' = rank s ∧ helpful s' = helpful s ∧ action? event ≠ some (helpful s))

variable {holds waits : State → Prop} {rank : State → Nat} {helpful : State → Action}

/-- The rank is lowered. -/
theorem Helped.lowered (h : Helped step action? holds waits rank helpful)
    (hholds : ∀ n, holds (run.state n)) {n : Nat}
    (hwaits : ∀ m, n ≤ m → waits (run.state m)) : ∃ m, n ≤ m ∧ rank (run.state m) < rank (run.state n) := by
  apply Classical.byContradiction
  intro never
  have hnot (m : Nat) (hm : n ≤ m) : ¬rank (run.state m) < rank (run.state n) := fun hlt => never ⟨m, hm, hlt⟩
  have hsame (offset : Nat) : rank (run.state (n + offset)) = rank (run.state n) ∧
      helpful (run.state (n + offset)) = helpful (run.state n) := by
    induction offset with
    | zero => exact ⟨rfl, rfl⟩
    | succ offset ih =>
      have hnext : n + (offset + 1) = n + offset + 1 := rfl
      cases hevent : run.event (n + offset) with
      | none =>
        rw [hnext, run.rests _ hevent]
        exact ih
      | some event =>
        have hstep := run.steps _ event hevent
        rcases h.kept _ event _ (hholds _) (hwaits _ (by omega)) hstep (hwaits _ (by omega)) with hlt
          | ⟨hrank, hhelp, -⟩
        · rw [ih.1] at hlt
          exact absurd hlt (hnot _ (by omega))
        · exact ⟨hrank.trans ih.1, hhelp.trans ih.2⟩
  have hfrom (m : Nat) (hm : n ≤ m) : rank (run.state m) = rank (run.state n) ∧
      helpful (run.state m) = helpful (run.state n) := by
    obtain ⟨offset, rfl⟩ := Nat.exists_eq_add_of_le hm
    exact hsame offset
  obtain ⟨m, hm, htaken⟩ := run.fair (helpful (run.state n)) n fun m hm => by
    rw [← (hfrom m hm).2]
    exact h.enabled _ (hholds m) (hwaits m hm)
  obtain ⟨event, hevent, haction⟩ := Option.bind_eq_some_iff.mp htaken
  rcases h.kept _ event _ (hholds m) (hwaits m hm) (run.steps m event hevent) (hwaits (m + 1) (by omega)) with
    hlt | ⟨-, -, hother⟩
  · rw [(hfrom m hm).1] at hlt
    exact hnot (m + 1) (by omega) hlt
  · rw [(hfrom m hm).2] at hother
    exact hother haction

/-- Nobody waits for ever. -/
theorem Helped.ends (h : Helped step action? holds waits rank helpful) (hholds : ∀ n, holds (run.state n))
    (n : Nat) :
    ∃ m, n ≤ m ∧ ¬waits (run.state m) := by
  apply Classical.byContradiction
  intro never
  have hwaits (m : Nat) (hm : n ≤ m) : waits (run.state m) :=
    Classical.not_not.mp fun hnot => never ⟨m, hm, hnot⟩
  have hdescent (bound : Nat) : ∀ m, n ≤ m → rank (run.state m) ≤ bound → False := by
    induction bound with
    | zero =>
      intro m hm hrank
      obtain ⟨later, -, hlt⟩ := h.lowered run hholds (n := m) fun k hk => hwaits k (by omega)
      omega
    | succ bound ih =>
      intro m hm hrank
      obtain ⟨later, hlater, hlt⟩ := h.lowered run hholds (n := m) fun k hk => hwaits k (by omega)
      exact ih later (by omega) (by omega)
  exact hdescent _ n (Nat.le_refl n) (Nat.le_refl _)

/-- The step with which the waiting ends. -/
theorem Helped.ends_at (h : Helped step action? holds waits rank helpful)
    (hholds : ∀ n, holds (run.state n)) {n : Nat}
    (hwaits : waits (run.state n)) :
    ∃ m event, n ≤ m ∧ waits (run.state m) ∧ run.event m = some event ∧ ¬waits (run.state (m + 1)) := by
  obtain ⟨later, hlater, hended⟩ := h.ends run hholds n
  obtain ⟨offset, rfl⟩ := Nat.exists_eq_add_of_le hlater
  induction offset with
  | zero => exact absurd hwaits hended
  | succ offset ih =>
    by_cases hstill : waits (run.state (n + offset))
    · cases hevent : run.event (n + offset) with
      | none =>
        have hrests := run.rests _ hevent
        rw [← hrests] at hstill
        exact absurd hstill hended
      | some event => exact ⟨n + offset, event, by omega, hstill, hevent, hended⟩
    · exact ih (by omega) hstill

end run

section resting

variable {step : State → Event → Option State} {action? : Event → Option Action} {allowed : State → Event → Prop}
  [∀ s event, Decidable (allowed s event)] {start final : State} {events : List Event}

/-- One step of a row of events. -/
theorem run_take (hrun : StepRuns.run step allowed start events = some final) {n : Nat} {taken : Event}
    (htaken : events[n]? = some taken) :
    ∃ before after, StepRuns.run step allowed start (events.take n) = some before ∧
      StepRuns.run step allowed start (events.take (n + 1)) = some after ∧ allowed before taken ∧
      step before taken = some after := by
  have hnext : events.take (n + 1) = events.take n ++ [taken] := by
    rw [List.take_add_one, htaken]
    rfl
  rw [← List.take_append_drop (n + 1) events, run_append] at hrun
  obtain ⟨after, hafter, -⟩ := Option.bind_eq_some_iff.mp hrun
  have hone := hafter
  rw [hnext, run_append] at hone
  obtain ⟨before, hbefore, hlast⟩ := Option.bind_eq_some_iff.mp hone
  rw [StepRuns.run] at hlast
  split at hlast
  next hallowed =>
    obtain ⟨reached, hstep, hreached⟩ := Option.bind_eq_some_iff.mp hlast
    cases Option.some.inj hreached
    exact ⟨before, after, hbefore, hafter, hallowed, hstep⟩
  next => cases hlast

/-- A run that rests for ever, once it has come to where no action is possible. -/
def FairRun.resting (hrun : StepRuns.run step allowed start events = some final)
    (still : ∀ a, ¬Enabled step action? final a) : FairRun step action? start where
  state n := (StepRuns.run step allowed start (events.take n)).getD final
  event n := events[n]?
  starts := rfl
  rests n hnone := by
    have hlength := List.getElem?_eq_none_iff.mp hnone
    rw [List.take_of_length_le hlength, List.take_of_length_le (by omega)]
  steps n taken htaken := by
    obtain ⟨before, after, hbefore, hafter, -, hstep⟩ := run_take hrun htaken
    rw [hbefore, hafter]
    exact hstep
  fair a n henabled := by
    exfalso
    refine still a ?_
    have hlast := henabled (n + events.length) (by omega)
    rw [List.take_of_length_le (by omega), hrun] at hlast
    exact hlast

theorem FairRun.follows_resting (hrun : StepRuns.run step allowed start events = some final)
    (still : ∀ a, ¬Enabled step action? final a) : (FairRun.resting hrun still).Follows allowed := by
  intro n taken htaken
  obtain ⟨before, after, hbefore, hafter, hallowed, hstep⟩ := run_take hrun htaken
  have hstate : (FairRun.resting hrun still).state n = before := congrArg (Option.getD · final) hbefore
  rw [hstate]
  exact hallowed

end resting

end FairRuns
