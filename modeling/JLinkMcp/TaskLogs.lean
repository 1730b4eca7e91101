import JLinkMcp.TaskPaths
import Mathlib.Logic.Function.Basic

/-! Logs of the turns that any number of programs take in any order over one environment. -/

namespace TaskProgram

/-- A turn and the program that takes it. -/
structure OwnedTurn (Call : Type) (Reply : Call → Type) where
  owner : Nat
  turn : Turn Call Reply

/-- What all the programs did, in the order in which they did it. -/
abbrev Log (Call : Type) (Reply : Call → Type) := List (OwnedTurn Call Reply)

section logs

variable {Call : Type} {Reply : Call → Type} {α : Type} {owner other : Nat} {log before after : Log Call Reply}
  {event : OwnedTurn Call Reply}

/-- What one program did. -/
def turnsOf (owner : Nat) (log : Log Call Reply) : List (Turn Call Reply) :=
  log.filterMap fun event => if event.owner = owner then some event.turn else none

theorem turnsOf_append (owner : Nat) (before after : Log Call Reply) :
    turnsOf owner (before ++ after) = turnsOf owner before ++ turnsOf owner after := List.filterMap_append

theorem turnsOf_concat_self : turnsOf event.owner (log ++ [event]) = turnsOf event.owner log ++ [event.turn] := by
  rw [turnsOf_append]
  exact congrArg _ (List.filterMap_cons_some (if_pos rfl))

theorem turnsOf_concat_of_ne (h : event.owner ≠ owner) : turnsOf owner (log ++ [event]) = turnsOf owner log := by
  have hnone : turnsOf owner [event] = [] := List.filterMap_cons_none (if_neg h)
  rw [turnsOf_append, hnone, List.append_nil]

theorem mem_turnsOf {turn : Turn Call Reply} : turn ∈ turnsOf owner log ↔ ⟨owner, turn⟩ ∈ log := by
  rw [turnsOf, List.mem_filterMap]
  constructor
  · rintro ⟨⟨other, found⟩, hmem, h⟩
    rw [Option.ite_none_right_eq_some] at h
    obtain ⟨howner, hturn⟩ := h
    cases howner
    cases hturn
    exact hmem
  · exact fun h => ⟨_, h, if_pos rfl⟩

/-- One turn more of a program that asks for its call. -/
theorem Path.concat {program : Task Call Reply α} {turns : List (Turn Call Reply)} {call : Call}
    {rest : Reply call → Task Call Reply α} (path : Path program turns (.ask call rest)) (reply : Reply call) :
    Path program (turns ++ [⟨call, reply⟩]) (rest reply) := by
  generalize hlast : Task.ask call rest = last at path
  induction path with
  | here program =>
    rw [← hlast]
    exact .turn (.here _)
  | turn path ih => exact .turn (ih hlast)

/-- The logs of these programs, where the environment admits every turn after what was done before. -/
inductive LoggedRun (programs : Nat → Task Call Reply α) (admits : Log Call Reply → OwnedTurn Call Reply → Prop) :
    Log Call Reply → Prop
  | start : LoggedRun programs admits []
  | turn {log : Log Call Reply} {owner : Nat} {call : Call} {rest : Reply call → Task Call Reply α}
      {reply : Reply call} (run : LoggedRun programs admits log)
      (stands : Path (programs owner) (turnsOf owner log) (.ask call rest))
      (admitted : admits log ⟨owner, ⟨call, reply⟩⟩) :
      LoggedRun programs admits (log ++ [⟨owner, ⟨call, reply⟩⟩])

variable {programs : Nat → Task Call Reply α} {admits : Log Call Reply → OwnedTurn Call Reply → Prop}

/-- A run of some turns more began with a run. -/
theorem LoggedRun.of_append (run : LoggedRun programs admits (before ++ after)) :
    LoggedRun programs admits before := by
  generalize hlog : before ++ after = log at run
  induction run generalizing after with
  | start =>
    rw [(List.append_eq_nil_iff.mp hlog).1]
    exact .start
  | @turn log owner call rest reply run stands admitted ih =>
    rcases List.eq_nil_or_concat after with rfl | ⟨earlier, last, rfl⟩
    · rw [List.append_nil] at hlog
      rw [hlog]
      exact .turn run stands admitted
    · rw [List.concat_eq_append, ← List.append_assoc] at hlog
      exact ih (List.append_inj' hlog rfl).1

/-- Before each turn its program asked for the call, and the environment admitted the turn. -/
theorem LoggedRun.admitted (run : LoggedRun programs admits (before ++ event :: after)) :
    (∃ rest, Path (programs event.owner) (turnsOf event.owner before) (.ask event.turn.call rest)) ∧
      admits before event := by
  rw [← List.singleton_append, ← List.append_assoc] at run
  have run := run.of_append
  generalize hlog : before ++ [event] = log at run
  cases run with
  | start => exact absurd hlog (List.append_ne_nil_of_right_ne_nil before (List.cons_ne_nil event []))
  | turn run stands admitted =>
    obtain ⟨hbefore, hevent⟩ := List.append_inj' hlog rfl
    cases hbefore
    cases (List.cons.inj hevent).1
    exact ⟨⟨_, stands⟩, admitted⟩

section promised

variable {may : List (Turn Call Reply) → Call → Prop} {promised : (call : Call) → Reply call → Prop}
  {post : α → List (Turn Call Reply) → Prop}

theorem LoggedRun.all_promised (run : LoggedRun programs admits log)
    (promises : ∀ log event, admits log event → promised event.turn.call event.turn.reply) :
    ∀ event ∈ log, promised event.turn.call event.turn.reply := by
  intro event hevent
  obtain ⟨before, after, rfl⟩ := List.append_of_mem hevent
  exact promises before event run.admitted.2

/-- What a program makes of its history where it asks for a call. -/
theorem LoggedRun.may_of_stands (run : LoggedRun programs admits log)
    (promises : ∀ log event, admits log event → promised event.turn.call event.turn.reply)
    (follows : Follows (recording may promised) [] (programs owner) post) {call : Call}
    {rest : Reply call → Task Call Reply α} (stands : Path (programs owner) (turnsOf owner log) (.ask call rest)) :
    may (turnsOf owner log) call := by
  have kept : ∀ turn ∈ turnsOf owner log, promised turn.call turn.reply := fun turn hturn =>
    run.all_promised promises ⟨owner, turn⟩ (mem_turnsOf.mp hturn)
  have hmay := follows.may_of_path stands (expected_recording kept [])
  rw [after_recording] at hmay
  exact hmay

end promised

/-- Where the programs stand, and what they did. -/
structure Standing (Call : Type) (Reply : Call → Type) (α : Type) where
  log : Log Call Reply := []
  programs : Nat → Task Call Reply α

/-- The programs take turns as the schedule says, while the environment answers. -/
def Standing.serve (answer : Log Call Reply → Nat → (call : Call) → Option (Reply call)) :
    List Nat → Standing Call Reply α → Option (Standing Call Reply α)
  | [], standing => some standing
  | owner :: owners, standing =>
    match standing.programs owner with
    | .done _ => none
    | .ask call rest => (answer standing.log owner call).bind fun reply =>
        serve answer owners ⟨standing.log ++ [⟨owner, ⟨call, reply⟩⟩],
          Function.update standing.programs owner (rest reply)⟩

/-- The log is one of a run of the programs, which stand at its end. -/
structure Standing.Of (programs : Nat → Task Call Reply α) (admits : Log Call Reply → OwnedTurn Call Reply → Prop)
    (standing : Standing Call Reply α) : Prop where
  run : LoggedRun programs admits standing.log
  stands : ∀ owner, Path (programs owner) (turnsOf owner standing.log) (standing.programs owner)

theorem Standing.of_start : Standing.Of programs admits ⟨[], programs⟩ := ⟨.start, fun _ => .here _⟩

theorem Standing.Of.serve {answer : Log Call Reply → Nat → (call : Call) → Option (Reply call)}
    (answers : ∀ log owner call reply, answer log owner call = some reply → admits log ⟨owner, ⟨call, reply⟩⟩)
    {schedule : List Nat} {standing standing' : Standing Call Reply α}
    (of : Standing.Of programs admits standing) (h : standing.serve answer schedule = some standing') :
    Standing.Of programs admits standing' := by
  induction schedule generalizing standing with
  | nil =>
    cases Option.some.inj h
    exact of
  | cons owner owners ih =>
    rw [Standing.serve] at h
    split at h
    next => cases h
    next call rest hprogram =>
      obtain ⟨reply, hreply, hserve⟩ := Option.bind_eq_some_iff.mp h
      have stands := of.stands owner
      rw [hprogram] at stands
      refine ih ⟨.turn of.run stands (answers _ _ _ _ hreply), fun other => ?_⟩ hserve
      dsimp only
      by_cases hother : owner = other
      · subst hother
        have hturns := @turnsOf_concat_self _ _ standing.log ⟨owner, ⟨call, reply⟩⟩
        rw [hturns, Function.update_self]
        exact stands.concat reply
      · rw [turnsOf_concat_of_ne hother, Function.update_of_ne (Ne.symm hother)]
        exact of.stands other

end logs

end TaskProgram
