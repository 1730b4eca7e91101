import JLinkMcp.StepRuns
import Mathlib.Logic.Function.Basic

/-! Programs that ask for calls, any number of tasks that run them by turns over one world, and the
rule that what every program does by itself keeps what all of them rely on. -/

namespace TaskProgram

open StepRuns

/-- A program asks for calls one after the other and goes on with what is replied. -/
inductive Task (Call : Type) (Reply : Call → Type) (α : Type) where
  | done (value : α)
  | ask (call : Call) (rest : Reply call → Task Call Reply α)

namespace Task

variable {Call : Type} {Reply : Call → Type} {α β : Type}

def bind : Task Call Reply α → (α → Task Call Reply β) → Task Call Reply β
  | done value, next => next value
  | ask call rest, next => ask call fun reply => (rest reply).bind next

instance : Monad (Task Call Reply) where
  pure := done
  bind := bind

/-- The program that asks for one call. -/
def call (c : Call) : Task Call Reply (Reply c) := ask c done

end Task

/-- What a program may ask for, what it may be replied, and what it then knows. -/
structure Discipline (Call : Type) (Reply : Call → Type) (Ghost : Type) where
  may : Ghost → Call → Prop
  replied : Ghost → (call : Call) → Reply call → Prop
  next : Ghost → (call : Call) → Reply call → Ghost

section follows

variable {Call : Type} {Reply : Call → Type} {Ghost α β ε : Type} {discipline : Discipline Call Reply Ghost}
  {ghost : Ghost}

/-- The program keeps to the discipline and ends as the postcondition says. -/
def Follows (discipline : Discipline Call Reply Ghost) (ghost : Ghost) :
    Task Call Reply α → (α → Ghost → Prop) → Prop
  | .done value, post => post value ghost
  | .ask call rest, post => discipline.may ghost call ∧ ∀ reply, discipline.replied ghost call reply →
      Follows discipline (discipline.next ghost call reply) (rest reply) post

theorem Follows.mono {program : Task Call Reply α} {post post' : α → Ghost → Prop}
    (h : Follows discipline ghost program post) (weaker : ∀ value ghost, post value ghost → post' value ghost) :
    Follows discipline ghost program post' := by
  induction program generalizing ghost with
  | done value => exact weaker value ghost h
  | ask call rest ih => exact ⟨h.1, fun reply hreply => ih reply (h.2 reply hreply)⟩

theorem follows_done {value : α} {post : α → Ghost → Prop} (h : post value ghost) :
    Follows discipline ghost (.done value) post := h

theorem follows_call {call : Call} {post : Reply call → Ghost → Prop} (may : discipline.may ghost call)
    (h : ∀ reply, discipline.replied ghost call reply → post reply (discipline.next ghost call reply)) :
    Follows discipline ghost (.call call) post := ⟨may, h⟩

theorem follows_bind {program : Task Call Reply α} {next : α → Task Call Reply β}
    {middle : α → Ghost → Prop} {post : β → Ghost → Prop} (first : Follows discipline ghost program middle)
    (rest : ∀ value ghost, middle value ghost → Follows discipline ghost (next value) post) :
    Follows discipline ghost (program.bind next) post := by
  induction program generalizing ghost with
  | done value => exact rest value ghost first
  | ask call continuation ih => exact ⟨first.1, fun reply hreply => ih reply (first.2 reply hreply)⟩

/-- A program that may raise, followed by another one. -/
theorem follows_then {program : ExceptT ε (Task Call Reply) α} {next : α → ExceptT ε (Task Call Reply) β}
    {middle : Except ε α → Ghost → Prop} {post : Except ε β → Ghost → Prop}
    (first : Follows discipline ghost program.run middle)
    (value : ∀ value ghost, middle (.ok value) ghost → Follows discipline ghost (next value).run post)
    (raised : ∀ error ghost, middle (.error error) ghost → post (.error error) ghost) :
    Follows discipline ghost (program >>= next).run post := by
  refine follows_bind first fun result ghost h => ?_
  cases result with
  | ok a => exact value a ghost h
  | error e => exact raised e ghost h

end follows

/-- A world that answers the calls of tasks, and the operations that a task can start. -/
structure System where
  World : Type
  Call : Type
  Reply : Call → Type
  Operation : Type
  Choice : Type
  program : Operation → Task Call Reply Unit
  answer : World → Nat → (call : Call) → Choice → Option (World × Reply call)

/-- The world and what every task still has to do. -/
structure Pool (system : System) where
  world : system.World
  running : Nat → Option (Task system.Call system.Reply Unit)

inductive Event (system : System) where
  | start (task : Nat) (operation : system.Operation)
  | reply (task : Nat) (choice : system.Choice)
  | finish (task : Nat)

namespace System

variable {system : System}

/-- One task takes one turn. -/
def step (system : System) (pool : Pool system) : Event system → Option (Pool system)
  | .start task operation =>
    match pool.running task with
    | none => some { pool with running := Function.update pool.running task (some (system.program operation)) }
    | some _ => none
  | .reply task choice =>
    match pool.running task with
    | some (.ask call rest) =>
      (system.answer pool.world task call choice).map fun answer =>
        ⟨answer.1, Function.update pool.running task (some (rest answer.2))⟩
    | _ => none
  | .finish task =>
    match pool.running task with
    | some (.done _) => some { pool with running := Function.update pool.running task none }
    | _ => none

/-- No task has started anything. -/
def idle (world : system.World) : Pool system := ⟨world, fun _ => none⟩

/-- The task is about to be replied to this call. -/
def Asks (pool : Pool system) (task : Nat) (call : system.Call) : Prop :=
  ∃ rest, pool.running task = some (.ask call rest)

/-- A condition on the calls, as a condition on the steps. -/
def allowing (condition : system.World → Nat → system.Call → system.Choice → Prop) (pool : Pool system) :
    Event system → Prop
  | .reply task choice => ∀ call, Asks pool task call → condition pool.world task call choice
  | _ => True

/-- Whether a step is allowed can be decided from the call that the task asks for. -/
instance allowingDecidable (condition : system.World → Nat → system.Call → system.Choice → Prop)
    [∀ world task call choice, Decidable (condition world task call choice)] (pool : Pool system)
    (event : Event system) : Decidable (allowing condition pool event) :=
  match event with
  | .start _ _ | .finish _ => .isTrue trivial
  | .reply task choice =>
    match h : pool.running task with
    | some (.ask call rest) => decidable_of_iff (condition pool.world task call choice)
        ⟨fun ok other asks => by
          obtain ⟨_, hother⟩ := asks
          cases Option.some.inj (h.symm.trans hother)
          exact ok, fun ok => ok call ⟨rest, h⟩⟩
    | some (.done _) => .isTrue fun call asks => by
        obtain ⟨_, hother⟩ := asks
        cases Option.some.inj (h.symm.trans hother)
    | none => .isTrue fun call asks => by
        obtain ⟨_, hother⟩ := asks
        cases h.symm.trans hother

/-- The programs keep to the discipline, and every allowed answer keeps what the tasks know true. -/
structure Respects {Ghost : Type} (system : System) (discipline : Discipline system.Call system.Reply Ghost)
    (free : Ghost) (consistent : system.World → (Nat → Ghost) → Prop)
    (condition : system.World → Nat → system.Call → system.Choice → Prop) : Prop where
  programs : ∀ operation, Follows discipline free (system.program operation) fun _ ghost => ghost = free
  answers : ∀ world ghosts task call choice answer, consistent world ghosts →
    discipline.may (ghosts task) call → condition world task call choice →
    system.answer world task call choice = some answer →
    discipline.replied (ghosts task) call answer.2 ∧
      consistent answer.1 (Function.update ghosts task (discipline.next (ghosts task) call answer.2))

section respects

variable {Ghost : Type} {discipline : Discipline system.Call system.Reply Ghost} {free : Ghost}
  {consistent : system.World → (Nat → Ghost) → Prop}
  {condition : system.World → Nat → system.Call → system.Choice → Prop}

/-- What a task still does keeps to the discipline. -/
def TaskFollows (discipline : Discipline system.Call system.Reply Ghost) (free ghost : Ghost) :
    Option (Task system.Call system.Reply Unit) → Prop
  | none => ghost = free
  | some program => Follows discipline ghost program fun _ ghost => ghost = free

/-- What the tasks know is true of the world, and each of them keeps to the discipline. -/
def Disciplined (discipline : Discipline system.Call system.Reply Ghost) (free : Ghost)
    (consistent : system.World → (Nat → Ghost) → Prop) (pool : Pool system) : Prop :=
  ∃ ghosts, consistent pool.world ghosts ∧ ∀ task, TaskFollows discipline free (ghosts task) (pool.running task)

theorem taskFollows_update {ghosts : Nat → Ghost} {running : Nat → Option (Task system.Call system.Reply Unit)}
    (follows : ∀ task, TaskFollows discipline free (ghosts task) (running task)) (task : Nat) {ghost : Ghost}
    {program : Option (Task system.Call system.Reply Unit)} (h : TaskFollows discipline free ghost program) :
    ∀ other, TaskFollows discipline free (Function.update ghosts task ghost other)
      (Function.update running task program other) := by
  intro other
  by_cases hother : other = task
  · rw [hother, Function.update_self, Function.update_self]
    exact h
  · rw [Function.update_of_ne hother, Function.update_of_ne hother]
    exact follows other

theorem disciplined_step (respects : Respects system discipline free consistent condition)
    {pool pool' : Pool system} {event : Event system} (h : Disciplined discipline free consistent pool)
    (allowed : allowing condition pool event) (hstep : system.step pool event = some pool') :
    Disciplined discipline free consistent pool' := by
  obtain ⟨ghosts, hconsistent, follows⟩ := h
  cases event with
  | start task operation =>
    rw [step] at hstep
    split at hstep
    next hidle =>
      cases Option.some.inj hstep
      have hfree : ghosts task = free := by
        have hnone := follows task
        rw [hidle] at hnone
        exact hnone
      have hprogram : TaskFollows discipline free (ghosts task) (some (system.program operation)) := by
        rw [hfree]
        exact respects.programs operation
      have hghosts : Function.update ghosts task (ghosts task) = ghosts := Function.update_eq_self task ghosts
      have hall := taskFollows_update follows task hprogram
      rw [hghosts] at hall
      exact ⟨ghosts, hconsistent, hall⟩
    next => cases hstep
  | reply task choice =>
    rw [step] at hstep
    split at hstep
    next call rest hasks =>
      obtain ⟨answer, hanswer, hpool⟩ := Option.map_eq_some_iff.mp hstep
      cases hpool
      have hfollows := follows task
      rw [hasks] at hfollows
      obtain ⟨hreplied, hnext⟩ := respects.answers pool.world ghosts task call choice answer hconsistent
        hfollows.1 (allowed call ⟨rest, hasks⟩) hanswer
      exact ⟨_, hnext, taskFollows_update follows task (hfollows.2 answer.2 hreplied)⟩
    next => cases hstep
  | finish task =>
    rw [step] at hstep
    split at hstep
    next value hdone =>
      cases Option.some.inj hstep
      have hend := follows task
      rw [hdone] at hend
      have hfree : TaskFollows discipline free (ghosts task) none := hend
      have hghosts : Function.update ghosts task (ghosts task) = ghosts := Function.update_eq_self task ghosts
      have hall := taskFollows_update follows task hfree
      rw [hghosts] at hall
      exact ⟨ghosts, hconsistent, hall⟩
    next => cases hstep

/-- In every run of allowed steps the tasks stay disciplined. -/
theorem disciplined_of_reached (respects : Respects system discipline free consistent condition)
    {world : system.World} (start : consistent world fun _ => free) {pool : Pool system}
    (reached : Reached system.step (allowing condition) (idle world) pool) :
    Disciplined discipline free consistent pool := by
  have hidle : Disciplined discipline free consistent (idle world) :=
    ⟨fun _ => free, start, fun _ => Eq.refl free⟩
  refine reached.invariant hidle fun _ _ _ kept allowed hstep => ?_
  exact disciplined_step respects kept allowed hstep

end respects

end System

end TaskProgram
