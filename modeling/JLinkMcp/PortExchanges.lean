import JLinkMcp.AsyncLock
import JLinkMcp.StepRuns
import Mathlib.Logic.Function.Basic

namespace JLinkMcp.Port

open AsyncLock StepRuns

/-- The worker of an exchange: the task of `to_thread` that has not begun, the thread that runs
`_exchange_binary_sync`, and what is left of the two when the function has returned or raised. -/
inductive Worker where
  | created
  | running
  | finished (returned : Bool)
  | done (returned : Bool)
  deriving DecidableEq

/-- `worker.done()` -/
def Worker.isDone : Worker → Bool
  | done _ => true
  | _ => false

inductive Outcome where
  | returned | raised | cancelled
  deriving DecidableEq

/-- Where a request is suspended: it has not begun, waits for the lock of the port, or waits for the future of
`shield`, for the first time or while it handles a cancellation. -/
inductive Phase where
  | idle
  | lockWait
  | exchanging (shielded : Future) (handling : Bool)
  | ended (outcome : Outcome)
  deriving DecidableEq

/-- A request. An interrupted one has been cancelled while it waited for the lock, or after its future was done;
`cancelled` records that a cancellation was delivered. -/
structure Call where
  phase : Phase := .idle
  worker : Option Worker := none
  interrupted : Bool := false
  cancelled : Bool := false
  deriving DecidableEq

/-- Whether the request is in `exchange_binary`. -/
def Call.exchanging (call : Call) : Bool :=
  match call.phase with
  | .exchanging .. => true
  | _ => false

/-- The requests for one port; `holder` records who has taken its lock. -/
structure State (Task : Type) where
  lock : Lock Task
  holder : Option Task
  calls : Task → Call

variable {Task : Type} [DecidableEq Task]

namespace State

variable (state : State Task) (task : Task)

def setCall (call : Call) : State Task := { state with calls := Function.update state.calls task call }

/-- The request leaves the lock, in whatever way. -/
def leave (outcome : Outcome) : State Task :=
  setCall { state with lock := state.lock.release, holder := none } task
    { state.calls task with phase := .ended outcome, interrupted := false }

/-- `_request_locked` up to its first suspension, with the lock as the request has taken it. -/
def proceed (lock : Lock Task) (encodes : Bool) : State Task :=
  let taken : State Task := { state with lock, holder := some task }
  if encodes then
    taken.setCall task
      { state.calls task with phase := .exchanging .pending false, worker := some .created, interrupted := false }
  else taken.leave task .raised

/-- The worker goes on from where it was. -/
def work (worker : Worker) : State Task := state.setCall task { state.calls task with worker := some worker }

end State

/-- What happens next: a request begins, is cancelled, or has its turn; its worker begins, its function returns or
raises, its task ends, or the end of the task reaches the future of `shield`. What a request does without being
suspended succeeds or raises. -/
inductive Event (Task : Type) where
  | request (task : Task) (succeeds : Bool)
  | cancel (task : Task)
  | wake (task : Task) (succeeds : Bool)
  | submit (task : Task)
  | finish (task : Task) (returned : Bool)
  | settle (task : Task)
  | deliver (task : Task)

/-- The request that an event is about. -/
def Event.task : Event Task → Task
  | .request task _ => task
  | .cancel task => task
  | .wake task _ => task
  | .submit task => task
  | .finish task _ => task
  | .settle task => task
  | .deliver task => task

/-- How `_run_sync_to_completion` goes on behind an await whose future is done; `raised` where a cancellation is
raised there. -/
def resumeExchange (state : State Task) (task : Task) (raised handling succeeds : Bool) : Option (State Task) :=
  match (state.calls task).worker with
  | none => none
  | some worker =>
    if raised then
      if worker.isDone then some (state.leave task .cancelled)
      else some (state.setCall task
        { state.calls task with phase := .exchanging .pending true, interrupted := false })
    else
      match worker with
      | .done returned =>
        -- an error of the worker is raised out of the handler
        if handling && returned then some (state.leave task .cancelled)
        else some (state.leave task (if succeeds then .returned else .raised))
      | _ => none

def step (state : State Task) : Event Task → Option (State Task)
  | .request task succeeds =>
    match (state.calls task).phase with
    | .idle =>
      match state.lock.tryAcquire with
      | some lock => some (state.proceed task lock succeeds)
      | none => some (State.setCall { state with lock := state.lock.enqueue task } task
          { state.calls task with phase := .lockWait })
    | _ => none
  | .cancel task =>
    match (state.calls task).phase with
    | .lockWait => some (State.setCall { state with lock := state.lock.cancel task } task
        { state.calls task with interrupted := true, cancelled := true })
    | .exchanging .pending handling => some (state.setCall task
        { state.calls task with phase := .exchanging .cancelled handling, cancelled := true })
    | .exchanging _ _ => some (state.setCall task { state.calls task with interrupted := true, cancelled := true })
    | _ => none
  | .wake task succeeds =>
    match (state.calls task).phase with
    | .lockWait =>
      match state.lock.futureOf task, (state.calls task).interrupted with
      | some .done, false => some (state.proceed task (state.lock.resume task) succeeds)
      | some .done, true | some .cancelled, _ =>
        some (State.setCall { state with lock := state.lock.abandon task } task
          { state.calls task with phase := .ended .cancelled, interrupted := false })
      | _, _ => none
    | .exchanging .pending _ => none
    | .exchanging .done handling =>
      resumeExchange state task (state.calls task).interrupted handling succeeds
    | .exchanging .cancelled handling => resumeExchange state task true handling succeeds
    | _ => none
  | .submit task =>
    match (state.calls task).worker with
    | some .created => some (state.work task .running)
    | _ => none
  | .finish task returned =>
    match (state.calls task).worker with
    | some .running => some (state.work task (.finished returned))
    | _ => none
  | .settle task =>
    match (state.calls task).worker with
    | some (.finished returned) => some (state.work task (.done returned))
    | _ => none
  | .deliver task =>
    match (state.calls task).phase, (state.calls task).worker with
    | .exchanging .pending handling, some (.done _) =>
      some (state.setCall task { state.calls task with phase := .exchanging .done handling })
    | _, _ => none

/-- No request, and the lock free. -/
def start : State Task := ⟨{}, none, fun _ => {}⟩

section moves

variable {state state' : State Task} {event : Event Task}

/-- What a step can do. -/
inductive Moves (state : State Task) : Event Task → State Task → Prop
  | taken {task : Task} {succeeds : Bool} {lock : Lock Task} (idle : (state.calls task).phase = .idle)
      (free : state.lock.tryAcquire = some lock) :
        Moves state (.request task succeeds) (state.proceed task lock succeeds)
  | queued {task : Task} {succeeds : Bool} (idle : (state.calls task).phase = .idle)
      (busy : state.lock.tryAcquire = none) :
      Moves state (.request task succeeds) (State.setCall { state with lock := state.lock.enqueue task } task
        { state.calls task with phase := .lockWait })
  | waiterCancelled {task : Task} (waits : (state.calls task).phase = .lockWait) :
      Moves state (.cancel task) (State.setCall { state with lock := state.lock.cancel task } task
        { state.calls task with interrupted := true, cancelled := true })
  | shieldCancelled {task : Task} {handling : Bool}
    (exchanges : (state.calls task).phase = .exchanging .pending handling) :
      Moves state (.cancel task) (state.setCall task
        { state.calls task with phase := .exchanging .cancelled handling, cancelled := true })
  | interrupted {task : Task} {shielded : Future} {handling : Bool}
      (exchanges : (state.calls task).phase = .exchanging shielded handling) (completed : shielded ≠ .pending) :
      Moves state (.cancel task)
        (state.setCall task { state.calls task with interrupted := true, cancelled := true })
  | granted {task : Task} {succeeds : Bool} (waits : (state.calls task).phase = .lockWait)
      (woken : state.lock.futureOf task = some .done) (kept : (state.calls task).interrupted = false) :
      Moves state (.wake task succeeds) (state.proceed task (state.lock.resume task) succeeds)
  | abandoned {task : Task} {succeeds : Bool} (waits : (state.calls task).phase = .lockWait)
      (gone : state.lock.futureOf task = some .cancelled ∨ (state.calls task).interrupted = true) :
      Moves state (.wake task succeeds) (State.setCall { state with lock := state.lock.abandon task } task
        { state.calls task with phase := .ended .cancelled, interrupted := false })
  | waitsAgain {task : Task} {succeeds handling : Bool} {shielded : Future} {worker : Worker}
      (exchanges : (state.calls task).phase = .exchanging shielded handling)
      (raised : shielded = .cancelled ∨ (state.calls task).interrupted = true)
      (works : (state.calls task).worker = some worker) (unfinished : worker.isDone = false) :
      Moves state (.wake task succeeds) (state.setCall task
        { state.calls task with phase := .exchanging .pending true, interrupted := false })
  | left {task : Task} {succeeds handling returned : Bool} {shielded : Future} {outcome : Outcome}
      (exchanges : (state.calls task).phase = .exchanging shielded handling) (completed : shielded ≠ .pending)
      (finished : (state.calls task).worker = some (.done returned))
      (ends : outcome = .cancelled ∨ (shielded = .done ∧ (state.calls task).interrupted = false ∧
        (handling && returned) = false)) : Moves state (.wake task succeeds) (state.leave task outcome)
  | submitted {task : Task} (works : (state.calls task).worker = some .created) :
      Moves state (.submit task) (state.work task .running)
  | finished {task : Task} {returned : Bool} (works : (state.calls task).worker = some .running) :
      Moves state (.finish task returned) (state.work task (.finished returned))
  | settled {task : Task} {returned : Bool} (works : (state.calls task).worker = some (.finished returned)) :
      Moves state (.settle task) (state.work task (.done returned))
  | delivered {task : Task} {handling returned : Bool}
    (exchanges : (state.calls task).phase = .exchanging .pending handling)
      (finished : (state.calls task).worker = some (.done returned)) :
      Moves state (.deliver task) (state.setCall task
        { state.calls task with phase := .exchanging .done handling })

theorem moves_of_resumeExchange {task : Task} {shielded : Future} {raised handling succeeds : Bool}
    (exchanges : (state.calls task).phase = .exchanging shielded handling) (completed : shielded ≠ .pending)
    (hraised : raised = true ↔ shielded = .cancelled ∨ (state.calls task).interrupted = true)
    (h : resumeExchange state task raised handling succeeds = some state') :
    Moves state (.wake task succeeds) state' := by
  rw [resumeExchange] at h
  split at h
  next => cases h
  next worker hworker =>
    split at h
    next hinterrupted =>
      split at h
      next hdone =>
        cases Option.some.inj h
        cases worker with
        | done returned => exact .left exchanges completed hworker (Or.inl rfl)
        | _ => cases hdone
      next hdone =>
        cases Option.some.inj h
        exact .waitsAgain exchanges (hraised.mp hinterrupted) hworker (Bool.eq_false_iff.mpr hdone)
    next hkept =>
      have hnone := mt hraised.mpr hkept
      rw [not_or] at hnone
      have hshielded : shielded = .done := by
        cases shielded with
        | pending => exact absurd rfl completed
        | done => rfl
        | cancelled => exact absurd rfl hnone.1
      split at h
      next returned =>
        split at h
        next =>
          cases Option.some.inj h
          exact .left exchanges completed hworker (Or.inl rfl)
        next hcase =>
          cases Option.some.inj h
          exact .left exchanges completed hworker
            (Or.inr ⟨hshielded, Bool.eq_false_iff.mpr hnone.2, Bool.eq_false_iff.mpr hcase⟩)
      next => cases h

theorem moves_of_step (h : step state event = some state') : Moves state event state' := by
  cases event with
  | request task succeeds =>
    rw [step] at h
    split at h
    next hidle =>
      split at h
      next lock hfree =>
        cases Option.some.inj h
        exact .taken hidle hfree
      next hbusy =>
        cases Option.some.inj h
        exact .queued hidle hbusy
    next => cases h
  | cancel task =>
    rw [step] at h
    split at h
    next hwaits =>
      cases Option.some.inj h
      exact .waiterCancelled hwaits
    next handling hexchanges =>
      cases Option.some.inj h
      exact .shieldCancelled hexchanges
    next shielded handling hcompleted hexchanges =>
      cases Option.some.inj h
      exact .interrupted hexchanges fun hpending => hcompleted (hpending ▸ rfl)
    next => cases h
  | wake task succeeds =>
    rw [step] at h
    split at h
    next hwaits =>
      split at h
      next hwoken hkept =>
        cases Option.some.inj h
        exact .granted hwaits hwoken hkept
      next hwoken hinterrupted =>
        cases Option.some.inj h
        exact .abandoned hwaits (Or.inr hinterrupted)
      next hgone =>
        cases Option.some.inj h
        exact .abandoned hwaits (Or.inl hgone)
      next => cases h
    next => cases h
    next handling hexchanges =>
      refine moves_of_resumeExchange hexchanges (nofun) ⟨Or.inr, fun h => ?_⟩ h
      exact h.resolve_left nofun
    next handling hexchanges => exact moves_of_resumeExchange hexchanges nofun ⟨fun _ => Or.inl rfl, fun _ => rfl⟩ h
    next => cases h
  | submit task =>
    rw [step] at h
    split at h
    next hworks =>
      cases Option.some.inj h
      exact .submitted hworks
    next => cases h
  | finish task returned =>
    rw [step] at h
    split at h
    next hworks =>
      cases Option.some.inj h
      exact .finished hworks
    next => cases h
  | settle task =>
    rw [step] at h
    split at h
    next returned hworks =>
      cases Option.some.inj h
      exact .settled hworks
    next => cases h
  | deliver task =>
    rw [step] at h
    split at h
    next handling returned hexchanges hfinished =>
      cases Option.some.inj h
      exact .delivered hexchanges hfinished
    next => cases h

variable {task other : Task}

theorem calls_setCall {lock : Lock Task} {holder : Option Task} (call : Call) (hne : task ≠ other) :
    (State.setCall { state with lock, holder } other call).calls task = state.calls task :=
  Function.update_of_ne hne ..

theorem calls_proceed {lock : Lock Task} {succeeds : Bool} (hne : task ≠ other) :
    (state.proceed other lock succeeds).calls task = state.calls task := by
  rw [State.proceed]
  cases succeeds with
  | true => exact calls_setCall _ hne
  | false => exact calls_setCall _ hne

/-- A step is about one request, and leaves the others where they are. -/
theorem calls_of_ne (h : step state event = some state') (hne : task ≠ event.task) :
    state'.calls task = state.calls task := by
  cases moves_of_step h with
  | taken => exact calls_proceed hne
  | granted => exact calls_proceed hne
  | queued => exact calls_setCall _ hne
  | waiterCancelled => exact calls_setCall _ hne
  | shieldCancelled => exact calls_setCall _ hne
  | interrupted => exact calls_setCall _ hne
  | abandoned => exact calls_setCall _ hne
  | waitsAgain => exact calls_setCall _ hne
  | left => exact calls_setCall _ hne
  | submitted => exact calls_setCall _ hne
  | finished => exact calls_setCall _ hne
  | settled => exact calls_setCall _ hne
  | delivered => exact calls_setCall _ hne

end moves

/-- What holds of a request by itself: its worker is not left alone, and only a cancellation interrupts it or brings
it to the handler. -/
structure Call.Valid (call : Call) : Prop where
  covered : ∀ worker, call.worker = some worker → worker.isDone = false → call.exchanging = true
  works : call.exchanging = true → call.worker ≠ none
  delivered : ∀ handling, call.phase = .exchanging .done handling → ∃ returned, call.worker = some (.done returned)
  marked : call.interrupted = true → call.cancelled = true
  shielded : ∀ handling, call.phase = .exchanging .cancelled handling → call.cancelled = true
  handling : ∀ shielded, call.phase = .exchanging shielded true → call.cancelled = true

/-- The lock is taken by the one request that is in `exchange_binary`, and the requests that wait are its waiters. -/
structure Consistent (state : State Task) : Prop where
  fair : state.lock.Fair
  awake : state.lock.Awake
  tasks : ∀ task, task ∈ state.lock.tasks ↔ (state.calls task).phase = .lockWait
  locked : state.lock.locked = state.holder.isSome
  holder : ∀ task, (state.calls task).exchanging = true ↔ state.holder = some task
  valid : ∀ task, (state.calls task).Valid
  gone : ∀ waiter ∈ state.lock.waiters, waiter.future = .cancelled → (state.calls waiter.task).cancelled = true

section consistent

variable {state state' : State Task} {event : Event Task} {task : Task} {lock : Lock Task}

/-- A step of one request that leaves the others where they are. -/
theorem consistent_update (h : Consistent state) {holder : Option Task} {call : Call} (fair : lock.Fair)
    (awake : lock.Awake) (locked : lock.locked = holder.isSome)
    (waiting : ∀ other, other ≠ task → (other ∈ lock.tasks ↔ other ∈ state.lock.tasks))
    (waits : task ∈ lock.tasks ↔ call.phase = .lockWait)
    (holding : ∀ other, other ≠ task → (holder = some other ↔ state.holder = some other))
    (holds : call.exchanging = true ↔ holder = some task) (valid : call.Valid)
    (marked : (state.calls task).cancelled = true → call.cancelled = true)
    (gone : ∀ waiter ∈ lock.waiters, waiter.future = .cancelled →
      waiter ∈ state.lock.waiters ∨ (waiter.task = task ∧ call.cancelled = true)) :
    Consistent ⟨lock, holder, Function.update state.calls task call⟩ := by
  refine ⟨fair, awake, fun other => ?_, locked, fun other => ?_, fun other => ?_, fun waiter hwaiter hfuture => ?_⟩
  · by_cases hother : other = task
    · rw [hother]
      dsimp only
      rw [Function.update_self]
      exact waits
    · dsimp only
      rw [Function.update_of_ne hother]
      exact (waiting other hother).trans (h.tasks other)
  · by_cases hother : other = task
    · rw [hother]
      dsimp only
      rw [Function.update_self]
      exact holds
    · dsimp only
      rw [Function.update_of_ne hother]
      exact (h.holder other).trans (holding other hother).symm
  · by_cases hother : other = task
    · rw [hother]
      dsimp only
      rw [Function.update_self]
      exact valid
    · dsimp only
      rw [Function.update_of_ne hother]
      exact h.valid other
  · dsimp only
    rcases gone waiter hwaiter hfuture with hold | ⟨htask, hcancelled⟩
    · by_cases hother : waiter.task = task
      · rw [hother, Function.update_self]
        exact marked (hother ▸ h.gone waiter hold hfuture)
      · rw [Function.update_of_ne hother]
        exact h.gone waiter hold hfuture
    · rw [htask, Function.update_self]
      exact hcancelled

/-- A step of a request that does not touch the lock. -/
theorem consistent_setCall (h : Consistent state) {call : Call}
    (waits : (state.calls task).phase = .lockWait ↔ call.phase = .lockWait)
    (exchanges : call.exchanging = (state.calls task).exchanging) (valid : call.Valid)
    (marked : (state.calls task).cancelled = true → call.cancelled = true) :
    Consistent (state.setCall task call) := by
  refine consistent_update h h.fair h.awake h.locked (fun _ _ => Iff.rfl) ((h.tasks task).trans waits)
    (fun _ _ => Iff.rfl) ?_ valid marked fun waiter hwaiter _ => Or.inl hwaiter
  rw [exchanges]
  exact h.holder task

theorem exchanging_of_phase {call : Call} {shielded : Future} {handling : Bool}
    (h : call.phase = .exchanging shielded handling) : call.exchanging = true := by
  rw [Call.exchanging, h]

theorem phase_of_exchanging {call : Call} (h : call.exchanging = true) :
    ∃ shielded handling, call.phase = .exchanging shielded handling := by
  rw [Call.exchanging] at h
  split at h
  next shielded handling hphase => exact ⟨shielded, handling, hphase⟩
  next => cases h

theorem not_exchanging_of_phase {call : Call}
    (h : ∀ shielded handling, call.phase ≠ .exchanging shielded handling) :
    call.exchanging = false := by
  rw [Call.exchanging]
  split
  next shielded handling hphase => exact absurd hphase (h shielded handling)
  next => rfl

/-- The holder of the lock leaves it. -/
theorem consistent_leave (h : Consistent state) (held : state.holder = some task) {outcome : Outcome}
    (finished : ∀ worker, (state.calls task).worker = some worker → worker.isDone = true) :
    Consistent (state.leave task outcome) := by
  have hexchanges := (h.holder task).mpr held
  have hout : task ∉ state.lock.tasks := by
    intro hmem
    have hphase := (h.tasks task).mp hmem
    rw [Call.exchanging, hphase] at hexchanges
    cases hexchanges
  refine consistent_update h h.fair.release (Lock.awake_release _) (Lock.locked_release _)
    (fun other _ => by rw [Lock.tasks_release]) ?_ ?_ ⟨nofun, nofun⟩
    ⟨?_, nofun, nofun, nofun, fun _ => nofun, fun _ => nofun⟩ id ?_
  · rw [Lock.tasks_release]
    exact ⟨fun hmem => absurd hmem hout, nofun⟩
  · intro other hother
    rw [held]
    exact ⟨nofun, fun h => absurd (Option.some.inj h).symm hother⟩
  · intro worker hworker hdone
    rw [finished worker hworker] at hdone
    cases hdone
  · intro waiter hwaiter hfuture
    exact Or.inl (Lock.mem_of_not_done_release hwaiter (by rw [hfuture]; exact nofun))

/-- A request that was not in `exchange_binary` takes the lock. -/
theorem consistent_proceed (h : Consistent state) (fair : lock.Fair) (taken : lock.locked = true)
    (free : state.lock.locked = false)
      (waiting : ∀ other, other ≠ task → (other ∈ lock.tasks ↔ other ∈ state.lock.tasks))
    (out : task ∉ lock.tasks) (gone : ∀ waiter ∈ lock.waiters, waiter ∈ state.lock.waiters) (succeeds : Bool) :
    Consistent (state.proceed task lock succeeds) := by
  have hnobody : state.holder = none := by
    rw [h.locked, Option.isSome_eq_false_iff, Option.isNone_iff_eq_none] at free
    exact free
  have hidle : (state.calls task).exchanging = false := by
    rw [Bool.eq_false_iff]
    intro hexchanges
    rw [(h.holder task).mp hexchanges] at hnobody
    cases hnobody
  have halone : ∀ worker, (state.calls task).worker = some worker → worker.isDone = true := by
    intro worker hworker
    rw [← Bool.not_eq_false]
    intro hdone
    rw [(h.valid task).covered worker hworker hdone] at hidle
    cases hidle
  have hholding (other : Task) (hother : other ≠ task) : some task = some other ↔ state.holder = some other := by
    rw [hnobody]
    exact ⟨fun h => absurd (Option.some.inj h).symm hother, nofun⟩
  rw [State.proceed]
  cases succeeds with
  | true =>
    refine consistent_update h fair (Lock.awake_of_locked taken) taken waiting ⟨fun hmem => absurd hmem out, nofun⟩
      hholding ⟨fun _ => rfl, fun _ => rfl⟩
      ⟨fun _ _ _ => rfl, fun _ => nofun, fun _ h => (nomatch h), nofun, fun _ => nofun, fun _ => nofun⟩ id
      fun waiter hwaiter _ => Or.inl (gone waiter hwaiter)
  | false =>
    -- the lock is released before anybody else can see that it was taken
    refine consistent_update h fair.release (Lock.awake_release _) (Lock.locked_release _)
      (fun other hother => by rw [Lock.tasks_release]; exact waiting other hother) ?_ ?_ ⟨nofun, nofun⟩
      ⟨?_, nofun, nofun, nofun, fun _ => nofun, fun _ => nofun⟩ id ?_
    · rw [Lock.tasks_release]
      exact ⟨fun hmem => absurd hmem out, nofun⟩
    · intro other _
      rw [hnobody]
    · intro worker hworker hdone
      rw [halone worker hworker] at hdone
      cases hdone
    · intro waiter hwaiter hfuture
      exact Or.inl (gone waiter (Lock.mem_of_not_done_release hwaiter (by rw [hfuture]; exact nofun)))

/-- Every step keeps the requests and the lock consistent. -/
theorem consistent_step (h : Consistent state) (hstep : step state event = some state') : Consistent state' := by
  have hwork {task : Task} {worker worker' : Worker} (hworker : (state.calls task).worker = some worker)
      (unfinished : worker.isDone = false)
        (hnext : ∀ returned, worker = .done returned → worker' = .done returned) :
      Consistent (state.work task worker') := by
    have hvalid := h.valid task
    have hexchanges := hvalid.covered worker hworker unfinished
    refine consistent_setCall h Iff.rfl rfl ⟨fun _ _ _ => hexchanges, fun _ => nofun, fun handling hphase => ?_,
      hvalid.marked, hvalid.shielded, hvalid.handling⟩ id
    obtain ⟨returned, hdone⟩ := hvalid.delivered handling hphase
    rw [hworker] at hdone
    cases Option.some.inj hdone
    cases unfinished
  cases moves_of_step hstep with
  | @taken task succeeds lock idle free =>
    obtain ⟨fair, taken, hfree, hwaiters⟩ := Lock.Fair.tryAcquire free
    have htasks : lock.tasks = state.lock.tasks := congrArg (List.map Waiter.task) hwaiters
    have hout : task ∉ lock.tasks := by
      rw [htasks, h.tasks task, idle]
      exact nofun
    exact consistent_proceed h fair taken hfree (fun other _ => by rw [htasks]) hout
      (fun waiter hwaiter => hwaiters ▸ hwaiter) succeeds
  | @queued task succeeds idle busy =>
    have hvalid := h.valid task
    have hidle : (state.calls task).exchanging = false := not_exchanging_of_phase fun _ _ hphase => by
      rw [idle] at hphase
      cases hphase
    refine consistent_update h (h.fair.enqueue task) (h.awake.enqueue busy task) h.locked ?_ ?_
      (fun _ _ => Iff.rfl) ?_
      ⟨?_, nofun, nofun, hvalid.marked, fun _ => nofun, fun _ => nofun⟩ id ?_
    · intro other hother
      rw [Lock.tasks_enqueue, List.mem_append, List.mem_singleton]
      exact ⟨fun hmem => hmem.resolve_right hother, Or.inl⟩
    · rw [Lock.tasks_enqueue]
      exact ⟨fun _ => rfl, fun _ => List.mem_append_right _ (List.mem_singleton.mpr rfl)⟩
    · have hnot := (h.holder task).not.mp (by rw [hidle]; exact Bool.false_ne_true)
      exact ⟨nofun, fun hheld => absurd hheld hnot⟩
    · intro worker hworker hdone
      rw [hvalid.covered worker hworker hdone] at hidle
      cases hidle
    · intro waiter hwaiter hfuture
      rcases List.mem_append.mp hwaiter with hold | hnew
      · exact Or.inl hold
      · rw [List.mem_singleton.mp hnew] at hfuture
        cases hfuture
  | @waiterCancelled task waits =>
    have hvalid := h.valid task
    refine consistent_update h (h.fair.cancel task) (h.awake.cancel task) h.locked
      (fun other _ => by rw [Lock.tasks_cancel]) ?_ (fun _ _ => Iff.rfl) (h.holder task)
      ⟨hvalid.covered, hvalid.works, hvalid.delivered, fun _ => rfl, fun _ _ => rfl, fun _ _ => rfl⟩
        (fun _ => rfl) ?_
    · rw [Lock.tasks_cancel]
      exact h.tasks task
    · intro waiter hwaiter _
      exact (Lock.mem_or_of_mem_cancel hwaiter).imp_right fun htask => ⟨htask, rfl⟩
  | @shieldCancelled task handling exchanges =>
    have hvalid := h.valid task
    have hbefore := exchanging_of_phase exchanges
    refine consistent_setCall h (by rw [exchanges]; exact ⟨nofun, nofun⟩) hbefore.symm
      ⟨fun _ _ _ => rfl, fun _ => hvalid.works hbefore, fun _ h => (nomatch h), fun _ => rfl, fun _ _ => rfl,
        fun _ _ => rfl⟩ fun _ => rfl
  | @interrupted task shielded handling exchanges completed =>
    have hvalid := h.valid task
    exact consistent_setCall h Iff.rfl rfl
      ⟨hvalid.covered, hvalid.works, hvalid.delivered, fun _ => rfl, fun _ _ => rfl, fun _ _ => rfl⟩ fun _ => rfl
  | @granted task succeeds waits woken kept =>
    obtain ⟨hfree, fair⟩ := h.fair.resume woken
    have htasks := Lock.tasks_resume state.lock task
    refine consistent_proceed h fair rfl hfree ?_ ?_ (fun waiter hwaiter => (List.mem_filter.mp hwaiter).1) succeeds
    · intro other hother
      rw [htasks, List.mem_filter]
      exact ⟨And.left, fun hmem => ⟨hmem, decide_eq_true hother⟩⟩
    · rw [htasks, List.mem_filter]
      exact fun hmem => of_decide_eq_true hmem.2 rfl
  | @abandoned task succeeds waits gone =>
    have hvalid := h.valid task
    have htasks := Lock.tasks_abandon state.lock task
    have hidle : (state.calls task).exchanging = false := not_exchanging_of_phase fun _ _ hphase => by
      rw [waits] at hphase
      cases hphase
    refine consistent_update h (h.fair.abandon task) (Lock.awake_abandon _ task)
      ((Lock.locked_abandon _ task).trans h.locked) ?_ ?_ (fun _ _ => Iff.rfl) ?_
      ⟨?_, nofun, nofun, nofun, fun _ => nofun, fun _ => nofun⟩ id ?_
    · intro other hother
      rw [htasks, List.mem_filter]
      exact ⟨And.left, fun hmem => ⟨hmem, decide_eq_true hother⟩⟩
    · rw [htasks, List.mem_filter]
      exact ⟨fun hmem => absurd rfl (of_decide_eq_true hmem.2), nofun⟩
    · have hnot := (h.holder task).not.mp (by rw [hidle]; exact Bool.false_ne_true)
      exact ⟨nofun, fun hheld => absurd hheld hnot⟩
    · intro worker hworker hdone
      rw [hvalid.covered worker hworker hdone] at hidle
      cases hidle
    · intro waiter hwaiter hfuture
      exact Or.inl (Lock.mem_of_not_done_abandon hwaiter (by rw [hfuture]; exact nofun))
  | @waitsAgain task succeeds handling shielded worker exchanges raised works unfinished =>
    have hvalid := h.valid task
    have hbefore := exchanging_of_phase exchanges
    have hcancelled : (state.calls task).cancelled = true := by
      rcases raised with hshielded | hinterrupted
      · exact hvalid.shielded handling (hshielded ▸ exchanges)
      · exact hvalid.marked hinterrupted
    exact consistent_setCall h (by rw [exchanges]; exact ⟨nofun, nofun⟩) hbefore.symm
      ⟨fun _ _ _ => rfl, fun _ => hvalid.works hbefore, fun _ h => (nomatch h), nofun, fun _ => nofun,
        fun _ _ => hcancelled⟩ id
  | @left task succeeds handling returned shielded outcome exchanges completed finished ends =>
    have held := (h.holder task).mp (exchanging_of_phase exchanges)
    refine consistent_leave h held fun worker hworker => ?_
    rw [finished] at hworker
    cases Option.some.inj hworker
    rfl
  | submitted works => exact hwork works rfl nofun
  | finished works => exact hwork works rfl nofun
  | settled works => exact hwork works rfl nofun
  | @delivered task handling returned exchanges finished =>
    have hvalid := h.valid task
    have hbefore := exchanging_of_phase exchanges
    refine consistent_setCall h (by rw [exchanges]; exact ⟨nofun, nofun⟩) hbefore.symm
      ⟨fun _ _ _ => rfl, fun _ => hvalid.works hbefore, fun _ _ => ⟨returned, finished⟩, hvalid.marked,
        fun _ => nofun, fun _ hphase => ?_⟩ id
    cases hphase
    exact hvalid.handling _ exchanges

omit [DecidableEq Task] in
theorem consistent_start : Consistent (start : State Task) := by
  refine ⟨Lock.fair_unlocked, fun _ _ => nofun, fun _ => ⟨nofun, nofun⟩, rfl, fun _ => ⟨nofun, nofun⟩,
    fun _ => ⟨nofun, nofun, nofun, nofun, fun _ => nofun, fun _ => nofun⟩, nofun⟩

theorem consistent_of_reached {allowed : State Task → Event Task → Prop}
    (reached : Reached step allowed start state) : Consistent state :=
  reached.invariant consistent_start fun _ _ _ consistent _ h => consistent_step consistent h

end consistent

section cancelled

variable {state state' : State Task} {event : Event Task}

/-- The wait of the handler of a cancellation does not end with an error of the worker. -/
def quiet (state : State Task) : Event Task → Prop
  | .wake task _ =>
    (state.calls task).phase = .exchanging .done true → (state.calls task).interrupted = false →
      (state.calls task).worker ≠ some (.done false)
  | _ => True

instance (state : State Task) (event : Event Task) : Decidable (quiet state event) :=
  match event with
  | .wake task _ => inferInstanceAs (Decidable ((state.calls task).phase = .exchanging .done true →
      (state.calls task).interrupted = false → (state.calls task).worker ≠ some (.done false)))
  | .request .. => isTrue trivial
  | .cancel _ => isTrue trivial
  | .submit _ => isTrue trivial
  | .finish .. => isTrue trivial
  | .settle _ => isTrue trivial
  | .deliver _ => isTrue trivial

/-- A cancelled request is on its way to the end of a cancelled task. -/
structure Call.Cancelled (call : Call) : Prop where
  waiting : call.phase = .lockWait → call.interrupted = true
  exchanging : ∀ shielded handling, call.phase = .exchanging shielded handling →
    shielded = .cancelled ∨ call.interrupted = true ∨ handling = true
  ended : ∀ outcome, call.phase = .ended outcome → outcome = .cancelled

/-- Who begins has not been cancelled, and who was goes on as one. -/
structure Call.Kept (call : Call) : Prop where
  cancelled : call.cancelled = true → call.Cancelled
  idle : call.phase = .idle → call.cancelled = false

theorem kept_of_not_cancelled {call : Call} (h : call.cancelled = false) : call.Kept := by
  refine ⟨fun hcancelled => ?_, fun _ => h⟩
  rw [h] at hcancelled
  cases hcancelled

theorem kept_ended {call : Call} {outcome : Outcome} (hphase : call.phase = .ended outcome)
    (ended : call.cancelled = true → outcome = .cancelled) : call.Kept := by
  refine ⟨fun hcancelled => ⟨?_, ?_, ?_⟩, ?_⟩ <;> rw [hphase]
  · exact nofun
  · exact fun _ _ => nofun
  · intro other hother
    cases hother
    exact ended hcancelled
  · exact nofun

theorem kept_update {task : Task} {lock : Lock Task} {holder : Option Task}
    (h : ∀ task, (state.calls task).Kept) {call : Call} (kept : call.Kept) :
    ∀ other, ((State.setCall { state with lock, holder } task call).calls other).Kept := by
  intro other
  rw [State.setCall]
  dsimp only
  by_cases hother : other = task
  · rw [hother, Function.update_self]
    exact kept
  · rw [Function.update_of_ne hother]
    exact h other

theorem kept_proceed {task : Task} {lock : Lock Task} {succeeds : Bool} (h : ∀ task, (state.calls task).Kept)
    (hnot : (state.calls task).cancelled = false) :
    ∀ other, ((state.proceed task lock succeeds).calls other).Kept := by
  rw [State.proceed]
  cases succeeds with
  | true => exact kept_update h (kept_of_not_cancelled hnot)
  | false => exact kept_update h (kept_of_not_cancelled hnot)

/-- The worker of a request goes on. -/
theorem kept_work {task : Task} {worker : Worker} (h : ∀ task, (state.calls task).Kept) :
    ∀ other, ((state.work task worker).calls other).Kept := by
  have hkept := h task
  refine kept_update h ⟨fun hcancelled => ?_, hkept.idle⟩
  have hbefore := hkept.cancelled hcancelled
  exact ⟨hbefore.waiting, hbefore.exchanging, hbefore.ended⟩

theorem kept_step (h : ∀ task, (state.calls task).Kept) (quiets : quiet state event)
    (hstep : step state event = some state') : ∀ task, (state'.calls task).Kept := by
  cases moves_of_step hstep with
  | @taken task succeeds lock idle free => exact kept_proceed h ((h task).idle idle)
  | @queued task succeeds idle busy => exact kept_update h (kept_of_not_cancelled ((h task).idle idle))
  | @waiterCancelled task waits =>
    refine kept_update h ⟨fun _ => ⟨fun _ => rfl, ?_, ?_⟩, ?_⟩ <;> dsimp only <;> rw [waits]
    · exact fun _ _ => nofun
    · exact fun _ => nofun
    · exact nofun
  | @shieldCancelled task handling exchanges =>
    refine kept_update h ⟨fun _ => ⟨nofun, ?_, fun _ => nofun⟩, nofun⟩
    intro shielded handling hphase
    cases hphase
    exact Or.inl rfl
  | @interrupted task shielded handling exchanges completed =>
    refine kept_update h ⟨fun _ => ⟨fun _ => rfl, fun _ _ _ => Or.inr (Or.inl rfl), ?_⟩, ?_⟩ <;> dsimp only <;>
      rw [exchanges]
    · exact fun _ => nofun
    · exact nofun
  | @granted task succeeds waits woken kept =>
    refine kept_proceed h ?_
    rw [Bool.eq_false_iff]
    intro hcancelled
    rw [((h task).cancelled hcancelled).waiting waits] at kept
    cases kept
  | @abandoned task succeeds waits gone => exact kept_update h (kept_ended rfl fun _ => rfl)
  | @waitsAgain task succeeds handling shielded worker exchanges raised works unfinished =>
    refine kept_update h ⟨fun _ => ⟨nofun, ?_, fun _ => nofun⟩, nofun⟩
    intro shielded handling hphase
    cases hphase
    exact Or.inr (Or.inr rfl)
  | @left task succeeds handling returned shielded outcome exchanges completed finished ends =>
    refine kept_update h (kept_ended rfl fun hcancelled => ?_)
    rcases ends with hends | ⟨rfl, hinterrupted, hreturned⟩
    · exact hends
    · -- the request handles the cancellation, and its worker has not raised
      exfalso
      have hbefore := (h task).cancelled hcancelled
      have hhandling : handling = true := by
        rcases hbefore.exchanging _ _ exchanges with hcase | hcase | hcase
        · cases hcase
        · rw [hinterrupted] at hcase
          cases hcase
        · exact hcase
      subst hhandling
      cases returned with
      | true => cases hreturned
      | false => exact quiets exchanges hinterrupted finished
  | submitted works => exact kept_work h
  | finished works => exact kept_work h
  | settled works => exact kept_work h
  | @delivered task handling returned exchanges finished =>
    refine kept_update h ⟨fun hcancelled => ⟨nofun, fun shielded handling hphase => ?_, fun _ => nofun⟩, nofun⟩
    cases hphase
    exact Or.inr ((((h task).cancelled hcancelled).exchanging _ _ exchanges).resolve_left nofun)

/-- A cancelled request ends as a cancelled task, in runs whose handlers are not left with an error. -/
theorem ended_of_cancelled (reached : Reached step quiet start state) {task : Task} {outcome : Outcome}
    (cancelled : (state.calls task).cancelled = true) (ended : (state.calls task).phase = .ended outcome) :
    outcome = .cancelled := by
  let kept (state : State Task) : Prop := ∀ task, (state.calls task).Kept
  have hkept : kept state := reached.invariant (fun _ => kept_of_not_cancelled rfl)
    fun _ _ _ holds allowed h => kept_step holds allowed h
  exact ((hkept task).cancelled cancelled).ended outcome ended

/-- The handler that is left with an error ends a cancelled request without its cancellation. -/
theorem not_cancelled_of_not_quiet (consistent : Consistent state) (hstep : step state event = some state')
    (loud : ¬quiet state event) :
    (state'.calls event.task).cancelled = true ∧
      ∃ outcome, outcome ≠ .cancelled ∧ (state'.calls event.task).phase = .ended outcome := by
  cases event with
  | wake task succeeds =>
    rw [quiet, Classical.not_imp, Classical.not_imp, Classical.not_not] at loud
    obtain ⟨hphase, hinterrupted, hworker⟩ := loud
    have hcancelled := (consistent.valid task).handling _ hphase
    rw [step, hphase] at hstep
    dsimp only at hstep
    rw [hinterrupted, resumeExchange, hworker] at hstep
    cases Option.some.inj hstep
    rw [Event.task, State.leave, State.setCall]
    dsimp only
    rw [Function.update_self]
    cases succeeds with
    | true => exact ⟨hcancelled, .returned, nofun, rfl⟩
    | false => exact ⟨hcancelled, .raised, nofun, rfl⟩
  | _ => exact absurd trivial loud

end cancelled

end JLinkMcp.Port
