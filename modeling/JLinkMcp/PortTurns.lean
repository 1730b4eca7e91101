import JLinkMcp.FairRuns
import JLinkMcp.PortExchanges

namespace JLinkMcp.Port

open AsyncLock StepRuns FairRuns

variable {Task : Type} [DecidableEq Task]

section turns

/-- What is not put off for ever: the turn of a request that can have one, and what its worker does. -/
inductive Action (Task : Type) where
  | wake (task : Task)
  | submit (task : Task)
  | finish (task : Task)
  | settle (task : Task)
  | deliver (task : Task)
  deriving DecidableEq

def Event.action? : Event Task → Option (Action Task)
  | .request .. => none
  | .cancel _ => none
  | .wake task _ => some (.wake task)
  | .submit task => some (.submit task)
  | .finish task _ => some (.finish task)
  | .settle task => some (.settle task)
  | .deliver task => some (.deliver task)

/-- Whether the future of `shield` is pending. -/
def Call.pends (call : Call) : Bool :=
  match call.phase with
  | .exchanging .pending _ => true
  | _ => false

/-- How many actions there are before the request leaves the lock, where nobody cancels it. -/
def Call.remaining (call : Call) : Nat :=
  match call.worker with
  | some .created => 5
  | some .running => 4
  | some (.finished _) => 3
  | some (.done _) => if call.pends then 2 else 1
  | none => 1

/-- The first of these actions. -/
def Call.nextAction (task : Task) (call : Call) : Action Task :=
  match call.worker with
  | some .created => .submit task
  | some .running => .finish task
  | some (.finished _) => .settle task
  | some (.done _) => if call.pends then .deliver task else .wake task
  | none => .wake task

/-- The actions before the request is granted the lock, at most. -/
def rank (task : Task) (state : State Task) : Nat :=
  6 * Lock.ahead task state.lock.tasks +
    match state.holder with
    | none => 0
    | some holder => (state.calls holder).remaining

/-- The one of them that is due: the holder's, or the turn of the first waiter. -/
def helpful (task : Task) (state : State Task) : Action Task :=
  match state.holder with
  | none => .wake (state.lock.tasks.head?.getD task)
  | some holder => (state.calls holder).nextAction holder

/-- The request waits for the lock, and nobody has cancelled it. -/
def waits (task : Task) (state : State Task) : Prop :=
  (state.calls task).phase = .lockWait ∧ (state.calls task).cancelled = false

variable {state state' : State Task} {event : Event Task} {task other holder : Task}

theorem rank_of_holder (h : state.holder = some holder) :
    rank task state = 6 * Lock.ahead task state.lock.tasks + (state.calls holder).remaining := by
  rw [rank, h]

theorem rank_of_free (h : state.holder = none) : rank task state = 6 * Lock.ahead task state.lock.tasks := by
  rw [rank, h, Nat.add_zero]

theorem remaining_pos (call : Call) : 0 < call.remaining := by
  rw [Call.remaining]
  split
  · decide
  · decide
  · decide
  · split <;> decide
  · decide

omit [DecidableEq Task] in
theorem remaining_of_unfinished {call call' : Call} {worker : Worker} (works : call.worker = some worker)
    (unfinished : worker.isDone = false) (same : call'.worker = call.worker) :
    call'.remaining = call.remaining ∧ call'.nextAction task = call.nextAction task := by
  rw [Call.remaining, Call.remaining, Call.nextAction, Call.nextAction, same, works]
  cases worker with
  | done returned => cases unfinished
  | _ => exact ⟨rfl, rfl⟩

theorem pends_of_phase {call : Call} {shielded : Future} {handling : Bool}
    (h : call.phase = .exchanging shielded handling) : call.pends = decide (shielded = .pending) := by
  rw [Call.pends, h]
  cases shielded <;> rfl

/-- The holder of the lock can always go on. -/
theorem enabled_nextAction (consistent : Consistent state) (held : state.holder = some holder) :
    Enabled step Event.action? state ((state.calls holder).nextAction holder) := by
  have hexchanges := (consistent.holder holder).mpr held
  have hvalid := consistent.valid holder
  rw [Call.nextAction]
  cases hworker : (state.calls holder).worker with
  | none => exact absurd hworker (hvalid.works hexchanges)
  | some worker =>
    cases worker with
    | created => exact ⟨.submit holder, _, rfl, by rw [step, hworker]⟩
    | running => exact ⟨.finish holder true, _, rfl, by rw [step, hworker]⟩
    | finished returned => exact ⟨.settle holder, _, rfl, by rw [step, hworker]⟩
    | done returned =>
      have hresumes (raised handling : Bool) :
          ∃ state', resumeExchange state holder raised handling true = some state' := by
        rw [resumeExchange, hworker]
        cases raised with
        | true => exact ⟨_, rfl⟩
        | false =>
          dsimp only
          rw [if_neg Bool.false_ne_true]
          split
          · exact ⟨_, rfl⟩
          · exact ⟨_, rfl⟩
      obtain ⟨shielded, handling, hphase⟩ := phase_of_exchanging hexchanges
      have hpends := pends_of_phase hphase
      dsimp only
      rw [hpends]
      cases shielded with
      | pending => exact ⟨.deliver holder, _, rfl, by rw [step, hphase, hworker]⟩
      | done =>
        obtain ⟨state', hstate'⟩ := hresumes (state.calls holder).interrupted handling
        exact ⟨.wake holder true, state', rfl, by rw [step, hphase]; exact hstate'⟩
      | cancelled =>
        obtain ⟨state', hstate'⟩ := hresumes true handling
        exact ⟨.wake holder true, state', rfl, by rw [step, hphase]; exact hstate'⟩

/-- The due action is possible. -/
theorem enabled_helpful (consistent : Consistent state) (h : waits task state) :
    Enabled step Event.action? state (helpful task state) := by
  cases hholder : state.holder with
  | some holder =>
    rw [helpful, hholder]
    exact enabled_nextAction consistent hholder
  | none =>
    have hfree : state.lock.locked = false := by
      rw [consistent.locked, hholder]
      rfl
    have hmem := (consistent.tasks task).mpr h.1
    cases hwaiters : state.lock.waiters with
    | nil =>
      rw [Lock.tasks, hwaiters] at hmem
      cases hmem
    | cons first rest =>
      have hhead : state.lock.tasks.head? = some first.task := by
        rw [Lock.tasks, hwaiters]
        rfl
      have hfuture := Lock.futureOf_head hwaiters
      have hphase := (consistent.tasks first.task).mp (List.mem_of_mem_head? hhead)
      have hpending := consistent.awake hfree first (by rw [hwaiters]; rfl)
      rw [helpful, hholder, hhead]
      refine ⟨.wake first.task true, ?_⟩
      rw [step, hphase]
      dsimp only
      rw [hfuture]
      cases hfirst : first.future with
      | pending => exact absurd hfirst hpending
      | done =>
        cases (state.calls first.task).interrupted with
        | true => exact ⟨_, rfl, rfl⟩
        | false => exact ⟨_, rfl, rfl⟩
      | cancelled => exact ⟨_, rfl, rfl⟩

/-- A step of one request that keeps the place of the task, the first waiter, and what the holder has to do. -/
theorem same_setCall {lock : Lock Task} {call : Call}
    (hahead : Lock.ahead task lock.tasks = Lock.ahead task state.lock.tasks)
    (hhead : lock.tasks.head? = state.lock.tasks.head?)
    (hown : state.holder = some other → call.remaining = (state.calls other).remaining ∧
      call.nextAction other = (state.calls other).nextAction other) :
    rank task (State.setCall { state with lock } other call) = rank task state ∧
      helpful task (State.setCall { state with lock } other call) = helpful task state := by
  rw [rank, rank, helpful, helpful, State.setCall]
  dsimp only
  rw [hahead, hhead]
  cases hholder : state.holder with
  | none => exact ⟨rfl, rfl⟩
  | some holder =>
    dsimp only
    by_cases hother : holder = other
    · rw [hother, Function.update_self]
      obtain ⟨hremaining, hnext⟩ := hown (hother ▸ hholder)
      exact ⟨congrArg (_ + ·) hremaining, hnext⟩
    · rw [Function.update_of_ne hother]
      exact ⟨rfl, rfl⟩

/-- The holder has an action less to take. -/
theorem lower_setCall {call : Call} (held : state.holder = some other)
    (hlower : call.remaining < (state.calls other).remaining) :
    rank task (state.setCall other call) < rank task state := by
  have hafter : (state.setCall other call).holder = some other := held
  have hcall : (state.setCall other call).calls other = call := Function.update_self ..
  have htasks : (state.setCall other call).lock.tasks = state.lock.tasks := rfl
  rw [rank_of_holder held, rank_of_holder hafter, hcall, htasks]
  omega

omit [DecidableEq Task] in
theorem nextAction_ne_wake {call : Call} (hne : other ≠ task) : call.nextAction other ≠ .wake task := by
  rw [Call.nextAction]
  split
  · exact nofun
  · exact nofun
  · exact nofun
  · split
    · exact nofun
    · exact fun h => hne (Action.wake.inj h)
  · exact fun h => hne (Action.wake.inj h)

omit [DecidableEq Task] in
theorem idle_ne_exchanging (shielded : Future) (handling : Bool) : Phase.idle ≠ .exchanging shielded handling := by
  intro h
  cases h

theorem lockWait_ne_exchanging (shielded : Future) (handling : Bool) :
    Phase.lockWait ≠ .exchanging shielded handling := by
  intro h
  cases h

omit [DecidableEq Task] in
theorem not_holder_of_phase (consistent : Consistent state)
    (hphase : ∀ shielded handling, (state.calls other).phase ≠ .exchanging shielded handling) :
    state.holder ≠ some other := by
  intro held
  have hexchanges := (consistent.holder other).mpr held
  rw [not_exchanging_of_phase hphase] at hexchanges
  cases hexchanges

omit [DecidableEq Task] in
theorem holder_of_unfinished (consistent : Consistent state) {worker : Worker}
    (works : (state.calls other).worker = some worker) (unfinished : worker.isDone = false) :
    state.holder = some other :=
  (consistent.holder other).mp ((consistent.valid other).covered worker works unfinished)

theorem remaining_of_done {call : Call} {returned : Bool} (h : call.worker = some (.done returned)) :
    call.remaining = if call.pends then 2 else 1 := by
  rw [Call.remaining, h]

/-- A place in the queue becomes free in front of the task, or behind it. -/
theorem ahead_leave {lock : Lock Task} (hne : task ≠ other)
    (htasks : lock.tasks = state.lock.tasks.filter fun one => one ≠ other) :
    Lock.ahead task lock.tasks < Lock.ahead task state.lock.tasks ∨
      (Lock.ahead task lock.tasks = Lock.ahead task state.lock.tasks ∧
        lock.tasks.head? = state.lock.tasks.head? ∧ state.lock.tasks.head? ≠ some other) := by
  rw [htasks]
  have hkeep : decide (task ≠ other) = true := decide_eq_true hne
  rcases @Lock.ahead_filter _ _ state.lock.tasks task (fun one => decide (one ≠ other)) hkeep with
    hlt | ⟨hsame, hhead⟩
  · exact Or.inl hlt
  · refine Or.inr ⟨hsame, hhead, fun hother => ?_⟩
    rw [hother] at hhead
    have hmem := List.mem_of_mem_head? hhead
    exact of_decide_eq_true (List.mem_filter.mp hmem).2 rfl

/-- A request that does not hold the lock changes the rank by the places it frees only. -/
theorem rank_setCall {lock : Lock Task} {call : Call} (hnot : state.holder ≠ some other) :
    rank task (State.setCall { state with lock } other call) + 6 * Lock.ahead task state.lock.tasks =
      rank task state + 6 * Lock.ahead task lock.tasks := by
  rw [rank, rank, State.setCall]
  dsimp only
  cases hholder : state.holder with
  | none =>
    dsimp only
    omega
  | some holder =>
    have hother : holder ≠ other := fun h => hnot (h ▸ hholder)
    dsimp only
    rw [Function.update_of_ne hother]
    omega

omit [DecidableEq Task] in
/-- The turn of somebody else is not the due action. -/
theorem helpful_ne_wake (hne : task ≠ other) (hhead : state.lock.tasks.head? ≠ some other)
    (hnot : state.holder ≠ some other) : helpful task state ≠ .wake other := by
  rw [helpful]
  split
  next =>
    intro hwake
    cases hfirst : state.lock.tasks.head? with
    | none =>
      rw [hfirst] at hwake
      exact hne (Action.wake.inj hwake)
    | some first =>
      rw [hfirst] at hwake hhead
      exact hhead (congrArg some (Action.wake.inj hwake))
  next holder hholder => exact nextAction_ne_wake fun h => hnot (h ▸ hholder)

/-- The lock of a request is left, or its request is nearer to leaving it, unless the step was not the due one. -/
theorem exchange_progress (consistent : Consistent state) (held : state.holder = some event.task)
    (hstep : step state event = some state') :
    (∃ outcome, state' = state.leave event.task outcome) ∨
      ∃ call, state' = state.setCall event.task call ∧
        (call.remaining < (state.calls event.task).remaining ∨
          (call.remaining = (state.calls event.task).remaining ∧
            call.nextAction event.task = (state.calls event.task).nextAction event.task ∧
            event.action? ≠ some ((state.calls event.task).nextAction event.task))) := by
  have hexchanges := (consistent.holder event.task).mpr held
  have hvalid := consistent.valid event.task
  have hout (phase : Phase) (hphase : (state.calls event.task).phase = phase)
      (hnot : ∀ shielded handling, phase ≠ .exchanging shielded handling) : False := by
    obtain ⟨shielded, handling, hother⟩ := phase_of_exchanging hexchanges
    exact hnot shielded handling (hphase.symm.trans hother)
  cases moves_of_step hstep with
  | @taken other succeeds lock idle free => exact (hout _ idle idle_ne_exchanging).elim
  | @queued other succeeds idle busy => exact (hout _ idle idle_ne_exchanging).elim
  | @waiterCancelled other waits => exact (hout _ waits lockWait_ne_exchanging).elim
  | @granted other succeeds waits woken kept => exact (hout _ waits lockWait_ne_exchanging).elim
  | @abandoned other succeeds waits gone => exact (hout _ waits lockWait_ne_exchanging).elim
  | @shieldCancelled other handling exchanges =>
    refine Or.inr ⟨_, rfl, ?_⟩
    have hpends : (state.calls other).pends = true := pends_of_phase exchanges
    cases hworker : (state.calls other).worker with
    | none => exact absurd hworker (hvalid.works hexchanges)
    | some worker =>
      by_cases hdone : worker.isDone = true
      · left
        cases worker with
        | done returned =>
          have hafter : ({ state.calls other with phase := .exchanging .cancelled handling, cancelled := true } :
              Call).remaining = 1 := remaining_of_done hworker
          have hbefore := remaining_of_done hworker
          rw [if_pos hpends] at hbefore
          rw [Event.task, hafter, hbefore]
          decide
        | _ => cases hdone
      · obtain ⟨hremaining, hnext⟩ := @remaining_of_unfinished _ other (state.calls other)
          { state.calls other with phase := .exchanging .cancelled handling, cancelled := true } worker hworker
          (Bool.eq_false_iff.mpr hdone) rfl
        exact Or.inr ⟨hremaining, hnext, (Option.some_ne_none _).symm⟩
  | @interrupted other shielded handling exchanges completed =>
    exact Or.inr ⟨_, rfl, Or.inr ⟨rfl, rfl, (Option.some_ne_none _).symm⟩⟩
  | @waitsAgain other succeeds handling shielded worker exchanges raised works unfinished =>
    obtain ⟨hremaining, hnext⟩ := @remaining_of_unfinished _ other (state.calls other)
      { state.calls other with phase := .exchanging .pending true, interrupted := false } worker works
        unfinished rfl
    refine Or.inr ⟨_, rfl, Or.inr ⟨hremaining, hnext, fun haction => ?_⟩⟩
    have hwake : (state.calls other).nextAction other = .wake other := (Option.some.inj haction).symm
    rw [Call.nextAction, works] at hwake
    cases worker with
    | done returned => cases unfinished
    | _ => cases hwake
  | @left other succeeds handling returned shielded outcome exchanges completed finished ends =>
    exact Or.inl ⟨outcome, rfl⟩
  | @submitted other works =>
    refine Or.inr ⟨_, rfl, Or.inl ?_⟩
    rw [Event.task, Call.remaining, Call.remaining, works]
    exact Nat.lt_succ_self 4
  | @finished other returned works =>
    refine Or.inr ⟨_, rfl, Or.inl ?_⟩
    rw [Event.task, Call.remaining, Call.remaining, works]
    exact Nat.lt_succ_self 3
  | @settled other returned works =>
    refine Or.inr ⟨_, rfl, Or.inl ?_⟩
    have hbefore : (state.calls other).remaining = 3 := by rw [Call.remaining, works]
    rw [Event.task, remaining_of_done rfl, hbefore]
    split
    · decide
    · decide
  | @delivered other handling returned exchanges finished =>
    refine Or.inr ⟨_, rfl, Or.inl ?_⟩
    have hpends : (state.calls other).pends = true := pends_of_phase exchanges
    have hafter : ({ state.calls other with phase := .exchanging .done handling } : Call).remaining = 1 :=
      remaining_of_done finished
    have hbefore := remaining_of_done finished
    rw [if_pos hpends] at hbefore
    rw [Event.task, hafter, hbefore]
    decide

theorem phase_proceed (lock : Lock Task) (succeeds : Bool) :
    ((state.proceed task lock succeeds).calls task).phase ≠ .lockWait := by
  rw [State.proceed]
  cases succeeds with
  | true =>
    rw [if_pos rfl, State.setCall]
    dsimp only
    rw [Function.update_self]
    intro h
    cases h
  | false =>
    rw [if_neg Bool.false_ne_true, State.leave, State.setCall]
    dsimp only
    rw [Function.update_self]
    intro h
    cases h

/-- The rank is lowered by the due action, and raised by none. -/
theorem kept_helpful (consistent : Consistent state) (hwaits : waits task state)
    (hstep : step state event = some state') (hwaits' : waits task state') :
    rank task state' < rank task state ∨
      (rank task state' = rank task state ∧ helpful task state' = helpful task state ∧
        event.action? ≠ some (helpful task state)) := by
  have hmem := (consistent.tasks task).mpr hwaits.1
  have hwaiting {other : Task} (h : (state.calls other).phase = .lockWait) : state.holder ≠ some other :=
    not_holder_of_phase consistent (by rw [h]; exact lockWait_ne_exchanging)
  by_cases hheld : state.holder = some event.task
  · rcases exchange_progress consistent hheld hstep with ⟨outcome, rfl⟩ | ⟨call, rfl, hlt | ⟨hsame, hnext, hother⟩⟩
    · left
      have hholder : (state.leave event.task outcome).holder = none := rfl
      have htasks : (state.leave event.task outcome).lock.tasks = state.lock.tasks := Lock.tasks_release _
      have hpos := remaining_pos (state.calls event.task)
      rw [rank_of_free hholder, rank_of_holder hheld, htasks]
      omega
    · exact Or.inl (lower_setCall hheld hlt)
    · obtain ⟨hrank, hhelpful⟩ := @same_setCall _ _ state task event.task state.lock call rfl rfl
        fun _ => ⟨hsame, hnext⟩
      refine Or.inr ⟨hrank, hhelpful, ?_⟩
      rw [helpful, hheld]
      exact hother
  cases moves_of_step hstep with
  | @taken other succeeds lock idle free =>
    -- a lock that somebody waits for is not taken
    exfalso
    rw [Lock.tryAcquire] at free
    split at free
    next hfree =>
      obtain ⟨waiter, hwaiter, rfl⟩ := List.mem_map.mp hmem
      have hcancelled := consistent.gone waiter hwaiter (hfree.2 waiter hwaiter)
      rw [hwaits.2] at hcancelled
      cases hcancelled
    next => cases free
  | @queued other succeeds idle busy =>
    have hnot : state.holder ≠ some other := not_holder_of_phase consistent (by rw [idle]; exact idle_ne_exchanging)
    have hahead : Lock.ahead task (state.lock.enqueue other).tasks = Lock.ahead task state.lock.tasks := by
      rw [Lock.tasks_enqueue]
      exact Lock.ahead_append hmem [other]
    have hhead : (state.lock.enqueue other).tasks.head? = state.lock.tasks.head? := by
      obtain ⟨first, rest, htasks⟩ := List.exists_cons_of_ne_nil (List.ne_nil_of_mem hmem)
      rw [Lock.tasks_enqueue, htasks]
      rfl
    obtain ⟨hrank, hhelpful⟩ := same_setCall hahead hhead fun held => absurd held hnot
    exact Or.inr ⟨hrank, hhelpful, (Option.some_ne_none _).symm⟩
  | @waiterCancelled other waits =>
    have htasks := Lock.tasks_cancel state.lock other
    obtain ⟨hrank, hhelpful⟩ := same_setCall (congrArg (Lock.ahead task) htasks) (congrArg List.head? htasks)
      fun held => absurd held (hwaiting waits)
    exact Or.inr ⟨hrank, hhelpful, (Option.some_ne_none _).symm⟩
  | @granted other succeeds waits woken kept =>
    left
    have hne : task ≠ other := by
      rintro rfl
      exact phase_proceed _ _ hwaits'.1
    have hfree : state.holder = none := by
      have hlocked := consistent.locked
      rw [(consistent.fair.resume woken).1] at hlocked
      exact Option.isNone_iff_eq_none.mp (Option.isSome_eq_false_iff.mp hlocked.symm)
    have hahead : Lock.ahead task (state.lock.resume other).tasks < Lock.ahead task state.lock.tasks := by
      rcases ahead_leave hne (Lock.tasks_resume state.lock other) with hlt | ⟨-, -, hhead⟩
      · exact hlt
      · exact absurd (consistent.fair.head_of_done woken) hhead
    rw [rank_of_free hfree]
    cases succeeds with
    | true =>
      have hholder : (state.proceed other (state.lock.resume other) true).holder = some other := rfl
      have hcall : ((state.proceed other (state.lock.resume other) true).calls other).remaining = 5 := by
        rw [State.proceed, if_pos rfl, State.setCall]
        dsimp only
        rw [Function.update_self, Call.remaining]
      have htasks : (state.proceed other (state.lock.resume other) true).lock = state.lock.resume other := rfl
      rw [rank_of_holder hholder, hcall, htasks]
      omega
    | false =>
      have hholder : (state.proceed other (state.lock.resume other) false).holder = none := rfl
      have htasks : (state.proceed other (state.lock.resume other) false).lock.tasks =
          (state.lock.resume other).tasks := Lock.tasks_release _
      rw [rank_of_free hholder, htasks]
      omega
  | @abandoned other succeeds waits gone =>
    have hnot := hwaiting waits
    have hne : task ≠ other := by
      rintro rfl
      have hphase := hwaits'.1
      rw [State.setCall] at hphase
      dsimp only at hphase
      rw [Function.update_self] at hphase
      cases hphase
    rcases ahead_leave hne (Lock.tasks_abandon state.lock other) with hlt | ⟨hsame, hhead, hfirst⟩
    · left
      have hrank := @rank_setCall _ _ state task other (state.lock.abandon other)
        { state.calls other with phase := .ended .cancelled, interrupted := false } hnot
      omega
    · obtain ⟨hrank, hhelpful⟩ := @same_setCall _ _ state task other (state.lock.abandon other)
        { state.calls other with phase := .ended .cancelled, interrupted := false } hsame hhead
        fun held => absurd held hnot
      exact Or.inr ⟨hrank, hhelpful, fun haction =>
        helpful_ne_wake hne hfirst hnot (Option.some.inj haction).symm⟩
  | @shieldCancelled other handling exchanges =>
    exact absurd ((consistent.holder other).mp (exchanging_of_phase exchanges)) hheld
  | @interrupted other shielded handling exchanges completed =>
    exact absurd ((consistent.holder other).mp (exchanging_of_phase exchanges)) hheld
  | @waitsAgain other succeeds handling shielded worker exchanges raised works unfinished =>
    exact absurd ((consistent.holder other).mp (exchanging_of_phase exchanges)) hheld
  | @left other succeeds handling returned shielded outcome exchanges completed finished ends =>
    exact absurd ((consistent.holder other).mp (exchanging_of_phase exchanges)) hheld
  | submitted works => exact absurd (holder_of_unfinished consistent works rfl) hheld
  | finished works => exact absurd (holder_of_unfinished consistent works rfl) hheld
  | settled works => exact absurd (holder_of_unfinished consistent works rfl) hheld
  | @delivered other handling returned exchanges finished =>
    exact absurd ((consistent.holder other).mp (exchanging_of_phase exchanges)) hheld

/-- The request is given the lock at this step. -/
def Granted (task : Task) (state : State Task) (event : Event Task) (state' : State Task) : Prop :=
  ∃ succeeds, event = .wake task succeeds ∧ state' = state.proceed task (state.lock.resume task) succeeds

/-- A request stops waiting when it is given the lock, or cancelled. -/
theorem granted_of_waits (consistent : Consistent state) (hwaits : waits task state)
    (hstep : step state event = some state') (hnot : ¬waits task state') :
    Granted task state event state' ∨ (state'.calls task).cancelled = true := by
  by_cases hne : task = event.task
  · subst hne
    have hvalid := consistent.valid event.task
    have hphase := hwaits.1
    have hnever {worker : Worker} (works : (state.calls event.task).worker = some worker)
        (unfinished : worker.isDone = false) : False := by
      have hexchanges := hvalid.covered worker works unfinished
      rw [Call.exchanging, hphase] at hexchanges
      cases hexchanges
    cases moves_of_step hstep with
    | @taken other succeeds lock idle free =>
      rw [Event.task, idle] at hphase
      cases hphase
    | @queued other succeeds idle busy =>
      rw [Event.task, idle] at hphase
      cases hphase
    | @waiterCancelled other waits =>
      right
      rw [State.setCall, Event.task]
      dsimp only
      rw [Function.update_self]
    | @shieldCancelled other handling exchanges =>
      rw [Event.task, exchanges] at hphase
      cases hphase
    | @interrupted other shielded handling exchanges completed =>
      rw [Event.task, exchanges] at hphase
      cases hphase
    | @granted other succeeds waits woken kept => exact Or.inl ⟨succeeds, rfl, rfl⟩
    | @abandoned other succeeds waits gone =>
      exfalso
      have hcancelled : (state.calls other).cancelled = true := by
        rcases gone with hgone | hinterrupted
        · obtain ⟨waiter, hwaiter, htask, hfuture⟩ := Lock.mem_of_futureOf hgone
          exact htask ▸ consistent.gone waiter hwaiter hfuture
        · exact hvalid.marked hinterrupted
      have hkept : (state.calls other).cancelled = false := hwaits.2
      rw [hkept] at hcancelled
      cases hcancelled
    | @waitsAgain other succeeds handling shielded worker exchanges raised works unfinished =>
      exact (hnever works unfinished).elim
    | @left other succeeds handling returned shielded outcome exchanges completed finished ends =>
      rw [Event.task, exchanges] at hphase
      cases hphase
    | submitted works => exact (hnever works rfl).elim
    | finished works => exact (hnever works rfl).elim
    | settled works => exact (hnever works rfl).elim
    | @delivered other handling returned exchanges finished =>
      rw [Event.task, exchanges] at hphase
      cases hphase
  · exfalso
    rw [waits, calls_of_ne hstep hne] at hnot
    exact hnot hwaits

end turns

/-- A request that was cancelled while it waited for the lock will have its turn. -/
structure Roused (state : State Task) : Prop where
  interrupted : ∀ task, (state.calls task).phase = .lockWait → (state.calls task).cancelled = true →
    (state.calls task).interrupted = true
  fresh : ∀ task, (state.calls task).phase = .idle → (state.calls task).cancelled = false
  woken : ∀ waiter ∈ state.lock.waiters, waiter.future = .pending → (state.calls waiter.task).cancelled = false

section roused

variable {state state' : State Task} {event : Event Task} {task : Task} {lock : Lock Task}

theorem roused_update (h : Roused state) {holder : Option Task} {call : Call}
    (interrupted : call.phase = .lockWait → call.cancelled = true → call.interrupted = true)
    (fresh : call.phase = .idle → call.cancelled = false)
    (others : ∀ waiter ∈ lock.waiters, waiter.future = .pending → waiter.task ≠ task → waiter ∈ state.lock.waiters)
    (own : ∀ waiter ∈ lock.waiters, waiter.future = .pending → waiter.task = task → call.cancelled = false) :
    Roused ⟨lock, holder, Function.update state.calls task call⟩ := by
  refine ⟨fun other => ?_, fun other => ?_, fun waiter hwaiter hpending => ?_⟩
  · by_cases hother : other = task
    · rw [hother]
      dsimp only
      rw [Function.update_self]
      exact interrupted
    · dsimp only
      rw [Function.update_of_ne hother]
      exact h.interrupted other
  · by_cases hother : other = task
    · rw [hother]
      dsimp only
      rw [Function.update_self]
      exact fresh
    · dsimp only
      rw [Function.update_of_ne hother]
      exact h.fresh other
  · dsimp only
    by_cases hother : waiter.task = task
    · rw [hother, Function.update_self]
      exact own waiter hwaiter hpending hother
    · rw [Function.update_of_ne hother]
      exact h.woken waiter (others waiter hwaiter hpending hother) hpending

/-- A step after which the same requests wait, or fewer. -/
theorem roused_of_same (h : Roused state) {holder : Option Task} {call : Call}
    (same : call.cancelled = (state.calls task).cancelled) (busy : call.phase ≠ .lockWait ∧ call.phase ≠ .idle)
    (fewer : ∀ waiter ∈ lock.waiters, waiter.future = .pending → waiter ∈ state.lock.waiters) :
    Roused ⟨lock, holder, Function.update state.calls task call⟩ := by
  refine roused_update h (fun hphase => absurd hphase busy.1) (fun hphase => absurd hphase busy.2)
    (fun waiter hwaiter hpending _ => fewer waiter hwaiter hpending) fun waiter hwaiter hpending htask => ?_
  rw [same, ← htask]
  exact h.woken waiter (fewer waiter hwaiter hpending) hpending

theorem busy_exchanging (shielded : Future) (handling : Bool) :
    Phase.exchanging shielded handling ≠ .lockWait ∧ Phase.exchanging shielded handling ≠ .idle := by
  constructor
  · intro h
    cases h
  · intro h
    cases h

theorem busy_ended (outcome : Outcome) : Phase.ended outcome ≠ .lockWait ∧ Phase.ended outcome ≠ .idle := by
  constructor
  · intro h
    cases h
  · intro h
    cases h

theorem roused_proceed (h : Roused state) (fewer : ∀ waiter ∈ lock.waiters, waiter ∈ state.lock.waiters)
    (succeeds : Bool) : Roused (state.proceed task lock succeeds) := by
  rw [State.proceed]
  cases succeeds with
  | true => exact roused_of_same h rfl (busy_exchanging _ _) fun waiter hwaiter _ => fewer waiter hwaiter
  | false =>
    refine roused_of_same h rfl (busy_ended _) fun waiter hwaiter hpending => ?_
    exact fewer waiter (Lock.mem_of_not_done_release hwaiter (ne_of_eq_of_ne hpending (by decide)))

/-- The worker of a request, or its future, goes on. -/
theorem roused_work (h : Roused state) {call : Call} (same : call.cancelled = (state.calls task).cancelled)
    (interrupted : call.interrupted = (state.calls task).interrupted)
      (phase : call.phase = (state.calls task).phase) :
    Roused (state.setCall task call) := by
  refine roused_update h (fun hphase hcancelled => ?_) (fun hphase => ?_) (fun _ hwaiter _ _ => hwaiter)
    fun waiter hwaiter hpending htask => ?_
  · rw [interrupted]
    exact h.interrupted task (phase ▸ hphase) (same ▸ hcancelled)
  · rw [same]
    exact h.fresh task (phase ▸ hphase)
  · rw [same, ← htask]
    exact h.woken waiter hwaiter hpending

/-- A request in `exchange_binary` is cancelled. -/
theorem roused_cancel (consistent : Consistent state) (h : Roused state) {shielded : Future} {handling : Bool}
    (exchanges : (state.calls task).phase = .exchanging shielded handling) {call : Call}
    (phase : call.exchanging = true) : Roused (state.setCall task call) := by
  obtain ⟨shielded', handling', hphase⟩ := phase_of_exchanging phase
  refine roused_update h (fun hwaits => ?_) (fun hidle => ?_) (fun _ hwaiter _ _ => hwaiter)
    fun waiter hwaiter _ htask => ?_
  · rw [hphase] at hwaits
    cases hwaits
  · rw [hphase] at hidle
    cases hidle
  · have hwaits := (consistent.tasks task).mp (htask ▸ List.mem_map_of_mem hwaiter)
    rw [exchanges] at hwaits
    cases hwaits

theorem roused_step (consistent : Consistent state) (h : Roused state) (hstep : step state event = some state') :
    Roused state' := by
  cases moves_of_step hstep with
  | @taken task succeeds lock idle free =>
    obtain ⟨-, -, -, hwaiters⟩ := Lock.Fair.tryAcquire free
    exact roused_proceed h (fun waiter hwaiter => hwaiters ▸ hwaiter) succeeds
  | @queued task succeeds idle busy =>
    have hfresh := h.fresh task idle
    refine roused_update h (fun _ hcancelled => ?_) nofun (fun waiter hwaiter _ htask => ?_) fun _ _ _ _ => hfresh
    · have hcancelled : (state.calls task).cancelled = true := hcancelled
      rw [hfresh] at hcancelled
      cases hcancelled
    · rcases List.mem_append.mp hwaiter with hold | hnew
      · exact hold
      · exact absurd (congrArg Waiter.task (List.mem_singleton.mp hnew)) htask
  | @waiterCancelled task waits =>
    refine roused_update h (fun _ _ => rfl) (fun hidle => ?_)
      (fun waiter hwaiter hpending _ => (Lock.mem_of_pending_cancel hwaiter hpending).1)
      fun waiter hwaiter hpending htask => absurd htask (Lock.mem_of_pending_cancel hwaiter hpending).2
    have hidle : (state.calls task).phase = .idle := hidle
    rw [waits] at hidle
    cases hidle
  | @shieldCancelled task handling exchanges => exact roused_cancel consistent h exchanges rfl
  | @interrupted task shielded handling exchanges completed =>
    exact roused_cancel consistent h exchanges (exchanging_of_phase exchanges)
  | @granted task succeeds waits woken kept =>
    exact roused_proceed h (fun waiter hwaiter => (List.mem_filter.mp hwaiter).1) succeeds
  | @abandoned task succeeds waits gone =>
    exact roused_of_same h rfl (busy_ended _) fun waiter hwaiter hpending =>
      Lock.mem_of_not_done_abandon hwaiter (ne_of_eq_of_ne hpending (by decide))
  | @waitsAgain task succeeds handling shielded worker exchanges raised works unfinished =>
    exact roused_of_same h rfl (busy_exchanging _ _) fun _ hwaiter _ => hwaiter
  | @left task succeeds handling returned shielded outcome exchanges completed finished ends =>
    exact roused_of_same h rfl (busy_ended _) fun waiter hwaiter hpending =>
      Lock.mem_of_not_done_release hwaiter (ne_of_eq_of_ne hpending (by decide))
  | submitted works => exact roused_work h rfl rfl rfl
  | finished works => exact roused_work h rfl rfl rfl
  | settled works => exact roused_work h rfl rfl rfl
  | @delivered task handling returned exchanges finished =>
    exact roused_of_same h rfl (busy_exchanging _ _) fun _ hwaiter _ => hwaiter

omit [DecidableEq Task] in
theorem roused_start : Roused (start : State Task) := ⟨fun _ => nofun, fun _ _ => rfl, nofun⟩

theorem roused_of_reached (reached : Reached step anyStep start state) : Consistent state ∧ Roused state := by
  let holds (state : State Task) : Prop := Consistent state ∧ Roused state
  have hholds : holds state := reached.invariant ⟨consistent_start, roused_start⟩ fun _ _ _ h _ hstep =>
    ⟨consistent_step h.1 hstep, roused_step h.1 h.2 hstep⟩
  exact hholds

end roused

section ending

/-- The request was cancelled, and has not ended yet. -/
def ending (task : Task) (state : State Task) : Prop :=
  (state.calls task).cancelled = true ∧ ∀ outcome, (state.calls task).phase ≠ .ended outcome

/-- The actions before a cancelled request ends. -/
def Call.steps (call : Call) : Nat :=
  match call.phase with
  | .lockWait => 1
  | _ => call.remaining

/-- The first of them. -/
def Call.due (task : Task) (call : Call) : Action Task :=
  match call.phase with
  | .lockWait => .wake task
  | _ => call.nextAction task

/-- The request that an action is about. -/
def Action.task : Action Task → Task
  | .wake task => task
  | .submit task => task
  | .finish task => task
  | .settle task => task
  | .deliver task => task

variable {state state' : State Task} {event : Event Task} {task : Task} {call : Call}

omit [DecidableEq Task] in
theorem task_of_action {action : Action Task} (h : event.action? = some action) : action.task = event.task := by
  cases event with
  | request task succeeds => cases h
  | cancel task => cases h
  | _ =>
    cases Option.some.inj h
    rfl

omit [DecidableEq Task] in
theorem task_due : (call.due task).task = task := by
  rw [Call.due]
  split
  next => rfl
  next =>
    rw [Call.nextAction]
    split
    next => rfl
    next => rfl
    next => rfl
    next => split <;> rfl
    next => rfl

omit [DecidableEq Task] in
theorem due_of_exchanging (task : Task) (h : call.exchanging = true) :
    call.steps = call.remaining ∧ call.due task = call.nextAction task := by
  obtain ⟨shielded, handling, hphase⟩ := phase_of_exchanging h
  rw [Call.steps, Call.due, hphase]
  exact ⟨rfl, rfl⟩

/-- A cancelled request can go on. -/
theorem enabled_due (consistent : Consistent state) (roused : Roused state) (h : ending task state) :
    Enabled step Event.action? state ((state.calls task).due task) := by
  cases hphase : (state.calls task).phase with
  | idle =>
    have hfresh := roused.fresh task hphase
    rw [h.1] at hfresh
    cases hfresh
  | ended outcome => exact absurd hphase (h.2 outcome)
  | exchanging shielded handling =>
    have hexchanges := exchanging_of_phase hphase
    rw [(due_of_exchanging task hexchanges).2]
    exact enabled_nextAction consistent ((consistent.holder task).mp hexchanges)
  | lockWait =>
    have hinterrupted := roused.interrupted task hphase h.1
    obtain ⟨future, hfuture⟩ := Lock.exists_futureOf ((consistent.tasks task).mpr hphase)
    rw [Call.due, hphase]
    refine ⟨.wake task true, ?_⟩
    rw [step, hphase]
    dsimp only
    rw [hfuture, hinterrupted]
    cases future with
    | pending =>
      obtain ⟨waiter, hwaiter, rfl, hpending⟩ := Lock.mem_of_futureOf hfuture
      have hnot := roused.woken waiter hwaiter hpending
      rw [h.1] at hnot
      cases hnot
    | done => exact ⟨_, rfl, rfl⟩
    | cancelled => exact ⟨_, rfl, rfl⟩

/-- A cancelled request that waits for the lock can only be cancelled again, or end. -/
theorem waiting_step (consistent : Consistent state) (roused : Roused state)
    (waits : (state.calls event.task).phase = .lockWait) (cancelled : (state.calls event.task).cancelled = true)
    (hstep : step state event = some state') :
    (event.action? = none ∧ (state'.calls event.task).phase = .lockWait) ∨
      (state'.calls event.task).phase = .ended .cancelled := by
  have hidle : state.holder ≠ some event.task :=
    not_holder_of_phase consistent (by rw [waits]; exact lockWait_ne_exchanging)
  have hnever {shielded : Future} {handling : Bool} {other : Task} (heq : other = event.task)
      (exchanges : (state.calls other).phase = .exchanging shielded handling) : False := by
    rw [heq, waits] at exchanges
    cases exchanges
  cases moves_of_step hstep with
  | @taken other succeeds lock idle free =>
    rw [Event.task, idle] at waits
    cases waits
  | @queued other succeeds idle busy =>
    rw [Event.task, idle] at waits
    cases waits
  | @waiterCancelled other waits =>
    refine Or.inl ⟨rfl, ?_⟩
    rw [State.setCall, Event.task]
    dsimp only
    rw [Function.update_self]
    exact waits
  | @granted other succeeds waits woken kept =>
    have hinterrupted : (state.calls other).interrupted = true := roused.interrupted other waits cancelled
    rw [kept] at hinterrupted
    cases hinterrupted
  | @abandoned other succeeds waits gone =>
    right
    rw [State.setCall, Event.task]
    dsimp only
    rw [Function.update_self]
  | shieldCancelled exchanges => exact (hnever rfl exchanges).elim
  | interrupted exchanges => exact (hnever rfl exchanges).elim
  | waitsAgain exchanges => exact (hnever rfl exchanges).elim
  | left exchanges => exact (hnever rfl exchanges).elim
  | submitted works => exact absurd (holder_of_unfinished consistent works rfl) hidle
  | finished works => exact absurd (holder_of_unfinished consistent works rfl) hidle
  | settled works => exact absurd (holder_of_unfinished consistent works rfl) hidle
  | delivered exchanges => exact (hnever rfl exchanges).elim

/-- The due action brings the end of a cancelled request nearer, and no other step puts it off. -/
theorem kept_due (consistent : Consistent state) (roused : Roused state) (h : ending task state)
    (hstep : step state event = some state') (h' : ending task state') :
    (state'.calls task).steps < (state.calls task).steps ∨
      ((state'.calls task).steps = (state.calls task).steps ∧
        (state'.calls task).due task = (state.calls task).due task ∧
        event.action? ≠ some ((state.calls task).due task)) := by
  by_cases hne : task = event.task
  · subst hne
    by_cases hheld : state.holder = some event.task
    · have hbefore := (consistent.holder event.task).mpr hheld
      obtain ⟨hsteps, hdue⟩ := due_of_exchanging event.task hbefore
      rcases exchange_progress consistent hheld hstep with ⟨outcome, rfl⟩ | ⟨call, rfl, hprogress⟩
      · have hphase : ((state.leave event.task outcome).calls event.task).phase = .ended outcome := by
          rw [State.leave, State.setCall]
          dsimp only
          rw [Function.update_self]
        exact absurd hphase (h'.2 outcome)
      · have hafter := ((consistent_step consistent hstep).holder event.task).mpr hheld
        have hcall : (state.setCall event.task call).calls event.task = call := Function.update_self ..
        rw [hcall] at hafter
        obtain ⟨hsteps', hdue'⟩ := due_of_exchanging event.task hafter
        rw [hcall, hsteps, hsteps', hdue, hdue']
        exact hprogress
    · have hphase : (state.calls event.task).phase = .lockWait := by
        cases hphase : (state.calls event.task).phase with
        | idle =>
          have hfresh := roused.fresh _ hphase
          rw [h.1] at hfresh
          cases hfresh
        | lockWait => rfl
        | exchanging shielded handling =>
          exact absurd ((consistent.holder _).mp (exchanging_of_phase hphase)) hheld
        | ended outcome => exact absurd hphase (h.2 outcome)
      rcases waiting_step consistent roused hphase h.1 hstep with ⟨haction, hphase'⟩ | hended
      · right
        rw [Call.steps, Call.steps, Call.due, Call.due, hphase, hphase', haction]
        exact ⟨rfl, rfl, (Option.some_ne_none _).symm⟩
      · exact absurd hended (h'.2 _)
  · rw [calls_of_ne hstep hne]
    refine Or.inr ⟨rfl, rfl, fun haction => hne ?_⟩
    rw [← task_of_action haction, task_due]

theorem cancelled_setCall {lock : Lock Task} {holder : Option Task} (h : call.cancelled = true) :
    ((State.setCall { state with lock, holder } task call).calls task).cancelled = true := by
  rw [State.setCall]
  dsimp only
  rw [Function.update_self]
  exact h

/-- A cancelled request stays one. -/
theorem cancelled_step (h : (state.calls task).cancelled = true) (hstep : step state event = some state') :
    (state'.calls task).cancelled = true := by
  have hproceed {other : Task} {lock : Lock Task} (succeeds : Bool)
      (hother : (state.calls other).cancelled = true) :
      ((state.proceed other lock succeeds).calls other).cancelled = true := by
    rw [State.proceed]
    cases succeeds with
    | true => exact cancelled_setCall hother
    | false => exact cancelled_setCall hother
  by_cases hne : task = event.task
  · subst hne
    cases moves_of_step hstep with
    | @taken other succeeds lock idle free => exact hproceed succeeds h
    | @granted other succeeds waits woken kept => exact hproceed succeeds h
    | queued => exact cancelled_setCall h
    | waiterCancelled => exact cancelled_setCall rfl
    | shieldCancelled => exact cancelled_setCall rfl
    | interrupted => exact cancelled_setCall rfl
    | abandoned => exact cancelled_setCall h
    | waitsAgain => exact cancelled_setCall h
    | left => exact cancelled_setCall h
    | submitted => exact cancelled_setCall h
    | finished => exact cancelled_setCall h
    | settled => exact cancelled_setCall h
    | delivered => exact cancelled_setCall h
  · rw [calls_of_ne hstep hne]
    exact h

end ending

section runs

variable (run : FairRun step (@Event.action? Task) start) {task : Task}

/-- In a fair run, a request that waits gets the lock, or is cancelled. -/
theorem granted_of_fair {n : Nat} (h : waits task (run.state n)) :
    ∃ m, n ≤ m ∧ (((run.state m).calls task).cancelled = true ∨
      ∃ event, run.event m = some event ∧ Granted task (run.state m) event (run.state (m + 1))) := by
  have hhelped : Helped step Event.action? Consistent (waits task) (rank task) (helpful task) :=
    ⟨fun _ consistent hwaits => enabled_helpful consistent hwaits,
      fun _ _ _ consistent hwaits hstep hwaits' => kept_helpful consistent hwaits hstep hwaits'⟩
  have hholds (k : Nat) : Consistent (run.state k) := consistent_of_reached (run.reached k)
  obtain ⟨m, event, hm, hwaits, hevent, hended⟩ := hhelped.ends_at run hholds h
  rcases granted_of_waits (hholds m) hwaits (run.steps m event hevent) hended with hgranted | hcancelled
  · exact ⟨m, hm, Or.inr ⟨event, hevent, hgranted⟩⟩
  · exact ⟨m + 1, by omega, Or.inl hcancelled⟩

/-- In a fair run, a cancelled request ends. -/
theorem ended_of_fair {n : Nat} (h : ((run.state n).calls task).cancelled = true) :
    ∃ m outcome, n ≤ m ∧ ((run.state m).calls task).cancelled = true ∧
      ((run.state m).calls task).phase = .ended outcome := by
  let holds (state : State Task) : Prop := Consistent state ∧ Roused state
  have hhelped : Helped step Event.action? holds (ending task) (fun state => (state.calls task).steps)
      fun state => (state.calls task).due task :=
    ⟨fun _ holds hending => enabled_due holds.1 holds.2 hending,
      fun _ _ _ holds hending hstep hending' => kept_due holds.1 holds.2 hending hstep hending'⟩
  have hholds (k : Nat) : holds (run.state k) := roused_of_reached (run.reached k)
  by_cases hending : ending task (run.state n)
  · obtain ⟨m, event, hm, hbefore, hevent, hended⟩ := hhelped.ends_at run hholds hending
    have hcancelled := cancelled_step hbefore.1 (run.steps m event hevent)
    have hphase : ∃ outcome, ((run.state (m + 1)).calls task).phase = .ended outcome := by
      apply Classical.byContradiction
      intro hnone
      exact hended ⟨hcancelled, fun outcome hphase => hnone ⟨outcome, hphase⟩⟩
    obtain ⟨outcome, hphase⟩ := hphase
    exact ⟨m + 1, outcome, by omega, hcancelled, hphase⟩
  · have hphase : ∃ outcome, ((run.state n).calls task).phase = .ended outcome := by
      apply Classical.byContradiction
      intro hnone
      exact hending ⟨h, fun outcome hphase => hnone ⟨outcome, hphase⟩⟩
    obtain ⟨outcome, hphase⟩ := hphase
    exact ⟨n, outcome, Nat.le_refl n, h, hphase⟩

end runs

/-- No two workers go on at once, and each of them has its request inside the lock of the port. -/
structure Serialized (state : State Task) : Prop where
  alone : ∀ one other worker worker', (state.calls one).worker = some worker → worker.isDone = false →
    (state.calls other).worker = some worker' → worker'.isDone = false → one = other
  covered : ∀ task worker, (state.calls task).worker = some worker → worker.isDone = false →
    state.lock.locked = true ∧ state.holder = some task ∧ (state.calls task).exchanging = true

omit [DecidableEq Task] in
theorem serialized_of_consistent {state : State Task} (consistent : Consistent state) : Serialized state := by
  constructor
  · intro one other worker worker' works unfinished works' unfinished'
    have hone := holder_of_unfinished consistent works unfinished
    have hother := holder_of_unfinished consistent works' unfinished'
    exact Option.some.inj (hone.symm.trans hother)
  · intro task worker works unfinished
    have held := holder_of_unfinished consistent works unfinished
    refine ⟨?_, held, (consistent.valid task).covered worker works unfinished⟩
    rw [consistent.locked, held]
    rfl

/-- In every run the exchanges are serialized, and in every fair run each request that waits gets the lock or is
cancelled. A cancelled request ends as a cancelled task where no handler of a cancellation is left with an error of
the worker, and the step that leaves one with it ends the request in another way. -/
theorem exchanges_of_quiet :
    (∀ state : State Task, Reached step anyStep start state → Serialized state) ∧
      (∀ state : State Task, Reached step quiet start state → ∀ task outcome, (state.calls task).cancelled = true →
        (state.calls task).phase = .ended outcome → outcome = .cancelled) ∧
      (∀ (run : FairRun step (@Event.action? Task) start) n task, waits task (run.state n) →
        ∃ m, n ≤ m ∧ (((run.state m).calls task).cancelled = true ∨
          ∃ event, run.event m = some event ∧ Granted task (run.state m) event (run.state (m + 1)))) ∧
      (∀ (run : FairRun step (@Event.action? Task) start) n task, run.Follows quiet →
        ((run.state n).calls task).cancelled = true →
        ∃ m, n ≤ m ∧ ((run.state m).calls task).phase = .ended .cancelled) ∧
      ∀ (state state' : State Task) event, Reached step anyStep start state → step state event = some state' →
        ¬quiet state event → (state'.calls event.task).cancelled = true ∧
          ∃ outcome, outcome ≠ .cancelled ∧ (state'.calls event.task).phase = .ended outcome := by
  refine ⟨fun state reached => ?_, fun state reached task outcome => ?_, fun run n task hwaits => ?_,
    fun run n task follows hcancelled => ?_, fun state state' event reached hstep loud => ?_⟩
  · exact serialized_of_consistent (consistent_of_reached reached)
  · exact ended_of_cancelled reached
  · exact granted_of_fair run hwaits
  · obtain ⟨m, outcome, hm, hlater, hphase⟩ := ended_of_fair run hcancelled
    have houtcome := ended_of_cancelled (run.reached_of_follows follows m) hlater hphase
    exact ⟨m, hm, houtcome ▸ hphase⟩
  · exact not_cancelled_of_not_quiet (consistent_of_reached reached) hstep loud

/-- Where everything has ended, nothing is left to do. -/
theorem not_enabled_of_ended {state : State Task}
    (ended : ∀ task, ∃ outcome, (state.calls task).phase = .ended outcome)
    (done : ∀ task worker, (state.calls task).worker = some worker → worker.isDone = true) (action : Action Task) :
    ¬Enabled step Event.action? state action := by
  rintro ⟨event, state', haction, hstep⟩
  obtain ⟨outcome, hended⟩ := ended event.task
  have hnever {phase : Phase} (hphase : (state.calls event.task).phase = phase)
      (hne : ∀ outcome, phase ≠ .ended outcome) : False := hne outcome (hphase.symm.trans hended)
  have hdone {worker : Worker} (works : (state.calls event.task).worker = some worker)
      (unfinished : worker.isDone = false) : False := by
    rw [done _ worker works] at unfinished
    cases unfinished
  cases moves_of_step hstep with
  | taken idle => exact hnever idle fun _ => nofun
  | queued idle => exact hnever idle fun _ => nofun
  | waiterCancelled waits => exact hnever waits fun _ => nofun
  | shieldCancelled exchanges => exact hnever exchanges fun _ => nofun
  | interrupted exchanges => exact hnever exchanges fun _ => nofun
  | granted waits => exact hnever waits fun _ => nofun
  | abandoned waits => exact hnever waits fun _ => nofun
  | waitsAgain exchanges => exact hnever exchanges fun _ => nofun
  | left exchanges => exact hnever exchanges fun _ => nofun
  | submitted works => exact hdone works rfl
  | finished works => exact hdone works rfl
  | settled works => exact hdone works rfl
  | delivered exchanges => exact hnever exchanges fun _ => nofun

section handedOver

/-- Two requests for a port, the first of which is cancelled while its worker runs. -/
def handedOver : List (Event Bool) :=
  [.request false true, .request true true, .submit false, .cancel false, .wake false true, .finish false true,
    .settle false, .deliver false, .wake false true, .wake true true, .submit true, .finish true true, .settle true,
    .deliver true, .wake true true]

def afterwards : State Bool := (StepRuns.run step quiet start handedOver).getD start

theorem run_handedOver : StepRuns.run step quiet start handedOver = some afterwards := by
  have hsome : (StepRuns.run step quiet start handedOver).isSome = true := by decide
  obtain ⟨final, hfinal⟩ := Option.isSome_iff_exists.mp hsome
  rw [afterwards, hfinal]
  rfl

theorem ended_afterwards : (afterwards.calls false).phase = .ended .cancelled ∧
    (afterwards.calls true).phase = .ended .returned := by decide

theorem still_afterwards (action : Action Bool) : ¬Enabled step Event.action? afterwards action := by
  refine not_enabled_of_ended (fun task => ?_) (fun task worker works => ?_) action
  · cases task with
    | false => exact ⟨_, ended_afterwards.1⟩
    | true => exact ⟨_, ended_afterwards.2⟩
  · have hdone : ∀ task, (afterwards.calls task).worker = some (.done true) := by decide
    rw [hdone task] at works
    cases Option.some.inj works
    rfl

def handingOver : FairRun step Event.action? (start : State Bool) := FairRun.resting run_handedOver still_afterwards

/-- The worker of the first request raises while that handles a cancellation. -/
def failedBehind : List (Event Bool) :=
  [.request false true, .submit false, .cancel false, .wake false true, .finish false false, .settle false,
    .deliver false]

theorem failedBehind_ends : ∃ state : State Bool, Reached step anyStep start state ∧
    (state.calls false).cancelled = true ∧ (state.calls false).phase = .ended .returned := by
  let returned (state : State Bool) : Bool :=
    (state.calls false).cancelled && decide ((state.calls false).phase = .ended .returned)
  have hrun : (StepRuns.run step anyStep start (failedBehind ++ [.wake false true])).any returned = true := by
    decide
  obtain ⟨state, reached, hreturned⟩ := exists_reached_of_run hrun
  obtain ⟨hcancelled, hphase⟩ := Bool.and_eq_true_iff.mp hreturned
  exact ⟨state, reached, hcancelled, of_decide_eq_true hphase⟩

theorem exchanges_of_quiet_handedOver :
    Serialized afterwards ∧ (afterwards.calls false).phase = .ended .cancelled ∧
      (∃ m, 2 ≤ m ∧ (((handingOver.state m).calls true).cancelled = true ∨
        ∃ event, handingOver.event m = some event ∧
          Granted true (handingOver.state m) event (handingOver.state (m + 1)))) ∧
      (∃ m, 4 ≤ m ∧ ((handingOver.state m).calls false).phase = .ended .cancelled) ∧
      ∃ state : State Bool, (state.calls false).cancelled = true ∧
        ∃ outcome, outcome ≠ .cancelled ∧ (state.calls false).phase = .ended outcome := by
  obtain ⟨hserialized, hcancelled, hgranted, hends, hloud⟩ := @exchanges_of_quiet Bool _
  have reached : Reached step quiet start afterwards := reached_of_run run_handedOver
  have hquiet : handingOver.Follows quiet := FairRun.follows_resting run_handedOver still_afterwards
  have hmarked : (afterwards.calls false).cancelled = true := by decide
  have hwaits : waits true (handingOver.state 2) := by
    have hwaiting : (((handingOver.state 2).calls true).phase = .lockWait ∧
        ((handingOver.state 2).calls true).cancelled = false) := by decide
    exact hwaiting
  have hearly : ((handingOver.state 4).calls false).cancelled = true := by decide
  refine ⟨?_, ?_, hgranted handingOver 2 true hwaits, hends handingOver 4 false hquiet hearly, ?_⟩
  · exact hserialized afterwards (handingOver.reached 15)
  · rw [ended_afterwards.1, hcancelled afterwards reached false _ hmarked ended_afterwards.1]
  · let loud (state : State Bool) : Bool :=
      decide (¬quiet state (.wake false true)) && (step state (.wake false true)).isSome
    have hrun : (StepRuns.run step anyStep start failedBehind).any loud = true := by decide
    obtain ⟨state, hreached, hstate⟩ := exists_reached_of_run hrun
    obtain ⟨hnot, hsome⟩ := Bool.and_eq_true_iff.mp hstate
    obtain ⟨state', hstep⟩ := Option.isSome_iff_exists.mp hsome
    obtain ⟨hcancelled', houtcome⟩ := hloud state state' (.wake false true) hreached hstep (of_decide_eq_true hnot)
    exact ⟨state', hcancelled', houtcome⟩

end handedOver

end JLinkMcp.Port
