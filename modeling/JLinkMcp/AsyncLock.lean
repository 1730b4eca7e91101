import Mathlib.Logic.Basic

/-! The fair lock of a cooperative event loop: a task that cannot take it waits for a future, which
the release of the lock or a cancellation completes, and goes on in a later turn. -/

namespace AsyncLock

inductive Future where
  | pending | done | cancelled
  deriving DecidableEq

structure Waiter (Task : Type) where
  task : Task
  future : Future
  deriving DecidableEq

structure Lock (Task : Type) where
  locked : Bool := false
  waiters : List (Waiter Task) := []
  deriving DecidableEq

namespace Lock

variable {Task : Type}

/-- Completes the future of the first waiter, if it still waits. -/
def wakeUpFirst (lock : Lock Task) : Lock Task :=
  match lock.waiters with
  | [] => lock
  | first :: rest =>
    if first.future = .pending then { lock with waiters := ⟨first.task, .done⟩ :: rest } else lock

/-- Takes a lock that nobody waits for. -/
def tryAcquire (lock : Lock Task) : Option (Lock Task) :=
  if lock.locked = false ∧ ∀ waiter ∈ lock.waiters, waiter.future = .cancelled then
    some { lock with locked := true }
  else none

def enqueue (lock : Lock Task) (task : Task) : Lock Task :=
  { lock with waiters := lock.waiters ++ [⟨task, .pending⟩] }

def release (lock : Lock Task) : Lock Task := { lock with locked := false }.wakeUpFirst

section tasks

variable [DecidableEq Task]

def futureOf (lock : Lock Task) (task : Task) : Option Future :=
  (lock.waiters.find? fun waiter => waiter.task = task).map Waiter.future

def remove (lock : Lock Task) (task : Task) : Lock Task :=
  { lock with waiters := lock.waiters.filter fun waiter => waiter.task ≠ task }

/-- A waiter whose future is done takes the lock. -/
def resume (lock : Lock Task) (task : Task) : Lock Task := { lock.remove task with locked := true }

/-- A waiter that was interrupted leaves, and passes on what it may have been woken for. -/
def abandon (lock : Lock Task) (task : Task) : Lock Task :=
  if lock.locked then lock.remove task else (lock.remove task).wakeUpFirst

/-- Cancels the future of a task, where it is still pending. -/
def cancel (lock : Lock Task) (task : Task) : Lock Task :=
  { lock with waiters := lock.waiters.map fun waiter =>
      if waiter.task = task ∧ waiter.future = .pending then ⟨task, .cancelled⟩ else waiter }

end tasks

/-- A waiter was only woken while the lock is free, and only the first one is. -/
structure Fair (lock : Lock Task) : Prop where
  free : ∀ waiter ∈ lock.waiters, waiter.future = .done → lock.locked = false
  first : ∀ waiter ∈ lock.waiters.tail, waiter.future ≠ .done

theorem fair_unlocked : ({} : Lock Task).Fair := ⟨nofun, nofun⟩

variable {lock taken : Lock Task}

theorem locked_wakeUpFirst (lock : Lock Task) : lock.wakeUpFirst.locked = lock.locked := by
  rw [wakeUpFirst]
  split
  next => rfl
  next => split <;> rfl

theorem tail_wakeUpFirst (lock : Lock Task) : lock.wakeUpFirst.waiters.tail = lock.waiters.tail := by
  rw [wakeUpFirst]
  split
  next => rfl
  next first rest hwaiters =>
    split
    next => rw [hwaiters]; rfl
    next => rfl

theorem tasks_wakeUpFirst (lock : Lock Task) :
    lock.wakeUpFirst.waiters.map Waiter.task = lock.waiters.map Waiter.task := by
  rw [wakeUpFirst]
  split
  next => rfl
  next first rest hwaiters =>
    split
    next => rw [hwaiters]; rfl
    next => rfl

/-- Waking the first waiter of a free lock. -/
theorem fair_wakeUpFirst (free : lock.locked = false)
    (first : ∀ waiter ∈ lock.waiters.tail, waiter.future ≠ .done) : lock.wakeUpFirst.Fair := by
  refine ⟨fun _ _ _ => (locked_wakeUpFirst lock).trans free, ?_⟩
  rw [tail_wakeUpFirst]
  exact first

/-- Nobody was woken for a lock that is locked. -/
theorem Fair.waiting (h : lock.Fair) (hlocked : lock.locked = true) :
    ∀ waiter ∈ lock.waiters, waiter.future ≠ .done := by
  intro waiter hwaiter hdone
  have hfree := h.free waiter hwaiter hdone
  rw [hlocked] at hfree
  cases hfree

theorem fair_of_waiting (waiting : ∀ waiter ∈ lock.waiters, waiter.future ≠ .done) : lock.Fair :=
  ⟨fun waiter hwaiter hdone => absurd hdone (waiting waiter hwaiter),
    fun waiter hwaiter => waiting waiter (List.mem_of_mem_tail hwaiter)⟩

theorem Fair.tryAcquire (h : lock.tryAcquire = some taken) : taken.Fair ∧ taken.locked = true ∧
    lock.locked = false ∧ taken.waiters = lock.waiters := by
  rw [Lock.tryAcquire] at h
  split at h
  next hfree =>
    cases Option.some.inj h
    refine ⟨fair_of_waiting fun waiter hwaiter hdone => ?_, rfl, hfree.1, rfl⟩
    have hcancelled := hfree.2 waiter hwaiter
    rw [hdone] at hcancelled
    cases hcancelled
  next => cases h

theorem Fair.enqueue (h : lock.Fair) (task : Task) : (lock.enqueue task).Fair := by
  constructor
  · intro waiter hwaiter hdone
    rcases List.mem_append.mp hwaiter with hwaiter | hwaiter
    · exact h.free waiter hwaiter hdone
    · rw [List.mem_singleton.mp hwaiter] at hdone
      cases hdone
  · intro waiter hwaiter
    rw [Lock.enqueue] at hwaiter
    cases hwaiters : lock.waiters with
    | nil =>
      rw [hwaiters] at hwaiter
      cases hwaiter
    | cons first rest =>
      have htail := h.first
      rw [hwaiters] at hwaiter htail
      rcases List.mem_append.mp hwaiter with hwaiter | hwaiter
      · exact htail waiter hwaiter
      · rw [List.mem_singleton.mp hwaiter]
        exact nofun

theorem Fair.release (h : lock.Fair) : lock.release.Fair := fair_wakeUpFirst rfl h.first

theorem locked_release (lock : Lock Task) : lock.release.locked = false := locked_wakeUpFirst _

theorem mem_tail_filter {keep : Waiter Task → Bool} {waiter : Waiter Task} {waiters : List (Waiter Task)}
    (h : waiter ∈ (waiters.filter keep).tail) : waiter ∈ waiters.tail := by
  cases waiters with
  | nil => cases h
  | cons first rest =>
    rw [List.filter_cons] at h
    split at h
    next => exact (List.mem_filter.mp h).1
    next => exact (List.mem_filter.mp (List.mem_of_mem_tail h)).1

variable [DecidableEq Task]

theorem Fair.abandon (h : lock.Fair) (task : Task) : (lock.abandon task).Fair := by
  rw [Lock.abandon]
  split
  next hlocked =>
    exact fair_of_waiting fun waiter hwaiter => h.waiting hlocked waiter (List.mem_filter.mp hwaiter).1
  next hfree =>
    exact fair_wakeUpFirst (Bool.not_eq_true _ ▸ hfree) fun waiter hwaiter =>
      h.first waiter (mem_tail_filter hwaiter)

theorem locked_abandon (lock : Lock Task) (task : Task) : (lock.abandon task).locked = lock.locked := by
  rw [Lock.abandon]
  split
  next => rfl
  next => exact locked_wakeUpFirst _

/-- The task that was woken takes a lock that was free, and leaves nobody woken. -/
theorem Fair.resume (h : lock.Fair) {task : Task} (hdone : lock.futureOf task = some .done) :
    lock.locked = false ∧ (lock.resume task).Fair := by
  obtain ⟨waiter, hfind, hfuture⟩ := Option.map_eq_some_iff.mp hdone
  have hmem := List.mem_of_find?_eq_some hfind
  have hcheck := List.find?_some hfind
  have htask : waiter.task = task := of_decide_eq_true hcheck
  refine ⟨h.free waiter hmem hfuture, fair_of_waiting fun other hother => ?_⟩
  obtain ⟨hin, hne⟩ := List.mem_filter.mp hother
  have hne : other.task ≠ task := of_decide_eq_true hne
  -- only the first waiter was woken, and that is the one that leaves
  cases hwaiters : lock.waiters with
  | nil =>
    rw [hwaiters] at hin
    cases hin
  | cons first rest =>
    have htail := h.first
    rw [hwaiters] at hin hmem htail
    rcases List.mem_cons.mp hmem with rfl | hmem
    · rcases List.mem_cons.mp hin with rfl | hin
      · exact absurd htask hne
      · exact htail other hin
    · exact absurd hfuture (htail waiter hmem)

theorem Fair.cancel (h : lock.Fair) (task : Task) : (lock.cancel task).Fair := by
  have hkept : ∀ waiters : List (Waiter Task), ∀ waiter ∈ waiters.map (fun waiter =>
      if waiter.task = task ∧ waiter.future = .pending then ⟨task, .cancelled⟩ else waiter),
      waiter.future = .done → waiter ∈ waiters := by
    intro waiters waiter hwaiter hdone
    obtain ⟨old, hold, rfl⟩ := List.mem_map.mp hwaiter
    split at hdone
    next => cases hdone
    next hkeep => rwa [if_neg hkeep]
  constructor
  · intro waiter hwaiter hdone
    exact h.free waiter (hkept _ waiter hwaiter hdone) hdone
  · intro waiter hwaiter hdone
    rw [Lock.cancel, ← List.map_tail] at hwaiter
    exact h.first waiter (hkept _ waiter hwaiter hdone) hdone

/-- A free lock has woken its first waiter, unless that was cancelled. -/
def Awake (lock : Lock Task) : Prop :=
  lock.locked = false → ∀ waiter ∈ lock.waiters.head?, waiter.future ≠ .pending

/-- The tasks that wait, in their order. -/
def tasks (lock : Lock Task) : List Task := lock.waiters.map Waiter.task

omit [DecidableEq Task] in
theorem awake_of_locked (h : lock.locked = true) : lock.Awake := by
  intro hfree
  rw [h] at hfree
  cases hfree

omit [DecidableEq Task] in
theorem awake_wakeUpFirst (lock : Lock Task) : lock.wakeUpFirst.Awake := by
  intro _ waiter hwaiter
  rw [wakeUpFirst] at hwaiter
  split at hwaiter
  next hnil =>
    rw [hnil] at hwaiter
    cases hwaiter
  next first rest hwaiters =>
    split at hwaiter
    next =>
      cases hwaiter
      exact nofun
    next hfuture =>
      rw [hwaiters] at hwaiter
      cases hwaiter
      exact hfuture

omit [DecidableEq Task] in
theorem awake_release (lock : Lock Task) : lock.release.Awake := awake_wakeUpFirst _

theorem awake_abandon (lock : Lock Task) (task : Task) : (lock.abandon task).Awake := by
  rw [Lock.abandon]
  split
  next hlocked => exact awake_of_locked hlocked
  next => exact awake_wakeUpFirst _

theorem Awake.cancel (h : lock.Awake) (task : Task) : (lock.cancel task).Awake := by
  intro hfree waiter hwaiter
  rw [Lock.cancel, List.head?_map] at hwaiter
  obtain ⟨first, hfirst, rfl⟩ := Option.map_eq_some_iff.mp hwaiter
  have hawake := h hfree first hfirst
  split
  next => exact nofun
  next => exact hawake

omit [DecidableEq Task] in
/-- Who has to wait for a free lock is not the first one. -/
theorem Awake.enqueue (h : lock.Awake) (busy : lock.tryAcquire = none) (task : Task) :
    (lock.enqueue task).Awake := by
  intro hfree waiter hwaiter
  have hfree : lock.locked = false := hfree
  cases hwaiters : lock.waiters with
  | nil =>
    have hall : ∀ waiter ∈ lock.waiters, waiter.future = .cancelled := by
      rw [hwaiters]
      exact nofun
    rw [Lock.tryAcquire, if_pos ⟨hfree, hall⟩] at busy
    cases busy
  | cons first rest =>
    rw [Lock.enqueue, hwaiters] at hwaiter
    refine h hfree waiter ?_
    rw [hwaiters]
    exact hwaiter

omit [DecidableEq Task] in
theorem tasks_enqueue (lock : Lock Task) (task : Task) : (lock.enqueue task).tasks = lock.tasks ++ [task] := by
  rw [tasks, Lock.enqueue, List.map_append]
  rfl

omit [DecidableEq Task] in
theorem tasks_release (lock : Lock Task) : lock.release.tasks = lock.tasks := tasks_wakeUpFirst _

theorem tasks_remove (lock : Lock Task) (task : Task) :
    (lock.remove task).tasks = lock.tasks.filter fun other => other ≠ task := by
  rw [tasks, Lock.remove, tasks, List.filter_map]
  rfl

theorem tasks_resume (lock : Lock Task) (task : Task) :
    (lock.resume task).tasks = lock.tasks.filter fun other => other ≠ task := tasks_remove lock task

theorem tasks_abandon (lock : Lock Task) (task : Task) :
    (lock.abandon task).tasks = lock.tasks.filter fun other => other ≠ task := by
  rw [Lock.abandon]
  split
  next => exact tasks_remove lock task
  next => exact (tasks_wakeUpFirst _).trans (tasks_remove lock task)

theorem tasks_cancel (lock : Lock Task) (task : Task) : (lock.cancel task).tasks = lock.tasks := by
  rw [tasks, Lock.cancel, List.map_map, tasks]
  apply List.map_congr_left
  intro waiter _
  rw [Function.comp_apply]
  split
  next h => exact h.1.symm
  next => rfl

omit [DecidableEq Task] in
theorem mem_of_not_done_wakeUpFirst {waiter : Waiter Task} (hmem : waiter ∈ lock.wakeUpFirst.waiters)
    (hdone : waiter.future ≠ .done) : waiter ∈ lock.waiters := by
  rw [wakeUpFirst] at hmem
  split at hmem
  next => exact hmem
  next first rest hwaiters =>
    split at hmem
    next =>
      rw [hwaiters]
      rcases List.mem_cons.mp hmem with rfl | hmem
      · exact absurd rfl hdone
      · exact List.mem_cons_of_mem _ hmem
    next => exact hmem

omit [DecidableEq Task] in
theorem mem_of_not_done_release {waiter : Waiter Task} (hmem : waiter ∈ lock.release.waiters)
    (hdone : waiter.future ≠ .done) : waiter ∈ lock.waiters := by
  have hmem' : waiter ∈ ({ lock with locked := false } : Lock Task).waiters :=
    mem_of_not_done_wakeUpFirst hmem hdone
  exact hmem'

theorem mem_of_not_done_abandon {waiter : Waiter Task} {task : Task}
    (hmem : waiter ∈ (lock.abandon task).waiters) (hdone : waiter.future ≠ .done) : waiter ∈ lock.waiters := by
  rw [Lock.abandon] at hmem
  split at hmem
  next => exact (List.mem_filter.mp hmem).1
  next => exact (List.mem_filter.mp (mem_of_not_done_wakeUpFirst hmem hdone)).1

theorem mem_or_of_mem_cancel {waiter : Waiter Task} {task : Task} (hmem : waiter ∈ (lock.cancel task).waiters) :
    waiter ∈ lock.waiters ∨ waiter.task = task := by
  obtain ⟨old, hold, rfl⟩ := List.mem_map.mp hmem
  split
  next => exact Or.inr rfl
  next => exact Or.inl hold

/-- Whoever still waits was not cancelled. -/
theorem mem_of_pending_cancel {waiter : Waiter Task} {task : Task} (hmem : waiter ∈ (lock.cancel task).waiters)
    (hpending : waiter.future = .pending) : waiter ∈ lock.waiters ∧ waiter.task ≠ task := by
  obtain ⟨old, hold, rfl⟩ := List.mem_map.mp hmem
  split at hpending
  next => cases hpending
  next hkept =>
    rw [if_neg hkept]
    exact ⟨hold, fun htask => hkept ⟨htask, hpending⟩⟩

theorem exists_futureOf {task : Task} (hmem : task ∈ lock.tasks) : ∃ future, lock.futureOf task = some future := by
  obtain ⟨waiter, hwaiter, rfl⟩ := List.mem_map.mp hmem
  cases hfind : lock.waiters.find? fun other => other.task = waiter.task with
  | none =>
    have hnone := List.find?_eq_none.mp hfind waiter hwaiter
    exact absurd (decide_eq_true rfl) hnone
  | some found => exact ⟨found.future, congrArg (Option.map Waiter.future) hfind⟩

theorem mem_of_futureOf {task : Task} {future : Future} (h : lock.futureOf task = some future) :
    ∃ waiter ∈ lock.waiters, waiter.task = task ∧ waiter.future = future := by
  obtain ⟨waiter, hfind, hfuture⟩ := Option.map_eq_some_iff.mp h
  have hcheck := List.find?_some hfind
  exact ⟨waiter, List.mem_of_find?_eq_some hfind, of_decide_eq_true hcheck, hfuture⟩

/-- The task that was woken is the first one. -/
theorem Fair.head_of_done (h : lock.Fair) {task : Task} (hdone : lock.futureOf task = some .done) :
    lock.tasks.head? = some task := by
  obtain ⟨waiter, hfind, hfuture⟩ := Option.map_eq_some_iff.mp hdone
  have hcheck := List.find?_some hfind
  have htask : waiter.task = task := of_decide_eq_true hcheck
  have hmem := List.mem_of_find?_eq_some hfind
  cases hwaiters : lock.waiters with
  | nil =>
    rw [hwaiters] at hmem
    cases hmem
  | cons first rest =>
    have htail := h.first
    rw [hwaiters] at hmem htail
    rcases List.mem_cons.mp hmem with rfl | hmem
    · rw [tasks, hwaiters, List.map_cons, htask]
      rfl
    · exact absurd hfuture (htail waiter hmem)

theorem futureOf_head {waiter : Waiter Task} {rest : List (Waiter Task)} (h : lock.waiters = waiter :: rest) :
    lock.futureOf waiter.task = some waiter.future := by
  have hfind : (waiter :: rest).find? (fun other => other.task = waiter.task) = some waiter :=
    List.find?_cons_of_pos (decide_eq_true rfl)
  rw [futureOf, h, hfind]
  rfl

/-- How many are in front of the task. -/
def ahead (task : Task) : List Task → Nat
  | [] => 0
  | first :: rest => if first = task then 0 else ahead task rest + 1

theorem ahead_append {queue : List Task} {task : Task} (hmem : task ∈ queue) (more : List Task) :
    ahead task (queue ++ more) = ahead task queue := by
  induction queue with
  | nil => cases hmem
  | cons first rest ih =>
    rw [List.cons_append, ahead, ahead]
    split
    next => rfl
    next hfirst => rw [ih ((List.mem_cons.mp hmem).resolve_left (Ne.symm hfirst))]

theorem ahead_filter_le {queue : List Task} {task : Task} {keep : Task → Bool} (kept : keep task = true) :
    ahead task (queue.filter keep) ≤ ahead task queue := by
  induction queue with
  | nil => exact Nat.le_refl _
  | cons first rest ih =>
    rw [List.filter_cons, ahead]
    split
    next =>
      rw [ahead]
      split
      next => exact Nat.le_refl _
      next => omega
    next hleft =>
      split
      next hfirst =>
        rw [hfirst] at hleft
        exact absurd kept hleft
      next => omega

/-- Where one leaves, the task moves up, or the first one is the same. -/
theorem ahead_filter {queue : List Task} {task : Task} {keep : Task → Bool} (kept : keep task = true) :
    ahead task (queue.filter keep) < ahead task queue ∨
      (ahead task (queue.filter keep) = ahead task queue ∧ (queue.filter keep).head? = queue.head?) := by
  cases queue with
  | nil => exact Or.inr ⟨rfl, rfl⟩
  | cons first rest =>
    rw [List.filter_cons]
    split
    next hfirst =>
      have hle : ahead task ((first :: rest).filter keep) ≤ ahead task (first :: rest) := ahead_filter_le kept
      rw [List.filter_cons, if_pos hfirst] at hle
      rcases Nat.lt_or_eq_of_le hle with hlt | heq
      · exact Or.inl hlt
      · exact Or.inr ⟨heq, rfl⟩
    next hleft =>
      have hrest : ahead task (rest.filter keep) ≤ ahead task rest := ahead_filter_le kept
      have hother : first ≠ task := by
        rintro rfl
        exact hleft kept
      rw [ahead, if_neg hother]
      left
      omega

end Lock

end AsyncLock
