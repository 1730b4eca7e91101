import JLinkMcp.AsyncLock
import JLinkMcp.HostBase
import JLinkMcp.StepRuns
import Mathlib.Data.List.Nodup
import Mathlib.Logic.Function.Basic

namespace JLinkMcp.Lease

open AsyncLock Host StepRuns

/-- A lease id is a number that `uuid4` gives once. -/
structure LeaseInfo where
  leaseId : Nat
  probeSerial : PyStr
  owner : PyStr
  deriving DecidableEq

/-- A call of `acquire`: whether `lease` made it, and whether its timeout is not positive. -/
structure Request where
  probeSerial : PyStr
  owner : PyStr
  context : Bool
  expires : Bool

/-- A `lease` that a task has entered; a nested one yields the lease around it. -/
structure Context where
  info : LeaseInfo
  nested : Bool

/-- Where a task is suspended: outside of the manager, at the guard, in `wait_for(lock.acquire())`,
or in a `wait_for` that has expired at once. -/
inductive Phase where
  | body
  | guardOfLock (request : Request)
  | guardOfRelease (leaseId : Nat)
  | lockWait (request : Request)
  | expiring (request : Request)

/-- An interrupted task has been cancelled, by another task or by the timer of `wait_for`. -/
structure TaskState where
  contexts : List Context := []
  phase : Phase := .body
  interrupted : Bool := false

/-- `ProbeLeaseManager` -/
structure Manager (Task : Type) where
  locks : PyStr → Option (Lock Task)
  active : PyStr → Option LeaseInfo
  byId : Nat → Option LeaseInfo
  leaseTasks : Nat → Option Task
  guard : Lock Task

/-- The manager and its tasks. `live` is the record of the leases that were acquired and not released
since, with the tasks that acquired them. -/
structure State (Task : Type) where
  manager : Manager Task
  tasks : Task → TaskState
  nextId : Nat
  live : List (LeaseInfo × Task)

variable {Task : Type} [DecidableEq Task]

namespace Manager

def empty : Manager Task := ⟨fun _ => none, fun _ => none, fun _ => none, fun _ => none, {}⟩

/-- The lock of a probe; one that was never asked for is free. -/
def lockOf (manager : Manager Task) (probeSerial : PyStr) : Lock Task := (manager.locks probeSerial).getD {}

def setLock (manager : Manager Task) (probeSerial : PyStr) (lock : Lock Task) : Manager Task :=
  { manager with locks := Function.update manager.locks probeSerial (some lock) }

/-- What `acquire` does once it has the lock. -/
def register (manager : Manager Task) (info : LeaseInfo) (task : Task) : Manager Task :=
  { manager with
    active := Function.update manager.active info.probeSerial (some info)
    byId := Function.update manager.byId info.leaseId (some info)
    leaseTasks := Function.update manager.leaseTasks info.leaseId (some task) }

/-- What `release` does while it holds the guard. -/
def drop (manager : Manager Task) (leaseId : Nat) : Manager Task :=
  let dropped : Manager Task :=
    { manager with byId := Function.update manager.byId leaseId none
                   leaseTasks := Function.update manager.leaseTasks leaseId none }
  match manager.byId leaseId with
  | none => dropped
  | some info =>
    let dropped := { dropped with active := Function.update manager.active info.probeSerial none }
    match manager.locks info.probeSerial with
    | none => dropped
    | some lock => if lock.locked then dropped.setLock info.probeSerial lock.release else dropped

end Manager

namespace State

variable (state : State Task) (task : Task)

def setPhase (phase : Phase) : State Task :=
  { state with tasks := Function.update state.tasks task { state.tasks task with phase } }

/-- The task goes on outside of the manager. -/
def backToBody (contexts : List Context) : State Task :=
  { state with tasks := Function.update state.tasks task { contexts } }

/-- `acquire` behind `wait_for`, with the lock as the task has taken it. -/
def grant (request : Request) (lock : Lock Task) : State Task :=
  let info : LeaseInfo := ⟨state.nextId, request.probeSerial, request.owner⟩
  let contexts := (state.tasks task).contexts
  backToBody
    { state with
      manager := (state.manager.setLock request.probeSerial lock).register info task
      nextId := state.nextId + 1
      live := state.live ++ [(info, task)] }
    task (if request.context then ⟨info, false⟩ :: contexts else contexts)

/-- `wait_for(lock.acquire(), timeout)` -/
def awaitLock (request : Request) : State Task :=
  let lock := state.manager.lockOf request.probeSerial
  if request.expires then state.setPhase task (.expiring request)
  else
    match lock.tryAcquire with
    | some lock => state.grant task request lock
    | none =>
      setPhase { state with manager := state.manager.setLock request.probeSerial (lock.enqueue task) } task
        (.lockWait request)

/-- `_lock_for` while it holds the guard, and what follows it. -/
def lockFor (request : Request) (guard : Lock Task) : State Task :=
  let manager := state.manager.setLock request.probeSerial (state.manager.lockOf request.probeSerial)
  awaitLock { state with manager := { manager with guard := guard.release } } task request

def acquire (request : Request) : State Task :=
  match state.manager.guard.tryAcquire with
  | some guard => state.lockFor task request guard
  | none =>
    setPhase { state with manager := { state.manager with guard := state.manager.guard.enqueue task } } task
      (.guardOfLock request)

/-- `release` while it holds the guard. -/
def releaseWith (leaseId : Nat) (guard : Lock Task) : State Task :=
  backToBody
    { state with
      manager := { state.manager.drop leaseId with guard := guard.release }
      live := state.live.filter fun entry => entry.1.leaseId ≠ leaseId }
    task (state.tasks task).contexts

def release (leaseId : Nat) : State Task :=
  match state.manager.guard.tryAcquire with
  | some guard => state.releaseWith task leaseId guard
  | none =>
    setPhase { state with manager := { state.manager with guard := state.manager.guard.enqueue task } } task
      (.guardOfRelease leaseId)

end State

/-- What a task does next, or what happens to it: it calls `acquire`, enters `lease`, leaves the
innermost `lease` in whatever way, calls `release`, is interrupted, or has its turn. -/
inductive Event (Task : Type) where
  | acquire (task : Task) (probeSerial owner : PyStr) (expires : Bool)
  | enter (task : Task) (probeSerial owner : PyStr) (expires : Bool)
  | leave (task : Task)
  | release (task : Task) (leaseId : Nat)
  | interrupt (task : Task)
  | wake (task : Task)

/-- A task runs from one suspension to the next. -/
def step (state : State Task) : Event Task → Option (State Task)
  | .acquire task probeSerial owner expires =>
    match (state.tasks task).phase with
    | .body => some (state.acquire task ⟨probeSerial, owner, false, expires⟩)
    | _ => none
  | .enter task probeSerial owner expires =>
    match (state.tasks task).phase with
    | .body =>
      match state.manager.active probeSerial with
      | some info =>
        if state.manager.leaseTasks info.leaseId = some task then
          some (state.backToBody task (⟨info, true⟩ :: (state.tasks task).contexts))
        else some (state.acquire task ⟨probeSerial, owner, true, expires⟩)
      | none => some (state.acquire task ⟨probeSerial, owner, true, expires⟩)
    | _ => none
  | .leave task =>
    match (state.tasks task).phase, (state.tasks task).contexts with
    | .body, context :: contexts =>
      let left := state.backToBody task contexts
      some (if context.nested then left else left.release task context.info.leaseId)
    | _, _ => none
  | .release task leaseId =>
    match (state.tasks task).phase with
    | .body => some (state.release task leaseId)
    | _ => none
  | .interrupt task =>
    let interrupted (manager : Manager Task) : State Task :=
      let tasks := Function.update state.tasks task { state.tasks task with interrupted := true }
      { state with manager, tasks }
    match (state.tasks task).phase with
    | .body => none
    | .guardOfLock _ | .guardOfRelease _ =>
      some (interrupted { state.manager with guard := state.manager.guard.cancel task })
    | .lockWait request =>
      some (interrupted (state.manager.setLock request.probeSerial
        ((state.manager.lockOf request.probeSerial).cancel task)))
    | .expiring _ => some (interrupted state.manager)
  | .wake task =>
    let raised (manager : Manager Task) : State Task :=
      State.backToBody { state with manager } task (state.tasks task).contexts
    let manager := state.manager
    match (state.tasks task).phase with
    | .body => none
    | .expiring _ => some (raised manager)
    | .lockWait request =>
      let lock := manager.lockOf request.probeSerial
      match lock.futureOf task, (state.tasks task).interrupted with
      | some .done, false => some (state.grant task request (lock.resume task))
      | some .done, true | some .cancelled, _ =>
        some (raised (manager.setLock request.probeSerial (lock.abandon task)))
      | _, _ => none
    | .guardOfLock request =>
      match manager.guard.futureOf task, (state.tasks task).interrupted with
      | some .done, false => some (state.lockFor task request (manager.guard.resume task))
      | some .done, true | some .cancelled, _ =>
        some (raised { manager with guard := manager.guard.abandon task })
      | _, _ => none
    | .guardOfRelease leaseId =>
      match manager.guard.futureOf task, (state.tasks task).interrupted with
      | some .done, false => some (state.releaseWith task leaseId (manager.guard.resume task))
      | some .done, true | some .cancelled, _ =>
        some (raised { manager with guard := manager.guard.abandon task })
      | _, _ => none

/-- No lease, and every task outside of the manager. -/
def start : State Task := ⟨Manager.empty, fun _ => {}, 0, []⟩

/-- A phase inside of the manager's guard. -/
def Phase.atGuard : Phase → Bool
  | .guardOfLock _ | .guardOfRelease _ => true
  | _ => false

/-- The dictionaries and the locks describe these leases and no others. -/
structure Describes (manager : Manager Task) (live : List (LeaseInfo × Task)) (nextId : Nat) : Prop where
  fair : ∀ probeSerial, (manager.lockOf probeSerial).Fair
  ids_lt : ∀ entry ∈ live, entry.1.leaseId < nextId
  ids_nodup : (live.map fun entry => entry.1.leaseId).Nodup
  probes_nodup : (live.map fun entry => entry.1.probeSerial).Nodup
  byId : ∀ leaseId info, manager.byId leaseId = some info ↔
    info.leaseId = leaseId ∧ ∃ task, (info, task) ∈ live
  active : ∀ probeSerial info, manager.active probeSerial = some info ↔
    info.probeSerial = probeSerial ∧ ∃ task, (info, task) ∈ live
  leaseTasks : ∀ leaseId task, manager.leaseTasks leaseId = some task ↔
    ∃ info, info.leaseId = leaseId ∧ (info, task) ∈ live
  locked : ∀ probeSerial, (manager.lockOf probeSerial).locked = true ↔
    ∃ entry ∈ live, entry.1.probeSerial = probeSerial

/-- At every suspension the guard is free, nobody waits for it, and the manager describes the leases. -/
structure Consistent (state : State Task) : Prop where
  describes : Describes state.manager state.live state.nextId
  guard : state.manager.guard = {}
  phases : ∀ task, (state.tasks task).phase.atGuard = false

section manager

variable {manager : Manager Task} {live : List (LeaseInfo × Task)} {nextId : Nat} {probeSerial : PyStr}
  {lock : Lock Task}

omit [DecidableEq Task] in
theorem lockOf_setLock (other : PyStr) : (manager.setLock probeSerial lock).lockOf other =
    if other = probeSerial then lock else manager.lockOf other := by
  rw [Manager.lockOf, Manager.setLock]
  dsimp only
  by_cases hother : other = probeSerial
  · rw [hother, Function.update_self, if_pos rfl]
    rfl
  · rw [Function.update_of_ne hother, if_neg hother]
    rfl

omit [DecidableEq Task] in
theorem entry_of_id (describes : Describes manager live nextId) {entry other : LeaseInfo × Task}
    (hentry : entry ∈ live) (hother : other ∈ live) (h : entry.1.leaseId = other.1.leaseId) : entry = other :=
  List.inj_on_of_nodup_map describes.ids_nodup hentry hother h

omit [DecidableEq Task] in
theorem entry_of_probe (describes : Describes manager live nextId) {entry other : LeaseInfo × Task}
    (hentry : entry ∈ live) (hother : other ∈ live) (h : entry.1.probeSerial = other.1.probeSerial) :
    entry = other :=
  List.inj_on_of_nodup_map describes.probes_nodup hentry hother h

omit [DecidableEq Task] in
/-- A lock that others wait for or leave, but that nobody takes or frees. -/
theorem describes_setLock (describes : Describes manager live nextId) (fair : lock.Fair)
    (same : lock.locked = (manager.lockOf probeSerial).locked) :
    Describes (manager.setLock probeSerial lock) live nextId where
  fair other := by
    rw [lockOf_setLock]
    split
    next => exact fair
    next => exact describes.fair other
  ids_lt := describes.ids_lt
  ids_nodup := describes.ids_nodup
  probes_nodup := describes.probes_nodup
  byId := describes.byId
  active := describes.active
  leaseTasks := describes.leaseTasks
  locked other := by
    rw [lockOf_setLock, ← describes.locked other]
    split
    next hother => rw [same, hother]
    next => rfl

omit [DecidableEq Task] in
theorem describes_grant (describes : Describes manager live nextId) (fair : lock.Fair)
    (taken : lock.locked = true) (free : (manager.lockOf probeSerial).locked = false) (owner : PyStr)
    (task : Task) :
    Describes ((manager.setLock probeSerial lock).register ⟨nextId, probeSerial, owner⟩ task)
      (live ++ [(⟨nextId, probeSerial, owner⟩, task)]) (nextId + 1) := by
  have hnew : ∀ entry ∈ live, entry.1.leaseId ≠ nextId := fun entry hentry =>
    Nat.ne_of_lt (describes.ids_lt entry hentry)
  have hprobe : ∀ entry ∈ live, entry.1.probeSerial ≠ probeSerial := by
    intro entry hentry h
    have hlocked := (describes.locked probeSerial).mpr ⟨entry, hentry, h⟩
    rw [free] at hlocked
    cases hlocked
  have hlockOf : ∀ other, ((manager.setLock probeSerial lock).register ⟨nextId, probeSerial, owner⟩
      task).lockOf other = if other = probeSerial then lock else manager.lockOf other := fun other =>
    lockOf_setLock other
  constructor
  · intro other
    rw [hlockOf]
    split
    next => exact fair
    next => exact describes.fair other
  · intro entry hentry
    rcases List.mem_append.mp hentry with hentry | hentry
    · exact Nat.lt_succ_of_lt (describes.ids_lt entry hentry)
    · rw [List.mem_singleton.mp hentry]
      exact Nat.lt_succ_self nextId
  · rw [List.map_append, List.map_singleton, List.nodup_append]
    refine ⟨describes.ids_nodup, List.nodup_singleton _, fun a ha b hb => ?_⟩
    obtain ⟨entry, hentry, rfl⟩ := List.mem_map.mp ha
    rw [List.mem_singleton.mp hb]
    exact hnew entry hentry
  · rw [List.map_append, List.map_singleton, List.nodup_append]
    refine ⟨describes.probes_nodup, List.nodup_singleton _, fun a ha b hb => ?_⟩
    obtain ⟨entry, hentry, rfl⟩ := List.mem_map.mp ha
    rw [List.mem_singleton.mp hb]
    exact hprobe entry hentry
  · intro leaseId info
    have hold := describes.byId leaseId info
    simp only [Manager.register, Manager.setLock, Function.update_apply, List.mem_append, List.mem_singleton,
      Prod.mk.injEq]
    by_cases hid : leaseId = nextId
    · rw [if_pos hid]
      constructor
      · intro h
        cases Option.some.inj h
        exact ⟨hid.symm, task, Or.inr ⟨rfl, rfl⟩⟩
      · rintro ⟨hinfo, other, hentry | ⟨rfl, _⟩⟩
        · exact absurd (hinfo.trans hid) (hnew _ hentry)
        · rfl
    · rw [if_neg hid, hold]
      constructor
      · rintro ⟨hinfo, other, hentry⟩
        exact ⟨hinfo, other, Or.inl hentry⟩
      · rintro ⟨hinfo, other, hentry | ⟨rfl, _⟩⟩
        · exact ⟨hinfo, other, hentry⟩
        · exact absurd hinfo.symm hid
  · intro other info
    have hold := describes.active other info
    simp only [Manager.register, Manager.setLock, Function.update_apply, List.mem_append, List.mem_singleton,
      Prod.mk.injEq]
    by_cases hother : other = probeSerial
    · rw [if_pos hother]
      constructor
      · intro h
        cases Option.some.inj h
        exact ⟨hother.symm, task, Or.inr ⟨rfl, rfl⟩⟩
      · rintro ⟨hinfo, holder, hentry | ⟨rfl, _⟩⟩
        · exact absurd (hinfo.trans hother) (hprobe _ hentry)
        · rfl
    · rw [if_neg hother, hold]
      constructor
      · rintro ⟨hinfo, holder, hentry⟩
        exact ⟨hinfo, holder, Or.inl hentry⟩
      · rintro ⟨hinfo, holder, hentry | ⟨rfl, _⟩⟩
        · exact ⟨hinfo, holder, hentry⟩
        · exact absurd hinfo.symm hother
  · intro leaseId holder
    have hold := describes.leaseTasks leaseId holder
    simp only [Manager.register, Manager.setLock, Function.update_apply, List.mem_append, List.mem_singleton,
      Prod.mk.injEq]
    by_cases hid : leaseId = nextId
    · rw [if_pos hid]
      constructor
      · intro h
        exact ⟨⟨nextId, probeSerial, owner⟩, hid.symm, Or.inr ⟨rfl, (Option.some.inj h).symm⟩⟩
      · rintro ⟨info, hinfo, hentry | ⟨_, rfl⟩⟩
        · exact absurd (hinfo.trans hid) (hnew _ hentry)
        · rfl
    · rw [if_neg hid, hold]
      constructor
      · rintro ⟨info, hinfo, hentry⟩
        exact ⟨info, hinfo, Or.inl hentry⟩
      · rintro ⟨info, hinfo, hentry | ⟨rfl, _⟩⟩
        · exact ⟨info, hinfo, hentry⟩
        · exact absurd hinfo.symm hid
  · intro other
    rw [hlockOf]
    by_cases hother : other = probeSerial
    · rw [if_pos hother]
      exact ⟨fun _ => ⟨_, List.mem_append_right live (List.mem_singleton_self _), hother.symm⟩,
        fun _ => taken⟩
    · rw [if_neg hother, describes.locked other]
      constructor
      · rintro ⟨entry, hentry, h⟩
        exact ⟨entry, List.mem_append_left _ hentry, h⟩
      · rintro ⟨entry, hentry, h⟩
        rcases List.mem_append.mp hentry with hentry | hentry
        · exact ⟨entry, hentry, h⟩
        · rw [List.mem_singleton.mp hentry] at h
          exact absurd h.symm hother

omit [DecidableEq Task] in
/-- A lease id that is not live is in no dictionary, and its release leaves everything as it is. -/
theorem drop_of_unknown (describes : Describes manager live nextId) {leaseId : Nat}
    (unknown : ∀ entry ∈ live, entry.1.leaseId ≠ leaseId) : manager.drop leaseId = manager := by
  have hid : manager.byId leaseId = none := by
    rw [Option.eq_none_iff_forall_not_mem]
    intro info hinfo
    obtain ⟨hleaseId, task, hentry⟩ := (describes.byId leaseId info).mp hinfo
    exact unknown _ hentry hleaseId
  have htask : manager.leaseTasks leaseId = none := by
    rw [Option.eq_none_iff_forall_not_mem]
    intro task htask
    obtain ⟨info, hleaseId, hentry⟩ := (describes.leaseTasks leaseId task).mp htask
    exact unknown _ hentry hleaseId
  have hids : Function.update manager.byId leaseId none = manager.byId := by
    rw [← hid, Function.update_eq_self]
  have htasks : Function.update manager.leaseTasks leaseId none = manager.leaseTasks := by
    rw [← htask, Function.update_eq_self]
  rw [Manager.drop, hid]
  dsimp only
  rw [hids, htasks]

omit [DecidableEq Task] in
/-- The manager after the release of a live lease. -/
theorem drop_of_live (describes : Describes manager live nextId) {entry : LeaseInfo × Task}
    (hentry : entry ∈ live) : manager.drop entry.1.leaseId =
      ({ manager with
          byId := Function.update manager.byId entry.1.leaseId none
          leaseTasks := Function.update manager.leaseTasks entry.1.leaseId none
          active := Function.update manager.active entry.1.probeSerial none } : Manager Task).setLock
        entry.1.probeSerial (manager.lockOf entry.1.probeSerial).release := by
  have hid : manager.byId entry.1.leaseId = some entry.1 :=
    (describes.byId _ _).mpr ⟨rfl, entry.2, hentry⟩
  have hlocked := (describes.locked entry.1.probeSerial).mpr ⟨entry, hentry, rfl⟩
  rw [Manager.drop, hid]
  rw [Manager.lockOf] at hlocked ⊢
  dsimp only
  cases hlock : manager.locks entry.1.probeSerial with
  | none =>
    rw [hlock] at hlocked
    cases hlocked
  | some lock =>
    rw [hlock] at hlocked
    dsimp only [Option.getD_some] at hlocked ⊢
    rw [if_pos hlocked]

omit [DecidableEq Task] in
theorem describes_drop (describes : Describes manager live nextId) (leaseId : Nat) :
    Describes (manager.drop leaseId) (live.filter fun entry => entry.1.leaseId ≠ leaseId) nextId := by
  by_cases hlive : ∃ entry ∈ live, entry.1.leaseId = leaseId
  · obtain ⟨entry, hentry, rfl⟩ := hlive
    have hkept : ∀ other, other ∈ live.filter (fun other => other.1.leaseId ≠ entry.1.leaseId) ↔
        other ∈ live ∧ other.1.leaseId ≠ entry.1.leaseId := fun other => by
      rw [List.mem_filter, decide_eq_true_iff]
    -- among the live leases, the one that goes is also the only one of its probe
    have hprobe : ∀ other ∈ live, other.1.leaseId ≠ entry.1.leaseId →
        other.1.probeSerial ≠ entry.1.probeSerial := fun other hother hne hprobe =>
      hne (congrArg (fun entry : LeaseInfo × Task => entry.1.leaseId)
        (entry_of_probe describes hother hentry hprobe))
    have hid : ∀ other ∈ live, other.1.probeSerial ≠ entry.1.probeSerial →
        other.1.leaseId ≠ entry.1.leaseId := fun other hother hne hid =>
      hne (congrArg (fun entry : LeaseInfo × Task => entry.1.probeSerial)
        (entry_of_id describes hother hentry hid))
    have hsub : (live.filter fun other => other.1.leaseId ≠ entry.1.leaseId).Sublist live :=
      List.filter_sublist
    rw [drop_of_live describes hentry]
    constructor
    · intro other
      rw [lockOf_setLock]
      split
      next => exact (describes.fair _).release
      next => exact describes.fair other
    · intro other hother
      exact describes.ids_lt other ((hkept other).mp hother).1
    · exact describes.ids_nodup.sublist (hsub.map _)
    · exact describes.probes_nodup.sublist (hsub.map _)
    · intro leaseId info
      dsimp only [Manager.setLock]
      by_cases hleaseId : leaseId = entry.1.leaseId
      · rw [hleaseId, Function.update_self]
        constructor
        · exact nofun
        · rintro ⟨hinfo, task, hother⟩
          exact absurd hinfo ((hkept _).mp hother).2
      · rw [Function.update_of_ne hleaseId, describes.byId]
        constructor
        · rintro ⟨hinfo, task, hother⟩
          exact ⟨hinfo, task, (hkept _).mpr ⟨hother, hinfo ▸ hleaseId⟩⟩
        · rintro ⟨hinfo, task, hother⟩
          exact ⟨hinfo, task, ((hkept _).mp hother).1⟩
    · intro probeSerial info
      dsimp only [Manager.setLock]
      by_cases hserial : probeSerial = entry.1.probeSerial
      · rw [hserial, Function.update_self]
        constructor
        · exact nofun
        · rintro ⟨hinfo, task, hother⟩
          obtain ⟨hother, hne⟩ := (hkept _).mp hother
          exact absurd hinfo (hprobe _ hother hne)
      · rw [Function.update_of_ne hserial, describes.active]
        constructor
        · rintro ⟨hinfo, task, hother⟩
          exact ⟨hinfo, task, (hkept _).mpr ⟨hother, hid _ hother (hinfo ▸ hserial)⟩⟩
        · rintro ⟨hinfo, task, hother⟩
          exact ⟨hinfo, task, ((hkept _).mp hother).1⟩
    · intro leaseId task
      dsimp only [Manager.setLock]
      by_cases hleaseId : leaseId = entry.1.leaseId
      · rw [hleaseId, Function.update_self]
        constructor
        · exact nofun
        · rintro ⟨info, hinfo, hother⟩
          exact absurd hinfo ((hkept _).mp hother).2
      · rw [Function.update_of_ne hleaseId, describes.leaseTasks]
        constructor
        · rintro ⟨info, hinfo, hother⟩
          exact ⟨info, hinfo, (hkept _).mpr ⟨hother, hinfo ▸ hleaseId⟩⟩
        · rintro ⟨info, hinfo, hother⟩
          exact ⟨info, hinfo, ((hkept _).mp hother).1⟩
    · intro probeSerial
      rw [lockOf_setLock]
      by_cases hserial : probeSerial = entry.1.probeSerial
      · rw [if_pos hserial, Lock.locked_release]
        constructor
        · exact nofun
        · rintro ⟨other, hother, hprobeSerial⟩
          obtain ⟨hother, hne⟩ := (hkept _).mp hother
          exact absurd (hprobeSerial.trans hserial) (hprobe _ hother hne)
      · rw [if_neg hserial]
        refine (describes.locked probeSerial).trans ⟨?_, ?_⟩
        · rintro ⟨other, hother, hprobeSerial⟩
          exact ⟨other, (hkept _).mpr ⟨hother, hid _ hother (hprobeSerial ▸ hserial)⟩, hprobeSerial⟩
        · rintro ⟨other, hother, hprobeSerial⟩
          exact ⟨other, ((hkept _).mp hother).1, hprobeSerial⟩
  · have hunknown : ∀ entry ∈ live, entry.1.leaseId ≠ leaseId := fun entry hentry h => hlive ⟨entry, hentry, h⟩
    have hall : (live.filter fun entry => entry.1.leaseId ≠ leaseId) = live :=
      List.filter_eq_self.mpr fun entry hentry => decide_eq_true (hunknown entry hentry)
    rw [drop_of_unknown describes hunknown, hall]
    exact describes

omit [DecidableEq Task] in
theorem describes_guard (describes : Describes manager live nextId) (guard : Lock Task) :
    Describes { manager with guard } live nextId :=
  ⟨describes.fair, describes.ids_lt, describes.ids_nodup, describes.probes_nodup, describes.byId,
    describes.active, describes.leaseTasks, describes.locked⟩

end manager

section runs

variable {state state' : State Task} {task : Task} {request : Request}

/-- A step gives one task a phase outside of the guard. -/
theorem consistent_update (consistent : Consistent state) {manager : Manager Task}
    {live : List (LeaseInfo × Task)} {nextId : Nat} {taskState : TaskState}
    (describes : Describes manager live nextId) (guard : manager.guard = {})
    (phase : taskState.phase.atGuard = false) :
    Consistent ⟨manager, Function.update state.tasks task taskState, nextId, live⟩ := by
  refine ⟨describes, guard, fun other => ?_⟩
  dsimp only
  by_cases hother : other = task
  · rw [hother, Function.update_self]
    exact phase
  · rw [Function.update_of_ne hother]
    exact consistent.phases other

theorem consistent_grant (consistent : Consistent state) {lock : Lock Task} (fair : lock.Fair)
    (taken : lock.locked = true) (free : (state.manager.lockOf request.probeSerial).locked = false) :
    Consistent (state.grant task request lock) :=
  consistent_update consistent (describes_grant consistent.describes fair taken free request.owner task)
    consistent.guard rfl

theorem consistent_awaitLock (consistent : Consistent state) : Consistent (state.awaitLock task request) := by
  rw [State.awaitLock]
  split
  next => exact consistent_update consistent consistent.describes consistent.guard rfl
  next =>
    split
    next lock htry =>
      obtain ⟨fair, taken, free, _⟩ := Lock.Fair.tryAcquire htry
      exact consistent_grant consistent fair taken free
    next =>
      have fair := (consistent.describes.fair request.probeSerial).enqueue task
      exact consistent_update consistent (describes_setLock consistent.describes fair rfl) consistent.guard rfl

theorem consistent_acquire (consistent : Consistent state) : Consistent (state.acquire task request) := by
  have htry : state.manager.guard.tryAcquire = some { locked := true } := by
    rw [consistent.guard]
    rfl
  rw [State.acquire, htry]
  -- the guard is left before the task can be suspended
  refine consistent_awaitLock ⟨?_, rfl, consistent.phases⟩
  exact describes_guard (describes_setLock consistent.describes (consistent.describes.fair _) rfl) _

theorem release_eq (consistent : Consistent state) (leaseId : Nat) :
    state.release task leaseId = state.releaseWith task leaseId { locked := true } := by
  have htry : state.manager.guard.tryAcquire = some { locked := true } := by
    rw [consistent.guard]
    rfl
  rw [State.release, htry]

theorem consistent_release (consistent : Consistent state) (leaseId : Nat) :
    Consistent (state.release task leaseId) := by
  rw [release_eq consistent]
  exact consistent_update consistent (describes_guard (describes_drop consistent.describes leaseId) _) rfl rfl

/-- What a task may do or what may happen to it keeps the manager consistent. -/
theorem consistent_step {event : Event Task} (consistent : Consistent state)
    (h : step state event = some state') : Consistent state' := by
  have describes := consistent.describes
  have back : ∀ task contexts, Consistent (state.backToBody task contexts) := fun _ _ =>
    consistent_update consistent describes consistent.guard rfl
  cases event with
  | acquire task probeSerial owner expires =>
    rw [step] at h
    split at h
    next =>
      cases Option.some.inj h
      exact consistent_acquire consistent
    next => cases h
  | enter task probeSerial owner expires =>
    rw [step] at h
    split at h
    next =>
      split at h
      next info hactive =>
        split at h
        next =>
          cases Option.some.inj h
          exact back _ _
        next =>
          cases Option.some.inj h
          exact consistent_acquire consistent
      next =>
        cases Option.some.inj h
        exact consistent_acquire consistent
    next => cases h
  | leave task =>
    rw [step] at h
    split at h
    next context contexts hphase hcontexts =>
      cases Option.some.inj h
      split
      next => exact back _ _
      next => exact consistent_release (back _ _) _
    next => cases h
  | release task leaseId =>
    rw [step] at h
    split at h
    next =>
      cases Option.some.inj h
      exact consistent_release consistent leaseId
    next => cases h
  | interrupt task =>
    have hphase := consistent.phases task
    rw [step] at h
    dsimp only at h
    split at h
    next => cases h
    next hguard => rw [hguard] at hphase; cases hphase
    next hguard => rw [hguard] at hphase; cases hphase
    next request hwait =>
      cases Option.some.inj h
      have fair := (describes.fair request.probeSerial).cancel task
      exact consistent_update consistent (describes_setLock describes fair rfl) consistent.guard hphase
    next =>
      cases Option.some.inj h
      exact consistent_update consistent describes consistent.guard hphase
  | wake task =>
    have hphase := consistent.phases task
    rw [step] at h
    dsimp only at h
    split at h
    next => cases h
    next =>
      cases Option.some.inj h
      exact back _ _
    next request hwait =>
      split at h
      next hdone hkept =>
        cases Option.some.inj h
        obtain ⟨free, fair⟩ := (describes.fair request.probeSerial).resume hdone
        exact consistent_grant consistent fair rfl free
      next =>
        cases Option.some.inj h
        have fair := (describes.fair request.probeSerial).abandon task
        have same := Lock.locked_abandon (state.manager.lockOf request.probeSerial) task
        exact consistent_update consistent (describes_setLock describes fair same) consistent.guard rfl
      next =>
        cases Option.some.inj h
        have fair := (describes.fair request.probeSerial).abandon task
        have same := Lock.locked_abandon (state.manager.lockOf request.probeSerial) task
        exact consistent_update consistent (describes_setLock describes fair same) consistent.guard rfl
      next => cases h
    next hguard => rw [hguard] at hphase; cases hphase
    next hguard => rw [hguard] at hphase; cases hphase

omit [DecidableEq Task] in
theorem consistent_start : Consistent (start : State Task) where
  describes :=
    { fair := fun _ => Lock.fair_unlocked
      ids_lt := nofun
      ids_nodup := List.nodup_nil
      probes_nodup := List.nodup_nil
      byId := fun _ _ => ⟨nofun, fun h => nomatch h.2.choose_spec⟩
      active := fun _ _ => ⟨nofun, fun h => nomatch h.2.choose_spec⟩
      leaseTasks := fun _ _ => ⟨nofun, fun h => nomatch h.choose_spec.2⟩
      locked := fun _ => ⟨nofun, fun h => nomatch h.choose_spec.1⟩ }
  guard := rfl
  phases _ := rfl

theorem consistent_of_reached (reached : Reached step anyStep start state) : Consistent state :=
  reached.invariant consistent_start fun _ _ _ consistent _ h => consistent_step consistent h

theorem tasks_backToBody (contexts : List Context) :
    ((state.backToBody task contexts).tasks task).phase = .body ∧
      ((state.backToBody task contexts).tasks task).contexts = contexts := by
  rw [State.backToBody]
  dsimp only
  rw [Function.update_self]
  exact ⟨rfl, rfl⟩

/-- A release takes the lease away in the same turn, and nothing but that lease. -/
theorem release_spec (consistent : Consistent state) (leaseId : Nat) :
    (state.release task leaseId).live = state.live.filter (fun entry => entry.1.leaseId ≠ leaseId) ∧
      ((state.release task leaseId).tasks task).phase = .body ∧
      ((state.release task leaseId).tasks task).contexts = (state.tasks task).contexts ∧
      ((∀ entry ∈ state.live, entry.1.leaseId ≠ leaseId) →
        (state.release task leaseId).manager = state.manager) := by
  rw [release_eq consistent, State.releaseWith]
  let released : State Task := { state with
    manager := { state.manager.drop leaseId with guard := Lock.release { locked := true } }
    live := state.live.filter fun entry => entry.1.leaseId ≠ leaseId }
  obtain ⟨hphase, hcontexts⟩ := @tasks_backToBody _ _ released task (state.tasks task).contexts
  refine ⟨rfl, hphase, hcontexts, fun unknown => ?_⟩
  rw [State.backToBody]
  dsimp only
  rw [drop_of_unknown consistent.describes unknown]
  exact congrArg (fun guard : Lock Task => { state.manager with guard }) consistent.guard.symm

theorem phase_setPhase (phase : Phase) : ((state.setPhase task phase).tasks task).phase = phase := by
  rw [State.setPhase]
  dsimp only
  rw [Function.update_self]

/-- A task that holds the lease of a probe goes on where it enters `lease` for that probe, and is suspended
with nothing granted where it calls `acquire`. -/
theorem own_lease (reached : Reached step anyStep start state) {info : LeaseInfo}
    (held : (info, task) ∈ state.live) (body : (state.tasks task).phase = .body) (owner : PyStr) (expires : Bool) :
    step state (.enter task info.probeSerial owner expires) =
        some (state.backToBody task (⟨info, true⟩ :: (state.tasks task).contexts)) ∧
      ∃ state', step state (.acquire task info.probeSerial owner expires) = some state' ∧
        (state'.tasks task).phase ≠ .body ∧ state'.live = state.live := by
  have consistent := consistent_of_reached reached
  have describes := consistent.describes
  constructor
  · have hactive := (describes.active info.probeSerial info).mpr ⟨rfl, task, held⟩
    have htask := (describes.leaseTasks info.leaseId task).mpr ⟨info, rfl, held⟩
    rw [step, body]
    dsimp only
    rw [hactive]
    dsimp only
    rw [htask, if_pos rfl]
  · have hlocked := (describes.locked info.probeSerial).mpr ⟨(info, task), held, rfl⟩
    refine ⟨_, by rw [step, body], ?_⟩
    have htry : state.manager.guard.tryAcquire = some { locked := true } := by
      rw [consistent.guard]
      rfl
    rw [State.acquire, htry]
    dsimp only
    rw [State.lockFor, State.awaitLock]
    split
    next =>
      refine ⟨?_, rfl⟩
      rw [phase_setPhase]
      intro h
      cases h
    next =>
      have hlock : Manager.lockOf
          { state.manager.setLock info.probeSerial (state.manager.lockOf info.probeSerial) with
          guard := Lock.release { locked := true } } info.probeSerial = state.manager.lockOf info.probeSerial :=
        (lockOf_setLock info.probeSerial).trans (if_pos rfl)
      have htaken : (state.manager.lockOf info.probeSerial).tryAcquire = none := by
        rw [Lock.tryAcquire, if_neg]
        exact fun h => Bool.noConfusion (h.1.symm.trans hlocked)
      dsimp only at hlock ⊢
      rw [hlock, htaken]
      refine ⟨?_, rfl⟩
      rw [phase_setPhase]
      intro h
      cases h

/-- In every state that tasks reach: a probe has one live lease at most, and the dictionaries and the
locks describe the live leases exactly. A release takes its own lease away, and an id that is not live
changes nothing. Leaving a nested `lease` keeps the outer one, and leaving any other releases it. -/
theorem leases_exclusive (reached : Reached step anyStep start state) :
    Describes state.manager state.live state.nextId ∧
      (∀ task leaseId state', step state (.release task leaseId) = some state' →
        state'.live = state.live.filter (fun entry => entry.1.leaseId ≠ leaseId) ∧
          ((∀ entry ∈ state.live, entry.1.leaseId ≠ leaseId) → state'.manager = state.manager)) ∧
      ∀ task context contexts, (state.tasks task).phase = .body →
        (state.tasks task).contexts = context :: contexts →
        ∃ state', step state (.leave task) = some state' ∧ (state'.tasks task).phase = .body ∧
          (state'.tasks task).contexts = contexts ∧
          if context.nested then state'.manager = state.manager ∧ state'.live = state.live
          else ∀ entry ∈ state'.live, entry.1.leaseId ≠ context.info.leaseId := by
  have consistent := consistent_of_reached reached
  refine ⟨consistent.describes, fun task leaseId state' h => ?_, fun task context contexts hphase hcontexts => ?_⟩
  · rw [step] at h
    split at h
    next =>
      cases Option.some.inj h
      obtain ⟨hlive, _, _, hunknown⟩ := @release_spec _ _ _ task consistent leaseId
      exact ⟨hlive, hunknown⟩
    next => cases h
  · rw [step, hphase, hcontexts]
    dsimp only
    refine ⟨_, rfl, ?_⟩
    obtain ⟨hbody, hrest⟩ := @tasks_backToBody _ _ state task contexts
    have left : Consistent (state.backToBody task contexts) :=
      consistent_update consistent consistent.describes consistent.guard rfl
    cases context.nested with
    | true => exact ⟨hbody, hrest, rfl, rfl⟩
    | false =>
      obtain ⟨hlive, hphase', hcontexts', _⟩ := @release_spec _ _ _ task left context.info.leaseId
      refine ⟨hphase', hcontexts'.trans hrest, fun entry hentry => ?_⟩
      have hentry : entry ∈ (State.release _ _ _).live := hentry
      rw [hlive] at hentry
      exact of_decide_eq_true (List.mem_filter.mp hentry).2

end runs

/-- A task waits for the lease of another one, which leaves it and so wakes the first. -/
theorem leases_exclusive_handed_on : ∃ state : State Nat,
    state.live = [(⟨1, PyStr.ofString "probe", PyStr.ofString "second"⟩, 1)] ∧
      Describes state.manager state.live state.nextId := by
  have hrun : ((run step anyStep start
      [.enter 0 (PyStr.ofString "probe") (PyStr.ofString "first") false,
        .enter 0 (PyStr.ofString "probe") (PyStr.ofString "nested") false,
        .acquire 1 (PyStr.ofString "probe") (PyStr.ofString "second") false,
        .leave 0, .release 0 7, .leave 0, .wake 1] : Option (State Nat)).any fun state =>
      state.live = [(⟨1, PyStr.ofString "probe", PyStr.ofString "second"⟩, 1)]) = true := by
    decide
  obtain ⟨state, reached, hlive⟩ := exists_reached_of_run hrun
  exact ⟨state, of_decide_eq_true hlive, (leases_exclusive reached).1⟩

end JLinkMcp.Lease
