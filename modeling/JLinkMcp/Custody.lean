import Mathlib.Data.List.Basic
import Mathlib.Logic.Equiv.Basic

/-! Processes that run under leases, and the tasks and table entries that answer for them: a lease is given
back only when nothing runs under it, and no process is left that nobody answers for. -/

namespace Custody

/-- Where a task stands that starts or stops something. It answers for the process until it knows that the
process has ended, or has given it up. -/
inductive Stage (Key : Type) where
  | free
  | leased (lease : Nat)
  | launched (lease process : Nat)
  | stopping (key : Key) (process : Option Nat)

namespace Stage

variable {Key : Type}

def lease : Stage Key → Option Nat
  | leased lease | launched lease _ => some lease
  | _ => none

def process : Stage Key → Option Nat
  | launched _ process => some process
  | stopping _ process => process
  | _ => none

/-- The task goes on without its process. -/
def without : Stage Key → Stage Key
  | launched lease _ => leased lease
  | stopping key _ => stopping key none
  | stage => stage

theorem lease_without (stage : Stage Key) : stage.without.lease = stage.lease := by
  cases stage <;> rfl

end Stage

/-- The stages of the tasks, the processes and the leases in the table, who takes an entry out of it, which
leases are held, which processes run and under which lease each was launched, and what was issued. -/
structure State (Key : Type) where
  stage : Nat → Stage Key
  table : Key → Option Nat
  leases : Key → Option Nat
  stopper : Key → Option Nat
  held : Nat → Bool
  running : Nat → Bool
  under : Nat → Option Nat
  issued : List Nat
  known : List Key

/-- Nothing was started. -/
def State.initial (Key : Type) : State Key where
  stage _ := .free
  table _ := none
  leases _ := none
  stopper _ := none
  held _ := false
  running _ := false
  under _ := none
  issued := []
  known := []

/-- A task or an entry of the table owns a lease. -/
inductive Owner (Key : Type) where
  | task (task : Nat)
  | entry (key : Key)
  deriving DecidableEq

variable {Key : Type}

def State.owned (state : State Key) : Owner Key → Option Nat
  | .task task => (state.stage task).lease
  | .entry key => state.leases key

/-- The process that is launched and not in the table yet, the one in the table, and the one that is being
stopped. -/
def State.Keeps (state : State Key) : Owner Key → Nat → Prop
  | .task task, process => ∃ lease, state.stage task = .launched lease process
  | .entry key, process => state.table key = some process ∨
      ∃ task, state.stage task = .stopping key (some process)

/-- A lease has one owner, an entry one task that stops it, and every process that runs is kept by the owner
of the lease under which it was launched. -/
structure State.Sound (state : State Key) : Prop where
  unique : ∀ owner other lease, state.owned owner = some lease → state.owned other = some lease → owner = other
  held : ∀ owner lease, state.owned owner = some lease → state.held lease = true ∧ lease ∈ state.issued
  stopping : ∀ task key process, state.stage task = .stopping key process →
    state.stopper key = some task ∧ state.table key = none ∧ key ∈ state.known
  listed : ∀ key, state.table key ≠ none ∨ state.leases key ≠ none → key ∈ state.known
  covered : ∀ process, state.running process = true → process ∈ state.issued ∧
    ∃ owner lease, state.Keeps owner process ∧ state.owned owner = some lease ∧ state.under process = some lease

namespace State

theorem sound_initial (Key : Type) : (initial Key).Sound where
  unique owner other lease h _ := by cases owner <;> cases h
  held owner lease h := by cases owner <;> cases h
  stopping _ _ _ h := by cases h
  listed _ h := by rcases h with h | h <;> exact absurd rfl h
  covered _ h := by cases h

section steps

variable [DecidableEq Key] (state : State Key)

/-- The task stands somewhere else. -/
def put (task : Nat) (stage : Stage Key) : State Key :=
  { state with stage := Function.update state.stage task stage }

/-- The task gets a lease. -/
def grant (task lease : Nat) : State Key :=
  { state.put task (.leased lease) with
    held := Function.update state.held lease true
    issued := lease :: state.issued }

/-- The task launches a process under its lease. -/
def launch (task lease process : Nat) : State Key :=
  { state.put task (.launched lease process) with
    running := Function.update state.running process true
    under := Function.update state.under process (some lease)
    issued := process :: state.issued }

/-- The process and its lease come into the table. -/
def enter (task lease process : Nat) (key : Key) : State Key :=
  { state.put task .free with
    table := Function.update state.table key (some process)
    leases := Function.update state.leases key (some lease)
    known := key :: state.known }

/-- The task takes the process out of the table, to stop it. -/
def take (task : Nat) (key : Key) : State Key :=
  { state.put task (.stopping key (state.table key)) with
    table := Function.update state.table key none
    stopper := Function.update state.stopper key (some task)
    known := key :: state.known }

/-- The task takes the lease out of the table. -/
def forget (task : Nat) (key : Key) : State Key :=
  { state.put task ((state.leases key).elim .free .leased) with
    leases := Function.update state.leases key none
    stopper := Function.update state.stopper key none }

/-- The task gives its lease back. -/
def release (task lease : Nat) : State Key :=
  { state.put task .free with held := Function.update state.held lease false }

/-- The task does not answer for its process any more. -/
def abandon (task : Nat) : State Key := state.put task (state.stage task).without

/-- Some processes have ended. -/
def ending (ended : List Nat) : State Key :=
  { state with running := fun process => state.running process && !ended.contains process }

end steps

section sound

variable {state : State Key} {task lease process : Nat} {key : Key} {stage : Stage Key} {owner : Owner Key}

theorem Sound.lease_held (sound : state.Sound) (running : state.running process = true) :
    ∃ lease, state.under process = some lease ∧ state.held lease = true := by
  obtain ⟨-, owner, lease, -, owned, under⟩ := sound.covered process running
  exact ⟨lease, under, (sound.held owner lease owned).1⟩

/-- A process that runs is in the table, or a task answers for it. -/
theorem Sound.answered (sound : state.Sound) (running : state.running process = true) :
    (∃ key, state.table key = some process) ∨ ∃ task, (state.stage task).process = some process := by
  obtain ⟨-, owner, lease, keeps, -, -⟩ := sound.covered process running
  cases owner with
  | task task =>
    obtain ⟨lease, hstage⟩ := keeps
    exact Or.inr ⟨task, by rw [hstage]; rfl⟩
  | entry key =>
    rcases keeps with htable | ⟨task, hstage⟩
    · exact Or.inl ⟨key, htable⟩
    · exact Or.inr ⟨task, by rw [hstage]; rfl⟩

theorem Sound.ending (sound : state.Sound) (ended : List Nat) : (state.ending ended).Sound where
  unique := sound.unique
  held := sound.held
  stopping := sound.stopping
  listed := sound.listed
  covered process running := sound.covered process (Bool.and_eq_true_iff.mp running).1

theorem owned_put_self : (state.put task stage).owned (.task task) = stage.lease := by
  change (Function.update state.stage task stage task).lease = stage.lease
  rw [Function.update_self]

theorem owned_put_of_ne (h : owner ≠ .task task) : (state.put task stage).owned owner = state.owned owner := by
  cases owner with
  | entry key => rfl
  | task other =>
    have hother : other ≠ task := fun heq => h (congrArg Owner.task heq)
    change (Function.update state.stage task stage other).lease = _
    rw [Function.update_of_ne hother]
    rfl

/-- A task that owns the same lease in its new stage. -/
theorem owned_put_same (h : stage.lease = (state.stage task).lease) :
    (state.put task stage).owned = state.owned := by
  funext owner
  by_cases howner : owner = .task task
  · rw [howner, owned_put_self]
    exact h
  · exact owned_put_of_ne howner

theorem stage_put_self : (state.put task stage).stage task = stage := Function.update_self ..

theorem stage_put_of_ne {other : Nat} (h : other ≠ task) : (state.put task stage).stage other = state.stage other :=
  Function.update_of_ne h ..

/-- What the task does not keep itself is still kept. -/
theorem Keeps.put (keeps : state.Keeps owner process)
    (launched : owner = .task task → ∀ lease, state.stage task ≠ .launched lease process)
    (stopping : ∀ key, state.stage task ≠ .stopping key (some process)) :
    (state.put task stage).Keeps owner process := by
  cases owner with
  | task other =>
    obtain ⟨lease, hstage⟩ := keeps
    have hother : other ≠ task := by
      rintro rfl
      exact launched rfl lease hstage
    exact ⟨lease, (stage_put_of_ne hother).trans hstage⟩
  | entry key =>
    rcases keeps with htable | ⟨other, hstage⟩
    · exact Or.inl htable
    · have hother : other ≠ task := by
        rintro rfl
        exact stopping key hstage
      exact Or.inr ⟨other, (stage_put_of_ne hother).trans hstage⟩

/-- What keeps a process is read off the stages and the table. -/
theorem Keeps.congr {state' : State Key} (keeps : state.Keeps owner process) (hstage : state'.stage = state.stage)
    (htable : state'.table = state.table) : state'.Keeps owner process := by
  cases owner with
  | task other =>
    rw [Keeps, hstage]
    exact keeps
  | entry key =>
    rw [Keeps, hstage, htable]
    exact keeps

theorem stopping_put {other : Nat} {process : Option Nat}
    (h : (state.put task stage).stage other = .stopping key process) :
    (other = task ∧ stage = .stopping key process) ∨ (other ≠ task ∧ state.stage other = .stopping key process) := by
  by_cases hother : other = task
  · subst hother
    exact Or.inl ⟨rfl, stage_put_self.symm.trans h⟩
  · exact Or.inr ⟨hother, (stage_put_of_ne hother).symm.trans h⟩

/-- A process that has ended needs nobody who answers for it. -/
theorem Sound.abandon (sound : state.Sound)
    (ended : ∀ process, (state.stage task).process = some process → state.running process = false) :
    (state.abandon task).Sound := by
  have howned : (state.abandon task).owned = state.owned := owned_put_same (Stage.lease_without _)
  refine ⟨?_, ?_, fun other key process hstage => ?_, sound.listed, fun process running => ?_⟩
  · rw [howned]
    exact sound.unique
  · rw [howned]
    exact sound.held
  · rcases stopping_put hstage with ⟨rfl, hstage⟩ | ⟨-, hstage⟩
    · cases hbefore : state.stage other with
      | stopping before process =>
        rw [hbefore] at hstage
        cases hstage
        exact sound.stopping other _ _ hbefore
      | _ =>
        rw [hbefore] at hstage
        cases hstage
    · exact sound.stopping other key process hstage
  · obtain ⟨hissued, owner, lease, keeps, owned, under⟩ := sound.covered process running
    have hnone : (state.stage task).process ≠ some process := fun hprocess =>
      Bool.false_ne_true ((ended process hprocess).symm.trans running)
    refine ⟨hissued, owner, lease, keeps.put (fun _ lease h => hnone ?_) fun key h => hnone ?_, ?_, under⟩
    · rw [h]
      rfl
    · rw [h]
      rfl
    · rw [howned]
      exact owned

/-- A lease that was not issued before comes to a task that has none. -/
theorem Sound.grant (sound : state.Sound) (free : state.stage task = .free) (fresh : lease ∉ state.issued) :
    (state.grant task lease).Sound := by
  have unowned : ∀ owner, state.owned owner ≠ some lease := fun owner owned =>
    fresh (sound.held owner lease owned).2
  have howned : ∀ owner, owner ≠ .task task → (state.grant task lease).owned owner = state.owned owner :=
    fun owner h => owned_put_of_ne h
  have hself : (state.grant task lease).owned (.task task) = some lease := owned_put_self
  refine ⟨fun owner other l h hother => ?_, fun owner l h => ?_, fun other key process hstage => ?_, sound.listed,
    fun process running => ?_⟩
  · by_cases htask : owner = .task task <;> by_cases hother' : other = .task task
    · exact htask.trans hother'.symm
    · rw [htask, hself] at h
      rw [howned other hother'] at hother
      exact absurd (hother.trans h.symm) (unowned other)
    · rw [hother', hself] at hother
      rw [howned owner htask] at h
      exact absurd (h.trans hother.symm) (unowned owner)
    · rw [howned owner htask] at h
      rw [howned other hother'] at hother
      exact sound.unique owner other l h hother
  · by_cases htask : owner = .task task
    · rw [htask, hself] at h
      cases h
      exact ⟨Function.update_self .., List.mem_cons_self⟩
    · rw [howned owner htask] at h
      obtain ⟨hheld, hissued⟩ := sound.held owner l h
      have hne : l ≠ lease := fun heq => fresh (heq ▸ hissued)
      exact ⟨(Function.update_of_ne hne ..).trans hheld, List.mem_cons_of_mem _ hissued⟩
  · rcases stopping_put hstage with ⟨-, hstage⟩ | ⟨-, hstage⟩
    · cases hstage
    · exact sound.stopping other key process hstage
  · obtain ⟨hissued, owner, l, keeps, owned, under⟩ := sound.covered process running
    have kept : (state.put task (.leased lease)).Keeps owner process :=
      keeps.put (fun _ _ h => by rw [free] at h; cases h) fun _ h => by rw [free] at h; cases h
    have htask : owner ≠ .task task := by
      rintro rfl
      have hlease : state.owned (.task task) = none := by
        change (state.stage task).lease = none
        rw [free]
        rfl
      exact Option.some_ne_none _ (owned.symm.trans hlease)
    exact ⟨List.mem_cons_of_mem _ hissued, owner, l, kept.congr rfl rfl, (howned owner htask).trans owned, under⟩

/-- A task under a lease launches a process. -/
theorem Sound.launch (sound : state.Sound) (leased : state.stage task = .leased lease) :
    (state.launch task lease process).Sound := by
  have howned : (state.launch task lease process).owned = state.owned := by
    refine owned_put_same ?_
    rw [leased]
    rfl
  refine ⟨?_, fun owner l h => ?_, fun other key process hstage => ?_, sound.listed, fun other running => ?_⟩
  · rw [howned]
    exact sound.unique
  · rw [howned] at h
    obtain ⟨hheld, hissued⟩ := sound.held owner l h
    exact ⟨hheld, List.mem_cons_of_mem _ hissued⟩
  · rcases stopping_put hstage with ⟨-, hstage⟩ | ⟨-, hstage⟩
    · cases hstage
    · exact sound.stopping other key process hstage
  · rw [howned]
    by_cases hother : other = process
    · subst hother
      refine ⟨List.mem_cons_self, .task task, lease, ⟨lease, stage_put_self⟩, ?_, Function.update_self ..⟩
      change (state.stage task).lease = some lease
      rw [leased]
      rfl
    · have hrunning : state.running other = true := (Function.update_of_ne hother ..).symm.trans running
      obtain ⟨hissued, owner, l, keeps, owned, under⟩ := sound.covered other hrunning
      have kept : (state.put task (.launched lease process)).Keeps owner other :=
        keeps.put (fun _ _ h => by rw [leased] at h; cases h) fun _ h => by rw [leased] at h; cases h
      exact ⟨List.mem_cons_of_mem _ hissued, owner, l, kept.congr rfl rfl, owned, (Function.update_of_ne hother ..).trans under⟩

/-- Nothing runs under the lease of a task that has launched nothing, so that it may be given back. -/
theorem Sound.release (sound : state.Sound) (leased : state.stage task = .leased lease) :
    (state.release task lease).Sound := by
  have hself : state.owned (.task task) = some lease := by
    change (state.stage task).lease = some lease
    rw [leased]
    rfl
  have others : ∀ owner l, (state.release task lease).owned owner = some l →
      owner ≠ .task task ∧ state.owned owner = some l := by
    intro owner l h
    by_cases howner : owner = .task task
    · have hfree : (state.put task .free).owned owner = none := by
        rw [howner]
        exact owned_put_self
      exact absurd (h.symm.trans hfree) (Option.some_ne_none _)
    · exact ⟨howner, (owned_put_of_ne howner).symm.trans h⟩
  refine ⟨fun owner other l h hother => ?_, fun owner l h => ?_, fun other key process hstage => ?_, sound.listed,
    fun process running => ?_⟩
  · exact sound.unique owner other l (others owner l h).2 (others other l hother).2
  · obtain ⟨howner, owned⟩ := others owner l h
    have hl : l ≠ lease := by
      rintro rfl
      exact howner (sound.unique owner (.task task) l owned hself)
    obtain ⟨hheld, hissued⟩ := sound.held owner l owned
    exact ⟨(Function.update_of_ne hl ..).trans hheld, hissued⟩
  · rcases stopping_put hstage with ⟨-, hstage⟩ | ⟨-, hstage⟩
    · cases hstage
    · exact sound.stopping other key process hstage
  · obtain ⟨hissued, owner, l, keeps, owned, under⟩ := sound.covered process running
    have howner : owner ≠ .task task := by
      rintro rfl
      obtain ⟨_, hstage⟩ := keeps
      rw [leased] at hstage
      cases hstage
    have kept : (state.put task .free).Keeps owner process :=
      keeps.put (fun h => absurd h howner) fun _ h => by rw [leased] at h; cases h
    exact ⟨hissued, owner, l, kept.congr rfl rfl, (owned_put_of_ne howner).trans owned, under⟩

/-- Where leases have only changed hands, each still has one owner, who holds it. -/
theorem Sound.handed (sound : state.Sound) {state' : State Key} (hands : Owner Key → Owner Key)
    (injective : Function.Injective hands)
    (moved : ∀ owner lease, state'.owned owner = some lease → state.owned (hands owner) = some lease) :
    (∀ owner other lease, state'.owned owner = some lease → state'.owned other = some lease → owner = other) ∧
      ∀ owner lease, state'.owned owner = some lease → state.held lease = true ∧ lease ∈ state.issued :=
  ⟨fun owner other lease h hother =>
    injective (sound.unique _ _ lease (moved owner lease h) (moved other lease hother)),
    fun owner lease h => sound.held _ lease (moved owner lease h)⟩

variable [DecidableEq Key]

/-- The process of a task and its lease come into the table under a key that was not known. -/
theorem Sound.enter (sound : state.Sound) (launched : state.stage task = .launched lease process)
    (fresh : key ∉ state.known) : (state.enter task lease process key).Sound := by
  have hself : state.owned (.task task) = some lease := by
    change (state.stage task).lease = some lease
    rw [launched]
    rfl
  have moved : ∀ owner l, (state.enter task lease process key).owned owner = some l →
      state.owned (Equiv.swap (.task task) (.entry key) owner) = some l := by
    intro owner l h
    cases owner with
    | task other =>
      by_cases hother : other = task
      · subst hother
        have hfree : (state.enter other lease process key).owned (.task other) = none := owned_put_self
        exact absurd (h.symm.trans hfree) (Option.some_ne_none _)
      · have hne : Owner.task other ≠ (.task task : Owner Key) := fun heq => hother (Owner.task.inj heq)
        rw [Equiv.swap_apply_of_ne_of_ne hne (by intro heq; cases heq)]
        exact (owned_put_of_ne hne).symm.trans h
    | entry other =>
      change Function.update state.leases key (some lease) other = some l at h
      by_cases hother : other = key
      · subst hother
        rw [Function.update_self] at h
        rw [Equiv.swap_apply_right, hself]
        exact h
      · rw [Function.update_of_ne hother] at h
        rw [Equiv.swap_apply_of_ne_of_ne (by intro heq; cases heq) fun heq => hother (Owner.entry.inj heq)]
        exact h
  obtain ⟨unique, held⟩ := sound.handed _ (Equiv.injective _) moved
  refine ⟨unique, held, fun other k p hstage => ?_, fun k h => ?_, fun other running => ?_⟩
  · rcases stopping_put hstage with ⟨-, hstage⟩ | ⟨-, hstage⟩
    · cases hstage
    · obtain ⟨hstopper, htable, hknown⟩ := sound.stopping other k p hstage
      have hk : k ≠ key := fun heq => fresh (heq ▸ hknown)
      exact ⟨hstopper, (Function.update_of_ne hk ..).trans htable, List.mem_cons_of_mem _ hknown⟩
  · by_cases hk : k = key
    · exact hk ▸ List.mem_cons_self
    · refine List.mem_cons_of_mem _ (sound.listed k ?_)
      exact h.imp (fun h heq => h ((Function.update_of_ne hk ..).trans heq))
        fun h heq => h ((Function.update_of_ne hk ..).trans heq)
  · obtain ⟨hissued, owner, l, keeps, owned, under⟩ := sound.covered other running
    refine ⟨hissued, ?_⟩
    by_cases htask : owner = .task task
    · subst htask
      obtain ⟨_, hstage⟩ := keeps
      rw [launched] at hstage
      cases hstage
      refine ⟨.entry key, lease, Or.inl (Function.update_self ..), Function.update_self .., ?_⟩
      exact under.trans (owned.symm.trans hself)
    · have kept : (state.put task .free).Keeps owner other :=
        keeps.put (fun h => absurd h htask) fun _ h => by rw [launched] at h; cases h
      cases owner with
      | task t =>
        obtain ⟨l', hstage⟩ := kept
        exact ⟨.task t, l, ⟨l', hstage⟩, (owned_put_of_ne htask).trans owned, under⟩
      | entry k =>
        have hk : k ≠ key := by
          rintro rfl
          refine fresh (sound.listed k (Or.inr ?_))
          exact fun heq => Option.some_ne_none _ (owned.symm.trans heq)
        refine ⟨.entry k, l, kept.imp (fun h => (Function.update_of_ne hk ..).trans h) id, ?_, under⟩
        exact (Function.update_of_ne hk ..).trans owned

/-- The only task that stops an entry takes the process out of the table. -/
theorem Sound.take (sound : state.Sound) (free : state.stage task = .free) (alone : state.stopper key = none) :
    (state.take task key).Sound := by
  have howned : (state.take task key).owned = state.owned := by
    refine owned_put_same ?_
    rw [free]
    rfl
  refine ⟨?_, ?_, fun other k process hstage => ?_, fun k h => ?_, fun process running => ?_⟩
  · rw [howned]
    exact sound.unique
  · rw [howned]
    exact sound.held
  · have hput : (state.put task (.stopping key (state.table key))).stage other = .stopping k process := hstage
    rcases stopping_put hput with ⟨rfl, heq⟩ | ⟨-, hstage⟩
    · cases heq
      exact ⟨Function.update_self .., Function.update_self .., List.mem_cons_self⟩
    · obtain ⟨hstopper, htable, hknown⟩ := sound.stopping other k process hstage
      have hk : k ≠ key := by
        rintro rfl
        exact Option.some_ne_none _ (hstopper.symm.trans alone)
      exact ⟨(Function.update_of_ne hk ..).trans hstopper, (Function.update_of_ne hk ..).trans htable,
        List.mem_cons_of_mem _ hknown⟩
  · by_cases hk : k = key
    · exact hk ▸ List.mem_cons_self
    · refine List.mem_cons_of_mem _ (sound.listed k (h.imp (fun h heq => h ?_) id))
      exact (Function.update_of_ne hk ..).trans heq
  · obtain ⟨hissued, owner, lease, keeps, owned, under⟩ := sound.covered process running
    have kept : (state.put task (.stopping key (state.table key))).Keeps owner process :=
      keeps.put (fun _ _ h => by rw [free] at h; cases h) fun _ h => by rw [free] at h; cases h
    refine ⟨hissued, owner, lease, ?_, by rw [howned]; exact owned, under⟩
    cases owner with
    | task _ => exact kept
    | entry k =>
      by_cases hk : k = key
      · subst hk
        refine Or.inr (kept.elim (fun htable => ⟨task, ?_⟩) id)
        exact stage_put_self.trans (congrArg _ htable)
      · exact kept.imp (fun h => (Function.update_of_ne hk ..).trans h) id

/-- The lease of an entry whose process has ended comes to the task that stopped it. -/
theorem Sound.forget (sound : state.Sound) (stopped : state.stage task = .stopping key none) :
    (state.forget task key).Sound := by
  obtain ⟨hstopper, htable, hknown⟩ := sound.stopping task key none stopped
  have hself : (state.forget task key).owned (.task task) = state.leases key := by
    have hput : (state.forget task key).owned (.task task) = ((state.leases key).elim .free .leased : Stage Key).lease :=
      owned_put_self
    rw [hput]
    cases state.leases key <;> rfl
  have moved : ∀ owner l, (state.forget task key).owned owner = some l →
      state.owned (Equiv.swap (.task task) (.entry key) owner) = some l := by
    intro owner l h
    cases owner with
    | task other =>
      by_cases hother : other = task
      · subst hother
        rw [Equiv.swap_apply_left]
        exact hself.symm.trans h
      · have hne : Owner.task other ≠ (.task task : Owner Key) := fun heq => hother (Owner.task.inj heq)
        rw [Equiv.swap_apply_of_ne_of_ne hne (by intro heq; cases heq)]
        exact (owned_put_of_ne hne).symm.trans h
    | entry other =>
      change Function.update state.leases key none other = some l at h
      by_cases hother : other = key
      · subst hother
        rw [Function.update_self] at h
        cases h
      · rw [Function.update_of_ne hother] at h
        rw [Equiv.swap_apply_of_ne_of_ne (by intro heq; cases heq) fun heq => hother (Owner.entry.inj heq)]
        exact h
  obtain ⟨unique, held⟩ := sound.handed _ (Equiv.injective _) moved
  refine ⟨unique, held, fun other k process hstage => ?_, fun k h => ?_, fun process running => ?_⟩
  · rcases stopping_put hstage with ⟨-, hstage⟩ | ⟨hother, hstage⟩
    · cases hlease : state.leases key with
      | none =>
        rw [hlease] at hstage
        cases hstage
      | some lease =>
        rw [hlease] at hstage
        cases hstage
    · obtain ⟨hother', hrest⟩ := sound.stopping other k process hstage
      have hk : k ≠ key := by
        rintro rfl
        exact hother (Option.some.inj (hother'.symm.trans hstopper))
      exact ⟨(Function.update_of_ne hk ..).trans hother', hrest⟩
  · by_cases hk : k = key
    · exact hk ▸ hknown
    · exact sound.listed k (h.imp id fun h heq => h ((Function.update_of_ne hk ..).trans heq))
  · obtain ⟨hissued, owner, lease, keeps, owned, under⟩ := sound.covered process running
    have howner : owner ≠ .task task := by
      rintro rfl
      obtain ⟨_, hstage⟩ := keeps
      rw [stopped] at hstage
      cases hstage
    have hentry : owner ≠ .entry key := by
      rintro rfl
      rcases keeps with hsome | ⟨other, hstage⟩
      · exact Option.some_ne_none _ (hsome.symm.trans htable)
      · obtain ⟨hother, -⟩ := sound.stopping other key _ hstage
        cases Option.some.inj (hother.symm.trans hstopper)
        rw [stopped] at hstage
        cases hstage
    have kept : (state.put task ((state.leases key).elim .free .leased)).Keeps owner process :=
      keeps.put (fun h => absurd h howner) fun _ h => by rw [stopped] at h; cases h
    refine ⟨hissued, owner, lease, kept.congr rfl rfl, ?_, under⟩
    cases owner with
    | task _ => exact (owned_put_of_ne howner).trans owned
    | entry k =>
      exact (Function.update_of_ne (fun heq => hentry (congrArg Owner.entry heq)) ..).trans owned

end sound

end State

end Custody
