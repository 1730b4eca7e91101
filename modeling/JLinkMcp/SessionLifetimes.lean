import JLinkMcp.ServiceBench
import JLinkMcp.SessionCustody

namespace JLinkMcp.Service

open Host Audit Custody StepRuns TaskProgram

section rules

variable {α : Type} {stage : Stage SessionKey} {call : Call} {lease process : Nat} {key : SessionKey}

theorem mayManage_of_outside (outside : call.outside = true) : mayManage stage call := by
  cases call <;> trivial

theorem without_of_settled (settled : stage.process = none) : stage.without = stage := by
  cases stage with
  | launched lease process => cases settled
  | stopping key process =>
    cases settled
    rfl
  | _ => rfl

/-- A task that answers for no process stays where it is. -/
theorem keeps_settled (settled : stage.process = none) (outside : call.outside = true) :
    managing.Keeps (· = stage) call := by
  rintro _ rfl
  refine ⟨mayManage_of_outside outside, fun reply _ => (stageAfter_of_outside outside _).trans ?_⟩
  rw [without_of_settled settled, ite_self]

/-- What a start of a session ends with: the process that it answers for, or its lease alone. -/
def Launches (lease : Nat) (server : α → Nat) : Except ServiceError α → Stage SessionKey → Prop
  | .ok value, stage => stage = .launched lease (server value)
  | .error _, stage => stage = .leased lease

/-- A reply that shows the end of the process. -/
theorem stageAfter_of_ended {reply : Reply call} (outside : call.outside = true)
    (ended : endedBy call reply = some process) (answers : stage.process = some process) :
    stageAfter stage call reply = stage.without := by
  have hparts : parts stage call reply = true := by
    rw [parts, ended, answers, Option.isSome_some, Bool.true_and, beq_self_eq_true, Bool.or_true]
  rw [stageAfter_of_outside outside, hparts]
  rfl

theorem stageAfter_launched (call : Call) (reply : Reply call) (outside : call.outside = true)
    (ended : endedBy call reply = some process) :
    stageAfter (.launched lease process) call reply = .leased lease := stageAfter_of_ended outside ended rfl

theorem launches_pure (value : α) :
    Follows managing (.launched lease process) (pure value : Coroutine α).run (Launches lease fun _ => process) := rfl

theorem launches_then {β : Type} {program : Coroutine α} {next : α → Coroutine β} {server : β → Nat}
    (first : Follows managing (.launched lease process) program.run (Launches lease fun _ => process))
    (rest : ∀ value, Follows managing (.launched lease process) (next value).run (Launches lease server)) :
    Follows managing (.launched lease process) (program >>= next).run (Launches lease server) := by
  refine follows_then first (fun value after h => ?_) fun _ _ h => h
  rw [h]
  exact rest value

theorem launches_sleep : Follows managing (.launched lease process) sleep.run (Launches lease fun _ => process) := by
  refine follows_call trivial fun reply _ => ?_
  cases reply <;> rfl

end rules

section start

variable {registry : TargetRegistry} {lease server : Nat}

theorem launches_terminateServer :
    Follows managing (.launched lease server) (terminateServer server).run (Launches lease fun _ => server) := by
  refine ⟨trivial, fun reply _ => ?_⟩
  cases reply with
  | error error => rfl
  | ok found =>
    cases found with
    | true => rfl
    | false =>
      show stageAfter (.launched lease server) (.terminate server) (.ok false) = .leased lease
      exact stageAfter_launched (.terminate server) (.ok false) rfl rfl

/-- Where the server is not waited for any more, it has ended, or was given up. -/
theorem follows_awaitExit : Follows managing (.launched lease server)
    (ExceptT.mk (.call (Call.awaitExit server)) : Coroutine Unit).run fun _ after => after = .leased lease := by
  refine follows_call trivial fun reply _ => ?_
  cases reply with
  | error error => rfl
  | ok _ => exact stageAfter_launched (.awaitExit server) (.ok ()) rfl rfl

/-- The server was ended, and the start raises. -/
theorem launches_ended {α : Type} {error : ServiceError} {result : α → Nat} :
    Follows managing (.launched lease server) (do
      terminateServer server
      ExceptT.mk (.call (Call.awaitExit server))
      throw error : Coroutine α).run (Launches lease result) := by
  refine launches_then launches_terminateServer fun _ => ?_
  refine follows_then follows_awaitExit (fun _ _ h => h) fun _ _ h => h

theorem launches_waitForPort (port rounds : Nat) :
    Follows managing (.launched lease server) (waitForPort port server rounds).run
      (Launches lease fun _ => server) := by
  induction rounds with
  | zero => exact launches_ended
  | succ rounds ih =>
    refine ⟨trivial, fun exited _ => ?_⟩
    cases exited with
    | true =>
      have ended : managing.next (.launched lease server) (.exited server) true = .leased lease :=
        stageAfter_launched (.exited server) true rfl rfl
      rw [ended]
      refine ⟨trivial, fun reply _ => ?_⟩
      cases reply <;> rfl
    | false =>
      have connects : Follows managing (.launched lease server)
          (ExceptT.mk (.call (Call.connectPort port)) : Coroutine Bool).run (Launches lease fun _ => server) := by
        refine follows_call trivial fun reply _ => ?_
        cases reply <;> rfl
      refine launches_then connects fun connected => ?_
      split
      next => exact launches_pure ()
      next => exact launches_then launches_sleep fun _ => ih

theorem launches_writeController (controller : Nat) (command : PyStr) :
    Follows managing (.launched lease server) (writeController controller command).run
      (Launches lease fun _ => server) := by
  refine follows_call trivial fun reply _ => ?_
  cases reply <;> rfl

theorem launches_discard {α : Type} {program : Coroutine α}
    (h : Follows managing (.launched lease server) program.run (Launches lease fun _ => server)) :
    Follows managing (.launched lease server) (discard program).run (Launches lease fun _ => server) := by
  refine follows_bind h fun result after hafter => ?_
  cases result with
  | ok value => exact follows_done hafter
  | error error => exact follows_done hafter

/-- A start that returns has the server of the session running under its lease. -/
theorem launches_gdbStart (selector : Resolved) (elfPath : Option PyStr) :
    Follows managing (.leased lease) (gdbStart selector elfPath).run (Launches lease GdbSession.server) := by
  have prepares : Maintains managing (· = .leased lease)
      (ExceptT.mk (.call (Call.prepareGdb selector)) : Coroutine GdbPorts) :=
    maintains_mk fun _ h => follows_keeps (keeps_settled rfl rfl) h
  refine follows_then (prepares _ rfl) (fun ports _ h => ?_) fun _ _ h => h
  rw [h]
  have spawns : Follows managing (.leased lease)
      (ExceptT.mk (.call (Call.spawnServer selector ports)) : Coroutine Nat).run (Launches lease id) := by
    refine follows_call ⟨lease, rfl⟩ fun reply _ => ?_
    cases reply <;> rfl
  refine follows_then spawns (fun server _ h => ?_) fun _ _ h => h
  rw [h]
  refine ⟨trivial, fun rounds _ => ?_⟩
  refine launches_then (launches_waitForPort _ rounds) fun _ => ?_
  have opens : Follows managing (.launched lease server)
      (ExceptT.mk (.call Call.openController) : Coroutine Nat).run (Launches lease fun _ => server) := by
    refine follows_call trivial fun reply _ => ?_
    cases reply <;> rfl
  refine launches_then opens fun controller => launches_then ?_ fun _ => ?_
  · cases elfPath with
    | none => exact launches_pure ()
    | some path => exact launches_discard (launches_writeController controller _)
  · refine launches_then (launches_writeController controller _) fun response => ?_
    split
    next =>
      have exits : Follows managing (.launched lease server)
          (ExceptT.mk (.call (Call.exitController controller)) : Coroutine Unit).run
          (Launches lease fun _ => server) := by
        refine follows_call trivial fun reply _ => ?_
        cases reply <;> rfl
      exact launches_then exits fun _ => launches_ended
    next => rfl

theorem launches_guiLaunch (application : PyStr) (arguments : List PyStr) :
    Follows managing (.leased lease) (guiLaunch application arguments).run (Launches lease id) := by
  have prepares : Maintains managing (· = .leased lease)
      (ExceptT.mk (.call (Call.prepareGui application arguments)) : Coroutine Unit) :=
    maintains_mk fun _ h => follows_keeps (keeps_settled rfl rfl) h
  refine follows_then (prepares _ rfl) (fun _ _ h => ?_) fun _ _ h => h
  rw [h]
  have spawns : Follows managing (.leased lease)
      (ExceptT.mk (.call (Call.spawnGui application arguments)) : Coroutine Nat).run (Launches lease id) := by
    refine follows_call ⟨lease, rfl⟩ fun reply _ => ?_
    cases reply <;> rfl
  refine follows_then spawns (fun process _ h => ?_) fun _ _ h => h
  rw [h]
  refine launches_then launches_sleep fun _ => ⟨trivial, fun exited _ => ?_⟩
  cases exited with
  | true =>
    have ended : managing.next (.launched lease process) (.exited process) true = .leased lease :=
      stageAfter_launched (.exited process) true rfl rfl
    rw [id, ended]
    refine ⟨trivial, fun reply _ => ?_⟩
    cases reply <;> rfl
  | false => rfl

end start

section stop

variable {key : SessionKey} {process : Nat} {left : Option Nat}

theorem stageAfter_stopping (call : Call) (reply : Reply call) (outside : call.outside = true)
    (ended : endedBy call reply = some process) (hleft : left = none ∨ left = some process) :
    stageAfter (.stopping key left) call reply = .stopping key none := by
  rcases hleft with rfl | rfl
  · rw [stageAfter_of_outside outside, without_of_settled rfl, ite_self]
  · exact stageAfter_of_ended outside ended rfl

theorem follows_awaitExit_stopping (hleft : left = none ∨ left = some process) :
    Follows managing (.stopping key left) (ExceptT.mk (.call (Call.awaitExit process)) : Coroutine Unit).run
      fun _ after => after = .stopping key none := by
  refine follows_call trivial fun reply _ => ?_
  cases reply with
  | error error => rfl
  | ok _ => exact stageAfter_stopping (.awaitExit process) (.ok ()) rfl rfl hleft

/-- Whatever comes of the end of the process, the task does not answer for it after that. -/
theorem follows_awaitEnd (hleft : left = none ∨ left = some process) :
    Follows managing (.stopping key left) (awaitEnd process).run fun _ after => after = .stopping key none := by
  refine ⟨trivial, fun reply _ => ?_⟩
  cases reply with
  | error error => rfl
  | ok ended =>
    cases ended with
    | true => exact stageAfter_stopping (.awaitExitBriefly process) (.ok true) rfl rfl hleft
    | false =>
      have same : managing.next (.stopping key left) (.awaitExitBriefly process) (.ok false) = .stopping key left := rfl
      rw [same]
      refine ⟨trivial, fun reply _ => ?_⟩
      cases reply with
      | error error => rfl
      | ok _ => exact follows_awaitExit_stopping hleft

/-- An exception of `-exec-continue` is suppressed; where the task is cancelled there, it gives the server up. -/
theorem follows_continue (controller : Nat) (resume : Bool) : Follows managing (.stopping key (some process))
    (suppressing (if resume then discard (writeController controller (PyStr.ofString "-exec-continue"))
      else pure ())).run fun result after => (∀ value, result = .ok value → after = .stopping key (some process)) ∧
        ∀ error, result = .error error → after = .stopping key none := by
  cases resume with
  | false => exact ⟨fun _ _ => rfl, fun _ h => by cases h⟩
  | true =>
    refine ⟨trivial, fun reply _ => ?_⟩
    cases reply with
    | ok items => exact ⟨fun _ _ => rfl, fun _ h => by cases h⟩
    | error error =>
      cases error with
      | cancelled => exact ⟨fun _ h => (by cases h), fun _ _ => rfl⟩
      | _ => exact ⟨fun _ _ => rfl, fun _ h => by cases h⟩

theorem follows_gdbStop (taken : Option SessionInfo) (resume : Bool) :
    Follows managing (.stopping key (taken.map fun info => info.session.server)) (gdbStop taken resume).run
      fun _ after => after = .stopping key none := by
  cases taken with
  | none => rfl
  | some info =>
    refine follows_then (follows_continue _ resume) (fun value after h => ?_) fun error after h => h.2 error rfl
    rw [h.1 value rfl]
    have exits : Follows managing (.stopping key (some info.session.server))
        (ExceptT.mk (.call (Call.exitController info.session.controller)) : Coroutine Unit).run
        fun _ after => after = .stopping key (some info.session.server) :=
      follows_call trivial fun _ _ => rfl
    refine follows_ensuring exits fun _ after h => ?_
    rw [h]
    refine ⟨trivial, fun exited _ => ?_⟩
    cases exited with
    | true => exact stageAfter_stopping (.exited info.session.server) true rfl rfl (Or.inr rfl)
    | false =>
      refine ⟨trivial, fun reply _ => ?_⟩
      cases reply with
      | error error => rfl
      | ok found =>
        cases found with
        | true => exact follows_awaitEnd (Or.inr rfl)
        | false =>
          have ended : managing.next (.stopping key (some info.session.server))
              (.terminate info.session.server) (.ok false) = .stopping key none :=
            stageAfter_stopping (.terminate info.session.server) (.ok false) rfl rfl (Or.inr rfl)
          have stays : managing.next (.stopping key (some info.session.server)) (.exited info.session.server) false =
            .stopping key (some info.session.server) := rfl
          rw [stays, ended]
          exact follows_awaitEnd (Or.inl rfl)

theorem follows_guiStop (taken : Option (Resolved × Nat)) :
    Follows managing (.stopping key (taken.map Prod.snd)) (guiStop taken).run
      fun _ after => after = .stopping key none := by
  cases taken with
  | none => rfl
  | some entry =>
    refine ⟨trivial, fun exited _ => ?_⟩
    cases exited with
    | true => exact stageAfter_stopping (.exited entry.2) true rfl rfl (Or.inr rfl)
    | false =>
      refine ⟨trivial, fun reply _ => ?_⟩
      cases reply with
      | error error => rfl
      | ok found =>
        cases found with
        | true => exact follows_awaitEnd (Or.inr rfl)
        | false => exact stageAfter_stopping (.terminate entry.2) (.ok false) rfl rfl (Or.inr rfl)

/-- The lease of the session that was stopped is released. -/
theorem follows_releaseEntry (forgotten : Option Nat) :
    Follows managing (forgotten.elim .free .leased) (releaseEntry forgotten).run fun _ after => after = .free := by
  cases forgotten with
  | none => rfl
  | some lease => exact ⟨rfl, fun _ _ => rfl⟩

end stop

section operations

variable {registry : TargetRegistry}

/-- A part of an operation at which its task has neither a lease nor a process. -/
abbrev Unburdened {α : Type} (program : Coroutine α) : Prop := Maintains managing (· = .free) program

theorem maintains_preflight {lease : Nat} (resolved : Resolved) (leaseId : Nat) :
    Maintains managing (· = .leased lease) (identityPreflight registry resolved leaseId) :=
  maintains_identityPreflight (keeps_settled rfl rfl) (fun _ => keeps_settled rfl rfl) leaseId

theorem unburdened_append (entry : AppendCall) : Unburdened (append entry) :=
  maintains_append (keeps_settled rfl rfl)

theorem unburdened_stamp : Unburdened (ask .stamp) := maintains_ask (keeps_settled rfl rfl)

theorem unburdened_resolve (selector : DeviceSelector) : Unburdened (resolveSelectorWait registry selector) :=
  maintains_resolveSelectorWait (keeps_settled rfl rfl) (keeps_settled rfl rfl) (keeps_settled rfl rfl) selector

/-- A lease that is released where the session does not come into the table. -/
theorem follows_orRelease {α : Type} {lease : Nat} {body : Coroutine α}
    (h : Follows managing (.leased lease) body.run fun result after =>
      (∀ value, result = .ok value → after = .free) ∧ ∀ error, result = .error error → after = .leased lease) :
    Follows managing (.leased lease) (orRelease lease body).run fun _ after => after = .free := by
  refine follows_catching h (fun value after hafter => hafter.1 value rfl) (fun error after hafter _ => ?_)
    fun _ _ _ hclause => by cases hclause
  rw [hafter.2 error rfl]
  exact ⟨rfl, fun _ _ => rfl⟩

/-- What a start does under its lease, up to the entry in the table. -/
theorem follows_underLease {α β γ : Type} {lease : Nat} {preflight : Coroutine α} {launch : Coroutine β}
    {server : β → Nat} {enter : α → β → Coroutine γ} (reads : Maintains managing (· = .leased lease) preflight)
    (launches : Follows managing (.leased lease) launch.run (Launches lease server))
    (enters : ∀ identity launched, Follows managing (.launched lease (server launched))
      (enter identity launched).run fun result after => after = .free ∧ ∀ error, result ≠ .error error) :
    Follows managing (.leased lease) (do
      let identity ← preflight
      let launched ← launch
      enter identity launched).run fun result after =>
        (∀ value, result = .ok value → after = .free) ∧ ∀ error, result = .error error → after = .leased lease := by
  refine follows_then (reads _ rfl) (fun identity _ h => ?_) fun _ _ h => ⟨fun _ heq => (by cases heq), fun _ _ => h⟩
  rw [h]
  refine follows_then launches (fun launched _ h => ?_) fun _ _ h => ⟨fun _ heq => (by cases heq), fun _ _ => h⟩
  rw [h]
  exact (enters identity launched).mono fun _ _ h => ⟨fun _ _ => h.1, fun error heq => absurd heq (h.2 error)⟩

/-- A lease that may not be got. -/
theorem follows_acquire {α : Type} {probeSerial owner : PyStr} {next : Nat → Coroutine α}
    (rest : ∀ lease, Follows managing (.leased lease) (next lease).run fun _ after => after = .free) :
    Follows managing .free (do
      let lease ← ExceptT.mk (.call (Call.acquire probeSerial owner))
      next lease : Coroutine α).run fun _ after => after = .free := by
  refine ⟨rfl, fun reply _ => ?_⟩
  cases reply with
  | error error => rfl
  | ok lease => exact rest lease

theorem unburdened_startGdb (selector : DeviceSelector) (elfPath : Option PyStr) :
    Unburdened (startGdb registry selector elfPath) := by
  refine maintains_then (unburdened_resolve selector) fun resolved => ?_
  refine maintains_then (maintains_allowedPath? (fun _ => keeps_settled rfl rfl) elfPath) fun path => ?_
  rintro _ rfl
  refine follows_acquire fun lease => ?_
  have opens : Follows managing (.leased lease) (orRelease lease do
      let identity ← identityPreflight registry resolved lease
      let session ← gdbStart resolved path
      ask (.openGdb session lease identity.observed)).run fun _ after => after = .free := by
    refine follows_orRelease (follows_underLease (maintains_preflight resolved lease)
      (launches_gdbStart resolved path) fun identity session => ⟨rfl, fun _ _ => ⟨rfl, fun _ h => ?_⟩⟩)
    cases h
  refine follows_then opens (fun info _ h => ?_) fun _ _ h => h
  have upserts : Unburdened (ExceptT.mk (.call (Call.upsertSession info))) :=
    maintains_mk fun _ h => follows_keeps (keeps_settled rfl rfl) h
  exact maintains_then upserts (fun _ => maintains_then unburdened_stamp fun stamp =>
    maintains_then (unburdened_append _) fun _ => maintains_pure info) _ h

theorem unburdened_startGui (application : PyStr) (arguments : List PyStr) (selector : DeviceSelector) :
    Unburdened (startGui registry application arguments selector) := by
  refine maintains_then (unburdened_resolve selector) fun resolved => ?_
  rintro _ rfl
  refine follows_acquire fun lease => ?_
  refine follows_then (follows_orRelease (follows_underLease (maintains_preflight resolved lease)
    (launches_guiLaunch application arguments) fun identity process => ⟨rfl, fun _ _ => ⟨rfl, fun _ h => ?_⟩⟩))
    (fun opened _ h => ?_) fun _ _ h => h
  · cases h
  · exact maintains_then unburdened_stamp (fun stamp => maintains_then (unburdened_append _) fun _ =>
      maintains_pure _) _ h

theorem unburdened_stopGdb (sessionId : Nat) (resume : Bool) : Unburdened (stopGdb sessionId resume) := by
  rintro _ rfl
  refine ⟨rfl, fun taken _ => ?_⟩
  have stops : Follows managing (.stopping (.gdb sessionId) (taken.map fun info => info.session.server)) (do
      gdbStop taken resume
      ExceptT.mk (.call (Call.deleteSession sessionId)) : Coroutine Unit).run
      fun _ after => after = .stopping (.gdb sessionId) none := by
    refine follows_then (follows_gdbStop taken resume) (fun _ _ h => ?_) fun _ _ h => h
    rw [h]
    exact follows_keeps (keeps_settled rfl rfl) rfl
  have releases : Follows managing (.stopping (.gdb sessionId) (taken.map fun info => info.session.server))
      (ensuring (do
        gdbStop taken resume
        ExceptT.mk (.call (Call.deleteSession sessionId))) do releaseEntry (← ask (.forgetGdb sessionId))).run
      fun _ after => after = .free := by
    refine follows_ensuring stops fun _ _ h => ?_
    rw [h]
    exact ⟨rfl, fun forgotten _ => follows_releaseEntry forgotten⟩
  refine follows_then releases (fun _ _ h => ?_) fun _ _ h => h
  rw [h]
  cases taken with
  | none => rfl
  | some info => exact maintains_then unburdened_stamp (fun _ => unburdened_append _) _ rfl

theorem unburdened_stopGui (sessionId : Nat) : Unburdened (stopGui sessionId) := by
  rintro _ rfl
  refine ⟨rfl, fun taken _ => ?_⟩
  have releases : Follows managing (.stopping (.gui sessionId) (taken.map Prod.snd))
      (ensuring (guiStop taken) do releaseEntry (← ask (.forgetGui sessionId))).run fun _ after => after = .free := by
    refine follows_ensuring (follows_guiStop taken) fun _ _ h => ?_
    rw [h]
    exact ⟨rfl, fun forgotten _ => follows_releaseEntry forgotten⟩
  refine follows_then releases (fun _ _ h => ?_) fun _ _ h => h
  rw [h]
  cases taken with
  | none => rfl
  | some entry => exact maintains_then unburdened_stamp (fun _ => unburdened_append _) _ rfl

theorem follows_toTask {α : Type} {program : Coroutine α} (h : Unburdened program) :
    Follows managing .free (toTask program) fun _ after => after = .free :=
  follows_bind (h _ rfl) fun _ _ hafter => follows_done hafter

/-- Every operation ends without a lease or a process of its own. -/
theorem follows_sessionOperation (operation : SessionOperation) :
    Follows managing .free (operation.program registry) fun _ after => after = .free := by
  cases operation with
  | startGdb selector elfPath => exact follows_toTask (unburdened_startGdb selector elfPath)
  | stopGdb sessionId resume => exact follows_toTask (unburdened_stopGdb sessionId resume)
  | startGui application arguments selector =>
    exact follows_toTask (unburdened_startGui application arguments selector)
  | stopGui sessionId => exact follows_toTask (unburdened_stopGui sessionId)

/-- What the tasks know of their leases and processes is true of the world. -/
structure Agrees (world : SessionWorld) (stages : Nat → Stage SessionKey) : Prop where
  kept : world.Kept
  stages : world.custody.stage = stages

theorem respects_sessionSystem (registry : TargetRegistry) :
    System.Respects (sessionSystem registry) managing .free Agrees Orderly where
  programs operation := follows_sessionOperation operation
  answers world stages task call choice answer agrees may orderly hanswer := by
    obtain ⟨reply, hreply, rfl⟩ := Option.map_eq_some_iff.mp hanswer
    have hstage : (world.ending choice.ended).custody.stage = stages := agrees.stages
    rw [← agrees.stages] at may
    have advanced := advances (agrees.kept.ending choice.ended) may hreply (orderly.1 reply hreply) orderly.2
    refine ⟨trivial, advanced.kept, advanced.stage.trans ?_⟩
    rw [hstage]
    rfl

end operations

/-- The process is in the table of its backend. -/
def SessionWorld.InTable (world : SessionWorld) (process : Nat) : Prop :=
  (∃ id info, world.gdb id = some info ∧ info.session.server = process) ∨
    ∃ id selector, world.gui id = some (selector, process)

/-- A task is in the middle of starting or stopping the process. -/
def Handles {registry : TargetRegistry} (pool : Pool (sessionSystem registry)) (task process : Nat) : Prop :=
  pool.running task ≠ none ∧ (pool.world.custody.stage task).process = some process

/-- In every orderly run a process runs only under a lease that is held, and is in the table or handled by a
task that has not ended. -/
theorem session_processes_covered {registry : TargetRegistry} {pool : Pool (sessionSystem registry)}
    (reached : Reached (sessionSystem registry).step (System.allowing Orderly)
      (System.idle SessionWorld.initial) pool) {process : Nat}
    (running : pool.world.custody.running process = true) :
    (∃ lease, pool.world.custody.under process = some lease ∧ pool.world.custody.held lease = true) ∧
      (pool.world.InTable process ∨ ∃ task, Handles pool task process) := by
  have start : Agrees SessionWorld.initial fun _ => .free :=
    ⟨⟨State.sound_initial SessionKey, fun _ => rfl, fun _ => rfl⟩, rfl⟩
  obtain ⟨stages, agrees, follows⟩ :=
    System.disciplined_of_reached (respects_sessionSystem registry) start reached
  refine ⟨agrees.kept.sound.lease_held running, ?_⟩
  rcases agrees.kept.sound.answered running with ⟨key, htable⟩ | ⟨task, hprocess⟩
  · refine Or.inl ?_
    cases key with
    | gdb id =>
      obtain ⟨info, hinfo, hserver⟩ := Option.map_eq_some_iff.mp ((agrees.kept.gdb id).symm.trans htable)
      exact Or.inl ⟨id, info, hinfo, hserver⟩
    | gui id =>
      obtain ⟨⟨selector, other⟩, hentry, rfl⟩ := Option.map_eq_some_iff.mp ((agrees.kept.gui id).symm.trans htable)
      exact Or.inr ⟨id, selector, hentry⟩
  · refine Or.inr ⟨task, fun hidle => ?_, hprocess⟩
    have hfree := follows task
    rw [hidle] at hfree
    have hstage : pool.world.custody.stage task = .free := (congrFun agrees.stages task).trans hfree
    rw [hstage] at hprocess
    cases hprocess

section runs

/-- A bench on which the processes and the leases are numbers, and `connectPort` ends so. -/
def sessionBench (connected : Except ServiceError Bool) : (call : Call) → Reply call
  | .acquire _ _ => .ok 1
  | .spawnServer _ _ => .ok 2
  | .connectPort _ => connected
  | .openGdb session _ _ => ⟨3, session, PyStr.ofString "now"⟩
  | call => Giga.bench 0 call

/-- One task starts a GDB session, and goes on for so many turns. -/
def startEvents (connected : Except ServiceError Bool) (turns : Nat) :
    List (Event (sessionSystem [Giga.gigaR1])) :=
  .start 0 (.startGdb {} none) :: List.replicate turns (.reply 0 ⟨[], sessionBench connected⟩)

instance orderlyDecidable (world : SessionWorld) (task : Nat) (call : Call) (choice : Choice) :
    Decidable (Orderly world task call choice) := inferInstanceAs (Decidable (_ ∧ _))

instance orderlyStepDecidable (pool : Pool (sessionSystem [Giga.gigaR1]))
    (event : Event (sessionSystem [Giga.gigaR1])) : Decidable (System.allowing Orderly pool event) :=
  @System.allowingDecidable (sessionSystem [Giga.gigaR1]) Orderly orderlyDecidable pool event

/-- The server runs, and its lease is held or not. -/
def serverShown (held : Bool) (pool : Pool (sessionSystem [Giga.gigaR1])) : Bool :=
  pool.world.custody.running 2 && pool.world.custody.under 2 == some 1 && pool.world.custody.held 1 == held

/-- A GDB server whose session was opened. -/
theorem gdbServer_covered : ∃ pool, Reached (sessionSystem [Giga.gigaR1]).step (System.allowing Orderly)
    (System.idle SessionWorld.initial) pool ∧ pool.world.custody.running 2 = true ∧
      (∃ lease, pool.world.custody.under 2 = some lease ∧ pool.world.custody.held lease = true) ∧
      (pool.world.InTable 2 ∨ ∃ task, Handles pool task 2) := by
  have shown : (run (sessionSystem [Giga.gigaR1]).step (System.allowing Orderly)
      (System.idle SessionWorld.initial) (startEvents (.ok true) 13)).any (serverShown true) = true := by
    decide +kernel
  obtain ⟨pool, reached, hshown⟩ := exists_reached_of_run shown
  have running := (Bool.and_eq_true_iff.mp (Bool.and_eq_true_iff.mp hshown).1).1
  exact ⟨pool, reached, running, session_processes_covered reached running⟩

/-- Where the start is cancelled while it waits for the port, the lease is released and the server runs on. -/
theorem cancelledStart_leaves_server : ∃ pool lease, Reached (sessionSystem [Giga.gigaR1]).step anyStep
    (System.idle SessionWorld.initial) pool ∧ pool.world.custody.running 2 = true ∧
      pool.world.custody.under 2 = some lease ∧ pool.world.custody.held lease = false := by
  have shown : (run (sessionSystem [Giga.gigaR1]).step anyStep (System.idle SessionWorld.initial)
      (startEvents (.error .cancelled) 11)).any (serverShown false) = true := by
    decide +kernel
  obtain ⟨pool, reached, hshown⟩ := exists_reached_of_run shown
  obtain ⟨hserver, hheld⟩ := Bool.and_eq_true_iff.mp hshown
  obtain ⟨running, hunder⟩ := Bool.and_eq_true_iff.mp hserver
  exact ⟨pool, 1, reached, running, eq_of_beq hunder, eq_of_beq hheld⟩

end runs

end JLinkMcp.Service
