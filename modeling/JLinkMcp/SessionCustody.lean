import JLinkMcp.Custody
import JLinkMcp.ServiceRules

namespace JLinkMcp.Service

open Host Audit Custody StepRuns TaskProgram

/-- An entry of the tables of `GDBBackend` and `GUIBackend`, and of the leases that the service keeps for
their sessions. -/
inductive SessionKey where
  | gdb (id : Nat)
  | gui (id : Nat)
  deriving DecidableEq

/-- The process that the reply shows to have ended. -/
def endedBy : (call : Call) → Reply call → Option Nat
  | .exited process, true => some process
  | .awaitExit process, .ok _ => some process
  | .awaitExitBriefly process, .ok true => some process
  | .terminate process, .ok false => some process
  | _, _ => none

/-- What is raised makes the task go on without its process: where it starts a session everything does, where
it stops one not the end of the controller, nor an exception that `-exec-continue` raises. -/
def givesUp : Stage SessionKey → (call : Call) → Reply call → Bool
  | .launched _ _, call, reply => raises call reply
  | .stopping _ _, .exitController _, _ => false
  | .stopping _ _, .controllerWrite _ _, .error error => !error.isException
  | .stopping _ _, call, reply => raises call reply
  | _, _, _ => false

/-- The task does not answer for its process any more after the reply. -/
def parts (stage : Stage SessionKey) (call : Call) (reply : Reply call) : Bool :=
  givesUp stage call reply || (endedBy call reply).isSome && endedBy call reply == stage.process

/-- A call that has nothing to do with leases, new processes and the tables. -/
def Call.outside : Call → Bool
  | .enter _ _ | .leave _ | .acquire _ _ | .release _ | .spawnServer _ _ | .spawnGui _ _ | .openGdb _ _ _ |
    .openGui _ _ _ | .takeGdb _ | .takeGui _ | .forgetGdb _ | .forgetGui _ => false
  | _ => true

/-- A lease is released by a task that has it and answers for no process; a lease is forgotten by the task
that stops the session, after its process. -/
def mayManage : Stage SessionKey → Call → Prop
  | stage, .acquire _ _ | stage, .takeGdb _ | stage, .takeGui _ => stage = .free
  | stage, .release lease => stage = .leased lease
  | stage, .spawnServer _ _ | stage, .spawnGui _ _ => ∃ lease, stage = .leased lease
  | stage, .openGdb session lease _ => stage = .launched lease session.server
  | stage, .openGui _ process lease => stage = .launched lease process
  | stage, .forgetGdb id => stage = .stopping (.gdb id) none
  | stage, .forgetGui id => stage = .stopping (.gui id) none
  | _, .enter _ _ | _, .leave _ => False
  | _, _ => True

/-- Where the task stands after the reply. -/
def stageAfter (stage : Stage SessionKey) : (call : Call) → Reply call → Stage SessionKey
  | .acquire _ _, .ok lease => .leased lease
  | .release _, _ => .free
  | .spawnServer _ _, .ok process | .spawnGui _ _, .ok process =>
    stage.lease.elim stage fun lease => .launched lease process
  | .openGdb _ _ _, _ | .openGui _ _ _, _ => .free
  | .takeGdb id, taken => .stopping (.gdb id) (taken.map fun info => info.session.server)
  | .takeGui id, taken => .stopping (.gui id) (taken.map Prod.snd)
  | .forgetGdb _, lease | .forgetGui _, lease => lease.elim .free .leased
  | call, reply => if parts stage call reply then stage.without else stage

/-- How a task deals with its lease and its process. -/
def managing : Discipline Call Reply (Stage SessionKey) where
  may := mayManage
  replied _ _ _ := True
  next := stageAfter

/-- The operations that start and stop sessions. -/
inductive SessionOperation where
  | startGdb (selector : DeviceSelector) (elfPath : Option PyStr)
  | stopGdb (sessionId : Nat) (resume : Bool)
  | startGui (application : PyStr) (arguments : List PyStr) (selector : DeviceSelector)
  | stopGui (sessionId : Nat)

/-- The coroutine of a task; what it ends with is not looked at. -/
def toTask {α : Type} (program : Coroutine α) : Task Call Reply Unit := program.run.bind fun _ => .done ()

def SessionOperation.program (registry : TargetRegistry) : SessionOperation → Task Call Reply Unit
  | .startGdb selector elfPath => toTask (Service.startGdb registry selector elfPath)
  | .stopGdb sessionId resume => toTask (Service.stopGdb sessionId resume)
  | .startGui application arguments selector => toTask (Service.startGui registry application arguments selector)
  | .stopGui sessionId => toTask (Service.stopGui sessionId)

/-- Who answers for the processes, and the tables of the two backends. -/
structure SessionWorld where
  custody : State SessionKey
  gdb : Nat → Option SessionInfo
  gui : Nat → Option (Resolved × Nat)

/-- What the rest of the world decides: which processes have ended, and what it replies. -/
structure Choice where
  ended : List Nat
  reply : (call : Call) → Reply call

/-- A number that was not issued before. -/
def fresh (issued : List Nat) : Except ServiceError Nat → Option (Except ServiceError Nat)
  | .ok number => if number ∈ issued then none else some (.ok number)
  | .error error => some (.error error)

namespace SessionWorld

/-- A reply that shows a process to have ended comes where it has. -/
def truthful (world : SessionWorld) (call : Call) (reply : Reply call) : Option (Reply call) :=
  if (endedBy call reply).any world.custody.running then none else some reply

/-- A session gets an id that was neither given out nor asked for. -/
def unknown {α : Type} (world : SessionWorld) (key : SessionKey) (value : α) : Option α :=
  if key ∈ world.custody.known then none else some value

/-- A process was launched under the lease of the task. -/
def launched (world : SessionWorld) (task process : Nat) : SessionWorld :=
  { world with
    custody := (world.custody.stage task).lease.elim world.custody fun lease =>
      world.custody.launch task lease process }

/-- The reply to a call: the tables and the processes decide some, and a process that runs is not waited
for to its end. -/
def reply (world : SessionWorld) (choice : Choice) : (call : Call) → Option (Reply call)
  | .acquire probeSerial owner => fresh world.custody.issued (choice.reply (.acquire probeSerial owner))
  | .spawnServer selector ports => fresh world.custody.issued (choice.reply (.spawnServer selector ports))
  | .spawnGui application arguments => fresh world.custody.issued (choice.reply (.spawnGui application arguments))
  | .openGdb session lease identity =>
    let info : SessionInfo := choice.reply (.openGdb session lease identity)
    world.unknown (.gdb info.sessionId) { info with session }
  | .openGui selector process lease =>
    let id : Nat := choice.reply (.openGui selector process lease)
    world.unknown (.gui id) id
  | .takeGdb id => some (world.gdb id)
  | .takeGui id => some (world.gui id)
  | .forgetGdb id => some (world.custody.leases (.gdb id))
  | .forgetGui id => some (world.custody.leases (.gui id))
  | .exited process => some (!world.custody.running process)
  | call => world.truthful call (choice.reply call)

/-- The world after the reply. -/
def after (world : SessionWorld) (task : Nat) : (call : Call) → Reply call → SessionWorld
  | .acquire _ _, .ok lease => { world with custody := world.custody.grant task lease }
  | .release lease, _ => { world with custody := world.custody.release task lease }
  | .spawnServer _ _, .ok process | .spawnGui _ _, .ok process => world.launched task process
  | .openGdb session lease _, info =>
    { world with
      custody := world.custody.enter task lease session.server (.gdb info.sessionId)
      gdb := Function.update world.gdb info.sessionId (some info) }
  | .openGui selector process lease, id =>
    { world with
      custody := world.custody.enter task lease process (.gui id)
      gui := Function.update world.gui id (some (selector, process)) }
  | .takeGdb id, _ =>
    { world with
      custody := world.custody.take task (.gdb id)
      gdb := Function.update world.gdb id none }
  | .takeGui id, _ =>
    { world with
      custody := world.custody.take task (.gui id)
      gui := Function.update world.gui id none }
  | .forgetGdb id, _ => { world with custody := world.custody.forget task (.gdb id) }
  | .forgetGui id, _ => { world with custody := world.custody.forget task (.gui id) }
  | call, reply =>
    if parts (world.custody.stage task) call reply then { world with custody := world.custody.abandon task }
    else world

/-- Some processes have ended since the last turn. -/
def ending (world : SessionWorld) (ended : List Nat) : SessionWorld :=
  { world with custody := world.custody.ending ended }

/-- One turn of a task. -/
def answer (world : SessionWorld) (task : Nat) (call : Call) (choice : Choice) :
    Option (SessionWorld × Reply call) :=
  ((world.ending choice.ended).reply choice call).map fun reply =>
    ((world.ending choice.ended).after task call reply, reply)

def initial : SessionWorld := ⟨.initial SessionKey, fun _ => none, fun _ => none⟩

end SessionWorld

/-- The session that a call takes out of the table, to stop it. -/
def Call.takes : Call → Option SessionKey
  | .takeGdb id => some (.gdb id)
  | .takeGui id => some (.gui id)
  | _ => none

/-- No task gives up a process that still runs, and none begins to stop a session that another one is
stopping. -/
def Orderly (world : SessionWorld) (task : Nat) (call : Call) (choice : Choice) : Prop :=
  (∀ reply ∈ (world.ending choice.ended).reply choice call,
    givesUp (world.custody.stage task) call reply = true → ∀ process ∈ (world.custody.stage task).process,
      (world.ending choice.ended).custody.running process = false) ∧
    ∀ key ∈ call.takes, world.custody.stopper key = none

/-- The tasks that start and stop sessions. -/
def sessionSystem (registry : TargetRegistry) : System where
  World := SessionWorld
  Call := Call
  Reply := Reply
  Operation := SessionOperation
  Choice := Choice
  program := SessionOperation.program registry
  answer := SessionWorld.answer

/-- The tables of the backends hold the processes that are answered for. -/
structure SessionWorld.Kept (world : SessionWorld) : Prop where
  sound : world.custody.Sound
  gdb : ∀ id, world.custody.table (.gdb id) = (world.gdb id).map fun info => info.session.server
  gui : ∀ id, world.custody.table (.gui id) = (world.gui id).map Prod.snd

section turns

variable {world : SessionWorld} {task : Nat} {call : Call} {reply : Reply call} {choice : Choice}

theorem SessionWorld.Kept.ending (kept : world.Kept) (ended : List Nat) : (world.ending ended).Kept where
  sound := kept.sound.ending ended
  gdb := kept.gdb
  gui := kept.gui

theorem fresh_ok {issued : List Nat} {result : Except ServiceError Nat} {number : Nat}
    (h : fresh issued result = some (.ok number)) : number ∉ issued := by
  cases result with
  | error error => cases h
  | ok other =>
    rw [fresh] at h
    split at h
    next => cases h
    next hfresh =>
      cases h
      exact hfresh

theorem after_of_outside (outside : call.outside = true) : world.after task call reply =
    if parts (world.custody.stage task) call reply then { world with custody := world.custody.abandon task }
    else world := by
  cases call <;> first | rfl | cases outside

theorem stageAfter_of_outside (outside : call.outside = true) (stage : Stage SessionKey) :
    stageAfter stage call reply = if parts stage call reply then stage.without else stage := by
  cases call <;> first | rfl | cases outside

theorem ended_of_truthful {process : Nat} {given : Reply call} (h : world.truthful call given = some reply)
    (ended : endedBy call reply = some process) : world.custody.running process = false := by
  rw [SessionWorld.truthful] at h
  split at h
  next => cases h
  next hrunning =>
    cases Option.some.inj h
    rw [ended] at hrunning
    exact Bool.eq_false_iff.mpr hrunning

/-- A process that the reply shows to have ended does not run. -/
theorem ended_of_reply {process : Nat} (h : world.reply choice call = some reply)
    (ended : endedBy call reply = some process) : world.custody.running process = false := by
  cases call with
  | exited other =>
    cases Option.some.inj h
    cases hrunning : world.custody.running other with
    | true =>
      rw [hrunning] at ended
      cases ended
    | false =>
      rw [hrunning] at ended
      cases ended
      exact hrunning
  | awaitExit _ => exact ended_of_truthful h ended
  | awaitExitBriefly _ => exact ended_of_truthful h ended
  | terminate _ => exact ended_of_truthful h ended
  | _ => cases ended

/-- The world after a turn in which the task came to this stage. -/
structure Advances (world world' : SessionWorld) (task : Nat) (stage : Stage SessionKey) : Prop where
  kept : world'.Kept
  stage : world'.custody.stage = Function.update world.custody.stage task stage

/-- A turn after which the task may answer for its process no more. -/
theorem advances_of_parts (kept : world.Kept) (hreply : world.reply choice call = some reply)
    (orderly : givesUp (world.custody.stage task) call reply = true →
      ∀ process ∈ (world.custody.stage task).process, world.custody.running process = false)
    (hafter : world.after task call reply = if parts (world.custody.stage task) call reply then
      { world with custody := world.custody.abandon task } else world)
    (hstage : stageAfter (world.custody.stage task) call reply =
      if parts (world.custody.stage task) call reply then (world.custody.stage task).without
      else world.custody.stage task) :
    Advances world (world.after task call reply) task (stageAfter (world.custody.stage task) call reply) := by
  rw [hafter, hstage]
  split
  next hparts =>
    refine ⟨⟨kept.sound.abandon fun process hprocess => ?_, kept.gdb, kept.gui⟩, rfl⟩
    rcases Bool.or_eq_true_iff.mp hparts with hgives | hended
    · exact orderly hgives process hprocess
    · have heq := eq_of_beq (Bool.and_eq_true_iff.mp hended).2
      exact ended_of_reply hreply (heq.trans hprocess)
  next => exact ⟨kept, (Function.update_eq_self task _).symm⟩

/-- An entry of the GDB sessions was made or taken. -/
theorem SessionWorld.Kept.gdb_entry (kept : world.Kept) {custody : State SessionKey} (sound : custody.Sound) {id : Nat}
    {entry : Option SessionInfo} (htable : custody.table = Function.update world.custody.table (.gdb id)
      (entry.map fun info => info.session.server)) :
    SessionWorld.Kept ⟨custody, Function.update world.gdb id entry, world.gui⟩ := by
  refine ⟨sound, fun other => ?_, fun other => ?_⟩
  · dsimp only
    rw [htable]
    by_cases hother : other = id
    · rw [hother, Function.update_self, Function.update_self]
    · rw [Function.update_of_ne hother, Function.update_of_ne fun heq => hother (SessionKey.gdb.inj heq)]
      exact kept.gdb other
  · dsimp only
    rw [htable, Function.update_of_ne (by intro heq; cases heq)]
    exact kept.gui other

/-- An entry of the GUI sessions was made or taken. -/
theorem SessionWorld.Kept.gui_entry (kept : world.Kept) {custody : State SessionKey} (sound : custody.Sound) {id : Nat}
    {entry : Option (Resolved × Nat)} (htable : custody.table = Function.update world.custody.table (.gui id)
      (entry.map Prod.snd)) :
    SessionWorld.Kept ⟨custody, world.gdb, Function.update world.gui id entry⟩ := by
  refine ⟨sound, fun other => ?_, fun other => ?_⟩
  · dsimp only
    rw [htable, Function.update_of_ne (by intro heq; cases heq)]
    exact kept.gdb other
  · dsimp only
    rw [htable]
    by_cases hother : other = id
    · rw [hother, Function.update_self, Function.update_self]
    · rw [Function.update_of_ne hother, Function.update_of_ne fun heq => hother (SessionKey.gui.inj heq)]
      exact kept.gui other

theorem unknown_some {α : Type} {key : SessionKey} {value given : α} (h : world.unknown key value = some given) :
    key ∉ world.custody.known ∧ value = given := by
  rw [SessionWorld.unknown] at h
  split at h
  next => cases h
  next hfresh => exact ⟨hfresh, Option.some.inj h⟩

theorem advances_spawn (kept : world.Kept) {process : Nat}
    (may : ∃ lease, world.custody.stage task = .leased lease) :
    Advances world (world.launched task process) task
      ((world.custody.stage task).lease.elim (world.custody.stage task) fun lease => .launched lease process) := by
  obtain ⟨lease, hstage⟩ := may
  rw [SessionWorld.launched, hstage]
  exact ⟨⟨kept.sound.launch hstage, kept.gdb, kept.gui⟩, rfl⟩

/-- What a turn does to the world and to the stage of its task. -/
theorem advances (kept : world.Kept) (may : mayManage (world.custody.stage task) call)
    (hreply : world.reply choice call = some reply)
    (orderly : givesUp (world.custody.stage task) call reply = true →
      ∀ process ∈ (world.custody.stage task).process, world.custody.running process = false)
    (alone : ∀ key ∈ call.takes, world.custody.stopper key = none) :
    Advances world (world.after task call reply) task (stageAfter (world.custody.stage task) call reply) := by
  by_cases outside : call.outside = true
  · exact advances_of_parts kept hreply orderly (after_of_outside outside) (stageAfter_of_outside outside _)
  cases call with
  | acquire probeSerial owner =>
    cases reply with
    | error error => exact advances_of_parts kept hreply orderly rfl rfl
    | ok lease => exact ⟨⟨kept.sound.grant may (fresh_ok hreply), kept.gdb, kept.gui⟩, rfl⟩
  | release lease => exact ⟨⟨kept.sound.release may, kept.gdb, kept.gui⟩, rfl⟩
  | spawnServer selector ports =>
    cases reply with
    | error error => exact advances_of_parts kept hreply orderly rfl rfl
    | ok process => exact advances_spawn kept may
  | spawnGui application arguments =>
    cases reply with
    | error error => exact advances_of_parts kept hreply orderly rfl rfl
    | ok process => exact advances_spawn kept may
  | openGdb session lease identity =>
    obtain ⟨hfresh, rfl⟩ := unknown_some hreply
    exact ⟨kept.gdb_entry (kept.sound.enter may hfresh) rfl, rfl⟩
  | openGui selector process lease =>
    obtain ⟨hfresh, rfl⟩ := unknown_some hreply
    exact ⟨kept.gui_entry (kept.sound.enter may hfresh) rfl, rfl⟩
  | takeGdb id =>
    cases Option.some.inj hreply
    refine ⟨kept.gdb_entry (kept.sound.take may (alone _ rfl)) rfl, ?_⟩
    exact congrArg (fun taken => Function.update world.custody.stage task (.stopping (.gdb id) taken)) (kept.gdb id)
  | takeGui id =>
    cases Option.some.inj hreply
    refine ⟨kept.gui_entry (kept.sound.take may (alone _ rfl)) rfl, ?_⟩
    exact congrArg (fun taken => Function.update world.custody.stage task (.stopping (.gui id) taken)) (kept.gui id)
  | forgetGdb id =>
    cases Option.some.inj hreply
    exact ⟨⟨kept.sound.forget may, kept.gdb, kept.gui⟩, rfl⟩
  | forgetGui id =>
    cases Option.some.inj hreply
    exact ⟨⟨kept.sound.forget may, kept.gdb, kept.gui⟩, rfl⟩
  | enter probeSerial owner => exact may.elim
  | leave probeSerial => exact may.elim
  | _ => exact absurd rfl outside

end turns

end JLinkMcp.Service
