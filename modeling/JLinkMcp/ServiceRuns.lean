import JLinkMcp.SessionCustody
import JLinkMcp.TaskLogs

namespace JLinkMcp.Service

open Host Audit TaskProgram

/-- The result shows no CPUID of a target. -/
def CommandResult.blank (result : CommandResult) : Bool :=
  result.targetIdentity.all fun item => item.1 ≠ PyStr.ofString "cpuid"

/-- `commander_commands` is called with the action `connect` for the identity commands alone. -/
def HardwareOperation.Connects : HardwareOperation → Prop
  | .commanderCommands commands _ action _ =>
    PyStr.ofString action = PyStr.ofString "connect" → commands = identityCommands
  | _ => True

/-- What an operation is asked for: the selector that it is called with, where it resolves one, and whether it
is to run an application that only informs. -/
structure Asked where
  selector : DeviceSelector := {}
  informs : Bool := false

def HardwareOperation.asked : HardwareOperation → Asked
  | .commanderCommands _ selector _ _ => { selector }
  | .runApplication request => { selector := request.selector, informs := !request.destructive }
  | .serialExchange selector _ _ _ => { selector }
  | .auditedSerialOperation selector _ _ _ => { selector }

/-- The operations that return a result of a tool. -/
inductive ResultOperation where
  | hardware (operation : HardwareOperation) (connects : operation.Connects)
  | gdbCommand (sessionId : Nat) (command : PyStr)
  | captureGdbChannel (sessionId : Nat) (channel : String) (duration : PyStr) (write : Option PyStr)

def ResultOperation.program (registry : TargetRegistry) : ResultOperation → Coroutine CommandResult
  | .hardware operation _ => operation.program registry
  | .gdbCommand sessionId command => Service.gdbCommand sessionId command
  | .captureGdbChannel sessionId channel duration write => Service.captureGdbChannel sessionId channel duration write

/-- What a workflow records of a result once more, with its identities. -/
structure Report where
  entry : CommandResult → AppendCall
  probe : ∀ result, (entry result).result.probeIdentity = result.probeIdentity
  target : ∀ result, (entry result).result.targetIdentity = result.targetIdentity

/-- What the service and its workflows do. `record` stands for what they record without an identity that was
read: of builds, of the GUI and of the probes that are attached. -/
inductive ServiceOperation where
  | perform (operation : ResultOperation)
  | reported (operation : ResultOperation) (report : Report)
  | session (operation : SessionOperation)
  | record (entry : AppendCall) (blank : CommandResult.blank entry.result = true)

def ServiceOperation.program (registry : TargetRegistry) : ServiceOperation → Task Call Reply Unit
  | .perform operation => toTask (operation.program registry)
  | .reported operation report => toTask do append (report.entry (← operation.program registry))
  | .session operation => operation.program registry
  | .record entry _ => toTask (append entry)

def ResultOperation.asked : ResultOperation → Asked
  | .hardware operation _ => operation.asked
  | _ => {}

def SessionOperation.asked : SessionOperation → Asked
  | .startGdb selector _ => { selector }
  | .startGui _ _ selector => { selector }
  | _ => {}

def ServiceOperation.asked : ServiceOperation → Asked
  | .perform operation | .reported operation _ => operation.asked
  | .session operation => operation.asked
  | .record _ _ => {}

/-- What the service keeps of a GDB session in `_gdb_selectors`, `_gdb_identities` and `_gdb_leases`. -/
structure GdbEntry where
  id : Nat
  selector : Resolved
  lease : Nat
  identity : Observed

/-- The test of `matching_gdb`. -/
def GdbEntry.isFor (resolved : Resolved) (entry : GdbEntry) : Bool :=
  entry.selector.probeSerial = resolved.probeSerial && entry.selector.boardSerial = resolved.boardSerial &&
    entry.selector.core = resolved.core

/-- A lease that is held, with the task that acquired it and the operation that entered it, where one did. -/
structure HeldLease where
  id : Nat
  probeSerial : PyStr
  task : Nat
  enteredBy : Option Nat

/-- What the service keeps between the turns of its operations; `matched` is the session through which an
operation uses a serial port. -/
structure ServiceState where
  gdb : List GdbEntry := []
  gui : List (Nat × Nat) := []
  leases : List HeldLease := []
  issued : List Nat := []
  matched : Nat → Option GdbEntry := fun _ => none

namespace ServiceState

variable (task : Nat → Nat)

def holds (state : ServiceState) (lease : Nat) : Bool := state.leases.any fun held => held.id = lease

def grant (state : ServiceState) (lease : HeldLease) : ServiceState :=
  { state with leases := lease :: state.leases, issued := lease.id :: state.issued }

/-- The state after a turn of an operation. A lease that is entered once more stays as it is. -/
def after (state : ServiceState) (owner : Nat) : (call : Call) → Reply call → ServiceState
  | .enter probeSerial _, .ok lease =>
    if state.holds lease then state else state.grant ⟨lease, probeSerial, task owner, some owner⟩
  | .acquire probeSerial _, .ok lease => state.grant ⟨lease, probeSerial, task owner, none⟩
  | .leave probeSerial, _ =>
    { state with
      leases := state.leases.filter fun held => !(held.probeSerial = probeSerial && held.enteredBy = some owner) }
  | .release lease, _ => { state with leases := state.leases.filter fun held => held.id ≠ lease }
  | .matchingGdb resolved, _ =>
    { state with matched := Function.update state.matched owner (state.gdb.find? (GdbEntry.isFor resolved)) }
  | .openGdb session lease identity, info =>
    { state with gdb := state.gdb ++ [⟨info.sessionId, session.selector, lease, identity⟩] }
  | .openGui _ _ lease, (id : Nat) => { state with gui := state.gui ++ [(id, lease)] }
  | .forgetGdb id, _ => { state with gdb := state.gdb.filter fun entry => entry.id ≠ id }
  | .forgetGui id, _ => { state with gui := state.gui.filter fun entry => entry.1 ≠ id }
  | _, _ => state

/-- What is replied, where the rest of the world gives this. A task that holds the lease of a probe enters it
again, another one waits; the tables of the sessions decide what is found in them; an application and a channel
of a session show no CPUID. -/
def answer (state : ServiceState) (owner : Nat) : (call : Call) → Reply call → Option (Reply call)
  | .enter probeSerial _, .ok lease =>
    match state.leases.find? fun held => held.probeSerial = probeSerial with
    | some held => if held.task = task owner then some (.ok held.id) else none
    | none => if state.issued.contains lease then none else some (.ok lease)
  | .acquire probeSerial _, .ok lease =>
    if (state.leases.any fun held => held.probeSerial = probeSerial) || state.issued.contains lease then none
    else some (.ok lease)
  | .matchingGdb resolved, _ =>
    some ((state.gdb.find? (GdbEntry.isFor resolved)).map fun entry => (entry.id, entry.identity))
  | .openGdb session _ _, info =>
    if state.gdb.any fun entry => entry.id = info.sessionId then none else some { info with session }
  | .openGui _ _ _, (id : Nat) => if state.gui.any fun entry => entry.1 = id then none else some id
  | .forgetGdb id, _ => some ((state.gdb.find? fun entry => entry.id = id).map GdbEntry.lease)
  | .forgetGui id, _ => some ((state.gui.find? fun entry => entry.1 = id).map Prod.snd)
  | .application _ _, .finished result => if CommandResult.blank result then some (.finished result) else none
  | .captureChannel _ _, .ok result => if CommandResult.blank result then some (.ok result) else none
  | _, given => some given

end ServiceState

/-- What all operations of the service did. -/
abbrev ServiceLog := Log Call Reply

/-- The state of the service after what was done. -/
def stateOf (task : Nat → Nat) (log : ServiceLog) : ServiceState :=
  log.foldl (fun state event => state.after task event.owner event.turn.call event.turn.reply) {}

/-- The service replies so after what was done. -/
def Replies (task : Nat → Nat) (log : ServiceLog) (event : OwnedTurn Call Reply) : Prop :=
  ∃ given, (stateOf task log).answer task event.owner event.turn.call given = some event.turn.reply

/-- The runs of any number of operations, each in the task that calls it, with their turns in any order. -/
abbrev ServiceRun (registry : TargetRegistry) (operations : Nat → ServiceOperation) (task : Nat → Nat) :
    ServiceLog → Prop :=
  LoggedRun (fun owner => (operations owner).program registry) (Replies task)

/-- The lease that an operation has of its own after a turn, and its probe; the entry of a session takes it
over. -/
def leaseAfter (lease : Option (Nat × PyStr)) : (call : Call) → Reply call → Option (Nat × PyStr)
  | .enter probeSerial _, .ok granted | .acquire probeSerial _, .ok granted => some (granted, probeSerial)
  | .leave _, _ | .release _, _ | .openGdb _ _ _, _ | .openGui _ _ _, _ => none
  | _, _ => lease

/-- The lease that an operation has of its own. -/
def leaseOf (history : History) : Option (Nat × PyStr) :=
  history.foldl (fun lease turn => leaseAfter lease turn.call turn.reply) none

/-- An identity result, and the selector for which it was read. -/
structure Identification where
  selector : Resolved
  executed : CommanderResult

/-- The turn in which the identity was read. -/
def Identification.turn (identification : Identification) : Turn Call Reply :=
  ⟨.commander identityCommands identification.selector, .finished identification.executed⟩

/-- The identity result passes `_validate_identity` for its selector. -/
def Identification.passes (registry : TargetRegistry) (identification : Identification) : Bool :=
  passesIdentity registry identification.executed identification.selector

/-- The identity was read while the operation had the lease of the probe. -/
def ReadUnder (history : History) (identification : Identification) (lease : Nat) : Prop :=
  ∃ earlier later, history = earlier ++ identification.turn :: later ∧
    leaseOf earlier = some (lease, identification.selector.probeSerial)

/-- The session was opened with this identity, which was read under the lease of the session. -/
def OpenedWith (log : ServiceLog) (session : GdbEntry) (identification : Identification) : Prop :=
  identification.selector = session.selector ∧ identification.executed.observed = session.identity ∧
    ∃ owner, ReadUnder (turnsOf owner log) identification session.lease

section logs

variable {task : Nat → Nat} {log : ServiceLog} {event : OwnedTurn Call Reply} {history : History}
  {turn : Turn Call Reply}

theorem stateOf_concat : stateOf task (log ++ [event]) =
    (stateOf task log).after task event.owner event.turn.call event.turn.reply := by
  rw [stateOf, List.foldl_append]
  rfl

theorem leaseOf_concat : leaseOf (history ++ [turn]) = leaseAfter (leaseOf history) turn.call turn.reply := by
  rw [leaseOf, List.foldl_append]
  rfl

theorem ReadUnder.append {identification : Identification} {lease : Nat} (h : ReadUnder history identification lease)
    (later : History) : ReadUnder (history ++ later) identification lease := by
  obtain ⟨earlier, after, rfl, hlease⟩ := h
  exact ⟨earlier, after ++ later, by rw [List.append_assoc, List.cons_append], hlease⟩

theorem ReadUnder.mem {identification : Identification} {lease : Nat} (h : ReadUnder history identification lease) :
    identification.turn ∈ history := by
  obtain ⟨earlier, later, rfl, -⟩ := h
  exact List.mem_append_right _ List.mem_cons_self

theorem OpenedWith.concat {session : GdbEntry} {identification : Identification}
    (h : OpenedWith log session identification) (event : OwnedTurn Call Reply) :
    OpenedWith (log ++ [event]) session identification := by
  obtain ⟨hselector, hidentity, owner, read⟩ := h
  refine ⟨hselector, hidentity, owner, ?_⟩
  rw [turnsOf_append]
  exact read.append _

end logs

end JLinkMcp.Service
