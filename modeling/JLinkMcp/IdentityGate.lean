import JLinkMcp.ServiceRuns

namespace JLinkMcp.Service

open Host Audit TaskProgram

section gate

variable (registry : TargetRegistry) (asked : Asked)

/-- What a discovery resolves the selector to. -/
def resolvedBy : (call : Call) → Reply call → Option Resolved
  | .discover, .ok discovery => (resolveSelector registry discovery.manifest discovery.verified asked.selector).toOption
  | _, _ => none

/-- The selector as an operation has resolved it: it asks until a discovery resolves it, and takes that. -/
def resolvedOf (history : History) : Option Resolved :=
  history.findSome? fun turn => resolvedBy registry asked turn.call turn.reply

/-- The resolved selector for which an operation has found a GDB session, after a turn. -/
def matchAfter (matched : Option Resolved) : (call : Call) → Reply call → Option Resolved
  | .matchingGdb resolved, (found : Option (Nat × Observed)) => found.map fun _ => resolved
  | _, _ => matched

def matchOf (history : History) : Option Resolved :=
  history.foldl (fun matched turn => matchAfter matched turn.call turn.reply) none

/-- Where an operation stands: its selector, its lease, and the selector for which it has found a session. -/
structure Stands (resolved : Option Resolved) (lease : Option (Nat × PyStr)) (matched : Option Resolved)
    (history : History) : Prop where
  resolved : resolvedOf registry asked history = resolved
  lease : leaseOf history = lease
  matched : matchOf history = matched

/-- The operation has the lease of the probe that it has resolved. -/
abbrev Holds (resolved : Resolved) (lease : Nat) (history : History) : Prop :=
  Stands registry asked (some resolved) (some (lease, resolved.probeSerial)) none history

/-- The operation has read an identity under its lease, and it passed. -/
structure Knows (resolved : Resolved) (lease : Nat) (identity : CommanderResult) (history : History) : Prop where
  holds : Holds registry asked resolved lease history
  read : ReadUnder history ⟨resolved, identity⟩ lease
  passes : passesIdentity registry identity resolved = true

/-- The operation may change the target. -/
def Acts (history : History) (resolved : Resolved) : Prop :=
  ∃ lease identity, Knows registry asked resolved lease identity history

/-- The operation goes through a session that it has found. -/
abbrev Joins (history : History) (resolved : Resolved) : Prop :=
  Stands registry asked (some resolved) none (some resolved) history

/-- The identity was read by the operation, or comes from the session that it has found. -/
def Reading (history : History) (resolved : Resolved) (identity : Observed) : Prop :=
  (∃ executed, executed.observed = identity ∧ Identification.turn ⟨resolved, executed⟩ ∈ history) ∨
    ∃ id, (⟨.matchingGdb resolved, some (id, identity)⟩ : Turn Call Reply) ∈ history

/-- What `_attach_identities` made of the identity. -/
structure Carries (result : CommandResult) (resolved : Resolved) (identity : Observed) : Prop where
  probe : result.probeIdentity = attachedProbe resolved identity
  target : result.targetIdentity = attachedTarget resolved identity

/-- The result shows no CPUID, or carries an identity that the operation has. -/
def Justified (history : History) (result : CommandResult) : Prop :=
  CommandResult.blank result = true ∨
    ∃ resolved identity, Reading history resolved identity ∧ Carries result resolved identity

/-- What the one argument of an application that changes nothing may be. -/
def Informs (arguments : List PyStr) : Prop :=
  arguments.length = 1 ∧ ∀ argument ∈ arguments, lowerAscii argument ∈ informationalArguments

/-- What an operation has to know for a call. -/
def mayAct (history : History) : Call → Prop
  | .commander commands resolved => commands = identityCommands ∨ Acts registry asked history resolved
  | .application _ arguments =>
    asked.informs = true ∧ Informs arguments ∨ ∃ resolved, Acts registry asked history resolved
  | .exchange _ _ => ∃ resolved, Acts registry asked history resolved ∨ Joins registry asked history resolved
  | .spawnServer resolved _ => Acts registry asked history resolved
  | .spawnGui _ _ => ∃ resolved, Acts registry asked history resolved
  | .append entry => Justified history entry.result
  | .openGdb session lease identity => ∃ executed : CommanderResult, executed.observed = identity ∧
      Knows registry asked session.selector lease executed history
  | _ => True

/-- Applications and the channels of a session show no CPUID. -/
def ShowsNoTarget : (call : Call) → Reply call → Prop
  | .application _ _, .finished result | .captureChannel _ _, .ok result => CommandResult.blank result = true
  | _, _ => True

/-- What the operations know of their history. -/
abbrev gating : Discipline Call Reply History := recording (mayAct registry asked) ShowsNoTarget

end gate

/-- What is known where a value is returned. -/
def returns {α : Type} (after : α → History → Prop) : Except ServiceError α → History → Prop
  | .ok value, history => after value history
  | .error _, _ => True

/-- What a coroutine makes of what is known, where it returns a value. -/
def Gates {α : Type} (registry : TargetRegistry) (asked : Asked) (before : History → Prop)
    (program : Coroutine α) (after : α → History → Prop) : Prop :=
  ∀ history, before history → Follows (gating registry asked) history program.run (returns after)

/-- A call that changes neither the lease of its operation nor the session that it has found. -/
def Call.steady : Call → Bool
  | .enter _ _ | .leave _ | .acquire _ _ | .release _ | .openGdb _ _ _ | .openGui _ _ _ | .matchingGdb _ => false
  | _ => true

/-- A call for which nothing has to be known. -/
def Call.free : Call → Bool
  | .commander _ _ | .application _ _ | .exchange _ _ | .spawnServer _ _ | .spawnGui _ _ | .append _ |
    .openGdb _ _ _ => false
  | _ => true

section turns

variable {registry : TargetRegistry} {asked : Asked} {history : History} {call : Call}
  {reply : Reply call} {turn : Turn Call Reply} {resolved : Resolved} {found : Option Resolved}
  {lease : Option (Nat × PyStr)} {matched : Option Resolved} {result : CommandResult}

theorem mayAct_of_free (free : call.free = true) : mayAct registry asked history call := by
  cases call <;> first | exact trivial | cases free

theorem leaseAfter_of_steady (steady : call.steady = true) (lease : Option (Nat × PyStr)) :
    leaseAfter lease call reply = lease := by
  cases call <;> first | rfl | cases steady

theorem matchAfter_of_steady (steady : call.steady = true) (matched : Option Resolved) :
    matchAfter matched call reply = matched := by
  cases call <;> first | rfl | cases steady

theorem resolvedOf_concat : resolvedOf registry asked (history ++ [turn]) =
    (resolvedOf registry asked history).or (resolvedBy registry asked turn.call turn.reply) := by
  rw [resolvedOf, List.findSome?_append]
  congr 1
  exact List.findSome?_singleton

theorem matchOf_concat : matchOf (history ++ [turn]) = matchAfter (matchOf history) turn.call turn.reply := by
  rw [matchOf, List.foldl_append]
  rfl

theorem stands_nil : Stands registry asked none none none [] := ⟨rfl, rfl, rfl⟩

theorem Stands.concat (h : Stands registry asked found lease matched history) :
    Stands registry asked (found.or (resolvedBy registry asked call reply)) (leaseAfter lease call reply)
      (matchAfter matched call reply) (history ++ [⟨call, reply⟩]) where
  resolved := by rw [resolvedOf_concat, h.resolved]
  lease := by rw [leaseOf_concat, h.lease]
  matched := by rw [matchOf_concat, h.matched]

/-- A selector that was resolved stays as it is. -/
theorem Stands.steady (h : Stands registry asked (some resolved) lease matched history)
    (steady : call.steady = true) :
    Stands registry asked (some resolved) lease matched (history ++ [⟨call, reply⟩]) := by
  have hnext := @Stands.concat _ _ _ call reply _ _ _ h
  rwa [leaseAfter_of_steady steady, matchAfter_of_steady steady, Option.some_or] at hnext

theorem Reading.append {identity : Observed} (h : Reading history resolved identity) (later : History) :
    Reading (history ++ later) resolved identity :=
  h.imp (fun ⟨executed, hidentity, hmem⟩ => ⟨executed, hidentity, List.mem_append_left later hmem⟩)
    fun ⟨id, hmem⟩ => ⟨id, List.mem_append_left later hmem⟩

theorem Justified.append (h : Justified history result) (later : History) :
    Justified (history ++ later) result :=
  h.imp id fun ⟨resolved, identity, reading, carries⟩ => ⟨resolved, identity, reading.append later, carries⟩

variable {identity : CommanderResult} {granted : Nat}

theorem Knows.steady (h : Knows registry asked resolved granted identity history) (steady : call.steady = true) :
    Knows registry asked resolved granted identity (history ++ [⟨call, reply⟩]) :=
  ⟨h.holds.steady steady, h.read.append _, h.passes⟩

theorem Knows.reading (h : Knows registry asked resolved granted identity history) :
    Reading history resolved identity.observed := Or.inl ⟨identity, rfl, h.read.mem⟩

/-- Every turn keeps this. -/
def Lasts (holds : History → Prop) : Prop := ∀ history turn, holds history → holds (history ++ [turn])

/-- Every turn that changes neither the lease nor the session keeps this. -/
def Persists (holds : History → Prop) : Prop :=
  ∀ history call (reply : Reply call), call.steady = true → holds history → holds (history ++ [⟨call, reply⟩])

theorem Lasts.persists {holds : History → Prop} (h : Lasts holds) : Persists holds :=
  fun history _ _ _ => h history _

theorem lasts_justified (result : CommandResult) : Lasts fun history => Justified history result :=
  fun _ _ h => h.append _

theorem persists_stands : Persists (Stands registry asked (some resolved) lease matched) :=
  fun _ _ _ steady h => h.steady steady

theorem persists_knows : Persists (Knows registry asked resolved granted identity) :=
  fun _ _ _ steady h => h.steady steady

theorem Persists.and {holds holds' : History → Prop} (h : Persists holds) (h' : Persists holds') :
    Persists fun history => holds history ∧ holds' history :=
  fun history call reply steady both => ⟨h history call reply steady both.1, h' history call reply steady both.2⟩

/-- A call that is free keeps what persists. -/
theorem Persists.keeps {holds : History → Prop} (persists : Persists holds) (steady : call.steady = true)
    (free : call.free = true) : (gating registry asked).Keeps holds call :=
  fun history h => ⟨mayAct_of_free free, fun reply _ => persists history call reply steady h⟩

end turns

section rules

variable {α β : Type} {registry : TargetRegistry} {asked : Asked} {before : History → Prop}
  {middle : α → History → Prop}

theorem gates_then {program : Coroutine α} {next : α → Coroutine β} {after : β → History → Prop}
    (first : Gates registry asked before program middle)
    (rest : ∀ value, Gates registry asked (middle value) (next value) after) :
    Gates registry asked before (program >>= next) after := fun history h =>
  follows_then (first history h) (fun value later hmiddle => rest value later hmiddle) fun _ _ _ => trivial

theorem gates_pure {value : α} (h : ∀ history, before history → middle value history) :
    Gates registry asked before (pure value) middle := fun history hbefore => h history hbefore

theorem gates_throw {error : ServiceError} : Gates registry asked before (throw error : Coroutine α) middle :=
  fun _ _ => trivial

theorem gates_orRaise {result : Except ServiceError α}
    (h : ∀ value, result = .ok value → ∀ history, before history → middle value history) :
    Gates registry asked before (orRaise result) middle := by
  cases result with
  | ok value => exact fun history hbefore => h value rfl history hbefore
  | error error => exact fun _ _ => trivial

theorem gates_mono {program : Coroutine α} {after : α → History → Prop} (h : Gates registry asked before program middle)
    (weaker : ∀ value history, middle value history → after value history) :
    Gates registry asked before program after := fun history hbefore =>
  (h history hbefore).mono fun result later hmiddle => by
    cases result with
    | ok value => exact weaker value later hmiddle
    | error error => trivial

theorem gates_weaken {program : Coroutine α} {given : History → Prop} (h : Gates registry asked before program middle)
    (stronger : ∀ history, given history → before history) : Gates registry asked given program middle :=
  fun history hgiven => h history (stronger history hgiven)

theorem gates_of_maintains {program : Coroutine α} (h : Maintains (gating registry asked) before program) :
    Gates registry asked before program fun _ => before := fun history hbefore =>
  (h history hbefore).mono fun result _ hafter => by
    cases result with
    | ok value => exact hafter
    | error error => trivial

theorem gates_ask {call : Call} {after : Reply call → History → Prop}
    (may : ∀ history, before history → mayAct registry asked history call)
    (next : ∀ history, before history → ∀ reply, ShowsNoTarget call reply →
      after reply (history ++ [⟨call, reply⟩])) : Gates registry asked before (ask call) after :=
  fun history h => ⟨may history h, next history h⟩

/-- An entry may be appended where it is justified; it leaves what persists. -/
theorem gates_append {entry : AppendCall} (persists : Persists before)
    (justified : ∀ history, before history → Justified history entry.result) :
    Gates registry asked before (append entry) fun _ => before := fun history h =>
  ⟨justified history h, fun reply _ => by
    have hafter := persists history (.append entry) reply rfl h
    cases reply with
    | ok _ => exact hafter
    | error _ => trivial⟩

/-- What is done under a lease that is entered. -/
theorem gates_withLease {owner : PyStr} {body : Nat → Coroutine α} {resolved : Resolved}
    {after : α → History → Prop} (lasts : ∀ value, Lasts (after value))
    (under : ∀ lease, Gates registry asked (Holds registry asked resolved lease) (body lease) after) :
    Gates registry asked (Stands registry asked (some resolved) none none)
      (withLease resolved.probeSerial owner body) after := by
  have enters : Gates registry asked (Stands registry asked (some resolved) none none)
      (ExceptT.mk (.call (Call.enter resolved.probeSerial owner)))
      (Holds registry asked resolved) := fun history h =>
    ⟨trivial, fun reply _ => by
      have hafter := @Stands.concat _ _ _ (.enter resolved.probeSerial owner) reply _ _ _ h
      cases reply with
      | ok lease => exact hafter
      | error error => trivial⟩
  refine gates_then enters fun lease history h => ?_
  refine follows_ensuring (under lease history h) fun result later hresult => ⟨trivial, fun reply _ => ?_⟩
  cases result with
  | ok value => exact lasts value later _ hresult
  | error error => trivial

theorem gates_orRelease {lease : Nat} {body : Coroutine α} (h : Gates registry asked before body middle) :
    Gates registry asked before (orRelease lease body) middle := fun history hbefore => by
  refine follows_catching (h history hbefore) (fun _ _ hafter => hafter) (fun error later _ _ => ?_) fun _ _ _ _ => trivial
  exact ⟨trivial, fun _ _ => trivial⟩

end rules

end JLinkMcp.Service
