import JLinkMcp.IdentityGate

namespace JLinkMcp.Service

open Host Audit TaskProgram

section operations

variable {registry : TargetRegistry} {asked : Asked} {before : History → Prop}
  {resolved : Resolved} {lease : Nat} {identity : CommanderResult}

theorem gates_execute {commands : List PyStr} {after : CommanderResult → History → Prop}
    (may : ∀ history, before history → commands = identityCommands ∨ Acts registry asked history resolved)
    (next : ∀ history, before history → ∀ executed,
      after executed (history ++ [⟨.commander commands resolved, .finished executed⟩])) :
    Gates registry asked before (execute commands resolved) after := fun history h =>
  ⟨may history h, fun reply _ => by
    cases reply with
    | finished executed => exact next history h executed
    | refused error => trivial
    | broken error => trivial⟩

/-- Other commands than the identity commands, for an operation that knows the target. -/
theorem gates_execute_known {commands : List PyStr} :
    Gates registry asked (Knows registry asked resolved lease identity) (execute commands resolved)
      fun _ => Knows registry asked resolved lease identity :=
  gates_execute (fun _ h => Or.inr ⟨lease, identity, h⟩) fun _ h _ => h.steady rfl

/-- How `resolve_selector_wait` stands after a round. -/
def Tried (registry : TargetRegistry) (asked : Asked) (result : Except ServiceError Resolved)
    (history : History) : Prop := Stands registry asked result.toOption none none history

theorem follows_round {history : History} (h : Stands registry asked none none none history) :
    Follows (gating registry asked) history (do
      let discovery ← discover
      orRaise (resolveSelector registry discovery.manifest discovery.verified asked.selector) : Coroutine Resolved).run
      (Tried registry asked) := by
  have discovers : Follows (gating registry asked) history discover.run fun result later =>
      Stands registry asked (resolvedBy registry asked .discover result) none none later :=
    ⟨trivial, fun reply _ => @Stands.concat _ _ _ .discover reply _ _ _ h⟩
  exact follows_then discovers (fun _ _ hafter => hafter) fun _ _ hafter => hafter

theorem follows_gatedRounds {history : History} (h : Stands registry asked none none none history)
    (rounds : Nat) : Follows (gating registry asked) history (resolveRounds registry asked.selector rounds).run
      (Tried registry asked) := by
  induction rounds generalizing history with
  | zero => exact follows_round h
  | succ rounds ih =>
    refine follows_catching (follows_round h) (fun _ _ hafter => hafter) (fun error later hafter _ => ?_)
      fun _ _ hafter _ => hafter
    have sleeps : Follows (gating registry asked) later sleep.run fun _ later =>
        Stands registry asked none none none later :=
      ⟨trivial, fun reply _ => @Stands.concat _ _ _ .sleep reply _ _ _ hafter⟩
    exact follows_then sleeps (fun _ _ hslept => ih hslept) fun _ _ hslept => hslept

theorem gates_resolveSelectorWait : Gates registry asked (Stands registry asked none none none)
    (resolveSelectorWait registry asked.selector) fun resolved =>
      Stands registry asked (some resolved) none none := fun history h => by
  refine ⟨trivial, fun rounds _ => ?_⟩
  have hasked := @Stands.concat _ _ _ .deadline rounds _ _ _ h
  refine (follows_gatedRounds hasked rounds).mono fun result later htried => ?_
  cases result with
  | ok resolved => exact htried
  | error error => trivial

/-- The operation has read an identity under its lease. -/
abbrev HasRead (registry : TargetRegistry) (asked : Asked) (resolved : Resolved) (lease : Nat)
    (executed : CommanderResult) (history : History) : Prop :=
  Holds registry asked resolved lease history ∧
    ReadUnder history ⟨resolved, executed⟩ lease

theorem gates_readIdentity : Gates registry asked (Holds registry asked resolved lease)
    (execute identityCommands resolved) (HasRead registry asked resolved lease) :=
  gates_execute (fun _ _ => Or.inl rfl) fun history h _ => ⟨h.steady rfl, history, [], rfl, h.lease⟩

/-- The result of the identity commands may be recorded, whether it passes or not. -/
theorem gates_recordIdentity {executed : CommanderResult} {entry : AppendCall}
    (hentry : entry.result = identityResult resolved lease executed) :
    Gates registry asked (HasRead registry asked resolved lease executed) (append entry)
      fun _ => HasRead registry asked resolved lease executed := by
  have persists : Persists (HasRead registry asked resolved lease executed) :=
    persists_stands.and (Lasts.persists fun _ _ read => read.append _)
  refine gates_append persists fun history h => Or.inr ?_
  rw [hentry]
  exact ⟨resolved, executed.observed, Or.inl ⟨executed, rfl, h.2.mem⟩, rfl, rfl⟩

theorem gates_validate {executed : CommanderResult} :
    Gates registry asked (HasRead registry asked resolved lease executed)
      (orRaise (validateIdentity registry executed resolved))
      fun _ => Knows registry asked resolved lease executed :=
  gates_orRaise fun _ valid _ h => ⟨h.1, h.2, passesIdentity_of_ok valid⟩

theorem gates_identityPreflight : Gates registry asked (Holds registry asked resolved lease)
    (identityPreflight registry resolved lease) fun identity =>
      Knows registry asked resolved lease identity := by
  refine gates_then gates_readIdentity fun executed => ?_
  refine gates_then (gates_recordIdentity rfl) fun _ => ?_
  exact gates_then gates_validate fun _ => gates_pure fun _ h => h

theorem justified_preflighted {history : History} (h : Knows registry asked resolved lease identity history)
    (executed : CommanderResult) : Justified history (preflightedResult resolved lease identity executed) :=
  Or.inr ⟨resolved, identity.observed, h.reading, rfl, rfl⟩

theorem gates_resume (action : PyStr) :
    Gates registry asked (Knows registry asked resolved lease identity)
      (resumeAfterIdentityPreflight resolved lease identity action)
      fun _ => Knows registry asked resolved lease identity := by
  refine gates_then gates_execute_known fun executed => ?_
  refine gates_then (gates_append persists_knows fun history h => justified_preflighted h executed) fun _ => ?_
  split
  next => exact gates_pure fun _ h => h
  next => exact gates_throw

/-- A result that is recorded and returned. -/
theorem gates_recorded {result : CommandResult} {entry : AppendCall} (hentry : entry.result = result) :
    Gates registry asked (fun history => Justified history result) (do
      append entry
      return result) fun result history => Justified history result :=
  gates_then (gates_append (lasts_justified result).persists fun _ h => hentry ▸ h) fun _ => gates_pure fun _ h => h

theorem gates_commanderCommands {commands : List PyStr} {action : String} {destructive : Bool}
    (connects : PyStr.ofString action = PyStr.ofString "connect" → commands = identityCommands) :
    Gates registry asked (Stands registry asked none none none)
      (commanderCommands registry commands asked.selector action destructive) fun result history =>
        Justified history result := by
  refine gates_then gates_resolveSelectorWait fun resolved => ?_
  split
  next hconnect =>
    obtain rfl := connects hconnect
    refine gates_withLease lasts_justified fun lease => ?_
    refine gates_then gates_readIdentity fun executed => ?_
    refine gates_then (gates_recordIdentity rfl) fun _ => ?_
    refine gates_then gates_validate fun _ => gates_pure fun _ h => Or.inr ?_
    exact ⟨resolved, executed.observed, h.reading, rfl, rfl⟩
  next =>
    refine gates_then (gates_withLease lasts_justified fun lease => ?_) fun result => gates_recorded rfl
    refine gates_then gates_identityPreflight fun identity => ?_
    refine gates_then gates_execute_known fun executed => ?_
    refine gates_then (gates_orRaise fun _ _ _ h => h) fun _ => ?_
    exact gates_pure fun _ h => justified_preflighted h executed

theorem gates_pause (milliseconds : Nat) : Gates registry asked (Knows registry asked resolved lease identity)
    (pause milliseconds) fun _ => Knows registry asked resolved lease identity := by
  rw [pause]
  split
  next => exact gates_of_maintains (maintains_sleep (persists_knows.keeps rfl rfl))
  next => exact gates_pure fun _ h => h

theorem gates_executeApplication {request : ApplicationRequest} (persists : Persists before)
    (may : ∀ history, before history → asked.informs = true ∧ Informs request.arguments ∨
      ∃ resolved, Acts registry asked history resolved) :
    Gates registry asked before (executeApplication request) fun result history =>
      before history ∧ CommandResult.blank result = true := fun history h =>
  ⟨may history h, fun reply promised => by
    have hafter := persists history (.application request.application request.arguments) reply rfl h
    cases reply with
    | finished result => exact ⟨hafter, promised⟩
    | refused error => trivial
    | broken error => trivial⟩

theorem gates_applicationAttempts (request : ApplicationRequest) (evidence : List PyJson) (left : Nat) :
    Gates registry asked (Knows registry asked resolved lease identity)
      (applicationAttempts request evidence left) fun _ => Knows registry asked resolved lease identity := by
  have executes : ∀ {request}, Gates registry asked (Knows registry asked resolved lease identity)
      (executeApplication request) fun _ => Knows registry asked resolved lease identity := fun {request} =>
    gates_mono (gates_executeApplication persists_knows fun _ h => Or.inr ⟨resolved, lease, identity, h⟩)
      fun _ _ h => h.1
  induction left generalizing evidence with
  | zero => exact gates_then executes fun result => gates_pure fun _ h => h
  | succ left ih =>
    refine gates_then executes fun result => ?_
    dsimp only
    split
    next => exact gates_pure fun _ h => h
    next => exact gates_then (gates_pause _) fun _ => ih _

theorem gates_resumeApplication (request : ApplicationRequest) :
    Gates registry asked (Knows registry asked resolved lease identity)
      (resumeApplication request resolved lease identity)
      fun _ => Knows registry asked resolved lease identity := by
  rw [resumeApplication]
  split
  next =>
    refine gates_then ?_ fun _ => gates_pause _
    exact gates_then (gates_resume _) fun _ => gates_pure fun _ h => h
  next => exact gates_pure fun _ h => h

theorem gates_applicationUnderLease (request : ApplicationRequest) :
    Gates registry asked (Holds registry asked resolved lease)
      (applicationUnderLease registry request resolved lease) fun result history => Justified history result := by
  refine gates_then gates_identityPreflight fun identity => ?_
  refine gates_then (gates_resumeApplication request) fun _ => ?_
  refine gates_then (gates_applicationAttempts request [] _) fun ended => ?_
  exact gates_pure fun _ h => Or.inr ⟨resolved, identity.observed, h.reading, rfl, rfl⟩

/-- What the checks allow to run without an identity only informs. -/
theorem informs_of_check {request : ApplicationRequest} (check : request.check = none)
    (harmless : request.destructive = false) : Informs request.arguments := by
  rw [ApplicationRequest.check] at check
  iterate 5
    split at check
    next => cases check
  split at check
  next => cases check
  next hallowed =>
    by_contra hrefused
    exact hallowed ⟨harmless, hrefused⟩

theorem gates_runApplication (request : ApplicationRequest) (h : request.selector = asked.selector)
    (informs : asked.informs = !request.destructive) :
    Gates registry asked (Stands registry asked none none none)
      (runApplication registry request) fun result history => Justified history result := by
  rw [runApplication, h]
  split
  next => exact gates_throw
  next hcheck =>
    split
    next =>
      refine gates_then gates_resolveSelectorWait fun resolved => ?_
      refine gates_then (gates_withLease lasts_justified fun lease => ?_) fun result => gates_recorded rfl
      exact gates_applicationUnderLease request
    next hharmless =>
      have hharmless : request.destructive = false := Bool.eq_false_iff.mpr hharmless
      have only : asked.informs = true ∧ Informs request.arguments :=
        ⟨by rw [informs, hharmless]; rfl, informs_of_check hcheck hharmless⟩
      have executes : Gates registry asked (Stands registry asked none none none)
          (executeApplication request) fun result history => Justified history result :=
        gates_weaken (gates_mono (gates_executeApplication (Lasts.persists fun _ _ h => h) fun _ _ => Or.inl only)
          fun _ _ h => Or.inl h.2) fun _ _ => trivial
      exact gates_then executes fun result => gates_recorded rfl

/-- A port is used by an operation that knows the target or goes through a session. -/
theorem gates_useSerialPort {request : SerialRequest} {sessionId : Nat} (persists : Persists before)
    (may : ∀ history, before history → Acts registry asked history resolved ∨
      Joins registry asked history resolved) :
    Gates registry asked before (useSerialPort request resolved sessionId) fun _ => before := by
  have deadline : Gates registry asked before (ask .deadline) fun _ => before :=
    gates_of_maintains (maintains_ask (persists.keeps rfl rfl))
  refine gates_then deadline fun rounds => ?_
  have waits : Gates registry asked before (waitForSerialBoard resolved rounds) fun _ => before :=
    gates_of_maintains (maintains_waitForSerialBoard (persists.keeps rfl rfl) (persists.keeps rfl rfl) resolved rounds)
  refine gates_then waits fun port => ?_
  have exchanges : Gates registry asked before (started (.call (Call.exchange port request.use)))
      fun _ => before := fun history h =>
    ⟨⟨resolved, may history h⟩, fun reply _ => by
      have hafter := persists history (.exchange port request.use) reply rfl h
      cases reply with
      | finished result => exact hafter
      | refused error => trivial
      | broken error => trivial⟩
  exact gates_then exchanges fun result => gates_pure fun _ h => h

/-- What a serial operation has when it used the port. -/
def Used (resolved : Resolved) (used : SerialUsed) (history : History) : Prop :=
  Reading history resolved used.identity

theorem gates_serialUnderGate (request : SerialRequest) :
    Gates registry asked (Stands registry asked (some resolved) none none)
      (serialUnderGate registry request resolved) (Used resolved) := by
  rintro history h
  refine ⟨trivial, fun found _ => ?_⟩
  have hasked := @Stands.concat _ _ _ (.matchingGdb resolved) found _ _ _ h
  cases found with
  | some found =>
    obtain ⟨sessionId, identity⟩ := found
    have persists : Persists fun later => Joins registry asked later resolved ∧
        Reading later resolved identity := persists_stands.and (Lasts.persists fun _ _ reading => reading.append _)
    have used : Gates registry asked (fun later => Joins registry asked later resolved ∧
        Reading later resolved identity) (do
          let result ← useSerialPort request resolved sessionId
          return (⟨result, identity, none⟩ : SerialUsed)) (Used resolved) :=
      gates_then (gates_useSerialPort persists fun _ h => Or.inr h.1) fun _ => gates_pure fun _ h => h.2
    exact used _ ⟨hasked, Or.inr ⟨sessionId, List.mem_append_right _ List.mem_cons_self⟩⟩
  | none =>
    have under : ∀ lease, Gates registry asked (Holds registry asked resolved lease) (do
        let identity ← identityPreflight registry resolved lease
        let resume ← resumeAfterIdentityPreflight resolved lease identity request.resumeAction
        let result ← useSerialPort request resolved lease
        return (⟨result, identity.observed, some resume.operationId⟩ : SerialUsed)) (Used resolved) := by
      intro lease
      refine gates_then gates_identityPreflight fun identity => ?_
      refine gates_then (gates_resume _) fun resume => ?_
      refine gates_then (gates_useSerialPort persists_knows fun _ h => Or.inl ⟨lease, identity, h⟩) fun _ => ?_
      exact gates_pure fun _ h => h.reading
    exact gates_withLease (fun _ _ _ h => h.append _) under _ hasked

theorem gates_serialOperation (request : SerialRequest) (h : request.selector = asked.selector) :
    Gates registry asked (Stands registry asked none none none)
      (serialOperation registry request) fun result history => Justified history result := by
  rw [serialOperation, h]
  refine gates_then gates_resolveSelectorWait fun resolved => ?_
  refine gates_then (gates_serialUnderGate request) fun used => ?_
  exact gates_weaken (gates_recorded rfl) fun _ h => Or.inr ⟨resolved, used.identity, h, rfl, rfl⟩

theorem gates_hardware (operation : HardwareOperation) (connects : operation.Connects) :
    Gates registry operation.asked (Stands registry operation.asked none none none)
      (operation.program registry) fun result history => Justified history result := by
  cases operation with
  | commanderCommands commands selector action destructive => exact gates_commanderCommands connects
  | runApplication request => exact gates_runApplication request rfl rfl
  | serialExchange selector write untilText duration => exact gates_serialOperation _ rfl
  | auditedSerialOperation selector action destructive request => exact gates_serialOperation _ rfl

end operations

section sessions

variable {α : Type} {registry : TargetRegistry} {asked : Asked} {holds : History → Prop}
  {resolved : Resolved} {lease : Nat} {identity : CommanderResult}

/-- What makes free calls alone and records no CPUID. -/
abbrev Freely (registry : TargetRegistry) (asked : Asked) (program : Coroutine α) : Prop :=
  Maintains (gating registry asked) (fun _ => True) program

theorem keeps_free {call : Call} (free : call.free = true) :
    (gating registry asked).Keeps (fun _ => True) call := fun _ _ => ⟨mayAct_of_free free, fun _ _ => trivial⟩

theorem freely_append {entry : AppendCall} (blank : CommandResult.blank entry.result = true) :
    Freely registry asked (append entry) :=
  maintains_append fun _ _ => ⟨Or.inl blank, fun _ _ => trivial⟩

theorem blank_targetOf {result : CommandResult} (h : result.targetIdentity = targetOf resolved) :
    CommandResult.blank result = true := by
  rw [CommandResult.blank, h]
  exact (by decide : [field "board_serial" .null, field "target_profile" .null, field "core" .null].all
    (fun item => item.1 ≠ PyStr.ofString "cpuid") = true)

theorem maintains_waitForPort (persists : Persists holds) (port server rounds : Nat) :
    Maintains (gating registry asked) holds (waitForPort port server rounds) := by
  have keeps : ∀ {call : Call}, call.steady = true → call.free = true →
      (gating registry asked).Keeps holds call := fun steady free => persists.keeps steady free
  induction rounds with
  | zero =>
    refine maintains_then ?_ fun _ => ?_
    · refine maintains_then (maintains_mk fun _ h => follows_keeps (keeps rfl rfl) h) fun found => ?_
      split
      next => exact maintains_pure _
      next => exact maintains_throw _
    · exact maintains_then (maintains_mk fun _ h => follows_keeps (keeps rfl rfl) h) fun _ => maintains_throw _
  | succ rounds ih =>
    refine maintains_then (maintains_ask (keeps rfl rfl)) fun exited => ?_
    split
    next => exact maintains_then (maintains_mk fun _ h => follows_keeps (keeps rfl rfl) h) fun _ => maintains_throw _
    next =>
      refine maintains_then (maintains_mk fun _ h => follows_keeps (keeps rfl rfl) h) fun connected => ?_
      split
      next => exact maintains_pure _
      next => exact maintains_then (maintains_sleep (keeps rfl rfl)) fun _ => ih

/-- A GDB server is started for a target that is known, and the session is for it. -/
theorem gates_gdbStart (path : Option PyStr) :
    Gates registry asked (Knows registry asked resolved lease identity) (gdbStart resolved path)
      fun session history => session.selector = resolved ∧ Knows registry asked resolved lease identity history := by
  have keeps : ∀ {call : Call}, call.steady = true → call.free = true →
      (gating registry asked).Keeps (Knows registry asked resolved lease identity) call :=
    fun steady free => persists_knows.keeps steady free
  have calls : ∀ {β : Type} {program : Coroutine β},
      Maintains (gating registry asked) (Knows registry asked resolved lease identity) program →
      Gates registry asked (Knows registry asked resolved lease identity) program
        fun _ => Knows registry asked resolved lease identity := fun h => gates_of_maintains h
  refine gates_then (calls (maintains_mk fun _ h => follows_keeps (keeps rfl rfl) h)) fun ports => ?_
  have spawns : Gates registry asked (Knows registry asked resolved lease identity)
      (ExceptT.mk (.call (Call.spawnServer resolved ports)))
      fun _ => Knows registry asked resolved lease identity := fun history h =>
    ⟨⟨lease, identity, h⟩, fun reply _ => by
      have hafter := @Knows.steady _ _ _ (.spawnServer resolved ports) reply _ _ _ h rfl
      cases reply with
      | ok server => exact hafter
      | error error => trivial⟩
  refine gates_then spawns fun server => ?_
  refine gates_then (calls (maintains_ask (keeps rfl rfl))) fun rounds => ?_
  refine gates_then (calls (maintains_waitForPort persists_knows ports.gdb server rounds)) fun _ => ?_
  refine gates_then (calls (maintains_mk fun _ h => follows_keeps (keeps rfl rfl) h)) fun controller => ?_
  have writes : ∀ command, Maintains (gating registry asked) (Knows registry asked resolved lease identity)
      (writeController controller command) := fun command => maintains_mk fun _ h => follows_keeps (keeps rfl rfl) h
  have loads : Maintains (gating registry asked) (Knows registry asked resolved lease identity)
      (loadSymbols controller path) := by
    cases path with
    | none => exact maintains_pure ()
    | some path => exact maintains_then (writes _) fun _ => maintains_pure ()
  refine gates_then (calls loads) fun _ => ?_
  refine gates_then (calls (writes _)) fun response => ?_
  split
  next =>
    refine gates_then (calls (maintains_mk fun _ h => follows_keeps (keeps rfl rfl) h)) fun _ => ?_
    have terminates : Maintains (gating registry asked) (Knows registry asked resolved lease identity)
        (terminateServer server) := by
      refine maintains_then (maintains_mk fun _ h => follows_keeps (keeps rfl rfl) h) fun found => ?_
      split
      next => exact maintains_pure _
      next => exact maintains_throw _
    refine gates_then (calls terminates) fun _ => ?_
    exact gates_then (calls (maintains_mk fun _ h => follows_keeps (keeps rfl rfl) h)) fun _ => gates_throw
  next => exact gates_pure fun _ h => ⟨rfl, h⟩

theorem gates_acquire_then {owner : PyStr} {next : Nat → Coroutine α} {after : α → History → Prop}
    (rest : ∀ lease, Gates registry asked (Holds registry asked resolved lease)
      (next lease) after) :
    Gates registry asked (Stands registry asked (some resolved) none none)
      (ExceptT.mk (.call (Call.acquire resolved.probeSerial owner)) >>= next) after := by
  have acquires : Gates registry asked (Stands registry asked (some resolved) none none)
      (ExceptT.mk (.call (Call.acquire resolved.probeSerial owner))) (Holds registry asked resolved) :=
    fun history h =>
    ⟨trivial, fun reply _ => by
      have hafter := @Stands.concat _ _ _ (.acquire resolved.probeSerial owner) reply _ _ _ h
      cases reply with
      | ok lease => exact hafter
      | error error => trivial⟩
  exact gates_then acquires rest

theorem freely_stamp : Freely registry asked (ask .stamp) := maintains_ask (keeps_free rfl)

theorem gates_startGdb (path : Option PyStr) :
    Gates registry asked (Stands registry asked none none none) (startGdb registry asked.selector path)
      fun _ _ => True := by
  refine gates_then gates_resolveSelectorWait fun resolved => ?_
  have paths : Maintains (gating registry asked) (Stands registry asked (some resolved) none none)
      (allowedPath? path) := maintains_allowedPath? (fun _ => persists_stands.keeps rfl rfl) path
  refine gates_then (gates_of_maintains paths) fun path => ?_
  refine gates_acquire_then fun lease => ?_
  have opens : Gates registry asked (Holds registry asked resolved lease)
      (orRelease lease do
        let identity ← identityPreflight registry resolved lease
        let session ← gdbStart resolved path
        ask (.openGdb session lease identity.observed)) fun _ _ => True := by
    refine gates_orRelease (gates_then gates_identityPreflight fun identity => ?_)
    refine gates_then (gates_gdbStart path) fun session => ?_
    refine gates_ask (fun _ h => ⟨identity, rfl, ?_⟩) fun _ _ _ _ => trivial
    rw [h.1]
    exact h.2
  refine gates_then opens fun info => gates_of_maintains ?_
  refine maintains_then (maintains_mk fun _ h => follows_keeps (keeps_free rfl) h) fun _ => ?_
  refine maintains_then freely_stamp fun stamp => ?_
  exact maintains_then (freely_append (blank_targetOf rfl)) fun _ => maintains_pure info

theorem gates_guiLaunch (application : PyStr) (arguments : List PyStr) :
    Gates registry asked (Knows registry asked resolved lease identity) (guiLaunch application arguments)
      fun _ => Knows registry asked resolved lease identity := by
  have keeps : ∀ {call : Call}, call.steady = true → call.free = true →
      (gating registry asked).Keeps (Knows registry asked resolved lease identity) call :=
    fun steady free => persists_knows.keeps steady free
  have prepares : Maintains (gating registry asked) (Knows registry asked resolved lease identity)
      (ExceptT.mk (.call (Call.prepareGui application arguments))) :=
    maintains_mk fun _ h => follows_keeps (keeps rfl rfl) h
  refine gates_then (gates_of_maintains prepares) fun _ => ?_
  have spawns : Gates registry asked (Knows registry asked resolved lease identity)
      (ExceptT.mk (.call (Call.spawnGui application arguments)))
      fun _ => Knows registry asked resolved lease identity := fun history h =>
    ⟨⟨resolved, lease, identity, h⟩, fun reply _ => by
      have hafter := @Knows.steady _ _ _ (.spawnGui application arguments) reply _ _ _ h rfl
      cases reply with
      | ok process => exact hafter
      | error error => trivial⟩
  refine gates_then spawns fun process => gates_of_maintains ?_
  refine maintains_then (maintains_sleep (keeps rfl rfl)) fun _ => ?_
  refine maintains_then (maintains_ask (keeps rfl rfl)) fun exited => ?_
  split
  next => exact maintains_then (maintains_mk fun _ h => follows_keeps (keeps rfl rfl) h) fun _ => maintains_throw _
  next => exact maintains_pure _

theorem gates_startGui (application : PyStr) (arguments : List PyStr) :
    Gates registry asked (Stands registry asked none none none)
      (startGui registry application arguments asked.selector) fun _ _ => True := by
  refine gates_then gates_resolveSelectorWait fun resolved => ?_
  refine gates_acquire_then fun lease => ?_
  have opens : Gates registry asked (Holds registry asked resolved lease)
      (orRelease lease do
        let identity ← identityPreflight registry resolved lease
        let process ← guiLaunch application arguments
        let sessionId : Nat ← ask (.openGui resolved process lease)
        return (identity, sessionId)) fun opened history =>
          Reading history resolved opened.1.observed := by
    refine gates_orRelease (gates_then gates_identityPreflight fun identity => ?_)
    refine gates_then (gates_guiLaunch application arguments) fun process => ?_
    have opened : Gates registry asked (Knows registry asked resolved lease identity)
        (ask (.openGui resolved process lease)) fun _ history => Reading history resolved identity.observed :=
      gates_ask (fun _ _ => trivial) fun _ h _ _ => h.reading.append _
    exact gates_then opened fun _ => gates_pure fun _ h => h
  refine gates_then opens fun opened => ?_
  have lasts : Lasts fun history => Reading history resolved opened.1.observed := fun _ _ h => h.append _
  refine gates_then (gates_of_maintains (maintains_ask (lasts.persists.keeps rfl rfl))) fun stamp => ?_
  refine gates_then (gates_append lasts.persists fun _ h => Or.inr ?_) fun _ => gates_pure fun _ _ => trivial
  exact ⟨resolved, opened.1.observed, h, rfl, rfl⟩

theorem freely_awaitEnd (process : Nat) : Freely registry asked (awaitEnd process) := by
  refine maintains_then (maintains_mk fun _ h => follows_keeps (keeps_free rfl) h) fun ended => ?_
  split
  next => exact maintains_pure ()
  next =>
    refine maintains_then (maintains_mk fun _ h => follows_keeps (keeps_free rfl) h) fun _ => ?_
    exact maintains_mk fun _ h => follows_keeps (keeps_free rfl) h

theorem freely_releaseEntry (forgotten : Option Nat) : Freely registry asked (releaseEntry forgotten) := by
  cases forgotten with
  | none => exact maintains_pure ()
  | some lease => exact maintains_ask (keeps_free rfl)

theorem freely_ensuring {body : Coroutine α} {cleanup : Coroutine Unit} (h : Freely registry asked body)
    (cleans : Freely registry asked cleanup) : Freely registry asked (ensuring body cleanup) :=
  fun history _ => follows_ensuring (h history trivial) fun _ later _ =>
    (cleans later trivial).mono fun _ _ _ => trivial

theorem freely_gdbStop (taken : Option SessionInfo) (resume : Bool) :
    Freely registry asked (gdbStop taken resume) := by
  cases taken with
  | none => exact maintains_pure ()
  | some info =>
    have writes : Freely registry asked (writeController info.session.controller
        (PyStr.ofString "-exec-continue")) := maintains_mk fun _ h => follows_keeps (keeps_free rfl) h
    have continues : Freely registry asked (if resume then
        discard (writeController info.session.controller (PyStr.ofString "-exec-continue")) else pure ()) := by
      split
      next => exact maintains_then writes fun _ => maintains_pure ()
      next => exact maintains_pure ()
    refine maintains_then (maintains_catching continues fun _ => maintains_pure ()) fun _ => ?_
    refine freely_ensuring (maintains_mk fun _ h => follows_keeps (keeps_free rfl) h) ?_
    refine maintains_then (maintains_ask (keeps_free rfl)) fun exited => ?_
    split
    next => exact maintains_pure ()
    next =>
      have terminates : Freely registry asked
          (discard (ExceptT.mk (.call (Call.terminate info.session.server)))) :=
        maintains_then (maintains_mk fun _ h => follows_keeps (keeps_free rfl) h) fun _ => maintains_pure ()
      exact maintains_then terminates fun _ => freely_awaitEnd _

theorem freely_stopGdb (sessionId : Nat) (resume : Bool) : Freely registry asked (stopGdb sessionId resume) := by
  refine maintains_then (maintains_ask (keeps_free rfl)) fun taken => ?_
  have stops : Freely registry asked (do
      gdbStop taken resume
      ExceptT.mk (.call (Call.deleteSession sessionId))) :=
    maintains_then (freely_gdbStop taken resume) fun _ => maintains_mk fun _ h => follows_keeps (keeps_free rfl) h
  have forgets : Freely registry asked (do releaseEntry (← ask (.forgetGdb sessionId))) :=
    maintains_then (maintains_ask (keeps_free rfl)) freely_releaseEntry
  refine maintains_then (freely_ensuring stops forgets) fun _ => ?_
  cases taken with
  | none => exact maintains_pure ()
  | some info => exact maintains_then freely_stamp fun stamp => freely_append rfl

theorem freely_guiStop (taken : Option (Resolved × Nat)) : Freely registry asked (guiStop taken) := by
  cases taken with
  | none => exact maintains_pure ()
  | some entry =>
    refine maintains_then (maintains_ask (keeps_free rfl)) fun exited => ?_
    split
    next => exact maintains_pure ()
    next =>
      refine maintains_then (maintains_mk fun _ h => follows_keeps (keeps_free rfl) h) fun found => ?_
      split
      next => exact freely_awaitEnd _
      next => exact maintains_pure ()

theorem freely_stopGui (sessionId : Nat) : Freely registry asked (stopGui sessionId) := by
  refine maintains_then (maintains_ask (keeps_free rfl)) fun taken => ?_
  have forgets : Freely registry asked (do releaseEntry (← ask (.forgetGui sessionId))) :=
    maintains_then (maintains_ask (keeps_free rfl)) freely_releaseEntry
  refine maintains_then (freely_ensuring (freely_guiStop taken) forgets) fun _ => ?_
  cases taken with
  | none => exact maintains_pure ()
  | some entry => exact maintains_then freely_stamp fun stamp => freely_append (blank_targetOf rfl)

theorem freely_gdbSession (sessionId : Nat) : Freely registry asked (gdbSession sessionId) := by
  refine maintains_then (maintains_ask (keeps_free rfl)) fun found => ?_
  cases found with
  | none => exact maintains_throw _
  | some info => exact maintains_pure info

theorem gates_gdbCommand (sessionId : Nat) (command : PyStr) :
    Gates registry asked (fun _ => True) (gdbCommand sessionId command)
      fun result history => Justified history result := by
  refine gates_then (gates_of_maintains (maintains_mk fun _ h => follows_keeps (keeps_free rfl) h)) fun _ => ?_
  refine gates_then (gates_of_maintains (freely_gdbSession sessionId)) fun session => ?_
  have writes : Freely registry asked (started (.call (Call.gdbWrite sessionId command))) :=
    maintains_started fun _ h => follows_keeps (keeps_free rfl) h
  refine gates_then (gates_of_maintains writes) fun reply => ?_
  refine gates_then (gates_of_maintains freely_stamp) fun stamp => ?_
  have blank : CommandResult.blank (gdbResult sessionId session command stamp reply) = true := blank_targetOf rfl
  refine gates_then (gates_of_maintains (freely_gdbSession sessionId)) fun info => ?_
  exact gates_weaken (gates_recorded rfl) fun _ _ => Or.inl blank

theorem gates_captureGdbChannel (sessionId : Nat) (channel : String) (duration : PyStr) (write : Option PyStr) :
    Gates registry asked (fun _ => True) (captureGdbChannel sessionId channel duration write)
      fun result history => Justified history result := by
  have captures : Gates registry asked (fun _ => True)
      (ExceptT.mk (.call (Call.captureChannel sessionId (PyStr.ofString channel))))
      fun result _ => CommandResult.blank result = true := fun _ _ =>
    ⟨trivial, fun reply promised => by
      cases reply with
      | ok result => exact promised
      | error error => trivial⟩
  refine gates_then captures fun result => ?_
  have known : Gates registry asked (fun _ => CommandResult.blank result = true) (gdbSession sessionId)
      fun _ _ => CommandResult.blank result = true := gates_of_maintains (by
    refine maintains_then (maintains_ask fun _ h => ⟨trivial, fun _ _ => h⟩) fun found => ?_
    cases found with
    | none => exact maintains_throw _
    | some info => exact maintains_pure info)
  refine gates_then known fun info => ?_
  exact gates_weaken (gates_recorded rfl) fun _ h => Or.inl h

theorem gates_resultOperation (operation : ResultOperation) :
    Gates registry operation.asked (Stands registry operation.asked none none none)
      (operation.program registry) fun result history => Justified history result := by
  cases operation with
  | hardware operation connects => exact gates_hardware operation connects
  | gdbCommand sessionId command => exact gates_weaken (gates_gdbCommand sessionId command) fun _ _ => trivial
  | captureGdbChannel sessionId channel duration write =>
    exact gates_weaken (gates_captureGdbChannel sessionId channel duration write) fun _ _ => trivial

theorem follows_gated {before : History → Prop} {program : Coroutine α} {after : α → History → Prop}
    (h : Gates registry asked before program after) (start : before []) :
    Follows (gating registry asked) [] (toTask program) fun _ _ => True :=
  follows_bind (h [] start) fun _ _ _ => follows_done trivial

/-- An identity that a result carries goes into what is reported of it. -/
theorem Justified.reported {history : History} {result : CommandResult} (h : Justified history result)
    (report : Report) : Justified history (report.entry result).result := by
  rcases h with blank | ⟨resolved, identity, reading, carries⟩
  · refine Or.inl ?_
    rw [CommandResult.blank, report.target]
    exact blank
  · exact Or.inr ⟨resolved, identity, reading, (report.probe result).trans carries.probe,
      (report.target result).trans carries.target⟩

/-- Every operation of the service keeps the gate. -/
theorem follows_serviceOperation (operation : ServiceOperation) :
    Follows (gating registry operation.asked) [] (operation.program registry) fun _ _ => True := by
  cases operation with
  | perform operation => exact follows_gated (gates_resultOperation operation) stands_nil
  | reported operation report =>
    have reports : Gates registry operation.asked (Stands registry operation.asked none none none)
        (do append (report.entry (← operation.program registry))) fun _ _ => True := by
      refine gates_then (gates_resultOperation operation) fun result => ?_
      exact gates_mono (gates_append (lasts_justified result).persists fun _ h => h.reported report) fun _ _ _ => trivial
    exact follows_gated reports stands_nil
  | session operation =>
    cases operation with
    | startGdb selector elfPath => exact follows_gated (gates_startGdb elfPath) stands_nil
    | stopGdb sessionId resume => exact follows_gated (gates_of_maintains (freely_stopGdb sessionId resume)) trivial
    | startGui application arguments selector =>
      exact follows_gated (gates_startGui application arguments) stands_nil
    | stopGui sessionId => exact follows_gated (gates_of_maintains (freely_stopGui sessionId)) trivial
  | record entry blank => exact follows_gated (gates_of_maintains (freely_append blank)) trivial

end sessions

end JLinkMcp.Service
