import JLinkMcp.ServiceCommands

namespace JLinkMcp.Service

open Host Audit TaskProgram

/-- The probes whose leases a coroutine has entered and not left. -/
def enteredAfter (entered : List PyStr) : (call : Call) → Reply call → List PyStr
  | .enter probeSerial _, .ok _ => probeSerial :: entered
  | .leave probeSerial, _ => entered.erase probeSerial
  | _, _ => entered

/-- A coroutine that makes only such calls, and that leaves only what it has entered. -/
def making (allowed : Call → Prop) : Discipline Call Reply (List PyStr) where
  may entered call := allowed call ∧ ∀ probeSerial, call = .leave probeSerial → probeSerial ∈ entered
  replied _ _ _ := True
  next entered call reply := enteredAfter entered call reply

/-- A coroutine that makes only such calls, and that leaves every lease that it enters and no other. -/
def Tidy {α : Type} (allowed : Call → Prop) (program : Coroutine α) : Prop :=
  ∀ entered, Follows (making allowed) entered program.run fun _ after => after = entered

/-- A call that neither enters nor leaves nor acquires a lease, and that runs no commands of Commander. -/
def Call.plain : Call → Bool
  | .enter _ _ | .leave _ | .acquire _ _ | .commander _ _ => false
  | _ => true

/-- What is allowed to every operation of the service. -/
structure Permits (allowed : Call → Prop) : Prop where
  plain : ∀ call, call.plain = true → allowed call
  enter : ∀ probeSerial owner, allowed (.enter probeSerial owner)
  leave : ∀ probeSerial, allowed (.leave probeSerial)
  commander : ∀ commands resolved, (∀ command ∈ commands, changesFlash command = false) →
    allowed (.commander commands resolved)

/-- Where the selector names a probe, the resolved one has it. -/
def Selects (selector : DeviceSelector) (resolved : Resolved) : Prop :=
  ∀ probeSerial, selector.probeSerial = some probeSerial → resolved.probeSerial = probeSerial

theorem selectProbe_eq {manifest : CapabilityManifest} {selector : DeviceSelector} {selected probeSerial : PyStr}
    (h : selectProbe manifest selector = .ok selected) (named : selector.probeSerial = some probeSerial) :
    selected = probeSerial := by
  rw [selectProbe, named] at h
  dsimp only at h
  split at h
  next => exact (Except.ok.inj h).symm
  next => cases h

theorem selects_of_resolveSelector {registry : TargetRegistry} {manifest : CapabilityManifest}
    {verified : PyStr → PyStr → Except ServiceError Bool} {selector : DeviceSelector} {resolved : Resolved}
    (h : resolveSelector registry manifest verified selector = .ok resolved) : Selects selector resolved := by
  intro probeSerial named
  rw [resolveSelector] at h
  split at h
  next => cases h
  next =>
    obtain ⟨profileId, _, h⟩ := Except.then_ok h
    split at h
    next profile hprofile =>
      dsimp only at h
      split at h
      next => cases h
      next =>
        obtain ⟨selected, hselected, h⟩ := Except.then_ok h
        obtain ⟨boardSerial, _, h⟩ := Except.then_ok h
        cases h
        cases hprobe : selectProbe manifest selector with
        | ok serial =>
          rw [hprobe] at hselected
          cases hselected
          exact selectProbe_eq hprobe named
        | error reason =>
          rw [hprobe] at hselected
          cases hselected
    next => cases h

variable {α β : Type} {allowed : Call → Prop}

theorem tidy_pure (value : α) : Tidy allowed (pure value) := fun _ => rfl

theorem tidy_throw (error : ServiceError) : Tidy allowed (throw error : Coroutine α) := fun _ => rfl

theorem tidy_orRaise (result : Except ServiceError α) : Tidy allowed (orRaise result) := fun _ => rfl

theorem tidy_then {program : Coroutine α} {next : α → Coroutine β} (first : Tidy allowed program)
    (rest : ∀ value, Tidy allowed (next value)) : Tidy allowed (program >>= next) := by
  intro entered
  refine follows_then (first entered) (fun value after h => ?_) (fun _ after h => h)
  rw [h]
  exact rest value entered

theorem tidy_discard {program : Coroutine α} (h : Tidy allowed program) : Tidy allowed (discard program) := by
  intro entered
  refine follows_bind (h entered) fun result after hafter => ?_
  cases result with
  | ok value => exact follows_done hafter
  | error error => exact follows_done hafter

theorem tidy_ensuring {body : Coroutine α} {cleanup : Coroutine Unit} (first : Tidy allowed body)
    (cleans : Tidy allowed cleanup) : Tidy allowed (ensuring body cleanup) := by
  intro entered
  refine follows_ensuring (first entered) fun result after h => ?_
  rw [h]
  exact (cleans entered).mono fun _ _ h => h

theorem tidy_catching {body : Coroutine α} {clause : ServiceError → Bool} {handler : ServiceError → Coroutine α}
    (first : Tidy allowed body) (caught : ∀ error, Tidy allowed (handler error)) :
    Tidy allowed (catching body clause handler) := by
  intro entered
  refine follows_catching (first entered) (fun _ _ h => h) (fun error after h _ => ?_) (fun _ _ h _ => h)
  rw [h]
  exact caught error entered

theorem enteredAfter_of_ne {entered : List PyStr} {call : Call} {reply : Reply call}
    (enter : ∀ probeSerial owner, call ≠ .enter probeSerial owner)
    (leave : ∀ probeSerial, call ≠ .leave probeSerial) : enteredAfter entered call reply = entered := by
  cases call with
  | enter probeSerial owner => exact absurd rfl (enter probeSerial owner)
  | leave probeSerial => exact absurd rfl (leave probeSerial)
  | _ => rfl

theorem enteredAfter_of_plain {entered : List PyStr} {call : Call} {reply : Reply call}
    (plain : call.plain = true) :
    enteredAfter entered call reply = entered :=
  enteredAfter_of_ne (fun _ _ h => by rw [h] at plain; cases plain) fun _ h => by rw [h] at plain; cases plain

/-- The calls that are plain are allowed. -/
abbrev Plainly (allowed : Call → Prop) : Prop := ∀ call, call.plain = true → allowed call

theorem may_of_plain {entered : List PyStr} {call : Call} (plain : call.plain = true) (permits : Plainly allowed) :
    (making allowed).may entered call :=
  ⟨permits call plain, fun _ h => by rw [h] at plain; cases plain⟩

/-- A call whose reply goes on as it is. -/
theorem tidy_ask {call : Call} (plain : call.plain = true) (permits : Plainly allowed) : Tidy allowed (ask call) :=
  fun _ => ⟨may_of_plain plain permits, fun _ _ => enteredAfter_of_plain plain⟩

theorem follows_plain (call : Call) (plain : call.plain = true) (permits : Plainly allowed)
    (entered : List PyStr) :
    Follows (making allowed) entered (.call call) fun _ after => after = entered :=
  follows_call (may_of_plain plain permits) fun _ _ => enteredAfter_of_plain plain

/-- A call whose reply may be an error. -/
theorem tidy_mk {program : Task Call Reply (Except ServiceError α)}
    (h : ∀ entered, Follows (making allowed) entered program fun _ after => after = entered) :
    Tidy allowed (ExceptT.mk program) := h

theorem tidy_started {program : Task Call Reply (Outcome α)}
    (h : ∀ entered, Follows (making allowed) entered program fun _ after => after = entered) :
    Tidy allowed (started program) := by
  intro entered
  refine follows_bind (h entered) fun outcome after hafter => ?_
  exact follows_done hafter

theorem tidy_withLease {probeSerial owner : PyStr} {body : Nat → Coroutine α} (permits : Permits allowed)
    (h : ∀ leaseId, Tidy allowed (body leaseId)) : Tidy allowed (withLease probeSerial owner body) := by
  intro entered
  refine ⟨⟨permits.enter probeSerial owner, fun _ h => (nomatch h)⟩, fun reply _ => ?_⟩
  cases reply with
  | error error => rfl
  | ok leaseId =>
    refine follows_ensuring (h leaseId (probeSerial :: entered)) fun result after hafter => ?_
    rw [hafter]
    refine ⟨⟨permits.leave probeSerial, fun _ h => ?_⟩, fun _ _ => ?_⟩
    · cases h
      exact List.mem_cons_self
    have herase : (probeSerial :: entered).erase probeSerial = entered := List.erase_cons_head _ _
    exact herase

section plain

variable (permits : Plainly allowed) {registry : TargetRegistry}
include permits

omit registry in
theorem tidy_sleep : Tidy allowed sleep := tidy_mk (follows_plain Call.sleep rfl permits)

omit registry in
theorem tidy_append (entry : AppendCall) : Tidy allowed (append entry) :=
  tidy_mk (follows_plain (Call.append entry) rfl permits)

omit registry in
theorem tidy_files (work : FileWork) : Tidy allowed (files work) :=
  tidy_mk (follows_plain (Call.files work) rfl permits)

omit registry in
theorem tidy_discover : Tidy allowed discover := tidy_mk (follows_plain Call.discover rfl permits)

omit registry in
theorem tidy_allowedPath? (path : Option PyStr) : Tidy allowed (allowedPath? path) := by
  cases path with
  | none => exact tidy_pure none
  | some path => exact tidy_then (tidy_files permits _) fun path => tidy_pure (some path)

/-- A selector that names a probe is resolved to that probe. -/
theorem follows_resolveRounds (selector : DeviceSelector) (rounds : Nat) (entered : List PyStr) :
    Follows (making allowed) entered (resolveRounds registry selector rounds).run fun result after =>
      after = entered ∧ ∀ resolved, result = .ok resolved → Selects selector resolved := by
  have once : Follows (making allowed) entered (do
      let discovery ← discover
      orRaise (resolveSelector registry discovery.manifest discovery.verified selector)).run
      fun result after => after = entered ∧ ∀ resolved, result = .ok resolved → Selects selector resolved := by
    refine follows_then (tidy_discover permits entered) (fun discovery after hafter => ?_)
      fun _ after hafter => ⟨hafter, fun _ h => (nomatch h)⟩
    exact follows_done ⟨hafter, fun resolved h => selects_of_resolveSelector h⟩
  induction rounds with
  | zero => exact once
  | succ rounds ih =>
    refine follows_catching once (fun _ _ h => h) (fun error after hafter _ => ?_) fun _ _ h _ => h
    rw [hafter.1]
    refine follows_then (tidy_sleep permits entered) (fun _ after hafter => ?_)
      fun _ after hafter => ⟨hafter, fun _ h => (nomatch h)⟩
    rw [hafter]
    exact ih

theorem follows_resolveSelectorWait (selector : DeviceSelector) (entered : List PyStr) :
    Follows (making allowed) entered (resolveSelectorWait registry selector).run fun result after =>
      after = entered ∧ ∀ resolved, result = .ok resolved → Selects selector resolved := by
  refine follows_then (@tidy_ask _ .deadline rfl permits entered) (fun rounds after hafter => ?_)
    fun _ after hafter => ⟨hafter, fun _ h => (nomatch h)⟩
  rw [hafter]
  exact follows_resolveRounds permits selector rounds entered

theorem tidy_resolveSelectorWait (selector : DeviceSelector) :
    Tidy allowed (resolveSelectorWait registry selector) := fun entered =>
  (follows_resolveSelectorWait permits selector entered).mono fun _ _ h => h.1

/-- What follows the resolution of a selector knows which probe it named. -/
theorem tidy_resolve_then {selector : DeviceSelector} {next : Resolved → Coroutine β}
    (rest : ∀ resolved, Selects selector resolved → Tidy allowed (next resolved)) :
    Tidy allowed (resolveSelectorWait registry selector >>= next) := by
  intro entered
  refine follows_then (follows_resolveSelectorWait permits selector entered) (fun resolved after hafter => ?_)
    fun _ after hafter => hafter.1
  rw [hafter.1]
  exact rest resolved (hafter.2 resolved rfl) entered

end plain

section operations

variable (permits : Permits allowed) {registry : TargetRegistry}
include permits

omit permits registry in
theorem tidy_execute {commands : List PyStr} {resolved : Resolved}
    (h : allowed (.commander commands resolved)) : Tidy allowed (execute commands resolved) :=
  tidy_started fun _ => follows_call ⟨h, fun _ hleave => (nomatch hleave)⟩ fun _ _ => rfl

theorem tidy_identityPreflight (resolved : Resolved) (leaseId : Nat) :
    Tidy allowed (identityPreflight registry resolved leaseId) := by
  refine tidy_then (tidy_execute (permits.commander _ resolved (by decide))) fun identity => ?_
  refine tidy_then (tidy_append permits.plain _) fun _ => ?_
  exact tidy_then (tidy_orRaise _) fun _ => tidy_pure identity

theorem tidy_resumeAfterIdentityPreflight (resolved : Resolved) (leaseId : Nat) (identity : CommanderResult)
    (action : PyStr) : Tidy allowed (resumeAfterIdentityPreflight resolved leaseId identity action) := by
  refine tidy_then (tidy_execute (permits.commander _ resolved (by decide))) fun executed => ?_
  refine tidy_then (tidy_append permits.plain _) fun _ => ?_
  split
  next => exact tidy_pure _
  next => exact tidy_throw _

theorem tidy_commanderCommands {commands : List PyStr} (h : ∀ resolved, allowed (.commander commands resolved))
    (selector : DeviceSelector) (action : String) (destructive : Bool) :
    Tidy allowed (commanderCommands registry commands selector action destructive) := by
  refine tidy_then (tidy_resolveSelectorWait permits.plain selector) fun resolved => ?_
  split
  next =>
    refine tidy_withLease permits fun leaseId => ?_
    refine tidy_then (tidy_execute (h resolved)) fun executed => ?_
    refine tidy_then (tidy_append permits.plain _) fun _ => ?_
    exact tidy_then (tidy_orRaise _) fun _ => tidy_pure _
  next =>
    refine tidy_then (tidy_withLease permits fun leaseId => ?_) fun result => ?_
    · refine tidy_then (tidy_identityPreflight permits resolved leaseId) fun identity => ?_
      refine tidy_then (tidy_execute (h resolved)) fun executed => ?_
      exact tidy_then (tidy_orRaise _) fun _ => tidy_pure _
    · exact tidy_then (tidy_append permits.plain _) fun _ => tidy_pure _

theorem tidy_executeApplication (request : ApplicationRequest) : Tidy allowed (executeApplication request) :=
  tidy_started (follows_plain (Call.application request.application request.arguments) rfl permits.plain)

theorem tidy_pause (milliseconds : Nat) : Tidy allowed (pause milliseconds) := by
  rw [pause]
  split
  next => exact tidy_sleep permits.plain
  next => exact tidy_pure ()

theorem tidy_applicationAttempts (request : ApplicationRequest) (evidence : List PyJson) (left : Nat) :
    Tidy allowed (applicationAttempts request evidence left) := by
  induction left generalizing evidence with
  | zero => exact tidy_then (tidy_executeApplication permits request) fun _ => tidy_pure _
  | succ left ih =>
    refine tidy_then (tidy_executeApplication permits request) fun result => ?_
    split
    next => exact tidy_pure _
    next => exact tidy_then (tidy_pause permits _) fun _ => ih _

theorem tidy_runApplication (request : ApplicationRequest) :
    Tidy allowed (runApplication registry request) := by
  rw [runApplication]
  split
  next => exact tidy_throw _
  next =>
    split
    next =>
      refine tidy_then (tidy_resolveSelectorWait permits.plain _) fun resolved => ?_
      refine tidy_then (tidy_withLease permits fun leaseId => ?_) fun result => ?_
      · refine tidy_then (tidy_identityPreflight permits resolved leaseId) fun identity => ?_
        refine tidy_then ?_ fun _ => ?_
        · rw [resumeApplication]
          split
          next =>
            have resumed := tidy_resumeAfterIdentityPreflight permits resolved leaseId identity
              (PyStr.ofString "application_resume:" ++ request.application)
            exact tidy_then (tidy_discard resumed) fun _ => tidy_pause permits _
          next => exact tidy_pure ()
        · exact tidy_then (tidy_applicationAttempts permits request [] _) fun _ => tidy_pure _
      · exact tidy_then (tidy_append permits.plain _) fun _ => tidy_pure result
    next =>
      refine tidy_then (tidy_executeApplication permits request) fun result => ?_
      exact tidy_then (tidy_append permits.plain _) fun _ => tidy_pure result

theorem tidy_waitForSerialBoard (resolved : Resolved) (rounds : Nat) :
    Tidy allowed (waitForSerialBoard resolved rounds) := by
  induction rounds with
  | zero => exact tidy_throw _
  | succ rounds ih =>
    refine tidy_then (tidy_discover permits.plain) fun discovery => ?_
    split
    next => exact tidy_pure _
    next => exact tidy_then (tidy_sleep permits.plain) fun _ => ih

theorem tidy_useSerialPort (request : SerialRequest) (resolved : Resolved) (sessionId : Nat) :
    Tidy allowed (useSerialPort request resolved sessionId) := by
  refine tidy_then (tidy_ask rfl permits.plain) fun rounds => ?_
  refine tidy_then (tidy_waitForSerialBoard permits resolved rounds) fun port => ?_
  exact tidy_then (tidy_started (follows_plain (Call.exchange port request.use) rfl permits.plain))
    fun _ => tidy_pure _

theorem tidy_serialOperation (request : SerialRequest) : Tidy allowed (serialOperation registry request) := by
  refine tidy_then (tidy_resolveSelectorWait permits.plain _) fun resolved => ?_
  refine tidy_then ?_ fun used => tidy_then (tidy_append permits.plain _) fun _ => tidy_pure _
  refine tidy_then (tidy_ask rfl permits.plain) fun found => ?_
  split
  next => exact tidy_then (tidy_useSerialPort permits request resolved _) fun _ => tidy_pure _
  next =>
    refine tidy_withLease permits fun leaseId => ?_
    refine tidy_then (tidy_identityPreflight permits resolved leaseId) fun identity => ?_
    refine tidy_then (tidy_resumeAfterIdentityPreflight permits resolved leaseId identity _) fun resume => ?_
    exact tidy_then (tidy_useSerialPort permits request resolved leaseId) fun _ => tidy_pure _

theorem tidy_serialExchange (selector : DeviceSelector) (write untilText : Option PyStr) (duration : PyStr) :
    Tidy allowed (serialExchange registry selector write untilText duration) := tidy_serialOperation permits _

theorem tidy_auditedSerialOperation (selector : DeviceSelector) (action : PyStr) (destructive : Bool)
    (request : JsonDict) : Tidy allowed (auditedSerialOperation registry selector action destructive request) :=
  tidy_serialOperation permits _

end operations

section sessions

theorem tidy_suppressing {body : Coroutine Unit} (h : Tidy allowed body) : Tidy allowed (suppressing body) :=
  tidy_catching h fun _ => tidy_pure ()

variable (permits : Permits allowed)
include permits

theorem tidy_terminateServer (server : Nat) : Tidy allowed (terminateServer server) := by
  refine tidy_then (tidy_mk (follows_plain (Call.terminate server) rfl permits.plain)) fun found => ?_
  split
  next => exact tidy_pure ()
  next => exact tidy_throw _

theorem tidy_awaitExit (process : Nat) :
    Tidy allowed (ExceptT.mk (.call (Call.awaitExit process)) : Coroutine Unit) :=
  tidy_mk (follows_plain (Call.awaitExit process) rfl permits.plain)

theorem tidy_waitForPort (port server rounds : Nat) : Tidy allowed (waitForPort port server rounds) := by
  induction rounds with
  | zero =>
    refine tidy_then (tidy_terminateServer permits server) fun _ => ?_
    exact tidy_then (tidy_awaitExit permits server) fun _ => tidy_throw _
  | succ rounds ih =>
    refine tidy_then (tidy_ask rfl permits.plain) fun exited => ?_
    split
    next => exact tidy_then (tidy_mk (follows_plain (Call.readOutput server) rfl permits.plain)) fun _ =>
      tidy_throw _
    next =>
      refine tidy_then (tidy_mk (follows_plain (Call.connectPort port) rfl permits.plain)) fun connected => ?_
      split
      next => exact tidy_pure ()
      next => exact tidy_then (tidy_sleep permits.plain) fun _ => ih

theorem tidy_writeController (controller : Nat) (command : PyStr) :
    Tidy allowed (writeController controller command) :=
  tidy_mk (follows_plain (Call.controllerWrite controller command) rfl permits.plain)

theorem tidy_exitController (controller : Nat) :
    Tidy allowed (ExceptT.mk (.call (Call.exitController controller)) : Coroutine Unit) :=
  tidy_mk (follows_plain (Call.exitController controller) rfl permits.plain)

theorem tidy_gdbStart (selector : Resolved) (elfPath : Option PyStr) :
    Tidy allowed (gdbStart selector elfPath) := by
  refine tidy_then (tidy_mk (follows_plain (Call.prepareGdb selector) rfl permits.plain)) fun ports => ?_
  refine tidy_then (tidy_mk (follows_plain (Call.spawnServer selector ports) rfl permits.plain)) fun server => ?_
  refine tidy_then (tidy_ask rfl permits.plain) fun rounds => ?_
  refine tidy_then (tidy_waitForPort permits _ server rounds) fun _ => ?_
  refine tidy_then (tidy_mk (follows_plain Call.openController rfl permits.plain)) fun controller => ?_
  refine tidy_then ?_ fun _ => tidy_then (tidy_writeController permits controller _) fun response => ?_
  · cases elfPath with
    | none => exact tidy_pure ()
    | some path => exact tidy_discard (tidy_writeController permits controller _)
  · split
    next =>
      refine tidy_then (tidy_exitController permits controller) fun _ => ?_
      refine tidy_then (tidy_terminateServer permits server) fun _ => ?_
      exact tidy_then (tidy_awaitExit permits server) fun _ => tidy_throw _
    next => exact tidy_pure _

theorem tidy_orRelease {body : Coroutine α} (h : Tidy allowed body) (leaseId : Nat) :
    Tidy allowed (orRelease leaseId body) :=
  tidy_catching h fun _ => tidy_then (tidy_ask rfl permits.plain) fun _ => tidy_throw _

theorem tidy_openGdbSession {registry : TargetRegistry} (resolved : Resolved) (path : Option PyStr)
    (leaseId : Nat) :
    Tidy allowed (openGdbSession registry resolved path leaseId) := by
  refine tidy_then (tidy_orRelease permits ?_ leaseId) fun info => ?_
  · refine tidy_then (tidy_identityPreflight permits resolved leaseId) fun identity => ?_
    exact tidy_then (tidy_gdbStart permits resolved path) fun session => tidy_ask rfl permits.plain
  · refine tidy_then (tidy_mk (follows_plain (Call.upsertSession info) rfl permits.plain)) fun _ => ?_
    refine tidy_then (tidy_ask rfl permits.plain) fun stamp => ?_
    exact tidy_then (tidy_append permits.plain _) fun _ => tidy_pure info

theorem tidy_startGdb {registry : TargetRegistry} {selector : DeviceSelector}
    (acquires : ∀ resolved owner, Selects selector resolved → allowed (.acquire resolved.probeSerial owner))
    (elfPath : Option PyStr) : Tidy allowed (startGdb registry selector elfPath) := by
  refine tidy_resolve_then permits.plain fun resolved selects => ?_
  refine tidy_then (tidy_allowedPath? permits.plain elfPath) fun path => ?_
  refine tidy_then (tidy_mk fun _ => ?_) fun leaseId => tidy_openGdbSession permits resolved path leaseId
  exact follows_call ⟨acquires resolved _ selects, fun _ h => (nomatch h)⟩ fun _ _ => rfl

theorem tidy_awaitEnd (process : Nat) : Tidy allowed (awaitEnd process) := by
  refine tidy_then (tidy_mk (follows_plain (Call.awaitExitBriefly process) rfl permits.plain)) fun ended => ?_
  split
  next => exact tidy_pure ()
  next =>
    refine tidy_then (tidy_mk (follows_plain (Call.kill process) rfl permits.plain)) fun _ => ?_
    exact tidy_awaitExit permits process

theorem tidy_gdbStop (taken : Option SessionInfo) (resume : Bool) : Tidy allowed (gdbStop taken resume) := by
  cases taken with
  | none => exact tidy_pure ()
  | some info =>
    refine tidy_then (tidy_suppressing ?_) fun _ => tidy_ensuring (tidy_exitController permits _) ?_
    · split
      next => exact tidy_discard (tidy_writeController permits _ _)
      next => exact tidy_pure ()
    · refine tidy_then (tidy_ask rfl permits.plain) fun exited => ?_
      split
      next => exact tidy_pure ()
      next =>
        have terminates := tidy_mk (follows_plain (Call.terminate info.session.server) rfl permits.plain)
        exact tidy_then (tidy_discard terminates) fun _ => tidy_awaitEnd permits _

theorem tidy_releaseEntry (forgotten : Option Nat) : Tidy allowed (releaseEntry forgotten) := by
  cases forgotten with
  | none => exact tidy_pure ()
  | some leaseId => exact tidy_ask rfl permits.plain

theorem tidy_stopGdb (sessionId : Nat) (resume : Bool) : Tidy allowed (stopGdb sessionId resume) := by
  refine tidy_then (tidy_ask rfl permits.plain) fun taken => ?_
  refine tidy_then (tidy_ensuring ?_ ?_) fun _ => ?_
  · refine tidy_then (tidy_gdbStop permits taken resume) fun _ => ?_
    exact tidy_mk (follows_plain (Call.deleteSession sessionId) rfl permits.plain)
  · exact tidy_then (tidy_ask rfl permits.plain) fun forgotten => tidy_releaseEntry permits forgotten
  · cases taken with
    | none => exact tidy_pure ()
    | some info => exact tidy_then (tidy_ask rfl permits.plain) fun stamp => tidy_append permits.plain _

theorem tidy_gdbSession (sessionId : Nat) : Tidy allowed (gdbSession sessionId) := by
  refine tidy_then (tidy_ask rfl permits.plain) fun found => ?_
  split
  next => exact tidy_pure _
  next => exact tidy_throw _

theorem tidy_gdbCommand (sessionId : Nat) (command : PyStr) : Tidy allowed (gdbCommand sessionId command) := by
  refine tidy_then (tidy_mk (follows_plain (Call.validateGdb command) rfl permits.plain)) fun _ => ?_
  refine tidy_then (tidy_gdbSession permits sessionId) fun session => ?_
  refine tidy_then (tidy_started (follows_plain (Call.gdbWrite sessionId command) rfl permits.plain))
    fun reply => ?_
  refine tidy_then (tidy_ask rfl permits.plain) fun stamp => ?_
  refine tidy_then (tidy_gdbSession permits sessionId) fun info => ?_
  exact tidy_then (tidy_append permits.plain _) fun _ => tidy_pure _

theorem tidy_captureGdbChannel (sessionId : Nat) (channel : String) (duration : PyStr) (write : Option PyStr) :
    Tidy allowed (captureGdbChannel sessionId channel duration write) := by
  have captures := tidy_mk
      (follows_plain (Call.captureChannel sessionId (PyStr.ofString channel)) rfl permits.plain)
  refine tidy_then captures fun result => ?_
  refine tidy_then (tidy_gdbSession permits sessionId) fun info => ?_
  exact tidy_then (tidy_append permits.plain _) fun _ => tidy_pure result

end sessions

section commands

variable (permits : Permits allowed) {registry : TargetRegistry}
include permits

/-- Commands that change no flash. -/
theorem tidy_harmless {commands : List PyStr} (h : ∀ command ∈ commands, changesFlash command = false)
    (selector : DeviceSelector) (action : String) (destructive : Bool) :
    Tidy allowed (commanderCommands registry commands selector action destructive) :=
  tidy_commanderCommands permits (fun resolved => permits.commander commands resolved h) selector action destructive

theorem tidy_connect (selector : DeviceSelector) : Tidy allowed (connect registry selector) :=
  tidy_harmless permits (by decide) selector "connect" false

theorem tidy_reset (selector : DeviceSelector) (halt : Bool) (resetType : Option Int) :
    Tidy allowed (reset registry selector halt resetType) := by
  rw [reset]
  split
  next => exact tidy_throw _
  next =>
    refine tidy_harmless permits (fun command hcommand => ?_) selector _ true
    rcases List.mem_append.mp hcommand with hcommand | hcommand
    · obtain ⟨n, _, rfl⟩ := Option.map_eq_some_iff.mp (Option.mem_toList.mp hcommand)
      exact changesFlash_withOperands (dumpsInt n) (by decide)
    · have harmless : ∀ command ∈ (if halt then ["Reset", "Halt"] else ["Reset", "Go"]).map PyStr.ofString,
          changesFlash command = false := by
        cases halt <;> decide
      exact harmless command hcommand

theorem tidy_readMemory (address : Int) (count width : Nat) (selector : DeviceSelector) :
    Tidy allowed (readMemory registry address count width selector) := by
  rw [readMemory]
  split
  next => exact tidy_throw _
  next =>
    split
    next => exact tidy_throw _
    next hwidth =>
      refine tidy_harmless permits (fun command hcommand => ?_) selector _ false
      rw [List.mem_singleton.mp hcommand]
      have hwidth : width ∈ [8, 16, 32] := not_not.mp hwidth
      simp only [List.mem_cons, List.not_mem_nil, or_false] at hwidth
      rcases hwidth with rfl | rfl | rfl
      all_goals exact changesFlash_withOperands _ (by decide)

theorem tidy_writeMemory (address : Int) (values : List Int) (width : Nat) (selector : DeviceSelector) :
    Tidy allowed (writeMemory registry address values width selector) := by
  rw [writeMemory]
  split
  next => exact tidy_throw _
  next =>
    split
    next => exact tidy_throw _
    next hwidth =>
      split
      next => exact tidy_throw _
      next =>
        refine tidy_harmless permits (fun command hcommand => ?_) selector _ true
        rw [List.mem_singleton.mp hcommand]
        have hwidth : width ∈ [8, 16, 32] := not_not.mp hwidth
        simp only [List.mem_cons, List.not_mem_nil, or_false] at hwidth
        rcases hwidth with rfl | rfl | rfl
        all_goals exact changesFlash_withOperands _ (by decide)

theorem tidy_verifyBinary (path : PyStr) (address : Int) (selector : DeviceSelector) :
    Tidy allowed (verifyBinary registry path address selector) := by
  refine tidy_then (tidy_files permits.plain _) fun artifact => ?_
  split
  next => exact tidy_throw _
  next =>
    refine tidy_harmless permits (fun command hcommand => ?_) selector _ false
    rw [List.mem_singleton.mp hcommand]
    exact changesFlash_withOperands _ (by decide)

theorem tidy_raw {commands : List PyStr} (h : ∀ command ∈ commands, changesFlash command = false)
    (selector : DeviceSelector) (destructive : Bool) :
    Tidy allowed (raw registry commands selector destructive) :=
  tidy_harmless permits h selector "raw_commander" _

end commands

end JLinkMcp.Service
