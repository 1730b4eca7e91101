import JLinkMcp.FlashRestoration
import JLinkMcp.LeaseManager
import JLinkMcp.ServiceBench

namespace JLinkMcp.Giga

open Host Audit Service TaskProgram

/-- The workflows of the Arduino GIGA extension and what they are called with. -/
inductive Workflow where
  | buildFirmware (sketch core flashSplit : PyStr)
  | flashAndVerify (artifactPath : PyStr) (selector : DeviceSelector)
  | flashBinary (artifactPath : PyStr) (address : Int) (selector : DeviceSelector)
  | backupFlash (address size : Int) (selector : DeviceSelector)
  | hardwarePreflight (selector : DeviceSelector) (prepareDualCore : Bool)
  | prepareGigaDualCoreDebug (selector : DeviceSelector)
  | dualCoreDeploy (selector : DeviceSelector) (m7Sketch m4Sketch flashSplit : PyStr)
  | bootAndObserve (selector : DeviceSelector) (m7ElfPath m4ElfPath : Option PyStr)
  | debugFixture (elfPath : PyStr) (selector : DeviceSelector)
  | crashCapture (elfPath : PyStr) (selector : DeviceSelector)
  | compareFirmware (artifactPath : PyStr) (address : Int) (selector : DeviceSelector)
  | compareBackupRegion (backupPath : PyStr) (backupOffset address size : Int) (selector : DeviceSelector)
  | captureRtt (elfPath : PyStr) (selector : DeviceSelector) (duration channel : Nat) (deviceName : PyStr)
  | restoreBackup (backupPath : PyStr) (address : Int) (expectedSha256 : PyStr) (selector : DeviceSelector)
  | generateValidationReport (title : PyStr)
  | validateFixture (selector : DeviceSelector) (m7Sketch m4Sketch : PyStr)

namespace Workflow

def Result : Workflow → Type
  | buildFirmware _ _ _ => BuildResult
  | flashAndVerify _ _ | flashBinary _ _ _ => CommandResult
  | backupFlash _ _ _ => CommandResult × Option Artifact
  | hardwarePreflight _ _ => Preflight
  | prepareGigaDualCoreDebug _ => DualCorePreparation
  | dualCoreDeploy _ _ _ _ => Deployment
  | bootAndObserve _ _ _ => Observation
  | debugFixture _ _ | crashCapture _ _ => DebugReport
  | compareFirmware _ _ _ | compareBackupRegion _ _ _ _ _ => Comparison
  | captureRtt _ _ _ _ _ => RttReport
  | restoreBackup _ _ _ _ => Restored
  | generateValidationReport _ => Bool × List Artifact
  | validateFixture _ _ _ => ValidationReport

/-- What a workflow asks the service for. -/
def program (registry : TargetRegistry) (profile : TargetProfile) : (workflow : Workflow) →
    Coroutine workflow.Result
  | buildFirmware sketch core flashSplit => Giga.buildFirmware sketch core flashSplit
  | flashAndVerify artifactPath selector => Giga.flashAndVerify registry artifactPath selector
  | flashBinary artifactPath address selector => Giga.flashBinary registry artifactPath address selector
  | backupFlash address size selector => Giga.backupFlash registry address size selector
  | hardwarePreflight selector prepareDualCore => Giga.hardwarePreflight registry selector prepareDualCore
  | prepareGigaDualCoreDebug selector => Giga.prepareGigaDualCoreDebug registry selector
  | dualCoreDeploy selector m7Sketch m4Sketch flashSplit =>
    Giga.dualCoreDeploy registry selector m7Sketch m4Sketch flashSplit
  | bootAndObserve selector m7ElfPath m4ElfPath => Giga.bootAndObserve registry selector m7ElfPath m4ElfPath
  | debugFixture elfPath selector => Giga.debugFixture registry elfPath selector
  | crashCapture elfPath selector => Giga.crashCapture registry elfPath selector
  | compareFirmware artifactPath address selector => Giga.compareFirmware registry artifactPath address selector
  | compareBackupRegion backupPath backupOffset address size selector =>
    Giga.compareBackupRegion registry backupPath backupOffset address size selector
  | captureRtt elfPath selector duration channel deviceName =>
    Giga.captureRtt registry elfPath selector duration channel deviceName
  | restoreBackup backupPath address expectedSha256 selector =>
    Giga.restoreBackup registry backupPath address expectedSha256 selector
  | generateValidationReport title => files (.validationReport title)
  | validateFixture selector m7Sketch m4Sketch => ExceptT.mk
    (interpret (implement registry profile) (Giga.validateFixture selector m7Sketch m4Sketch).run)

def isValidateFixture : Workflow → Bool
  | validateFixture _ _ _ => true
  | _ => false

end Workflow

/-- The leases that a task holds: the probes that it has entered and not left, and what it has acquired and
not released. -/
structure Holding where
  entered : List PyStr := []
  acquired : List (Nat × PyStr) := []

def acquiredAfter (acquired : List (Nat × PyStr)) : (call : Call) → Service.Reply call → List (Nat × PyStr)
  | .acquire probeSerial _, .ok leaseId => (leaseId, probeSerial) :: acquired
  | .release leaseId, _ => acquired.filter fun lease => lease.1 ≠ leaseId
  | _, _ => acquired

namespace Holding

def next (holding : Holding) (call : Call) (reply : Service.Reply call) : Holding :=
  ⟨enteredAfter holding.entered call reply, acquiredAfter holding.acquired call reply⟩

def holds (holding : Holding) (probeSerial : PyStr) : Bool :=
  holding.entered.contains probeSerial || holding.acquired.any fun lease => lease.2 = probeSerial

/-- What a task holds after these turns. -/
def after (turns : List (Turn Call Service.Reply)) : Holding :=
  turns.foldl (fun holding turn => holding.next turn.call turn.reply) {}

end Holding

/-- `acquire` waits for a lease whoever holds it; `lease` yields one that the task holds already. -/
def waitsForItself (holding : Holding) : Call → Bool
  | .acquire probeSerial _ => holding.holds probeSerial
  | _ => false

/-- The call that `start_gdb` makes for its lease. -/
def acquiresLease : Call → Bool
  | .acquire _ _ => true
  | _ => false

/-- A lease that is held is granted once more. -/
def grantsHeld (entered : List PyStr) : (call : Call) → Service.Reply call → Bool
  | .acquire probeSerial _, .ok _ => entered.contains probeSerial
  | _, _ => false

section unblocked

variable {α β : Type} {registry : TargetRegistry}

/-- A task that never waits for a lease that it holds. -/
def leasing : Discipline Call Service.Reply Holding where
  may holding call := waitsForItself holding call = false
  replied _ _ _ := True
  next := Holding.next

/-- A workflow that is called while nothing is held, and that never waits for itself. -/
def Unblocked (program : Coroutine α) : Prop := Follows leasing {} program.run fun _ _ => True

theorem permits_noAcquire : Permits fun call => acquiresLease call = false where
  plain call plain := by cases call <;> first | rfl | cases plain
  enter _ _ := rfl
  leave _ := rfl
  commander _ _ _ := rfl

theorem waitsForItself_of_noAcquire {holding : Holding} {call : Call} (h : acquiresLease call = false) :
    waitsForItself holding call = false := by
  cases call <;> first | rfl | cases h

/-- What acquires nothing waits for nothing of its own, whatever is held. -/
theorem follows_leasing {program : Coroutine α} (h : Tidy (fun call => acquiresLease call = false) program)
    (holding : Holding) : Follows leasing holding program.run fun _ _ => True := by
  let related (_ : List PyStr) (_ : Holding) : Prop := True
  have simulated : Follows leasing holding program.run fun _ holding => ∃ entered,
      related entered holding ∧ entered = [] := by
    refine (h []).simulated (fun _ _ call _ may => ⟨?_, fun _ _ => ⟨trivial, trivial⟩⟩) trivial
    exact waitsForItself_of_noAcquire may.1
  exact simulated.mono fun _ _ _ => trivial

theorem next_of_plain {call : Call} (plain : call.plain = true) (reply : Service.Reply call) :
    Holding.next {} call reply = {} := by
  cases call <;> first | rfl | cases plain

/-- What makes plain calls holds nothing afterwards where nothing was held. -/
theorem follows_plainly {program : Coroutine α} (h : Tidy (fun call => call.plain = true) program) :
    Follows leasing {} program.run fun _ holding => holding = {} := by
  let related (_ : List PyStr) (holding : Holding) : Prop := holding = {}
  have start : related [] {} := Eq.refl ({} : Holding)
  have simulated : Follows leasing {} program.run fun _ holding => ∃ entered, related entered holding ∧
      entered = [] := by
    refine (h []).simulated (fun _ holding call empty may => ?_) start
    have empty : holding = {} := empty
    rw [empty]
    refine ⟨waitsForItself_of_noAcquire (permits_noAcquire.plain call may.1), fun reply _ => ⟨trivial, ?_⟩⟩
    exact next_of_plain may.1 reply
  exact simulated.mono fun _ _ h => h.choose_spec.1

theorem unblocked_of_tidy {program : Coroutine α}
    (h : Tidy (fun call => acquiresLease call = false) program) : Unblocked program := follows_leasing h {}

theorem unblocked_plain_then {program : Coroutine α} {next : α → Coroutine β}
    (first : Tidy (fun call => call.plain = true) program) (rest : ∀ value, Unblocked (next value)) :
    Unblocked (program >>= next) := by
  refine follows_then (follows_plainly first) (fun value holding empty => ?_) fun _ _ _ => trivial
  rw [empty]
  exact rest value

theorem unblocked_then {program : Coroutine α} {next : α → Coroutine β} (first : Unblocked program)
    (rest : ∀ value, Tidy (fun call => acquiresLease call = false) (next value)) :
    Unblocked (program >>= next) :=
  follows_then first (fun value holding _ => follows_leasing (rest value) holding) fun _ _ _ => trivial

theorem plainly : Plainly fun call => call.plain = true := fun _ h => h

theorem unblocked_startGdb (selector : DeviceSelector) (elfPath : Option PyStr) :
    Unblocked (startGdb registry selector elfPath) := by
  refine unblocked_plain_then (tidy_resolveSelectorWait plainly selector) fun resolved => ?_
  refine unblocked_plain_then (tidy_allowedPath? plainly elfPath) fun path => ?_
  refine unblocked_then ?_ fun leaseId => tidy_openGdbSession permits_noAcquire resolved path leaseId
  exact follows_call rfl fun _ _ => trivial

theorem unblocked_debugFixture (elfPath : PyStr) (selector : DeviceSelector) :
    Unblocked (debugFixture registry elfPath selector) := by
  refine unblocked_plain_then (tidy_resolveSelectorWait plainly selector) fun resolved => ?_
  exact unblocked_then (unblocked_startGdb _ _) fun info => tidy_debugSession permits_noAcquire resolved info

theorem unblocked_crashCapture (elfPath : PyStr) (selector : DeviceSelector) :
    Unblocked (crashCapture registry elfPath selector) := by
  refine unblocked_plain_then (tidy_resolveSelectorWait plainly selector) fun resolved => ?_
  exact unblocked_then (unblocked_startGdb _ _) fun info => tidy_crashSession permits_noAcquire resolved info

theorem unblocked_captureChannelTo (resolved : Resolved) (elf deviceName : PyStr)
    (rttAddress duration channel : Nat) (destination : PyStr) :
    Unblocked (captureChannelTo registry resolved elf deviceName rttAddress duration channel destination) := by
  rw [captureChannelTo]
  split
  next =>
    have captures : Unblocked (captureThroughGdb registry resolved elf rttAddress (secondsText duration)) :=
      unblocked_then (unblocked_startGdb _ _) fun info => tidy_rttSession permits_noAcquire _ _ info
    refine unblocked_then captures fun result => ?_
    split
    next => exact tidy_pure result
    next => exact tidy_then (tidy_files permits_noAcquire.plain _) fun _ => tidy_pure result
  next => exact unblocked_of_tidy (tidy_runApplication permits_noAcquire _)

theorem unblocked_captureRtt (elfPath : PyStr) (selector : DeviceSelector) (duration channel : Nat)
    (deviceName : PyStr) : Unblocked (captureRtt registry elfPath selector duration channel deviceName) := by
  have permits := permits_noAcquire
  rw [captureRtt]
  split
  next => exact unblocked_of_tidy (tidy_throw _)
  next =>
    split
    next => exact unblocked_of_tidy (tidy_throw _)
    next =>
      refine unblocked_plain_then (tidy_resolveSelectorWait plainly selector) fun resolved => ?_
      refine unblocked_plain_then (tidy_files plainly _) fun elf => ?_
      refine unblocked_plain_then (tidy_files plainly _) fun symbols => ?_
      split
      next => exact unblocked_of_tidy (tidy_throw _)
      next rttAddress _ =>
        refine unblocked_plain_then (tidy_files plainly _) fun destination => ?_
        refine unblocked_then (unblocked_captureChannelTo _ _ _ _ _ _ _) fun result => ?_
        refine tidy_then (tidy_files permits.plain _) fun saved => ?_
        split
        next =>
          refine tidy_then (tidy_files permits.plain _) fun artifact => ?_
          refine tidy_then (tidy_files permits.plain _) fun _ => ?_
          refine tidy_then (tidy_files permits.plain _) fun text => ?_
          refine tidy_then (tidy_ask rfl permits.plain) fun stamp => ?_
          exact tidy_then (tidy_append permits.plain _) fun _ => tidy_pure _
        next => exact tidy_pure _

/-- Every workflow but one never waits for a lease of its own. -/
theorem unblocked_of_ne {profile : TargetProfile} {workflow : Workflow} (h : workflow.isValidateFixture = false) :
    Unblocked (workflow.program registry profile) := by
  have permits := permits_noAcquire
  have flashes : ∀ commands resolved, acquiresLease (.commander commands resolved) = false := fun _ _ => rfl
  cases workflow with
  | buildFirmware sketch core flashSplit => exact unblocked_of_tidy (tidy_buildFirmware permits _ _ _)
  | flashAndVerify artifactPath selector => exact unblocked_of_tidy (tidy_flashAndVerify permits flashes _ _)
  | flashBinary artifactPath address selector => exact unblocked_of_tidy (tidy_flashBinary permits flashes _ _ _)
  | backupFlash address size selector => exact unblocked_of_tidy (tidy_backupFlash permits _ _ _)
  | hardwarePreflight selector prepareDualCore => exact unblocked_of_tidy (tidy_hardwarePreflight permits _ _)
  | prepareGigaDualCoreDebug selector => exact unblocked_of_tidy (tidy_prepareGigaDualCoreDebug permits _)
  | dualCoreDeploy selector m7Sketch m4Sketch flashSplit =>
    exact unblocked_of_tidy (tidy_dualCoreDeploy permits flashes _ _ _ _)
  | bootAndObserve selector m7ElfPath m4ElfPath => exact unblocked_of_tidy (tidy_bootAndObserve permits _ _ _)
  | debugFixture elfPath selector => exact unblocked_debugFixture elfPath selector
  | crashCapture elfPath selector => exact unblocked_crashCapture elfPath selector
  | compareFirmware artifactPath address selector => exact unblocked_of_tidy (tidy_compareFirmware permits _ _ _)
  | compareBackupRegion backupPath backupOffset address size selector =>
    exact unblocked_of_tidy (tidy_compareBackupRegion permits _ _ _ _ _)
  | captureRtt elfPath selector duration channel deviceName => exact unblocked_captureRtt _ _ _ _ _
  | restoreBackup backupPath address expectedSha256 selector =>
    exact unblocked_of_tidy (tidy_restoreBackup permits flashes _ _ _ _)
  | generateValidationReport title => exact unblocked_of_tidy (tidy_files permits.plain _)
  | validateFixture selector m7Sketch m4Sketch => cases h

end unblocked

section validation

/-- Whether a step that starts a GDB session gave its report. -/
def debugged : (step : Step) → step.Reply → Bool
  | .debugFixture _ _, .ok _ | .crashCapture _ _, .ok _ => true
  | _, _ => false

/-- A transaction that starts GDB sessions on probes whose leases it holds. Where leases that are held are
not granted once more, no session gives its report. -/
def validating (truthful : Prop) : Discipline Step Step.Reply (List PyStr) where
  may held step := (∀ probeSerial, step = .leave probeSerial → probeSerial ∈ held) ∧
    ∀ selector, step.session? = some selector → ∃ probeSerial ∈ held, selector.probeSerial = some probeSerial
  replied _ step reply := truthful → debugged step reply = false
  next := heldAfter

/-- A task that acquires only leases that it has entered. -/
def blocking (truthful : Prop) : Discipline Call Service.Reply (List PyStr) where
  may entered call := ∀ probeSerial owner, call = .acquire probeSerial owner → probeSerial ∈ entered
  replied entered call reply := truthful → grantsHeld entered call reply = false
  next := enteredAfter

/-- The names of the steps that need a GDB session. -/
def sessionSteps : List String := ["debug_assertions", "controlled_crash"]

def NotDebugged (steps : List ValidationStep) : Prop := ∀ step ∈ steps, step.name ∉ sessionSteps

variable {truthful : Prop} {held : List PyStr} {resolved : Resolved} {m7Sketch m4Sketch : PyStr}

theorem notDebugged_append {steps others : List ValidationStep} (h : NotDebugged steps) (h' : NotDebugged others) :
    NotDebugged (steps ++ others) := by
  intro step hstep
  rcases List.mem_append.mp hstep with hstep | hstep
  · exact h step hstep
  · exact h' step hstep

theorem notDebugged_one (name : String) (h : name ∉ sessionSteps) (ok : Bool) (details : StepDetails) :
    NotDebugged [⟨name, ok, details⟩] := by
  intro other hother
  rw [List.mem_singleton.mp hother]
  exact h

/-- A step that neither enters nor leaves a lease and starts no session. -/
def ordinary : Step → Bool
  | .enter _ _ | .leave _ | .debugFixture _ _ | .crashCapture _ _ => false
  | _ => true

theorem follows_ordinary (step : Step) (h : ordinary step = true) :
    Follows (validating truthful) held (.call step) fun _ after => after = held := by
  refine follows_call ⟨fun probeSerial hstep => ?_, fun selector hsession => ?_⟩ fun reply _ => ?_
  · rw [hstep] at h
    cases h
  · cases step <;> first | (cases hsession; done) | cases h
  · cases step <;> first | rfl | cases h

/-- A session on the probe whose lease is held gives no report, where that lease is not granted again. -/
theorem follows_session (step : Step) {selector : DeviceSelector} {probeSerial : PyStr}
    (hstep : step.session? = some selector) (named : selector.probeSerial = some probeSerial)
    (hheld : probeSerial ∈ held) :
    Follows (validating truthful) held (.call step) fun reply after =>
      after = held ∧ (truthful → debugged step reply = false) := by
  refine follows_call ⟨fun probeSerial hleave => ?_, fun other hother => ?_⟩ fun reply expected => ⟨?_, expected⟩
  · rw [hleave] at hstep
    cases hstep
  · cases Option.some.inj (hstep.symm.trans hother)
    exact ⟨probeSerial, hheld, named⟩
  · cases step <;> first | rfl | cases hstep

/-- What the `try` block leaves: the leases as they were, and no session where leases are not granted twice. -/
def Exercised (truthful : Prop) (held : List PyStr) (validated : Validated) (after : List PyStr) : Prop :=
  after = held ∧ (truthful → NotDebugged validated.steps)

theorem follows_noting {α : Type} {noted : Validated} {body : Transaction α}
    {next : α → Task Step Step.Reply Validated} {middle : Except ServiceError α → Prop}
    (first : Follows (validating truthful) held body.run fun result after => after = held ∧ middle result)
    (hnoted : truthful → NotDebugged noted.steps)
    (rest : ∀ value, middle (.ok value) → Follows (validating truthful) held (next value)
      (Exercised truthful held)) :
    Follows (validating truthful) held (noting noted body next) (Exercised truthful held) := by
  refine follows_bind first fun result after hafter => ?_
  obtain ⟨hheld, hmiddle⟩ := hafter
  rw [hheld]
  cases result with
  | ok value => exact rest value hmiddle
  | error error => exact follows_done ⟨rfl, hnoted⟩

theorem follows_elfPath (artifacts : List Artifact) (part : String) :
    Follows (validating truthful) held (elfPath artifacts part).run fun _ after => after = held ∧ True := by
  rw [elfPath]
  split
  next => exact follows_done ⟨rfl, trivial⟩
  next => exact follows_done ⟨rfl, trivial⟩

theorem follows_exerciseFixture_held {noted : Validated} (hheld : resolved.probeSerial ∈ held)
    (hnoted : NotDebugged noted.steps) :
    Follows (validating truthful) held (exerciseFixture resolved m7Sketch m4Sketch noted)
      (Exercised truthful held) := by
  have ordinarily : ∀ step, ordinary step = true →
      Follows (validating truthful) held (.call step) fun _ after => after = held ∧ True := fun step h =>
    (follows_ordinary step h).mono fun _ _ hafter => ⟨hafter, trivial⟩
  refine follows_noting (ordinarily (.dualCoreDeploy _ _ _) rfl) (fun _ => hnoted) fun deploy _ => ?_
  have deployed := notDebugged_append hnoted (notDebugged_one "dual_core_deploy" (by decide)
    deploy.ok (.deployment deploy))
  refine follows_noting (follows_elfPath _ _) (fun _ => deployed) fun m7Elf _ => ?_
  refine follows_noting (follows_elfPath _ _) (fun _ => deployed) fun m4Elf _ => ?_
  refine follows_noting (ordinarily (.bootAndObserve _ _ _) rfl) (fun _ => deployed) fun observe _ => ?_
  have observed := notDebugged_append deployed (notDebugged_one "boot_and_observe" (by decide)
    observe.ok (.observation observe))
  refine follows_noting (follows_session (.debugFixture _ _) rfl rfl hheld) (fun _ => observed) fun debug
    hdebug => ?_
  -- from here on a lease that is held was granted once more
  have untruthful : ¬truthful := fun h => Bool.noConfusion (hdebug h)
  refine follows_noting (follows_session (.crashCapture _ _) rfl rfl hheld) (fun h => absurd h untruthful)
    fun _ _ => ?_
  exact follows_done ⟨rfl, fun h => absurd h untruthful⟩

/-- No session gave its report, where leases are not granted twice. -/
def ReportsNoSession (truthful : Prop) (result : Except ServiceError ValidationReport) : Prop :=
  truthful → ∀ report, result = .ok report → NotDebugged report.steps

theorem reportsNoSession_error (error : ServiceError) : ReportsNoSession truthful (.error error) :=
  fun _ _ h => (nomatch h)

theorem reportsNoSession_ok {report : ValidationReport} (h : NotDebugged report.steps) :
    ReportsNoSession truthful (.ok report) := by
  intro _ other hother
  cases hother
  exact h

theorem notDebugged_notedAfter {validated : Validated} (restored : Except ServiceError Restored)
    (h : NotDebugged validated.steps) : NotDebugged (notedAfter validated restored) := by
  refine notDebugged_append (notDebugged_append h ?_) ?_
  · cases validated.raised with
    | some error => exact notDebugged_one "validation_exception" (by decide) false (.raised error)
    | none => exact List.forall_mem_nil _
  · cases restored with
    | ok restored => exact notDebugged_one "restore_original_flash" (by decide) restored.ok (.restored restored)
    | error error => exact notDebugged_one "restore_original_flash" (by decide) false (.raised error)

theorem follows_validateAndRestore_held {backup : Artifact} {steps : List ValidationStep}
    (hheld : resolved.probeSerial ∈ held) (hsteps : NotDebugged steps) :
    Follows (validating truthful) held (validateAndRestore resolved m7Sketch m4Sketch backup steps).run
      fun result after => after = held ∧ ReportsNoSession truthful result := by
  have exercises : Follows (validating truthful) held
      (ExceptT.lift (exerciseFixture resolved m7Sketch m4Sketch ⟨steps, [backup], none⟩) :
        Transaction Validated).run
      fun result after => ∃ value, result = .ok value ∧ Exercised truthful held value after :=
    follows_bind (follows_exerciseFixture_held hheld hsteps) fun value _ hafter => follows_done ⟨value, rfl, hafter⟩
  refine follows_then exercises (fun validated after hafter => ?_) fun error after hafter => ?_
  · obtain ⟨value, hvalue, rfl, hexercised⟩ := hafter
    cases hvalue
    have restores : Follows (validating truthful) after (caught (restoreFrom backup (onCore resolved "m7"))).run
        fun _ later => later = after :=
      follows_bind (follows_ordinary (.restoreBackup _ _ _ _) rfl) fun _ _ hlater => follows_done hlater
    refine follows_then restores (fun restored later hlater => ?_) fun error later hlater =>
      ⟨hlater, reportsNoSession_error error⟩
    rw [hlater]
    split
    next => exact follows_done ⟨rfl, reportsNoSession_error _⟩
    next => exact follows_done ⟨rfl, reportsNoSession_error _⟩
    next =>
      refine follows_then (follows_ordinary (.generateValidationReport _) rfl) (fun report last hlast => ?_)
        fun error last hlast => ⟨hlast, reportsNoSession_error error⟩
      refine follows_done ⟨hlast, fun htruthful other hother => ?_⟩
      cases hother
      exact notDebugged_append (notDebugged_notedAfter _ (hexercised htruthful))
        (notDebugged_one "validation_report" (by decide) _ _)
  · obtain ⟨_, herror, _⟩ := hafter
    cases herror

theorem follows_validateFixtureLocked_held (hheld : resolved.probeSerial ∈ held) :
    Follows (validating truthful) held (validateFixtureLocked resolved m7Sketch m4Sketch).run
      fun result after => after = held ∧ ReportsNoSession truthful result := by
  rw [validateFixtureLocked]
  split
  next => exact follows_done ⟨rfl, reportsNoSession_error _⟩
  next =>
    refine follows_then (follows_ordinary (.hardwarePreflight _ _) rfl) (fun preflight after hafter => ?_)
      fun error _ hafter => ⟨hafter, reportsNoSession_error error⟩
    rw [hafter]
    have preflighted := notDebugged_one "hardware_preflight" (by decide) preflight.ok (.preflight preflight)
    split
    next =>
      refine follows_then (follows_ordinary (.backupFlash _ _ _) rfl) (fun backup after hafter => ?_)
        fun error _ hafter => ⟨hafter, reportsNoSession_error error⟩
      rw [hafter]
      have backedUp := notDebugged_append preflighted (notDebugged_one "backup_original_flash" (by decide)
        (usableBackup backup).isSome (.backup backup))
      split
      next => exact follows_done ⟨rfl, reportsNoSession_ok backedUp⟩
      next artifact _ => exact follows_validateAndRestore_held hheld backedUp
    next => exact follows_done ⟨rfl, reportsNoSession_ok preflighted⟩

theorem follows_validateFixture_held (selector : DeviceSelector) (m7Sketch m4Sketch : PyStr) :
    Follows (validating truthful) [] (validateFixture selector m7Sketch m4Sketch).run
      fun result _ => ReportsNoSession truthful result := by
  refine follows_then (follows_ordinary (.resolve _) rfl) (fun resolved after hafter => ?_)
    fun error _ _ => reportsNoSession_error error
  rw [hafter]
  have enters : Follows (validating truthful) [] (.call (Step.enter resolved.probeSerial
      (pyText "giga_fixture_validation"))) fun reply inside =>
        ∀ leaseId, reply = .ok leaseId → inside = [resolved.probeSerial] := by
    refine follows_call ⟨fun _ h => (nomatch h), fun _ h => (nomatch h)⟩ fun reply _ leaseId hreply => ?_
    rw [hreply]
    rfl
  refine follows_then enters (fun leaseId inside hinside => ?_) fun error _ _ => reportsNoSession_error error
  rw [hinside leaseId rfl]
  refine follows_ensuring (follows_validateFixtureLocked_held List.mem_cons_self) fun result last hlast => ?_
  rw [hlast.1]
  refine ⟨⟨fun probeSerial hleave => ?_, fun _ h => (nomatch h)⟩, fun _ _ => hlast.2⟩
  cases hleave
  exact List.mem_cons_self

end validation

section implemented

variable {truthful : Prop} {held : List PyStr} {registry : TargetRegistry} {α : Type}

/-- Calls that acquire only leases that are held already. -/
def heldOnly (held : List PyStr) (call : Call) : Prop :=
  ∀ probeSerial owner, call = .acquire probeSerial owner → probeSerial ∈ held

theorem permits_heldOnly (held : List PyStr) : Permits (heldOnly held) where
  plain call plain := by
    intro probeSerial owner h
    rw [h] at plain
    cases plain
  enter _ _ _ _ h := nomatch h
  leave _ _ _ h := nomatch h
  commander _ _ _ _ _ h := nomatch h

/-- What is entered and left inside of the leases that are held. -/
theorem enteredAfter_append {entered : List PyStr} {call : Call} (reply : Service.Reply call)
    (leaves : ∀ probeSerial, call = .leave probeSerial → probeSerial ∈ entered) :
    enteredAfter (entered ++ held) call reply = enteredAfter entered call reply ++ held := by
  cases call with
  | enter probeSerial owner =>
    cases reply with
    | ok leaseId => exact List.cons_append
    | error error => exact Eq.refl (entered ++ held)
  | leave probeSerial => exact List.erase_append_left held (leaves probeSerial rfl)
  | _ => exact Eq.refl (entered ++ held)

theorem follows_blocking {program : Task Call Service.Reply α} {post : α → List PyStr → Prop}
    (h : Follows (making (heldOnly held)) [] program post) :
    Follows (blocking truthful) held program fun value after => ∃ entered, after = entered ++ held ∧
      post value entered := by
  let related (entered after : List PyStr) : Prop := after = entered ++ held
  have start : related [] held := (List.nil_append held).symm
  have simulated : Follows (blocking truthful) held program
      fun value after => ∃ entered, related entered after ∧ post value entered := by
    refine h.simulated (fun entered after call hrelated may => ?_) start
    have hrelated : after = entered ++ held := hrelated
    refine ⟨fun probeSerial owner hcall => ?_, fun reply _ => ⟨trivial, ?_⟩⟩
    · rw [hrelated]
      exact List.mem_append_right entered (may.1 probeSerial owner hcall)
    · rw [hrelated]
      exact enteredAfter_append reply may.2
  exact simulated

theorem follows_blocking_tidy {program : Coroutine α} (h : Tidy (heldOnly held) program) :
    Follows (blocking truthful) held program.run fun _ after => after = held := by
  refine (follows_blocking (h [])).mono fun _ after hafter => ?_
  obtain ⟨entered, hafter, hempty⟩ := hafter
  rw [hafter, hempty, List.nil_append]

/-- The leases stay as they were, and where they are not granted twice there is no value. -/
def Refused (truthful : Prop) (held : List PyStr) (result : Except ServiceError α) (after : List PyStr) : Prop :=
  after = held ∧ (truthful → ∃ error, result = .error error)

theorem refused_error (error : ServiceError) {after : List PyStr} (h : after = held) :
    Refused truthful held (.error error : Except ServiceError α) after := ⟨h, fun _ => ⟨error, rfl⟩⟩

/-- A program that resolves the selector first, to the probe that it names. -/
theorem follows_blocking_resolve {selector : DeviceSelector} {next : Resolved → Coroutine α}
    (rest : ∀ resolved, Selects selector resolved →
      Follows (blocking truthful) held (next resolved).run (Refused truthful held)) :
    Follows (blocking truthful) held (resolveSelectorWait registry selector >>= next).run
      (Refused truthful held) := by
  have resolves : Follows (making (heldOnly held)) [] (resolveSelectorWait registry selector).run _ :=
    follows_resolveSelectorWait (permits_heldOnly held).plain selector []
  refine follows_then (follows_blocking resolves) (fun resolved after hafter => ?_) fun error after hafter => ?_
  all_goals obtain ⟨entered, hafter, hempty, selects⟩ := hafter
  all_goals rw [hempty, List.nil_append] at hafter
  · rw [hafter]
    exact rest resolved (selects resolved rfl)
  · exact refused_error error hafter

theorem follows_blocking_startGdb {selector : DeviceSelector} {probeSerial : PyStr}
    (named : selector.probeSerial = some probeSerial) (hheld : probeSerial ∈ held) (elfPath : Option PyStr) :
    Follows (blocking truthful) held (startGdb registry selector elfPath).run (Refused truthful held) := by
  refine follows_blocking_resolve fun resolved selects => ?_
  have hprobe : resolved.probeSerial = probeSerial := selects probeSerial named
  have paths := tidy_allowedPath? (permits_heldOnly held).plain elfPath
  refine follows_then (follows_blocking_tidy paths) (fun path after hafter => ?_)
    fun error after hafter => refused_error error hafter
  rw [hafter]
  have acquires : Follows (blocking truthful) held
      (.call (Call.acquire resolved.probeSerial (PyStr.ofString "gdb_session"))) (Refused truthful held) := by
    refine follows_call (fun other owner h => ?_) fun reply expected => ⟨rfl, fun htruthful => ?_⟩
    · cases h
      rw [hprobe]
      exact hheld
    · cases reply with
      | error error => exact ⟨error, rfl⟩
      | ok leaseId =>
        have hgranted : held.contains resolved.probeSerial = false := expected htruthful
        rw [hprobe, List.contains_iff_mem.mpr hheld] at hgranted
        cases hgranted
  refine follows_then acquires (fun leaseId after hafter => ?_) fun error after hafter =>
    refused_error error hafter.1
  rw [hafter.1]
  have opens : Tidy (heldOnly held) (openGdbSession registry resolved path leaseId) :=
    tidy_openGdbSession (permits_heldOnly held) resolved path leaseId
  refine (follows_blocking_tidy opens).mono fun _ after hlater => ⟨hlater, fun htruthful => ?_⟩
  obtain ⟨error, herror⟩ := hafter.2 htruthful
  cases herror

/-- A session that the workflow starts on the probe whose lease is held, and what it does there. -/
theorem follows_blocking_session {selector : DeviceSelector} {probeSerial : PyStr}
    (named : selector.probeSerial = some probeSerial) (hheld : probeSerial ∈ held) (elfPath : Option PyStr)
    {next : Resolved → SessionInfo → Coroutine α}
      (rest : ∀ resolved info, Tidy (heldOnly held) (next resolved info)) :
    Follows (blocking truthful) held (do
      let resolved ← resolveSelectorWait registry selector
      let info ← startGdb registry (again resolved) elfPath
      next resolved info).run (Refused truthful held) := by
  refine follows_blocking_resolve fun resolved selects => ?_
  have named : (again resolved).probeSerial = some probeSerial := congrArg some (selects probeSerial named)
  refine follows_then (follows_blocking_startGdb named hheld elfPath) (fun info after hafter => ?_)
    fun error after hafter => refused_error error hafter.1
  rw [hafter.1]
  refine (follows_blocking_tidy (rest resolved info)).mono fun _ after hlater => ⟨hlater, fun htruthful => ?_⟩
  obtain ⟨error, herror⟩ := hafter.2 htruthful
  cases herror

/-- What a step does acquires leases only where the step starts a session, and only the lease that is held. -/
theorem follows_blocking_implement (profile : TargetProfile) (step : Step)
    (may : (validating truthful).may held step) :
    Follows (blocking truthful) held (implement registry profile step) fun reply after =>
      (validating truthful).replied held step reply ∧ after = heldAfter held step reply := by
  by_cases hordinary : ordinary step = true
  · have implemented : Follows (making (heldOnly held)) [] (implement registry profile step)
        fun reply after => after = heldAfter [] step reply := by
      refine follows_implement registry profile (permits_heldOnly held) step
        (fun selector resolved owner hsession => ?_)
        (fun _ _ _ _ _ h => nomatch h) fun probeSerial hleave => ?_
      · cases step <;> first | (cases hsession; done) | cases hordinary
      · rw [hleave] at hordinary
        cases hordinary
    refine (follows_blocking implemented).mono fun reply after hafter => ?_
    obtain ⟨entered, hafter, hentered⟩ := hafter
    have unchanged : ∀ held, heldAfter held step reply = held := by
      intro held
      cases step <;> first | rfl | cases hordinary
    rw [unchanged []] at hentered
    rw [hafter, hentered, unchanged held]
    refine ⟨fun _ => ?_, List.nil_append held⟩
    cases step <;> first | rfl | cases hordinary
  · have permits := permits_heldOnly held
    cases step with
    | enter probeSerial owner =>
      refine follows_call (fun _ _ h => (nomatch h)) fun reply _ => ⟨fun _ => rfl, ?_⟩
      cases reply with
      | ok leaseId => rfl
      | error error => rfl
    | leave probeSerial => exact follows_call (fun _ _ h => (nomatch h)) fun reply _ => ⟨fun _ => rfl, rfl⟩
    | debugFixture elfPath selector =>
      obtain ⟨probeSerial, hheld, named⟩ := may.2 selector rfl
      refine (follows_blocking_session named hheld (some elfPath) fun resolved info =>
        tidy_debugSession permits resolved info).mono fun reply after hafter => ⟨fun htruthful => ?_, hafter.1⟩
      obtain ⟨error, herror⟩ := hafter.2 htruthful
      rw [herror]
      rfl
    | crashCapture elfPath selector =>
      obtain ⟨probeSerial, hheld, named⟩ := may.2 selector rfl
      refine (follows_blocking_session named hheld (some elfPath) fun resolved info =>
        tidy_crashSession permits resolved info).mono fun reply after hafter => ⟨fun htruthful => ?_, hafter.1⟩
      obtain ⟨error, herror⟩ := hafter.2 htruthful
      rw [herror]
      rfl
    | _ => exact absurd rfl hordinary

theorem follows_blocking_validateFixture (registry : TargetRegistry) (profile : TargetProfile)
    (selector : DeviceSelector)
    (m7Sketch m4Sketch : PyStr) :
    Follows (blocking truthful) []
      ((Workflow.validateFixture selector m7Sketch m4Sketch).program registry profile).run
      fun result _ => ReportsNoSession truthful result := by
  let related (held entered : List PyStr) : Prop := entered = held
  have start : related [] [] := Eq.refl ([] : List PyStr)
  have interpreted : Follows (blocking truthful) []
      (interpret (implement registry profile) (Giga.validateFixture selector m7Sketch m4Sketch).run)
      fun result entered => ∃ held, related held entered ∧ ReportsNoSession truthful result := by
    refine follows_interpret (fun held entered step hrelated may => ?_) start
      (follows_validateFixture_held selector m7Sketch m4Sketch)
    have hrelated : entered = held := hrelated
    rw [hrelated]
    exact follows_blocking_implement profile step may
  exact interpreted.mono fun _ _ h => h.choose_spec.2

end implemented

/-- No reply grants the task a lease that it has entered and not left. -/
def NeverGrantsHeld (turns : List (Turn Call Service.Reply)) : Prop :=
  ∀ before turn later, turns = before ++ turn :: later →
    grantsHeld (Holding.after before).entered turn.call turn.reply = false

theorem entered_after (turns : List (Turn Call Service.Reply)) (holding : Holding) (truthful : Prop) :
    (turns.foldl (fun holding turn => holding.next turn.call turn.reply) holding).entered =
      (blocking truthful).after holding.entered turns := by
  induction turns generalizing holding with
  | nil => rfl
  | cons turn turns ih => exact ih (holding.next turn.call turn.reply)

theorem expected_of_neverGrants {turns : List (Turn Call Service.Reply)} (h : NeverGrantsHeld turns) :
    (blocking True).Expected [] turns := by
  suffices later : ∀ before rest, turns = before ++ rest →
      (blocking True).Expected (Holding.after before).entered rest from later [] turns rfl
  intro before rest hturns
  induction rest generalizing before with
  | nil => trivial
  | cons turn rest ih =>
    have hstep : (Holding.after (before ++ [turn])).entered =
        enteredAfter (Holding.after before).entered turn.call turn.reply := by
      rw [Holding.after, List.foldl_append]
      rfl
    refine ⟨fun _ => h before turn rest hturns, ?_⟩
    have hrest := ih (before ++ [turn]) (by rw [hturns, List.append_assoc, List.singleton_append])
    rw [hstep] at hrest
    exact hrest

/-- On a path of a workflow a task comes to wait for its own lease exactly where `validate_fixture` comes to
the lease of a GDB session, and where a lease that is held is not granted once more, `validate_fixture` comes to
the end of neither session. The manager lets a task that holds a lease enter it again at once, and suspends it
where it acquires that lease. -/
theorem waitsForItself_iff (registry : TargetRegistry) (profile : TargetProfile) :
    (∀ (workflow : Workflow) turns call rest, Path (workflow.program registry profile).run turns (.ask call rest) →
      (waitsForItself (Holding.after turns) call = true ↔
        workflow.isValidateFixture = true ∧ acquiresLease call = true)) ∧
      (∀ selector m7Sketch m4Sketch turns (report : ValidationReport),
        Path ((Workflow.validateFixture selector m7Sketch m4Sketch).program registry profile).run turns
          (.done (.ok report)) → NeverGrantsHeld turns → NotDebugged report.steps) ∧
      ∀ (state : Lease.State Nat) info task, StepRuns.Reached Lease.step StepRuns.anyStep Lease.start state →
        (info, task) ∈ state.live → (state.tasks task).phase = .body → ∀ owner expires,
        Lease.step state (.enter task info.probeSerial owner expires) =
            some (state.backToBody task (⟨info, true⟩ :: (state.tasks task).contexts)) ∧
          ∃ state', Lease.step state (.acquire task info.probeSerial owner expires) = some state' ∧
            (state'.tasks task).phase ≠ .body ∧ state'.live = state.live := by
  refine ⟨fun workflow turns call rest path => ?_, fun selector m7Sketch m4Sketch turns report path truthful => ?_,
    fun state info task reached held body owner expires => Lease.own_lease reached held body owner expires⟩
  · by_cases hvalidate : workflow.isValidateFixture = true
    · cases workflow with
      | validateFixture selector m7Sketch m4Sketch =>
        refine ⟨fun waits => ⟨rfl, ?_⟩, fun acquires => ?_⟩
        · cases call <;> first | rfl | cases waits
        · cases call with
          | acquire probeSerial owner =>
            have follows : Follows (blocking False) [] _ _ :=
              follows_blocking_validateFixture registry profile selector m7Sketch m4Sketch
            have expected := (blocking False).expected_of_any (fun _ _ _ h => h.elim) [] turns
            have hentered := follows.may_of_path path expected probeSerial owner rfl
            rw [← entered_after turns {} False] at hentered
            exact Bool.or_eq_true_iff.mpr (Or.inl (List.contains_iff_mem.mpr hentered))
          | _ => exact absurd acquires.2 Bool.false_ne_true
      | _ => cases hvalidate
    · have unblocked : Unblocked (workflow.program registry profile) :=
        unblocked_of_ne (Bool.eq_false_iff.mpr hvalidate)
      have expected := leasing.expected_of_any (fun _ _ _ => trivial) {} turns
      have never : waitsForItself (Holding.after turns) call = false := unblocked.may_of_path path expected
      rw [never]
      exact ⟨fun h => (nomatch h), fun h => absurd h.1 hvalidate⟩
  · have follows : Follows (blocking True) [] _ _ :=
      follows_blocking_validateFixture registry profile selector m7Sketch m4Sketch
    exact follows.post_of_path path (expected_of_neverGrants truthful) trivial report rfl

section bench

/-- The turns of `validate_fixture` on the bench up to the lease of a GDB session. -/
def benchTurns : List (Turn Call Service.Reply) × Task Call Service.Reply (Except ServiceError ValidationReport) :=
  turnsTo bench acquiresLease 0
    ((Workflow.validateFixture {} (pyText "m7") (pyText "m4")).program [gigaR1] gigaR1).run

/-- The task is about to wait for itself. -/
def aboutToWait {α : Type} (holding : Holding) : Task Call Service.Reply α → Bool
  | .ask call _ => waitsForItself holding call
  | .done _ => false

/-- Where every tool succeeds, `validate_fixture` comes to wait for the lease that it holds itself. -/
theorem validateFixture_waits : ∃ turns call rest,
    Path ((Workflow.validateFixture {} (pyText "m7") (pyText "m4")).program [gigaR1] gigaR1).run turns
      (.ask call rest) ∧
      (∀ turn ∈ turns, ∃ count, turn.reply = bench count turn.call) ∧
      waitsForItself (Holding.after turns) call = true := by
  have path : Path _ benchTurns.1 benchTurns.2 := path_turnsTo bench acquiresLease 0 _
  have replies : ∀ turn ∈ benchTurns.1, ∃ count, turn.reply = bench count turn.call :=
    replies_turnsTo bench acquiresLease 0 _
  have waits : aboutToWait (Holding.after benchTurns.1) benchTurns.2 = true := by decide +kernel
  cases hlast : benchTurns.2 with
  | done result =>
    rw [hlast] at waits
    cases waits
  | ask call rest =>
    rw [hlast] at waits path
    exact ⟨benchTurns.1, call, rest, path, replies, waits⟩

end bench

end JLinkMcp.Giga
