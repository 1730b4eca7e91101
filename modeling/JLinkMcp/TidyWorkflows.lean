import JLinkMcp.FlashTransactions
import JLinkMcp.TidyOperations

namespace JLinkMcp.Giga

open Host Audit Service TaskProgram

variable {α : Type} {allowed : Call → Prop} (permits : Permits allowed) {registry : TargetRegistry}
include permits

section flash

theorem tidy_registerInput (result : CommandResult) (path kind : PyStr) :
    Tidy allowed (registerInput result path kind) := by
  refine tidy_then (tidy_files permits.plain _) fun artifact => ?_
  exact tidy_then (tidy_files permits.plain _) fun _ => tidy_pure _

theorem tidy_backupFlash (address size : Int) (selector : DeviceSelector) :
    Tidy allowed (backupFlash registry address size selector) := by
  rw [backupFlash]
  split
  next => exact tidy_throw _
  next =>
    refine tidy_then (tidy_files permits.plain _) fun destination => ?_
    refine tidy_then (tidy_harmless permits (fun command hcommand => ?_) selector _ false) fun result => ?_
    · rw [List.mem_singleton.mp hcommand]
      exact changesFlash_withOperands _ (by decide)
    · split
      next =>
        refine tidy_then (tidy_files permits.plain _) fun saved => ?_
        split
        next =>
          refine tidy_then (tidy_files permits.plain _) fun artifact => ?_
          exact tidy_then (tidy_files permits.plain _) fun _ => tidy_pure _
        next => exact tidy_pure _
      next => exact tidy_pure _

theorem tidy_compareFirmware (artifactPath : PyStr) (address : Int) (selector : DeviceSelector) :
    Tidy allowed (compareFirmware registry artifactPath address selector) := by
  refine tidy_then (tidy_files permits.plain _) fun path => ?_
  refine tidy_then (tidy_files permits.plain _) fun artifact => ?_
  refine tidy_then (tidy_verifyBinary permits path address selector) fun result => ?_
  exact tidy_then (tidy_files permits.plain _) fun _ => tidy_pure _

theorem tidy_compareBackupRegion (backupPath : PyStr) (backupOffset address size : Int)
    (selector : DeviceSelector) :
    Tidy allowed (compareBackupRegion registry backupPath backupOffset address size selector) := by
  refine tidy_then (tidy_files permits.plain _) fun source => ?_
  split
  next => exact tidy_throw _
  next =>
    split
    next => exact tidy_throw _
    next =>
      refine tidy_then (tidy_files permits.plain _) fun length => ?_
      split
      next => exact tidy_throw _
      next =>
        refine tidy_then (tidy_files permits.plain _) fun destination => ?_
        refine tidy_then (tidy_files permits.plain _) fun _ => ?_
        refine tidy_then (tidy_files permits.plain _) fun artifact => ?_
        refine tidy_then (tidy_files permits.plain _) fun _ => ?_
        refine tidy_then (tidy_verifyBinary permits destination address selector) fun result => ?_
        exact tidy_then (tidy_files permits.plain _) fun _ => tidy_pure _

variable (flashes : ∀ commands resolved, allowed (.commander commands resolved))
include flashes

theorem tidy_flashAndVerify (artifactPath : PyStr) (selector : DeviceSelector) :
    Tidy allowed (flashAndVerify registry artifactPath selector) := by
  refine tidy_then (tidy_files permits.plain _) fun path => ?_
  split
  next => exact tidy_throw _
  next =>
    split
    next => exact tidy_throw _
    next =>
      refine tidy_then (tidy_commanderCommands permits (flashes _) selector _ true) fun result => ?_
      exact tidy_registerInput permits result path _

theorem tidy_flashBinary (artifactPath : PyStr) (address : Int) (selector : DeviceSelector) :
    Tidy allowed (flashBinary registry artifactPath address selector) := by
  refine tidy_then (tidy_files permits.plain _) fun path => ?_
  split
  next => exact tidy_throw _
  next =>
    refine tidy_then (tidy_commanderCommands permits (flashes _) selector _ true) fun result => ?_
    exact tidy_registerInput permits result path _

theorem tidy_restoreBackup (backupPath : PyStr) (address : Int) (expectedSha256 : PyStr)
    (selector : DeviceSelector) :
    Tidy allowed (restoreBackup registry backupPath address expectedSha256 selector) := by
  refine tidy_then (tidy_files permits.plain _) fun path => ?_
  split
  next => exact tidy_throw _
  next =>
    refine tidy_then (tidy_files permits.plain _) fun actualHash => ?_
    split
    next => exact tidy_throw _
    next =>
      split
      next => exact tidy_throw _
      next =>
        refine tidy_then (tidy_flashBinary permits flashes path address selector) fun flashed => ?_
        exact tidy_then (tidy_verifyBinary permits path address selector) fun _ => tidy_pure _

end flash

section preflight

theorem tidy_releaseCoprocessor (gcrBefore : Nat) (m7 : DeviceSelector) :
    Tidy allowed (releaseCoprocessor registry gcrBefore m7) := by
  rw [releaseCoprocessor]
  split
  next =>
    refine tidy_then (tidy_writeMemory permits _ _ _ m7) fun release => ?_
    split
    next => exact tidy_pure _
    next => exact tidy_throw _
  next => exact tidy_pure none

theorem tidy_prepareGigaDualCoreDebug (selector : DeviceSelector) :
    Tidy allowed (prepareGigaDualCoreDebug registry selector) := by
  refine tidy_then (tidy_resolveSelectorWait permits.plain selector) fun resolved => ?_
  refine tidy_then (tidy_connect permits _) fun m7Identity => ?_
  refine tidy_then (tidy_readMemory permits _ _ _ _) fun snapshot => ?_
  split
  next => exact tidy_throw _
  next gcrBefore hword =>
    refine tidy_then (tidy_releaseCoprocessor permits gcrBefore _) fun release => ?_
    refine tidy_then (tidy_sleep permits.plain) fun _ => ?_
    exact tidy_then (tidy_connect permits _) fun _ => tidy_pure _

theorem tidy_hardwarePreflight (selector : DeviceSelector) (prepareDualCore : Bool) :
    Tidy allowed (hardwarePreflight registry selector prepareDualCore) := by
  refine tidy_then (tidy_resolveSelectorWait permits.plain selector) fun resolved => ?_
  refine tidy_then ?_ fun identities => ?_
  · rw [preflightIdentities]
    split
    next =>
      exact tidy_then (tidy_prepareGigaDualCoreDebug permits _) fun _ => tidy_pure _
    next =>
      refine tidy_then (tidy_connect permits _) fun m7 => ?_
      exact tidy_then (tidy_connect permits _) fun m4 => tidy_pure _
  · refine tidy_then (tidy_files permits.plain _) fun doctor => ?_
    exact tidy_then (tidy_raw permits (by decide) _ false) fun _ => tidy_pure _

end preflight

section build

omit registry in
theorem tidy_runTool (argv : List PyStr) (backend : PyStr) :
    Tidy allowed (ExceptT.mk (.call (Call.run argv backend)) : Coroutine CommandResult) :=
  tidy_mk (follows_plain (Call.run argv backend) rfl permits.plain)

theorem tidy_buildIdentity : Tidy allowed buildIdentity := by
  refine tidy_then (tidy_ask rfl permits.plain) fun stamp => ?_
  refine tidy_then (tidy_runTool permits _ _) fun revision => ?_
  dsimp only
  split
  next => exact tidy_pure _
  next => exact tidy_then (tidy_files permits.plain _) fun _ => tidy_pure _

theorem tidy_recordedRun (argv : List PyStr) (backend : PyStr) (action : String) (failure : PyStr) :
    Tidy allowed (recordedRun argv backend action failure) := by
  refine tidy_then (tidy_runTool permits argv backend) fun result => ?_
  refine tidy_then (tidy_append permits.plain _) fun _ => ?_
  split
  next => exact tidy_pure result
  next => exact tidy_throw _

theorem tidy_analysisJob (elfPath compilerPath : PyStr) (tool : String) (arguments : List String)
    (suffix action : String) : Tidy allowed (analysisJob elfPath compilerPath tool arguments suffix action) :=
  tidy_then (tidy_recordedRun permits _ _ _ _) fun _ => tidy_files permits.plain _

theorem tidy_buildArtifacts (command : CommandResult) (buildDirectory properties : PyStr) :
    Tidy allowed (buildArtifacts command buildDirectory properties) := by
  rw [buildArtifacts]
  split
  next =>
    refine tidy_then (tidy_files permits.plain _) fun elf => ?_
    split
    next => exact tidy_throw _
    next elfPath =>
      refine tidy_then (tidy_files permits.plain _) fun _ => ?_
      refine tidy_then (tidy_files permits.plain _) fun compilerPath => ?_
      refine tidy_then ?_ fun _ => tidy_then ?_ fun _ => tidy_files permits.plain _
      · refine tidy_then (tidy_discard (tidy_recordedRun permits _ _ _ _)) fun _ => ?_
        exact tidy_discard (tidy_recordedRun permits _ _ _ _)
      · refine tidy_then (tidy_analysisJob permits _ _ _ _ _ _) fun _ => ?_
        exact tidy_analysisJob permits _ _ _ _ _ _
  next => exact tidy_pure []

theorem tidy_buildFirmware (sketch core flashSplit : PyStr) :
    Tidy allowed (buildFirmware sketch core flashSplit) := by
  refine tidy_then (tidy_files permits.plain _) fun sketchPath => ?_
  split
  next => exact tidy_throw _
  next =>
    refine tidy_then (tidy_files permits.plain _) fun buildDirectory => ?_
    refine tidy_then (tidy_buildIdentity permits) fun identity => ?_
    refine tidy_then (tidy_files permits.plain _) fun staged => ?_
    refine tidy_then (tidy_runTool permits _ _) fun command => ?_
    refine tidy_then (tidy_append permits.plain _) fun _ => ?_
    refine tidy_then (tidy_runTool permits _ _) fun properties => ?_
    refine tidy_then (tidy_buildArtifacts permits _ _ _) fun artifacts => ?_
    exact tidy_then (tidy_files permits.plain _) fun manifests => tidy_pure _

omit permits registry in
theorem tidy_buildArtifact (build : BuildResult) (kind : String) : Tidy allowed (buildArtifact build kind) := by
  rw [buildArtifact]
  split
  next => exact tidy_pure _
  next => exact tidy_throw _

theorem tidy_dualCoreDeploy (flashes : ∀ commands resolved, allowed (.commander commands resolved))
    (selector : DeviceSelector) (m7Sketch m4Sketch flashSplit : PyStr) :
    Tidy allowed (dualCoreDeploy registry selector m7Sketch m4Sketch flashSplit) := by
  have flashBuilds : ∀ build access, Tidy allowed (flashBuild registry build access) := by
    intro build access
    refine tidy_then (tidy_buildArtifact build _) fun manifestArtifact => ?_
    refine tidy_then (tidy_files permits.plain _) fun manifest => ?_
    refine tidy_then (tidy_buildArtifact build _) fun binary => ?_
    exact tidy_then (tidy_flashBinary permits flashes _ _ access) fun _ => tidy_pure _
  refine tidy_then (tidy_resolveSelectorWait permits.plain selector) fun resolved => ?_
  refine tidy_then (tidy_buildFirmware permits _ _ _) fun m4 => ?_
  refine tidy_then (tidy_buildFirmware permits _ _ _) fun m7 => ?_
  refine tidy_then (tidy_withLease permits fun _ => ?_) fun _ => tidy_pure _
  refine tidy_then (flashBuilds m4 _) fun m4Flashed => ?_
  exact tidy_then (flashBuilds m7 _) fun m7Flashed => tidy_pure _

end build

section observe

theorem tidy_observeRequests (m7 : DeviceSelector) (requests : List String) :
    Tidy allowed (observeRequests registry m7 requests) := by
  induction requests with
  | nil => exact tidy_pure []
  | cons request requests ih =>
    refine tidy_then (tidy_serialExchange permits m7 _ _ _) fun result => ?_
    exact tidy_then ih fun results => tidy_pure _

theorem tidy_observeHeartbeat (elfPath : Option PyStr) (selector : DeviceSelector) :
    Tidy allowed (observeHeartbeat registry elfPath selector) := by
  cases elfPath with
  | none => exact tidy_pure []
  | some elfPath =>
    refine tidy_then (tidy_files permits.plain _) fun path => ?_
    refine tidy_then (tidy_files permits.plain _) fun symbols => ?_
    split
    next => exact tidy_throw _
    next =>
      refine tidy_then (tidy_readMemory permits _ _ _ _) fun first => ?_
      refine tidy_then (tidy_sleep permits.plain) fun _ => ?_
      exact tidy_then (tidy_readMemory permits _ _ _ _) fun second => tidy_pure _

theorem tidy_bootAndObserve (selector : DeviceSelector) (m7ElfPath m4ElfPath : Option PyStr) :
    Tidy allowed (bootAndObserve registry selector m7ElfPath m4ElfPath) := by
  refine tidy_then (tidy_resolveSelectorWait permits.plain selector) fun resolved => ?_
  refine tidy_then (tidy_reset permits _ _ _) fun resetSystem => ?_
  refine tidy_then (tidy_observeRequests permits _ _) fun serial => ?_
  refine tidy_then (tidy_observeHeartbeat permits _ _) fun m7Heartbeats => ?_
  refine tidy_then (tidy_observeHeartbeat permits _ _) fun m4Heartbeats => ?_
  exact tidy_then (tidy_files permits.plain _) fun shown => tidy_pure _

end observe

section debug

theorem tidy_gdbCommands (sessionId : Nat) (commands : List String) :
    Tidy allowed (gdbCommands sessionId commands) := by
  induction commands with
  | nil => exact tidy_pure []
  | cons command commands ih =>
    refine tidy_then (tidy_gdbCommand permits sessionId _) fun result => ?_
    exact tidy_then ih fun results => tidy_pure _

omit permits registry in
theorem selects_again {selector : DeviceSelector} {resolved other : Resolved} (first : Selects selector resolved)
    (second : Selects (again resolved) other) : Selects selector other := by
  intro probeSerial named
  have hother : other.probeSerial = resolved.probeSerial := second resolved.probeSerial rfl
  exact hother.trans (first probeSerial named)

theorem tidy_debugSession (resolved : Resolved) (info : SessionInfo) :
    Tidy allowed (debugSession registry resolved info) := by
  refine tidy_ensuring ?_ (tidy_stopGdb permits _ true)
  refine tidy_then (tidy_gdbCommands permits _ _) fun first => ?_
  refine tidy_then (tidy_serialExchange permits _ _ _ _) fun serialBreak => ?_
  refine tidy_then (tidy_sleep permits.plain) fun _ => ?_
  refine tidy_then (tidy_gdbCommands permits _ _) fun second => ?_
  refine tidy_then (tidy_serialExchange permits _ _ _ _) fun serialWatch => ?_
  refine tidy_then (tidy_sleep permits.plain) fun _ => ?_
  refine tidy_then (tidy_gdbCommands permits _ _) fun third => ?_
  exact tidy_then (tidy_files permits.plain _) fun shown => tidy_pure _

omit permits registry in
theorem tidy_attempt {body : Coroutine α} (h : Tidy allowed body) : Tidy allowed (attempt body) := by
  intro entered
  refine follows_bind (h entered) fun result after hafter => ?_
  exact follows_done hafter

omit registry in
theorem tidy_recoverTarget (sessionId : Nat) (commands : List String) :
    Tidy allowed (recoverTarget sessionId commands) := by
  induction commands with
  | nil => exact tidy_pure ()
  | cons command commands ih =>
    exact tidy_then (tidy_suppressing (tidy_discard (tidy_gdbCommand permits sessionId _))) fun _ => ih

theorem tidy_crashSession (resolved : Resolved) (info : SessionInfo) :
    Tidy allowed (crashSession registry resolved info) := by
  refine tidy_then (tidy_attempt ?_) fun gathered => tidy_ensuring ?_ ?_
  · refine tidy_then (tidy_gdbCommands permits _ _) fun first => ?_
    refine tidy_then (tidy_serialExchange permits _ _ _ _) fun trigger => ?_
    refine tidy_then (tidy_sleep permits.plain) fun _ => ?_
    refine tidy_then (tidy_gdbCommands permits _ _) fun second => ?_
    exact tidy_then (tidy_gdbCommands permits _ _) fun recovery => tidy_pure _
  · refine tidy_then (tidy_orRaise _) fun evidence => ?_
    exact tidy_then (tidy_files permits.plain _) fun shown => tidy_pure _
  · refine tidy_then ?_ fun _ => tidy_then (tidy_stopGdb permits _ false) fun _ => tidy_sleep permits.plain
    rw [recoverUnless]
    split
    next => exact tidy_pure ()
    next => exact tidy_recoverTarget permits _ _

omit registry in
theorem tidy_rttSession (rttAddress : Nat) (duration : PyStr) (info : SessionInfo) :
    Tidy allowed (rttSession rttAddress duration info) := by
  refine tidy_ensuring ?_ (tidy_stopGdb permits _ true)
  refine tidy_then (tidy_gdbCommand permits _ _) fun configuration => ?_
  split
  next => exact tidy_throw _
  next =>
    refine tidy_then (tidy_gdbCommand permits _ _) fun continuation => ?_
    split
    next => exact tidy_throw _
    next => exact tidy_then (tidy_sleep permits.plain) fun _ => tidy_captureGdbChannel permits _ _ _ none

section acquiring

variable {selector : DeviceSelector}
  (acquires : ∀ resolved owner, Selects selector resolved → allowed (.acquire resolved.probeSerial owner))
include acquires

theorem tidy_debugFixture (elfPath : PyStr) : Tidy allowed (debugFixture registry elfPath selector) := by
  refine tidy_resolve_then permits.plain fun resolved selects => ?_
  refine tidy_then (tidy_startGdb permits (fun other owner h => ?_) (some elfPath)) fun info =>
    tidy_debugSession permits resolved info
  exact acquires other owner (selects_again selects h)

theorem tidy_crashCapture (elfPath : PyStr) : Tidy allowed (crashCapture registry elfPath selector) := by
  refine tidy_resolve_then permits.plain fun resolved selects => ?_
  refine tidy_then (tidy_startGdb permits (fun other owner h => ?_) (some elfPath)) fun info =>
    tidy_crashSession permits resolved info
  exact acquires other owner (selects_again selects h)

end acquiring

end debug

end JLinkMcp.Giga
