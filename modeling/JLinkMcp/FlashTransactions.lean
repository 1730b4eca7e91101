import JLinkMcp.GigaDebugging

namespace JLinkMcp.Giga

open Host Audit Service TaskProgram

/-- What the handshake shows of the firmware that answers. -/
structure BridgeStatus where
  firmwareVersion : PyStr
  wireVersion : Int
  sourceSha256 : PyStr
  command : CommandResult

/-- What `deploy_protocol_bridge` and `validate_fixture` ask for, step by step. -/
inductive Step where
  | resolve (selector : DeviceSelector)
  | bridgeRelease
  | enter (probeSerial owner : PyStr)
  | leave (probeSerial : PyStr)
  | hardwarePreflight (selector : DeviceSelector) (prepareDualCore : Bool)
  | backupFlash (address size : Int) (selector : DeviceSelector)
  | flashAndVerify (artifactPath : PyStr) (selector : DeviceSelector)
  | registerFirmware (path : PyStr)
  | bridgeStatus (selector : DeviceSelector)
  | dualCoreDeploy (selector : DeviceSelector) (m7Sketch m4Sketch : PyStr)
  | bootAndObserve (selector : DeviceSelector) (m7ElfPath m4ElfPath : PyStr)
  | debugFixture (elfPath : PyStr) (selector : DeviceSelector)
  | crashCapture (elfPath : PyStr) (selector : DeviceSelector)
  | restoreBackup (backupPath : PyStr) (address : Int) (expectedSha256 : PyStr) (selector : DeviceSelector)
  | generateValidationReport (title : PyStr)

namespace Step

/-- What a step gives where it does not raise. -/
def Value : Step → Type
  | resolve _ => Resolved
  | bridgeRelease => BridgeRelease
  | enter _ _ => Nat
  | leave _ => Unit
  | hardwarePreflight _ _ => Preflight
  | backupFlash _ _ _ => CommandResult × Option Artifact
  | flashAndVerify _ _ => CommandResult
  | registerFirmware _ => Artifact
  | bridgeStatus _ => BridgeStatus
  | dualCoreDeploy _ _ _ => Deployment
  | bootAndObserve _ _ _ => Observation
  | debugFixture _ _ | crashCapture _ _ => DebugReport
  | restoreBackup _ _ _ _ => Restored
  | generateValidationReport _ => Bool × List Artifact

/-- A step gives its value or raises; the end of a lease does not raise. -/
def Reply : Step → Type
  | leave _ => Unit
  | step => Except ServiceError step.Value

/-- The steps that program or erase flash. -/
def changesFlash : Step → Bool
  | flashAndVerify _ _ | dualCoreDeploy _ _ _ | restoreBackup _ _ _ _ => true
  | _ => false

/-- The selector of a step that starts a GDB session. -/
def session? : Step → Option DeviceSelector
  | debugFixture _ selector | crashCapture _ selector => some selector
  | _ => none

end Step

/-- A coroutine over the steps of a transaction. -/
abbrev Transaction (α : Type) := ExceptT ServiceError (Task Step Step.Reply) α

/-- `async with self.service.leases.lease(probe_serial, owner=owner)` -/
def underLease {α : Type} (probeSerial owner : PyStr) (body : Transaction α) : Transaction α := do
  let _ ← ExceptT.mk (.call (Step.enter probeSerial owner))
  ensuring body (ExceptT.mk (.ask (Step.leave probeSerial) fun _ => .done (.ok ())))

/-- The start and the size of the internal flash. -/
def flashStart : Int := 0x08000000

def flashSize : Int := 0x200000

def wholeBackup (selector : DeviceSelector) : Transaction (CommandResult × Option Artifact) :=
  ExceptT.mk (.call (Step.backupFlash flashStart flashSize selector))

/-- The artifact of a backup that succeeded. -/
def usableBackup (backup : CommandResult × Option Artifact) : Option Artifact :=
  if backup.1.ok then backup.2 else none

def restoreFrom (backup : Artifact) (selector : DeviceSelector) : Transaction Restored :=
  ExceptT.mk (.call (Step.restoreBackup backup.path flashStart backup.sha256 selector))

/-- The value of a body, or what it raised. -/
def caught {α : Type} (body : Transaction α) : Transaction (Except ServiceError α) :=
  ExceptT.mk (body.run.bind fun result => .done (.ok result))

section deploy

/-- `ProtocolBridgeDeployResult` -/
structure Deployed where
  preflight : Preflight
  backup : Artifact
  firmware : Artifact
  flash : CommandResult
  handshake : BridgeStatus

/-- What the flashed firmware answers is what the release says. -/
def matchesRelease (release : BridgeRelease) (handshake : BridgeStatus) : Bool :=
  handshake.firmwareVersion = release.firmwareVersion && handshake.wireVersion = release.wireVersion &&
    handshake.sourceSha256 = release.sourceSha256

/-- The `try` block of `deploy_protocol_bridge`. -/
def flashBridge (release : BridgeRelease) (preflight : Preflight) (backup : Artifact)
    (selector : DeviceSelector) : Transaction Deployed := do
  let flash : CommandResult ← ExceptT.mk (.call (Step.flashAndVerify release.stagedHex selector))
  if flash.ok then
    let firmware ← ExceptT.mk (.call (Step.registerFirmware release.stagedHex))
    let handshake ← ExceptT.mk (.call (Step.bridgeStatus selector))
    if matchesRelease release handshake then return ⟨preflight, backup, firmware, flash, handshake⟩
    else throw (.runtimeError (pyText "flashed protocol bridge identity does not match the release"))
  else throw (.runtimeError (pyText "protocol bridge flashing failed"))

/-- The `except BaseException` block of `deploy_protocol_bridge`. -/
def recoverBridge (backup : Artifact) (selector : DeviceSelector) (reason : ServiceError) :
    Transaction Deployed := do
  let restored ← caught (restoreFrom backup selector)
  let outcome := match restored with
    | .ok restored => if restored.ok then RestoreOutcome.verified else .failedVerification
    | .error _ => .raised
  throw (.bridgeDeploy reason outcome backup.path backup.sha256)

/-- What `deploy_protocol_bridge` does under the lease. -/
def deployLocked (release : BridgeRelease) (preflight : Preflight) (selector : DeviceSelector) :
    Transaction Deployed := do
  let backup ← wholeBackup selector
  match usableBackup backup with
  | none => throw (.runtimeError (pyText "protocol bridge deployment requires a readable flash backup"))
  | some backup =>
    catching (flashBridge release preflight backup selector) anyError (recoverBridge backup selector)

/-- `deploy_protocol_bridge`; `profile` is the target profile of the GIGA. -/
def deployProtocolBridge (profile : TargetProfile) (selector : DeviceSelector) : Transaction Deployed := do
  let resolved ← ExceptT.mk (.call (Step.resolve selector))
  if resolved.targetProfile ≠ profile.id ∨ resolved.core ≠ profile.defaultCore then
    throw (.valueError (pyText "the protocol bridge firmware runs on the GIGA M7"))
  else
    let release ← ExceptT.mk (.call Step.bridgeRelease)
    let preflight : Preflight ← ExceptT.mk (.call (Step.hardwarePreflight (again resolved) true))
    if preflight.ok then
      underLease resolved.probeSerial (pyText "deploy_protocol_bridge")
        (deployLocked release preflight (again resolved))
    else throw (.runtimeError (pyText "protocol bridge deployment stopped after failed preflight"))

end deploy

section validate

/-- What a validation step shows. -/
inductive StepDetails where
  | preflight (report : Preflight)
  | backup (backup : CommandResult × Option Artifact)
  | deployment (report : Deployment)
  | observation (report : Observation)
  | debug (report : DebugReport)
  | raised (error : ServiceError)
  | restored (report : Restored)
  | report (artifacts : List Artifact)

structure ValidationStep where
  name : String
  ok : Bool
  details : StepDetails

structure ValidationReport where
  selector : Resolved
  steps : List ValidationStep
  artifacts : List Artifact := []
  restoredOriginal : Bool := false
  warnings : List String := []

/-- What the `try` block of `_validate_fixture_locked` leaves: what it noted, and what it raised. -/
structure Validated where
  steps : List ValidationStep
  artifacts : List Artifact
  raised : Option ServiceError

/-- A step of the `try` block; where it raises, what was noted stays. -/
def noting {α : Type} (noted : Validated) (body : Transaction α)
    (next : α → Task Step Step.Reply Validated) : Task Step Step.Reply Validated :=
  body.run.bind fun
    | .ok value => next value
    | .error error => .done { noted with raised := some error }

/-- Whether the text occurs in the path. -/
def occursIn (text path : PyStr) : Bool := path.tails.any fun rest => text.isPrefixOf rest

/-- `next(item.path for item in artifacts if item.kind == "elf" and part in item.path)` -/
def elfPath (artifacts : List Artifact) (part : String) : Transaction PyStr :=
  match artifacts.find? fun item => item.kind = pyText "elf" && occursIn (pyText part) item.path with
  | some item => pure item.path
  | none => throw .raised

/-- The `try` block of `_validate_fixture_locked`. -/
def exerciseFixture (resolved : Resolved) (m7Sketch m4Sketch : PyStr) (noted : Validated) :
    Task Step Step.Reply Validated :=
  noting noted (ExceptT.mk (.call (Step.dualCoreDeploy (again resolved) m7Sketch m4Sketch)))
      fun (deploy : Deployment) =>
  let noted := { noted with
    steps := noted.steps ++ [⟨"dual_core_deploy", deploy.ok, .deployment deploy⟩]
    artifacts := noted.artifacts ++ deploy.m4Build.artifacts ++ deploy.m7Build.artifacts }
  noting noted (elfPath noted.artifacts "/m7-") fun m7Elf =>
  noting noted (elfPath noted.artifacts "/m4-") fun m4Elf =>
  noting noted (ExceptT.mk (.call (Step.bootAndObserve (again resolved) m7Elf m4Elf)))
      fun (observe : Observation) =>
  let noted := { noted with steps := noted.steps ++ [⟨"boot_and_observe", observe.ok, .observation observe⟩] }
  noting noted (ExceptT.mk (.call (Step.debugFixture m7Elf (again resolved)))) fun (debug : DebugReport) =>
  let noted := { noted with steps := noted.steps ++ [⟨"debug_assertions", debug.ok, .debug debug⟩] }
  noting noted (ExceptT.mk (.call (Step.crashCapture m7Elf (again resolved)))) fun (crash : DebugReport) =>
  .done { noted with steps := noted.steps ++ [⟨"controlled_crash", crash.ok, .debug crash⟩] }

/-- What `except Exception` and the `finally` of `_validate_fixture_locked` note. -/
def notedAfter (validated : Validated) (restored : Except ServiceError Restored) : List ValidationStep :=
  validated.steps ++
    (match validated.raised with
      | some error => [⟨"validation_exception", false, .raised error⟩]
      | none => []) ++
    [match restored with
      | .ok restored => ⟨"restore_original_flash", restored.ok, .restored restored⟩
      | .error error => ⟨"restore_original_flash", false, .raised error⟩]

/-- From the backup on. An error that is no `Exception` goes on when the `finally` is done. -/
def validateAndRestore (resolved : Resolved) (m7Sketch m4Sketch : PyStr) (backup : Artifact)
    (steps : List ValidationStep) : Transaction ValidationReport := do
  let validated ← ExceptT.lift (exerciseFixture resolved m7Sketch m4Sketch ⟨steps, [backup], none⟩)
  let restored ← caught (restoreFrom backup (onCore resolved "m7"))
  match restored, validated.raised with
  | .error .cancelled, _ | _, some .cancelled => throw .cancelled
  | restored, _ =>
    let (chainOk, artifacts) ← (ExceptT.mk (.call (Step.generateValidationReport
      (pyText "GIGA fixture validation"))) : Transaction (Bool × List Artifact))
    return {
      selector := resolved
      steps := notedAfter validated restored ++ [⟨"validation_report", chainOk, .report artifacts⟩]
      artifacts := validated.artifacts ++ artifacts
      restoredOriginal := match restored with
        | .ok restored => restored.ok
        | .error _ => false }

/-- `_validate_fixture_locked`; a selector of the extension has one of the two cores. -/
def validateFixtureLocked (resolved : Resolved) (m7Sketch m4Sketch : PyStr) :
    Transaction ValidationReport := do
  if resolved.core ∉ [pyText "m7", pyText "m4"] then throw .raised
  else
    let preflight : Preflight ← ExceptT.mk (.call (Step.hardwarePreflight (again resolved) false))
    let steps : List ValidationStep := [⟨"hardware_preflight", preflight.ok, .preflight preflight⟩]
    if preflight.ok then
      let backup ← wholeBackup (onCore resolved "m7")
      let steps := steps ++ [⟨"backup_original_flash", (usableBackup backup).isSome, .backup backup⟩]
      match usableBackup backup with
      | none => return { selector := resolved, steps, warnings := ["Original flash could not be backed up."] }
      | some backup => validateAndRestore resolved m7Sketch m4Sketch backup steps
    else
      return { selector := resolved, steps
               warnings := ["validation stopped after failed non-destructive preflight"] }

/-- `validate_fixture` -/
def validateFixture (selector : DeviceSelector) (m7Sketch m4Sketch : PyStr) : Transaction ValidationReport := do
  let resolved ← ExceptT.mk (.call (Step.resolve selector))
  underLease resolved.probeSerial (pyText "giga_fixture_validation")
    (validateFixtureLocked resolved m7Sketch m4Sketch)

end validate

end JLinkMcp.Giga
