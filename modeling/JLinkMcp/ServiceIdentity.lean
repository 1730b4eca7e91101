import JLinkMcp.AuditResult
import Mathlib.Algebra.Order.Ring.Rat

namespace JLinkMcp.Service

open Host Audit

/-- A selector as a caller gives it. `interface` and `speed_khz` have a value where they are set. -/
structure DeviceSelector where
  probeSerial : Option PyStr := none
  boardSerial : Option PyStr := none
  targetProfile : Option PyStr := none
  core : Option PyStr := none
  interface : Option PyStr := none
  speedKhz : Option Nat := none

/-- A selector that `resolve_selector` returned. -/
structure Resolved where
  probeSerial : PyStr
  boardSerial : Option PyStr
  targetProfile : PyStr
  core : PyStr
  interface : PyStr
  speedKhz : Nat

/-- `resolved.model_dump(mode="json")` -/
def Resolved.modelDump (resolved : Resolved) : PyJson :=
  .dict [field "probe_serial" (.str resolved.probeSerial), field "board_serial" (textOrNull resolved.boardSerial),
    field "target_profile" (.str resolved.targetProfile), field "core" (.str resolved.core),
    field "interface" (.str resolved.interface), field "speed_khz" (.int resolved.speedKhz)]

structure CoreProfile where
  expectedCore : PyStr
  expectedCpuid : Int

structure TargetProfile where
  id : PyStr
  cores : List (PyStr × CoreProfile)
  defaultCore : PyStr
  expectedDpidr : Int
  minimumTargetVoltage : ℚ
  defaultInterface : PyStr
  defaultSpeedKhz : Nat

/-- The registered profiles, under their ids. -/
abbrev TargetRegistry := List TargetProfile

def TargetRegistry.profile? (registry : TargetRegistry) (profileId : PyStr) : Option TargetProfile :=
  registry.find? fun profile => profile.id = profileId

def TargetProfile.core? (profile : TargetProfile) (coreId : PyStr) : Option CoreProfile :=
  (profile.cores.find? fun item => item.1 = coreId).map Prod.snd

/-- What `0x[0-9A-Fa-f]+` matches. -/
structure HexText where
  digits : PyStr
  nonempty : digits ≠ []
  hexadecimal : digits.all (fun c => (hexValue c).isSome) = true

def HexText.text (hex : HexText) : PyStr := PyStr.ofString "0x" ++ hex.digits

def HexText.value (hex : HexText) : Nat := hex.digits.foldl (fun n c => n * 16 + (hexValue c).getD 0) 0

/-- A float: the text that JSON has for it and its value. -/
structure Voltage where
  literal : PyStr
  value : ℚ

/-- What `parse_commander_output` returns. `others` are the keys that no check reads. -/
structure Observed where
  targetVoltage : Option Voltage := none
  core : Option PyStr := none
  probeSerial : Option PyStr := none
  firmware : Option PyStr := none
  hardwareVersion : Option PyStr := none
  licenses : Option (List PyStr) := none
  cpuid : Option HexText := none
  dpidr : Option HexText := none
  connected : Option Bool := none
  others : JsonDict := []

def HexText.json (hex : Option HexText) : PyJson := textOrNull (hex.map HexText.text)

def Voltage.json (voltage : Option Voltage) : PyJson := voltage.elim .null fun voltage => .float voltage.literal

def presentField {α : Type} (name : String) (value : Option α) (json : α → PyJson) : JsonDict :=
  (value.map fun value => field name (json value)).toList

def Observed.parsed (observed : Observed) : JsonDict :=
  presentField "target_voltage" observed.targetVoltage (fun voltage => .float voltage.literal) ++
  presentField "core" observed.core .str ++ presentField "probe_serial" observed.probeSerial .str ++
  presentField "firmware" observed.firmware .str ++
  presentField "hardware_version" observed.hardwareVersion .str ++
  presentField "licenses" observed.licenses textList ++
  presentField "cpuid" observed.cpuid (fun hex => .str hex.text) ++
  presentField "dpidr" observed.dpidr (fun hex => .str hex.text) ++
  presentField "connected" observed.connected .bool ++ observed.others

/-- What `CommanderBackend.execute` returns: the result of the process and what its output shows. -/
structure CommanderResult where
  process : CommandResult
  observed : Observed

def CommanderResult.result (commander : CommanderResult) : CommandResult :=
  { commander.process with parsed := commander.observed.parsed }

/-- Why a positive identification fails, with the values that the message shows. -/
inductive IdentityFailure where
  | didNotConnect
  | core (observed : Option PyStr) (expected : PyStr)
  | cpuid (observed : Option HexText) (expected : Int)
  | unexpectedDpidr (observed : Option HexText)
  | voltage (observed : Option Voltage)
  | probeSerial (observed expected : PyStr)

/-- The reasons of a `TargetSelectionError`. -/
inductive TargetSelectionError where
  | noProfileRegistered
  | ambiguousProfile
  | unknownProfile (profileId : PyStr)
  | unknownCore (core profileId : PyStr)
  | ambiguousProbe
  | probeNotAttached (serial : PyStr)
  | boardNotVerified (serial : PyStr)
  | ambiguousBoard
  | identificationFailed (failures : List IdentityFailure)

/-- What the error of a failed deployment tells of the restoration. -/
inductive RestoreOutcome where
  | verified
  | raised
  | failedVerification

/-- What an operation of the service raises. `bridgeDeploy` is a `ProtocolBridgeDeployError`; `raised` stands for any other exception of a tool, a driver, a
validator or the database, and `cancelled` for the one that is no `Exception`. -/
inductive ServiceError where
  | targetSelection (reason : TargetSelectionError)
  | unknownTargetProfile (profileId : PyStr)
  | unknownCoreKey (core : PyStr)
  | probeBusy (serial : PyStr)
  | unknownSession (sessionId : Nat)
  | valueError (message : PyStr)
  | runtimeError (message : PyStr)
  | timeoutError (message : PyStr)
  | bridgeDeploy (reason : ServiceError) (outcome : RestoreOutcome) (backupPath backupSha256 : PyStr)
  | raised
  | cancelled

/-- `observed.lstrip("0") == expected.lstrip("0")` -/
def serialEqual (observed expected : PyStr) : Bool :=
  observed.dropWhile (fun c => c.is '0') == expected.dropWhile fun c => c.is '0'

/-- `int(str(parsed.get(name, "")), 0)`, and -1 where that is no number -/
def registerValue (hex : Option HexText) : Int := hex.elim (-1) fun hex => hex.value

def failsWhen (fails : Bool) (failure : IdentityFailure) : List IdentityFailure :=
  if fails then [failure] else []

/-- The checks of `_validate_identity` in their order. -/
def identityFailures (profile : TargetProfile) (expected : CoreProfile) (commander : CommanderResult)
    (selector : Resolved) : List IdentityFailure :=
  let parsed := commander.observed
  failsWhen (!commander.process.ok || !parsed.connected.getD false) .didNotConnect ++
  failsWhen (parsed.core != some expected.expectedCore) (.core parsed.core expected.expectedCore) ++
  failsWhen (registerValue parsed.cpuid != expected.expectedCpuid) (.cpuid parsed.cpuid expected.expectedCpuid) ++
  failsWhen (registerValue parsed.dpidr != profile.expectedDpidr) (.unexpectedDpidr parsed.dpidr) ++
  failsWhen (parsed.targetVoltage.all fun voltage => voltage.value < profile.minimumTargetVoltage)
    (.voltage parsed.targetVoltage) ++
  failsWhen (selector.probeSerial.isEmpty || !serialEqual (parsed.probeSerial.getD []) selector.probeSerial)
    (.probeSerial (parsed.probeSerial.getD []) selector.probeSerial)

/-- `_validate_identity` -/
def validateIdentity (registry : TargetRegistry) (commander : CommanderResult) (selector : Resolved) :
    Except ServiceError Unit :=
  match registry.profile? selector.targetProfile with
  | none => .error (.unknownTargetProfile selector.targetProfile)
  | some profile =>
    match profile.core? selector.core with
    | none => .error (.unknownCoreKey selector.core)
    | some expected =>
      match identityFailures profile expected commander selector with
      | [] => .ok ()
      | failures => .error (.targetSelection (.identificationFailed failures))

/-- Whether the result passes `_validate_identity` for the selector. -/
def passesIdentity (registry : TargetRegistry) (commander : CommanderResult) (selector : Resolved) : Bool :=
  match validateIdentity registry commander selector with
  | .ok _ => true
  | .error _ => false

theorem passesIdentity_of_ok {registry : TargetRegistry} {commander : CommanderResult} {selector : Resolved}
    {u : Unit} (h : validateIdentity registry commander selector = .ok u) :
    passesIdentity registry commander selector = true := by
  rw [passesIdentity, h]

/-- `probe_identity` as `_attach_identities` sets it -/
def attachedProbe (selector : Resolved) (identity : Observed) : JsonDict :=
  [field "serial" (.str selector.probeSerial), field "observed_serial" (textOrNull identity.probeSerial),
   field "firmware" (textOrNull identity.firmware), field "hardware_version" (textOrNull identity.hardwareVersion),
   field "licenses" (textList (identity.licenses.getD []))]

/-- `target_identity` as `_attach_identities` sets it -/
def attachedTarget (selector : Resolved) (identity : Observed) : JsonDict :=
  [field "board_serial" (textOrNull selector.boardSerial), field "target_profile" (.str selector.targetProfile),
   field "core" (.str selector.core), field "observed_core" (textOrNull identity.core),
   field "cpuid" (HexText.json identity.cpuid), field "dpidr" (HexText.json identity.dpidr),
   field "target_voltage" (Voltage.json identity.targetVoltage)]

structure BoardCapabilities where
  serial : Option PyStr
  targetProfile : Option PyStr
  serialPort : Option PyStr

/-- What discovery finds: the serials of the attached probes, the boards, and the paths that exist. -/
structure CapabilityManifest where
  probes : List PyStr
  boards : List BoardCapabilities
  existingPaths : List PyStr := []

section selection

variable (registry : TargetRegistry) (manifest : CapabilityManifest)

/-- The ids of the set `matching_profile_ids`, each once. -/
def matchingProfileIds (boardSerial : Option PyStr) : List PyStr :=
  ((manifest.boards.filter fun board =>
    (board.targetProfile.any fun profileId => !profileId.isEmpty) &&
      (boardSerial.isNone || board.serial == boardSerial)).filterMap BoardCapabilities.targetProfile).dedup

def selectProfileId (selector : DeviceSelector) : Except TargetSelectionError PyStr :=
  match selector.targetProfile with
  | some profileId => .ok profileId
  | none =>
    match matchingProfileIds manifest selector.boardSerial, registry with
    | [profileId], _ => .ok profileId
    | _, [profile] => .ok profile.id
    | _, _ => .error .ambiguousProfile

def selectProbe (selector : DeviceSelector) : Except TargetSelectionError PyStr :=
  match selector.probeSerial, manifest.probes with
  | none, [serial] => .ok serial
  | none, _ => .error .ambiguousProbe
  | some serial, probes => if serial ∈ probes then .ok serial else .error (.probeNotAttached serial)

/-- `verified` is what `has_verified_target` answers for a board and the selected probe. -/
def selectBoard (profileId : PyStr) (verified : PyStr → Except ServiceError Bool) (selector : DeviceSelector) :
    Except ServiceError (Option PyStr) :=
  let applicable := manifest.boards.filter fun board => board.targetProfile == some profileId
  match selector.boardSerial, applicable with
  | none, [board] => .ok board.serial
  | none, [] => .ok none
  | none, _ => .error (.targetSelection .ambiguousBoard)
  | some serial, applicable =>
    if serial.isEmpty || applicable.any (fun board => board.serial == some serial) then .ok (some serial)
    else if !manifest.boards.isEmpty then .error (.targetSelection (.boardNotVerified serial))
    else do
      if ← verified serial then return some serial
      throw (.targetSelection (.boardNotVerified serial))

/-- `resolve_selector`; `verified` is what `has_verified_target` answers for a board and a probe. -/
def resolveSelector (verified : PyStr → PyStr → Except ServiceError Bool) (selector : DeviceSelector) :
    Except ServiceError Resolved := do
  if registry.isEmpty then throw (.targetSelection .noProfileRegistered)
  let profileId ← (selectProfileId registry manifest selector).mapError .targetSelection
  let some profile := registry.profile? profileId | throw (.targetSelection (.unknownProfile profileId))
  -- an empty core is taken for none
  let core := (selector.core.filter fun core => !core.isEmpty).getD profile.defaultCore
  if (profile.core? core).isNone then throw (.targetSelection (.unknownCore core profileId))
  let probeSerial ← (selectProbe manifest selector).mapError .targetSelection
  let boardSerial ← selectBoard manifest profileId (fun board => verified board probeSerial) selector
  return { probeSerial, boardSerial, targetProfile := profileId, core
           interface := selector.interface.getD profile.defaultInterface
           speedKhz := selector.speedKhz.getD profile.defaultSpeedKhz }

/-- One round of `_wait_for_serial_board`. -/
def serialBoard (resolved : Resolved) : Option PyStr :=
  (manifest.boards.find? fun board => board.serial == resolved.boardSerial &&
    board.serialPort.any fun port => !port.isEmpty && manifest.existingPaths.contains port).bind
      BoardCapabilities.serialPort

end selection

end JLinkMcp.Service
