import JLinkMcp.ServiceCommands

namespace JLinkMcp.Giga

open Host Audit Service TaskProgram

/-- A text of the source. -/
abbrev pyText (s : String) : PyStr := PyStr.ofString s

/-- `resolved.model_copy(update={"core": core})`, as the selector of another call -/
def onCore (resolved : Resolved) (core : String) : DeviceSelector where
  probeSerial := some resolved.probeSerial
  boardSerial := resolved.boardSerial
  targetProfile := some resolved.targetProfile
  core := some (pyText core)
  interface := some resolved.interface
  speedKhz := some resolved.speedKhz

/-- `resolved`, as the selector of another call -/
def again (resolved : Resolved) : DeviceSelector := { onCore resolved "" with core := some resolved.core }

/-- `result.artifact_hashes[path] = sha256` -/
def withHash (result : CommandResult) (path sha256 : PyStr) : CommandResult :=
  { result with artifactHashes :=
      if result.artifactHashes.any fun item => item.1 = path then
        result.artifactHashes.map fun item => if item.1 = path then (path, sha256) else item
      else result.artifactHashes ++ [(path, sha256)] }

/-- Registers the file and adds its hash to the result. -/
def registerInput (result : CommandResult) (path kind : PyStr) : Coroutine CommandResult := do
  let artifact ← files (.artifact path kind)
  files (.registerArtifact artifact)
  return withHash result path artifact.sha256

section flash

variable (registry : TargetRegistry)

def flashAndVerify (artifactPath : PyStr) (selector : DeviceSelector) : Coroutine CommandResult := do
  let path ← files (.allowedPath artifactPath)
  if !hasSuffix path [".elf", ".hex", ".bin"] then raiseValue "flash artifact must be ELF, HEX, or BIN"
  else if hasSuffix path [".bin"] then
    raiseValue "raw BIN flashing requires an explicit destination address; use flash_binary"
  else
    let commands := [pyText "Reset", withOperands "LoadFile" (quoted path), pyText "Reset", pyText "Go"]
    let result ← commanderCommands registry commands selector "flash_and_verify" true
    registerInput result path ((suffixLower path).drop 1)

/-- `f'{command} "{path}", 0x{address:08X}'` -/
def binaryCommand (command : String) (path : PyStr) (address : Int) : PyStr :=
  withOperands command (quoted path ++ pyText ", " ++ address8 address.toNat)

def flashBinary (artifactPath : PyStr) (address : Int) (selector : DeviceSelector) :
    Coroutine CommandResult := do
  let path ← files (.allowedPath artifactPath)
  if !hasSuffix path [".bin"] || address < 0 then
    raiseValue "flash_binary requires a BIN file and valid address"
  else
    let commands := [pyText "Reset", binaryCommand "LoadBin" path address, binaryCommand "VerifyBin" path address,
      pyText "Reset", pyText "Go"]
    let result ← commanderCommands registry commands selector "flash_binary" true
    registerInput result path (pyText "bin")

def backupFlash (address size : Int) (selector : DeviceSelector) :
    Coroutine (CommandResult × Option Artifact) := do
  if address < 0 ∨ size ≤ 0 ∨ 32 * 1024 * 1024 < size then raiseValue "invalid backup range"
  else
    let destination ← files (.newPath (pyText "flash-backup") (pyText ".bin"))
    let operands := quoted destination ++ pyText ", " ++ address8 address.toNat ++ pyText ", 0x" ++
      hexUpper size.toNat
    let result ← commanderCommands registry [withOperands "SaveBin" operands] selector "backup_flash" false
    if result.ok then
      let saved : Bool ← files (.pathExists destination)
      if saved then
        let artifact : Artifact ← files (.artifact destination (pyText "flash-backup"))
        files (.registerArtifact artifact)
        return (withHash result destination artifact.sha256, some artifact)
      else return (result, none)
    else return (result, none)

/-- What `restore_backup` reports. -/
structure Restored where
  ok : Bool
  backupSha256 : PyStr
  flash : CommandResult
  verify : CommandResult

/-- `re.fullmatch(r"[0-9a-fA-F]{64}", text)` -/
def isSha256 (text : PyStr) : Bool := text.length = 64 && text.all fun c => (hexValue c).isSome

def restoreBackup (backupPath : PyStr) (address : Int) (expectedSha256 : PyStr) (selector : DeviceSelector) :
    Coroutine Restored := do
  let path ← files (.allowedPath backupPath)
  if !hasSuffix path [".bin"] then raiseValue "restore requires a raw BIN backup"
  else
    let actualHash ← files (.fileDigest path)
    if !isSha256 expectedSha256 then raiseValue "expected_sha256 must be a 64-character hex digest"
    else if lowerAscii actualHash ≠ lowerAscii expectedSha256 then
      raiseValue "backup hash does not match restore authorization"
    else
      let flashed ← flashBinary registry path address selector
      let compared ← verifyBinary registry path address selector
      return ⟨flashed.ok && compared.ok, actualHash, flashed, compared⟩

/-- What `compare_firmware` and `compare_backup_region` report. -/
structure Comparison where
  matched : Bool
  artifact : Artifact
  command : CommandResult

def compareFirmware (artifactPath : PyStr) (address : Int) (selector : DeviceSelector) :
    Coroutine Comparison := do
  let path ← files (.allowedPath artifactPath)
  let artifact ← files (.artifact path (pyText "comparison-input"))
  let result ← verifyBinary registry path address selector
  files (.registerArtifact artifact)
  return ⟨result.ok, artifact, withHash result path artifact.sha256⟩

def compareBackupRegion (backupPath : PyStr) (backupOffset address size : Int) (selector : DeviceSelector) :
    Coroutine Comparison := do
  let source ← files (.allowedPath backupPath)
  if !hasSuffix source [".bin"] then raiseValue "backup region comparison requires a BIN artifact"
  else if backupOffset < 0 ∨ address < 0 ∨ size ≤ 0 ∨ 32 * 1024 * 1024 < size then
    raiseValue "invalid backup region"
  else
    let length : Nat ← files (.fileSize source)
    if (length : Int) < backupOffset + size then raiseValue "backup region extends beyond the artifact"
    else
      let destination ← files (.newPath (pyText "backup-region") (pyText ".bin"))
      files (.copySlice source destination backupOffset.toNat size.toNat)
      let artifact : Artifact ← files (.artifact destination (pyText "backup-region"))
      files (.registerArtifact artifact)
      let result ← verifyBinary registry destination address selector
      let digest ← files (.fileDigest source)
      return ⟨result.ok, artifact, withHash (withHash result source digest) destination artifact.sha256⟩

end flash

section preflight

variable (registry : TargetRegistry)

/-- What `prepare_giga_dual_core_debug` reports. -/
structure DualCorePreparation where
  ok : Bool
  selector : Resolved
  gcrBefore : Nat
  m7Identity : CommandResult
  snapshot : CommandResult
  release : Option CommandResult
  m4Identity : CommandResult

/-- `int(text, 0)` of a text that begins with `0x` -/
def parseHex (text : PyStr) : Option Nat :=
  if text.take 2 = pyText "0x" ∧ (text.drop 2) ≠ [] ∧ (text.drop 2).all (fun c => (hexValue c).isSome) then
    some ((text.drop 2).foldl (fun n c => n * 16 + (hexValue c).getD 0) 0)
  else none

/-- `int(parsed["memory"][0]["values"][0], 0)` -/
def memoryWord (parsed : JsonDict) : Option Nat :=
  match (PyJson.dict parsed).get? "memory" with
  | some (.list (first :: _)) =>
    match first.get? "values" with
    | some (.list (.str value :: _)) => parseHex value
    | _ => none
  | _ => none

/-- `RCC_GCR` -/
def rccGcrAddress : Nat := 0x580244A0

/-- Sets `BOOT_C2` of the register, where it is not set. -/
def releaseCoprocessor (gcrBefore : Nat) (m7 : DeviceSelector) : Coroutine (Option CommandResult) :=
  if gcrBefore &&& 8 = 0 then do
    let release ← writeMemory registry rccGcrAddress [((gcrBefore ||| 8 : Nat) : Int)] 32 m7
    if release.ok then return some release
    else raiseRuntime (pyText "could not set STM32H747 RCC_GCR.BOOT_C2")
  else pure none

def prepareGigaDualCoreDebug (selector : DeviceSelector) : Coroutine DualCorePreparation := do
  let resolved ← resolveSelectorWait registry selector
  let m7Identity ← connect registry (onCore resolved "m7")
  let snapshot ← readMemory registry rccGcrAddress 1 32 (onCore resolved "m7")
  match memoryWord snapshot.parsed with
  | none => raiseRuntime (pyText "could not read STM32H747 RCC_GCR")
  | some gcrBefore =>
    let release ← releaseCoprocessor registry gcrBefore (onCore resolved "m7")
    sleep
    let m4Identity ← connect registry (onCore resolved "m4")
    return {
      ok := m7Identity.ok && snapshot.ok && release.all CommandResult.ok && m4Identity.ok
      selector := resolved, gcrBefore, m7Identity, snapshot, release, m4Identity }

/-- What `hardware_preflight` reports. -/
structure Preflight where
  ok : Bool
  selector : Resolved
  doctor : Bool
  preparation : Option DualCorePreparation
  m7Identity : CommandResult
  m4Identity : CommandResult
  registerSnapshot : CommandResult

/-- The registers that `hardware_preflight` reads. -/
def preflightRegisters : List PyStr :=
  ["Mem32 0x5C001000 1", "Mem32 0x5200201C 1", "Mem32 0x52002020 1", "Mem32 0x5200211C 1",
    "Mem32 0x52002120 1", "Mem32 0x52002038 1", "Mem32 0x5200203C 1", "Mem32 0x52002138 1",
    "Mem32 0x5200213C 1", "Mem32 0x52002040 1", "Mem32 0x52002044 1"].map pyText

/-- The identities of both cores, and whether they are good. -/
def preflightIdentities (resolved : Resolved) (prepareDualCore : Bool) :
    Coroutine (Option DualCorePreparation × CommandResult × CommandResult × Bool) :=
  if prepareDualCore then do
    let preparation ← prepareGigaDualCoreDebug registry (again resolved)
    return (some preparation, preparation.m7Identity, preparation.m4Identity, preparation.ok)
  else do
    let m7 ← connect registry (onCore resolved "m7")
    let m4 ← connect registry (onCore resolved "m4")
    return (none, m7, m4, m7.ok && m4.ok)

def hardwarePreflight (selector : DeviceSelector) (prepareDualCore : Bool) : Coroutine Preflight := do
  let resolved ← resolveSelectorWait registry selector
  let (preparation, m7Identity, m4Identity, identitiesOk) ← preflightIdentities registry resolved prepareDualCore
  let doctor : Bool ← files .doctor
  let registers ← raw registry preflightRegisters (onCore resolved "m7") false
  return { ok := doctor && identitiesOk && registers.ok, selector := resolved, doctor, preparation, m7Identity
           m4Identity, registerSnapshot := registers }

end preflight

section build

/-- `BuildResult` -/
structure BuildResult where
  core : PyStr
  buildDirectory : PyStr
  command : CommandResult
  artifacts : List Artifact

/-- `self.service.runner.run` -/
def runTool (argv : List PyStr) (backend : String) : Coroutine CommandResult :=
  ExceptT.mk (.call (Call.run argv (pyText backend)))

/-- `re.fullmatch(r"[0-9a-f]{40}", text)` -/
def isCommit (text : PyStr) : Bool :=
  text.length = 40 && text.all fun c => (48 ≤ c.val && c.val ≤ 57) || (97 ≤ c.val && c.val ≤ 102)

/-- `revision.stdout.strip() if revision.ok else ""`, with the blanks of ASCII -/
def commitOf (revision : CommandResult) : PyStr :=
  if revision.ok then ((revision.stdout.dropWhile isBlank).reverse.dropWhile isBlank).reverse else []

/-- `_build_identity` -/
def buildIdentity : Coroutine BuildIdentity := do
  let stamp ← ask .stamp
  let revision ← runTool (["git", "rev-parse", "--verify", "HEAD"].map pyText) "git"
  let commit := commitOf revision
  if isCommit commit then return ⟨commit, pyText "git-commit", stamp⟩
  else
    let tree ← files .sourceTreeIdentity
    return ⟨tree, pyText "source-tree-sha1", stamp⟩

/-- A tool run that is recorded and has to succeed. -/
def recordedRun (argv : List PyStr) (backend : PyStr) (action : String) (failure : PyStr) :
    Coroutine CommandResult := do
  let result ← ExceptT.mk (.call (Call.run argv backend))
  append (entry result (pyText action) none false)
  if result.ok then return result
  else raiseRuntime (failure ++ if result.stderr = [] then result.stdout else result.stderr)

/-- `build_dir / f"{elf_path.stem}{suffix}"` for an ELF file of that directory -/
def beside (elfPath : PyStr) (suffix : String) : PyStr := elfPath.take (elfPath.length - 4) ++ pyText suffix

/-- `_regenerate_flash_artifacts` -/
def regenerateFlashArtifacts (elfPath compilerPath : PyStr) : Coroutine Unit := do
  let objcopy := compilerPath ++ pyText "/arm-none-eabi-objcopy"
  let backend := pyText "arm-none-eabi-objcopy"
  let failure := pyText "objcopy failed: "
  discard (recordedRun [objcopy, pyText "-O", pyText "binary", elfPath, beside elfPath ".bin"]
    backend "generate_binary" failure)
  discard (recordedRun [objcopy, pyText "-O", pyText "ihex", pyText "-R", pyText ".eeprom", elfPath,
    beside elfPath ".hex"] backend "generate_ihex" failure)

/-- One of the jobs of `_generate_analysis_artifacts`. -/
def analysisJob (elfPath compilerPath : PyStr) (tool : String) (arguments : List String)
    (suffix action : String) : Coroutine Unit := do
  let executable := compilerPath ++ pyText "/" ++ pyText tool
  let argv := executable :: arguments.map pyText ++ [elfPath]
  let result ← recordedRun argv (pyText tool) action (pyText tool ++ pyText " failed: ")
  files (.writeText (beside elfPath suffix) result.stdout)

/-- `_generate_analysis_artifacts` -/
def generateAnalysisArtifacts (elfPath compilerPath : PyStr) : Coroutine Unit := do
  analysisJob elfPath compilerPath "arm-none-eabi-nm" ["-n", "-S", "--defined-only"] ".symbols" "generate_symbols"
  analysisJob elfPath compilerPath "arm-none-eabi-objdump" ["-d", "-S", "-l"] ".disassembly"
    "generate_disassembly"

/-- The arguments of `arduino-cli` for a core and a split of the flash. -/
def boardOptions (core flashSplit : PyStr) : PyStr :=
  pyText "target_core=c" ++ core ++ pyText ",split=" ++ flashSplit

/-- What `build_firmware` makes of the ELF file of a build. -/
def elfArtifacts (buildDirectory properties : PyStr) : Coroutine (List Artifact) := do
  let elf : Option PyStr ← files (.findElf buildDirectory)
  match elf with
  | none => raiseRuntime (pyText "Arduino build succeeded without an ELF artifact")
  | some elfPath =>
    files (.finalizeElf elfPath)
    let compilerPath ← files (.compilerPath properties)
    regenerateFlashArtifacts elfPath compilerPath
    generateAnalysisArtifacts elfPath compilerPath
    files (.buildOutputs buildDirectory)

/-- What `build_firmware` registers of a build that succeeded. -/
def buildArtifacts (command : CommandResult) (buildDirectory properties : PyStr) : Coroutine (List Artifact) :=
  if command.ok then elfArtifacts buildDirectory properties else pure []

/-- `build_firmware` -/
def buildFirmware (sketch core flashSplit : PyStr) : Coroutine BuildResult := do
  let sketchPath ← files (.resolveSketch sketch)
  if flashSplit ∉ ["100_0", "75_25", "50_50"].map pyText then
    raiseValue "flash_split must be 100_0, 75_25, or 50_50"
  else
    let buildDirectory ← files (.buildDirectory sketchPath core)
    let identity ← buildIdentity
    let staged ← files (.stageSketch sketchPath buildDirectory identity)
    let command ← runTool (["arduino-cli", "compile", "--fqbn", "arduino:mbed_giga:giga",
      "--board-options"].map pyText ++ [boardOptions core flashSplit, pyText "--output-dir", buildDirectory,
      pyText "--export-binaries", pyText "--clean", staged]) "arduino-cli"
    append (entry command (pyText "build_firmware") none false (some [field "sketch" (.str sketchPath),
      field "staged_sketch" (.str staged), field "core" (.str core), field "split" (.str flashSplit)]))
    let properties ← runTool (["arduino-cli", "compile", "--fqbn", "arduino:mbed_giga:giga",
      "--board-options"].map pyText ++ [boardOptions core flashSplit, pyText "--show-properties", sketchPath])
      "arduino-cli-properties"
    let artifacts ← buildArtifacts command buildDirectory properties.stdout
    let manifests : List Artifact ← files (.writeBuildManifest buildDirectory artifacts)
    return ⟨core, buildDirectory, command, artifacts ++ manifests⟩

/-- `_build_artifact` -/
def buildArtifact (build : BuildResult) (kind : String) : Coroutine Artifact :=
  match build.artifacts.find? fun artifact => artifact.kind = pyText kind with
  | some artifact => pure artifact
  | none => raiseRuntime (pyText "build produced no " ++ pyText kind ++ pyText " artifact")

end build

section deploy

variable (registry : TargetRegistry)

/-- What `dual_core_deploy` reports. -/
structure Deployment where
  ok : Bool
  selector : Resolved
  m4Build : BuildResult
  m7Build : BuildResult
  m4Manifest : BuildManifest
  m7Manifest : BuildManifest
  m4Flash : CommandResult
  m7Flash : CommandResult

/-- One round of the loop of `dual_core_deploy`. -/
def flashBuild (build : BuildResult) (access : DeviceSelector) : Coroutine (BuildManifest × CommandResult) := do
  let manifestArtifact ← buildArtifact build "manifest"
  let manifest : BuildManifest ← files (.buildManifest manifestArtifact.path)
  let binary ← buildArtifact build "bin"
  let result ← flashBinary registry binary.path manifest.flashStart access
  return (manifest, result)

def dualCoreDeploy (selector : DeviceSelector) (m7Sketch m4Sketch flashSplit : PyStr) :
    Coroutine Deployment := do
  let resolved ← resolveSelectorWait registry selector
  let m4 ← buildFirmware m4Sketch (pyText "m4") flashSplit
  let m7 ← buildFirmware m7Sketch (pyText "m7") flashSplit
  let (m4Flashed, m7Flashed) ← withLease resolved.probeSerial (pyText "giga_dual_core_deploy") fun _ => do
    let m4Flashed ← flashBuild registry m4 (onCore resolved "m7")
    let m7Flashed ← flashBuild registry m7 (onCore resolved "m7")
    return (m4Flashed, m7Flashed)
  return {
    ok := m4.command.ok && m7.command.ok && m4Flashed.2.ok && m7Flashed.2.ok
    selector := { resolved with core := pyText "m7" }, m4Build := m4, m7Build := m7
    m4Manifest := m4Flashed.1, m7Manifest := m7Flashed.1, m4Flash := m4Flashed.2, m7Flash := m7Flashed.2 }

end deploy

end JLinkMcp.Giga
