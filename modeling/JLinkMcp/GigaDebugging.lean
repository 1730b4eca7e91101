import JLinkMcp.GigaWorkflows

namespace JLinkMcp.Giga

open Host Audit Service TaskProgram

variable (registry : TargetRegistry)

section observe

/-- What `boot_and_observe` reports. -/
structure Observation where
  ok : Bool
  selector : Resolved
  resetSystem : CommandResult
  serial : List CommandResult
  heartbeats : List (CommandResult × CommandResult)

/-- The requests that `boot_and_observe` sends. -/
def observationRequests : List String := ["PING", "MANIFEST", "INFO", "SELFTEST", "RPC"]

def observeRequests (m7 : DeviceSelector) : List String → Coroutine (List CommandResult)
  | [] => pure []
  | request :: requests => do
    let result ← serialExchange registry m7 (some (pyText request)) none (pyText "3.0")
    let results ← observeRequests m7 requests
    return result :: results

/-- The two heartbeats of a core, where there is an ELF file for it. -/
def observeHeartbeat (elfPath : Option PyStr) (selector : DeviceSelector) :
    Coroutine (List (CommandResult × CommandResult)) :=
  match elfPath with
  | none => pure []
  | some elfPath => do
    let path ← files (.allowedPath elfPath)
    let symbols : List (PyStr × Nat) ← files (.testSymbols path)
    match symbols.find? fun symbol => symbol.1 = pyText "jlink_mcp_heartbeat" with
    | none => throw .raised
    | some (_, heartbeat) =>
      let first ← readMemory registry heartbeat 1 32 selector
      sleep
      let second ← readMemory registry heartbeat 1 32 selector
      return [(first, second)]

/-- `heartbeat_progressed` -/
def heartbeatProgressed (samples : CommandResult × CommandResult) : Bool :=
  samples.1.ok && samples.2.ok &&
    match memoryWord samples.1.parsed, memoryWord samples.2.parsed with
    | some first, some second => first < second
    | _, _ => false

def bootAndObserve (selector : DeviceSelector) (m7ElfPath m4ElfPath : Option PyStr) :
    Coroutine Observation := do
  let resolved ← resolveSelectorWait registry selector
  let resetSystem ← reset registry (onCore resolved "m7") false (some 2)
  let serial ← observeRequests registry (onCore resolved "m7") observationRequests
  let m7Heartbeats ← observeHeartbeat registry m7ElfPath (onCore resolved "m7")
  let m4Heartbeats ← observeHeartbeat registry m4ElfPath (onCore resolved "m4")
  let heartbeats := m7Heartbeats ++ m4Heartbeats
  let shown : Bool ← files (.evidence serial)
  return {
    ok := resetSystem.ok && serial.all CommandResult.ok && heartbeats.all heartbeatProgressed && shown
    selector := resolved, resetSystem, serial, heartbeats }

end observe

section debug

/-- The results of GDB commands, one after the other. -/
def gdbCommands (sessionId : Nat) : List String → Coroutine (List CommandResult)
  | [] => pure []
  | command :: commands => do
    let result ← gdbCommand sessionId (pyText command)
    let results ← gdbCommands sessionId commands
    return result :: results

/-- What `debug_fixture` and `crash_capture` report. -/
structure DebugReport where
  ok : Bool
  session : SessionInfo
  commands : List CommandResult
  serial : List CommandResult

/-- Until the breakpoint. -/
def breakCommands : List String :=
  ["-data-read-memory-bytes &jlink_mcp_test_buffer 32", "-break-insert jlink_mcp_breakpoint_site",
    "-exec-continue"]

/-- From the breakpoint to the watchpoint. -/
def watchCommands : List String :=
  ["-thread-info", "-stack-list-frames", "-stack-list-variables --all-values",
    "-data-list-register-values x 13 14 15", "-break-delete", "-exec-finish",
    "-break-watch jlink_mcp_watch_value", "-exec-continue"]

/-- From the watchpoint on. -/
def stepCommands : List String :=
  ["-thread-info", "-data-evaluate-expression jlink_mcp_watch_value", "-exec-next-instruction",
    "-data-list-register-values x 15", "-exec-next",
    "-data-write-memory-bytes &jlink_mcp_test_buffer 00112233445566778899aabbccddeeff",
    "-data-read-memory-bytes &jlink_mcp_test_buffer 16", "-break-delete"]

/-- The results of the commands that have to succeed; `debug_fixture` does not look at the others. -/
def assertedResults (commands : List String) (results : List CommandResult) : List CommandResult :=
  ((commands.zip results).filter fun item => item.1 ∉
    ["-data-read-memory-bytes &jlink_mcp_test_buffer 32", "-exec-continue", "-break-delete"]).map Prod.snd

/-- What `debug_fixture` does in its session. -/
def debugSession (resolved : Resolved) (info : SessionInfo) : Coroutine DebugReport :=
  ensuring (do
    let first ← gdbCommands info.sessionId breakCommands
    let serialBreak ← serialExchange registry (again resolved) (some (pyText "BREAK")) none (pyText "0.5")
    sleep
    let second ← gdbCommands info.sessionId watchCommands
    let serialWatch ← serialExchange registry (again resolved) (some (pyText "SET 0xA5A55A5A")) none (pyText "0.5")
    sleep
    let third ← gdbCommands info.sessionId stepCommands
    let asserted := assertedResults breakCommands first ++ assertedResults watchCommands second ++
      assertedResults stepCommands third ++ [serialBreak, serialWatch]
    let shown : Bool ← files (.evidence (second ++ third))
    return { ok := asserted.all CommandResult.ok && shown, session := info, commands := first ++ second ++ third
             serial := [serialBreak, serialWatch] })
    (stopGdb info.sessionId true)

def debugFixture (elfPath : PyStr) (selector : DeviceSelector) : Coroutine DebugReport := do
  let resolved ← resolveSelectorWait registry selector
  let info ← startGdb registry (again resolved) (some elfPath)
  debugSession registry resolved info

/-- What `crash_capture` has when it knows whether the target was recovered. -/
structure CrashEvidence where
  commands : List CommandResult
  trigger : CommandResult
  recovered : Bool

/-- The commands that recover the target. -/
def recoveryCommands : List String :=
  ["-interpreter-exec console \"monitor exec SetResetType=2\"", "-interpreter-exec console \"monitor reset\"",
    "-interpreter-exec console \"monitor go\""]

def crashEvidence (resolved : Resolved) (sessionId : Nat) : Coroutine CrashEvidence := do
  let first ← gdbCommands sessionId ["-break-insert HardFault_Handler", "-exec-continue"]
  let trigger ← serialExchange registry (again resolved) (some (pyText "FAULT")) none (pyText "0.5")
  sleep
  let second ← gdbCommands sessionId ["-thread-info", "-stack-list-frames",
    "-data-list-register-values x 0 1 2 3 12 13 14 15", "-data-evaluate-expression $xpsr",
    "-data-read-memory-bytes $sp 128"]
  let recovery ← gdbCommands sessionId recoveryCommands
  return ⟨first ++ second ++ recovery, trigger, recovery.all CommandResult.ok⟩

/-- The value of a body, or what it raised. -/
def attempt {α : Type} (body : Coroutine α) : Coroutine (Except ServiceError α) :=
  ExceptT.mk (body.run.bind fun result => .done (.ok result))

/-- The best that can be done where the target was not recovered. -/
def recoverTarget (sessionId : Nat) : List String → Coroutine Unit
  | [] => pure ()
  | command :: commands => do
    suppressing (discard (gdbCommand sessionId (pyText command)))
    recoverTarget sessionId commands

/-- `recovered`, as the `finally` of `crash_capture` sees it -/
def wasRecovered : Except ServiceError CrashEvidence → Bool
  | .ok evidence => evidence.recovered
  | .error _ => false

/-- The first part of the `finally` of `crash_capture`. -/
def recoverUnless (recovered : Bool) (sessionId : Nat) : Coroutine Unit :=
  if recovered then pure () else recoverTarget sessionId recoveryCommands

/-- What `crash_capture` does in its session. What comes after the recovery does not wait, so that the
`finally` sees `recovered` as the evidence has it. -/
def crashSession (resolved : Resolved) (info : SessionInfo) : Coroutine DebugReport := do
  let gathered ← attempt (crashEvidence registry resolved info.sessionId)
  ensuring (do
    let evidence ← orRaise gathered
    let shown : Bool ← files (.evidence evidence.commands)
    return { ok := evidence.trigger.ok && evidence.commands.all CommandResult.ok && shown, session := info
             commands := evidence.commands, serial := [evidence.trigger] })
    (do
      recoverUnless (wasRecovered gathered) info.sessionId
      stopGdb info.sessionId false
      sleep)

def crashCapture (elfPath : PyStr) (selector : DeviceSelector) : Coroutine DebugReport := do
  let resolved ← resolveSelectorWait registry selector
  let info ← startGdb registry (again resolved) (some elfPath)
  crashSession registry resolved info

end debug

section rtt

/-- What `capture_rtt` reports. -/
structure RttReport where
  ok : Bool
  text : PyStr
  command : CommandResult
  artifact : Option Artifact

/-- What the capture through RTT does in its session. -/
def rttSession (rttAddress : Nat) (duration : PyStr) (info : SessionInfo) : Coroutine CommandResult :=
  ensuring (do
    let configuration ← gdbCommand info.sessionId (pyText "-interpreter-exec console \"monitor exec SetRTTAddr=" ++
      address8 rttAddress ++ pyText "\"")
    if !configuration.ok then raiseRuntime (pyText "J-Link rejected the ELF-derived RTT address")
    else
      let continuation ← gdbCommand info.sessionId (pyText "-exec-continue")
      if !continuation.ok then raiseRuntime (pyText "target could not be continued for RTT capture")
      else
        sleep
        captureGdbChannel info.sessionId "rtt" duration none)
    (stopGdb info.sessionId true)

/-- The capture through the RTT channel of a managed GDB session. -/
def captureThroughGdb (resolved : Resolved) (elf : PyStr) (rttAddress : Nat) (duration : PyStr) :
    Coroutine CommandResult := do
  let info ← startGdb registry (again resolved) (some elf)
  rttSession rttAddress duration info

/-- The capture of another channel with the RTT logger; `deviceName` is that of the core. -/
def captureThroughLogger (resolved : Resolved) (deviceName : PyStr) (rttAddress channel : Nat)
    (destination : PyStr) : Coroutine CommandResult :=
  runApplication registry
    { application := pyText "JLinkRTTLoggerExe"
      arguments := [pyText "-Device", deviceName, pyText "-If", resolved.interface, pyText "-Speed",
        decimal resolved.speedKhz, pyText "-USB", resolved.probeSerial, pyText "-RTTAddress",
        (address8 rttAddress).drop 2, pyText "-RTTChannel", decimal channel, destination]
      destructive := true, selector := again resolved, resumeAfterPreflight := true, resumeSettle := 4000
      attempts := 2, retryDelay := 4000 }

/-- The record of a captured log. -/
def rttEvidence (stamp : Stamp) (result : CommandResult) (artifact : Artifact) (rttAddress channel : Nat)
    (destination : PyStr) : CommandResult where
  operationId := stamp.operationId
  sessionId := result.sessionId
  backend := pyText "rtt-evidence"
  command := [pyText "register-rtt-artifact", destination]
  startedAt := stamp.now
  finishedAt := stamp.now
  durationMs := 0
  returnCode := some 0
  parsed := [field "rtt_address" (.str (address8 rttAddress)), field "channel" (.int channel)]
  artifactHashes := [(destination, artifact.sha256)]
  probeIdentity := result.probeIdentity
  targetIdentity := result.targetIdentity
  evidencePaths := [destination]

/-- The capture of the channel, into the file where there is anything. -/
def captureChannelTo (resolved : Resolved) (elf deviceName : PyStr) (rttAddress duration channel : Nat)
    (destination : PyStr) : Coroutine CommandResult :=
  if channel = 0 then do
    let result ← captureThroughGdb registry resolved elf rttAddress (secondsText duration)
    if result.stdout = [] then return result
    else
      files (.writeText destination result.stdout)
      return result
  else captureThroughLogger registry resolved deviceName rttAddress channel destination

/-- `capture_rtt`; the duration is in milliseconds, and `deviceName` is what the profile has for the core. -/
def captureRtt (elfPath : PyStr) (selector : DeviceSelector) (duration channel : Nat) (deviceName : PyStr) :
    Coroutine RttReport := do
  if ¬(200 ≤ duration ∧ duration ≤ 300000) then raiseValue "duration_seconds must be between 0.2 and 300"
  else if 15 < channel then raiseValue "RTT channel must be between 0 and 15"
  else
    let resolved ← resolveSelectorWait registry selector
    let elf ← files (.allowedPath elfPath)
    let symbols : List (PyStr × Nat) ← files (.testSymbols elf)
    match symbols.find? fun symbol => symbol.1 = pyText "_SEGGER_RTT" with
    | none => raiseValue "ELF does not contain a concrete _SEGGER_RTT symbol"
    | some (_, rttAddress) =>
      let destination ← files (.newPath (pyText "rtt") (pyText ".log"))
      let result ← captureChannelTo registry resolved elf deviceName rttAddress duration channel destination
      let saved : Bool ← files (.pathExists destination)
      if saved then
        let artifact : Artifact ← files (.artifact destination (pyText "rtt-log"))
        files (.registerArtifact artifact)
        let text : PyStr ← files (.readText destination)
        let stamp ← ask .stamp
        append (entry (rttEvidence stamp result artifact rttAddress channel destination)
          (pyText "capture_rtt_evidence") (some resolved.probeSerial) false
          (some [field "elf_path" (.str elf), field "duration_seconds" (secondsFloat duration)]))
        return ⟨artifact.size > 0, text, withHash result destination artifact.sha256, some artifact⟩
      else return ⟨false, [], result, none⟩

end rtt

end JLinkMcp.Giga
