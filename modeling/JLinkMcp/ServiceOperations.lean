import JLinkMcp.ServiceCalls

namespace JLinkMcp.Service

open Host Audit TaskProgram

/-- `raise ValueError(message)` -/
def raiseValue {α : Type} (message : String) : Coroutine α := throw (.valueError (PyStr.ofString message))

/-- `raise RuntimeError(message)` -/
def raiseRuntime {α : Type} (message : PyStr) : Coroutine α := throw (.runtimeError message)

/-- What a call gives that starts something outside. -/
def started {α : Type} (program : Task Call Reply (Outcome α)) : Coroutine α :=
  ExceptT.mk (program.bind fun outcome => .done outcome.result)

/-- `self.commander.execute` -/
def execute (commands : List PyStr) (selector : Resolved) : Coroutine CommanderResult :=
  started (.call (Call.commander commands selector))

def discover : Coroutine Discovery := ExceptT.mk (.call Call.discover)

/-- `["ShowHWStatus", "Mem32 0xE000ED00 1"]` -/
def identityCommands : List PyStr := ["ShowHWStatus", "Mem32 0xE000ED00 1"].map PyStr.ofString

def commandRequest (resolved : Resolved) (commands : List PyStr) : JsonDict :=
  [field "selector" resolved.modelDump, field "commands" (textList commands)]

/-- The parsed data of an identity result, with the selector. -/
def identityData (resolved : Resolved) (identity : CommanderResult) : JsonDict :=
  setDefault identity.observed.parsed "selector" resolved.modelDump

section operations

variable (registry : TargetRegistry)

/-- The rounds of `resolve_selector_wait`: so many before the deadline, and the one whose error is raised. -/
def resolveRounds (selector : DeviceSelector) : Nat → Coroutine Resolved
  | 0 => do
    let discovery ← discover
    orRaise (resolveSelector registry discovery.manifest discovery.verified selector)
  | rounds + 1 =>
    catching (do
      let discovery ← discover
      orRaise (resolveSelector registry discovery.manifest discovery.verified selector))
      ServiceError.isTargetSelection fun _ => do
        sleep
        resolveRounds selector rounds

/-- `resolve_selector_wait` -/
def resolveSelectorWait (selector : DeviceSelector) : Coroutine Resolved := do
  let rounds ← ask .deadline
  resolveRounds registry selector rounds

/-- The identity result of `_identity_preflight` as it is recorded. -/
def identityResult (resolved : Resolved) (leaseId : Nat) (identity : CommanderResult) : CommandResult :=
  attachIdentities { identity.result with
    parsed := identityData resolved identity
    sessionId := some (idText leaseId) } resolved identity.observed

/-- `_identity_preflight` -/
def identityPreflight (resolved : Resolved) (leaseId : Nat) : Coroutine CommanderResult := do
  let identity ← execute identityCommands resolved
  append (entry (identityResult resolved leaseId identity) (PyStr.ofString "target_identity_preflight")
    (some resolved.probeSerial) false (some [field "selector" resolved.modelDump]))
  orRaise (validateIdentity registry identity resolved)
  return identity

/-- The result of other commands, with the identity that was read before them. -/
def preflightedResult (resolved : Resolved) (leaseId : Nat) (identity executed : CommanderResult) :
    CommandResult :=
  let parsed := setDefault executed.result.parsed "selector" resolved.modelDump
  let parsed := setDefault parsed "identity_preflight" (.dict (identityData resolved identity))
  attachIdentities { executed.result with parsed, sessionId := some (idText leaseId) } resolved
    identity.observed

/-- `commander_commands` -/
def commanderCommands (commands : List PyStr) (selector : DeviceSelector) (action : String)
    (destructive : Bool) : Coroutine CommandResult := do
  let action := PyStr.ofString action
  let resolved ← resolveSelectorWait registry selector
  if action = PyStr.ofString "connect" then
    withLease resolved.probeSerial action fun leaseId => do
      let executed ← execute commands resolved
      let result := identityResult resolved leaseId executed
      append (entry result action (some resolved.probeSerial) destructive
        (some (commandRequest resolved commands)))
      orRaise (validateIdentity registry executed resolved)
      return result
  else do
    let result ← withLease resolved.probeSerial action fun leaseId => do
      let identity ← identityPreflight registry resolved leaseId
      let executed ← execute commands resolved
      orRaise (validateIdentity registry identity resolved)
      return preflightedResult resolved leaseId identity executed
    append (entry result action (some resolved.probeSerial) destructive
      (some (commandRequest resolved commands)))
    return result

/-- `_resume_after_identity_preflight` -/
def resumeAfterIdentityPreflight (resolved : Resolved) (leaseId : Nat) (identity : CommanderResult)
    (action : PyStr) : Coroutine CommandResult := do
  let executed ← execute [PyStr.ofString "Go"] resolved
  let result := preflightedResult resolved leaseId identity executed
  append (entry result action (some resolved.probeSerial) true
    (some (commandRequest resolved [PyStr.ofString "Go"])))
  if result.ok then return result
  raiseRuntime (PyStr.ofString "target could not be resumed after identity preflight: " ++
    if result.stderr = [] then result.stdout else result.stderr)

end operations

section applications

variable (registry : TargetRegistry)

/-- The arguments of `run_application`; the times are in milliseconds. -/
structure ApplicationRequest where
  application : PyStr
  arguments : List PyStr
  destructive : Bool := true
  selector : DeviceSelector := {}
  resumeAfterPreflight : Bool := false
  resumeSettle : Nat := 0
  attempts : Nat := 1
  retryDelay : Nat := 0

/-- `_INFORMATIONAL_APPLICATION_ARGUMENTS` -/
def informationalArguments : List PyStr :=
  ["-?", "-h", "--help", "-help", "--version", "-version"].map PyStr.ofString

/-- `text.lower()` of a text that is compared with ASCII ones. -/
def lowerAscii (text : PyStr) : PyStr :=
  text.map fun c => if 65 ≤ c.val ∧ c.val ≤ 90 then Fin.ofNat 0x110000 (c.val + 32) else c

/-- The checks of `run_application` on its arguments. -/
def ApplicationRequest.check (request : ApplicationRequest) : Option String :=
  if ¬(1 ≤ request.attempts ∧ request.attempts ≤ 3) then some "attempts must be between 1 and 3"
  else if 5000 < request.retryDelay then some "retry_delay_seconds must be between 0 and 5"
  else if request.retryDelay ≠ 0 ∧ request.attempts = 1 then
    some "retry_delay_seconds requires more than one attempt"
  else if 5000 < request.resumeSettle then some "resume_settle_seconds must be between 0 and 5"
  else if request.resumeSettle ≠ 0 ∧ request.resumeAfterPreflight = false then
    some "resume_settle_seconds requires resume_after_preflight"
  else if request.destructive = false ∧
      ¬(request.arguments.length = 1 ∧ ∀ a ∈ request.arguments, lowerAscii a ∈ informationalArguments) then
    some "non-destructive SEGGER application use is limited to one help/version argument"
  else none

/-- What the record keeps of one attempt. -/
def attemptEvidence (attempt : Nat) (result : CommandResult) : PyJson :=
  .dict [field "attempt" (.int attempt), field "started_at" (.str result.startedAt),
    field "finished_at" (.str result.finishedAt), field "duration_ms" (.int result.durationMs),
    field "return_code" (result.returnCode.elim .null .int), field "timed_out" (.bool result.timedOut),
    field "stdout" (.str result.stdout), field "stderr" (.str result.stderr)]

/-- `self.application.execute` -/
def executeApplication (request : ApplicationRequest) : Coroutine CommandResult :=
  started (.call (Call.application request.application request.arguments))

/-- A sleep of so long, where it is not zero. -/
def pause (milliseconds : Nat) : Coroutine Unit := if milliseconds ≠ 0 then sleep else pure ()

/-- The attempts that are left, and the evidence of those that were made. -/
def applicationAttempts (request : ApplicationRequest) (evidence : List PyJson) :
    Nat → Coroutine (CommandResult × List PyJson)
  | 0 => do
    let result ← executeApplication request
    return (result, evidence ++ [attemptEvidence (evidence.length + 1) result])
  | left + 1 => do
    let result ← executeApplication request
    let evidence := evidence ++ [attemptEvidence (evidence.length + 1) result]
    if result.ok || result.timedOut then return (result, evidence)
    else
      pause request.retryDelay
      applicationAttempts request evidence left

/-- The float that so many milliseconds are in seconds. -/
def secondsText (milliseconds : Nat) : PyStr :=
  let digits := decimal (milliseconds % 1000 + 1000)
  let fraction := ((digits.drop 1).reverse.dropWhile fun c => c.is '0').reverse
  decimal (milliseconds / 1000) ++ PyStr.ofString "." ++ if fraction = [] then PyStr.ofString "0" else fraction

def secondsFloat (milliseconds : Nat) : PyJson := .float (secondsText milliseconds)

/-- What `run_application` records as the request. -/
def ApplicationRequest.recorded (request : ApplicationRequest) (resolved : Option Resolved) : JsonDict :=
  [field "application" (.str request.application), field "args" (textList request.arguments),
    field "resume_after_preflight" (.bool request.resumeAfterPreflight),
    field "resume_settle_seconds" (secondsFloat request.resumeSettle), field "attempts" (.int request.attempts),
    field "retry_delay_seconds" (secondsFloat request.retryDelay),
    field "selector" (resolved.elim .null Resolved.modelDump)]

def ApplicationRequest.action (request : ApplicationRequest) : PyStr :=
  PyStr.ofString "application:" ++ request.application

/-- Where the request says so, the target goes on after its identity was read. -/
def resumeApplication (request : ApplicationRequest) (resolved : Resolved) (leaseId : Nat)
    (identity : CommanderResult) : Coroutine Unit :=
  if request.resumeAfterPreflight then do
    discard (resumeAfterIdentityPreflight resolved leaseId identity
      (PyStr.ofString "application_resume:" ++ request.application))
    pause request.resumeSettle
  else pure ()

/-- What `run_application` does under the lease. -/
def applicationUnderLease (request : ApplicationRequest) (resolved : Resolved) (leaseId : Nat) :
    Coroutine CommandResult := do
  let identity ← identityPreflight registry resolved leaseId
  resumeApplication request resolved leaseId identity
  let (result, evidence) ← applicationAttempts request [] (request.attempts - 1)
  let parsed := setDefault result.parsed "application_attempts" (.list evidence)
  return attachIdentities { result with parsed, sessionId := some (idText leaseId) } resolved identity.observed

/-- `run_application` -/
def runApplication (request : ApplicationRequest) : Coroutine CommandResult :=
  match request.check with
  | some message => raiseValue message
  | none =>
    if request.destructive then do
      let resolved ← resolveSelectorWait registry request.selector
      let result ← withLease resolved.probeSerial request.action
        (applicationUnderLease registry request resolved)
      append (entry result request.action (some resolved.probeSerial) true
        (some (request.recorded (some resolved))))
      return result
    else do
      let result ← executeApplication request
      append (entry result request.action none false (some (request.recorded none)))
      return result

end applications

section serial

variable (registry : TargetRegistry)

/-- The rounds of `_wait_for_serial_board`. -/
def waitForSerialBoard (resolved : Resolved) : Nat → Coroutine PyStr
  | 0 => raiseRuntime (PyStr.ofString
      "selected board did not expose an accessible serial port within 10 seconds")
  | rounds + 1 => do
    let discovery ← discover
    match serialBoard discovery.manifest resolved with
    | some port => return port
    | none =>
      sleep
      waitForSerialBoard resolved rounds

/-- A use of the serial port of the selected board. -/
structure SerialRequest where
  selector : DeviceSelector
  use : SerialUse
  owner : PyStr
  resumeAction : PyStr
  action : PyStr
  destructive : Bool
  request : Resolved → JsonDict

/-- Waits for the board and uses its port. -/
def useSerialPort (request : SerialRequest) (resolved : Resolved) (sessionId : Nat) :
    Coroutine CommandResult := do
  let rounds ← ask .deadline
  let port ← waitForSerialBoard resolved rounds
  let result ← started (.call (Call.exchange port request.use))
  return { result with sessionId := some (idText sessionId) }

/-- What a serial operation has when the port was used: the result, the identity, and the operation that
resumed the target. -/
structure SerialUsed where
  result : CommandResult
  identity : Observed
  resumed : Option PyStr

/-- A serial operation in a GDB session that matches, or else under the lease. -/
def serialUnderGate (request : SerialRequest) (resolved : Resolved) : Coroutine SerialUsed := do
  match ← (ask (.matchingGdb resolved) : Coroutine (Option (Nat × Observed))) with
  | some (sessionId, identity) =>
    let result ← useSerialPort request resolved sessionId
    return ⟨result, identity, none⟩
  | none =>
    withLease resolved.probeSerial request.owner fun leaseId => do
      let identity ← identityPreflight registry resolved leaseId
      let resume ← resumeAfterIdentityPreflight resolved leaseId identity request.resumeAction
      let result ← useSerialPort request resolved leaseId
      return ⟨result, identity.observed, some resume.operationId⟩

/-- The result of a serial operation as it is recorded. -/
def serialResult (resolved : Resolved) (used : SerialUsed) : CommandResult :=
  let parsed := Bridge.setItem used.result.parsed (PyStr.ofString "selector") resolved.modelDump
  let parsed := match used.resumed with
    | some operationId => Bridge.setItem parsed (PyStr.ofString "resume_operation_id") (.str operationId)
    | none => parsed
  attachIdentities { used.result with parsed } resolved used.identity

/-- What `serial_exchange` and `audited_serial_operation` have in common. -/
def serialOperation (request : SerialRequest) : Coroutine CommandResult := do
  let resolved ← resolveSelectorWait registry request.selector
  let used ← serialUnderGate registry request resolved
  append (entry (serialResult resolved used) request.action (some resolved.probeSerial) request.destructive
    (some (request.request resolved)))
  return serialResult resolved used

/-- `serial_exchange` -/
def serialExchange (selector : DeviceSelector) (write untilText : Option PyStr) (duration : PyStr) :
    Coroutine CommandResult :=
  serialOperation registry
    { selector, use := .exchange write untilText
      owner := PyStr.ofString "serial_exchange", resumeAction := PyStr.ofString "serial_resume"
      action := PyStr.ofString "serial_exchange", destructive := write.isSome
      request := fun _ => [field "write" (textOrNull write), field "duration" (.float duration),
        field "until" (textOrNull untilText)] }

/-- `audited_serial_operation` -/
def auditedSerialOperation (selector : DeviceSelector) (action : PyStr) (destructive : Bool)
    (request : JsonDict) : Coroutine CommandResult :=
  serialOperation registry
    { selector, use := .operation request, owner := action
      resumeAction := action ++ PyStr.ofString "_resume", action, destructive
      request := fun resolved => field "selector" resolved.modelDump :: request }

end serial

/-- What the four operations do. -/
inductive HardwareOperation where
  | commanderCommands (commands : List PyStr) (selector : DeviceSelector) (action : String) (destructive : Bool)
  | runApplication (request : ApplicationRequest)
  | serialExchange (selector : DeviceSelector) (write untilText : Option PyStr) (duration : PyStr)
  | auditedSerialOperation (selector : DeviceSelector) (action : PyStr) (destructive : Bool) (request : JsonDict)

def HardwareOperation.program (registry : TargetRegistry) : HardwareOperation → Coroutine CommandResult
  | .commanderCommands commands selector action destructive =>
    Service.commanderCommands registry commands selector action destructive
  | .runApplication request => Service.runApplication registry request
  | .serialExchange selector write untilText duration =>
    Service.serialExchange registry selector write untilText duration
  | .auditedSerialOperation selector action destructive request =>
    Service.auditedSerialOperation registry selector action destructive request

end JLinkMcp.Service
