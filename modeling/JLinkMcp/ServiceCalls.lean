import JLinkMcp.BridgeBackend
import JLinkMcp.ServiceIdentity
import JLinkMcp.TaskPaths

namespace JLinkMcp.Service

open Host Audit TaskProgram

/-- How a call ends that starts something outside: with a result, with what is raised before anything
was started, or with what is raised after that. -/
inductive Outcome (α : Type) where
  | finished (value : α)
  | refused (error : ServiceError)
  | broken (error : ServiceError)

def Outcome.result {α : Type} : Outcome α → Except ServiceError α
  | finished value => .ok value
  | refused error | broken error => .error error

/-- What discovery finds and what `has_verified_target` says at the same moment. -/
structure Discovery where
  manifest : CapabilityManifest
  verified : PyStr → PyStr → Except ServiceError Bool

/-- What a serial port is used for: `SerialBackend.exchange`, or the operation of an extension. -/
inductive SerialUse where
  | exchange (write untilText : Option PyStr)
  | operation (request : JsonDict)

/-- An id that `uuid4` makes up, and the time. -/
structure Stamp where
  operationId : PyStr
  now : PyStr

/-- The free ports that `GDBBackend.start` takes. -/
structure GdbPorts where
  gdb : Nat
  swo : Nat
  telnet : Nat
  rtt : Nat

/-- `GDBSession`; processes and controllers are numbers. -/
structure GdbSession where
  selector : Resolved
  ports : GdbPorts
  server : Nat
  controller : Nat
  elfPath : Option PyStr

/-- What `session_info` tells, and the session. -/
structure SessionInfo where
  sessionId : Nat
  session : GdbSession
  createdAt : PyStr

/-- What a `gdb.write` in a thread gives: the response, or the message of a `GdbTimeoutError`. -/
inductive GdbReply where
  | response (items : List PyJson)
  | timeout (message : PyStr)

/-- `Artifact` -/
structure Artifact where
  path : PyStr
  sha256 : PyStr
  size : Nat
  kind : PyStr

/-- What is read of a build manifest. -/
structure BuildManifest where
  flashStart : Int
  embedded : PyJson
  identity : PyJson

/-- What `_build_identity` makes up for a build. -/
structure BuildIdentity where
  gitCommit : PyStr
  identityKind : PyStr
  stamp : Stamp

/-- The release files of the protocol bridge, as `deploy_protocol_bridge` reads and checks them. -/
structure BridgeRelease where
  stagedHex : PyStr
  firmwareVersion : PyStr
  wireVersion : Int
  sourceSha256 : PyStr

/-- What a workflow does to files and to the artifact store, or finds in texts that tools printed, without
waiting for anything. `evidence` is whether the parsed results show what a test asserts. -/
inductive FileWork where
  | allowedPath (path : PyStr)
  | artifact (path kind : PyStr)
  | registerArtifact (artifact : Artifact)
  | pathExists (path : PyStr)
  | fileDigest (path : PyStr)
  | fileSize (path : PyStr)
  | newPath (stem suffix : PyStr)
  | copySlice (source destination : PyStr) (offset size : Nat)
  | writeText (path text : PyStr)
  | readText (path : PyStr)
  | testSymbols (path : PyStr)
  | resolveSketch (sketch : PyStr)
  | buildDirectory (sketch core : PyStr)
  | sourceTreeIdentity
  | stageSketch (sketch buildDirectory : PyStr) (identity : BuildIdentity)
  | compilerPath (properties : PyStr)
  | findElf (buildDirectory : PyStr)
  | finalizeElf (path : PyStr)
  | buildOutputs (buildDirectory : PyStr)
  | writeBuildManifest (buildDirectory : PyStr) (artifacts : List Artifact)
  | buildManifest (path : PyStr)
  | doctor
  | bridgeRelease
  | validationReport (title : PyStr)
  | evidence (results : List CommandResult)

/-- What the work gives where nothing is raised. -/
def FileWork.Value : FileWork → Type
  | allowedPath _ | fileDigest _ | newPath _ _ | readText _ | resolveSketch _ | buildDirectory _ _ |
    sourceTreeIdentity | stageSketch _ _ _ | compilerPath _ => PyStr
  | artifact _ _ => Artifact
  | registerArtifact _ | copySlice _ _ _ _ | writeText _ _ | finalizeElf _ => Unit
  | pathExists _ | doctor | evidence _ => Bool
  | fileSize _ => Nat
  | testSymbols _ => List (PyStr × Nat)
  | findElf _ => Option PyStr
  | buildOutputs _ | writeBuildManifest _ _ => List Artifact
  | buildManifest _ => BuildManifest
  | bridgeRelease => BridgeRelease
  | validationReport _ => Bool × List Artifact

/-- What the coroutines of the service and of the workflows ask for. Where a call does not wait, the next
one is made in the same turn. -/
inductive Call where
  | discover
  | deadline
  | sleep
  | stamp
  | enter (probeSerial owner : PyStr)
  | leave (probeSerial : PyStr)
  | acquire (probeSerial owner : PyStr)
  | release (leaseId : Nat)
  | commander (commands : List PyStr) (selector : Resolved)
  | application (name : PyStr) (arguments : List PyStr)
  | exchange (port : PyStr) (use : SerialUse)
  | run (argv : List PyStr) (backend : PyStr)
  | append (entry : AppendCall)
  | matchingGdb (resolved : Resolved)
  | prepareGdb (selector : Resolved)
  | spawnServer (selector : Resolved) (ports : GdbPorts)
  | exited (process : Nat)
  | readOutput (process : Nat)
  | connectPort (port : Nat)
  | terminate (process : Nat)
  | kill (process : Nat)
  | awaitExit (process : Nat)
  | awaitExitBriefly (process : Nat)
  | openController
  | controllerWrite (controller : Nat) (command : PyStr)
  | exitController (controller : Nat)
  | openGdb (session : GdbSession) (leaseId : Nat) (identity : Observed)
  | takeGdb (sessionId : Nat)
  | forgetGdb (sessionId : Nat)
  | validateGdb (command : PyStr)
  | gdbInfo (sessionId : Nat)
  | gdbWrite (sessionId : Nat) (command : PyStr)
  | captureChannel (sessionId : Nat) (channel : PyStr)
  | upsertSession (info : SessionInfo)
  | deleteSession (sessionId : Nat)
  | prepareGui (application : PyStr) (arguments : List PyStr)
  | spawnGui (application : PyStr) (arguments : List PyStr)
  | openGui (selector : Resolved) (process leaseId : Nat)
  | takeGui (sessionId : Nat)
  | forgetGui (sessionId : Nat)
  | files (work : FileWork)

/-- What is replied. A `deadline` is the number of rounds that a loop begins before it passes; `exited` is
`returncode is not None`; `terminate` finds the process or not; `awaitExitBriefly` is a `wait_for` that may
time out. -/
def Reply : Call → Type
  | .discover => Except ServiceError Discovery
  | .deadline => Nat
  | .sleep | .append _ | .kill _ | .awaitExit _ | .exitController _ | .validateGdb _ | .upsertSession _ |
    .deleteSession _ | .prepareGui _ _ => Except ServiceError Unit
  | .stamp => Stamp
  | .enter _ _ | .acquire _ _ | .spawnServer _ _ | .openController | .spawnGui _ _ => Except ServiceError Nat
  | .leave _ | .release _ => Unit
  | .commander _ _ => Outcome CommanderResult
  | .application _ _ | .exchange _ _ => Outcome CommandResult
  | .run _ _ | .captureChannel _ _ => Except ServiceError CommandResult
  | .matchingGdb _ => Option (Nat × Observed)
  | .prepareGdb _ => Except ServiceError GdbPorts
  | .exited _ => Bool
  | .readOutput _ => Except ServiceError PyStr
  | .terminate _ | .connectPort _ | .awaitExitBriefly _ => Except ServiceError Bool
  | .controllerWrite _ _ => Except ServiceError (List PyJson)
  | .openGdb _ _ _ => SessionInfo
  | .takeGdb _ | .gdbInfo _ => Option SessionInfo
  | .forgetGdb _ | .forgetGui _ => Option Nat
  | .gdbWrite _ _ => Outcome GdbReply
  | .openGui _ _ _ => Nat
  | .takeGui _ => Option (Resolved × Nat)
  | .files work => Except ServiceError work.Value

/-- The call raises, or the task is cancelled in it. -/
def raises : (call : Call) → Reply call → Bool
  | .discover, .error _ | .sleep, .error _ | .append _, .error _ | .kill _, .error _ | .awaitExit _, .error _ |
    .exitController _, .error _ | .validateGdb _, .error _ | .upsertSession _, .error _ |
    .deleteSession _, .error _ | .prepareGui _ _, .error _ | .enter _ _, .error _ | .acquire _ _, .error _ |
    .spawnServer _ _, .error _ | .openController, .error _ | .spawnGui _ _, .error _ | .run _ _, .error _ |
    .captureChannel _ _, .error _ | .prepareGdb _, .error _ | .readOutput _, .error _ | .terminate _, .error _ |
    .connectPort _, .error _ | .awaitExitBriefly _, .error _ | .controllerWrite _ _, .error _ |
    .files _, .error _ => true
  | .commander _ _, .refused _ | .commander _ _, .broken _ | .application _ _, .refused _ |
    .application _ _, .broken _ | .exchange _ _, .refused _ | .exchange _ _, .broken _ | .gdbWrite _ _, .refused _ |
    .gdbWrite _ _, .broken _ => true
  | _, _ => false

/-- A coroutine of the service. -/
abbrev Coroutine (α : Type) := ExceptT ServiceError (Task Call Reply) α

/-- What was replied to a coroutine so far. -/
abbrev History := List (Turn Call Reply)

/-- What a call replies, where it raises nothing. -/
def ask (call : Call) : Coroutine (Reply call) := ExceptT.mk (.ask call fun reply => .done (.ok reply))

def orRaise {α : Type} (result : Except ServiceError α) : Coroutine α := ExceptT.mk (.done result)

def sleep : Coroutine Unit := ExceptT.mk (.call Call.sleep)

def append (entry : AppendCall) : Coroutine Unit := ExceptT.mk (.call (Call.append entry))

def files (work : FileWork) : Coroutine work.Value := ExceptT.mk (.call (Call.files work))

/-- `except Exception` -/
def ServiceError.isException : ServiceError → Bool
  | .cancelled => false
  | _ => true

/-- `except TargetSelectionError` -/
def ServiceError.isTargetSelection : ServiceError → Bool
  | .targetSelection _ => true
  | _ => false

/-- `except BaseException` -/
def anyError (_ : ServiceError) : Bool := true

/-- `contextlib.suppress(Exception)` around something without a value -/
def suppressing (body : Coroutine Unit) : Coroutine Unit := catching body ServiceError.isException fun _ => pure ()

/-- `async with self.leases.lease(probe_serial, owner=owner)` -/
def withLease {α : Type} (probeSerial owner : PyStr) (body : Nat → Coroutine α) : Coroutine α := do
  let leaseId ← ExceptT.mk (.call (Call.enter probeSerial owner))
  ensuring (body leaseId) (ask (Call.leave probeSerial))

/-- `items.setdefault(name, value)` -/
def setDefault (items : JsonDict) (name : String) (value : PyJson) : JsonDict :=
  if items.any fun item => item.1 = PyStr.ofString name then items else items ++ [field name value]

/-- An id as the text that it is. -/
def idText (id : Nat) : PyStr := PyStr.ofString "id-" ++ decimal id

/-- `_attach_identities` -/
def attachIdentities (result : CommandResult) (selector : Resolved) (identity : Observed) : CommandResult :=
  { result with
    probeIdentity := attachedProbe selector identity
    targetIdentity := attachedTarget selector identity }

/-- What `append_operation` is called with, on the one store of the service. -/
def entry (result : CommandResult) (action : PyStr) (probeSerial : Option PyStr) (destructive : Bool)
    (request : Option JsonDict := none) : AppendCall := ⟨0, result, action, probeSerial, destructive, request⟩

end JLinkMcp.Service
