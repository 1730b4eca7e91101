import JLinkMcp.AuditStore
import JLinkMcp.HostDumps

namespace JLinkMcp.Audit

open Host

inductive TargetState where
  | unknown | disconnected | running | halted | reset | faulted
  deriving DecidableEq

def TargetState.value : TargetState → String
  | .unknown => "unknown"
  | .disconnected => "disconnected"
  | .running => "running"
  | .halted => "halted"
  | .reset => "reset"
  | .faulted => "faulted"

/-- A dictionary that came from JSON. -/
abbrev JsonDict := List (PyStr × PyJson)

/-- A field of a JSON object under its name in the source. -/
def field (name : String) (value : PyJson) : PyStr × PyJson := (PyStr.ofString name, value)

def textOrNull (text : Option PyStr) : PyJson := text.elim .null .str

def textList (texts : List PyStr) : PyJson := .list (texts.map .str)

/-- The times are kept as the texts that JSON has for them. -/
structure CommandResult where
  operationId : PyStr
  sessionId : Option PyStr := none
  backend : PyStr
  command : List PyStr
  startedAt : PyStr
  finishedAt : PyStr
  durationMs : Int
  returnCode : Option Int
  timedOut : Bool := false
  stdout : PyStr := []
  stderr : PyStr := []
  parsed : JsonDict := []
  warnings : List PyStr := []
  targetStateBefore : TargetState := .unknown
  targetStateAfter : TargetState := .unknown
  artifactHashes : List (PyStr × PyStr) := []
  evidencePaths : List PyStr := []
  probeIdentity : JsonDict := []
  targetIdentity : JsonDict := []

def CommandResult.ok (result : CommandResult) : Bool := result.returnCode == some 0 && !result.timedOut

def CommandResult.dumpedFields (result : CommandResult) : JsonDict :=
  [field "operation_id" (.str result.operationId), field "session_id" (textOrNull result.sessionId),
   field "backend" (.str result.backend), field "command" (textList result.command),
   field "started_at" (.str result.startedAt), field "finished_at" (.str result.finishedAt),
   field "duration_ms" (.int result.durationMs), field "return_code" (result.returnCode.elim .null .int),
   field "timed_out" (.bool result.timedOut), field "stdout" (.str result.stdout),
   field "stderr" (.str result.stderr), field "parsed" (.dict result.parsed),
   field "warnings" (textList result.warnings),
   field "target_state_before" (.str (PyStr.ofString result.targetStateBefore.value)),
   field "target_state_after" (.str (PyStr.ofString result.targetStateAfter.value)),
   field "artifact_hashes" (.dict (result.artifactHashes.map fun item => (item.1, .str item.2))),
   field "evidence_paths" (textList result.evidencePaths),
   field "probe_identity" (.dict result.probeIdentity),
   field "target_identity" (.dict result.targetIdentity), field "ok" (.bool result.ok)]

/-- `result.model_dump(mode="json")` -/
def CommandResult.modelDump (result : CommandResult) : PyJson := .dict result.dumpedFields

/-- The arguments of a call of `append_operation` and the store that it is made on. -/
structure AppendCall where
  store : Nat
  result : CommandResult
  action : PyStr
  probeSerial : Option PyStr
  destructive : Bool
  request : Option JsonDict := none

def AppendCall.payloadFields (call : AppendCall) : JsonDict :=
  [field "action" (.str call.action), field "probe_serial" (textOrNull call.probeSerial),
   field "destructive" (.bool call.destructive), field "request" (.dict (call.request.getD [])),
   field "result" call.result.modelDump]

def AppendCall.payload (call : AppendCall) : PyJson := .dict call.payloadFields

def AppendCall.payloadJson (call : AppendCall) : PyStr := dumps call.payload

/-- The values of the `INSERT`. -/
def AppendCall.row (call : AppendCall) (sha256 : PyStr → PyStr) (sequence : Nat)
    (createdAt previousHash : PyStr) : OperationRow where
  sequence := sequence
  operationId := call.result.operationId
  createdAt := createdAt
  probeSerial := call.probeSerial
  action := call.action
  destructive := if call.destructive then 1 else 0
  payloadJson := call.payloadJson
  previousHash := previousHash
  entryHash := entryHash sha256 previousHash call.payloadJson

end JLinkMcp.Audit
