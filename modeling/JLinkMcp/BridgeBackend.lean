import JLinkMcp.AuditResult
import JLinkMcp.HostResponse
import JLinkMcp.HostService
import Mathlib.Data.Int.CharZero

namespace JLinkMcp.Bridge

open Host Audit

/-- `items[name] = value` -/
def setItem (items : JsonDict) (name : PyStr) (value : PyJson) : JsonDict :=
  if items.any fun item => item.1 = name then
    items.map fun item => if item.1 = name then (name, value) else item
  else items ++ [(name, value)]

/-- `items.update(others)` -/
def updateItems (items others : JsonDict) : JsonDict :=
  others.foldl (fun items item => setItem items item.1 item.2) items

/-- `items.pop(name, None)` -/
def popItem (items : JsonDict) (name : PyStr) : JsonDict := items.filter fun item => item.1 ≠ name

def text (s : String) : PyJson := .str (PyStr.ofString s)

/-- What a call of the backend makes up by itself: the id of the operation and the times. -/
structure Stamp where
  operationId : PyStr
  startedAt : PyStr
  finishedAt : PyStr
  durationMs : Int

/-- What `_exchange_binary_sync` does: it returns what it read, finds more than the limit, or raises an
`OSError` or a `SerialException` of some type. -/
inductive Exchange where
  | received (raw : Bytes)
  | limitExceeded (observed : Nat)
  | failed (typeName : PyStr)

def MAX_BINARY_RESPONSE_BYTES : Nat := 128 * 1024

namespace Exchange

def raw : Exchange → Bytes
  | received raw => raw
  | _ => []

def returnCode : Exchange → Int
  | received _ => 0
  | _ => 1

def stderr : Exchange → PyStr
  | received _ => []
  | limitExceeded _ => PyStr.ofString
    "SerialResponseLimitExceeded: binary serial response exceeded the 131072-byte limit"
  | failed typeName => typeName ++ PyStr.ofString ": binary serial exchange failed"

/-- `response_metadata` of `exchange_binary` -/
def metadata (sha256 : Bytes → PyStr) : Exchange → JsonDict
  | limitExceeded observed =>
    [field "response_bytes" (.int 0), field "response_overflow" (.bool true),
      field "response_observed_bytes" (.int observed),
      field "response_limit_bytes" (.int MAX_BINARY_RESPONSE_BYTES)]
  | exchange =>
    [field "response_bytes" (.int exchange.raw.length), field "response_sha256" (.str (sha256 exchange.raw))]

end Exchange

/-- The result that `exchange_binary` returns; `sha256` is the hexadecimal digest. -/
def exchangeResult (sha256 : Bytes → PyStr) (port : PyStr) (write : Bytes) (baudrate : Nat)
    (exchange : Exchange) (stamp : Stamp) : CommandResult where
  operationId := stamp.operationId
  backend := PyStr.ofString "usb-serial"
  command := [PyStr.ofString "serial-binary", port, decimal baudrate,
    PyStr.ofString "sha256:" ++ sha256 write]
  startedAt := stamp.startedAt
  finishedAt := stamp.finishedAt
  durationMs := stamp.durationMs
  returnCode := some exchange.returnCode
  stderr := exchange.stderr
  parsed := [field "port" (.str port), field "baudrate" (.int baudrate),
    field "request_bytes" (.int write.length), field "request_sha256" (.str (sha256 write))] ++
      exchange.metadata sha256

def exchangeBinary (sha256 : Bytes → PyStr) (port : PyStr) (write : Bytes)
    (baudrate durationMs idleAfterDataMs : Nat) (exchange : Exchange) (stamp : Stamp) :
    Except PyError (CommandResult × Bytes) := do
  exchangeBinaryCheck write baudrate durationMs idleAfterDataMs
  return (exchangeResult sha256 port write baudrate exchange stamp, exchange.raw)

/-- `type(exc).__name__` of a `BridgeWireError`. -/
def wireTypeName : PyError → PyStr
  | .bridgeCrc _ => PyStr.ofString "BridgeCrcError"
  | .bridgeSequence _ => PyStr.ofString "BridgeSequenceError"
  | _ => PyStr.ofString "BridgeWireError"

/-- `str(exc)` of a `BridgeWireError`. -/
def wireMessage : PyError → PyStr
  | .bridgeWire message | .bridgeCrc message | .bridgeSequence message => PyStr.ofString message
  | _ => []

def typeName : MessageType → String
  | .request => "request"
  | .response => "response"
  | .error => "error"

/-- What the `try` block of `_request_locked` decodes. -/
structure Answer where
  first : WireFrame
  segments : Nat
  responseBody : Bytes
  response : ResponseBody

def decodeAnswer (depth : Nat) (requestId : Int) (raw : Bytes) : Except PyError Answer := do
  let frames ← decodeStream raw
  match frames with
  | [] => .error (.bridgeWire "bridge response contained no delimited frame")
  | first :: _ =>
    if first.messageType = .request then
      .error (.bridgeWire "unexpected bridge response type: REQUEST")
    else
      let responseBody ← reassembleFrames frames (some requestId) (some first.messageType)
      let response ← decodeResponseBody depth responseBody
      return ⟨first, frames.length, responseBody, response⟩

/-- A call of `request` without its secrets. The body is a dictionary, or what `model_dump` gives. -/
structure Request where
  port : PyStr
  values : PyDict
  operation : Option String
  timeoutMs : Nat

/-- What else a run of `request` depends on: the secrets, the random request id, what the serial port
does, and the stamp of the result. -/
structure Run where
  secretsToSend : PyDict
  requestId : Int
  exchange : Exchange
  stamp : Stamp

namespace Run

variable (sha256 : Bytes → PyStr) (depth : Nat) (request : Request) (run : Run)

def body : Except PyError Bytes := encodeRequestBody request.values request.operation run.secretsToSend

/-- The serial result under the name of the bridge, without the hashes where there are secrets. -/
def labelled (body : Bytes) (result : CommandResult) : CommandResult :=
  let command := [PyStr.ofString "protocol-bridge", request.port,
    PyStr.ofString "request-id:" ++ dumpsInt run.requestId]
  let parsed := updateItems result.parsed [field "request_id" (.int run.requestId),
    field "request_body_bytes" (.int body.length)]
  let result := { result with backend := PyStr.ofString "giga-protocol-bridge" }
  if run.secretsToSend ≠ [] then
    let parsed := ["request_sha256", "request_body_sha256", "response_sha256", "response_body_sha256"].foldl
      (fun parsed name => popItem parsed (PyStr.ofString name)) parsed
    { result with command, parsed }
  else
    { result with
      command := command ++ [PyStr.ofString "body-sha256:" ++ sha256 body]
      parsed := setItem parsed (PyStr.ofString "request_body_sha256") (.str (sha256 body)) }

/-- `sanitized_response` -/
def sanitized (response : ResponseBody) : JsonDict :=
  if run.secretsToSend ≠ [] then
    field "status" (.int response.status) ::
      if response.status ≠ 0 then [field "error" (text "bridge operation failed")] else []
  else
    [field "status" (.int response.status), field "data_base64" (.str response.dataBase64),
      field "metadata" (.dict response.metadata), field "queue_depth" (.int response.queueDepth),
      field "overflow_count" (.int response.overflowCount), field "timestamp_us" (.int response.timestampUs),
      field "error" (.str response.error)]

/-- The result of an answer that was decoded. -/
def answered (answer : Answer) (result : CommandResult) : CommandResult :=
  let metadata := [field "wire_version" (.int answer.first.wireVersion),
    field "message_type" (text (typeName answer.first.messageType)),
    field "segments" (.int answer.segments),
    field "response_body_bytes" (.int answer.responseBody.length),
    field "bridge" (.dict (run.sanitized answer.response))]
  let metadata := if run.secretsToSend ≠ [] then metadata
    else metadata ++ [field "response_body_sha256" (.str (sha256 answer.responseBody))]
  let result := { result with parsed := updateItems result.parsed metadata }
  if answer.first.messageType = .error ∨ answer.response.status ≠ 0 then
    { result with
      returnCode := some (if answer.response.status = 0 then 1 else answer.response.status)
      stderr := if run.secretsToSend ≠ [] ∨ answer.response.error = [] then
        PyStr.ofString "bridge operation failed" else answer.response.error }
  else result

/-- The result of bytes that no check of the wire format lets through. -/
def undecodable (error : PyError) (result : CommandResult) : CommandResult :=
  { result with
    returnCode := some 1
    stderr := wireTypeName error ++ PyStr.ofString ": " ++ wireMessage error
    parsed := setItem result.parsed (PyStr.ofString "wire_error")
      (.dict [field "type" (.str (wireTypeName error)), field "message" (.str (wireMessage error))]) }

/-- `_request_locked` -/
def requestLocked : Except PyError CommandResult := do
  let body ← run.body request
  let encoded ← encodeMessage body .request run.requestId
  let (serialResult, raw) ← exchangeBinary sha256 request.port encoded 115200 request.timeoutMs 75
    run.exchange run.stamp
  let result := run.labelled sha256 request body serialResult
  if result.ok = false then return result
  match decodeAnswer depth run.requestId raw with
  | .ok answer => return run.answered sha256 answer result
  | .error error => if error.isWire then return undecodable error result else .error error

end Run

/-- The result without its operation id, the random request id and its times. -/
def unstamped (result : CommandResult) : CommandResult :=
  { result with
    operationId := [], startedAt := [], finishedAt := [], durationMs := 0
    command := result.command.set 2 []
    parsed := setItem result.parsed (PyStr.ofString "request_id") .null }

/-- What the result of a request with secrets shows of the reply. -/
inductive ReplyView where
  | limitExceeded (observed : Nat)
  | failed (typeName : PyStr)
  | undecodable (responseBytes : Nat) (typeName message : PyStr)
  | answered (responseBytes : Nat) (type : MessageType) (segments bodyBytes status : Nat)

/-- What the result of a request with secrets shows. -/
structure View where
  requestBytes : Nat
  bodyBytes : Nat
  reply : ReplyView

namespace ReplyView

def returnCode : ReplyView → Int
  | answered _ type _ _ status => if type = .error ∨ status ≠ 0 then if status = 0 then 1 else status else 0
  | _ => 1

def stderr : ReplyView → PyStr
  | limitExceeded observed => (Exchange.limitExceeded observed).stderr
  | failed typeName => (Exchange.failed typeName).stderr
  | undecodable _ typeName message => typeName ++ PyStr.ofString ": " ++ message
  | answered _ type _ _ status =>
    if type = .error ∨ status ≠ 0 then PyStr.ofString "bridge operation failed" else []

/-- The sizes of the reply, which stand before what is known of the request. -/
def sizes : ReplyView → JsonDict
  | limitExceeded observed =>
    [field "response_bytes" (.int 0), field "response_overflow" (.bool true),
      field "response_observed_bytes" (.int observed),
      field "response_limit_bytes" (.int MAX_BINARY_RESPONSE_BYTES)]
  | failed _ => [field "response_bytes" (.int 0)]
  | undecodable responseBytes _ _ | answered responseBytes _ _ _ _ =>
    [field "response_bytes" (.int responseBytes)]

def metadata : ReplyView → JsonDict
  | undecodable _ typeName message =>
    [field "wire_error" (.dict [field "type" (.str typeName), field "message" (.str message)])]
  | answered _ type segments bodyBytes status =>
    [field "wire_version" (.int bridgeWireVersion), field "message_type" (text (typeName type)),
      field "segments" (.int segments), field "response_body_bytes" (.int bodyBytes),
      field "bridge" (.dict (field "status" (.int status) ::
        if status ≠ 0 then [field "error" (text "bridge operation failed")] else []))]
  | _ => []

end ReplyView

/-- The result of a request with secrets, as its view determines it. -/
def View.result (port : PyStr) (view : View) : CommandResult where
  operationId := []
  backend := PyStr.ofString "giga-protocol-bridge"
  command := [PyStr.ofString "protocol-bridge", port, []]
  startedAt := []
  finishedAt := []
  durationMs := 0
  returnCode := some view.reply.returnCode
  stderr := view.reply.stderr
  parsed := [field "port" (.str port), field "baudrate" (.int 115200),
    field "request_bytes" (.int view.requestBytes)] ++ view.reply.sizes ++
    [field "request_id" .null, field "request_body_bytes" (.int view.bodyBytes)] ++ view.reply.metadata

namespace Run

variable (sha256 : Bytes → PyStr) (depth : Nat) (request : Request) (run : Run)

def replyView : Except PyError ReplyView :=
  match run.exchange with
  | .limitExceeded observed => .ok (.limitExceeded observed)
  | .failed typeName => .ok (.failed typeName)
  | .received raw =>
    match decodeAnswer depth run.requestId raw with
    | .ok answer => .ok (.answered raw.length answer.first.messageType answer.segments
        answer.responseBody.length answer.response.status)
    | .error error =>
      if error.isWire then .ok (.undecodable raw.length (wireTypeName error) (wireMessage error))
      else .error error

def view : Except PyError View := do
  let body ← run.body request
  let encoded ← encodeMessage body .request run.requestId
  exchangeBinaryCheck encoded 115200 request.timeoutMs 75
  let reply ← run.replyView depth
  return ⟨encoded.length, body.length, reply⟩

end Run

theorem wireVersion_of_decodeRawFrame {decoded : Bytes} {frame : WireFrame}
    (h : decodeRawFrame decoded = .ok frame) : frame.wireVersion = bridgeWireVersion := by
  rw [decodeRawFrame] at h
  grind

theorem wireVersion_of_decodeFrame {encoded : Bytes} {frame : WireFrame} (h : decodeFrame encoded = .ok frame) :
    frame.wireVersion = bridgeWireVersion := by
  rw [decodeFrame] at h
  generalize (if encoded.getLast? = some 0 then encoded.dropLast else encoded) = data at h
  split at h
  next => cases h
  next =>
    cases hdecoded : cobsDecode data with
    | error e =>
      rw [hdecoded] at h
      cases h
    | ok decoded =>
      rw [hdecoded, Except.ok_bind] at h
      exact wireVersion_of_decodeRawFrame h

/-- Every frame that was decoded, and so the first one, has the one version that there is. -/
theorem wireVersion_of_decodeAnswer {depth : Nat} {requestId : Int} {raw : Bytes} {answer : Answer}
    (h : decodeAnswer depth requestId raw = .ok answer) : answer.first.wireVersion = bridgeWireVersion := by
  rw [decodeAnswer, decodeStream] at h
  split at h
  next => cases h
  next =>
    cases hframes : ((raw.splitOn 0).filter (· ≠ [])).mapM decodeFrame with
    | error e =>
      rw [hframes] at h
      cases h
    | ok frames =>
      rw [hframes, Except.ok_then] at h
      cases frames with
      | nil => cases h
      | cons first rest =>
        dsimp only at h
        split at h
        next => cases h
        next =>
          obtain ⟨responseBody, hbody, h⟩ := Except.then_ok h
          obtain ⟨response, hresponse, h⟩ := Except.then_ok h
          cases h
          obtain ⟨part, _, hpart⟩ := Except.mem_of_mapM_ok hframes first List.mem_cons_self
          exact wireVersion_of_decodeFrame hpart

section view

variable {sha256 : Bytes → PyStr} {depth : Nat} {request : Request} {run : Run}

/-- The serial result of a request with secrets, under the name of the bridge. -/
theorem labelled_secret (secret : run.secretsToSend ≠ []) (body encoded : Bytes) :
    run.labelled sha256 request body (exchangeResult sha256 request.port encoded 115200 run.exchange run.stamp) =
      { operationId := run.stamp.operationId
        backend := PyStr.ofString "giga-protocol-bridge"
        command := [PyStr.ofString "protocol-bridge", request.port,
          PyStr.ofString "request-id:" ++ dumpsInt run.requestId]
        startedAt := run.stamp.startedAt
        finishedAt := run.stamp.finishedAt
        durationMs := run.stamp.durationMs
        returnCode := some run.exchange.returnCode
        stderr := run.exchange.stderr
        parsed := [field "port" (.str request.port), field "baudrate" (.int 115200),
          field "request_bytes" (.int encoded.length)] ++
          (match run.exchange with
            | .limitExceeded observed => (ReplyView.limitExceeded observed).sizes
            | exchange => [field "response_bytes" (.int exchange.raw.length)]) ++
          [field "request_id" (.int run.requestId), field "request_body_bytes" (.int body.length)] } := by
  rw [Run.labelled, if_pos secret]
  cases run.exchange <;> rfl

theorem not_failed (result : CommandResult) (code : result.returnCode = some 0)
    (inTime : result.timedOut = false) : ¬result.ok = false := by
  rw [CommandResult.ok, code, inTime]
  decide

theorem requestLocked_view (secret : run.secretsToSend ≠ []) :
    (run.requestLocked sha256 depth request).map unstamped =
      (run.view depth request).map (View.result request.port) := by
  rw [Run.requestLocked, Run.view]
  cases run.body request with
  | error e => rfl
  | ok body =>
    rw [Except.ok_then, Except.ok_then]
    cases encodeMessage body .request run.requestId with
    | error e => rfl
    | ok encoded =>
      rw [Except.ok_then, Except.ok_then, exchangeBinary]
      cases exchangeBinaryCheck encoded 115200 request.timeoutMs 75 with
      | error e => rfl
      | ok _ =>
        rw [Except.ok_then, Except.ok_then, Run.replyView]
        simp only [pure_bind]
        rw [labelled_secret secret]
        cases run.exchange with
        | limitExceeded observed => rfl
        | failed typeName => rfl
        | received raw =>
          rw [if_neg (not_failed _ rfl rfl)]
          dsimp only [Exchange.raw]
          cases hanswer : decodeAnswer depth run.requestId raw with
          | error error =>
            dsimp only
            cases error.isWire <;> rfl
          | ok answer =>
            dsimp only
            rw [Run.answered, Run.sanitized, if_pos secret, if_pos secret]
            dsimp only
            rw [wireVersion_of_decodeAnswer hanswer]
            rw [Except.ok_then]
            change _ = Except.ok (View.result request.port ⟨encoded.length, body.length, _⟩)
            rw [View.result, ReplyView.returnCode, ReplyView.stderr]
            by_cases hfailed : answer.first.messageType = .error ∨ answer.response.status ≠ 0
            · rw [if_pos hfailed, if_pos hfailed, if_pos hfailed, if_pos (Or.inl secret)]
              rfl
            · rw [if_neg hfailed, if_neg hfailed, if_neg hfailed]
              rfl

theorem typeName_injective {type type' : MessageType} (h : text (typeName type) = text (typeName type')) :
    type = type' := by
  have h := PyJson.str.inj h
  cases type <;> cases type' <;> first | rfl | exact absurd h (by decide)

/-- Two results that look alike have the same view. -/
theorem view_of_result {port : PyStr} {view view' : View} (h : view.result port = view'.result port) :
    view = view' := by
  obtain ⟨requestBytes, bodyBytes, reply⟩ := view
  obtain ⟨requestBytes', bodyBytes', reply'⟩ := view'
  have hparsed := congrArg CommandResult.parsed h
  have hstderr := congrArg CommandResult.stderr h
  -- replies of different kinds have different fields, which leaves the four pairs of one kind
  cases reply <;> cases reply' <;>
    simp [View.result, ReplyView.sizes, ReplyView.metadata, field] at hparsed
  case limitExceeded.limitExceeded =>
    obtain ⟨hrequest, hobserved, hbody⟩ := hparsed
    rw [hrequest, hobserved, hbody]
  case failed.failed =>
    obtain ⟨hrequest, hbody⟩ := hparsed
    have hname := List.append_cancel_right hstderr
    rw [hrequest, hbody, hname]
  case undecodable.undecodable =>
    obtain ⟨hrequest, hresponse, hbody, htype, hmessage⟩ := hparsed
    rw [hrequest, hresponse, hbody, htype, hmessage]
  case answered.answered =>
    obtain ⟨hrequest, hresponse, hbody, htype, hsegments, hresponseBody, hstatus, _⟩ := hparsed
    rw [hrequest, hresponse, hbody, typeName_injective htype, hsegments, hresponseBody, hstatus]

end view

/-- The decoding check that an error comes from: its message up to the numbers that it shows. -/
def decodingCheck (error : PyError) : PyStr × PyStr :=
  (wireTypeName error, (wireMessage error).takeWhile fun c => !isAsciiDigit c)

/-- Secrets of the same fields, with texts whose UTF-8 has the same length. -/
def SameShape (secrets secrets' : PyDict) : Prop :=
  List.Forall₂ (fun item item' => item.1 = item'.1 ∧ ∃ text text' : PyStr,
    item.2 = .str text ∧ item'.2 = .str text' ∧ (utf8 text).length = (utf8 text').length) secrets secrets'

end JLinkMcp.Bridge
