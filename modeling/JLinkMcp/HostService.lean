import JLinkMcp.HostEncoding

namespace JLinkMcp.Host

/-- What `status`, `control`, `exchange` and `receive` send. -/
inductive BridgeRequest where
  | status
  | control (request : ControlRequest)
  | exchange (request : ExchangeRequest)
  | receive (request : ReceiveRequest)

namespace BridgeRequest

def modelDump : BridgeRequest → PyDict
  | status => []
  | control request => request.modelDump
  | exchange request => request.modelDump
  | receive request => request.modelDump

/-- The `operation` argument of `_request`. -/
def operationArgument : BridgeRequest → Option String
  | status => some "get_status"
  | control _ | exchange _ => none
  | receive _ => some "receive"

end BridgeRequest

/-- `secrets_to_send` of `control`; `profiles` is what `load_bridge_profiles` gives. -/
def controlSecrets (profiles : Except PyError ProtocolBridgeProfiles) :
    ControlRequest → Except PyError PyDict
  | .wifiConnect request => profiles.bind fun profiles =>
    match profiles.wifi.lookup request.profile.val with
    | some profile =>
      .ok [("ssid", .ofText profile.ssid), ("password", .ofText profile.password)]
    | none =>
      .error (.valueError s!"unknown Wi-Fi credential profile: {showStr request.profile.val}")
  | .blePair ⟨some name⟩ => profiles.bind fun profiles =>
    match profiles.blePasskeys.lookup name.val with
    | some profile => .ok [("passkey", .ofText profile.passkey)]
    | none => .error (.valueError s!"unknown BLE passkey profile: {showStr name.val}")
  | _ => .ok []

def BridgeRequest.secrets (profiles : Except PyError ProtocolBridgeProfiles) :
    BridgeRequest → Except PyError PyDict
  | control request => controlSecrets profiles request
  | _ => .ok []

/-- The timeouts in milliseconds. -/
def BridgeRequest.timeoutMs : BridgeRequest → Nat
  | status => 5000
  | control (.wifiConnect _) | control (.bleScan _) | control (.bleConnect _) => 35000
  | control _ => 5000
  | exchange _ => 30000
  | receive request => max 5000 (request.timeoutMs.val + 2000)

/-- The checks of `exchange_binary` on its arguments; the times are in milliseconds. -/
def exchangeBinaryCheck (write : Bytes) (baudrate duration idleAfterData : Nat) :
    Except PyError Unit :=
  if ¬(50 ≤ baudrate ∧ baudrate ≤ 4000000) then
    .error (.valueError "baudrate is outside the supported range")
  else if ¬(50 ≤ duration ∧ duration ≤ 300000) then
    .error (.valueError "duration must be between 0.05 and 300 seconds")
  else if ¬(10 ≤ idleAfterData ∧ idleAfterData ≤ 1000) then
    .error (.valueError "idle_after_data must be between 0.01 and 1 second")
  else if write = [] ∨ write.length > 128 * 1024 then
    .error (.valueError "binary serial request is empty or too large")
  else .ok ()

/-- What `_request_locked` hands to the serial port. -/
def requestStream (values : PyDict) (operation : Option String) (secrets : PyDict)
    (timeoutMs : Nat) (requestId : Int) : Except PyError Bytes :=
  (encodeRequestBody values operation secrets).bind fun body =>
  (encodeMessage body .request requestId).bind fun encoded =>
  (exchangeBinaryCheck encoded 115200 timeoutMs 75).bind fun _ => .ok encoded

end JLinkMcp.Host
