import JLinkMcp.FirmwareBridge

namespace JLinkMcp.Firmware

/-- `WL_CONNECTED` -/
def wlConnected : Int := 3

/-- The loop that waits for the connection. -/
def awaitWifi : Nat → BoardM Unit
  | 0 => pure ()
  | rounds + 1 => do
    if (← call .wifiStatus).number = wlConnected then return ()
    else
      let _ ← call (.delay 50)
      awaitWifi rounds

/-- Whether the network is joined in time. -/
def joinWifi (ssid password : Bytes) : BoardM Bool := do
  let result ← call (.wifiBegin (cString ssid) (cString password))
  awaitWifi (← rounds 30000)
  if result.number = wlConnected then return true
  else return (← call .wifiStatus).number = wlConnected

def wifiConnect (reader : TlvReader) (requestId : Nat) : BridgeM Unit := do
  let machine ← getMachine
  if machine.radioMode = 2 then
    sendError requestId kConflict "Wi-Fi and BLE sessions are mutually exclusive"
  else match wifiCredentials reader with
    | none => sendError requestId kMalformed "wireless profile is invalid"
    | some wifi => do
      update fun machine => { machine with radioMode := 1 }
      let connected ← onBoard (joinWifi wifi.ssid wifi.password)
      update fun machine => { machine with wifiConnected := connected }
      if !connected then
        let _ ← onBoard (call .wifiDisconnect)
        update fun machine => { machine with radioMode := 0 }
        sendError requestId kIoError "Wi-Fi connection failed"
      else sendOk requestId (text "\x7b\"connected\":true,\"credentials_volatile\":true\x7d")

/-- Both sockets of a slot are stopped. -/
def stopSocket (socket : Nat) : BoardM Unit := do
  let _ ← call (.tcpStop socket)
  let _ ← call (.udpStop socket)

/-- The loop of `wifiDisconnect` over the slots with the given numbers. -/
def stopSockets (used : Nat → Bool) : List Nat → BoardM Unit
  | [] => pure ()
  | socket :: sockets => do
    if used socket then stopSocket socket
    stopSockets used sockets

def wifiDisconnect (requestId : Nat) : BridgeM Unit := do
  let machine ← getMachine
  onBoard (stopSockets (fun socket => (machine.sockets socket).used) (List.range 8))
  let _ ← onBoard (call .wifiDisconnect)
  update fun machine =>
    { machine with
      sockets := fun socket =>
        if socket < 8 then { machine.sockets socket with used := false } else machine.sockets socket
      wifiConnected := false
      radioMode := 0 }
  sendOk requestId (text "\x7b\"connected\":false\x7d")

def openSocket (socket : Nat) (wifi : WifiSocket) : BoardM Bool :=
  if wifi.protocol = 0 then ask (.tcpConnect socket (cString wifi.host) wifi.port)
  else ask (.udpBegin socket (if wifi.localPort ≠ 0 then wifi.localPort else 49152 + socket))

def wifiSocketOpen (reader : TlvReader) (requestId : Nat) : BridgeM Unit := do
  let machine ← getMachine
  match wifiSocket machine.wifiConnected reader with
  | none => sendError requestId kMalformed "invalid Wi-Fi socket request"
  | some wifi =>
    match (List.range 8).find? fun socket => !(machine.sockets socket).used with
    | none => sendError requestId kConflict "Wi-Fi socket limit reached"
    | some selected => do
      if ← onBoard (openSocket selected wifi) then
        update fun machine =>
          { machine with
            sockets := setAt machine.sockets selected
              ⟨true, wifi.protocol, (cString wifi.host).take 253, wifi.port⟩ }
        sendOk requestId (metadata [text "\x7b\"socket_id\":", decimal selected, text ",\"protocol\":\"",
          text (if wifi.protocol = 0 then "tcp" else "udp"), text "\"\x7d"])
      else sendError requestId kIoError "Wi-Fi socket could not open"

def wifiSocketClose (reader : TlvReader) (requestId : Nat) : BridgeM Unit := do
  let machine ← getMachine
  match wifiSocketId (fun socket => (machine.sockets socket).used) reader with
  | none => sendError requestId kMalformed "unknown Wi-Fi socket"
  | some socket => do
    onBoard (stopSocket socket)
    update fun machine =>
      { machine with
        sockets := setAt machine.sockets socket { machine.sockets socket with used := false } }
    sendOk requestId (metadata [text "\x7b\"socket_id\":", decimal socket, text "\x7d"])

/-- The bytes that the socket takes. -/
def writeSocket (socket : Nat) (slot : SocketSlot) (data : Bytes) : BoardM Int := do
  if slot.protocol = 0 then return (← call (.tcpWrite socket data)).number
  else if ← ask (.udpBeginPacket socket slot.host slot.port) then
    let written ← call (.udpWrite socket data)
    if ← ask (.udpEndPacket socket) then return written.number else return 0
  else return 0

def wifiSend (reader : TlvReader) (requestId : Nat) : BridgeM Unit := do
  let machine ← getMachine
  match wifiOutput (fun socket => (machine.sockets socket).used) reader with
  | none => sendError requestId kMalformed "invalid Wi-Fi send request"
  | some output => do
    let written ← onBoard (writeSocket output.socket (machine.sockets output.socket) output.data)
    if written ≠ output.data.length then sendError requestId kIoError "Wi-Fi send was incomplete"
    else
      sendOk requestId (metadata [text "\x7b\"socket_id\":", decimal output.socket,
        text ",\"written\":", decimal output.data.length, text "\x7d"])

end JLinkMcp.Firmware
