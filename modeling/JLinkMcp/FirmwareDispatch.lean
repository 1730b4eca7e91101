import JLinkMcp.FirmwareBle
import JLinkMcp.FirmwareBuses
import JLinkMcp.FirmwareGpio
import JLinkMcp.FirmwareUsb
import JLinkMcp.FirmwareWifi

namespace JLinkMcp.Firmware

open Codec StateProgram

def pollUart (port : Nat) : MachineM Unit := do
  let machine ← get
  if machine.uartConfigured port then
    let received ← liftM (readWhile (.serialAvailable port) (.serialRead port) 256)
    if received.length ≠ 0 then pushReceived PROTO_UART port received

def pollUarts : MachineM Unit := (List.range 4).forM pollUart

/-- The record of a message; the library hands over the flag of an extended identifier and then
the data. -/
def canRecord (message : HwReply) : Bytes :=
  let extended := message.bytes.headD 0 ≠ 0
  let data := message.bytes.tail.take 8
  leBytes 4 (message.number.toNat % (if extended then 0x20000000 else 0x800)) ++
    [if extended then 1 else 0, UInt8.ofNat data.length] ++ data

/-- The messages of a controller, up to the first time `available()` is false. -/
def pollCanBus : Nat → Nat → MachineM Unit
  | _, 0 => pure ()
  | bus, pending + 1 => do
    let message ← liftM (call (.canRead bus))
    pushReceived PROTO_CAN bus (canRecord message)
    pollCanBus bus pending

def pollCan : MachineM Unit := (List.range 2).forM fun bus => do
  let machine ← get
  if machine.canConfigured bus then
    let pending ← liftM (call (.canPending bus))
    pollCanBus bus pending.number.toNat

def pollGpioPin (pin : Nat) : MachineM Unit := do
  let machine ← get
  if machine.gpioEdge pin ≠ 0 then
    let value ← liftM (readPin pin)
    let last := machine.gpioLast pin
    if value ≠ last then
      let rising := last = 0 ∧ value ≠ 0
      let edge := machine.gpioEdge pin
      modify fun machine => { machine with gpioLast := setAt machine.gpioLast pin value }
      if edge = 3 ∨ (edge = 1 ∧ rising) ∨ (edge = 2 ∧ ¬rising) then
        pushReceived PROTO_GPIO pin (leBytes 2 pin ++ [UInt8.ofNat value])

def pollGpio : MachineM Unit := (List.range 103).forM pollGpioPin

/-- The bytes of a round of `pollWifi` for one socket. -/
def receiveSocket (socket protocol : Nat) : BoardM Bytes := do
  if protocol = 0 then readWhile (.tcpAvailable socket) (.tcpRead socket) 512
  else
    let packet := (← call (.udpParsePacket socket)).number
    if 0 < packet then
      let capacity := min packet.toNat 512
      return (← call (.udpRead socket capacity)).stored capacity
    else return []

def pollSocket (socket : Nat) : MachineM Unit := do
  let machine ← get
  if (machine.sockets socket).used then
    let received ← liftM (receiveSocket socket (machine.sockets socket).protocol)
    if received.length ≠ 0 then pushReceived PROTO_WIFI socket received

def pollWifi : MachineM Unit := do
  let machine ← get
  if machine.wifiConnected then (List.range 8).forM pollSocket

/-- A new value of the subscribed characteristic, if there is one. -/
def pollSubscription : MachineM Unit := do
  let machine ← get
  match machine.bleSubscription with
  | none => pure ()
  | some characteristic =>
    if machine.bleSubscribed then
      if ← liftM (ask (.bleValueUpdated characteristic)) then
        let value := (← liftM (call (.bleReadValue characteristic 512))).stored 512
        storeResponse value
        if 0 < value.length then pushReceived PROTO_BLE 0 value

def pollBle : MachineM Unit := do
  let machine ← get
  if machine.bleInitialized then
    blePoll
    pollSubscription
    if ← liftM (ask .blePaired) then
      modify fun machine => { machine with expectedPairingCode := noPairingCode }

def pollAll : MachineM Unit := do
  pollUarts
  pollCan
  pollGpio
  pollWifi
  pollBle

/-- A round of the loop of `receiveOperation`. -/
def receiveRound (window : ReceiveWindow) (_ : Unit) : MachineM (Bool × Unit) := do
  let machine ← get
  if machine.receiveQueue.depth window.protocol (UInt8.ofNat window.channel) ≠ 0 then
    return (false, ())
  else
    pollAll
    let _ ← liftM (call (.delay 1))
    return (true, ())

/-- `receive_queue.read(protocol, channel, response_data, limit, drain != 0)`; the length is what
it returns. -/
def readReceived (window : ReceiveWindow) : MachineM Nat := do
  let machine ← get
  let out := machine.receiveQueue.read window.protocol (UInt8.ofNat window.channel) window.limit
    (window.drain ≠ 0)
  set { machine with receiveQueue := out.1 }
  storeResponse out.2
  return out.2.length

/-- The text `receiveOperation` answers with. -/
def receiveMetadata (window : ReceiveWindow) : Bytes :=
  metadata [text "\x7b\"protocol\":", decimal window.protocol, text ",\"channel\":",
    decimal window.channel, text ",\"record_header\":\"channel:u8,length:u16,timestamp_us:u64\",",
    text "\"drained\":", text (if window.drain ≠ 0 then "true" else "false"), text "\x7d"]

def receiveOperation (reader : TlvReader) (requestId : Nat) : BridgeM Unit :=
  match receiveWindow reader with
  | none => sendError requestId kMalformed "invalid receive request"
  | some window => do
    let limit ← onBoard (rounds window.timeout)
    machineOf.run (iterate (receiveRound window) limit ())
    let length ← liftM (readReceived window)
    let machine ← getMachine
    sendResponse requestId
      { status := kStatusOk
        data := responseBytes machine length
        metadata := receiveMetadata window
        queueDepth := min
          (machine.receiveQueue.depth window.protocol (UInt8.ofNat window.channel)) 65535
        overflow := machine.receiveQueue.overflow window.protocol }

/-- The pins of `buildStatusMetadata`, behind what the buffer holds already. -/
def appendSafePins : List Nat → Bool → Bytes → Bytes
  | [], _, listed => listed
  | pin :: pins, first, listed =>
    if safeDynamicPin pin then
      appendSafePins pins false (appendText listed kMaxMetadata
        (snprintf 16 [text (if first then "" else ","), text "\"D", decimal pin, text "\""]))
    else appendSafePins pins first listed

/-- One number for each of the queues, under the names of the protocols. -/
def queueNumbers (number : Nat → Nat) : Bytes :=
  (text "\x7b\"uart\":" ++ decimal (number PROTO_UART)) ++ (text ",\"can\":" ++ decimal (number PROTO_CAN)) ++
    (text ",\"usb\":" ++ decimal (number PROTO_USB)) ++ (text ",\"wifi\":" ++ decimal (number PROTO_WIFI)) ++
    (text ",\"ble\":" ++ decimal (number PROTO_BLE)) ++ (text ",\"gpio\":" ++ decimal (number PROTO_GPIO)) ++
    text "\x7d"

def truth (b : Bool) : Bytes := text (if b then "true" else "false")

/-- `tail` of `buildStatusMetadata`. -/
def statusTail (machine : Machine) (bleConnected : Bool) : Bytes :=
  snprintf 1800 [text "],\"transfer_limits\":\x7b\"decoded_frame\":4096,",
    text "\"assembled_message\":65536,\"application_payload\":64000,",
    text "\"i2c_transaction\":32,\"can_payload\":8,",
    text "\"usb_interrupt\":4096\x7d,\"connections\":\x7b",
    text "\"wifi\":", truth machine.wifiConnected, text ",\"ble\":", truth bleConnected,
    text ",\"usb\":", truth machine.usbDevice.isSome, text "\x7d,",
    text "\"queue_depths\":", queueNumbers machine.receiveQueue.depthAll,
    text ",\"overflow_counts\":", queueNumbers machine.receiveQueue.overflow,
    text ",\"active_resource_conflicts\":[]\x7d"]

def buildStatusMetadata (machine : Machine) (bleConnected : Bool) : Bytes :=
  let header := metadata [text "\x7b\"firmware_version\":\"", machine.identity.firmwareVersion,
    text "\",\"wire_version\":", decimal machine.identity.wireVersion,
    text ",\"build_id\":\"", machine.identity.buildId, text "\",\"source_sha256\":\"",
    machine.identity.sourceSha256,
    text "\",\"supported_interfaces\":[\"spi\",\"i2c\",\"uart\",",
    text "\"can\",\"usb\",\"wifi\",\"ble\",\"gpio\"],", text "\"safe_pins\":["]
  let listed := appendSafePins (List.range' 2 84) true header
  appendText listed kMaxMetadata (statusTail machine bleConnected)

def getStatus (requestId : Nat) : BridgeM Unit := do
  let machine ← getMachine
  let peer ← onBoard (peerConnected machine.blePeer)
  sendOk requestId (buildStatusMetadata machine peer.isSome)

/-- The `switch` of `dispatch`. -/
def runOperation (operation : Operation) (reader : TlvReader) (requestId : Nat) : BridgeM Unit :=
  match operation with
  | .getStatus => getStatus requestId
  | .receive => receiveOperation reader requestId
  | .uartConfigure => configureUart reader requestId
  | .canConfigure => configureCan reader requestId
  | .usbEnumerate => usbEnumerate requestId
  | .usbSelect => usbSelect reader requestId
  | .usbReset => usbReset requestId
  | .usbRelease => usbRelease requestId
  | .wifiConnect => wifiConnect reader requestId
  | .wifiDisconnect => wifiDisconnect requestId
  | .wifiSocketOpen => wifiSocketOpen reader requestId
  | .wifiSocketClose => wifiSocketClose reader requestId
  | .bleScan => bleScan reader requestId
  | .bleConnect => bleConnect reader requestId
  | .bleDisconnect => bleDisconnect requestId
  | .blePair => blePair reader requestId
  | .bleDiscover => bleDiscover reader requestId
  | .bleSubscribe => bleSubscribe reader requestId
  | .gpioConfigure => gpioConfigure reader requestId
  | .gpioWatch => gpioWatch reader requestId
  | .spiExchange => spiExchange reader requestId
  | .i2cExchange => i2cExchange reader requestId
  | .uartWrite => uartWriteOperation reader requestId
  | .canSend => canSend reader requestId
  | .usbTransfer => usbTransfer reader requestId
  | .wifiSend => wifiSend reader requestId
  | .bleRead => bleReadWrite false reader requestId
  | .bleWrite => bleReadWrite true reader requestId
  | .gpioRead | .gpioWrite | .gpioPulse => gpioOperation operation reader requestId

/-- The checks that open `dispatch`, and the number of the operation. -/
def operationNumber (reader : TlvReader) : Option Nat := do
  guard reader.valid
  let operation ← reader.u16 .operation
  guard (reader.onlyKnown (knownField operation))
  return operation

def dispatch (requestId : Nat) (body : Bytes) : BridgeM Unit :=
  match operationNumber ⟨body⟩ with
  | none => sendError requestId kMalformed "malformed or unknown bridge TLV"
  | some number =>
    match Operation.ofNat? number with
    | none => sendError requestId kUnsupported "unknown bridge operation"
    | some operation => runOperation operation ⟨body⟩ requestId

end JLinkMcp.Firmware
