import JLinkMcp.FirmwareResources
import JLinkMcp.FirmwareText
import JLinkMcp.StateProgram

namespace JLinkMcp.Firmware

/-- The second argument of `Serial1.begin`. -/
inductive SerialConfig where
  | serial7N1 | serial7N2 | serial7E1 | serial7E2 | serial7O1 | serial7O2
  | serial8N1 | serial8N2 | serial8E1 | serial8E2 | serial8O1 | serial8O2
  deriving DecidableEq, Repr

inductive CanBitRate where
  | br125k | br250k | br500k | br1000k
  deriving DecidableEq, Repr

inductive PinMode where
  | input | inputPullup | inputPulldown | output
  deriving DecidableEq, Repr

inductive EndpointType where
  | control | isochronous | bulk | interrupt
  deriving DecidableEq, Repr

/-- An endpoint by its device, its interface and its place there. -/
structure Endpoint where
  device : Nat
  interfaceNumber : Nat
  index : Nat
  deriving DecidableEq, Repr

/-- The calls of the sketch into the Arduino core and the libraries, with what it passes. Ports,
buses, sockets, devices and attributes are named by number. -/
inductive HwCall where
  | deadline (ms : Nat)
  | delay (ms : Nat)
  | delayMicroseconds (us : Nat)
  | serialBegin (port baudrate : Nat) (config : SerialConfig)
  | serialWrite (port : Nat) (data : Bytes)
  | serialAvailable (port : Nat)
  | serialRead (port : Nat)
  | canBegin (bus : Nat) (bitrate : CanBitRate)
  | canWrite (bus identifier : Nat) (extended : Bool) (data : Bytes)
  | canPending (bus : Nat)
  | canRead (bus : Nat)
  | pinMode (pin : Nat) (mode : PinMode)
  | digitalWrite (pin : Nat) (high : Bool)
  | digitalRead (pin : Nat)
  | spiBegin (bus : Nat)
  | spiBeginTransaction (bus clock : Nat) (lsbFirst : Bool) (mode : Nat)
  | spiTransfer (bus : Nat) (value : UInt8)
  | spiEndTransaction (bus : Nat)
  | wireBegin (bus : Nat)
  | wireSetClock (bus clock : Nat)
  | wireBeginTransmission (bus address : Nat)
  | wireWrite (bus : Nat) (data : Bytes)
  | wireEndTransmission (bus : Nat) (stop : Bool)
  | wireRequestFrom (bus address quantity : Nat)
  | wireAvailable (bus : Nat)
  | wireRead (bus : Nat)
  | usbGetDevice (index : Nat)
  | usbIsHub (device : Nat)
  | usbGetVid (device : Nat)
  | usbGetPid (device : Nat)
  | usbGetNbIntf (device : Nat)
  | usbControlRead (device requestType request value index length : Nat)
  | usbControlWrite (device requestType request value index : Nat) (data : Bytes)
  | usbEnumerate (device interfaceNumber : Nat)
  | usbEnumeratorHub
  | usbResetDevice (device : Nat)
  | usbGetEndpoint (endpoint : Endpoint)
  | usbEndpointType (endpoint : Endpoint)
  | usbEndpointAddress (endpoint : Endpoint)
  | usbEndpointSize (endpoint : Endpoint)
  | usbRead (endpoint : Endpoint) (interrupt : Bool) (length : Nat)
  | usbWrite (endpoint : Endpoint) (interrupt : Bool) (data : Bytes)
  | usbLengthTransferred (endpoint : Endpoint)
  | wifiBegin (ssid password : Bytes)
  | wifiStatus
  | wifiDisconnect
  | tcpConnect (socket : Nat) (host : Bytes) (port : Nat)
  | tcpStop (socket : Nat)
  | tcpWrite (socket : Nat) (data : Bytes)
  | tcpAvailable (socket : Nat)
  | tcpRead (socket : Nat)
  | udpBegin (socket port : Nat)
  | udpStop (socket : Nat)
  | udpBeginPacket (socket : Nat) (host : Bytes) (port : Nat)
  | udpWrite (socket : Nat) (data : Bytes)
  | udpEndPacket (socket : Nat)
  | udpParsePacket (socket : Nat)
  | udpRead (socket capacity : Nat)
  | bleBegin
  | bleSetPairable
  | bleSetDisplayCode
  | bleSetBinaryConfirmPairing
  | bleScan
  | bleScanForUuid (uuid : Bytes)
  | bleScanForAddress (address : Bytes)
  | bleStopScan
  | bleAvailable
  | blePoll
  | blePaired
  | bleEnd
  | bleAddress (device : Nat)
  | bleHasLocalName (device : Nat)
  | bleLocalName (device : Nat)
  | bleRssi (device : Nat)
  | bleConnect (device : Nat)
  | bleConnected (device : Nat)
  | bleDisconnect (device : Nat)
  | bleDiscoverService (device : Nat) (uuid : Bytes)
  | bleDiscoverAttributes (device : Nat)
  | bleServiceCount (device : Nat)
  | bleServiceUuid (device index : Nat)
  | bleCharacteristicCount (device : Nat)
  | bleCharacteristicUuid (device index : Nat)
  | bleService (device : Nat) (uuid : Bytes)
  | bleCharacteristic (service : Nat) (uuid : Bytes)
  | bleCanUse (characteristic : Nat)
  | bleSubscribe (characteristic : Nat)
  | bleUnsubscribe (characteristic : Nat)
  | bleWriteValue (characteristic : Nat) (data : Bytes) (withResponse : Bool)
  | bleReadValue (characteristic capacity : Nat)
  | bleValueUpdated (characteristic : Nat)

/-- The outcome of a call: a number, bytes that it stores, and the microseconds that pass. -/
structure HwReply where
  number : Int
  bytes : Bytes
  elapsed : Nat

/-- The hardware answers by everything that was called so far, the latest call first. The owners of
the pins stand with every call as they were then. -/
structure Board where
  reply : List HwCall → HwReply
  pinResources : PinResources
  calls : List (HwCall × PinResources)
  now : Nat

abbrev BoardM := StateM Board

def call (c : HwCall) : BoardM HwReply := fun board =>
  let reply := board.reply (c :: board.calls.map Prod.fst)
  (reply, { board with
    calls := (c, board.pinResources) :: board.calls
    now := board.now + reply.elapsed })

/-- A call whose outcome is a truth value. -/
def ask (c : HwCall) : BoardM Bool := do return (← call c).number ≠ 0

/-- A call whose outcome is a number of at most the given bytes. -/
def askNat (c : HwCall) (width : Nat) : BoardM Nat := do
  return (← call c).number.toNat % 256 ^ width

/-- A call whose outcome is one byte. -/
def askByte (c : HwCall) : BoardM UInt8 := do return UInt8.ofNat (← call c).number.toNat

/-- A call that may give a handle; an empty one converts to `false`. -/
def askHandle (c : HwCall) : BoardM (Option Nat) := do
  let reply ← call c
  return if reply.number < 0 then none else some reply.number.toNat

/-- The rounds that a loop has until `millis()` passes the deadline. -/
def rounds (ms : Nat) : BoardM Nat := do return (← call (.deadline ms)).number.toNat

/-- `while (available() && length < capacity) buffer[length++] = read()` -/
def readWhile (available read : HwCall) : Nat → BoardM Bytes
  | 0 => do
    let _ ← ask available
    return []
  | capacity + 1 => do
    if ← ask available then
      let value ← askByte read
      return value :: (← readWhile available read capacity)
    else return []

/-- The bytes of a reply that fit the buffer. -/
def HwReply.stored (reply : HwReply) (capacity : Nat) : Bytes := reply.bytes.take capacity

/-- `micros()`, which wraps after 32 bits. -/
def Board.micros (board : Board) : Nat := board.now % 2 ^ 32

end JLinkMcp.Firmware
