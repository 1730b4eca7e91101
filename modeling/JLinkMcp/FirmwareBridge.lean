import JLinkMcp.FirmwareBoard
import JLinkMcp.FirmwareSender

namespace JLinkMcp.Firmware

open Codec StateProgram

def kStatusOk : Nat := 0
def kMalformed : Nat := 1
def kUnsupported : Nat := 2
def kConflict : Nat := 3
def kIoError : Nat := 4
def kSelectionError : Nat := 5
def kResourceOwnerGpio : Nat := 1
def kResourceOwnerSpi0 : Nat := 2
def kResourceOwnerSpi1 : Nat := 3
def kResourceOwnerCan1 : Nat := 4
def kResourceOwnerI2c1 : Nat := 5

/-- `UINT32_MAX` where no pairing code is expected. -/
def noPairingCode : Nat := 2 ^ 32 - 1

structure SocketSlot where
  used : Bool
  protocol : Nat
  host : Bytes
  port : Nat

/-- `BRIDGE_FIRMWARE_VERSION` and the other texts of the generated header. -/
structure BuildIdentity where
  firmwareVersion : Bytes
  wireVersion : Nat
  buildId : Bytes
  sourceSha256 : Bytes

/-- `MAX_DEVICE_CONNECTED` and `MAX_ENDPOINT_PER_INTERFACE` of the USB host library. -/
structure UsbLimits where
  maxDeviceConnected : Nat
  maxEndpointPerInterface : Nat

/-- The static variables of the sketch, and the board it runs on. -/
structure Machine where
  board : Board
  identity : BuildIdentity
  limits : UsbLimits
  responseData : Nat → UInt8
  receiveQueue : SharedReceiveQueue
  uartConfigured : Nat → Bool
  canConfigured : Nat → Bool
  gpioEdge : Nat → Nat
  gpioLast : Nat → Nat
  gpioConfigured : Nat → Bool
  gpioOutput : Nat → Bool
  usbDevice : Option Nat
  usbInterface : Nat
  radioMode : Nat
  wifiConnected : Bool
  sockets : Nat → SocketSlot
  blePeer : Option Nat
  bleSubscription : Option Nat
  bleInitialized : Bool
  bleSubscribed : Bool
  expectedPairingCode : Nat
  displayedPairingCode : Nat

/-- The state at power-up. -/
def Machine.powerUp (board : Board) (identity : BuildIdentity) (limits : UsbLimits) : Machine where
  board := { board with pinResources := .init, calls := [] }
  identity := identity
  limits := limits
  responseData := fun _ => 0
  receiveQueue := .init
  uartConfigured := fun _ => false
  canConfigured := fun _ => false
  gpioEdge := fun _ => 0
  gpioLast := fun _ => 0
  gpioConfigured := fun _ => false
  gpioOutput := fun _ => false
  usbDevice := none
  usbInterface := 0
  radioMode := 0
  wifiConnected := false
  sockets := fun _ => ⟨false, 0, [], 0⟩
  blePeer := none
  bleSubscription := none
  bleInitialized := false
  bleSubscribed := false
  expectedPairingCode := noPairingCode
  displayedPairingCode := noPairingCode

/-- `pin_resources` -/
def Machine.pinResources (machine : Machine) : PinResources := machine.board.pinResources

/-- What a claim leaves in `pin_resources`. -/
def Machine.own (pins : PinResources) (machine : Machine) : Machine :=
  { machine with board := { machine.board with pinResources := pins } }

/-- The machine, and what it has written to `Serial`. -/
structure Bridge where
  machine : Machine
  serial : Bytes

abbrev MachineM := StateM Machine
abbrev BridgeM := StateM Bridge

def boardOf : Part Machine Board where
  get machine := machine.board
  set machine board := { machine with board := board }
  get_set _ _ := rfl
  set_get _ := rfl
  set_set _ _ _ := rfl

def machineOf : Part Bridge Machine where
  get bridge := bridge.machine
  set bridge machine := { bridge with machine := machine }
  get_set _ _ := rfl
  set_get _ := rfl
  set_set _ _ _ := rfl

instance : MonadLift BoardM MachineM := ⟨boardOf.run⟩
instance : MonadLift MachineM BridgeM := ⟨machineOf.run⟩

/-- `table[index] = value` -/
def setAt {α : Type} (table : Nat → α) (index : Nat) (value : α) : Nat → α :=
  fun i => if i = index then value else table i

section setAt

variable {α : Type} (table : Nat → α) {index i : Nat} (value : α)

theorem setAt_self (index : Nat) : setAt table index value index = value := if_pos rfl

theorem setAt_ne (ne : i ≠ index) : setAt table index value i = table i := if_neg ne

end setAt

/-- The first bytes of `response_data`. -/
def responseBytes (machine : Machine) (length : Nat) : Bytes :=
  (List.range length).map machine.responseData

/-- The library stores bytes at the start of `response_data`. -/
def storeResponse (bytes : Bytes) : MachineM Unit :=
  modify fun machine =>
    { machine with responseData := fun i => bytes.getD i (machine.responseData i) }

/-- The arguments of `sendResponse`; a missing text is an empty one. -/
structure Response where
  status : Nat
  data : Bytes := []
  metadata : Bytes := []
  queueDepth : Nat := 0
  overflow : Nat := 0
  error : Bytes := []

/-- The writer behind one more item, unless it has failed before. -/
def appendItem (writer : Option Bytes) (field : FieldId) (value : Bytes) : Option Bytes :=
  writer.bind fun written => TlvWriter.append written kMaxMessage field.toNat value

/-- The body that the writer holds after `sendResponse`, where `ok` stays true. -/
def responseBody (response : Response) (timestampUs : Nat) : Option Bytes :=
  let writer := appendItem (some []) .status (leBytes 2 response.status)
  let writer := if response.data.length ≠ 0 then appendItem writer .responseData response.data
    else writer
  let writer := if response.metadata ≠ [] then
      if response.metadata.length < kMaxMetadata then
        appendItem writer .metadataJson response.metadata
      else none
    else writer
  let writer := if response.queueDepth ≠ 0 then
      appendItem writer .queueDepth (leBytes 2 response.queueDepth)
    else writer
  let writer := if response.overflow ≠ 0 then
      appendItem writer .overflowCount (leBytes 4 response.overflow)
    else writer
  let writer := appendItem writer .timestampUs (leBytes 8 timestampUs)
  if response.error ≠ [] then appendItem writer .errorMessage (response.error.take 160) else writer

/-- The body of `fallback`. -/
def fallbackBody : Bytes :=
  (appendItem (appendItem (some []) .status (leBytes 2 kIoError)) .errorMessage
    (text "response exceeds bridge bounds")).getD []

/-- What `sendResponse` writes to `Serial`. -/
def responseMessage (requestId : Nat) (response : Response) (timestampUs : Nat) : Bytes :=
  match responseBody response timestampUs with
  | none => sendMessage requestId ERROR_RESPONSE fallbackBody
  | some body =>
    sendMessage requestId (if response.status = 0 then RESPONSE else ERROR_RESPONSE) body

def timestampUs (machine : Machine) : Nat := machine.board.micros

def sendResponse (requestId : Nat) (response : Response) : BridgeM Unit :=
  modify fun bridge =>
    { bridge with
      serial := bridge.serial ++ responseMessage requestId response (timestampUs bridge.machine) }

def sendError (requestId status : Nat) (error : String) : BridgeM Unit :=
  sendResponse requestId { status := status, metadata := text "{}", error := text error }

/-- A success without data. -/
def sendOk (requestId : Nat) (metadata : Bytes) : BridgeM Unit :=
  sendResponse requestId { status := kStatusOk, metadata := metadata }

/-- A success with the first bytes of `response_data`. -/
def sendData (requestId length : Nat) (metadata : Bytes) : BridgeM Unit := do
  let bridge ← get
  sendResponse requestId
    { status := kStatusOk
      data := responseBytes bridge.machine length
      metadata := metadata }

/-- `receive_queue.push(protocol, channel, data, length, timestampUs())` -/
def pushReceived (protocol channel : Nat) (payload : Bytes) : MachineM Unit :=
  modify fun machine =>
    let record : QueueRecord :=
      { channel := UInt8.ofNat channel
        payload := payload.take (payload.length % 2 ^ 16)
        timestampUs := UInt64.ofNat (timestampUs machine)
        short := by
          rw [List.length_take]
          omega }
    { machine with receiveQueue := (machine.receiveQueue.push protocol record).1 }

/-- What the sketch does to its variables. -/
def update (f : Machine → Machine) : BridgeM Unit := liftM (modify f : MachineM Unit)

/-- A program on the hardware alone. -/
def onBoard {α : Type} (program : BoardM α) : BridgeM α := (machineOf.comp boardOf).run program

def getMachine : BridgeM Machine := do return (← get).machine

end JLinkMcp.Firmware
