import JLinkMcp.HostBase64
import JLinkMcp.HostFrame

namespace JLinkMcp.Host

/-- `str(n)` -/
def decimal (n : Nat) : PyStr := (Nat.toDigits 10 n).map fun c => Fin.ofNat 0x110000 c.toNat

/-- An integer field with both bounds. -/
abbrev BoundedInt (lower upper : Nat) := { n : Nat // lower ≤ n ∧ n ≤ upper }

/-- A `Literal` of integers. -/
abbrev LiteralInt (values : List Nat) := { n : Nat // n ∈ values }

/-- A text with bounds on its length; validating it refuses surrogates. -/
abbrev TextField (lower upper : Nat) :=
  { text : PyStr // text.all isScalar = true ∧ lower ≤ text.length ∧ text.length ≤ upper }

/-- `[A-Za-z0-9_.-]` -/
def isProfileChar (c : CodePoint) : Bool :=
  (65 ≤ c.val && c.val ≤ 90) || (97 ≤ c.val && c.val ≤ 122) || (48 ≤ c.val && c.val ≤ 57) ||
    c.val == 95 || c.val == 46 || c.val == 45

abbrev ProfileName :=
  { text : PyStr // text.all isProfileChar = true ∧ 1 ≤ text.length ∧ text.length ≤ 64 }

/-- `[0-9A-Fa-f]` -/
def isHexChar (c : CodePoint) : Bool :=
  (48 ≤ c.val && c.val ≤ 57) || (65 ≤ c.val && c.val ≤ 70) || (97 ≤ c.val && c.val ≤ 102)

/-- `^(?:[0-9A-Fa-f]{2}:){5}[0-9A-Fa-f]{2}$` -/
def isBleAddress : PyStr → Bool
  | [high, low] => isHexChar high && isHexChar low
  | high :: low :: colon :: rest =>
    isHexChar high && isHexChar low && colon.val == 58 && isBleAddress rest
  | _ => false

abbrev BleAddress := { text : PyStr // isBleAddress text = true ∧ text.length = 17 }

/-- `f"D{pin}"` -/
def pinLabel (pin : Nat) : PyStr := 68 :: decimal pin

def safeGpioPins : List PyStr := (List.range' 2 9 ++ List.range' 22 64).map pinLabel

/-- What `validate_safe_pin` returns. -/
abbrev SafePin := { label : PyStr // label ∈ safeGpioPins }

/-- A text that `validate_payload` accepts and whose payload has at most the given size. -/
abbrev PayloadField (maximum : Nat) :=
  { text : PyStr // ∃ payload, decodeCanonicalBase64 text maxApplicationPayload = .ok payload ∧
    payload.length ≤ maximum }

inductive BridgeProtocol where
  | spi | i2c | uart | can | usb | wifi | ble | gpio
  deriving DecidableEq, Repr

inductive BitOrder where
  | msbFirst | lsbFirst
  deriving DecidableEq, Repr

inductive UartParity where
  | none | even | odd
  deriving DecidableEq, Repr

inductive GpioMode where
  | input | output
  deriving DecidableEq, Repr

inductive GpioPull where
  | none | up | down
  deriving DecidableEq, Repr

inductive GpioEdge where
  | none | rising | falling | change
  deriving DecidableEq, Repr

inductive SocketProtocol where
  | tcp | udp
  deriving DecidableEq, Repr

inductive UsbTransferType where
  | control | bulk | interrupt
  deriving DecidableEq, Repr

inductive BleWriteMode where
  | withResponse | withoutResponse
  deriving DecidableEq, Repr

def BridgeProtocol.value : BridgeProtocol → String
  | .spi => "spi" | .i2c => "i2c" | .uart => "uart" | .can => "can"
  | .usb => "usb" | .wifi => "wifi" | .ble => "ble" | .gpio => "gpio"

def BitOrder.value : BitOrder → String
  | .msbFirst => "msb_first" | .lsbFirst => "lsb_first"

def UartParity.value : UartParity → String
  | .none => "none" | .even => "even" | .odd => "odd"

def GpioMode.value : GpioMode → String
  | .input => "input" | .output => "output"

def GpioPull.value : GpioPull → String
  | .none => "none" | .up => "up" | .down => "down"

def GpioEdge.value : GpioEdge → String
  | .none => "none" | .rising => "rising" | .falling => "falling" | .change => "change"

def SocketProtocol.value : SocketProtocol → String
  | .tcp => "tcp" | .udp => "udp"

def UsbTransferType.value : UsbTransferType → String
  | .control => "control" | .bulk => "bulk" | .interrupt => "interrupt"

def BleWriteMode.value : BleWriteMode → String
  | .withResponse => "with_response" | .withoutResponse => "without_response"

structure UartConfigureRequest where
  port : BoundedInt 0 3
  baudrate : BoundedInt 50 4000000
  dataBits : LiteralInt [7, 8] := ⟨8, by decide⟩
  parity : UartParity := .none
  stopBits : LiteralInt [1, 2] := ⟨1, by decide⟩

structure CanConfigureRequest where
  bus : BoundedInt 0 1
  bitrate : LiteralInt [125000, 250000, 500000, 1000000]

structure UsbSelectRequest where
  vendorId : BoundedInt 0 0xFFFF
  productId : BoundedInt 0 0xFFFF
  serial : Option (TextField 1 126) := none
  interfaceNumber : Option (BoundedInt 0 255) := none

structure WifiConnectRequest where
  profile : ProfileName

structure WifiSocketOpenRequest where
  protocol : SocketProtocol
  host : TextField 1 253
  port : BoundedInt 1 65535
  localPort : Option (BoundedInt 1 65535) := none

structure WifiSocketCloseRequest where
  socketId : BoundedInt 0 7

structure BleScanRequest where
  durationMs : BoundedInt 100 30000 := ⟨3000, by decide⟩
  serviceUuid : Option (TextField 4 36) := none

structure BleConnectRequest where
  address : BleAddress

structure BlePairRequest where
  passkeyProfile : Option ProfileName := none

structure BleDiscoverRequest where
  serviceUuid : Option (TextField 4 36) := none

structure BleSubscribeRequest where
  serviceUuid : TextField 4 36
  characteristicUuid : TextField 4 36
  enabled : Bool := true

structure GpioConfigureRequest where
  pin : SafePin
  mode : GpioMode
  pull : GpioPull := .none
  initialValue : Option Bool := none
  /-- `validate_configuration` -/
  outputPull : mode = .output → pull = .none
  inputInitial : mode = .input → initialValue = none

structure GpioWatchRequest where
  pin : SafePin
  edge : GpioEdge

/-- The variants of `ProtocolBridgeControlRequest`. -/
inductive ControlRequest where
  | uartConfigure (request : UartConfigureRequest)
  | canConfigure (request : CanConfigureRequest)
  | usbEnumerate
  | usbSelect (request : UsbSelectRequest)
  | usbReset
  | usbRelease
  | wifiConnect (request : WifiConnectRequest)
  | wifiDisconnect
  | wifiSocketOpen (request : WifiSocketOpenRequest)
  | wifiSocketClose (request : WifiSocketCloseRequest)
  | bleScan (request : BleScanRequest)
  | bleConnect (request : BleConnectRequest)
  | bleDisconnect
  | blePair (request : BlePairRequest)
  | bleDiscover (request : BleDiscoverRequest)
  | bleSubscribe (request : BleSubscribeRequest)
  | gpioConfigure (request : GpioConfigureRequest)
  | gpioWatch (request : GpioWatchRequest)

structure SpiExchangeRequest where
  dataBase64 : PayloadField maxApplicationPayload := ⟨[], [], by decide, by decide⟩
  bus : BoundedInt 0 1
  chipSelect : SafePin
  clockHz : BoundedInt 1000 50000000 := ⟨1000000, by decide⟩
  mode : LiteralInt [0, 1, 2, 3] := ⟨0, by decide⟩
  bitOrder : BitOrder := .msbFirst
  fillByte : BoundedInt 0 255 := ⟨0xFF, by decide⟩
  readLength : BoundedInt 0 maxApplicationPayload := ⟨0, by decide⟩

structure I2cExchangeRequest where
  dataBase64 : PayloadField 32 := ⟨[], [], by decide, by decide⟩
  bus : LiteralInt [0, 1]
  address : BoundedInt 0x08 0x77
  readLength : BoundedInt 0 32 := ⟨0, by decide⟩
  repeatedStart : Bool := true
  clockHz : LiteralInt [100000, 400000] := ⟨100000, by decide⟩

structure UartWriteRequest where
  dataBase64 : PayloadField maxApplicationPayload := ⟨[], [], by decide, by decide⟩
  port : BoundedInt 0 3

structure CanSendRequest where
  dataBase64 : PayloadField 8 := ⟨[], [], by decide, by decide⟩
  bus : BoundedInt 0 1
  arbitrationId : BoundedInt 0 0x1FFFFFFF
  extended : Bool := false
  standardId : extended = false → arbitrationId.val ≤ 0x7FF

structure UsbTransferRequest where
  dataBase64 : PayloadField maxApplicationPayload := ⟨[], [], by decide, by decide⟩
  transferType : UsbTransferType
  endpoint : BoundedInt 0 0x8F := ⟨0, by decide⟩
  readLength : BoundedInt 0 maxApplicationPayload := ⟨0, by decide⟩
  requestType : Option (BoundedInt 0 255) := none
  request : Option (BoundedInt 0 255) := none
  value : Option (BoundedInt 0 0xFFFF) := none
  index : Option (BoundedInt 0 0xFFFF) := none
  /-- `validate_usb_transfer` -/
  controlSetup : transferType = .control →
    requestType.isSome ∧ request.isSome ∧ value.isSome ∧ index.isSome ∧ endpoint.val = 0
  otherSetup : transferType ≠ .control →
    requestType = none ∧ request = none ∧ value = none ∧ index = none
  interruptLength : transferType = .interrupt → readLength.val ≤ 4096

structure WifiSendRequest where
  dataBase64 : PayloadField maxApplicationPayload := ⟨[], [], by decide, by decide⟩
  socketId : BoundedInt 0 7

structure BleReadRequest where
  serviceUuid : TextField 4 36
  characteristicUuid : TextField 4 36

structure BleWriteRequest where
  dataBase64 : PayloadField maxApplicationPayload := ⟨[], [], by decide, by decide⟩
  serviceUuid : TextField 4 36
  characteristicUuid : TextField 4 36
  writeMode : BleWriteMode := .withResponse

structure GpioReadRequest where
  pin : SafePin

structure GpioWriteRequest where
  pin : SafePin
  value : Bool

structure GpioPulseRequest where
  pin : SafePin
  value : Bool
  durationUs : BoundedInt 1 1000000

/-- The variants of `ProtocolBridgeExchangeRequest`. -/
inductive ExchangeRequest where
  | spiExchange (request : SpiExchangeRequest)
  | i2cExchange (request : I2cExchangeRequest)
  | uartWrite (request : UartWriteRequest)
  | canSend (request : CanSendRequest)
  | usbTransfer (request : UsbTransferRequest)
  | wifiSend (request : WifiSendRequest)
  | bleRead (request : BleReadRequest)
  | bleWrite (request : BleWriteRequest)
  | gpioRead (request : GpioReadRequest)
  | gpioWrite (request : GpioWriteRequest)
  | gpioPulse (request : GpioPulseRequest)

/-- `ProtocolBridgeReceiveRequest` -/
structure ReceiveRequest where
  protocol : { protocol : BridgeProtocol // protocol ≠ .spi ∧ protocol ≠ .i2c }
  channel : BoundedInt 0 255 := ⟨0, by decide⟩
  limit : BoundedInt 1 maxApplicationPayload := ⟨4096, by decide⟩
  drain : Bool := true
  timeoutMs : BoundedInt 0 300000 := ⟨0, by decide⟩

/-- A secret is a Python string of any characters, only its length is checked. -/
structure WifiCredentialProfile where
  ssid : { text : PyStr // 1 ≤ text.length ∧ text.length ≤ 32 }
  password : { text : PyStr // 8 ≤ text.length ∧ text.length ≤ 63 }

/-- `[0-9]` -/
def isDigitChar (c : CodePoint) : Bool := 48 ≤ c.val && c.val ≤ 57

structure BlePasskeyProfile where
  passkey : { text : PyStr // text.all isDigitChar = true ∧ text.length = 6 }

structure ProtocolBridgeProfiles where
  wifi : List (PyStr × WifiCredentialProfile) := []
  blePasskeys : List (PyStr × BlePasskeyProfile) := []

/-- An item of `model_dump(exclude_none=True)`. -/
def dumpOptional (name : String) : Option PyValue → PyDict
  | none => []
  | some value => [(name, value)]

namespace PyValue

def ofNat (n : Nat) : PyValue := .int n

def ofText {P : PyStr → Prop} (text : Subtype P) : PyValue := .str text.val

def ofInt {P : Nat → Prop} (n : Subtype P) : PyValue := .int n.val

end PyValue

open PyValue

def UartConfigureRequest.modelDump (request : UartConfigureRequest) : PyDict :=
  [("operation", ofString "uart_configure"), ("port", ofInt request.port),
    ("baudrate", ofInt request.baudrate), ("data_bits", ofInt request.dataBits),
    ("parity", ofString request.parity.value), ("stop_bits", ofInt request.stopBits)]

def CanConfigureRequest.modelDump (request : CanConfigureRequest) : PyDict :=
  [("operation", ofString "can_configure"), ("bus", ofInt request.bus),
    ("bitrate", ofInt request.bitrate)]

def UsbSelectRequest.modelDump (request : UsbSelectRequest) : PyDict :=
  [("operation", ofString "usb_select"), ("vendor_id", ofInt request.vendorId),
    ("product_id", ofInt request.productId)] ++
    dumpOptional "serial" (request.serial.map ofText) ++
    dumpOptional "interface_number" (request.interfaceNumber.map ofInt)

def WifiConnectRequest.modelDump (request : WifiConnectRequest) : PyDict :=
  [("operation", ofString "wifi_connect"), ("profile", ofText request.profile)]

def WifiSocketOpenRequest.modelDump (request : WifiSocketOpenRequest) : PyDict :=
  [("operation", ofString "wifi_socket_open"), ("protocol", ofString request.protocol.value),
    ("host", ofText request.host), ("port", ofInt request.port)] ++
    dumpOptional "local_port" (request.localPort.map ofInt)

def WifiSocketCloseRequest.modelDump (request : WifiSocketCloseRequest) : PyDict :=
  [("operation", ofString "wifi_socket_close"), ("socket_id", ofInt request.socketId)]

def BleScanRequest.modelDump (request : BleScanRequest) : PyDict :=
  [("operation", ofString "ble_scan"), ("duration_ms", ofInt request.durationMs)] ++
    dumpOptional "service_uuid" (request.serviceUuid.map ofText)

def BleConnectRequest.modelDump (request : BleConnectRequest) : PyDict :=
  [("operation", ofString "ble_connect"), ("address", ofText request.address)]

def BlePairRequest.modelDump (request : BlePairRequest) : PyDict :=
  [("operation", ofString "ble_pair")] ++
    dumpOptional "passkey_profile" (request.passkeyProfile.map ofText)

def BleDiscoverRequest.modelDump (request : BleDiscoverRequest) : PyDict :=
  [("operation", ofString "ble_discover")] ++
    dumpOptional "service_uuid" (request.serviceUuid.map ofText)

def BleSubscribeRequest.modelDump (request : BleSubscribeRequest) : PyDict :=
  [("operation", ofString "ble_subscribe"), ("service_uuid", ofText request.serviceUuid),
    ("characteristic_uuid", ofText request.characteristicUuid), ("enabled", .bool request.enabled)]

def GpioConfigureRequest.modelDump (request : GpioConfigureRequest) : PyDict :=
  [("operation", ofString "gpio_configure"), ("pin", ofText request.pin),
    ("mode", ofString request.mode.value), ("pull", ofString request.pull.value)] ++
    dumpOptional "initial_value" (request.initialValue.map .bool)

def GpioWatchRequest.modelDump (request : GpioWatchRequest) : PyDict :=
  [("operation", ofString "gpio_watch"), ("pin", ofText request.pin),
    ("edge", ofString request.edge.value)]

def ControlRequest.modelDump : ControlRequest → PyDict
  | uartConfigure request => request.modelDump
  | canConfigure request => request.modelDump
  | usbEnumerate => [("operation", ofString "usb_enumerate")]
  | usbSelect request => request.modelDump
  | usbReset => [("operation", ofString "usb_reset")]
  | usbRelease => [("operation", ofString "usb_release")]
  | wifiConnect request => request.modelDump
  | wifiDisconnect => [("operation", ofString "wifi_disconnect")]
  | wifiSocketOpen request => request.modelDump
  | wifiSocketClose request => request.modelDump
  | bleScan request => request.modelDump
  | bleConnect request => request.modelDump
  | bleDisconnect => [("operation", ofString "ble_disconnect")]
  | blePair request => request.modelDump
  | bleDiscover request => request.modelDump
  | bleSubscribe request => request.modelDump
  | gpioConfigure request => request.modelDump
  | gpioWatch request => request.modelDump

def SpiExchangeRequest.modelDump (request : SpiExchangeRequest) : PyDict :=
  [("data_base64", ofText request.dataBase64), ("operation", ofString "spi_exchange"),
    ("bus", ofInt request.bus), ("chip_select", ofText request.chipSelect),
    ("clock_hz", ofInt request.clockHz), ("mode", ofInt request.mode),
    ("bit_order", ofString request.bitOrder.value), ("fill_byte", ofInt request.fillByte),
    ("read_length", ofInt request.readLength)]

def I2cExchangeRequest.modelDump (request : I2cExchangeRequest) : PyDict :=
  [("data_base64", ofText request.dataBase64), ("operation", ofString "i2c_exchange"),
    ("bus", ofInt request.bus), ("address", ofInt request.address),
    ("read_length", ofInt request.readLength), ("repeated_start", .bool request.repeatedStart),
    ("clock_hz", ofInt request.clockHz)]

def UartWriteRequest.modelDump (request : UartWriteRequest) : PyDict :=
  [("data_base64", ofText request.dataBase64), ("operation", ofString "uart_write"),
    ("port", ofInt request.port)]

def CanSendRequest.modelDump (request : CanSendRequest) : PyDict :=
  [("data_base64", ofText request.dataBase64), ("operation", ofString "can_send"),
    ("bus", ofInt request.bus), ("arbitration_id", ofInt request.arbitrationId),
    ("extended", .bool request.extended)]

def UsbTransferRequest.modelDump (request : UsbTransferRequest) : PyDict :=
  [("data_base64", ofText request.dataBase64), ("operation", ofString "usb_transfer"),
    ("transfer_type", ofString request.transferType.value), ("endpoint", ofInt request.endpoint),
    ("read_length", ofInt request.readLength)] ++
    dumpOptional "request_type" (request.requestType.map ofInt) ++
    dumpOptional "request" (request.request.map ofInt) ++
    dumpOptional "value" (request.value.map ofInt) ++
    dumpOptional "index" (request.index.map ofInt)

def WifiSendRequest.modelDump (request : WifiSendRequest) : PyDict :=
  [("data_base64", ofText request.dataBase64), ("operation", ofString "wifi_send"),
    ("socket_id", ofInt request.socketId)]

def BleReadRequest.modelDump (request : BleReadRequest) : PyDict :=
  [("operation", ofString "ble_read"), ("service_uuid", ofText request.serviceUuid),
    ("characteristic_uuid", ofText request.characteristicUuid)]

def BleWriteRequest.modelDump (request : BleWriteRequest) : PyDict :=
  [("data_base64", ofText request.dataBase64), ("operation", ofString "ble_write"),
    ("service_uuid", ofText request.serviceUuid),
    ("characteristic_uuid", ofText request.characteristicUuid),
    ("write_mode", ofString request.writeMode.value)]

def GpioReadRequest.modelDump (request : GpioReadRequest) : PyDict :=
  [("operation", ofString "gpio_read"), ("pin", ofText request.pin)]

def GpioWriteRequest.modelDump (request : GpioWriteRequest) : PyDict :=
  [("operation", ofString "gpio_write"), ("pin", ofText request.pin), ("value", .bool request.value)]

def GpioPulseRequest.modelDump (request : GpioPulseRequest) : PyDict :=
  [("operation", ofString "gpio_pulse"), ("pin", ofText request.pin), ("value", .bool request.value),
    ("duration_us", ofInt request.durationUs)]

def ExchangeRequest.modelDump : ExchangeRequest → PyDict
  | spiExchange request => request.modelDump
  | i2cExchange request => request.modelDump
  | uartWrite request => request.modelDump
  | canSend request => request.modelDump
  | usbTransfer request => request.modelDump
  | wifiSend request => request.modelDump
  | bleRead request => request.modelDump
  | bleWrite request => request.modelDump
  | gpioRead request => request.modelDump
  | gpioWrite request => request.modelDump
  | gpioPulse request => request.modelDump

def ReceiveRequest.modelDump (request : ReceiveRequest) : PyDict :=
  [("protocol", ofString request.protocol.val.value), ("channel", ofInt request.channel),
    ("limit", ofInt request.limit), ("drain", .bool request.drain),
    ("timeout_ms", ofInt request.timeoutMs)]

end JLinkMcp.Host
