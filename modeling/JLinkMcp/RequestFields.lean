import JLinkMcp.FirmwareFields
import JLinkMcp.HostService

namespace JLinkMcp

open Codec Host

/-- The value of a field as the request means it. -/
inductive FieldValue where
  | number (n : Nat)
  | bytes (value : Bytes)

/-- The bytes of a number in the field. -/
def fieldSize : Firmware.FieldId → Nat
  | .operation | .vid | .pid | .value | .index | .networkPort | .localPort | .limit | .pin
  | .chipSelect => 2
  | .readLength | .clockHz | .baudrate | .canBitrate | .canId | .durationUs | .timeoutMs
  | .scanDurationMs => 4
  | _ => 1

def fieldItem : Firmware.FieldId × FieldValue → Tlv
  | (field, .number n) => (field.toNat, leBytes (fieldSize field) n)
  | (field, .bytes value) => (field.toNat, value)

namespace Host

/-- The bytes of a payload field. -/
def PayloadField.payload {maximum : Nat} (field : PayloadField maximum) : Bytes :=
  match decodeCanonicalBase64 field.val maxApplicationPayload with
  | .ok payload => payload
  | .error _ => []

def BridgeProtocol.number : BridgeProtocol → Nat
  | .spi => 0 | .i2c => 1 | .uart => 2 | .can => 3 | .usb => 4 | .wifi => 5 | .ble => 6 | .gpio => 7

def BitOrder.number : BitOrder → Nat
  | .msbFirst => 0 | .lsbFirst => 1

def UartParity.number : UartParity → Nat
  | .none => 0 | .even => 1 | .odd => 2

def GpioMode.number : GpioMode → Nat
  | .input => 0 | .output => 1

def GpioPull.number : GpioPull → Nat
  | .none => 0 | .up => 1 | .down => 2

def GpioEdge.number : GpioEdge → Nat
  | .none => 0 | .rising => 1 | .falling => 2 | .change => 3

def SocketProtocol.number : SocketProtocol → Nat
  | .tcp => 0 | .udp => 1

def UsbTransferType.number : UsbTransferType → Nat
  | .control => 0 | .bulk => 1 | .interrupt => 2

def BleWriteMode.number : BleWriteMode → Nat
  | .withResponse => 0 | .withoutResponse => 1

def BridgeRequest.operation : BridgeRequest → Firmware.Operation
  | .status => .getStatus
  | .receive _ => .receive
  | .control (.uartConfigure _) => .uartConfigure
  | .control (.canConfigure _) => .canConfigure
  | .control .usbEnumerate => .usbEnumerate
  | .control (.usbSelect _) => .usbSelect
  | .control .usbReset => .usbReset
  | .control .usbRelease => .usbRelease
  | .control (.wifiConnect _) => .wifiConnect
  | .control .wifiDisconnect => .wifiDisconnect
  | .control (.wifiSocketOpen _) => .wifiSocketOpen
  | .control (.wifiSocketClose _) => .wifiSocketClose
  | .control (.bleScan _) => .bleScan
  | .control (.bleConnect _) => .bleConnect
  | .control .bleDisconnect => .bleDisconnect
  | .control (.blePair _) => .blePair
  | .control (.bleDiscover _) => .bleDiscover
  | .control (.bleSubscribe _) => .bleSubscribe
  | .control (.gpioConfigure _) => .gpioConfigure
  | .control (.gpioWatch _) => .gpioWatch
  | .exchange (.spiExchange _) => .spiExchange
  | .exchange (.i2cExchange _) => .i2cExchange
  | .exchange (.uartWrite _) => .uartWrite
  | .exchange (.canSend _) => .canSend
  | .exchange (.usbTransfer _) => .usbTransfer
  | .exchange (.wifiSend _) => .wifiSend
  | .exchange (.bleRead _) => .bleRead
  | .exchange (.bleWrite _) => .bleWrite
  | .exchange (.gpioRead _) => .gpioRead
  | .exchange (.gpioWrite _) => .gpioWrite
  | .exchange (.gpioPulse _) => .gpioPulse

end Host

/-- A field of the request that may be `None`. -/
def optionalField (field : Firmware.FieldId) : Option FieldValue → List (Firmware.FieldId × FieldValue)
  | none => []
  | some value => [(field, value)]

namespace FieldValue

def ofNat {P : Nat → Prop} (n : Subtype P) : FieldValue := number n.val

def ofBool (b : Bool) : FieldValue := number b.toNat

def ofText {P : PyStr → Prop} (text : Subtype P) : FieldValue := bytes (utf8 text.val)

/-- The UTF-8 text of a secret. -/
def ofSecret (secrets : PyDict) (name : String) : Option FieldValue :=
  match secrets.lookup name with
  | some (.str text) => some (bytes (utf8 text))
  | _ => none

end FieldValue

open FieldValue

/-- The firmware field of every value a control request carries, in the order of the model. -/
def controlFields (secrets : PyDict) : ControlRequest → List (Firmware.FieldId × FieldValue)
  | .uartConfigure r => [(.uartPort, ofNat r.port), (.baudrate, ofNat r.baudrate),
      (.dataBits, ofNat r.dataBits), (.parity, number r.parity.number),
      (.stopBits, ofNat r.stopBits)]
  | .canConfigure r => [(.bus, ofNat r.bus), (.canBitrate, ofNat r.bitrate)]
  | .usbEnumerate | .usbReset | .usbRelease | .wifiDisconnect | .bleDisconnect => []
  | .usbSelect r => [(.vid, ofNat r.vendorId), (.pid, ofNat r.productId)] ++
      optionalField .serialNumber (r.serial.map ofText) ++
      optionalField .usbInterface (r.interfaceNumber.map ofNat)
  | .wifiConnect r => [(.profile, ofText r.profile)] ++
      optionalField .ssid (ofSecret secrets "ssid") ++
      optionalField .password (ofSecret secrets "password")
  | .wifiSocketOpen r => [(.socketProtocol, number r.protocol.number), (.host, ofText r.host)] ++
      optionalField .localPort (r.localPort.map ofNat) ++ [(.networkPort, ofNat r.port)]
  | .wifiSocketClose r => [(.socketId, ofNat r.socketId)]
  | .bleScan r => [(.scanDurationMs, ofNat r.durationMs)] ++
      optionalField .serviceUuid (r.serviceUuid.map ofText)
  | .bleConnect r => [(.bleAddress, ofText r.address)]
  | .blePair _ => optionalField .passkey (ofSecret secrets "passkey")
  | .bleDiscover r => optionalField .serviceUuid (r.serviceUuid.map ofText)
  | .bleSubscribe r => [(.serviceUuid, ofText r.serviceUuid),
      (.characteristicUuid, ofText r.characteristicUuid), (.enabled, ofBool r.enabled)]
  | .gpioConfigure r => [(.pin, number r.pin.number), (.pull, number r.pull.number)] ++
      optionalField .initialValue (r.initialValue.map ofBool) ++
      [(.gpioMode, number r.mode.number)]
  | .gpioWatch r => [(.pin, number r.pin.number), (.edge, number r.edge.number)]

def exchangeFields : ExchangeRequest → List (Firmware.FieldId × FieldValue)
  | .spiExchange r => [(.data, bytes r.dataBase64.payload), (.bus, ofNat r.bus),
      (.chipSelect, number r.chipSelect.number), (.clockHz, ofNat r.clockHz),
      (.mode, ofNat r.mode), (.bitOrder, number r.bitOrder.number),
      (.fillByte, ofNat r.fillByte), (.readLength, ofNat r.readLength)]
  | .i2cExchange r => [(.data, bytes r.dataBase64.payload), (.bus, ofNat r.bus),
      (.i2cAddress, ofNat r.address), (.readLength, ofNat r.readLength),
      (.repeatedStart, ofBool r.repeatedStart), (.clockHz, ofNat r.clockHz)]
  | .uartWrite r => [(.data, bytes r.dataBase64.payload), (.uartPort, ofNat r.port)]
  | .canSend r => [(.data, bytes r.dataBase64.payload), (.bus, ofNat r.bus),
      (.canId, ofNat r.arbitrationId), (.canExtended, ofBool r.extended)]
  | .usbTransfer r => [(.data, bytes r.dataBase64.payload),
      (.transferType, number r.transferType.number), (.endpoint, ofNat r.endpoint),
      (.readLength, ofNat r.readLength)] ++
      optionalField .requestType (r.requestType.map ofNat) ++
      optionalField .requestCode (r.request.map ofNat) ++
      optionalField .value (r.value.map ofNat) ++ optionalField .index (r.index.map ofNat)
  | .wifiSend r => [(.data, bytes r.dataBase64.payload), (.socketId, ofNat r.socketId)]
  | .bleRead r => [(.serviceUuid, ofText r.serviceUuid),
      (.characteristicUuid, ofText r.characteristicUuid)]
  | .bleWrite r => [(.data, bytes r.dataBase64.payload), (.serviceUuid, ofText r.serviceUuid),
      (.characteristicUuid, ofText r.characteristicUuid), (.writeMode, number r.writeMode.number)]
  | .gpioRead r => [(.pin, number r.pin.number)]
  | .gpioWrite r => [(.pin, number r.pin.number), (.gpioValue, ofBool r.value)]
  | .gpioPulse r => [(.pin, number r.pin.number), (.durationUs, ofNat r.durationUs),
      (.gpioValue, ofBool r.value)]

def requestFields (secrets : PyDict) : BridgeRequest → List (Firmware.FieldId × FieldValue)
  | .status => []
  | .control request => controlFields secrets request
  | .exchange request => exchangeFields request
  | .receive r => [(.protocol, number r.protocol.val.number), (.channel, ofNat r.channel),
      (.limit, ofNat r.limit), (.drain, ofBool r.drain), (.timeoutMs, ofNat r.timeoutMs)]

attribute [simp] fieldSize controlFields exchangeFields requestFields

/-- The body that a row of fields makes. -/
def fieldsBody (operation : Firmware.Operation) (fields : List (Firmware.FieldId × FieldValue)) :
    List Tlv :=
  (Firmware.FieldId.operation.toNat, leBytes 2 operation.toNat) :: fields.map fieldItem

def requestItems (secrets : PyDict) (request : BridgeRequest) : List Tlv :=
  fieldsBody request.operation (requestFields secrets request)

/-- A request that `encode_request_body` can write: `ble_connect` never, `wifi_socket_open` without
a local port, and no secret with a lone surrogate. -/
def Encodable (secrets : PyDict) : BridgeRequest → Prop
  | .control (.bleConnect _) => False
  | .control (.wifiSocketOpen r) => r.localPort = none
  | _ => ∀ item ∈ secrets, ∀ text, item.2 = .str text → text.all isScalar = true

end JLinkMcp
