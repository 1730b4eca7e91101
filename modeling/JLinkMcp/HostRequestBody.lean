import JLinkMcp.CodecTlv
import JLinkMcp.HostMessage
import JLinkMcp.HostModels

namespace JLinkMcp.Host

open Codec

/-- `OPERATIONS` -/
def operations : List (String × Nat) :=
  [("get_status", 1), ("receive", 2), ("uart_configure", 10), ("can_configure", 11),
    ("usb_enumerate", 12), ("usb_select", 13), ("usb_reset", 14), ("usb_release", 15),
    ("wifi_connect", 16), ("wifi_disconnect", 17), ("wifi_socket_open", 18),
    ("wifi_socket_close", 19), ("ble_scan", 20), ("ble_connect", 21), ("ble_disconnect", 22),
    ("ble_pair", 23), ("ble_discover", 24), ("ble_subscribe", 25), ("gpio_configure", 26),
    ("gpio_watch", 27), ("spi_exchange", 40), ("i2c_exchange", 41), ("uart_write", 42),
    ("can_send", 43), ("usb_transfer", 44), ("wifi_send", 45), ("ble_read", 46), ("ble_write", 47),
    ("gpio_read", 48), ("gpio_write", 49), ("gpio_pulse", 50)]

inductive FieldId where
  | operation | protocol | bus | uartPort | data | readLength | clockHz | mode | bitOrder
  | chipSelect | fillByte | i2cAddress | repeatedStart | baudrate | dataBits | parity | stopBits
  | canBitrate | canId | canExtended | vid | pid | serial | usbInterface | endpoint
  | transferType | requestType | request | value | index | profile | host | networkPort
  | socketId | socketProtocol | bleAddress | serviceUuid | characteristicUuid | writeMode
  | pin | gpioMode | gpioValue | pull | edge | durationUs | limit | drain | timeoutMs | channel
  | scanDurationMs | passkey | ssid | password | localPort | enabled | initialValue
  | status | responseData | metadataJson | queueDepth | overflowCount | timestampUs | errorMessage
  deriving DecidableEq, Repr

/-- `int(field)` -/
def FieldId.toNat : FieldId → Nat
  | operation => 1 | protocol => 2 | bus => 3 | uartPort => 4 | data => 5 | readLength => 6
  | clockHz => 7 | mode => 8 | bitOrder => 9 | chipSelect => 10 | fillByte => 11
  | i2cAddress => 12 | repeatedStart => 13 | baudrate => 14 | dataBits => 15 | parity => 16
  | stopBits => 17 | canBitrate => 18 | canId => 19 | canExtended => 20 | vid => 21 | pid => 22
  | serial => 23 | usbInterface => 24 | endpoint => 25 | transferType => 26 | requestType => 27
  | request => 28 | value => 29 | index => 30 | profile => 31 | host => 32 | networkPort => 33
  | socketId => 34 | socketProtocol => 35 | bleAddress => 36 | serviceUuid => 37
  | characteristicUuid => 38 | writeMode => 39 | pin => 40 | gpioMode => 41 | gpioValue => 42
  | pull => 43 | edge => 44 | durationUs => 45 | limit => 46 | drain => 47 | timeoutMs => 48
  | channel => 49 | scanDurationMs => 50 | passkey => 51 | ssid => 52 | password => 53
  | localPort => 54 | enabled => 55 | initialValue => 56 | status => 0x8001
  | responseData => 0x8002 | metadataJson => 0x8003 | queueDepth => 0x8004
  | overflowCount => 0x8005 | timestampUs => 0x8006 | errorMessage => 0x8007

/-- `FIELD_NAMES` -/
def fieldNames : List (String × FieldId) :=
  [("protocol", .protocol), ("bus", .bus), ("port", .uartPort), ("data_base64", .data),
    ("read_length", .readLength), ("clock_hz", .clockHz), ("mode", .mode),
    ("bit_order", .bitOrder), ("chip_select", .chipSelect), ("fill_byte", .fillByte),
    ("address", .i2cAddress), ("repeated_start", .repeatedStart), ("baudrate", .baudrate),
    ("data_bits", .dataBits), ("parity", .parity), ("stop_bits", .stopBits),
    ("bitrate", .canBitrate), ("arbitration_id", .canId), ("extended", .canExtended),
    ("vendor_id", .vid), ("product_id", .pid), ("serial", .serial),
    ("interface_number", .usbInterface), ("endpoint", .endpoint),
    ("transfer_type", .transferType), ("request_type", .requestType), ("request", .request),
    ("value", .value), ("index", .index), ("profile", .profile), ("host", .host),
    ("socket_id", .socketId), ("write_mode", .writeMode), ("service_uuid", .serviceUuid),
    ("characteristic_uuid", .characteristicUuid), ("pin", .pin), ("pull", .pull),
    ("edge", .edge), ("duration_us", .durationUs), ("limit", .limit), ("drain", .drain),
    ("timeout_ms", .timeoutMs), ("channel", .channel), ("duration_ms", .scanDurationMs),
    ("enabled", .enabled), ("initial_value", .initialValue)]

/-- `_ENUM_VALUES` -/
def enumValues : List (String × List (String × Nat)) :=
  [("protocol", [("spi", 0), ("i2c", 1), ("uart", 2), ("can", 3), ("usb", 4), ("wifi", 5),
      ("ble", 6), ("gpio", 7)]),
    ("bit_order", [("msb_first", 0), ("lsb_first", 1)]),
    ("parity", [("none", 0), ("even", 1), ("odd", 2)]),
    ("transfer_type", [("control", 0), ("bulk", 1), ("interrupt", 2)]),
    ("write_mode", [("with_response", 0), ("without_response", 1)]),
    ("pull", [("none", 0), ("up", 1), ("down", 2)]),
    ("edge", [("none", 0), ("rising", 1), ("falling", 2), ("change", 3)]),
    ("mode", [("input", 0), ("output", 1)]),
    ("protocol_socket", [("tcp", 0), ("udp", 1)])]

def u8Fields : List String :=
  ["bus", "port", "mode", "bit_order", "fill_byte", "address", "data_bits", "parity", "stop_bits",
    "extended", "interface_number", "endpoint", "transfer_type", "request_type", "request",
    "socket_id", "write_mode", "pull", "edge", "channel", "drain", "enabled", "initial_value",
    "value_gpio", "repeated_start", "protocol"]

def u16Fields : List String :=
  ["vendor_id", "product_id", "value", "index", "port_network", "local_port", "limit", "pin",
    "chip_select"]

def u32Fields : List String :=
  ["read_length", "clock_hz", "baudrate", "bitrate", "arbitration_id", "duration_us",
    "timeout_ms", "duration_ms"]

/-- The loop of `encode_tlvs`. -/
def encodeTlvsFrom (seen : List Nat) (output : Bytes) : List Tlv → Except PyError Bytes
  | [] =>
    if output.length > maxBridgePayload then .error (.bridgeWire "TLV body exceeds 64 KiB")
    else .ok output
  | (kind, value) :: items =>
    if kind ∈ seen then .error (.bridgeWire s!"duplicate TLV type: {kind}")
    else if kind > 0xFFFF ∨ value.length > 0xFFFF then
      .error (.bridgeWire "TLV type or value is outside uint16 bounds")
    else encodeTlvsFrom (kind :: seen)
      (output ++ leBytes 2 kind ++ leBytes 2 value.length ++ value) items

def encodeTlvs (items : List Tlv) : Except PyError Bytes := encodeTlvsFrom [] [] items

def showStr (text : PyStr) : String := String.ofList (text.map fun c => Char.ofNat c.val)

/-- `int(text)` for a text of digits -/
def intOfDigits (text : PyStr) : Nat := text.foldl (fun n c => n * 10 + (c.val - 48)) 0

/-- `isdigit` is read as ASCII digits: every label comes from `validate_safe_pin`. -/
def pinNumber : PyValue → Except PyError Int
  | .str value =>
    if value.head? ≠ some 68 ∨ value.tail = [] ∨ ¬value.tail.all isDigitChar then
      .error (.bridgeWire s!"invalid Arduino pin label: {showStr value}")
    else .ok (intOfDigits value.tail)
  | _ => .error (.attributeError "startswith")

/-- `struct.pack` of one little-endian unsigned number -/
def structPack (width : Nat) : PyValue → Except PyError Bytes
  | .int n =>
    if 0 ≤ n ∧ n.toNat < 256 ^ width then .ok (leBytes width n.toNat)
    else .error (.structError "format requires a number in range")
  | .bool b => .ok (leBytes width b.toNat)
  | .str _ => .error (.structError "required argument is not an integer")

/-- The member of an enumeration that a text of the field names, as a number. -/
def enumNumber (field enumMapName : String) : PyValue → Except PyError PyValue
  | .str text =>
    match enumValues.lookup enumMapName with
    | none => .ok (.str text)
    | some mapping =>
      match mapping.find? fun item => PyStr.ofString item.1 = text with
      | some item => .ok (.ofNat item.2)
      | none => .error (.bridgeWire s!"unsupported {field} value: {showStr text}")
  | value => .ok value

def enumMapName (field : String) (value : PyValue) : String :=
  if field = "protocol" ∧ (value = .ofString "tcp" ∨ value = .ofString "udp") then "protocol_socket"
  else field

/-- The part of `_scalar` behind the two lookups. -/
def packScalar (field : String) : PyValue → Except PyError Bytes
  | .bool b => .ok (leBytes 1 b.toNat)
  | value =>
    if field ∈ u8Fields then structPack 1 value
    else if field ∈ u16Fields then structPack 2 value
    else if field ∈ u32Fields then structPack 4 value
    else match value with
      | .str text => (encodeUtf8 text).bind fun encoded =>
        if encoded.length > 1024 then .error (.bridgeWire s!"{field} string is too long")
        else .ok encoded
      | value => (structPack 4 value).mapError fun _ =>
          .bridgeWire s!"{field} integer is outside uint32"

def scalar (field : String) (value : PyValue) : Except PyError Bytes :=
  (if field = "pin" ∨ field = "chip_select" then PyValue.int <$> pinNumber value
    else .ok value).bind fun value =>
  (enumNumber field (enumMapName field value) value).bind fun value =>
  packScalar field value

/-- The `if` chain that gives a field of the request its number. -/
def fieldIdOf (operationName name : String) : Except PyError FieldId :=
  if name = "port_network" then .ok .networkPort
  else if name = "value_gpio" then .ok .gpioValue
  else if name = "mode" ∧ operationName = "gpio_configure" then .ok .gpioMode
  else if name = "address" ∧ operationName = "ble_connect" then .ok .bleAddress
  else if name = "protocol" ∧ operationName = "wifi_socket_open" then .ok .socketProtocol
  else if name = "ssid" then .ok .ssid
  else if name = "password" then .ok .password
  else if name = "passkey" then .ok .passkey
  else match fieldNames.lookup name with
    | some fieldId => .ok fieldId
    | none => .error (.bridgeWire s!"wire field is not assigned: {name}")

def encodeValue (name : String) : PyValue → Except PyError Bytes
  | .str text => if name = "data_base64" then decodeCanonicalBase64 text maxBridgePayload
    else scalar name (.str text)
  | value => if name = "data_base64" then
      .error (.typeError "argument should be a bytes-like object or ASCII string")
    else scalar name value

/-- The loop over `values.items()`. -/
def encodeItems (operationName : String) : PyDict → Except PyError (List Tlv)
  | [] => .ok []
  | (name, value) :: values =>
    -- Profile names are audited but only the resolved passkey is sent.
    if name = "passkey_profile" then encodeItems operationName values
    else (fieldIdOf operationName name).bind fun fieldId =>
      (encodeValue name value).bind fun encoded =>
      (encodeItems operationName values).bind fun items =>
      .ok ((fieldId.toNat, encoded) :: items)

/-- The operation's name, and the values left after it is taken. -/
def operationOf (values : PyDict) : Option String → PyValue × PyDict
  | some operation => (.ofString operation, values)
  | none => match values.lookup "operation" with
    | some operation => (operation, values.filter fun item => item.1 ≠ "operation")
    | none =>
      (.ofString (if (values.lookup "protocol").isSome then "receive" else "get_status"), values)

def showValue : PyValue → String
  | .str text => showStr text
  | .int n => toString n
  | .bool b => if b then "True" else "False"

/-- `values[newName] = values.pop(name)` -/
def PyDict.rename (values : PyDict) (name newName : String) : Except PyError PyDict :=
  (values.pop name).map fun (value, values) => values.set newName value

/-- The fields that some operations send under another name. -/
def renamedValues (operationName : String) (values : PyDict) : Except PyError PyDict :=
  if operationName = "wifi_socket_open" then values.rename "port" "port_network"
  else if operationName = "gpio_write" ∨ operationName = "gpio_pulse" then
    values.rename "value" "value_gpio"
  else if operationName = "gpio_configure" then values.rename "mode" "mode"
  else .ok values

def encodeRequestBody (values : PyDict) (operation : Option String) (secrets : PyDict) :
    Except PyError Bytes :=
  let (operationName, values) := operationOf values operation
  match operations.find? fun item => PyValue.ofString item.1 = operationName with
  | none => .error (.bridgeWire s!"unknown bridge operation: {showValue operationName}")
  | some (operationName, operationCode) =>
    (renamedValues operationName values).bind fun values =>
    (encodeItems operationName (values.update secrets)).bind fun items =>
    encodeTlvs ((FieldId.operation.toNat, leBytes 2 operationCode) :: items)

end JLinkMcp.Host
