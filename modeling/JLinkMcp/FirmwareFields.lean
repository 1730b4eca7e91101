import Mathlib.Data.Option.Basic
import JLinkMcp.FirmwareResources
import JLinkMcp.FirmwareTlv

namespace JLinkMcp.Firmware

inductive Operation where
  | getStatus | receive | uartConfigure | canConfigure | usbEnumerate | usbSelect | usbReset
  | usbRelease | wifiConnect | wifiDisconnect | wifiSocketOpen | wifiSocketClose | bleScan
  | bleConnect | bleDisconnect | blePair | bleDiscover | bleSubscribe | gpioConfigure | gpioWatch
  | spiExchange | i2cExchange | uartWrite | canSend | usbTransfer | wifiSend | bleRead | bleWrite
  | gpioRead | gpioWrite | gpioPulse
  deriving DecidableEq, Repr

/-- The number of an enumerator, and the enumerator of a `uint16_t`. -/
def Operation.toNat : Operation → Nat
  | getStatus => 1 | receive => 2 | uartConfigure => 10 | canConfigure => 11
  | usbEnumerate => 12 | usbSelect => 13 | usbReset => 14 | usbRelease => 15
  | wifiConnect => 16 | wifiDisconnect => 17 | wifiSocketOpen => 18 | wifiSocketClose => 19
  | bleScan => 20 | bleConnect => 21 | bleDisconnect => 22 | blePair => 23
  | bleDiscover => 24 | bleSubscribe => 25 | gpioConfigure => 26 | gpioWatch => 27
  | spiExchange => 40 | i2cExchange => 41 | uartWrite => 42 | canSend => 43
  | usbTransfer => 44 | wifiSend => 45 | bleRead => 46 | bleWrite => 47
  | gpioRead => 48 | gpioWrite => 49 | gpioPulse => 50

def Operation.ofNat? : Nat → Option Operation
  | 1 => some getStatus | 2 => some receive | 10 => some uartConfigure | 11 => some canConfigure
  | 12 => some usbEnumerate | 13 => some usbSelect | 14 => some usbReset | 15 => some usbRelease
  | 16 => some wifiConnect | 17 => some wifiDisconnect | 18 => some wifiSocketOpen
  | 19 => some wifiSocketClose | 20 => some bleScan | 21 => some bleConnect
  | 22 => some bleDisconnect | 23 => some blePair | 24 => some bleDiscover
  | 25 => some bleSubscribe | 26 => some gpioConfigure | 27 => some gpioWatch
  | 40 => some spiExchange | 41 => some i2cExchange | 42 => some uartWrite | 43 => some canSend
  | 44 => some usbTransfer | 45 => some wifiSend | 46 => some bleRead | 47 => some bleWrite
  | 48 => some gpioRead | 49 => some gpioWrite | 50 => some gpioPulse
  | _ => none

inductive FieldId where
  | operation | protocol | bus | uartPort | data | readLength | clockHz | mode | bitOrder
  | chipSelect | fillByte | i2cAddress | repeatedStart | baudrate | dataBits | parity | stopBits
  | canBitrate | canId | canExtended | vid | pid | serialNumber | usbInterface | endpoint
  | transferType | requestType | requestCode | value | index | profile | host | networkPort
  | socketId | socketProtocol | bleAddress | serviceUuid | characteristicUuid | writeMode
  | pin | gpioMode | gpioValue | pull | edge | durationUs | limit | drain | timeoutMs | channel
  | scanDurationMs | passkey | ssid | password | localPort | enabled | initialValue
  | status | responseData | metadataJson | queueDepth | overflowCount | timestampUs | errorMessage
  deriving DecidableEq, Repr

def FieldId.toNat : FieldId → Nat
  | operation => 1 | protocol => 2 | bus => 3 | uartPort => 4 | data => 5 | readLength => 6
  | clockHz => 7 | mode => 8 | bitOrder => 9 | chipSelect => 10 | fillByte => 11
  | i2cAddress => 12 | repeatedStart => 13 | baudrate => 14 | dataBits => 15 | parity => 16
  | stopBits => 17 | canBitrate => 18 | canId => 19 | canExtended => 20 | vid => 21 | pid => 22
  | serialNumber => 23 | usbInterface => 24 | endpoint => 25 | transferType => 26
  | requestType => 27 | requestCode => 28 | value => 29 | index => 30 | profile => 31
  | host => 32 | networkPort => 33 | socketId => 34 | socketProtocol => 35 | bleAddress => 36
  | serviceUuid => 37 | characteristicUuid => 38 | writeMode => 39 | pin => 40 | gpioMode => 41
  | gpioValue => 42 | pull => 43 | edge => 44 | durationUs => 45 | limit => 46 | drain => 47
  | timeoutMs => 48 | channel => 49 | scanDurationMs => 50 | passkey => 51 | ssid => 52
  | password => 53 | localPort => 54 | enabled => 55 | initialValue => 56 | status => 0x8001
  | responseData => 0x8002 | metadataJson => 0x8003 | queueDepth => 0x8004
  | overflowCount => 0x8005 | timestampUs => 0x8006 | errorMessage => 0x8007

theorem FieldId.toNat_injective : ∀ a b : FieldId, a.toNat = b.toNat → a = b := by
  have hindex : ∀ a : FieldId,
      a.toNat = if a.ctorIdx < 56 then a.ctorIdx + 1 else a.ctorIdx + 0x7FC9 := by
    intro a
    cases a <;> rfl
  intro a b h
  have hab : a.ctorIdx = b.ctorIdx := by
    rw [hindex a, hindex b] at h
    split at h <;> split at h <;> omega
  rw [← FieldId.ofNat_ctorIdx a, hab, FieldId.ofNat_ctorIdx b]

theorem FieldId.toNat_inj {a b : FieldId} : a.toNat = b.toNat ↔ a = b :=
  ⟨FieldId.toNat_injective a b, congrArg FieldId.toNat⟩

/-- A field number fits the 16 bits of a TLV type. -/
theorem FieldId.toNat_lt (a : FieldId) : a.toNat < 2 ^ 16 := by
  cases a <;> decide

/-- The fields that `knownField` allows beside `OPERATION`. -/
def Operation.knownFields : Operation → List FieldId
  | getStatus => []
  | receive => [.protocol, .channel, .limit, .drain, .timeoutMs]
  | uartConfigure => [.uartPort, .baudrate, .dataBits, .parity, .stopBits]
  | canConfigure => [.bus, .canBitrate]
  | usbEnumerate | usbReset | usbRelease | wifiDisconnect | bleDisconnect => []
  | usbSelect => [.vid, .pid, .serialNumber, .usbInterface]
  | wifiConnect => [.profile, .ssid, .password]
  | wifiSocketOpen => [.socketProtocol, .host, .networkPort, .localPort]
  | wifiSocketClose => [.socketId]
  | bleScan => [.scanDurationMs, .serviceUuid]
  | bleConnect => [.bleAddress]
  | blePair => [.passkey]
  | bleDiscover => [.serviceUuid]
  | bleSubscribe => [.serviceUuid, .characteristicUuid, .enabled]
  | gpioConfigure => [.pin, .gpioMode, .pull, .initialValue]
  | gpioWatch => [.pin, .edge]
  | spiExchange =>
    [.bus, .chipSelect, .clockHz, .mode, .bitOrder, .fillByte, .data, .readLength]
  | i2cExchange => [.bus, .i2cAddress, .clockHz, .data, .readLength, .repeatedStart]
  | uartWrite => [.uartPort, .data]
  | canSend => [.bus, .canId, .canExtended, .data]
  | usbTransfer =>
    [.transferType, .endpoint, .readLength, .requestType, .requestCode, .value, .index, .data]
  | wifiSend => [.socketId, .data]
  | bleRead => [.serviceUuid, .characteristicUuid]
  | bleWrite => [.serviceUuid, .characteristicUuid, .writeMode, .data]
  | gpioRead => [.pin]
  | gpioWrite => [.pin, .gpioValue]
  | gpioPulse => [.pin, .gpioValue, .durationUs]

def knownField (operation field : Nat) : Bool :=
  if field = FieldId.operation.toNat then true
  else match Operation.ofNat? operation with
    | some operation => field ∈ operation.knownFields.map FieldId.toNat
    | none => false

def kMaxApplicationTransfer : Nat := 64000

/-- The text up to the first NUL. -/
def cString (bytes : Bytes) : Bytes := bytes.takeWhile (· ≠ 0)

/-- The bytes that `copyString` puts in front of the NUL; `none` is `false`. -/
def copyString (reader : TlvReader) (field : FieldId) (capacity : Nat) (required : Bool) :
    Option Bytes :=
  match reader.bytes field.toNat required with
  | none => none
  | some none => if required then none else some []
  | some (some value) => if value.length = 0 ∨ value.length ≥ capacity then none else some value

namespace TlvReader

variable (reader : TlvReader)

def u8 (field : FieldId) : Option Nat := reader.getU8 field.toNat 0 true
def u16 (field : FieldId) : Option Nat := reader.getU16 field.toNat 0 true
def u32 (field : FieldId) : Option Nat := reader.getU32 field.toNat 0 true

/-- A byte field that may be missing, as the pair of pointer and length it becomes. -/
def optionalBytes (field : FieldId) : Option Bytes := (reader.bytes field.toNat false).getD none

/-- A byte field that must be there. -/
def requiredBytes (field : FieldId) : Option Bytes := (reader.bytes field.toNat true).getD none

end TlvReader

theorem guard_eq_some {p : Prop} [Decidable p] {u : Unit} : (guard p : Option Unit) = some u ↔ p := by
  show (if p then some () else none) = some u ↔ p
  by_cases h : p <;> simp [h]

theorem copyString_length {reader : TlvReader} {field : FieldId} {capacity : Nat} {required : Bool}
    {copied : Bytes} (h : copyString reader field capacity required = some copied)
    (pos : 0 < capacity) : copied.length < capacity := by
  unfold copyString at h
  split at h
  next => simp at h
  next =>
    split at h
    next => simp at h
    next =>
      cases h
      exact pos
  next value _ =>
    split at h
    next => simp at h
    next hshort =>
      cases h
      omega

structure UartConfiguration where
  port : Nat
  baudrate : Nat
  dataBits : Nat
  parity : Nat
  stopBits : Nat

/-- The check that opens `configureUart`, and the variables it fills. -/
def uartConfiguration (reader : TlvReader) : Option UartConfiguration := do
  let port ← reader.u8 .uartPort
  guard (port ≤ 3)
  let baudrate ← reader.u32 .baudrate
  guard (50 ≤ baudrate ∧ baudrate ≤ 4000000)
  let dataBits ← reader.u8 .dataBits
  guard (dataBits = 7 ∨ dataBits = 8)
  let parity ← reader.u8 .parity
  guard (parity ≤ 2)
  let stopBits ← reader.u8 .stopBits
  guard (stopBits = 1 ∨ stopBits = 2)
  return ⟨port, baudrate, dataBits, parity, stopBits⟩

structure CanConfiguration where
  bus : Nat
  bitrate : Nat

/-- The check of `configureCan`. -/
def canConfiguration (reader : TlvReader) : Option CanConfiguration := do
  let bus ← reader.u8 .bus
  guard (bus ≤ 1)
  let bitrate ← reader.u32 .canBitrate
  guard (bitrate = 125000 ∨ bitrate = 250000 ∨ bitrate = 500000 ∨ bitrate = 1000000)
  return ⟨bus, bitrate⟩

structure SpiTransfer where
  bus : Nat
  chipSelect : Nat
  clock : Nat
  mode : Nat
  bitOrder : Nat
  fill : Nat
  requestedRead : Nat
  writeData : Bytes

/-- The check of `spiExchange`. -/
def spiTransfer (reader : TlvReader) : Option SpiTransfer := do
  let bus ← reader.u8 .bus
  guard (bus ≤ 1)
  let chipSelect ← reader.u16 .chipSelect
  let clock ← reader.u32 .clockHz
  guard (1000 ≤ clock ∧ clock ≤ 50000000)
  let mode ← reader.u8 .mode
  guard (mode ≤ 3)
  let bitOrder ← reader.u8 .bitOrder
  guard (bitOrder ≤ 1)
  let fill ← reader.getU8 FieldId.fillByte.toNat 0xFF true
  let requestedRead ← reader.u32 .readLength
  return ⟨bus, chipSelect, clock, mode, bitOrder, fill, requestedRead,
    (reader.optionalBytes .data).getD []⟩

/-- `clocks` -/
def SpiTransfer.clocks (transfer : SpiTransfer) : Nat :=
  max transfer.writeData.length transfer.requestedRead

structure I2cTransaction where
  bus : Nat
  address : Nat
  clock : Nat
  requestedRead : Nat
  repeated : Nat
  writeData : Bytes

/-- The check of `i2cExchange`. -/
def i2cTransaction (reader : TlvReader) : Option I2cTransaction := do
  let bus ← reader.u8 .bus
  guard (bus ≤ 1)
  let address ← reader.u8 .i2cAddress
  guard (0x08 ≤ address ∧ address ≤ 0x77)
  let clock ← reader.u32 .clockHz
  guard (clock = 100000 ∨ clock = 400000)
  let requestedRead ← reader.u32 .readLength
  guard (requestedRead ≤ 32)
  let repeated ← reader.getU8 FieldId.repeatedStart.toNat 1 true
  guard (repeated ≤ 1)
  let writeData := (reader.optionalBytes .data).getD []
  guard (writeData.length ≤ 32)
  return ⟨bus, address, clock, requestedRead, repeated, writeData⟩

structure UartOutput where
  port : Nat
  data : Bytes

/-- The check of `uartWriteOperation` under `uart_configured`. -/
def uartOutput (configured : Nat → Bool) (reader : TlvReader) : Option UartOutput := do
  let port ← reader.u8 .uartPort
  guard (port ≤ 3 ∧ configured port)
  let data ← reader.requiredBytes .data
  return ⟨port, data⟩

structure CanOutput where
  bus : Nat
  identifier : Nat
  extended : Nat
  data : Bytes

/-- The check of `canSend` under `can_configured`. -/
def canOutput (configured : Nat → Bool) (reader : TlvReader) : Option CanOutput := do
  let bus ← reader.u8 .bus
  guard (bus ≤ 1 ∧ configured bus)
  let identifier ← reader.u32 .canId
  let extended ← reader.u8 .canExtended
  guard (extended ≤ 1 ∧ ¬(extended = 0 ∧ 0x7FF < identifier) ∧ identifier ≤ 0x1FFFFFFF)
  let data ← reader.requiredBytes .data
  guard (data.length ≤ 8)
  return ⟨bus, identifier, extended, data⟩

structure GpioConfiguration where
  pin : Nat
  mode : Nat
  pull : Nat
  initial : Nat

/-- The check of `gpioConfigure`. -/
def gpioConfiguration (reader : TlvReader) : Option GpioConfiguration := do
  let pin ← reader.u16 .pin
  let mode ← reader.u8 .gpioMode
  guard (mode ≤ 1)
  let pull ← reader.u8 .pull
  guard (pull ≤ 2)
  let initial ← reader.getU8 FieldId.initialValue.toNat 0 false
  guard (initial ≤ 1 ∧ safeDynamicPin pin ∧ ¬(mode = 1 ∧ pull ≠ 0))
  return ⟨pin, mode, pull, initial⟩

structure GpioWatched where
  pin : Nat
  edge : Nat

/-- The check of `gpioWatch` under `gpio_configured`. -/
def gpioWatched (configured : Nat → Bool) (reader : TlvReader) : Option GpioWatched := do
  let pin ← reader.u16 .pin
  let edge ← reader.u8 .edge
  guard (edge ≤ 3 ∧ safeDynamicPin pin ∧ configured pin)
  return ⟨pin, edge⟩

/-- The first check of `gpioOperation` under `gpio_configured`. -/
def gpioPin (configured : Nat → Bool) (reader : TlvReader) : Option Nat := do
  let pin ← reader.u16 .pin
  guard (safeDynamicPin pin ∧ configured pin)
  return pin

/-- The check of the value in `gpioOperation`. -/
def gpioValue (reader : TlvReader) : Option Nat := do
  let value ← reader.u8 .gpioValue
  guard (value ≤ 1)
  return value

/-- The check of the duration in `gpioOperation`, where the operation is a pulse. -/
def gpioDuration (reader : TlvReader) : Option Nat := do
  let duration ← reader.u32 .durationUs
  guard (duration ≠ 0 ∧ duration ≤ 1000000)
  return duration

structure UsbSelector where
  vid : Nat
  pid : Nat
  interfaceNumber : Nat
  serial : Option Bytes

/-- The check of `usbSelect`. -/
def usbSelector (reader : TlvReader) : Option UsbSelector := do
  let vid ← reader.u16 .vid
  let pid ← reader.u16 .pid
  let interfaceNumber ← reader.getU8 FieldId.usbInterface.toNat 0 false
  let serial := reader.optionalBytes .serialNumber
  guard ((serial.getD []).length ≤ 126)
  return ⟨vid, pid, interfaceNumber, serial⟩

structure UsbTransfer where
  type : Nat
  endpoint : Nat
  readLength : Nat
  writeData : Bytes

/-- The check of `usbTransfer` under whether a device is selected. -/
def usbTransferFields (selected : Bool) (reader : TlvReader) : Option UsbTransfer := do
  guard selected
  let type ← reader.u8 .transferType
  guard (type ≤ 2)
  let endpoint ← reader.u8 .endpoint
  let readLength ← reader.u32 .readLength
  guard (readLength ≤ kMaxApplicationTransfer ∧ ¬(type = 2 ∧ 4096 < readLength))
  return ⟨type, endpoint, readLength, (reader.optionalBytes .data).getD []⟩

structure UsbSetup where
  requestType : Nat
  requestCode : Nat
  value : Nat
  index : Nat

/-- The check of the setup packet of a control transfer. -/
def usbSetup (endpoint : Nat) (reader : TlvReader) : Option UsbSetup := do
  guard (endpoint = 0)
  let requestType ← reader.u8 .requestType
  let requestCode ← reader.u8 .requestCode
  let value ← reader.u16 .value
  let index ← reader.u16 .index
  return ⟨requestType, requestCode, value, index⟩

structure WifiCredentials where
  ssid : Bytes
  password : Bytes

/-- The check of `wifiConnect`. -/
def wifiCredentials (reader : TlvReader) : Option WifiCredentials := do
  let ssid ← copyString reader .ssid 33 true
  let password ← copyString reader .password 64 true
  return ⟨ssid, password⟩

structure WifiSocket where
  protocol : Nat
  port : Nat
  localPort : Nat
  host : Bytes

/-- The check of `wifiSocketOpen` under `wifi_connected`. -/
def wifiSocket (connected : Bool) (reader : TlvReader) : Option WifiSocket := do
  guard connected
  let protocol ← reader.u8 .socketProtocol
  guard (protocol ≤ 1)
  let port ← reader.u16 .networkPort
  guard (port ≠ 0)
  let localPort ← reader.getU16 FieldId.localPort.toNat 0 false
  let host ← copyString reader .host 254 true
  return ⟨protocol, port, localPort, host⟩

/-- The check of `wifiSocketClose` under `socket_used`. -/
def wifiSocketId (used : Nat → Bool) (reader : TlvReader) : Option Nat := do
  let socket ← reader.u8 .socketId
  guard (socket ≤ 7 ∧ used socket)
  return socket

structure WifiOutput where
  socket : Nat
  data : Bytes

/-- The check of `wifiSend` under `socket_used`. -/
def wifiOutput (used : Nat → Bool) (reader : TlvReader) : Option WifiOutput := do
  let socket ← wifiSocketId used reader
  let data ← reader.requiredBytes .data
  return ⟨socket, data⟩

structure BleScan where
  duration : Nat
  uuid : Bytes

/-- The check of `bleScan`. -/
def bleScanFields (reader : TlvReader) : Option BleScan := do
  let duration ← reader.getU32 FieldId.scanDurationMs.toNat 3000 true
  guard (100 ≤ duration ∧ duration ≤ 30000)
  let uuid ← copyString reader .serviceUuid 37 false
  return ⟨duration, uuid⟩

structure BleSelector where
  serviceUuid : Bytes
  characteristicUuid : Bytes

/-- The two texts that `bleSubscribe` and `bleReadWrite` copy first. -/
def bleSelector (reader : TlvReader) : Option BleSelector := do
  let serviceUuid ← copyString reader .serviceUuid 37 true
  let characteristicUuid ← copyString reader .characteristicUuid 37 true
  return ⟨serviceUuid, characteristicUuid⟩

/-- The check of `ENABLED` in `bleSubscribe`. -/
def bleEnabled (reader : TlvReader) : Option Nat := do
  let enabled ← reader.getU8 FieldId.enabled.toNat 1 true
  guard (enabled ≤ 1)
  return enabled

structure BleOutput where
  mode : Nat
  data : Bytes

/-- The fields of a write in `bleReadWrite`. -/
def bleOutput (reader : TlvReader) : Option BleOutput := do
  let mode ← reader.u8 .writeMode
  guard (mode ≤ 1)
  let data ← reader.requiredBytes .data
  return ⟨mode, data⟩

/-- The digits of a passkey as a number; `none` where `blePair` refuses them. -/
def passkeyNumber (passkey : Bytes) : Option Nat := do
  guard (passkey.length = 6 ∧ passkey.all fun digit => 48 ≤ digit.toNat ∧ digit.toNat ≤ 57)
  return passkey.foldl (fun value digit => value * 10 + (digit.toNat - 48)) 0

structure ReceiveWindow where
  protocol : Nat
  channel : Nat
  limit : Nat
  drain : Nat
  timeout : Nat

/-- The check of `receiveOperation`. -/
def receiveWindow (reader : TlvReader) : Option ReceiveWindow := do
  let protocol ← reader.u8 .protocol
  guard (PROTO_UART ≤ protocol ∧ protocol ≤ PROTO_GPIO)
  let channel ← reader.u8 .channel
  let limit ← reader.getU16 FieldId.limit.toNat 4096 true
  guard (limit ≠ 0 ∧ limit ≤ kMaxApplicationTransfer)
  let drain ← reader.getU8 FieldId.drain.toNat 1 true
  guard (drain ≤ 1)
  let timeout ← reader.u32 .timeoutMs
  guard (timeout ≤ 300000)
  return ⟨protocol, channel, limit, drain, timeout⟩

section bounds

variable {reader : TlvReader}

theorem spiTransfer_bounds {spi : SpiTransfer} (h : spiTransfer reader = some spi) :
    spi.bus ≤ 1 ∧ spi.clock ≤ 50000000 ∧ spi.mode ≤ 3 := by
  simp only [spiTransfer, Option.bind_eq_bind, Option.bind_eq_some_iff, guard_eq_some, pure,
    Option.some.injEq] at h
  obtain ⟨bus, -, -, hbus, chip, -, clock, -, -, hclock, mode, -, -, hmode, order, -, -, -, fill, -,
    read, -, rfl⟩ := h
  exact ⟨hbus, hclock.2, hmode⟩

theorem i2cTransaction_bounds {i2c : I2cTransaction} (h : i2cTransaction reader = some i2c) :
    i2c.requestedRead ≤ 32 := by
  simp only [i2cTransaction, Option.bind_eq_bind, Option.bind_eq_some_iff, guard_eq_some, pure,
    Option.some.injEq] at h
  obtain ⟨bus, -, -, -, address, -, -, -, clock, -, -, -, read, -, -, hread, repeated, -, -, -, -, -,
    rfl⟩ := h
  exact hread

theorem usbTransferFields_bounds {selected : Bool} {usb : UsbTransfer}
    (h : usbTransferFields selected reader = some usb) :
    usb.type ≤ 2 ∧ usb.endpoint < 256 ∧ usb.readLength ≤ kMaxApplicationTransfer := by
  simp only [usbTransferFields, Option.bind_eq_bind, Option.bind_eq_some_iff, guard_eq_some, pure,
    Option.some.injEq] at h
  obtain ⟨-, -, type, -, -, htype, endpoint, hendpoint, read, -, -, hread, rfl⟩ := h
  exact ⟨htype, TlvReader.getNumber_lt hendpoint (by decide), hread.1⟩

theorem bleSelector_bounds {selector : BleSelector} (h : bleSelector reader = some selector) :
    selector.serviceUuid.length < 37 ∧ selector.characteristicUuid.length < 37 := by
  simp only [bleSelector, Option.bind_eq_bind, Option.bind_eq_some_iff, pure, Option.some.injEq] at h
  obtain ⟨service, hservice, characteristic, hcharacteristic, rfl⟩ := h
  exact ⟨copyString_length hservice (by decide), copyString_length hcharacteristic (by decide)⟩

theorem receiveWindow_bounds {window : ReceiveWindow} (h : receiveWindow reader = some window) :
    window.protocol ≤ PROTO_GPIO ∧ window.channel < 256 ∧ window.limit ≤ kMaxApplicationTransfer := by
  simp only [receiveWindow, Option.bind_eq_bind, Option.bind_eq_some_iff, guard_eq_some, pure,
    Option.some.injEq] at h
  obtain ⟨protocol, -, -, hprotocol, channel, hchannel, limit, -, -, hlimit, drain, -, -, -, timeout, -,
    -, -, rfl⟩ := h
  exact ⟨hprotocol.2, TlvReader.getNumber_lt hchannel (by decide), hlimit.2⟩

end bounds

end JLinkMcp.Firmware
