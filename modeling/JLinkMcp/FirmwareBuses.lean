import JLinkMcp.FirmwareBridge

namespace JLinkMcp.Firmware

/-- The frame format `configureUart` picks. -/
def serialConfig (dataBits parity stopBits : Nat) : SerialConfig :=
  if dataBits = 7 ∧ parity = 0 then if stopBits = 2 then .serial7N2 else .serial7N1
  else if dataBits = 7 ∧ parity = 1 then if stopBits = 2 then .serial7E2 else .serial7E1
  else if dataBits = 7 ∧ parity = 2 then if stopBits = 2 then .serial7O2 else .serial7O1
  else if dataBits = 8 ∧ parity = 0 then if stopBits = 2 then .serial8N2 else .serial8N1
  else if dataBits = 8 ∧ parity = 1 then if stopBits = 2 then .serial8E2 else .serial8E1
  else if dataBits = 8 ∧ parity = 2 then if stopBits = 2 then .serial8O2 else .serial8O1
  else .serial8N1

def configureUart (reader : TlvReader) (requestId : Nat) : BridgeM Unit :=
  match uartConfiguration reader with
  | none => sendError requestId kMalformed "invalid UART configuration"
  | some uart => do
    let config := serialConfig uart.dataBits uart.parity uart.stopBits
    let _ ← onBoard (call (.serialBegin uart.port uart.baudrate config))
    update fun machine =>
      { machine with uartConfigured := setAt machine.uartConfigured uart.port true }
    sendOk requestId (metadata [text "\x7b\"port\":", decimal uart.port, text ",\"baudrate\":",
      decimal uart.baudrate, text "\x7d"])

def canBitrate (bitrate : Nat) : CanBitRate :=
  if bitrate = 125000 then .br125k else if bitrate = 250000 then .br250k
  else if bitrate = 500000 then .br500k else .br1000k

/-- The part of `configureCan` behind the claim of a pin. -/
def beginCan (can : CanConfiguration) (requestId : Nat) : BridgeM Unit := do
  if ← onBoard (ask (.canBegin can.bus (canBitrate can.bitrate))) then
    update fun machine =>
      { machine with canConfigured := setAt machine.canConfigured can.bus true }
    sendOk requestId (metadata [text "\x7b\"bus\":", decimal can.bus, text ",\"bitrate\":",
      decimal can.bitrate, text ",\"classic_can\":true,\"external_transceiver_required\":true\x7d"])
  else sendError requestId kIoError "CAN controller did not initialize"

def configureCan (reader : TlvReader) (requestId : Nat) : BridgeM Unit :=
  match canConfiguration reader with
  | none => sendError requestId kMalformed "invalid classic CAN configuration"
  | some can => do
    let machine ← getMachine
    if can.bus = 1 then
      match machine.pinResources.claim 8 kResourceOwnerCan1 with
      | none => sendError requestId kConflict "CAN1 RX pin D8 is already owned"
      | some pins => do
        update (Machine.own pins)
        beginCan can requestId
    else beginCan can requestId

/-- The bytes that come in while the written ones, then fill bytes, go out. -/
def spiClocks (bus : Nat) (fill : UInt8) : Nat → Bytes → BoardM Bytes
  | 0, _ => pure []
  | clocks + 1, writeData => do
    let value ← askByte (.spiTransfer bus (writeData.headD fill))
    return value :: (← spiClocks bus fill clocks writeData.tail)

def spiTransaction (spi : SpiTransfer) : BoardM Bytes := do
  let _ ← call (.spiBegin spi.bus)
  let _ ← call (.pinMode spi.chipSelect .output)
  let _ ← call (.digitalWrite spi.chipSelect true)
  let _ ← call (.spiBeginTransaction spi.bus spi.clock (spi.bitOrder ≠ 0) spi.mode)
  let _ ← call (.digitalWrite spi.chipSelect false)
  let received ← spiClocks spi.bus (UInt8.ofNat spi.fill) spi.clocks spi.writeData
  let _ ← call (.digitalWrite spi.chipSelect true)
  let _ ← call (.spiEndTransaction spi.bus)
  return received

def spiExchange (reader : TlvReader) (requestId : Nat) : BridgeM Unit :=
  match spiTransfer reader with
  | none => sendError requestId kMalformed "invalid SPI exchange"
  | some spi => do
    let machine ← getMachine
    let owner := if spi.bus = 0 then kResourceOwnerSpi0 else kResourceOwnerSpi1
    if spi.clocks > kMaxApplicationTransfer then
      sendError requestId kConflict "SPI chip-select is unsafe or already owned"
    else match machine.pinResources.claim spi.chipSelect owner with
      | none => sendError requestId kConflict "SPI chip-select is unsafe or already owned"
      | some pins => do
        update (Machine.own pins)
        let received ← onBoard (spiTransaction spi)
        liftM (storeResponse received)
        sendData requestId spi.clocks (metadata [text "\x7b\"bus\":", decimal spi.bus,
          text ",\"chip_select\":\"D", decimal spi.chipSelect, text "\",\"clock_hz\":",
          decimal spi.clock, text ",\"mode\":", decimal spi.mode, text "\x7d"])

/-- Whether the write succeeded, and the bytes read where it did. -/
def wireTransaction (i2c : I2cTransaction) : BoardM (Bool × Bytes) := do
  let _ ← call (.wireBegin i2c.bus)
  let _ ← call (.wireSetClock i2c.bus i2c.clock)
  let written ← (do
    if i2c.writeData.length ≠ 0 then
      let _ ← call (.wireBeginTransmission i2c.bus i2c.address)
      let count ← call (.wireWrite i2c.bus i2c.writeData)
      if count.number ≠ i2c.writeData.length then return false
      else
        let failed ← ask (.wireEndTransmission i2c.bus (!(i2c.requestedRead ≠ 0 && i2c.repeated ≠ 0)))
        return !failed
    else return true : BoardM Bool)
  if !written then return (false, [])
  else if i2c.requestedRead ≠ 0 then
    let _ ← call (.wireRequestFrom i2c.bus i2c.address i2c.requestedRead)
    let received ← readWhile (.wireAvailable i2c.bus) (.wireRead i2c.bus) i2c.requestedRead
    return (true, received)
  else return (true, [])

/-- The part of `i2cExchange` behind the claim of the pins. -/
def exchangeI2c (i2c : I2cTransaction) (requestId : Nat) : BridgeM Unit := do
  let (written, received) ← onBoard (wireTransaction i2c)
  if !written then sendError requestId kIoError "I2C write failed"
  else
    liftM (storeResponse received)
    if received.length ≠ i2c.requestedRead then
      sendError requestId kIoError "I2C read returned fewer bytes than requested"
    else
      sendData requestId received.length (metadata [text "\x7b\"bus\":", decimal i2c.bus,
        text ",\"address\":", decimal i2c.address, text ",\"clock_hz\":", decimal i2c.clock,
        text ",\"reserved_bus\":\"Wire1\"\x7d"])

def i2cExchange (reader : TlvReader) (requestId : Nat) : BridgeM Unit :=
  match i2cTransaction reader with
  | none => sendError requestId kMalformed "invalid I2C transaction"
  | some i2c => do
    let machine ← getMachine
    if i2c.bus = 1 then
      match machine.pinResources.claimPair 8 9 kResourceOwnerI2c1 with
      | none => sendError requestId kConflict "I2C bus 1 pins D8/D9 are already owned"
      | some pins => do
        update (Machine.own pins)
        exchangeI2c i2c requestId
    else exchangeI2c i2c requestId

def uartWriteOperation (reader : TlvReader) (requestId : Nat) : BridgeM Unit := do
  let machine ← getMachine
  match uartOutput machine.uartConfigured reader with
  | none => sendError requestId kMalformed "UART is unconfigured or request is invalid"
  | some uart => do
    let written ← onBoard (call (.serialWrite uart.port uart.data))
    if written.number ≠ uart.data.length then sendError requestId kIoError "UART write was incomplete"
    else
      sendOk requestId (metadata [text "\x7b\"port\":", decimal uart.port, text ",\"written\":",
        decimal uart.data.length, text "\x7d"])

def canSend (reader : TlvReader) (requestId : Nat) : BridgeM Unit := do
  let machine ← getMachine
  match canOutput machine.canConfigured reader with
  | none => sendError requestId kMalformed "invalid classic CAN frame"
  | some can => do
    let result ← onBoard (call (.canWrite can.bus can.identifier (can.extended ≠ 0) can.data))
    if result.number ≤ 0 then sendError requestId kIoError "CAN frame could not be queued"
    else
      sendOk requestId (metadata [text "\x7b\"bus\":", decimal can.bus, text ",\"arbitration_id\":",
        decimal can.identifier, text ",\"extended\":",
        text (if can.extended ≠ 0 then "true" else "false"), text "\x7d"])

end JLinkMcp.Firmware
