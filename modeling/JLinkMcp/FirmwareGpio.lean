import JLinkMcp.FirmwareBridge

namespace JLinkMcp.Firmware

/-- `digitalRead(pin) ? 1 : 0` -/
def readPin (pin : Nat) : BoardM Nat := do
  return if ← ask (.digitalRead pin) then 1 else 0

/-- The calls that set a pin up. -/
def setUpPin (gpio : GpioConfiguration) : BoardM Unit := do
  if gpio.mode = 0 then
    let _ ← call (.pinMode gpio.pin
      (if gpio.pull = 1 then .inputPullup else if gpio.pull = 2 then .inputPulldown else .input))
  else
    let _ ← call (.pinMode gpio.pin .output)
    let _ ← call (.digitalWrite gpio.pin (gpio.initial ≠ 0))

def gpioConfigure (reader : TlvReader) (requestId : Nat) : BridgeM Unit :=
  match gpioConfiguration reader with
  | none => sendError requestId kMalformed "GPIO configuration is unsafe or malformed"
  | some gpio => do
    let machine ← getMachine
    match machine.pinResources.claim gpio.pin kResourceOwnerGpio with
    | none => sendError requestId kConflict "GPIO pin is already owned"
    | some pins => do
      update (Machine.own pins)
      onBoard (setUpPin gpio)
      update fun machine =>
        { machine with
          gpioConfigured := setAt machine.gpioConfigured gpio.pin true
          gpioOutput := setAt machine.gpioOutput gpio.pin (gpio.mode = 1) }
      let value ← onBoard (readPin gpio.pin)
      update fun machine => { machine with gpioLast := setAt machine.gpioLast gpio.pin value }
      sendOk requestId (metadata [text "\x7b\"pin\":\"D", decimal gpio.pin, text "\",\"mode\":\"",
        text (if gpio.mode ≠ 0 then "output" else "input"), text "\"\x7d"])

def gpioWatch (reader : TlvReader) (requestId : Nat) : BridgeM Unit := do
  let machine ← getMachine
  match gpioWatched machine.gpioConfigured reader with
  | none => sendError requestId kMalformed "GPIO watch requires a configured safe pin"
  | some watched => do
    update fun machine => { machine with gpioEdge := setAt machine.gpioEdge watched.pin watched.edge }
    let value ← onBoard (readPin watched.pin)
    update fun machine => { machine with gpioLast := setAt machine.gpioLast watched.pin value }
    sendOk requestId (metadata [text "\x7b\"pin\":\"D", decimal watched.pin, text "\",\"edge\":",
      decimal watched.edge, text "\x7d"])

/-- The answer to a write and to a pulse. -/
def gpioWritten (pin value duration : Nat) : Bytes :=
  metadata [text "\x7b\"pin\":\"D", decimal pin, text "\",\"value\":",
    text (if value ≠ 0 then "true" else "false"), text ",\"duration_us\":", decimal duration, text "\x7d"]

def pulsePin (pin value duration : Nat) : BoardM Unit := do
  let _ ← call (.digitalWrite pin (value ≠ 0))
  let _ ← call (.delayMicroseconds duration)
  let _ ← call (.digitalWrite pin (value = 0))

def gpioOperation (operation : Operation) (reader : TlvReader) (requestId : Nat) : BridgeM Unit := do
  let machine ← getMachine
  match gpioPin machine.gpioConfigured reader with
  | none => sendError requestId kMalformed "GPIO operation requires a configured safe pin"
  | some pin =>
    if operation = .gpioRead then
      let value ← onBoard (readPin pin)
      liftM (storeResponse [UInt8.ofNat value])
      sendData requestId 1 (metadata [text "\x7b\"pin\":\"D", decimal pin, text "\"\x7d"])
    else match gpioValue reader with
      | none => sendError requestId kMalformed "invalid GPIO value"
      | some value =>
        if !machine.gpioOutput pin then
          sendError requestId kConflict "GPIO write requires an output-owned pin"
        else if operation = .gpioPulse then
          match gpioDuration reader with
          | none => sendError requestId kMalformed "invalid GPIO pulse duration"
          | some duration => do
            onBoard (pulsePin pin value duration)
            sendOk requestId (gpioWritten pin value duration)
        else
          let _ ← onBoard (call (.digitalWrite pin (value ≠ 0)))
          sendOk requestId (gpioWritten pin value 0)

end JLinkMcp.Firmware
