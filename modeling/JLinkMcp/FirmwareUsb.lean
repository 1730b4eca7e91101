import JLinkMcp.FirmwareBridge

namespace JLinkMcp.Firmware

/-- The bytes a control read leaves in a zeroed buffer; `none` where it fails. The number zero is
`USB_TYPE_OK` here and below. -/
def controlReadInto (device requestType request value index capacity : Nat) :
    BoardM (Option Bytes) := do
  let reply ← call (.usbControlRead device requestType request value index capacity)
  let stored := reply.stored capacity
  return if reply.number ≠ 0 then none
    else some (stored ++ List.replicate (capacity - stored.length) 0)

/-- The copying loop of `usbSerial`, from the given index on. -/
def copySerial (serial : Bytes) (capacity : Nat) (output : Bytes) : Nat → Nat → Option Bytes
  | 0, _ => some output
  | fuel + 1, index =>
    if index + 1 < (serial.getD 0 0).toNat ∧ output.length + 1 < capacity then
      let value := serial.getD index 0
      if serial.getD (index + 1) 0 ≠ 0 ∨ value < 0x20 ∨ 0x7E < value then none
      else copySerial serial capacity (output ++ [value]) fuel (index + 2)
    else some output

/-- `none` is `false`; the loop makes at most one round for each byte of the output. -/
def usbSerial (device capacity : Nat) : BoardM (Option Bytes) := do
  match ← controlReadInto device 0x80 6 (1 * 256) 0 18 with
  | none => return none
  | some descriptor =>
    if descriptor.getD 16 0 = 0 then return none
    else match ← controlReadInto device 0x80 6 (3 * 256) 0 4 with
      | none => return none
      | some language =>
        let languageId := (language.getD 2 0).toNat + (language.getD 3 0).toNat * 256
        match ← controlReadInto device 0x80 6 (3 * 256 + (descriptor.getD 16 0).toNat) languageId 126 with
        | none => return none
        | some serial =>
          if serial.getD 0 0 < 2 then return none
          else match copySerial serial capacity [] capacity 2 with
            | none => return none
            | some output => return if output.length > 0 then some output else none

/-- The entry of a device in the list of `usbEnumerate`, behind the comma where it is not first. -/
def usbDeviceEntry (first : Bool) (index : Nat) : BoardM Bytes := do
  let vid ← askNat (.usbGetVid index) 2
  let pid ← askNat (.usbGetPid index) 2
  let interfaces ← askNat (.usbGetNbIntf index) 1
  return snprintf 180 [text (if first then "" else ","), text "\x7b\"index\":", decimal index,
    text ",\"vid\":", decimal vid, text ",\"pid\":", decimal pid, text ",\"interfaces\":",
    decimal interfaces, text ",\"hub\":false\x7d"]

/-- The loop of `usbEnumerate` over the devices with the given indices. -/
def usbDeviceList : List Nat → Bool → Bytes → BoardM Bytes
  | [], _, listed => pure listed
  | index :: indices, first, listed => do
    if !(← ask (.usbGetDevice index)) then usbDeviceList indices first listed
    else if ← ask (.usbIsHub index) then usbDeviceList indices first listed
    else
      let entry ← usbDeviceEntry first index
      usbDeviceList indices false (appendText listed kMaxMetadata entry)

def usbEnumerate (requestId : Nat) : BridgeM Unit := do
  let machine ← getMachine
  let listed ← onBoard (usbDeviceList (List.range machine.limits.maxDeviceConnected) true
    (appendText [] kMaxMetadata (text "\x7b\"devices\":[")))
  sendOk requestId (appendText listed kMaxMetadata (text "]\x7d"))

/-- Whether the device at the index is one the selector names. -/
def usbMatches (selector : UsbSelector) (index : Nat) : BoardM Bool := do
  if !(← ask (.usbGetDevice index)) then return false
  else if ← ask (.usbIsHub index) then return false
  else if (← askNat (.usbGetVid index) 2) ≠ selector.vid then return false
  else if (← askNat (.usbGetPid index) 2) ≠ selector.pid then return false
  else match selector.serial with
    | none => return true
    | some serial => return (← usbSerial index 127) = some serial

/-- The devices with the given indices that the selector names. -/
def usbMatching (selector : UsbSelector) : List Nat → BoardM (List Nat)
  | [] => pure []
  | index :: indices => do
    let found ← usbMatches selector index
    let rest ← usbMatching selector indices
    return if found then index :: rest else rest

def endpointTypeName (type : EndpointType) : String :=
  match type with
  | .control => "control"
  | .bulk => "bulk"
  | .interrupt => "interrupt"
  | .isochronous => "unknown"

def askEndpointType (endpoint : Endpoint) : BoardM EndpointType := do
  match (← call (.usbEndpointType endpoint)).number with
  | 0 => return .control
  | 1 => return .isochronous
  | 2 => return .bulk
  | _ => return .interrupt

/-- The loop of `usbSelect` over the endpoints with the given indices. -/
def usbEndpointList (device interfaceNumber : Nat) : List Nat → Bool → Bytes → BoardM Bytes
  | [], _, listed => pure listed
  | index :: indices, first, listed => do
    let endpoint : Endpoint := ⟨device, interfaceNumber, index⟩
    if !(← ask (.usbGetEndpoint endpoint)) then
      usbEndpointList device interfaceNumber indices first listed
    else
      let type ← askEndpointType endpoint
      if type = .isochronous then usbEndpointList device interfaceNumber indices first listed
      else
        let address ← askNat (.usbEndpointAddress endpoint) 1
        let size ← askNat (.usbEndpointSize endpoint) 4
        let entry := snprintf 120 [text (if first then "" else ","), text "\x7b\"address\":",
          decimal address, text ",\"type\":\"", text (endpointTypeName type),
          text "\",\"max_packet\":", decimal size, text "\x7d"]
        usbEndpointList device interfaceNumber indices false (appendText listed kMaxMetadata entry)

/-- Whether the interface of the device enumerates and is no hub. -/
def usbEnumerates (device interfaceNumber : Nat) : BoardM Bool := do
  if ← ask (.usbEnumerate device interfaceNumber) then return false
  else return !(← ask .usbEnumeratorHub)

def usbSelect (reader : TlvReader) (requestId : Nat) : BridgeM Unit :=
  match usbSelector reader with
  | none => sendError requestId kMalformed "invalid USB selector"
  | some selector => do
    let machine ← getMachine
    let found ← onBoard (usbMatching selector (List.range machine.limits.maxDeviceConnected))
    match found with
    | [device] =>
      if ← onBoard (usbEnumerates device selector.interfaceNumber) then
        update fun machine =>
          { machine with
            usbDevice := some device
            usbInterface := selector.interfaceNumber }
        let header := metadata [text "\x7b\"vid\":", decimal selector.vid, text ",\"pid\":",
          decimal selector.pid, text ",\"interface\":", decimal selector.interfaceNumber,
          text ",\"serial_matched\":", text (if selector.serial.isSome then "true" else "false"),
          text ",\"endpoints\":["]
        let listed ← onBoard (usbEndpointList device selector.interfaceNumber
          (List.range machine.limits.maxEndpointPerInterface) true header)
        sendOk requestId (appendText listed kMaxMetadata (text "]\x7d"))
      else sendError requestId kUnsupported "USB interface is a hub or could not enumerate"
    | _ => sendError requestId kSelectionError "USB selector is absent or ambiguous"

def usbReset (requestId : Nat) : BridgeM Unit := do
  let machine ← getMachine
  match machine.usbDevice with
  | none => sendError requestId kIoError "USB device reset failed"
  | some device =>
    if ← onBoard (ask (.usbResetDevice device)) then
      sendError requestId kIoError "USB device reset failed"
    else sendOk requestId (text "\x7b\"reset\":true\x7d")

def usbRelease (requestId : Nat) : BridgeM Unit := do
  update fun machine => { machine with usbDevice := none }
  sendOk requestId (text "\x7b\"released\":true\x7d")

/-- The first endpoint of the interface with the type and the address. -/
def selectedEndpoint (device interfaceNumber address : Nat) (type : EndpointType) :
    List Nat → BoardM (Option Endpoint)
  | [] => pure none
  | index :: indices => do
    let endpoint : Endpoint := ⟨device, interfaceNumber, index⟩
    if !(← ask (.usbGetEndpoint endpoint)) then
      selectedEndpoint device interfaceNumber address type indices
    else if (← askEndpointType endpoint) ≠ type then
      selectedEndpoint device interfaceNumber address type indices
    else if (← askNat (.usbEndpointAddress endpoint) 1) ≠ address then
      selectedEndpoint device interfaceNumber address type indices
    else return some endpoint

/-- The end of `usbTransfer`. -/
def usbTransferred (usb : UsbTransfer) (ok : Bool) (returned requestId : Nat) : BridgeM Unit :=
  if !ok then sendError requestId kIoError "USB transfer failed"
  else
    sendData requestId returned (metadata [text "\x7b\"transfer_type\":", decimal usb.type,
      text ",\"endpoint\":", decimal usb.endpoint, text ",\"usb_status\":", decimal 0, text "\x7d"])

/-- A transfer on the control endpoint. -/
def usbControl (device : Nat) (usb : UsbTransfer) (setup : UsbSetup) (requestId : Nat) :
    BridgeM Unit := do
  if setup.requestType / 0x80 % 2 = 1 then
    let reply ← onBoard (call (.usbControlRead device setup.requestType setup.requestCode setup.value
      setup.index usb.readLength))
    liftM (storeResponse (reply.stored usb.readLength))
    usbTransferred usb (reply.number = 0) (if reply.number = 0 then usb.readLength else 0) requestId
  else
    let failed ← onBoard (ask (.usbControlWrite device setup.requestType setup.requestCode setup.value
      setup.index usb.writeData))
    usbTransferred usb (!failed) 0 requestId

/-- A transfer on a bulk or an interrupt endpoint. -/
def usbPipe (usb : UsbTransfer) (endpoint : Endpoint) (requestId : Nat) : BridgeM Unit := do
  let interrupt : Bool := usb.type ≠ 1
  if usb.endpoint / 0x80 % 2 = 1 then
    let reply ← onBoard (call (.usbRead endpoint interrupt usb.readLength))
    liftM (storeResponse (reply.stored usb.readLength))
    if reply.number ≠ 0 then usbTransferred usb false 0 requestId
    else
      let transferred ← onBoard (call (.usbLengthTransferred endpoint))
      let returned := min usb.readLength transferred.number.toNat
      if returned ≠ 0 then
        let machine ← getMachine
        liftM (pushReceived PROTO_USB usb.endpoint (responseBytes machine returned))
      usbTransferred usb true returned requestId
  else
    let failed ← onBoard (ask (.usbWrite endpoint interrupt usb.writeData))
    usbTransferred usb (!failed) 0 requestId

def usbTransfer (reader : TlvReader) (requestId : Nat) : BridgeM Unit := do
  let machine ← getMachine
  match machine.usbDevice, usbTransferFields machine.usbDevice.isSome reader with
  | some device, some usb =>
    if usb.type = 0 then
      match usbSetup usb.endpoint reader with
      | none => sendError requestId kMalformed "USB control setup packet is incomplete"
      | some setup => usbControl device usb setup requestId
    else
      let type := if usb.type = 1 then EndpointType.bulk else .interrupt
      let endpoint ← onBoard (selectedEndpoint device machine.usbInterface usb.endpoint type
        (List.range machine.limits.maxEndpointPerInterface))
      match endpoint with
      | none => sendError requestId kUnsupported "USB endpoint is absent or unsupported"
      | some endpoint => usbPipe usb endpoint requestId
  | _, _ => sendError requestId kMalformed "invalid USB transfer or no selected device"

end JLinkMcp.Firmware
