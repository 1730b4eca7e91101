import JLinkMcp.FirmwareBridge

namespace JLinkMcp.Firmware

open StateProgram

def pairingDisplay (code : Nat) (machine : Machine) : Machine :=
  { machine with displayedPairingCode := code % 1000000 }

/-- `BLE.poll()`; the library may show a pairing code meanwhile, through `pairingDisplay`. -/
def blePoll : MachineM Unit := do
  match ← liftM (askHandle .blePoll) with
  | some code => modify (pairingDisplay code)
  | none => pure ()

def setUpBle : BoardM Unit := do
  let _ ← call .bleSetPairable
  let _ ← call .bleSetDisplayCode
  let _ ← call .bleSetBinaryConfirmPairing

def ensureBle (requestId : Nat) : BridgeM Bool := do
  let machine ← getMachine
  if machine.radioMode = 1 then
    sendError requestId kConflict "Wi-Fi and BLE sessions are mutually exclusive"
    return false
  else if machine.bleInitialized then
    update fun machine => { machine with radioMode := 2 }
    return true
  else if ← onBoard (ask .bleBegin) then
    onBoard setUpBle
    update fun machine => { machine with bleInitialized := true, radioMode := 2 }
    return true
  else
    sendError requestId kIoError "BLE controller did not initialize"
    return false

/-- The variables of the loop of `bleScan`. -/
structure BleListing where
  listed : Bytes
  first : Bool
  count : Nat

/-- The entry of a device that fits `item`, and the length its text would have. -/
def bleDeviceItem (first : Bool) (address name : Bytes) (rssi : Int) : Bytes × Nat :=
  let parts := [text (if first then "" else ","), text "\x7b\"address\":", address, text ",\"name\":",
    name, text ",\"rssi\":", signedDecimal rssi, text "\x7d"]
  (snprintf 640 parts, parts.flatten.length)

/-- A device that was seen joins the listing; `none` is the `break`. -/
def addBleDevice (listing : BleListing) (device : Nat) : BoardM (Option BleListing) := do
  let address := (← call (.bleAddress device)).bytes
  let named ← ask (.bleHasLocalName device)
  let name ← (if named then return (← call (.bleLocalName device)).bytes else return [] : BoardM Bytes)
  match encodeJsonString address 128, encodeJsonString name 384 with
  | some address, some name =>
    let rssi := (← call (.bleRssi device)).number
    let (item, length) := bleDeviceItem listing.first address name rssi
    if length ≥ 640 ∨ listing.listed.length + length + 3 ≥ kMaxMetadata then return none
    else
      return some
        { listed := appendText listing.listed kMaxMetadata item
          first := false
          count := listing.count + 1 }
  | _, _ => return some listing

/-- A round of the loop of `bleScan`. -/
def scanRound (listing : BleListing) : MachineM (Bool × BleListing) := do
  if listing.count ≥ 16 then return (false, listing)
  else match ← liftM (askHandle .bleAvailable) with
    | none => do
      blePoll
      let _ ← liftM (call (.delay 5))
      return (true, listing)
    | some device => do
      match ← liftM (addBleDevice listing device) with
      | some listing => return (true, listing)
      | none => return (false, listing)

def startScan (uuid : Bytes) : BoardM Bool :=
  if cString uuid ≠ [] then ask (.bleScanForUuid (cString uuid)) else ask .bleScan

def bleScan (reader : TlvReader) (requestId : Nat) : BridgeM Unit :=
  match bleScanFields reader with
  | none => sendError requestId kMalformed "invalid BLE scan request"
  | some scan => do
    if ← ensureBle requestId then
      if ← onBoard (startScan scan.uuid) then
        let limit ← onBoard (rounds scan.duration)
        let listing ← machineOf.run (iterate scanRound limit
          ⟨appendText [] kMaxMetadata (text "\x7b\"devices\":["), true, 0⟩)
        let _ ← onBoard (call .bleStopScan)
        sendOk requestId (appendText listing.listed kMaxMetadata (text "]\x7d"))
      else sendError requestId kIoError "BLE scan did not start"

/-- Letters of either case alike. -/
def lowerAscii (c : UInt8) : UInt8 := if 65 ≤ c ∧ c ≤ 90 then c + 32 else c

def equalsIgnoreCase (a b : Bytes) : Bool := a.map lowerAscii = b.map lowerAscii

/-- A round of the loop of `bleConnect`. -/
def connectRound (address : Bytes) (found : Option Nat) : MachineM (Bool × Option Nat) := do
  let candidate ← liftM (askHandle .bleAvailable)
  let matching ← (match candidate with
    | some device => do
      let seen ← liftM (call (.bleAddress device))
      return equalsIgnoreCase seen.bytes address
    | none => return false : MachineM Bool)
  if matching then return (false, candidate)
  else
    blePoll
    let _ ← liftM (call (.delay 5))
    return (true, found)

def bleConnect (reader : TlvReader) (requestId : Nat) : BridgeM Unit :=
  match copyString reader .bleAddress 18 true with
  | none => sendError requestId kMalformed "invalid BLE address"
  | some address => do
    if ← ensureBle requestId then
      if ← onBoard (ask (.bleScanForAddress (cString address))) then
        let limit ← onBoard (rounds 10000)
        let found ← machineOf.run (iterate (connectRound (cString address)) limit none)
        let _ ← onBoard (call .bleStopScan)
        match found with
        | none => sendError requestId kIoError "BLE peer did not connect"
        | some device =>
          if ← onBoard (ask (.bleConnect device)) then
            update fun machine => { machine with blePeer := some device }
            sendOk requestId (metadata [text "\x7b\"address\":\"", cString address,
              text "\",\"connected\":true\x7d"])
          else sendError requestId kIoError "BLE peer did not connect"
      else sendError requestId kIoError "BLE address scan did not start"

/-- `ble_peer && ble_peer.connected()` -/
def peerConnected (peer : Option Nat) : BoardM (Option Nat) := do
  match peer with
  | none => return none
  | some device => if ← ask (.bleConnected device) then return some device else return none

def bleDisconnect (requestId : Nat) : BridgeM Unit := do
  let machine ← getMachine
  match ← onBoard (peerConnected machine.blePeer) with
  | some device =>
    let _ ← onBoard (call (.bleDisconnect device))
  | none => pure ()
  let _ ← onBoard (call .bleEnd)
  update fun machine =>
    { machine with
      blePeer := none
      bleSubscription := none
      bleSubscribed := false
      expectedPairingCode := noPairingCode
      displayedPairingCode := noPairingCode
      bleInitialized := false
      radioMode := 0 }
  sendOk requestId (text "\x7b\"connected\":false,\"pairing_volatile\":true\x7d")

/-- The last steps of `blePair`. -/
def blePairable (requestId : Nat) (metadata : Bytes) : BridgeM Unit := do
  let _ ← onBoard (call .bleSetPairable)
  sendOk requestId metadata

def blePair (reader : TlvReader) (requestId : Nat) : BridgeM Unit := do
  if ← ensureBle requestId then
    match reader.bytes FieldId.passkey.toNat false with
    | none => pure ()
    | some none =>
      update fun machine => { machine with expectedPairingCode := noPairingCode }
      blePairable requestId (text "\x7b\"pairing\":\"just_works\",\"volatile\":true\x7d")
    | some (some passkey) =>
      update fun machine => { machine with expectedPairingCode := noPairingCode }
      match passkeyNumber passkey with
      | none => sendError requestId kMalformed "BLE passkey profile is invalid"
      | some value =>
        update fun machine => { machine with expectedPairingCode := value }
        blePairable requestId (text "\x7b\"pairing\":\"named_numeric_confirmation\",\"volatile\":true\x7d")

/-- The loops of `bleDiscover` over the attributes with the given indices. -/
def bleUuidList (uuid : Nat → HwCall) : List Nat → Bool → Bytes → BoardM Bytes
  | [], _, listed => pure listed
  | index :: indices, first, listed => do
    match encodeJsonString (← call (uuid index)).bytes 224 with
    | none => bleUuidList uuid indices first listed
    | some escaped =>
      bleUuidList uuid indices false
        (appendText listed kMaxMetadata (snprintf 228 [text (if first then "" else ","), escaped]))

/-- The listing of the services and the characteristics of a peer. -/
def blePeerListing (device : Nat) : BoardM Bytes := do
  let services ← call (.bleServiceCount device)
  let listed ← bleUuidList (.bleServiceUuid device) (List.range services.number.toNat) true
    (appendText [] kMaxMetadata (text "\x7b\"services\":["))
  let characteristics ← call (.bleCharacteristicCount device)
  let listed ← bleUuidList (.bleCharacteristicUuid device) (List.range characteristics.number.toNat)
    true (appendText listed kMaxMetadata (text "],\"characteristics\":["))
  return appendText listed kMaxMetadata (text "]\x7d")

def discoverPeer (device : Nat) (uuid : Bytes) : BoardM Bool :=
  if cString uuid ≠ [] then ask (.bleDiscoverService device (cString uuid))
  else ask (.bleDiscoverAttributes device)

def bleDiscover (reader : TlvReader) (requestId : Nat) : BridgeM Unit := do
  let machine ← getMachine
  let peer ← onBoard (peerConnected machine.blePeer)
  match peer, copyString reader .serviceUuid 37 false with
  | some device, some uuid =>
    if ← onBoard (discoverPeer device uuid) then
      let listed ← onBoard (blePeerListing device)
      sendOk requestId listed
    else sendError requestId kIoError "BLE attribute discovery failed"
  | _, _ => sendError requestId kMalformed "BLE peer is not connected"

def findBleCharacteristic (peer : Option Nat) (selector : BleSelector) : BoardM (Option Nat) := do
  match ← peerConnected peer with
  | none => return none
  | some device =>
    match ← askHandle (.bleService device (cString selector.serviceUuid)) with
    | none => return none
    | some service => askHandle (.bleCharacteristic service (cString selector.characteristicUuid))

/-- Whether the characteristic can be subscribed to, or left. -/
def changeSubscription (characteristic : Nat) (enabled : Bool) : BoardM Bool :=
  if enabled then ask (.bleSubscribe characteristic) else ask (.bleUnsubscribe characteristic)

def bleSubscribe (reader : TlvReader) (requestId : Nat) : BridgeM Unit :=
  match bleSelector reader, bleEnabled reader with
  | some selector, some enabled => do
    let machine ← getMachine
    match ← onBoard (findBleCharacteristic machine.blePeer selector) with
    | none => sendError requestId kIoError "BLE subscription operation failed"
    | some characteristic =>
      if ← onBoard (changeSubscription characteristic (enabled ≠ 0)) then
        update fun machine =>
          { machine with
            bleSubscription := if enabled ≠ 0 then some characteristic else none
            bleSubscribed := enabled ≠ 0 }
        sendOk requestId (metadata [text "\x7b\"subscribed\":",
          text (if enabled ≠ 0 then "true" else "false"), text "\x7d"])
      else sendError requestId kIoError "BLE subscription operation failed"
  | _, _ => sendError requestId kMalformed "invalid BLE subscription request"

/-- The answer of `bleReadWrite`. -/
def bleSelected (selector : BleSelector) : Bytes :=
  metadata [text "\x7b\"service_uuid\":\"", cString selector.serviceUuid,
    text "\",\"characteristic_uuid\":\"", cString selector.characteristicUuid, text "\"\x7d"]

def bleReadWrite (write : Bool) (reader : TlvReader) (requestId : Nat) : BridgeM Unit :=
  match bleSelector reader with
  | none => sendError requestId kMalformed "invalid BLE characteristic selector"
  | some selector => do
    let machine ← getMachine
    match ← onBoard (findBleCharacteristic machine.blePeer selector) with
    | none => sendError requestId kSelectionError "BLE characteristic was not discovered"
    | some characteristic =>
      if write then
        match bleOutput reader with
        | none => sendError requestId kIoError "BLE characteristic write failed"
        | some output =>
          if ← onBoard (ask (.bleWriteValue characteristic output.data (output.mode = 0))) then
            sendData requestId 0 (bleSelected selector)
          else sendError requestId kIoError "BLE characteristic write failed"
      else
        let reply ← onBoard (call (.bleReadValue characteristic kMaxApplicationTransfer))
        if reply.number < 0 then sendError requestId kIoError "BLE characteristic read failed"
        else
          let value := reply.stored kMaxApplicationTransfer
          liftM (storeResponse value)
          sendData requestId value.length (bleSelected selector)

end JLinkMcp.Firmware
