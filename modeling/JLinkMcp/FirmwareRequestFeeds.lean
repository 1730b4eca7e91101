import JLinkMcp.FirmwareFeeds
import JLinkMcp.FirmwareRuns

namespace JLinkMcp.Firmware

open Codec StateProgram Relation

/-- The program lets time pass and makes allowed calls to the queues, whatever it writes. -/
def BridgeFeeds (ok : Nat → QueueCall → Prop) (s s' : Bridge) : Prop := Feeds ok s.machine s'.machine

/-- The record of a transfer from a USB endpoint. -/
inductive UsbCall (now : Nat) : QueueCall → Prop
  | pushed {record} (stamped : Stamped now record) : UsbCall now (.push PROTO_USB record)

section rules

variable {ok : Nat → QueueCall → Prop} {α : Type} {requestId : Nat}

instance : IsPreorder Bridge (BridgeFeeds ok) where
  refl s := refl_of (Feeds ok) s.machine
  trans _ _ _ := trans_of (Feeds ok)

theorem feeds_run {program : MachineM α} (h : Moves (Feeds ok) program) :
    Moves (BridgeFeeds ok) (machineOf.run program) := fun s => h s.machine

theorem feeds_onBoard {program : BoardM α} (h : CallsOnly (Guarded (fun _ => True) freePins) program) :
    Moves (BridgeFeeds ok) (onBoard program) :=
  fun s => (passes_board h s.machine).feeds

theorem feeds_call (c : HwCall) : Moves (BridgeFeeds ok) (onBoard (call c)) :=
  fun s => (passes_call c s.machine).feeds

theorem feeds_ask (c : HwCall) : Moves (BridgeFeeds ok) (onBoard (ask c)) :=
  fun s => (passes_call c s.machine).feeds

theorem feeds_update {f : Machine → Machine} (h : ∀ machine, (f machine).clocked = machine.clocked) :
    Moves (BridgeFeeds ok) (update f) := fun s => feeds_of_eq (h s.machine)

theorem feeds_getMachine : Moves (BridgeFeeds ok) getMachine := fun s => refl_of (BridgeFeeds ok) s

theorem feeds_sendResponse (response : Response) :
    Moves (BridgeFeeds ok) (sendResponse requestId response) :=
  fun s => refl_of (BridgeFeeds ok) s

theorem feeds_sendError (status : Nat) (error : String) :
    Moves (BridgeFeeds ok) (sendError requestId status error) := feeds_sendResponse _

theorem feeds_sendOk (metadata : Bytes) : Moves (BridgeFeeds ok) (sendOk requestId metadata) :=
  feeds_sendResponse _

theorem feeds_sendData (length : Nat) (metadata : Bytes) :
    Moves (BridgeFeeds ok) (sendData requestId length metadata) := fun s => refl_of (BridgeFeeds ok) s

theorem feeds_storeResponse (bytes : Bytes) :
    Moves (BridgeFeeds ok) (liftM (storeResponse bytes) : BridgeM Unit) :=
  feeds_run (feeds_of_passes (passes_storeResponse bytes))

theorem feeds_ensureBle : Moves (BridgeFeeds ok) (ensureBle requestId) := by
  unfold ensureBle
  refine moves_bind feeds_getMachine fun machine => moves_ite (fun _ => ?_) fun _ => ?_
  · exact moves_bind (feeds_sendError _ _) fun _ => moves_pure _
  · refine moves_ite (fun _ => moves_bind (feeds_update fun _ => rfl) fun _ => moves_pure _) fun _ => ?_
    refine moves_bind (feeds_ask _) fun begun => moves_ite (fun _ => ?_) fun _ => ?_
    · refine moves_bind (feeds_onBoard calls_setUpBle) fun _ => ?_
      exact moves_bind (feeds_update fun _ => rfl) fun _ => moves_pure _
    · exact moves_bind (feeds_sendError _ _) fun _ => moves_pure _

end rules

section handlers

variable {ok : Nat → QueueCall → Prop} {reader : TlvReader} {requestId : Nat}

theorem feeds_getStatus : Moves (BridgeFeeds ok) (getStatus requestId) := by
  refine moves_bind feeds_getMachine fun machine => ?_
  exact moves_bind (feeds_onBoard (calls_peerConnected _)) fun peer => feeds_sendOk _

theorem feeds_configureUart : Moves (BridgeFeeds ok) (configureUart reader requestId) := by
  unfold configureUart
  split
  next => exact feeds_sendError _ _
  next =>
    refine moves_bind (feeds_call _) fun _ => ?_
    exact moves_bind (feeds_update fun _ => rfl) fun _ => feeds_sendOk _

theorem feeds_beginCan (can : CanConfiguration) : Moves (BridgeFeeds ok) (beginCan can requestId) := by
  refine moves_bind (feeds_ask _) fun begun => moves_ite (fun _ => ?_) fun _ => feeds_sendError _ _
  exact moves_bind (feeds_update fun _ => rfl) fun _ => feeds_sendOk _

theorem feeds_configureCan : Moves (BridgeFeeds ok) (configureCan reader requestId) := by
  unfold configureCan
  split
  next => exact feeds_sendError _ _
  next can _ =>
    refine moves_bind feeds_getMachine fun machine => moves_ite (fun _ => ?_) fun _ => feeds_beginCan can
    split
    next => exact feeds_sendError _ _
    next => exact moves_bind (feeds_update fun _ => rfl) fun _ => feeds_beginCan can

theorem feeds_gpioConfigure : Moves (BridgeFeeds ok) (gpioConfigure reader requestId) := by
  unfold gpioConfigure
  split
  next => exact feeds_sendError _ _
  next gpio _ =>
    refine moves_bind feeds_getMachine fun machine => ?_
    split
    next => exact feeds_sendError _ _
    next =>
      refine moves_bind (feeds_update fun _ => rfl) fun _ => ?_
      refine moves_bind (feeds_onBoard (calls_setUpPin trivial)) fun _ => ?_
      refine moves_bind (feeds_update fun _ => rfl) fun _ => ?_
      refine moves_bind (feeds_onBoard (calls_readPin _)) fun value => ?_
      exact moves_bind (feeds_update fun _ => rfl) fun _ => feeds_sendOk _

theorem feeds_gpioWatch : Moves (BridgeFeeds ok) (gpioWatch reader requestId) := by
  unfold gpioWatch
  refine moves_bind feeds_getMachine fun machine => ?_
  split
  next => exact feeds_sendError _ _
  next =>
    refine moves_bind (feeds_update fun _ => rfl) fun _ => ?_
    refine moves_bind (feeds_onBoard (calls_readPin _)) fun value => ?_
    exact moves_bind (feeds_update fun _ => rfl) fun _ => feeds_sendOk _

theorem feeds_gpioOperation (operation : Operation) :
    Moves (BridgeFeeds ok) (gpioOperation operation reader requestId) := by
  unfold gpioOperation
  refine moves_bind feeds_getMachine fun machine => ?_
  split
  next => exact feeds_sendError _ _
  next =>
    refine moves_ite (fun _ => ?_) fun _ => ?_
    · refine moves_bind (feeds_onBoard (calls_readPin _)) fun value => ?_
      exact moves_bind (feeds_storeResponse _) fun _ => feeds_sendData _ _
    · split
      next => exact feeds_sendError _ _
      next =>
        refine moves_ite (fun _ => feeds_sendError _ _) fun _ => moves_ite (fun _ => ?_) fun _ => ?_
        · split
          next => exact feeds_sendError _ _
          next => exact moves_bind (feeds_onBoard (calls_pulsePin trivial)) fun _ => feeds_sendOk _
        · exact moves_bind (feeds_call _) fun _ => feeds_sendOk _

theorem feeds_spiExchange : Moves (BridgeFeeds ok) (spiExchange reader requestId) := by
  unfold spiExchange
  split
  next => exact feeds_sendError _ _
  next spi _ =>
    refine moves_bind feeds_getMachine fun machine => moves_ite (fun _ => feeds_sendError _ _) fun _ => ?_
    split
    next => exact feeds_sendError _ _
    next =>
      refine moves_bind (feeds_update fun _ => rfl) fun _ => ?_
      refine moves_bind (feeds_onBoard (calls_spiTransaction trivial)) fun received => ?_
      exact moves_bind (feeds_storeResponse _) fun _ => feeds_sendData _ _

theorem feeds_exchangeI2c (i2c : I2cTransaction) : Moves (BridgeFeeds ok) (exchangeI2c i2c requestId) := by
  unfold exchangeI2c
  refine moves_bind (feeds_onBoard (calls_wireTransaction fun _ => ⟨rfl, rfl⟩)) fun out => ?_
  refine moves_ite (fun _ => feeds_sendError _ _) fun _ => ?_
  refine moves_bind (feeds_storeResponse _) fun _ => ?_
  exact moves_ite (fun _ => feeds_sendError _ _) fun _ => feeds_sendData _ _

theorem feeds_i2cExchange : Moves (BridgeFeeds ok) (i2cExchange reader requestId) := by
  unfold i2cExchange
  split
  next => exact feeds_sendError _ _
  next i2c _ =>
    refine moves_bind feeds_getMachine fun machine => moves_ite (fun _ => ?_) fun _ => feeds_exchangeI2c i2c
    split
    next => exact feeds_sendError _ _
    next => exact moves_bind (feeds_update fun _ => rfl) fun _ => feeds_exchangeI2c i2c

theorem feeds_uartWriteOperation : Moves (BridgeFeeds ok) (uartWriteOperation reader requestId) := by
  unfold uartWriteOperation
  refine moves_bind feeds_getMachine fun machine => ?_
  split
  next => exact feeds_sendError _ _
  next =>
    refine moves_bind (feeds_call _) fun written => ?_
    exact moves_ite (fun _ => feeds_sendError _ _) fun _ => feeds_sendOk _

theorem feeds_canSend : Moves (BridgeFeeds ok) (canSend reader requestId) := by
  unfold canSend
  refine moves_bind feeds_getMachine fun machine => ?_
  split
  next => exact feeds_sendError _ _
  next =>
    refine moves_bind (feeds_call _) fun result => ?_
    exact moves_ite (fun _ => feeds_sendError _ _) fun _ => feeds_sendOk _

theorem feeds_wifiConnect : Moves (BridgeFeeds ok) (wifiConnect reader requestId) := by
  unfold wifiConnect
  refine moves_bind feeds_getMachine fun machine => moves_ite (fun _ => feeds_sendError _ _) fun _ => ?_
  split
  next => exact feeds_sendError _ _
  next =>
    refine moves_bind (feeds_update fun _ => rfl) fun _ => ?_
    refine moves_bind (feeds_onBoard (calls_joinWifi _ _)) fun connected => ?_
    refine moves_bind (feeds_update fun _ => rfl) fun _ => ?_
    refine moves_ite (fun _ => ?_) fun _ => feeds_sendOk _
    refine moves_bind (feeds_call _) fun _ => ?_
    exact moves_bind (feeds_update fun _ => rfl) fun _ => feeds_sendError _ _

theorem feeds_wifiDisconnect : Moves (BridgeFeeds ok) (wifiDisconnect requestId) := by
  unfold wifiDisconnect
  refine moves_bind feeds_getMachine fun machine => ?_
  refine moves_bind (feeds_onBoard (calls_stopSockets _ _)) fun _ => moves_bind (feeds_call _) fun _ => ?_
  exact moves_bind (feeds_update fun _ => rfl) fun _ => feeds_sendOk _

theorem feeds_wifiSocketOpen : Moves (BridgeFeeds ok) (wifiSocketOpen reader requestId) := by
  unfold wifiSocketOpen
  refine moves_bind feeds_getMachine fun machine => ?_
  split
  next => exact feeds_sendError _ _
  next =>
    split
    next => exact feeds_sendError _ _
    next =>
      refine moves_bind (feeds_onBoard (calls_openSocket _ _)) fun opened => ?_
      refine moves_ite (fun _ => ?_) fun _ => feeds_sendError _ _
      exact moves_bind (feeds_update fun _ => rfl) fun _ => feeds_sendOk _

theorem feeds_wifiSocketClose : Moves (BridgeFeeds ok) (wifiSocketClose reader requestId) := by
  unfold wifiSocketClose
  refine moves_bind feeds_getMachine fun machine => ?_
  split
  next => exact feeds_sendError _ _
  next =>
    refine moves_bind (feeds_onBoard (calls_stopSocket _)) fun _ => ?_
    exact moves_bind (feeds_update fun _ => rfl) fun _ => feeds_sendOk _

theorem feeds_wifiSend : Moves (BridgeFeeds ok) (wifiSend reader requestId) := by
  unfold wifiSend
  refine moves_bind feeds_getMachine fun machine => ?_
  split
  next => exact feeds_sendError _ _
  next =>
    refine moves_bind (feeds_onBoard (calls_writeSocket _ _ _)) fun written => ?_
    exact moves_ite (fun _ => feeds_sendError _ _) fun _ => feeds_sendOk _

theorem feeds_bleScan : Moves (BridgeFeeds ok) (bleScan reader requestId) := by
  unfold bleScan
  split
  next => exact feeds_sendError _ _
  next =>
    refine moves_bind feeds_ensureBle fun ready => moves_ite (fun _ => ?_) fun _ => moves_pure _
    refine moves_bind (feeds_onBoard (calls_startScan _)) fun started => ?_
    refine moves_ite (fun _ => ?_) fun _ => feeds_sendError _ _
    refine moves_bind (feeds_onBoard (calls_rounds _)) fun limit => ?_
    refine moves_bind (feeds_run (moves_iterate (fun _ => feeds_of_passes (passes_scanRound _)) _ _))
      fun listing => ?_
    exact moves_bind (feeds_call _) fun _ => feeds_sendOk _

theorem feeds_bleConnect : Moves (BridgeFeeds ok) (bleConnect reader requestId) := by
  unfold bleConnect
  split
  next => exact feeds_sendError _ _
  next =>
    refine moves_bind feeds_ensureBle fun ready => moves_ite (fun _ => ?_) fun _ => moves_pure _
    refine moves_bind (feeds_ask _) fun started => moves_ite (fun _ => ?_) fun _ => feeds_sendError _ _
    refine moves_bind (feeds_onBoard (calls_rounds _)) fun limit => ?_
    refine moves_bind (feeds_run (moves_iterate (fun _ => feeds_of_passes (passes_connectRound _ _)) _ _))
      fun found => ?_
    refine moves_bind (feeds_call _) fun _ => ?_
    split
    next => exact feeds_sendError _ _
    next =>
      refine moves_bind (feeds_ask _) fun connected => moves_ite (fun _ => ?_) fun _ => feeds_sendError _ _
      exact moves_bind (feeds_update fun _ => rfl) fun _ => feeds_sendOk _

theorem feeds_bleDisconnect : Moves (BridgeFeeds ok) (bleDisconnect requestId) := by
  unfold bleDisconnect
  refine moves_bind feeds_getMachine fun machine => ?_
  refine moves_bind (feeds_onBoard (calls_peerConnected _)) fun peer => ?_
  have hended : ∀ u : Unit, Moves (BridgeFeeds ok) (do
      let _ ← onBoard (call .bleEnd)
      update fun machine =>
        { machine with
          blePeer := none
          bleSubscription := none
          bleSubscribed := false
          expectedPairingCode := noPairingCode
          displayedPairingCode := noPairingCode
          bleInitialized := false
          radioMode := 0 }
      sendOk requestId (text "\x7b\"connected\":false,\"pairing_volatile\":true\x7d")) := by
    intro u
    refine moves_bind (feeds_call _) fun _ => ?_
    exact moves_bind (feeds_update fun _ => rfl) fun _ => feeds_sendOk _
  split
  next => exact moves_bind (feeds_call _) fun _ => hended ()
  next => exact hended ()

theorem feeds_blePairable (metadata : Bytes) : Moves (BridgeFeeds ok) (blePairable requestId metadata) :=
  moves_bind (feeds_call _) fun _ => feeds_sendOk _

theorem feeds_blePair : Moves (BridgeFeeds ok) (blePair reader requestId) := by
  unfold blePair
  refine moves_bind feeds_ensureBle fun ready => moves_ite (fun _ => ?_) fun _ => moves_pure _
  split
  next => exact moves_pure _
  next => exact moves_bind (feeds_update fun _ => rfl) fun _ => feeds_blePairable _
  next =>
    refine moves_bind (feeds_update fun _ => rfl) fun _ => ?_
    split
    next => exact feeds_sendError _ _
    next => exact moves_bind (feeds_update fun _ => rfl) fun _ => feeds_blePairable _

theorem feeds_bleDiscover : Moves (BridgeFeeds ok) (bleDiscover reader requestId) := by
  unfold bleDiscover
  refine moves_bind feeds_getMachine fun machine => ?_
  refine moves_bind (feeds_onBoard (calls_peerConnected _)) fun peer => ?_
  split
  next =>
    refine moves_bind (feeds_onBoard (calls_discoverPeer _ _)) fun discovered => ?_
    refine moves_ite (fun _ => ?_) fun _ => feeds_sendError _ _
    exact moves_bind (feeds_onBoard (calls_blePeerListing _)) fun listed => feeds_sendOk _
  next => exact feeds_sendError _ _

theorem feeds_bleSubscribe : Moves (BridgeFeeds ok) (bleSubscribe reader requestId) := by
  unfold bleSubscribe
  split
  next =>
    refine moves_bind feeds_getMachine fun machine => ?_
    refine moves_bind (feeds_onBoard (calls_findBleCharacteristic _ _)) fun characteristic => ?_
    split
    next => exact feeds_sendError _ _
    next =>
      refine moves_bind (feeds_onBoard (calls_changeSubscription _ _)) fun changed => ?_
      refine moves_ite (fun _ => ?_) fun _ => feeds_sendError _ _
      exact moves_bind (feeds_update fun _ => rfl) fun _ => feeds_sendOk _
  next => exact feeds_sendError _ _

theorem feeds_bleReadWrite (write : Bool) :
    Moves (BridgeFeeds ok) (bleReadWrite write reader requestId) := by
  unfold bleReadWrite
  split
  next => exact feeds_sendError _ _
  next =>
    refine moves_bind feeds_getMachine fun machine => ?_
    refine moves_bind (feeds_onBoard (calls_findBleCharacteristic _ _)) fun characteristic => ?_
    split
    next => exact feeds_sendError _ _
    next =>
      refine moves_ite (fun _ => ?_) fun _ => ?_
      · split
        next => exact feeds_sendError _ _
        next =>
          refine moves_bind (feeds_ask _) fun written => ?_
          exact moves_ite (fun _ => feeds_sendData _ _) fun _ => feeds_sendError _ _
      · refine moves_bind (feeds_call _) fun reply => moves_ite (fun _ => feeds_sendError _ _) fun _ => ?_
        exact moves_bind (feeds_storeResponse _) fun _ => feeds_sendData _ _

theorem feeds_usbEnumerate : Moves (BridgeFeeds ok) (usbEnumerate requestId) := by
  unfold usbEnumerate
  refine moves_bind feeds_getMachine fun machine => ?_
  exact moves_bind (feeds_onBoard (calls_usbDeviceList _ _ _)) fun listed => feeds_sendOk _

theorem feeds_usbSelect : Moves (BridgeFeeds ok) (usbSelect reader requestId) := by
  unfold usbSelect
  split
  next => exact feeds_sendError _ _
  next =>
    refine moves_bind feeds_getMachine fun machine => ?_
    refine moves_bind (feeds_onBoard (calls_usbMatching _ _)) fun found => ?_
    split
    next =>
      refine moves_bind (feeds_onBoard (calls_usbEnumerates _ _)) fun enumerated => ?_
      refine moves_ite (fun _ => ?_) fun _ => feeds_sendError _ _
      refine moves_bind (feeds_update fun _ => rfl) fun _ => ?_
      exact moves_bind (feeds_onBoard (calls_usbEndpointList _ _ _ _ _)) fun listed => feeds_sendOk _
    next => exact feeds_sendError _ _

theorem feeds_usbReset : Moves (BridgeFeeds ok) (usbReset requestId) := by
  unfold usbReset
  refine moves_bind feeds_getMachine fun machine => ?_
  split
  next => exact feeds_sendError _ _
  next =>
    refine moves_bind (feeds_ask _) fun failed => ?_
    exact moves_ite (fun _ => feeds_sendError _ _) fun _ => feeds_sendOk _

theorem feeds_usbRelease : Moves (BridgeFeeds ok) (usbRelease requestId) :=
  moves_bind (feeds_update fun _ => rfl) fun _ => feeds_sendOk _

theorem feeds_usbTransferred (usb : UsbTransfer) (done : Bool) (returned : Nat) :
    Moves (BridgeFeeds ok) (usbTransferred usb done returned requestId) :=
  moves_ite (fun _ => feeds_sendError _ _) fun _ => feeds_sendData _ _

theorem feeds_usbControl (device : Nat) (usb : UsbTransfer) (setup : UsbSetup) :
    Moves (BridgeFeeds ok) (usbControl device usb setup requestId) := by
  unfold usbControl
  refine moves_ite (fun _ => ?_) fun _ => ?_
  · refine moves_bind (feeds_call _) fun reply => moves_bind (feeds_storeResponse _) fun _ => ?_
    exact feeds_usbTransferred _ _ _
  · exact moves_bind (feeds_ask _) fun failed => feeds_usbTransferred _ _ _

/-- Only what an endpoint sent is queued. -/
theorem feeds_usbPipe (usb : UsbTransfer) (endpoint : Endpoint) :
    Moves (BridgeFeeds UsbCall) (usbPipe usb endpoint requestId) := by
  unfold usbPipe
  refine moves_ite (fun _ => ?_) fun _ => ?_
  · refine moves_bind (feeds_call _) fun reply => moves_bind (feeds_storeResponse _) fun _ => ?_
    refine moves_ite (fun _ => feeds_usbTransferred _ _ _) fun _ => ?_
    refine moves_bind (feeds_call _) fun transferred => moves_ite (fun _ => ?_) fun _ => ?_
    · refine moves_bind feeds_getMachine fun machine => ?_
      refine moves_bind (feeds_run fun machine => ?_) fun _ => feeds_usbTransferred _ _ _
      exact feeds_pushReceived fun record _ stamped => .pushed stamped
    · exact feeds_usbTransferred _ _ _
  · exact moves_bind (feeds_ask _) fun failed => feeds_usbTransferred _ _ _

theorem feeds_usbTransfer : Moves (BridgeFeeds UsbCall) (usbTransfer reader requestId) := by
  unfold usbTransfer
  refine moves_bind feeds_getMachine fun machine => ?_
  split
  next =>
    refine moves_ite (fun _ => ?_) fun _ => ?_
    · split
      next => exact feeds_sendError _ _
      next => exact feeds_usbControl _ _ _
    · refine moves_bind (feeds_onBoard (calls_selectedEndpoint _ _ _ _ _)) fun endpoint => ?_
      split
      next => exact feeds_sendError _ _
      next => exact feeds_usbPipe _ _
  next => exact feeds_sendError _ _

/-- No other handler calls the queues. -/
theorem feeds_runOperation {operation : Operation} (receive : operation ≠ .receive)
    (usbTransfer : operation ≠ .usbTransfer) :
    Moves (BridgeFeeds ok) (runOperation operation reader requestId) := by
  cases operation with
  | receive => exact absurd rfl receive
  | usbTransfer => exact absurd rfl usbTransfer
  | getStatus => exact feeds_getStatus
  | uartConfigure => exact feeds_configureUart
  | canConfigure => exact feeds_configureCan
  | usbEnumerate => exact feeds_usbEnumerate
  | usbSelect => exact feeds_usbSelect
  | usbReset => exact feeds_usbReset
  | usbRelease => exact feeds_usbRelease
  | wifiConnect => exact feeds_wifiConnect
  | wifiDisconnect => exact feeds_wifiDisconnect
  | wifiSocketOpen => exact feeds_wifiSocketOpen
  | wifiSocketClose => exact feeds_wifiSocketClose
  | bleScan => exact feeds_bleScan
  | bleConnect => exact feeds_bleConnect
  | bleDisconnect => exact feeds_bleDisconnect
  | blePair => exact feeds_blePair
  | bleDiscover => exact feeds_bleDiscover
  | bleSubscribe => exact feeds_bleSubscribe
  | gpioConfigure => exact feeds_gpioConfigure
  | gpioWatch => exact feeds_gpioWatch
  | spiExchange => exact feeds_spiExchange
  | i2cExchange => exact feeds_i2cExchange
  | uartWrite => exact feeds_uartWriteOperation
  | canSend => exact feeds_canSend
  | wifiSend => exact feeds_wifiSend
  | bleRead | bleWrite => exact feeds_bleReadWrite _
  | gpioRead | gpioWrite | gpioPulse => exact feeds_gpioOperation _

end handlers

section receive

variable {window : ReceiveWindow} {reader : TlvReader} {requestId : Nat}

/-- The polls of `receiveOperation`, until a record is there or the time is up. -/
def waitReceived (window : ReceiveWindow) : BridgeM Unit := do
  let limit ← onBoard (rounds window.timeout)
  machineOf.run (iterate (receiveRound window) limit ())

/-- The machine that `receiveOperation` reads the queue of. -/
def waitedMachine (window : ReceiveWindow) (s : Bridge) : Machine := (waitReceived window s).2.machine

/-- The machine behind the read. -/
def readMachine (window : ReceiveWindow) (s : Bridge) : Machine :=
  (readReceived window (waitedMachine window s)).2

/-- The answer of `receiveOperation`. -/
def receivedResponse (window : ReceiveWindow) (s : Bridge) : Response where
  status := kStatusOk
  data := responseBytes (readMachine window s) (readReceived window (waitedMachine window s)).1
  metadata := receiveMetadata window
  queueDepth := min
    ((readMachine window s).receiveQueue.depth window.protocol (UInt8.ofNat window.channel)) 65535
  overflow := (readMachine window s).receiveQueue.overflow window.protocol

theorem polls_waitedMachine (s : Bridge) : Polls s.machine (waitedMachine window s) := by
  have hrounds : Moves Passes (boardOf.run (rounds window.timeout)) :=
    passes_board (calls_rounds window.timeout)
  exact trans_of Polls (hrounds s.machine).polls (moves_iterate (polls_receiveRound window) _ _ _)

theorem receiveOperation_run (h : receiveWindow reader = some window) (s : Bridge) :
    (receiveOperation reader requestId s).2 =
      ⟨readMachine window s, (waitReceived window s).2.serial ++
        responseMessage requestId (receivedResponse window s) (timestampUs (readMachine window s))⟩ := by
  rw [receiveOperation, h]
  rfl

theorem waitReceived_serial (s : Bridge) : (waitReceived window s).2.serial = s.serial := rfl

/-- The answer holds what was read. -/
theorem receivedResponse_data (s : Bridge) :
    (receivedResponse window s).data =
      ((waitedMachine window s).receiveQueue.read window.protocol (UInt8.ofNat window.channel)
        window.limit (window.drain ≠ 0)).2 := by
  let out := (waitedMachine window s).receiveQueue.read window.protocol (UInt8.ofNat window.channel)
    window.limit (window.drain ≠ 0)
  change (List.range out.2.length).map (fun i => out.2.getD i ((waitedMachine window s).responseData i)) =
    out.2
  refine List.ext_getElem (by simp) fun i hi hi' => ?_
  simp [hi']

end receive

/-- The protocols that the event may queue records for. -/
def Event.queues : Event → Nat → Prop
  | .poll, protocol => protocol ≠ PROTO_USB
  | .request _ body, protocol =>
    match handledOperation body with
    | some .receive => protocol ≠ PROTO_USB
    | some .usbTransfer => protocol = PROTO_USB
    | _ => False

/-- What the event reads from the queues, where it is a receive with valid fields. -/
def Event.window : Event → Option ReceiveWindow
  | .poll => none
  | .request _ body =>
    if handledOperation body = some .receive then receiveWindow ⟨body⟩ else none

/-- The machine as the event leaves it, but for what a receive reads. -/
def Bridge.fed (s : Bridge) (event : Event) : Machine :=
  match event.window with
  | none => (s.after event).machine
  | some window => waitedMachine window s

/-- The records that an event queues. -/
inductive PushCall (event : Event) (now : Nat) : QueueCall → Prop
  | pushed {protocol record} (stamped : Stamped now record) (queues : event.queues protocol) :
      PushCall event now (.push protocol record)

section events

variable {requestId : Nat} {body : Bytes} {s : Bridge} {window : ReceiveWindow}

theorem polls_run {α : Type} {program : MachineM α} (h : Moves Polls program) (s : Bridge) :
    Polls s.machine (machineOf.run program s).2.machine := h s.machine

theorem polls_poll (s : Bridge) : Polls s.machine (s.after .poll).machine := polls_run polls_pollAll s

theorem feeds_polled {event : Event} {machine machine' : Machine} (h : Polls machine machine')
    (queues : ∀ protocol, protocol ≠ PROTO_USB → event.queues protocol) :
    Feeds (PushCall event) machine machine' := by
  refine h.2.mono fun now call hcall => ?_
  cases hcall with
  | pushed stamped usb => exact .pushed stamped (queues _ usb)

/-- A request other than a receive and a transfer leaves the queues alone, also where it is refused. -/
theorem feeds_request {ok : Nat → QueueCall → Prop} (receive : handledOperation body ≠ some .receive)
    (usbTransfer : handledOperation body ≠ some .usbTransfer) :
    Feeds ok s.machine (s.after (.request requestId body)).machine := by
  have hmoves : Moves (BridgeFeeds ok) (dispatch requestId body) := by
    rw [handledOperation] at receive usbTransfer
    unfold dispatch
    cases hnumber : operationNumber ⟨body⟩ with
    | none => exact feeds_sendError _ _
    | some number =>
      rw [hnumber] at receive usbTransfer
      dsimp only
      cases hoperation : Operation.ofNat? number with
      | none => exact feeds_sendError _ _
      | some operation =>
        refine feeds_runOperation (fun h => receive ?_) fun h => usbTransfer ?_
        · exact hoperation.trans (congrArg some h)
        · exact hoperation.trans (congrArg some h)
  exact hmoves s

theorem feeds_usbTransfer_event (h : handledOperation body = some .usbTransfer) :
    Feeds UsbCall s.machine (s.after (.request requestId body)).machine := by
  have hmoves : Moves (BridgeFeeds UsbCall) (dispatch requestId body) := by
    rw [dispatch_of_handled h, runOperation]
    exact feeds_usbTransfer
  exact hmoves s

theorem after_receive (h : handledOperation body = some .receive) :
    s.after (.request requestId body) = (receiveOperation ⟨body⟩ requestId s).2 := by
  rw [Bridge.after, Event.run, dispatch_of_handled h, runOperation]

theorem window_receive (h : handledOperation body = some .receive) :
    (Event.request requestId body).window = receiveWindow ⟨body⟩ := if_pos h

/-- Only a receive reads. -/
theorem receive_of_window (h : (Event.request requestId body).window = some window) :
    handledOperation body = some .receive ∧ receiveWindow ⟨body⟩ = some window := by
  by_cases hreceive : handledOperation body = some .receive
  · exact ⟨hreceive, (window_receive hreceive).symm.trans h⟩
  · have hnone : (Event.request requestId body).window = none := if_neg hreceive
    cases hnone.symm.trans h

theorem fed_of_window {event : Event} (h : event.window = some window) :
    s.fed event = waitedMachine window s := by
  rw [Bridge.fed, h]

theorem fed_of_none {event : Event} (h : event.window = none) : s.fed event = (s.after event).machine := by
  rw [Bridge.fed, h]

/-- A receive reads what it has waited for, and answers with it. -/
theorem after_of_window (h : (Event.request requestId body).window = some window) :
    s.after (.request requestId body) =
      ⟨readMachine window s, s.serial ++
        responseMessage requestId (receivedResponse window s) (timestampUs (readMachine window s))⟩ := by
  obtain ⟨hreceive, hwindow⟩ := receive_of_window h
  rw [after_receive hreceive, receiveOperation_run hwindow, waitReceived_serial]

/-- Up to the read, an event queues records and does nothing else to the queues. -/
theorem feeds_fed (event : Event) : Feeds (PushCall event) s.machine (s.fed event) := by
  cases hwindow : event.window with
  | some window =>
    rw [fed_of_window hwindow]
    cases event with
    | poll => cases hwindow
    | request requestId body =>
      refine feeds_polled (polls_waitedMachine s) fun protocol hprotocol => ?_
      rw [Event.queues, (receive_of_window hwindow).1]
      exact hprotocol
  | none =>
    rw [fed_of_none hwindow]
    cases event with
    | poll => exact feeds_polled (polls_poll s) fun _ h => h
    | request requestId body =>
      by_cases hreceive : handledOperation body = some .receive
      · rw [after_receive hreceive, receiveOperation, (window_receive hreceive).symm.trans hwindow]
        exact .refl
      · by_cases husb : handledOperation body = some .usbTransfer
        · refine (feeds_usbTransfer_event husb).mono fun now call hcall => ?_
          cases hcall with
          | pushed stamped =>
            refine .pushed stamped ?_
            rw [Event.queues, husb]
        · exact feeds_request hreceive husb

/-- From there on, at most one read is made. -/
theorem after_fed (event : Event) : (s.after event).machine.board = (s.fed event).board ∧
    (s.after event).machine.sockets = (s.fed event).sockets ∧
    ((s.after event).machine.receiveQueue = (s.fed event).receiveQueue ∨ ∃ protocol channel limit drain,
      (s.after event).machine.receiveQueue = ((s.fed event).receiveQueue.call
        (.read protocol channel limit drain)).1) := by
  cases hwindow : event.window with
  | none => exact ⟨by rw [fed_of_none hwindow], by rw [fed_of_none hwindow], .inl (by rw [fed_of_none hwindow])⟩
  | some window =>
    cases event with
    | poll => cases hwindow
    | request requestId body =>
      rw [fed_of_window hwindow, after_of_window hwindow]
      exact ⟨rfl, rfl, .inr ⟨_, _, _, _, rfl⟩⟩

end events

end JLinkMcp.Firmware
