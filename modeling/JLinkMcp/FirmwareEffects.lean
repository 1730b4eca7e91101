import JLinkMcp.FirmwareDispatchAnswers
import JLinkMcp.FirmwareSettings

namespace JLinkMcp.Firmware

open Codec StateProgram

/-- The owner an SPI exchange claims its chip select for. -/
def SpiTransfer.owner (spi : SpiTransfer) : Nat :=
  if spi.bus = 0 then kResourceOwnerSpi0 else kResourceOwnerSpi1

/-- The requests that change no setting whether they succeed or not. -/
def Operation.onlyAsks : Operation → Bool
  | .getStatus | .usbEnumerate | .usbSelect | .usbReset | .usbRelease | .usbTransfer | .uartWrite
  | .canSend | .bleDiscover | .bleSubscribe | .bleRead | .bleWrite | .gpioRead | .gpioWrite
  | .gpioPulse => true
  | _ => false

/-- What `ensureBle` leaves behind where it returns `true`. -/
def Settings.bleReady (c : Settings) : Settings := { c with bleInitialized := true, radioMode := 2 }

/-- Everything that a request can do to the settings, with the answer it gives. -/
inductive Effect (reader : TlvReader) (c : Settings) : Operation → Response → Settings → Prop
  | failed {operation response} (failed : response.status ≠ kStatusOk) :
      Effect reader c operation response c
  | asked {operation response} (asks : operation.onlyAsks = true) : Effect reader c operation response c
  | received {response c'} (ok : Succeeded response) (h : c' = c ∨ c' = c.paired) :
      Effect reader c .receive response c'
  | uartConfigured {response uart} (ok : Succeeded response)
      (h : uartConfiguration reader = some uart) :
      Effect reader c .uartConfigure response
        { c with uartConfigured := setAt c.uartConfigured uart.port true }
  | canConfigured {response can} (ok : Succeeded response)
      (h : canConfiguration reader = some can) (bus : can.bus ≠ 1) :
      Effect reader c .canConfigure response
        { c with canConfigured := setAt c.canConfigured can.bus true }
  | can1Configured {response can pins} (ok : Succeeded response)
      (h : canConfiguration reader = some can) (bus : can.bus = 1)
      (claimed : c.pinResources.claim 8 kResourceOwnerCan1 = some pins) :
      Effect reader c .canConfigure response
        { c with pinResources := pins, canConfigured := setAt c.canConfigured can.bus true }
  | can1Claimed {response can pins} (failed : response.status ≠ kStatusOk)
      (h : canConfiguration reader = some can) (bus : can.bus = 1)
      (claimed : c.pinResources.claim 8 kResourceOwnerCan1 = some pins) :
      Effect reader c .canConfigure response { c with pinResources := pins }
  | spiExchanged {response spi pins} (ok : Succeeded response)
      (h : spiTransfer reader = some spi)
      (claimed : c.pinResources.claim spi.chipSelect spi.owner = some pins) :
      Effect reader c .spiExchange response { c with pinResources := pins }
  | i2cExchanged {response i2c} (h : i2cTransaction reader = some i2c) (bus : i2c.bus ≠ 1) :
      Effect reader c .i2cExchange response c
  | i2c1Exchanged {response i2c pins} (h : i2cTransaction reader = some i2c) (bus : i2c.bus = 1)
      (claimed : c.pinResources.claimPair 8 9 kResourceOwnerI2c1 = some pins)
      (transfers : Succeeded response ∨
        response.status ≠ kStatusOk ∧ (i2c.writeData ≠ [] ∨ i2c.requestedRead ≠ 0)) :
      Effect reader c .i2cExchange response { c with pinResources := pins }
  | gpioConfigured {response gpio pins} (ok : Succeeded response)
      (h : gpioConfiguration reader = some gpio)
      (claimed : c.pinResources.claim gpio.pin kResourceOwnerGpio = some pins) :
      Effect reader c .gpioConfigure response
        { c with
          pinResources := pins
          gpioConfigured := setAt c.gpioConfigured gpio.pin true
          gpioOutput := setAt c.gpioOutput gpio.pin (gpio.mode = 1) }
  | gpioWatched {response watched} (ok : Succeeded response)
      (h : gpioWatched c.gpioConfigured reader = some watched) :
      Effect reader c .gpioWatch response
        { c with gpioEdge := setAt c.gpioEdge watched.pin watched.edge }
  | wifiConnected {response wifi} (ok : Succeeded response) (radio : c.radioMode ≠ 2)
      (h : wifiCredentials reader = some wifi) :
      Effect reader c .wifiConnect response { c with radioMode := 1, wifiConnected := true }
  | wifiLost {response wifi} (failed : response.status ≠ kStatusOk) (radio : c.radioMode ≠ 2)
      (h : wifiCredentials reader = some wifi) :
      Effect reader c .wifiConnect response { c with radioMode := 0, wifiConnected := false }
  | wifiDisconnected {response} (ok : Succeeded response) :
      Effect reader c .wifiDisconnect response
        { c with
          sockets := fun socket =>
            if socket < 8 then { c.sockets socket with used := false } else c.sockets socket
          wifiConnected := false
          radioMode := 0 }
  | socketOpened {response wifi socket} (ok : Succeeded response)
      (h : wifiSocket c.wifiConnected reader = some wifi)
      (free : (List.range 8).find? (fun socket => !(c.sockets socket).used) = some socket)
      (id : response.metadata = metadata [text "\x7b\"socket_id\":", decimal socket,
        text ",\"protocol\":\"", text (if wifi.protocol = 0 then "tcp" else "udp"), text "\"\x7d"]) :
      Effect reader c .wifiSocketOpen response
        { c with sockets :=
            setAt c.sockets socket ⟨true, wifi.protocol, (cString wifi.host).take 253, wifi.port⟩ }
  | socketClosed {response socket} (ok : Succeeded response)
      (h : wifiSocketId (fun socket => (c.sockets socket).used) reader = some socket) :
      Effect reader c .wifiSocketClose response
        { c with sockets := setAt c.sockets socket { c.sockets socket with used := false } }
  | wifiSent {response output} (ok : Succeeded response)
      (h : wifiOutput (fun socket => (c.sockets socket).used) reader = some output) :
      Effect reader c .wifiSend response c
  | bleStarted {operation response} (ble : operation = .bleScan ∨ operation = .bleConnect)
      (radio : c.radioMode ≠ 1) : Effect reader c operation response c.bleReady
  | blePaired {response} (code : Nat) (ok : Succeeded response) (radio : c.radioMode ≠ 1) :
      Effect reader c .blePair response { c.bleReady with expectedPairingCode := code }
  | pairRefused {response} (failed : response.status ≠ kStatusOk) (radio : c.radioMode ≠ 1)
      (h : passkeyRefused reader) :
      Effect reader c .blePair response { c.bleReady with expectedPairingCode := noPairingCode }
  | bleDisconnected {response} (ok : Succeeded response) :
      Effect reader c .bleDisconnect response
        { c with expectedPairingCode := noPairingCode, bleInitialized := false, radioMode := 0 }

/-- The machine is left with the settings, under the same owners and by guarded calls. -/
def Leaves (drives : Nat → Prop) (c : Settings) (s s' : Bridge) : Prop :=
  s'.machine.settings = c ∧
    Issues (Guarded drives s.machine.pinResources) s.machine.board s'.machine.board

/-- From the settings `c` on, the program answers once, with an outcome as described. -/
def Acts (requestId : Nat) (drives : Nat → Prop) (outcome : Response → Settings → Prop) (c : Settings)
    (program : BridgeM Unit) : Prop :=
  ∀ s, s.machine.settings = c → Ends program (fun _ s' => ∃ response machine c',
    outcome response c' ∧ s'.serial = s.serial ++ responseMessage requestId response (timestampUs machine) ∧
      Leaves drives c' s s') s

section rules

variable {requestId : Nat} {drives : Nat → Prop} {outcome : Response → Settings → Prop} {c : Settings}
    {α : Type}

theorem acts_run_value {program : MachineM α} {next : α → BridgeM Unit} {value : α → Prop}
    (h : Moves (Keeps drives) program) (hvalue : ∀ machine, value (program machine).1)
    (hnext : ∀ a, value a → Acts requestId drives outcome c (next a)) :
    Acts requestId drives outcome c (machineOf.run program >>= next) := by
  rintro s rfl
  obtain ⟨hsettings, hissues⟩ := h s.machine
  obtain ⟨response, machine, c', hout, hserial, hleft, hissues'⟩ :=
    hnext _ (hvalue s.machine) ⟨(program s.machine).2, s.serial⟩ hsettings
  rw [pinResources_of_settings hsettings] at hissues'
  exact ⟨response, machine, c', hout, hserial, hleft, trans_of (Issues _) hissues hissues'⟩

theorem acts_run {program : MachineM α} {next : α → BridgeM Unit} (h : Moves (Keeps drives) program)
    (hnext : ∀ a, Acts requestId drives outcome c (next a)) :
    Acts requestId drives outcome c (machineOf.run program >>= next) :=
  @acts_run_value _ _ _ _ _ _ _ (fun _ => True) h (fun _ => trivial) fun a _ => hnext a

/-- Meanwhile a pairing may have been noticed. -/
theorem acts_polled {program : MachineM α} {next : α → BridgeM Unit} (h : Moves Polled program)
    (hnext : ∀ a c', c' = c ∨ c' = c.paired → Acts requestId (fun _ => False) outcome c' (next a)) :
    Acts requestId (fun _ => False) outcome c (machineOf.run program >>= next) := by
  rintro s rfl
  obtain ⟨hsettings, hissues⟩ := h s.machine
  obtain ⟨response, machine, c', hout, hserial, hleft, hissues'⟩ :=
    hnext (program s.machine).1 _ hsettings ⟨(program s.machine).2, s.serial⟩ rfl
  have hpins : (program s.machine).2.pinResources = s.machine.pinResources := hissues.1
  rw [hpins] at hissues'
  exact ⟨response, machine, c', hout, hserial, hleft, trans_of (Issues _) hissues hissues'⟩

theorem acts_onBoard_value {program : BoardM α} {next : α → BridgeM Unit} {value : α → Prop}
    (h : CallsOnly (Guarded drives c.pinResources) program)
    (hvalue : ∀ board, value (program board).1)
    (hnext : ∀ a, value a → Acts requestId drives outcome c (next a)) :
    Acts requestId drives outcome c (onBoard program >>= next) := by
  rintro s rfl
  obtain ⟨hpins, hcalls⟩ := h.issues s.machine.board
  have hsettings : { s.machine with board := (program s.machine.board).2 }.settings =
      s.machine.settings := congrArg (fun pins => { s.machine.settings with pinResources := pins }) hpins
  obtain ⟨response, machine, c', hout, hserial, hleft, hissues'⟩ :=
    hnext _ (hvalue s.machine.board) ⟨_, s.serial⟩ hsettings
  rw [pinResources_of_settings hsettings] at hissues'
  exact ⟨response, machine, c', hout, hserial, hleft, trans_of (Issues _) ⟨hpins, hcalls⟩ hissues'⟩

theorem acts_onBoard {program : BoardM α} {next : α → BridgeM Unit}
    (h : CallsOnly (Guarded drives c.pinResources) program)
    (hnext : ∀ a, Acts requestId drives outcome c (next a)) :
    Acts requestId drives outcome c (onBoard program >>= next) :=
  @acts_onBoard_value _ _ _ _ _ _ _ (fun _ => True) h (fun _ => trivial) fun a _ => hnext a

theorem acts_getMachine {next : Machine → BridgeM Unit}
    (hnext : ∀ machine, machine.settings = c → Acts requestId drives outcome c (next machine)) :
    Acts requestId drives outcome c (getMachine >>= next) :=
  fun s hs => hnext s.machine hs s hs

/-- The sketch changes its variables, but neither the owners nor the hardware. -/
theorem acts_update {f : Machine → Machine} {next : Unit → BridgeM Unit} (g : Settings → Settings)
    (hsettings : ∀ machine, (f machine).settings = g machine.settings)
    (hboard : ∀ machine, (f machine).board = machine.board)
    (hnext : ∀ u, Acts requestId drives outcome (g c) (next u)) :
    Acts requestId drives outcome c (update f >>= next) := by
  rintro s rfl
  obtain ⟨response, machine, c', hout, hserial, hleft, hissues⟩ :=
    hnext () ⟨f s.machine, s.serial⟩ (hsettings s.machine)
  rw [Machine.pinResources, hboard] at hissues
  exact ⟨response, machine, c', hout, hserial, hleft, hissues⟩

theorem acts_sendResponse {response : Response} (h : outcome response c) :
    Acts requestId drives outcome c (sendResponse requestId response) := by
  rintro s rfl
  exact ⟨response, s.machine, s.machine.settings, h, rfl, rfl, refl_of (Issues _) s.machine.board⟩

theorem acts_sendFitting {length : Nat} {text : Bytes} (short : text.length < kMaxMetadata)
    (room : length + text.length ≤ 65000)
    (h : ∀ response : Response, Succeeded response → outcome response c) :
    Acts requestId drives outcome c (sendData requestId length text) := by
  rintro s rfl
  refine ⟨_, s.machine, s.machine.settings, h _ ⟨rfl, rfl, short, ?_⟩, rfl, rfl,
    refl_of (Issues _) s.machine.board⟩
  simpa [responseBytes] using room

theorem acts_sendData {length : Nat} {text : Bytes}
    (h : ∀ response : Response, response.status = kStatusOk → outcome response c) :
    Acts requestId drives outcome c (sendData requestId length text) := by
  rintro s rfl
  exact ⟨_, s.machine, s.machine.settings, h _ rfl, rfl, rfl, refl_of (Issues _) s.machine.board⟩

/-- `ensureBle` has answered where it returns `false`, and the handler stops there. -/
theorem acts_ensureBle {next : BridgeM Unit}
    (refused : ∀ response : Response, response.status ≠ kStatusOk → outcome response c)
    (h : c.radioMode ≠ 1 → Acts requestId drives outcome c.bleReady next) :
    Acts requestId drives outcome c (do if ← ensureBle requestId then next) := by
  unfold ensureBle
  rw [bind_assoc]
  refine acts_getMachine fun machine hmachine => ?_
  have hradio : machine.radioMode = c.radioMode := congrArg Settings.radioMode hmachine
  have hinitialized : machine.bleInitialized = c.bleInitialized :=
    congrArg Settings.bleInitialized hmachine
  split
  · rw [bind_assoc]
    exact acts_sendResponse (refused _ (by decide))
  next hmode =>
    rw [hradio] at hmode
    split
    next hready =>
      rw [bind_assoc]
      have hc : { c with radioMode := 2 } = c.bleReady := by
        rw [hinitialized] at hready
        rw [Settings.bleReady, ← hready]
      refine acts_update (fun c => { c with radioMode := 2 }) (fun _ => rfl) (fun _ => rfl) fun _ => ?_
      rw [hc]
      exact h hmode
    next =>
      rw [bind_assoc]
      refine acts_onBoard (calls_ask trivial) fun begun => ?_
      split
      · rw [bind_assoc]
        refine acts_onBoard calls_setUpBle fun _ => ?_
        rw [bind_assoc]
        exact acts_update Settings.bleReady (fun _ => rfl) (fun _ => rfl) fun _ => h hmode
      · rw [bind_assoc]
        exact acts_sendResponse (refused _ (by decide))

end rules

section handlers

variable {reader : TlvReader} {requestId : Nat} {drives : Nat → Prop} {c : Settings}
    {operation : Operation}

theorem acts_failed {status : Nat} {error : String} (failed : status ≠ kStatusOk) :
    Acts requestId drives (Effect reader c operation) c (sendError requestId status error) :=
  acts_sendResponse (.failed failed)

theorem acts_configureUart :
    Acts requestId drives (Effect reader c .uartConfigure) c (configureUart reader requestId) := by
  unfold configureUart
  split
  next => exact acts_failed (by decide)
  next uart h =>
    refine acts_onBoard (calls_call trivial) fun _ => ?_
    refine acts_update (fun c => { c with uartConfigured := setAt c.uartConfigured uart.port true })
      (fun _ => rfl) (fun _ => rfl) fun _ => ?_
    exact acts_sendResponse (.uartConfigured (succeeded_ok (metadata_length_lt _)) h)

/-- The settings where the controller begins, and where it does not. -/
theorem acts_beginCan {can : CanConfiguration} {outcome : Response → Settings → Prop}
    (owned : can.bus = 1 → c.pinResources.owners 8 = kResourceOwnerCan1)
    (begun : ∀ response : Response, Succeeded response →
      outcome response { c with canConfigured := setAt c.canConfigured can.bus true })
    (failed : ∀ response : Response, response.status ≠ kStatusOk → outcome response c) :
    Acts requestId drives outcome c (beginCan can requestId) := by
  unfold beginCan
  refine acts_onBoard (calls_ask owned) fun ok => ?_
  split
  · refine acts_update (fun c => { c with canConfigured := setAt c.canConfigured can.bus true })
      (fun _ => rfl) (fun _ => rfl) fun _ => ?_
    exact acts_sendResponse (begun _ (succeeded_ok (metadata_length_lt _)))
  · exact acts_sendResponse (failed _ (by decide))

theorem acts_exchangeI2c {i2c : I2cTransaction} {outcome : Response → Settings → Prop}
    (owned : i2c.bus = 1 → c.pinResources.owners 8 = kResourceOwnerI2c1 ∧
      c.pinResources.owners 9 = kResourceOwnerI2c1)
    (short : i2c.requestedRead ≤ 32)
    (h : ∀ response : Response, (Succeeded response ∨
      response.status ≠ kStatusOk ∧ (i2c.writeData ≠ [] ∨ i2c.requestedRead ≠ 0)) → outcome response c) :
    Acts requestId drives outcome c (exchangeI2c i2c requestId) := by
  unfold exchangeI2c
  -- an empty transaction reads nothing and succeeds
  refine @acts_onBoard_value _ _ _ _ _ _ _
    (fun out => i2c.writeData = [] → i2c.requestedRead = 0 → out = (true, []))
    (calls_wireTransaction owned) (fun board hwrite hread => ?_) fun out hout => ?_
  · simp only [wireTransaction, hwrite, hread]
    rfl
  · obtain ⟨written, received⟩ := out
    have htransfers : (i2c.writeData = [] → i2c.requestedRead = 0 → False) →
        i2c.writeData ≠ [] ∨ i2c.requestedRead ≠ 0 :=
      fun hne => or_iff_not_imp_left.mpr fun hwrite hread => hne (not_not.mp hwrite) hread
    dsimp only
    split
    next hfailed =>
      refine acts_sendResponse (h _ (.inr ⟨by decide, htransfers fun hwrite hread => ?_⟩))
      obtain ⟨rfl, -⟩ := Prod.mk.inj (hout hwrite hread)
      cases hfailed
    next =>
      refine acts_run (keeps_storeResponse _) fun _ => ?_
      split
      next hshort =>
        refine acts_sendResponse (h _ (.inr ⟨by decide, htransfers fun hwrite hread => ?_⟩))
        obtain ⟨-, rfl⟩ := Prod.mk.inj (hout hwrite hread)
        exact hshort hread.symm
      next hlen =>
        have hmetadata := metadata_length_lt [text "\x7b\"bus\":", decimal i2c.bus, text ",\"address\":",
          decimal i2c.address, text ",\"clock_hz\":", decimal i2c.clock,
          text ",\"reserved_bus\":\"Wire1\"\x7d"]
        refine acts_sendFitting hmetadata ?_ fun response hok => h response (.inl hok)
        simp only [kMaxMetadata] at hmetadata
        omega

theorem acts_uartWriteOperation :
    Acts requestId drives (Effect reader c .uartWrite) c (uartWriteOperation reader requestId) := by
  unfold uartWriteOperation
  refine acts_getMachine fun machine _ => ?_
  split
  · exact acts_failed (by decide)
  · refine acts_onBoard (calls_call trivial) fun _ => ?_
    split <;> exact acts_sendResponse (.asked rfl)

theorem acts_canSend :
    Acts requestId drives (Effect reader c .canSend) c (canSend reader requestId) := by
  unfold canSend
  refine acts_getMachine fun machine _ => ?_
  split
  · exact acts_failed (by decide)
  · refine acts_onBoard (calls_call trivial) fun _ => ?_
    split <;> exact acts_sendResponse (.asked rfl)

theorem acts_gpioWatch :
    Acts requestId drives (Effect reader c .gpioWatch) c (gpioWatch reader requestId) := by
  unfold gpioWatch
  refine acts_getMachine fun machine hmachine => ?_
  have hconfigured : machine.gpioConfigured = c.gpioConfigured :=
    congrArg Settings.gpioConfigured hmachine
  rw [hconfigured]
  split
  · exact acts_failed (by decide)
  next watched h =>
    refine acts_update (fun c => { c with gpioEdge := setAt c.gpioEdge watched.pin watched.edge })
      (fun _ => rfl) (fun _ => rfl) fun _ => ?_
    refine acts_onBoard (calls_readPin _) fun value => ?_
    refine acts_update id (fun _ => rfl) (fun _ => rfl) fun _ => ?_
    exact acts_sendResponse (.gpioWatched (succeeded_ok (metadata_length_lt _)) h)

/-- The pin is driven only after it was found configured. -/
theorem acts_gpioOperation (asks : operation.onlyAsks = true) :
    Acts requestId (fun pin => c.gpioConfigured pin = true) (Effect reader c operation) c
      (gpioOperation operation reader requestId) := by
  unfold gpioOperation
  refine acts_getMachine fun machine hmachine => ?_
  have hconfigured : machine.gpioConfigured = c.gpioConfigured :=
    congrArg Settings.gpioConfigured hmachine
  rw [hconfigured]
  split
  · exact acts_failed (by decide)
  next pin hpin =>
    have hdrives : c.gpioConfigured pin = true := by
      simp only [gpioPin, Option.bind_eq_bind, Option.bind_eq_some_iff, guard_eq_some, pure,
        Option.some.injEq] at hpin
      obtain ⟨pin, -, -, hguard, rfl⟩ := hpin
      exact hguard.2
    split
    · refine acts_onBoard (calls_readPin _) fun value => acts_run (keeps_storeResponse _) fun _ => ?_
      exact acts_sendData fun _ _ => .asked asks
    · split
      · exact acts_failed (by decide)
      · split
        · exact acts_failed (by decide)
        · split
          · split
            · exact acts_failed (by decide)
            · exact acts_onBoard (calls_pulsePin hdrives) fun _ => acts_sendResponse (.asked asks)
          · exact acts_onBoard (calls_call hdrives) fun _ => acts_sendResponse (.asked asks)

theorem acts_wifiConnect :
    Acts requestId drives (Effect reader c .wifiConnect) c (wifiConnect reader requestId) := by
  unfold wifiConnect
  refine acts_getMachine fun machine hmachine => ?_
  have hradio : machine.radioMode = c.radioMode := congrArg Settings.radioMode hmachine
  split
  · exact acts_failed (by decide)
  next hmode =>
    rw [hradio] at hmode
    split
    · exact acts_failed (by decide)
    next wifi h =>
      refine acts_update (fun c => { c with radioMode := 1 }) (fun _ => rfl) (fun _ => rfl) fun _ => ?_
      refine acts_onBoard (calls_joinWifi _ _) fun connected => ?_
      refine acts_update (fun c => { c with wifiConnected := connected }) (fun _ => rfl) (fun _ => rfl)
        fun _ => ?_
      cases connected with
      | false =>
        refine acts_onBoard (calls_call trivial) fun _ => ?_
        refine acts_update (fun c => { c with radioMode := 0 }) (fun _ => rfl) (fun _ => rfl) fun _ => ?_
        exact acts_sendResponse (.wifiLost (by decide) hmode h)
      | true => exact acts_sendResponse (.wifiConnected (succeeded_ok (by decide)) hmode h)

theorem acts_wifiDisconnect :
    Acts requestId drives (Effect reader c .wifiDisconnect) c (wifiDisconnect requestId) := by
  unfold wifiDisconnect
  refine acts_getMachine fun machine hmachine => ?_
  have hsockets : machine.sockets = c.sockets := congrArg Settings.sockets hmachine
  refine acts_onBoard (calls_stopSockets _ _) fun _ => acts_onBoard (calls_call trivial) fun _ => ?_
  refine acts_update (fun c => { c with
      sockets := fun socket =>
        if socket < 8 then { c.sockets socket with used := false } else c.sockets socket
      wifiConnected := false
      radioMode := 0 }) (fun _ => rfl) (fun _ => rfl) fun _ => ?_
  exact acts_sendResponse (.wifiDisconnected (succeeded_ok (by decide)))

theorem acts_wifiSocketOpen :
    Acts requestId drives (Effect reader c .wifiSocketOpen) c (wifiSocketOpen reader requestId) := by
  unfold wifiSocketOpen
  refine acts_getMachine fun machine hmachine => ?_
  have hconnected : machine.wifiConnected = c.wifiConnected := congrArg Settings.wifiConnected hmachine
  have hsockets : machine.sockets = c.sockets := congrArg Settings.sockets hmachine
  rw [hconnected, hsockets]
  split
  · exact acts_failed (by decide)
  next wifi h =>
    split
    · exact acts_failed (by decide)
    next socket hfree =>
      refine acts_onBoard (calls_openSocket _ _) fun opened => ?_
      split
      · refine acts_update (fun c => { c with
          sockets := setAt c.sockets socket
            ⟨true, wifi.protocol, (cString wifi.host).take 253, wifi.port⟩ })
          (fun _ => rfl) (fun _ => rfl) fun _ => ?_
        exact acts_sendResponse (.socketOpened (succeeded_ok (metadata_length_lt _)) h hfree rfl)
      · exact acts_failed (by decide)

theorem acts_wifiSocketClose :
    Acts requestId drives (Effect reader c .wifiSocketClose) c (wifiSocketClose reader requestId) := by
  unfold wifiSocketClose
  refine acts_getMachine fun machine hmachine => ?_
  have hsockets : machine.sockets = c.sockets := congrArg Settings.sockets hmachine
  rw [hsockets]
  split
  · exact acts_failed (by decide)
  next socket h =>
    refine acts_onBoard (calls_stopSocket _) fun _ => ?_
    refine acts_update (fun c => { c with
      sockets := setAt c.sockets socket { c.sockets socket with used := false } })
      (fun _ => rfl) (fun _ => rfl) fun _ => ?_
    exact acts_sendResponse (.socketClosed (succeeded_ok (metadata_length_lt _)) h)

theorem acts_wifiSend :
    Acts requestId drives (Effect reader c .wifiSend) c (wifiSend reader requestId) := by
  unfold wifiSend
  refine acts_getMachine fun machine hmachine => ?_
  have hsockets : machine.sockets = c.sockets := congrArg Settings.sockets hmachine
  rw [hsockets]
  split
  · exact acts_failed (by decide)
  next output h =>
    refine acts_onBoard (calls_writeSocket _ _ _) fun written => ?_
    split
    · exact acts_failed (by decide)
    · exact acts_sendResponse (.wifiSent (succeeded_ok (metadata_length_lt _)) h)

theorem acts_bleScan :
    Acts requestId drives (Effect reader c .bleScan) c (bleScan reader requestId) := by
  unfold bleScan
  split
  · exact acts_failed (by decide)
  · refine acts_ensureBle (fun _ => .failed) fun hradio => ?_
    have hstarted : ∀ response, Effect reader c .bleScan response c.bleReady :=
      fun _ => .bleStarted (.inl rfl) hradio
    refine acts_onBoard (calls_startScan _) fun started => ?_
    split
    · refine acts_onBoard (calls_rounds _) fun limit => ?_
      refine acts_run (moves_iterate keeps_scanRound _ _) fun listing => ?_
      exact acts_onBoard (calls_call trivial) fun _ => acts_sendResponse (hstarted _)
    · exact acts_sendResponse (hstarted _)

theorem acts_bleConnect :
    Acts requestId drives (Effect reader c .bleConnect) c (bleConnect reader requestId) := by
  unfold bleConnect
  split
  · exact acts_failed (by decide)
  · refine acts_ensureBle (fun _ => .failed) fun hradio => ?_
    have hstarted : ∀ response, Effect reader c .bleConnect response c.bleReady :=
      fun _ => .bleStarted (.inr rfl) hradio
    refine acts_onBoard (calls_ask trivial) fun started => ?_
    split
    · refine acts_onBoard (calls_rounds _) fun limit => ?_
      refine acts_run (moves_iterate (keeps_connectRound _) _ _) fun found => ?_
      refine acts_onBoard (calls_call trivial) fun _ => ?_
      split
      · exact acts_sendResponse (hstarted _)
      · refine acts_onBoard (calls_ask trivial) fun connected => ?_
        split
        · refine acts_update id (fun _ => rfl) (fun _ => rfl) fun _ => ?_
          exact acts_sendResponse (hstarted _)
        · exact acts_sendResponse (hstarted _)
    · exact acts_sendResponse (hstarted _)

theorem acts_blePair :
    Acts requestId drives (Effect reader c .blePair) c (blePair reader requestId) := by
  unfold blePair
  refine acts_ensureBle (fun _ => .failed) fun hradio => ?_
  split
  next h =>
    -- a field that may be missing is never an error of `bytes`
    exact absurd h (by unfold TlvReader.bytes; split <;> simp)
  next h =>
    refine acts_update (fun c => { c with expectedPairingCode := noPairingCode }) (fun _ => rfl)
      (fun _ => rfl) fun _ => ?_
    exact acts_onBoard (calls_call trivial) fun _ =>
      acts_sendResponse (.blePaired _ (succeeded_ok (by decide)) hradio)
  next passkey hpasskey =>
    refine acts_update (fun c => { c with expectedPairingCode := noPairingCode }) (fun _ => rfl)
      (fun _ => rfl) fun _ => ?_
    split
    next h => exact acts_sendResponse (.pairRefused (by decide) hradio ⟨passkey, hpasskey, h⟩)
    next value h =>
      refine acts_update (fun c => { c with expectedPairingCode := value }) (fun _ => rfl)
        (fun _ => rfl) fun _ => ?_
      exact acts_onBoard (calls_call trivial) fun _ =>
        acts_sendResponse (.blePaired _ (succeeded_ok (by decide)) hradio)

theorem acts_bleDisconnect :
    Acts requestId drives (Effect reader c .bleDisconnect) c (bleDisconnect requestId) := by
  unfold bleDisconnect
  refine acts_getMachine fun machine _ => ?_
  refine acts_onBoard (calls_peerConnected _) fun peer => ?_
  have hended : Acts requestId drives (Effect reader c .bleDisconnect) c (do
      let _ ← onBoard (call .bleEnd)
      update fun machine =>
        { machine with
          blePeer := none
          bleSubscription := none
          bleSubscribed := false
          expectedPairingCode := noPairingCode
          displayedPairingCode := noPairingCode
          bleInitialized := false
          radioMode := 0 }
      sendOk requestId (text "\x7b\"connected\":false,\"pairing_volatile\":true\x7d")) := by
    refine acts_onBoard (calls_call trivial) fun _ => ?_
    refine acts_update (fun c => { c with
      expectedPairingCode := noPairingCode, bleInitialized := false, radioMode := 0 })
      (fun _ => rfl) (fun _ => rfl) fun _ => ?_
    exact acts_sendResponse (.bleDisconnected (succeeded_ok (by decide)))
  split
  · exact acts_onBoard (calls_call trivial) fun _ => hended
  · exact hended

theorem acts_getStatus :
    Acts requestId drives (Effect reader c .getStatus) c (getStatus requestId) := by
  unfold getStatus
  refine acts_getMachine fun machine _ => ?_
  exact acts_onBoard (calls_peerConnected _) fun peer => acts_sendResponse (.asked rfl)

theorem acts_usbEnumerate :
    Acts requestId drives (Effect reader c .usbEnumerate) c (usbEnumerate requestId) := by
  unfold usbEnumerate
  refine acts_getMachine fun machine _ => ?_
  exact acts_onBoard (calls_usbDeviceList _ _ _) fun listed => acts_sendResponse (.asked rfl)

theorem acts_usbSelect :
    Acts requestId drives (Effect reader c .usbSelect) c (usbSelect reader requestId) := by
  unfold usbSelect
  split
  · exact acts_failed (by decide)
  · refine acts_getMachine fun machine _ => ?_
    refine acts_onBoard (calls_usbMatching _ _) fun found => ?_
    split
    · refine acts_onBoard (calls_usbEnumerates _ _) fun enumerated => ?_
      split
      · refine acts_update id (fun _ => rfl) (fun _ => rfl) fun _ => ?_
        exact acts_onBoard (calls_usbEndpointList _ _ _ _ _) fun listed => acts_sendResponse (.asked rfl)
      · exact acts_failed (by decide)
    · exact acts_failed (by decide)

theorem acts_usbReset :
    Acts requestId drives (Effect reader c .usbReset) c (usbReset requestId) := by
  unfold usbReset
  refine acts_getMachine fun machine _ => ?_
  split
  · exact acts_failed (by decide)
  · refine acts_onBoard (calls_ask trivial) fun failed => ?_
    split <;> exact acts_sendResponse (.asked rfl)

theorem acts_usbRelease :
    Acts requestId drives (Effect reader c .usbRelease) c (usbRelease requestId) := by
  unfold usbRelease
  exact acts_update id (fun _ => rfl) (fun _ => rfl) fun _ => acts_sendResponse (.asked rfl)

theorem acts_usbTransferred {usb : UsbTransfer} {ok : Bool} {returned : Nat} :
    Acts requestId drives (Effect reader c .usbTransfer) c (usbTransferred usb ok returned requestId) := by
  unfold usbTransferred
  split
  · exact acts_failed (by decide)
  · exact acts_sendData fun _ _ => .asked rfl

theorem acts_usbControl {device : Nat} {usb : UsbTransfer} {setup : UsbSetup} :
    Acts requestId drives (Effect reader c .usbTransfer) c (usbControl device usb setup requestId) := by
  unfold usbControl
  split
  · refine acts_onBoard (calls_call trivial) fun reply => ?_
    exact acts_run (keeps_storeResponse _) fun _ => acts_usbTransferred
  · exact acts_onBoard (calls_ask trivial) fun failed => acts_usbTransferred

theorem acts_usbPipe {usb : UsbTransfer} {endpoint : Endpoint} :
    Acts requestId drives (Effect reader c .usbTransfer) c (usbPipe usb endpoint requestId) := by
  unfold usbPipe
  split
  · refine acts_onBoard (calls_call trivial) fun reply => acts_run (keeps_storeResponse _) fun _ => ?_
    split
    · exact acts_usbTransferred
    · refine acts_onBoard (calls_call trivial) fun transferred => ?_
      dsimp only
      split
      · refine acts_getMachine fun machine _ => ?_
        exact acts_run (keeps_pushReceived _ _ _) fun _ => acts_usbTransferred
      · exact acts_usbTransferred
  · exact acts_onBoard (calls_ask trivial) fun failed => acts_usbTransferred

theorem acts_usbTransfer :
    Acts requestId drives (Effect reader c .usbTransfer) c (usbTransfer reader requestId) := by
  unfold usbTransfer
  refine acts_getMachine fun machine _ => ?_
  split
  · split
    · split
      · exact acts_failed (by decide)
      · exact acts_usbControl
    · refine acts_onBoard (calls_selectedEndpoint _ _ _ _ _) fun endpoint => ?_
      split
      · exact acts_failed (by decide)
      · exact acts_usbPipe
  · exact acts_failed (by decide)

theorem acts_bleDiscover :
    Acts requestId drives (Effect reader c .bleDiscover) c (bleDiscover reader requestId) := by
  unfold bleDiscover
  refine acts_getMachine fun machine _ => acts_onBoard (calls_peerConnected _) fun peer => ?_
  split
  · refine acts_onBoard (calls_discoverPeer _ _) fun discovered => ?_
    split
    · exact acts_onBoard (calls_blePeerListing _) fun listed => acts_sendResponse (.asked rfl)
    · exact acts_failed (by decide)
  · exact acts_failed (by decide)

theorem acts_bleSubscribe :
    Acts requestId drives (Effect reader c .bleSubscribe) c (bleSubscribe reader requestId) := by
  unfold bleSubscribe
  split
  · refine acts_getMachine fun machine _ => ?_
    refine acts_onBoard (calls_findBleCharacteristic _ _) fun characteristic => ?_
    split
    · exact acts_failed (by decide)
    · refine acts_onBoard (calls_changeSubscription _ _) fun changed => ?_
      split
      · exact acts_update id (fun _ => rfl) (fun _ => rfl) fun _ => acts_sendResponse (.asked rfl)
      · exact acts_failed (by decide)
  · exact acts_failed (by decide)

theorem acts_bleReadWrite (asks : operation.onlyAsks = true) {write : Bool} :
    Acts requestId drives (Effect reader c operation) c (bleReadWrite write reader requestId) := by
  unfold bleReadWrite
  split
  · exact acts_failed (by decide)
  · refine acts_getMachine fun machine _ => ?_
    refine acts_onBoard (calls_findBleCharacteristic _ _) fun characteristic => ?_
    split
    · exact acts_failed (by decide)
    · split
      · split
        · exact acts_failed (by decide)
        · refine acts_onBoard (calls_ask trivial) fun written => ?_
          split
          · exact acts_sendData fun _ _ => .asked asks
          · exact acts_failed (by decide)
      · refine acts_onBoard (calls_call trivial) fun reply => ?_
        split
        · exact acts_failed (by decide)
        · exact acts_run (keeps_storeResponse _) fun _ => acts_sendData fun _ _ => .asked asks

/-- While a receive waits, the polls may notice a pairing. -/
theorem acts_receiveOperation :
    Acts requestId (fun _ => False) (Effect reader c .receive) c (receiveOperation reader requestId) := by
  unfold receiveOperation
  split
  · exact acts_failed (by decide)
  next window h =>
    have hanswer : ∀ c', c' = c ∨ c' = c.paired →
        Acts requestId (fun _ => False) (Effect reader c .receive) c' (do
          let length ← liftM (readReceived window)
          let machine ← getMachine
          sendResponse requestId
            { status := kStatusOk
              data := responseBytes machine length
              metadata := receiveMetadata window
              queueDepth := min
                (machine.receiveQueue.depth window.protocol (UInt8.ofNat window.channel)) 65535
              overflow := machine.receiveQueue.overflow window.protocol }) := by
      intro c' hc'
      refine @acts_run_value _ _ _ _ _ _ _ (· ≤ window.limit) (keeps_readReceived window)
        (readReceived_le window) fun length hlen => ?_
      refine acts_getMachine fun machine _ => ?_
      exact acts_sendResponse (.received (succeeded_received h hlen) hc')
    refine acts_onBoard (calls_rounds _) fun limit => ?_
    exact acts_polled (moves_iterate (polled_receiveRound window) _ _) fun _ c' hc' => hanswer c' hc'

end handlers

/-- The calls of a whole request are guarded under the owners it ends with. -/
def Issued (drives : PinResources → Nat → Prop) (board board' : Board) : Prop :=
  ∃ issued, board'.calls = issued ++ board.calls ∧ ∀ entry ∈ issued,
    entry.2 = board'.pinResources ∧ Guarded (drives board'.pinResources) board'.pinResources entry.1

/-- From the settings `c` on, a request is answered once, with an outcome as described. -/
def Handles (requestId : Nat) (drives : PinResources → Nat → Prop)
    (outcome : Response → Settings → Prop) (c : Settings) (program : BridgeM Unit) : Prop :=
  ∀ s, s.machine.settings = c → Ends program (fun _ s' => ∃ response machine,
    outcome response s'.machine.settings ∧
      s'.serial = s.serial ++ responseMessage requestId response (timestampUs machine) ∧
      Issued drives s.machine.board s'.machine.board) s

section handles

variable {requestId : Nat} {drives : PinResources → Nat → Prop} {outcome : Response → Settings → Prop}
    {c : Settings}

theorem handles_of_acts {program : BridgeM Unit}
    (h : Acts requestId (drives c.pinResources) outcome c program) :
    Handles requestId drives outcome c program := by
  rintro s rfl
  obtain ⟨response, machine, c', hout, hserial, rfl, hpins, issued, hcalls, hissued⟩ := h s rfl
  have hpins' : (program s).2.machine.board.pinResources = s.machine.settings.pinResources := hpins
  refine ⟨response, machine, hout, hserial, issued, hcalls, fun entry hentry => ?_⟩
  rw [hpins']
  exact hissued entry hentry

/-- The pins are claimed before anything else is done. -/
theorem handles_own {pins : PinResources} {next : Unit → BridgeM Unit}
    (h : Acts requestId (drives pins) outcome { c with pinResources := pins } (next ())) :
    Handles requestId drives outcome c (update (Machine.own pins) >>= next) := by
  rintro s rfl
  obtain ⟨response, machine, c', hout, hserial, rfl, hpins, issued, hcalls, hissued⟩ :=
    h ⟨s.machine.own pins, s.serial⟩ rfl
  have hpins' : (next () ⟨s.machine.own pins, s.serial⟩).2.machine.board.pinResources = pins := hpins
  refine ⟨response, machine, hout, hserial, issued, hcalls, fun entry hentry => ?_⟩
  change entry.2 = (next () ⟨s.machine.own pins, s.serial⟩).2.machine.board.pinResources ∧
    Guarded (drives (next () ⟨s.machine.own pins, s.serial⟩).2.machine.board.pinResources)
      (next () ⟨s.machine.own pins, s.serial⟩).2.machine.board.pinResources entry.1
  rw [hpins']
  exact hissued entry hentry

theorem handles_getMachine {next : Machine → BridgeM Unit}
    (hnext : ∀ machine, machine.settings = c → Handles requestId drives outcome c (next machine)) :
    Handles requestId drives outcome c (getMachine >>= next) :=
  fun s hs => hnext s.machine hs s hs

theorem Handles.effect {program : BridgeM Unit} (h : Handles requestId drives outcome c program)
    {s : Bridge} (hs : s.machine.settings = c) :
    ∃ response, outcome response (program s).2.machine.settings := by
  obtain ⟨response, machine, hout, -, -⟩ := h s hs
  exact ⟨response, hout⟩

theorem Handles.issued {program : BridgeM Unit} (h : Handles requestId drives outcome c program)
    {s : Bridge} (hs : s.machine.settings = c) :
    Issued drives s.machine.board (program s).2.machine.board := by
  obtain ⟨response, machine, -, -, hissued⟩ := h s hs
  exact hissued

end handles

section claims

variable {reader : TlvReader} {requestId : Nat} {c : Settings} {operation : Operation}

/-- The pins that a request may drive: an SPI exchange those of its bus, a GPIO configuration those of
GPIO, the other GPIO operations the configured ones. -/
def Drives (operation : Operation) (reader : TlvReader) (c : Settings) (pins : PinResources)
    (pin : Nat) : Prop :=
  match operation with
  | .spiExchange => ∃ spi, spiTransfer reader = some spi ∧ pins.owners pin = spi.owner
  | .gpioConfigure => pins.owners pin = kResourceOwnerGpio
  | .gpioWatch | .gpioRead | .gpioWrite | .gpioPulse => c.gpioConfigured pin = true
  | _ => False

theorem handles_configureCan :
    Handles requestId (Drives .canConfigure reader c) (Effect reader c .canConfigure) c
      (configureCan reader requestId) := by
  unfold configureCan
  split
  · exact handles_of_acts (acts_failed (by decide))
  next can h =>
    refine handles_getMachine fun machine hmachine => ?_
    have hpins : machine.pinResources = c.pinResources := congrArg Settings.pinResources hmachine
    split
    next hbus =>
      rw [hpins]
      split
      · exact handles_of_acts (acts_failed (by decide))
      next pins hclaim =>
        refine handles_own (acts_beginCan (fun _ => ?_) (fun _ hok => ?_) fun _ hfailed => ?_)
        · rw [(PinResources.claim_eq_some hclaim).2.2.2]
          exact PinResources.setOwner_self _ _ _
        · exact .can1Configured hok h hbus hclaim
        · exact .can1Claimed hfailed h hbus hclaim
    next hbus =>
      refine handles_of_acts (acts_beginCan (fun hone => absurd hone hbus) (fun _ hok => ?_)
        fun _ hfailed => .failed hfailed)
      exact .canConfigured hok h hbus

theorem handles_spiExchange :
    Handles requestId (Drives .spiExchange reader c) (Effect reader c .spiExchange) c
      (spiExchange reader requestId) := by
  unfold spiExchange
  split
  · exact handles_of_acts (acts_failed (by decide))
  next spi h =>
    refine handles_getMachine fun machine hmachine => ?_
    have hpins : machine.pinResources = c.pinResources := congrArg Settings.pinResources hmachine
    dsimp only
    split
    next => exact handles_of_acts (acts_failed (by decide))
    next hclocks =>
      rw [hpins]
      split
      · exact handles_of_acts (acts_failed (by decide))
      next pins hclaim =>
        have hlen := spiMetadata_length h (claim_safe hclaim)
        refine handles_own (acts_onBoard (calls_spiTransaction ⟨spi, h, ?_⟩) fun received => ?_)
        · rw [(PinResources.claim_eq_some hclaim).2.2.2]
          exact PinResources.setOwner_self _ _ _
        · refine acts_run (keeps_storeResponse _) fun _ => ?_
          refine acts_sendFitting (metadata_length_lt _) ?_ fun _ hok => .spiExchanged hok h hclaim
          simp only [kMaxApplicationTransfer] at hclocks
          omega

theorem handles_i2cExchange :
    Handles requestId (Drives .i2cExchange reader c) (Effect reader c .i2cExchange) c
      (i2cExchange reader requestId) := by
  unfold i2cExchange
  split
  · exact handles_of_acts (acts_failed (by decide))
  next i2c h =>
    refine handles_getMachine fun machine hmachine => ?_
    have hpins : machine.pinResources = c.pinResources := congrArg Settings.pinResources hmachine
    split
    next hbus =>
      rw [hpins]
      split
      · exact handles_of_acts (acts_failed (by decide))
      next pins hclaim =>
        refine handles_own (acts_exchangeI2c (fun _ => ?_) (i2cTransaction_bounds h) fun _ htransfers => ?_)
        · rw [(PinResources.claimPair_eq_some hclaim).2.2.2.2.2]
          exact ⟨(PinResources.setOwner_ne _ _ (by decide)).trans (PinResources.setOwner_self _ _ _),
            PinResources.setOwner_self _ _ _⟩
        · exact .i2c1Exchanged h hbus hclaim htransfers
    next hbus =>
      exact handles_of_acts (acts_exchangeI2c (fun hone => absurd hone hbus)
        (i2cTransaction_bounds h) fun _ _ => .i2cExchanged h hbus)

theorem handles_gpioConfigure :
    Handles requestId (Drives .gpioConfigure reader c) (Effect reader c .gpioConfigure) c
      (gpioConfigure reader requestId) := by
  unfold gpioConfigure
  split
  · exact handles_of_acts (acts_failed (by decide))
  next gpio h =>
    refine handles_getMachine fun machine hmachine => ?_
    have hpins : machine.pinResources = c.pinResources := congrArg Settings.pinResources hmachine
    rw [hpins]
    split
    · exact handles_of_acts (acts_failed (by decide))
    next pins hclaim =>
      have howner : pins.owners gpio.pin = kResourceOwnerGpio := by
        rw [(PinResources.claim_eq_some hclaim).2.2.2]
        exact PinResources.setOwner_self _ _ _
      refine handles_own (acts_onBoard (calls_setUpPin howner) fun _ => ?_)
      refine acts_update (fun c => { c with
        gpioConfigured := setAt c.gpioConfigured gpio.pin true
        gpioOutput := setAt c.gpioOutput gpio.pin (gpio.mode = 1) }) (fun _ => rfl) (fun _ => rfl)
        fun _ => ?_
      refine acts_onBoard (calls_readPin _) fun value => ?_
      refine acts_update id (fun _ => rfl) (fun _ => rfl) fun _ => ?_
      exact acts_sendResponse (.gpioConfigured (succeeded_ok (metadata_length_lt _)) h hclaim)

/-- What a request does, whatever the operation. -/
theorem handles_runOperation :
    Handles requestId (Drives operation reader c) (Effect reader c operation) c
      (runOperation operation reader requestId) := by
  cases operation with
  | getStatus => exact handles_of_acts acts_getStatus
  | receive => exact handles_of_acts acts_receiveOperation
  | uartConfigure => exact handles_of_acts acts_configureUart
  | canConfigure => exact handles_configureCan
  | usbEnumerate => exact handles_of_acts acts_usbEnumerate
  | usbSelect => exact handles_of_acts acts_usbSelect
  | usbReset => exact handles_of_acts acts_usbReset
  | usbRelease => exact handles_of_acts acts_usbRelease
  | wifiConnect => exact handles_of_acts acts_wifiConnect
  | wifiDisconnect => exact handles_of_acts acts_wifiDisconnect
  | wifiSocketOpen => exact handles_of_acts acts_wifiSocketOpen
  | wifiSocketClose => exact handles_of_acts acts_wifiSocketClose
  | bleScan => exact handles_of_acts acts_bleScan
  | bleConnect => exact handles_of_acts acts_bleConnect
  | bleDisconnect => exact handles_of_acts acts_bleDisconnect
  | blePair => exact handles_of_acts acts_blePair
  | bleDiscover => exact handles_of_acts acts_bleDiscover
  | bleSubscribe => exact handles_of_acts acts_bleSubscribe
  | gpioConfigure => exact handles_gpioConfigure
  | gpioWatch => exact handles_of_acts acts_gpioWatch
  | spiExchange => exact handles_spiExchange
  | i2cExchange => exact handles_i2cExchange
  | uartWrite => exact handles_of_acts acts_uartWriteOperation
  | canSend => exact handles_of_acts acts_canSend
  | usbTransfer => exact handles_of_acts acts_usbTransfer
  | wifiSend => exact handles_of_acts acts_wifiSend
  | bleRead | bleWrite => exact handles_of_acts (acts_bleReadWrite rfl)
  | gpioRead | gpioWrite | gpioPulse => exact handles_of_acts (acts_gpioOperation rfl)

/-- The operation that `dispatch` chooses a handler for. -/
def handledOperation (body : Bytes) : Option Operation :=
  (operationNumber ⟨body⟩).bind Operation.ofNat?

/-- Everything that `dispatch` can do to the settings. -/
def DispatchEffect (body : Bytes) (c : Settings) (response : Response) (c' : Settings) : Prop :=
  match handledOperation body with
  | none => response.status ≠ kStatusOk ∧ c' = c
  | some operation => Effect ⟨body⟩ c operation response c'

def DispatchDrives (body : Bytes) (c : Settings) (pins : PinResources) (pin : Nat) : Prop :=
  match handledOperation body with
  | none => False
  | some operation => Drives operation ⟨body⟩ c pins pin

theorem handles_dispatch {body : Bytes} :
    Handles requestId (DispatchDrives body c) (DispatchEffect body c) c (dispatch requestId body) := by
  unfold dispatch
  cases hnumber : operationNumber ⟨body⟩ with
  | none =>
    have hhandled : handledOperation body = none := by rw [handledOperation, hnumber]; rfl
    refine handles_of_acts (acts_sendResponse ?_)
    rw [DispatchEffect, hhandled]
    exact ⟨show kMalformed ≠ kStatusOk by decide, rfl⟩
  | some number =>
    dsimp only
    cases hoperation : Operation.ofNat? number with
    | none =>
      have hhandled : handledOperation body = none := by rw [handledOperation, hnumber]; exact hoperation
      refine handles_of_acts (acts_sendResponse ?_)
      rw [DispatchEffect, hhandled]
      exact ⟨show kUnsupported ≠ kStatusOk by decide, rfl⟩
    | some operation =>
      have hhandled : handledOperation body = some operation := by
        rw [handledOperation, hnumber]
        exact hoperation
      have heffect : DispatchEffect body c = Effect ⟨body⟩ c operation := by
        funext response c'
        rw [DispatchEffect, hhandled]
      have hdrives : DispatchDrives body c = Drives operation ⟨body⟩ c := by
        funext pins pin
        rw [DispatchDrives, hhandled]
      rw [heffect, hdrives]
      exact handles_runOperation

end claims

end JLinkMcp.Firmware
