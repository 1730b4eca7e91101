import JLinkMcp.FirmwareDispatch

namespace JLinkMcp.Firmware

open StateProgram

/-- The program writes one message to `Serial`, for the request and for a response as described. -/
def Answers (requestId : Nat) (described : Response → Prop) (program : BridgeM Unit) (s : Bridge) :
    Prop :=
  Ends program (fun _ s' => ∃ response machine, described response ∧
    s'.serial = s.serial ++ responseMessage requestId response (timestampUs machine)) s

/-- The program writes nothing to `Serial`. -/
def Quiet {α : Type} (program : BridgeM α) : Prop :=
  ∀ s, Ends program (fun _ s' => s'.serial = s.serial) s

/-- What the answers of a handler have in common: they leave room for themselves in `response_body`, and
the request is malformed only where it is refused. -/
structure Sound (refused : Prop) (response : Response) : Prop where
  status : response.status < 2 ^ 16
  short : response.metadata.length < kMaxMetadata
  room : response.data.length + response.metadata.length ≤ 65000
  malformed : response.status = kMalformed → refused

/-- A success that leaves room for itself in `response_body`. -/
structure Succeeded (response : Response) : Prop where
  ok : response.status = kStatusOk
  quiet : response.error = []
  short : response.metadata.length < kMaxMetadata
  room : response.data.length + response.metadata.length ≤ 65000

section quiet

variable {α : Type}

theorem quiet_run (program : MachineM α) : Quiet (machineOf.run program) :=
  fun _ => ends_run_any fun _ _ => rfl

theorem quiet_onBoard (program : BoardM α) : Quiet (onBoard program) :=
  fun _ => ends_run_any fun _ _ => rfl

theorem quiet_update (f : Machine → Machine) : Quiet (update f) := quiet_run _

end quiet

section rules

variable {requestId : Nat} {described : Response → Prop} {s : Bridge}

theorem answers_bind_value {α : Type} {program : BridgeM α} {next : α → BridgeM Unit}
    (quiet : Quiet program)
    (h : ∀ machine, Answers requestId described (next (program s).1) ⟨machine, s.serial⟩) :
    Answers requestId described (program >>= next) s := by
  have hquiet : (program s).2.serial = s.serial := quiet s
  have hnext := h (program s).2.machine
  rw [← hquiet] at hnext
  rw [Answers, ends_bind, Ends, ← hquiet]
  exact hnext

theorem answers_bind {α : Type} {program : BridgeM α} {next : α → BridgeM Unit} (quiet : Quiet program)
    (h : ∀ a machine, Answers requestId described (next a) ⟨machine, s.serial⟩) :
    Answers requestId described (program >>= next) s :=
  answers_bind_value quiet fun machine => h _ machine

theorem answers_getMachine {next : Machine → BridgeM Unit}
    (h : Answers requestId described (next s.machine) s) :
    Answers requestId described (getMachine >>= next) s := h

theorem answers_sendResponse {response : Response} (h : described response) :
    Answers requestId described (sendResponse requestId response) s :=
  ⟨response, s.machine, h, rfl⟩

end rules

section sound

variable {requestId : Nat} {refused : Prop} {s : Bridge}

theorem sound_error {status : Nat} {error : String} (status_lt : status < 2 ^ 16)
    (malformed : status = kMalformed → refused) :
    Sound refused { status, metadata := text "{}", error := text error } where
  status := status_lt
  short := show (text "{}").length < kMaxMetadata by decide
  room := show 0 + (text "{}").length ≤ 65000 by decide
  malformed := malformed

theorem succeeded_ok {text : Bytes} (short : text.length < kMaxMetadata) :
    Succeeded { status := kStatusOk, metadata := text } := by
  refine ⟨rfl, rfl, short, ?_⟩
  simp only [kMaxMetadata, List.length_nil] at *
  omega

theorem Succeeded.sound {response : Response} (h : Succeeded response) : Sound refused response where
  status := by
    rw [h.ok]
    decide
  short := h.short
  room := h.room
  malformed hstatus := absurd (h.ok.symm.trans hstatus) (by decide)

theorem answers_failed {status : Nat} {error : String} (h : 2 ≤ status ∧ status < 2 ^ 16) :
    Answers requestId (Sound refused) (sendError requestId status error) s := by
  refine answers_sendResponse (sound_error h.2 fun hs => ?_)
  simp only [kMalformed] at hs
  omega

theorem answers_malformed {error : String} (h : refused) :
    Answers requestId (Sound refused) (sendError requestId kMalformed error) s :=
  answers_sendResponse (sound_error (by decide) fun _ => h)

theorem answers_ok {text : Bytes} (short : text.length < kMaxMetadata) :
    Answers requestId (Sound refused) (sendOk requestId text) s :=
  answers_sendResponse (succeeded_ok short).sound

theorem answers_data {length : Nat} {text : Bytes} (short : text.length < kMaxMetadata)
    (room : length + text.length ≤ 65000) :
    Answers requestId (Sound refused) (sendData requestId length text) s :=
  answers_sendResponse (Succeeded.mk rfl rfl short (by simpa [responseBytes] using room)).sound

end sound

section buses

variable {reader : TlvReader} {requestId : Nat} {s : Bridge}

theorem answers_configureUart :
    Answers requestId (Sound (uartConfiguration reader = none)) (configureUart reader requestId) s := by
  unfold configureUart
  split
  next h => exact answers_malformed h
  next uart h =>
    refine answers_bind (quiet_onBoard _) fun _ _ => ?_
    refine answers_bind (quiet_update _) fun _ _ => ?_
    exact answers_ok (metadata_length_lt _)

theorem answers_beginCan {refused : Prop} {can : CanConfiguration} :
    Answers requestId (Sound refused) (beginCan can requestId) s := by
  unfold beginCan
  refine answers_bind (quiet_onBoard _) fun begun _ => ?_
  split
  · refine answers_bind (quiet_update _) fun _ _ => ?_
    exact answers_ok (metadata_length_lt _)
  · exact answers_failed (by decide)

theorem answers_configureCan :
    Answers requestId (Sound (canConfiguration reader = none)) (configureCan reader requestId) s := by
  unfold configureCan
  split
  next h => exact answers_malformed h
  next can h =>
    refine answers_getMachine ?_
    split
    · split
      · exact answers_failed (by decide)
      · exact answers_bind (quiet_update _) fun _ _ => answers_beginCan
    · exact answers_beginCan

theorem spiMetadata_length {spi : SpiTransfer} (h : spiTransfer reader = some spi)
    (safe : safeDynamicPin spi.chipSelect) :
    (metadata [text "\x7b\"bus\":", decimal spi.bus, text ",\"chip_select\":\"D", decimal spi.chipSelect,
      text "\",\"clock_hz\":", decimal spi.clock, text ",\"mode\":", decimal spi.mode,
      text "\x7d"]).length ≤ 1000 := by
  obtain ⟨hbus, hclock, hmode⟩ := spiTransfer_bounds h
  have hchip : spi.chipSelect ≤ 85 := by
    simp only [safeDynamicPin, Bool.or_eq_true, Bool.and_eq_true, decide_eq_true_eq] at safe
    omega
  have hbus := @decimal_length_le spi.bus (by omega)
  have hclock := @decimal_length_le spi.clock (by omega)
  have hmode := @decimal_length_le spi.mode (by omega)
  have hchip := @decimal_length_le spi.chipSelect (by omega)
  refine Nat.le_trans (metadata_length_le _) ?_
  simp only [List.flatten_cons, List.flatten_nil, List.length_append, text_length, String.reduceToList,
    List.length_cons, List.length_nil]
  omega

theorem claim_safe {resources pins : PinResources} {pin owner : Nat}
    (h : resources.claim pin owner = some pins) : safeDynamicPin pin = true := by
  unfold PinResources.claim at h
  split at h
  next => simp at h
  next hsafe => simp_all

theorem answers_spiExchange :
    Answers requestId (Sound (spiTransfer reader = none)) (spiExchange reader requestId) s := by
  unfold spiExchange
  split
  next h => exact answers_malformed h
  next spi h =>
    refine answers_getMachine ?_
    dsimp only
    split
    next => exact answers_failed (by decide)
    next hclocks =>
      split
      next => exact answers_failed (by decide)
      next pins hpins =>
        refine answers_bind (quiet_update _) fun _ _ => ?_
        refine answers_bind (quiet_onBoard _) fun received _ => ?_
        refine answers_bind (quiet_run _) fun _ _ => ?_
        have hlen := spiMetadata_length h (claim_safe hpins)
        refine answers_data (metadata_length_lt _) ?_
        simp only [kMaxApplicationTransfer] at hclocks
        omega

theorem answers_exchangeI2c {refused : Prop} {i2c : I2cTransaction} (short : i2c.requestedRead ≤ 32) :
    Answers requestId (Sound refused) (exchangeI2c i2c requestId) s := by
  unfold exchangeI2c
  refine answers_bind (quiet_onBoard _) fun out _ => ?_
  dsimp only
  split
  · exact answers_failed (by decide)
  · refine answers_bind (quiet_run _) fun _ _ => ?_
    split
    · exact answers_failed (by decide)
    · next hlen =>
      have hshort := metadata_length_lt [text "\x7b\"bus\":", decimal i2c.bus, text ",\"address\":",
        decimal i2c.address, text ",\"clock_hz\":", decimal i2c.clock,
        text ",\"reserved_bus\":\"Wire1\"\x7d"]
      refine answers_data hshort ?_
      simp only [kMaxMetadata] at hshort
      omega

theorem answers_i2cExchange :
    Answers requestId (Sound (i2cTransaction reader = none)) (i2cExchange reader requestId) s := by
  unfold i2cExchange
  split
  next h => exact answers_malformed h
  next i2c h =>
    have hshort := i2cTransaction_bounds h
    refine answers_getMachine ?_
    split
    · split
      · exact answers_failed (by decide)
      · exact answers_bind (quiet_update _) fun _ _ => answers_exchangeI2c hshort
    · exact answers_exchangeI2c hshort

theorem answers_uartWriteOperation :
    Answers requestId (Sound (uartOutput s.machine.uartConfigured reader = none))
      (uartWriteOperation reader requestId) s := by
  unfold uartWriteOperation
  refine answers_getMachine ?_
  split
  next h => exact answers_malformed h
  next uart h =>
    refine answers_bind (quiet_onBoard _) fun written _ => ?_
    split
    · exact answers_failed (by decide)
    · exact answers_ok (metadata_length_lt _)

theorem answers_canSend :
    Answers requestId (Sound (canOutput s.machine.canConfigured reader = none)) (canSend reader requestId)
      s := by
  unfold canSend
  refine answers_getMachine ?_
  split
  next h => exact answers_malformed h
  next can h =>
    refine answers_bind (quiet_onBoard _) fun result _ => ?_
    split
    · exact answers_failed (by decide)
    · exact answers_ok (metadata_length_lt _)

end buses

section gpio

variable {reader : TlvReader} {requestId : Nat} {s : Bridge}

theorem answers_gpioConfigure :
    Answers requestId (Sound (gpioConfiguration reader = none)) (gpioConfigure reader requestId) s := by
  unfold gpioConfigure
  split
  next h => exact answers_malformed h
  next gpio h =>
    refine answers_getMachine ?_
    split
    · exact answers_failed (by decide)
    · refine answers_bind (quiet_update _) fun _ _ => ?_
      refine answers_bind (quiet_onBoard _) fun _ _ => ?_
      refine answers_bind (quiet_update _) fun _ _ => ?_
      refine answers_bind (quiet_onBoard _) fun value _ => ?_
      refine answers_bind (quiet_update _) fun _ _ => ?_
      exact answers_ok (metadata_length_lt _)

theorem answers_gpioWatch :
    Answers requestId (Sound (gpioWatched s.machine.gpioConfigured reader = none))
      (gpioWatch reader requestId) s := by
  unfold gpioWatch
  refine answers_getMachine ?_
  split
  next h => exact answers_malformed h
  next watched h =>
    refine answers_bind (quiet_update _) fun _ _ => ?_
    refine answers_bind (quiet_onBoard _) fun value _ => ?_
    refine answers_bind (quiet_update _) fun _ _ => ?_
    exact answers_ok (metadata_length_lt _)

/-- The checks of `gpioOperation` that end with `kMalformed`. -/
def gpioRefused (configured : Nat → Bool) (operation : Operation) (reader : TlvReader) : Prop :=
  gpioPin configured reader = none ∨ (operation ≠ .gpioRead ∧ gpioValue reader = none) ∨
    (operation = .gpioPulse ∧ gpioDuration reader = none)

theorem answers_gpioOperation {operation : Operation} :
    Answers requestId (Sound (gpioRefused s.machine.gpioConfigured operation reader))
      (gpioOperation operation reader requestId) s := by
  unfold gpioOperation
  refine answers_getMachine ?_
  split
  next h => exact answers_malformed (Or.inl h)
  next pin hpin =>
    split
    next hread =>
      refine answers_bind (quiet_onBoard _) fun value _ => ?_
      refine answers_bind (quiet_run _) fun _ _ => ?_
      have hshort := metadata_length_lt [text "\x7b\"pin\":\"D", decimal pin, text "\"\x7d"]
      refine answers_data hshort ?_
      simp only [kMaxMetadata] at hshort
      omega
    next hwrite =>
      split
      next h => exact answers_malformed (Or.inr (Or.inl ⟨hwrite, h⟩))
      next value hvalue =>
        split
        · exact answers_failed (by decide)
        · split
          next hpulse =>
            split
            next h => exact answers_malformed (Or.inr (Or.inr ⟨hpulse, h⟩))
            next duration hduration =>
              exact answers_bind (quiet_onBoard _) fun _ _ => answers_ok (metadata_length_lt _)
          next =>
            exact answers_bind (quiet_onBoard _) fun _ _ => answers_ok (metadata_length_lt _)

end gpio

section wifi

variable {reader : TlvReader} {requestId : Nat} {s : Bridge}

theorem answers_wifiConnect :
    Answers requestId (Sound (wifiCredentials reader = none)) (wifiConnect reader requestId) s := by
  unfold wifiConnect
  refine answers_getMachine ?_
  split
  · exact answers_failed (by decide)
  · split
    next h => exact answers_malformed h
    next wifi h =>
      refine answers_bind (quiet_update _) fun _ _ => ?_
      refine answers_bind (quiet_onBoard _) fun connected _ => ?_
      refine answers_bind (quiet_update _) fun _ _ => ?_
      split
      · refine answers_bind (quiet_onBoard _) fun _ _ => ?_
        exact answers_bind (quiet_update _) fun _ _ => answers_failed (by decide)
      · exact answers_ok (by decide)

theorem answers_wifiDisconnect :
    Answers requestId (Sound False) (wifiDisconnect requestId) s := by
  unfold wifiDisconnect
  refine answers_getMachine ?_
  refine answers_bind (quiet_onBoard _) fun _ _ => ?_
  refine answers_bind (quiet_onBoard _) fun _ _ => ?_
  exact answers_bind (quiet_update _) fun _ _ => answers_ok (by decide)

theorem answers_wifiSocketOpen :
    Answers requestId (Sound (wifiSocket s.machine.wifiConnected reader = none))
      (wifiSocketOpen reader requestId) s := by
  unfold wifiSocketOpen
  refine answers_getMachine ?_
  split
  next h => exact answers_malformed h
  next wifi h =>
    split
    · exact answers_failed (by decide)
    · refine answers_bind (quiet_onBoard _) fun opened _ => ?_
      split
      · exact answers_bind (quiet_update _) fun _ _ => answers_ok (metadata_length_lt _)
      · exact answers_failed (by decide)

theorem answers_wifiSocketClose :
    Answers requestId (Sound (wifiSocketId (fun socket => (s.machine.sockets socket).used) reader = none))
      (wifiSocketClose reader requestId) s := by
  unfold wifiSocketClose
  refine answers_getMachine ?_
  split
  next h => exact answers_malformed h
  next socket h =>
    refine answers_bind (quiet_onBoard _) fun _ _ => ?_
    exact answers_bind (quiet_update _) fun _ _ => answers_ok (metadata_length_lt _)

theorem answers_wifiSend :
    Answers requestId (Sound (wifiOutput (fun socket => (s.machine.sockets socket).used) reader = none))
      (wifiSend reader requestId) s := by
  unfold wifiSend
  refine answers_getMachine ?_
  split
  next h => exact answers_malformed h
  next output h =>
    refine answers_bind (quiet_onBoard _) fun written _ => ?_
    split
    · exact answers_failed (by decide)
    · exact answers_ok (metadata_length_lt _)

end wifi

section usb

variable {reader : TlvReader} {requestId : Nat} {s : Bridge}

theorem usbDeviceList_length {indices : List Nat} {first : Bool} {listed : Bytes} {board : Board}
    (short : listed.length < kMaxMetadata) :
    Ends (usbDeviceList indices first listed) (fun out _ => out.length < kMaxMetadata) board := by
  induction indices generalizing first listed board with
  | nil => exact short
  | cons index indices ih =>
    refine ends_bind_any fun present _ => ?_
    split
    · exact ih short
    · refine ends_bind_any fun hub _ => ?_
      split
      · exact ih short
      · exact ends_bind_any fun entry _ => ih (appendText_length_lt short _)

theorem answers_usbEnumerate :
    Answers requestId (Sound False) (usbEnumerate requestId) s := by
  unfold usbEnumerate
  refine answers_getMachine ?_
  refine answers_bind_value (quiet_onBoard _) fun _ => ?_
  have hstart : (appendText [] kMaxMetadata (text "\x7b\"devices\":[")).length < kMaxMetadata :=
    appendText_length_lt (by decide) _
  exact answers_ok (appendText_length_lt (usbDeviceList_length hstart) _)

theorem usbEndpointList_length {device interfaceNumber : Nat} {indices : List Nat} {first : Bool}
    {listed : Bytes} {board : Board} (short : listed.length < kMaxMetadata) :
    Ends (usbEndpointList device interfaceNumber indices first listed)
      (fun out _ => out.length < kMaxMetadata) board := by
  induction indices generalizing first listed board with
  | nil => exact short
  | cons index indices ih =>
    refine ends_bind_any fun present _ => ?_
    split
    · exact ih short
    · refine ends_bind_any fun type _ => ?_
      split
      · exact ih short
      · refine ends_bind_any fun address _ => ?_
        exact ends_bind_any fun size _ => ih (appendText_length_lt short _)

theorem answers_usbSelect :
    Answers requestId (Sound (usbSelector reader = none)) (usbSelect reader requestId) s := by
  unfold usbSelect
  split
  next h => exact answers_malformed h
  next selector h =>
    refine answers_getMachine ?_
    refine answers_bind (quiet_onBoard _) fun found _ => ?_
    split
    next device =>
      refine answers_bind (quiet_onBoard _) fun enumerates _ => ?_
      split
      · refine answers_bind (quiet_update _) fun _ _ => ?_
        refine answers_bind_value (quiet_onBoard _) fun _ => ?_
        exact answers_ok (appendText_length_lt (usbEndpointList_length (metadata_length_lt _)) _)
      · exact answers_failed (by decide)
    next => exact answers_failed (by decide)

theorem answers_usbReset : Answers requestId (Sound False) (usbReset requestId) s := by
  unfold usbReset
  refine answers_getMachine ?_
  split
  · exact answers_failed (by decide)
  · refine answers_bind (quiet_onBoard _) fun failed _ => ?_
    split
    · exact answers_failed (by decide)
    · exact answers_ok (by decide)

theorem answers_usbRelease : Answers requestId (Sound False) (usbRelease requestId) s :=
  answers_bind (quiet_update _) fun _ _ => answers_ok (by decide)

/-- What `usbTransferFields` has checked of a transfer. -/
def UsbTransfer.Checked (usb : UsbTransfer) : Prop :=
  usb.type ≤ 2 ∧ usb.endpoint < 256 ∧ usb.readLength ≤ kMaxApplicationTransfer

section transfer

variable {refused : Prop} {usb : UsbTransfer} (checked : usb.Checked)

include checked

theorem answers_usbTransferred {ok : Bool} {returned : Nat} (h : returned ≤ usb.readLength) :
    Answers requestId (Sound refused) (usbTransferred usb ok returned requestId) s := by
  unfold usbTransferred
  split
  · exact answers_failed (by decide)
  · obtain ⟨htype, hendpoint, hread⟩ := checked
    have htype := @decimal_length_le usb.type (by omega)
    have hendpoint := @decimal_length_le usb.endpoint (by omega)
    have hzero := @decimal_length_le 0 (by decide)
    refine answers_data (metadata_length_lt _) (Nat.le_trans
      (Nat.add_le_add_left (metadata_length_le _) _) ?_)
    simp only [List.flatten_cons, List.flatten_nil, List.length_append, text_length,
      String.reduceToList, List.length_cons, List.length_nil, kMaxApplicationTransfer] at *
    omega

theorem answers_usbControl {device : Nat} {setup : UsbSetup} :
    Answers requestId (Sound refused) (usbControl device usb setup requestId) s := by
  unfold usbControl
  split
  · refine answers_bind (quiet_onBoard _) fun reply _ => ?_
    refine answers_bind (quiet_run _) fun _ _ => answers_usbTransferred checked ?_
    split <;> omega
  · exact answers_bind (quiet_onBoard _) fun failed _ => answers_usbTransferred checked (Nat.zero_le _)

theorem answers_usbPipe {endpoint : Endpoint} :
    Answers requestId (Sound refused) (usbPipe usb endpoint requestId) s := by
  unfold usbPipe
  dsimp only
  split
  · refine answers_bind (quiet_onBoard _) fun reply _ => ?_
    refine answers_bind (quiet_run _) fun _ _ => ?_
    split
    · exact answers_usbTransferred checked (Nat.zero_le _)
    · refine answers_bind (quiet_onBoard _) fun transferred _ => ?_
      dsimp only
      have hreturned := Nat.min_le_left usb.readLength transferred.number.toNat
      split
      · refine answers_getMachine ?_
        exact answers_bind (quiet_run _) fun _ _ => answers_usbTransferred checked hreturned
      · exact answers_usbTransferred checked hreturned
  · exact answers_bind (quiet_onBoard _) fun failed _ => answers_usbTransferred checked (Nat.zero_le _)

end transfer

/-- The checks of `usbTransfer` that end with `kMalformed`. -/
def usbTransferRefused (selected : Bool) (reader : TlvReader) : Prop :=
  match usbTransferFields selected reader with
  | none => True
  | some usb => usb.type = 0 ∧ usbSetup usb.endpoint reader = none

theorem answers_usbTransfer :
    Answers requestId (Sound (usbTransferRefused s.machine.usbDevice.isSome reader))
      (usbTransfer reader requestId) s := by
  unfold usbTransfer
  refine answers_getMachine ?_
  split
  next device usb hdevice husb =>
    have hchecked : usb.Checked := usbTransferFields_bounds husb
    split
    next htype =>
      split
      next h =>
        refine answers_malformed ?_
        rw [usbTransferRefused, husb]
        exact ⟨htype, h⟩
      next setup h => exact answers_usbControl hchecked
    next =>
      dsimp only
      refine answers_bind (quiet_onBoard _) fun endpoint _ => ?_
      split
      · exact answers_failed (by decide)
      · exact answers_usbPipe hchecked
  next h =>
    refine answers_malformed ?_
    rw [usbTransferRefused]
    split
    next => trivial
    next usb husb =>
      exfalso
      cases hdevice : s.machine.usbDevice with
      | none => simp [usbTransferFields, hdevice, guard, failure] at husb
      | some device => exact h device usb hdevice husb

end usb

end JLinkMcp.Firmware
