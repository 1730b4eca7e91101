import JLinkMcp.FirmwareDispatch

namespace JLinkMcp.Firmware

open Codec StateProgram

/-- What has to hold when a call is made: the pin is one that the request may drive, or the pins of
the bus are its own. -/
def Guarded (drives : Nat → Prop) (pins : PinResources) : HwCall → Prop
  | .pinMode pin _ | .digitalWrite pin _ => drives pin
  | .canBegin bus _ => bus = 1 → pins.owners 8 = kResourceOwnerCan1
  | .wireBegin bus | .wireSetClock bus _ | .wireBeginTransmission bus _ | .wireWrite bus _
  | .wireEndTransmission bus _ | .wireRequestFrom bus _ _ | .wireAvailable bus | .wireRead bus =>
    bus = 1 → pins.owners 8 = kResourceOwnerI2c1 ∧ pins.owners 9 = kResourceOwnerI2c1
  | _ => True

/-- The calls in between are made under the owners of before, and each of them is allowed. -/
def Issues (ok : HwCall → Prop) (board board' : Board) : Prop :=
  board'.pinResources = board.pinResources ∧
    ∃ issued, board'.calls = issued ++ board.calls ∧
      ∀ entry ∈ issued, entry.2 = board.pinResources ∧ ok entry.1

instance (ok : HwCall → Prop) : IsPreorder Board (Issues ok) where
  refl _ := ⟨rfl, [], rfl, nofun⟩
  trans := by
    rintro board board' board'' ⟨hpins, issued, hcalls, hok⟩ ⟨hpins', issued', hcalls', hok'⟩
    refine ⟨hpins'.trans hpins, issued' ++ issued, ?_, fun entry hentry => ?_⟩
    · rw [hcalls', hcalls, List.append_assoc]
    · rcases List.mem_append.mp hentry with h | h
      · exact hpins ▸ hok' entry h
      · exact hok entry h

section calls

variable {ok : HwCall → Prop} {α β : Type}

/-- Nothing but calls that are allowed: the program follows every relation that each of them follows. -/
def CallsOnly (ok : HwCall → Prop) (program : BoardM α) : Prop :=
  ∀ (rel : Board → Board → Prop) [IsPreorder Board rel], (∀ c, ok c → Moves rel (call c)) →
    Moves rel program

theorem calls_pure (a : α) : CallsOnly ok (pure a) := fun _ _ _ => moves_pure a

theorem calls_bind {program : BoardM α} {next : α → BoardM β} (h : CallsOnly ok program)
    (hnext : ∀ a, CallsOnly ok (next a)) : CallsOnly ok (program >>= next) :=
  fun rel _ hcall => moves_bind (h rel hcall) fun a => hnext a rel hcall

theorem calls_ite {c : Prop} [Decidable c] {first second : BoardM α} (hfirst : c → CallsOnly ok first)
    (hsecond : ¬c → CallsOnly ok second) : CallsOnly ok (if c then first else second) :=
  fun rel _ hcall => moves_ite (fun h => hfirst h rel hcall) fun h => hsecond h rel hcall

theorem issues_call {c : HwCall} (h : ok c) : Moves (Issues ok) (call c) := by
  intro board
  refine ⟨rfl, [(c, board.pinResources)], rfl, ?_⟩
  rintro entry hentry
  obtain rfl := List.mem_singleton.mp hentry
  exact ⟨rfl, h⟩

theorem CallsOnly.issues {program : BoardM α} (h : CallsOnly ok program) : Moves (Issues ok) program :=
  h (Issues ok) fun _ => issues_call

section one

variable {c : HwCall} (h : ok c)

include h

theorem calls_call : CallsOnly ok (call c) := fun _ _ hcall => hcall c h

theorem calls_ask : CallsOnly ok (ask c) := calls_bind (calls_call h) fun _ => calls_pure _

theorem calls_askNat {width : Nat} : CallsOnly ok (askNat c width) :=
  calls_bind (calls_call h) fun _ => calls_pure _

theorem calls_askByte : CallsOnly ok (askByte c) :=
  calls_bind (calls_call h) fun _ => calls_pure _

theorem calls_askHandle : CallsOnly ok (askHandle c) :=
  calls_bind (calls_call h) fun _ => calls_pure _

end one

end calls

theorem calls_readWhile {ok : HwCall → Prop} {available read : HwCall} (havailable : ok available)
    (hread : ok read) : ∀ capacity, CallsOnly ok (readWhile available read capacity)
  | 0 => calls_bind (calls_ask havailable) fun _ => calls_pure _
  | capacity + 1 => by
    refine calls_bind (calls_ask havailable) fun _ => calls_ite (fun _ => ?_) fun _ => calls_pure _
    refine calls_bind (calls_askByte hread) fun _ => ?_
    exact calls_bind (calls_readWhile havailable hread capacity) fun _ => calls_pure _

section owned

variable {drives : Nat → Prop} {pins : PinResources}

theorem calls_rounds (ms : Nat) : CallsOnly (Guarded drives pins) (rounds ms) :=
  calls_bind (calls_call trivial) fun _ => calls_pure _

section buses

theorem calls_spiClocks (bus : Nat) (fill : UInt8) :
    ∀ clocks writeData, CallsOnly (Guarded drives pins) (spiClocks bus fill clocks writeData)
  | 0, _ => calls_pure _
  | clocks + 1, writeData => by
    refine calls_bind (calls_askByte trivial) fun _ => ?_
    exact calls_bind (calls_spiClocks bus fill clocks writeData.tail) fun _ => calls_pure _

/-- The chip select is the only pin that is driven. -/
theorem calls_spiTransaction {spi : SpiTransfer} (owned : drives spi.chipSelect) :
    CallsOnly (Guarded drives pins) (spiTransaction spi) := by
  unfold spiTransaction
  refine calls_bind (calls_call trivial) fun _ => ?_
  refine calls_bind (calls_call owned) fun _ => ?_
  refine calls_bind (calls_call owned) fun _ => ?_
  refine calls_bind (calls_call trivial) fun _ => ?_
  refine calls_bind (calls_call owned) fun _ => ?_
  refine calls_bind (calls_spiClocks _ _ _ _) fun _ => ?_
  refine calls_bind (calls_call owned) fun _ => ?_
  exact calls_bind (calls_call trivial) fun _ => calls_pure _

theorem calls_wireTransaction {i2c : I2cTransaction}
    (owned : i2c.bus = 1 → pins.owners 8 = kResourceOwnerI2c1 ∧ pins.owners 9 = kResourceOwnerI2c1) :
    CallsOnly (Guarded drives pins) (wireTransaction i2c) := by
  unfold wireTransaction
  refine calls_bind (calls_call owned) fun _ => calls_bind (calls_call owned) fun _ => ?_
  refine calls_bind (calls_ite (fun _ => ?_) fun _ => calls_pure _) fun _ => ?_
  · refine calls_bind (calls_call owned) fun _ => calls_bind (calls_call owned) fun _ => ?_
    refine calls_ite (fun _ => calls_pure _) fun _ => ?_
    exact calls_bind (calls_ask owned) fun _ => calls_pure _
  · refine calls_ite (fun _ => calls_pure _) fun _ => calls_ite (fun _ => ?_) fun _ => calls_pure _
    refine calls_bind (calls_call owned) fun _ => ?_
    exact calls_bind (calls_readWhile owned owned _) fun _ => calls_pure _

end buses

section gpio

theorem calls_readPin (pin : Nat) : CallsOnly (Guarded drives pins) (readPin pin) :=
  calls_bind (calls_ask trivial) fun _ => calls_pure _

theorem calls_setUpPin {gpio : GpioConfiguration} (owned : drives gpio.pin) :
    CallsOnly (Guarded drives pins) (setUpPin gpio) := by
  unfold setUpPin
  refine calls_ite (fun _ => calls_bind (calls_call owned) fun _ => calls_pure _) fun _ => ?_
  exact calls_bind (calls_call owned) fun _ => calls_bind (calls_call owned) fun _ => calls_pure _

theorem calls_pulsePin {pin value duration : Nat} (owned : drives pin) :
    CallsOnly (Guarded drives pins) (pulsePin pin value duration) := by
  unfold pulsePin
  refine calls_bind (calls_call owned) fun _ => calls_bind (calls_call trivial) fun _ => ?_
  exact calls_bind (calls_call owned) fun _ => calls_pure _

end gpio

section wifi

theorem calls_awaitWifi : ∀ limit, CallsOnly (Guarded drives pins) (awaitWifi limit)
  | 0 => calls_pure _
  | limit + 1 => by
    refine calls_bind (calls_call trivial) fun _ => calls_ite (fun _ => calls_pure _) fun _ => ?_
    exact calls_bind (calls_call trivial) fun _ => calls_awaitWifi limit

theorem calls_joinWifi (ssid password : Bytes) :
    CallsOnly (Guarded drives pins) (joinWifi ssid password) := by
  unfold joinWifi
  refine calls_bind (calls_call trivial) fun _ => calls_bind (calls_rounds _) fun _ => ?_
  refine calls_bind (calls_awaitWifi _) fun _ => calls_ite (fun _ => calls_pure _) fun _ => ?_
  exact calls_bind (calls_call trivial) fun _ => calls_pure _

theorem calls_stopSocket (socket : Nat) : CallsOnly (Guarded drives pins) (stopSocket socket) :=
  calls_bind (calls_call trivial) fun _ => calls_bind (calls_call trivial) fun _ => calls_pure _

theorem calls_stopSockets (used : Nat → Bool) :
    ∀ sockets, CallsOnly (Guarded drives pins) (stopSockets used sockets)
  | [] => calls_pure _
  | socket :: sockets => by
    rw [stopSockets]
    refine calls_ite (fun _ => ?_) fun _ => ?_
    · exact calls_bind (calls_stopSocket socket) fun _ => calls_stopSockets used sockets
    · exact calls_stopSockets used _

theorem calls_openSocket (socket : Nat) (wifi : WifiSocket) :
    CallsOnly (Guarded drives pins) (openSocket socket wifi) :=
  calls_ite (fun _ => calls_ask trivial) fun _ => calls_ask trivial

theorem calls_writeSocket (socket : Nat) (slot : SocketSlot) (data : Bytes) :
    CallsOnly (Guarded drives pins) (writeSocket socket slot data) := by
  unfold writeSocket
  refine calls_ite (fun _ => calls_bind (calls_call trivial) fun _ => calls_pure _) fun _ => ?_
  refine calls_bind (calls_ask trivial) fun _ => calls_ite (fun _ => ?_) fun _ => calls_pure _
  refine calls_bind (calls_call trivial) fun _ => calls_bind (calls_ask trivial) fun _ => ?_
  exact calls_ite (fun _ => calls_pure _) fun _ => calls_pure _

theorem calls_receiveSocket (socket protocol : Nat) :
    CallsOnly (Guarded drives pins) (receiveSocket socket protocol) := by
  unfold receiveSocket
  refine calls_ite (fun _ => calls_readWhile trivial trivial _) fun _ => ?_
  refine calls_bind (calls_call trivial) fun _ => calls_ite (fun _ => ?_) fun _ => calls_pure _
  exact calls_bind (calls_call trivial) fun _ => calls_pure _

end wifi

section usb

theorem calls_controlReadInto (device requestType request value index capacity : Nat) :
    CallsOnly (Guarded drives pins)
      (controlReadInto device requestType request value index capacity) :=
  calls_bind (calls_call trivial) fun _ => calls_pure _

theorem calls_usbSerial (device capacity : Nat) :
    CallsOnly (Guarded drives pins) (usbSerial device capacity) := by
  unfold usbSerial
  refine calls_bind (calls_controlReadInto _ _ _ _ _ _) fun descriptor => ?_
  cases descriptor with
  | none => exact calls_pure _
  | some descriptor =>
    refine calls_ite (fun _ => calls_pure _) fun _ => ?_
    refine calls_bind (calls_controlReadInto _ _ _ _ _ _) fun language => ?_
    cases language with
    | none => exact calls_pure _
    | some language =>
      refine calls_bind (calls_controlReadInto _ _ _ _ _ _) fun serial => ?_
      cases serial with
      | none => exact calls_pure _
      | some serial =>
        refine calls_ite (fun _ => calls_pure _) fun _ => ?_
        split <;> exact calls_pure _

theorem calls_usbDeviceEntry (first : Bool) (index : Nat) :
    CallsOnly (Guarded drives pins) (usbDeviceEntry first index) := by
  unfold usbDeviceEntry
  refine calls_bind (calls_askNat trivial) fun _ => calls_bind (calls_askNat trivial) fun _ => ?_
  exact calls_bind (calls_askNat trivial) fun _ => calls_pure _

theorem calls_usbDeviceList : ∀ indices first listed,
    CallsOnly (Guarded drives pins) (usbDeviceList indices first listed)
  | [], _, _ => calls_pure _
  | index :: indices, first, listed => by
    rw [usbDeviceList]
    refine calls_bind (calls_ask trivial) fun _ => calls_ite (fun _ => ?_) fun _ => ?_
    · exact calls_usbDeviceList indices first listed
    · refine calls_bind (calls_ask trivial) fun _ => calls_ite (fun _ => ?_) fun _ => ?_
      · exact calls_usbDeviceList indices first listed
      · exact calls_bind (calls_usbDeviceEntry first index) fun _ => calls_usbDeviceList indices _ _

theorem calls_usbMatches (selector : UsbSelector) (index : Nat) :
    CallsOnly (Guarded drives pins) (usbMatches selector index) := by
  unfold usbMatches
  refine calls_bind (calls_ask trivial) fun _ => calls_ite (fun _ => calls_pure _) fun _ => ?_
  refine calls_bind (calls_ask trivial) fun _ => calls_ite (fun _ => calls_pure _) fun _ => ?_
  refine calls_bind (calls_askNat trivial) fun _ => calls_ite (fun _ => calls_pure _) fun _ => ?_
  refine calls_bind (calls_askNat trivial) fun _ => calls_ite (fun _ => calls_pure _) fun _ => ?_
  split
  · exact calls_pure _
  · exact calls_bind (calls_usbSerial _ _) fun _ => calls_pure _

theorem calls_usbMatching (selector : UsbSelector) : ∀ indices,
    CallsOnly (Guarded drives pins) (usbMatching selector indices)
  | [] => calls_pure _
  | index :: indices => by
    refine calls_bind (calls_usbMatches selector index) fun _ => ?_
    exact calls_bind (calls_usbMatching selector indices) fun _ => calls_pure _

theorem calls_askEndpointType (endpoint : Endpoint) :
    CallsOnly (Guarded drives pins) (askEndpointType endpoint) := by
  unfold askEndpointType
  refine calls_bind (calls_call trivial) fun _ => ?_
  split <;> exact calls_pure _

theorem calls_usbEndpointList (device interfaceNumber : Nat) : ∀ indices first listed,
    CallsOnly (Guarded drives pins)
      (usbEndpointList device interfaceNumber indices first listed)
  | [], _, _ => calls_pure _
  | index :: indices, first, listed => by
    rw [usbEndpointList]
    refine calls_bind (calls_ask trivial) fun _ => calls_ite (fun _ => ?_) fun _ => ?_
    · exact calls_usbEndpointList device interfaceNumber indices first listed
    · refine calls_bind (calls_askEndpointType _) fun _ => calls_ite (fun _ => ?_) fun _ => ?_
      · exact calls_usbEndpointList device interfaceNumber indices first listed
      · refine calls_bind (calls_askNat trivial) fun _ => calls_bind (calls_askNat trivial) fun _ => ?_
        exact calls_usbEndpointList device interfaceNumber indices _ _

theorem calls_usbEnumerates (device interfaceNumber : Nat) :
    CallsOnly (Guarded drives pins) (usbEnumerates device interfaceNumber) := by
  unfold usbEnumerates
  refine calls_bind (calls_ask trivial) fun _ => calls_ite (fun _ => calls_pure _) fun _ => ?_
  exact calls_bind (calls_ask trivial) fun _ => calls_pure _

theorem calls_selectedEndpoint (device interfaceNumber address : Nat) (type : EndpointType) :
    ∀ indices, CallsOnly (Guarded drives pins)
      (selectedEndpoint device interfaceNumber address type indices)
  | [] => calls_pure _
  | index :: indices => by
    rw [selectedEndpoint]
    refine calls_bind (calls_ask trivial) fun _ => calls_ite (fun _ => ?_) fun _ => ?_
    · exact calls_selectedEndpoint device interfaceNumber address type indices
    · refine calls_bind (calls_askEndpointType _) fun _ => calls_ite (fun _ => ?_) fun _ => ?_
      · exact calls_selectedEndpoint device interfaceNumber address type indices
      · refine calls_bind (calls_askNat trivial) fun _ => calls_ite (fun _ => ?_) fun _ => calls_pure _
        exact calls_selectedEndpoint device interfaceNumber address type indices

end usb

section ble

theorem calls_setUpBle : CallsOnly (Guarded drives pins) setUpBle := by
  unfold setUpBle
  refine calls_bind (calls_call trivial) fun _ => calls_bind (calls_call trivial) fun _ => ?_
  exact calls_bind (calls_call trivial) fun _ => calls_pure _

theorem calls_addBleDevice (listing : BleListing) (device : Nat) :
    CallsOnly (Guarded drives pins) (addBleDevice listing device) := by
  unfold addBleDevice
  refine calls_bind (calls_call trivial) fun _ => calls_bind (calls_ask trivial) fun _ => ?_
  refine calls_bind (calls_ite (fun _ => calls_bind (calls_call trivial) fun _ => calls_pure _)
    fun _ => calls_pure _) fun name => ?_
  split
  · refine calls_bind (calls_call trivial) fun _ => ?_
    exact calls_ite (fun _ => calls_pure _) fun _ => calls_pure _
  · exact calls_pure _

theorem calls_startScan (uuid : Bytes) : CallsOnly (Guarded drives pins) (startScan uuid) :=
  calls_ite (fun _ => calls_ask trivial) fun _ => calls_ask trivial

theorem calls_peerConnected (peer : Option Nat) :
    CallsOnly (Guarded drives pins) (peerConnected peer) := by
  unfold peerConnected
  split
  · exact calls_pure _
  · refine calls_bind (calls_ask trivial) fun _ => ?_
    exact calls_ite (fun _ => calls_pure _) fun _ => calls_pure _

theorem calls_bleUuidList {uuid : Nat → HwCall} (free : ∀ index, Guarded drives pins (uuid index)) :
    ∀ indices first listed, CallsOnly (Guarded drives pins) (bleUuidList uuid indices first listed)
  | [], _, _ => calls_pure _
  | index :: indices, first, listed => by
    rw [bleUuidList]
    refine calls_bind (calls_call (free index)) fun _ => ?_
    split
    · exact calls_bleUuidList free indices first listed
    · exact calls_bleUuidList free indices _ _

theorem calls_blePeerListing (device : Nat) :
    CallsOnly (Guarded drives pins) (blePeerListing device) := by
  unfold blePeerListing
  refine calls_bind (calls_call trivial) fun _ => ?_
  have hservice : ∀ index, Guarded drives pins (.bleServiceUuid device index) := fun _ => trivial
  have hcharacteristic : ∀ index, Guarded drives pins (.bleCharacteristicUuid device index) :=
    fun _ => trivial
  refine calls_bind (calls_bleUuidList hservice _ _ _) fun _ => ?_
  refine calls_bind (calls_call trivial) fun _ => ?_
  exact calls_bind (calls_bleUuidList hcharacteristic _ _ _) fun _ => calls_pure _

theorem calls_discoverPeer (device : Nat) (uuid : Bytes) :
    CallsOnly (Guarded drives pins) (discoverPeer device uuid) :=
  calls_ite (fun _ => calls_ask trivial) fun _ => calls_ask trivial

theorem calls_findBleCharacteristic (peer : Option Nat) (selector : BleSelector) :
    CallsOnly (Guarded drives pins) (findBleCharacteristic peer selector) := by
  unfold findBleCharacteristic
  refine calls_bind (calls_peerConnected peer) fun device => ?_
  cases device with
  | none => exact calls_pure _
  | some device =>
    refine calls_bind (calls_askHandle trivial) fun service => ?_
    cases service with
    | none => exact calls_pure _
    | some service => exact calls_askHandle trivial

theorem calls_changeSubscription (characteristic : Nat) (enabled : Bool) :
    CallsOnly (Guarded drives pins) (changeSubscription characteristic enabled) :=
  calls_ite (fun _ => calls_ask trivial) fun _ => calls_ask trivial

end ble

end owned

end JLinkMcp.Firmware
