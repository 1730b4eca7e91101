import JLinkMcp.FirmwareAnswers
import JLinkMcp.FirmwareQueue

namespace JLinkMcp.Firmware

open Codec StateProgram

section ble

variable {reader : TlvReader} {requestId : Nat} {s : Bridge}

/-- `ensureBle` has answered where it returns `false`, and the handler stops there. -/
theorem answers_ensureBle {refused : Prop} {next : BridgeM Unit}
    (h : ∀ machine, Answers requestId (Sound refused) next ⟨machine, s.serial⟩) :
    Answers requestId (Sound refused) (do if ← ensureBle requestId then next) s := by
  unfold ensureBle
  rw [bind_assoc]
  refine answers_getMachine ?_
  split
  · rw [bind_assoc]
    exact answers_failed (by decide)
  · split
    · rw [bind_assoc]
      exact answers_bind (quiet_update _) fun _ machine => h machine
    · rw [bind_assoc]
      refine answers_bind (quiet_onBoard _) fun begun _ => ?_
      split
      · rw [bind_assoc]
        refine answers_bind (quiet_onBoard _) fun _ _ => ?_
        rw [bind_assoc]
        exact answers_bind (quiet_update _) fun _ machine => h machine
      · rw [bind_assoc]
        exact answers_failed (by decide)

theorem addBleDevice_length {listing : BleListing} {device : Nat} {board : Board}
    (short : listing.listed.length < kMaxMetadata) :
    Ends (addBleDevice listing device)
      (fun out _ => ∀ listing', out = some listing' → listing'.listed.length < kMaxMetadata) board := by
  unfold addBleDevice
  refine ends_bind_any fun address _ => ?_
  refine ends_bind_any fun named _ => ?_
  refine ends_bind_any fun name _ => ?_
  split
  · refine ends_bind_any fun rssi _ => ?_
    dsimp only
    split
    · intro listing' h
      cases h
    · intro listing' h
      cases h
      exact appendText_length_lt short _
  · intro listing' h
    cases h
    exact short

theorem scanRound_length {listing : BleListing} {machine : Machine}
    (short : listing.listed.length < kMaxMetadata) :
    Ends (scanRound listing) (fun out _ => out.2.listed.length < kMaxMetadata) machine := by
  unfold scanRound
  split
  · exact short
  · refine ends_bind_any fun available machine => ?_
    split
    · refine ends_bind_any fun _ _ => ?_
      exact ends_bind_any fun _ _ => short
    · next device =>
      rw [ends_bind]
      change Ends (boardOf.run (addBleDevice listing device)) _ machine
      rw [ends_run]
      refine (addBleDevice_length short).mono fun out _ hout => ?_
      split
      next listing' => exact hout listing' rfl
      next => exact short

theorem answers_bleScan :
    Answers requestId (Sound (bleScanFields reader = none)) (bleScan reader requestId) s := by
  unfold bleScan
  split
  next h => exact answers_malformed h
  next scan h =>
    refine answers_ensureBle fun machine => ?_
    refine answers_bind (quiet_onBoard _) fun started _ => ?_
    split
    · refine answers_bind (quiet_onBoard _) fun limit _ => ?_
      refine answers_bind_value (quiet_run _) fun _ => ?_
      refine answers_bind (quiet_onBoard _) fun _ _ => ?_
      have hstart : (appendText [] kMaxMetadata (text "\x7b\"devices\":[")).length < kMaxMetadata :=
        appendText_length_lt (by decide) _
      refine answers_ok (appendText_length_lt ?_ _)
      exact @ends_iterate _ _ scanRound (fun listing _ => listing.listed.length < kMaxMetadata)
        (fun _ _ hshort => scanRound_length hshort) limit _ _ hstart
    · exact answers_failed (by decide)

theorem answers_bleConnect :
    Answers requestId (Sound (copyString reader .bleAddress 18 true = none))
      (bleConnect reader requestId) s := by
  unfold bleConnect
  split
  next h => exact answers_malformed h
  next address h =>
    refine answers_ensureBle fun machine => ?_
    refine answers_bind (quiet_onBoard _) fun started _ => ?_
    split
    · refine answers_bind (quiet_onBoard _) fun limit _ => ?_
      refine answers_bind (quiet_run _) fun found _ => ?_
      refine answers_bind (quiet_onBoard _) fun _ _ => ?_
      split
      · exact answers_failed (by decide)
      · refine answers_bind (quiet_onBoard _) fun connected _ => ?_
        split
        · exact answers_bind (quiet_update _) fun _ _ => answers_ok (metadata_length_lt _)
        · exact answers_failed (by decide)
    · exact answers_failed (by decide)

theorem answers_bleDisconnect : Answers requestId (Sound False) (bleDisconnect requestId) s := by
  unfold bleDisconnect
  refine answers_getMachine ?_
  refine answers_bind (quiet_onBoard _) fun peer _ => ?_
  split
  · refine answers_bind (quiet_onBoard _) fun _ _ => ?_
    refine answers_bind (quiet_onBoard _) fun _ _ => ?_
    exact answers_bind (quiet_update _) fun _ _ => answers_ok (by decide)
  · refine answers_bind (quiet_onBoard _) fun _ _ => ?_
    exact answers_bind (quiet_update _) fun _ _ => answers_ok (by decide)

theorem answers_blePairable {refused : Prop} {text : Bytes} (short : text.length < kMaxMetadata) :
    Answers requestId (Sound refused) (blePairable requestId text) s :=
  answers_bind (quiet_onBoard _) fun _ _ => answers_ok short

/-- The check of `blePair` that ends with `kMalformed`. -/
def passkeyRefused (reader : TlvReader) : Prop :=
  ∃ passkey, reader.bytes FieldId.passkey.toNat false = some (some passkey) ∧
    passkeyNumber passkey = none

theorem answers_blePair :
    Answers requestId (Sound (passkeyRefused reader)) (blePair reader requestId) s := by
  unfold blePair
  refine answers_ensureBle fun machine => ?_
  split
  next h =>
    -- a field that may be missing is never an error of `bytes`
    exact absurd h (by unfold TlvReader.bytes; split <;> simp)
  next h =>
    exact answers_bind (quiet_update _) fun _ _ => answers_blePairable (by decide)
  next passkey hpasskey =>
    refine answers_bind (quiet_update _) fun _ _ => ?_
    split
    next h => exact answers_malformed ⟨passkey, hpasskey, h⟩
    next value h =>
      exact answers_bind (quiet_update _) fun _ _ => answers_blePairable (by decide)

theorem bleUuidList_length {uuid : Nat → HwCall} {indices : List Nat} {first : Bool} {listed : Bytes}
    {board : Board} (short : listed.length < kMaxMetadata) :
    Ends (bleUuidList uuid indices first listed) (fun out _ => out.length < kMaxMetadata) board := by
  induction indices generalizing first listed board with
  | nil => exact short
  | cons index indices ih =>
    refine ends_bind_any fun reply _ => ?_
    split
    · exact ih short
    · exact ih (appendText_length_lt short _)

theorem blePeerListing_length {device : Nat} {board : Board} :
    Ends (blePeerListing device) (fun out _ => out.length < kMaxMetadata) board := by
  unfold blePeerListing
  refine ends_bind_any fun services _ => ?_
  rw [ends_bind]
  have hstart : (appendText [] kMaxMetadata (text "\x7b\"services\":[")).length < kMaxMetadata :=
    appendText_length_lt (by decide) _
  refine (bleUuidList_length hstart).mono fun listed _ hlisted => ?_
  refine ends_bind_any fun characteristics _ => ?_
  rw [ends_bind]
  refine (bleUuidList_length (appendText_length_lt hlisted _)).mono fun listed _ hlisted => ?_
  exact appendText_length_lt hlisted _

/-- The checks of `bleDiscover`; the peer may go while it is asked. -/
def bleDiscoverRefused (s : Bridge) (reader : TlvReader) : Prop :=
  (peerConnected s.machine.blePeer s.machine.board).1 = none ∨
    copyString reader .serviceUuid 37 false = none

theorem answers_bleDiscover :
    Answers requestId (Sound (bleDiscoverRefused s reader)) (bleDiscover reader requestId) s := by
  unfold bleDiscover
  refine answers_getMachine ?_
  refine answers_bind_value (quiet_onBoard _) fun _ => ?_
  split
  next device uuid hdevice huuid =>
    refine answers_bind (quiet_onBoard _) fun discovered _ => ?_
    split
    · exact answers_bind_value (quiet_onBoard _) fun _ => answers_ok blePeerListing_length
    · exact answers_failed (by decide)
  next h =>
    refine answers_malformed ?_
    cases hpeer : (peerConnected s.machine.blePeer s.machine.board).1 with
    | none => exact Or.inl hpeer
    | some device =>
      cases huuid : copyString reader .serviceUuid 37 false with
      | none => exact Or.inr huuid
      | some uuid => exact absurd huuid (h device uuid hpeer)

theorem answers_bleSubscribe :
    Answers requestId (Sound (bleSelector reader = none ∨ bleEnabled reader = none))
      (bleSubscribe reader requestId) s := by
  unfold bleSubscribe
  split
  next selector enabled hselector henabled =>
    refine answers_getMachine ?_
    refine answers_bind (quiet_onBoard _) fun characteristic _ => ?_
    split
    · exact answers_failed (by decide)
    · refine answers_bind (quiet_onBoard _) fun changed _ => ?_
      split
      · exact answers_bind (quiet_update _) fun _ _ => answers_ok (metadata_length_lt _)
      · exact answers_failed (by decide)
  next h =>
    refine answers_malformed ?_
    cases hselector : bleSelector reader with
    | none => exact Or.inl rfl
    | some selector =>
      cases henabled : bleEnabled reader with
      | none => exact Or.inr rfl
      | some enabled => exact absurd henabled (h selector enabled hselector)

theorem bleSelected_length {selector : BleSelector} (h : bleSelector reader = some selector) :
    (bleSelected selector).length ≤ 1000 := by
  obtain ⟨hservice, hcharacteristic⟩ := bleSelector_bounds h
  have hservice' : (cString selector.serviceUuid).length ≤ selector.serviceUuid.length :=
    (List.takeWhile_prefix _).length_le
  have hcharacteristic' :
      (cString selector.characteristicUuid).length ≤ selector.characteristicUuid.length :=
    (List.takeWhile_prefix _).length_le
  refine Nat.le_trans (metadata_length_le _) ?_
  simp only [List.flatten_cons, List.flatten_nil, List.length_append, text_length, String.reduceToList,
    List.length_cons, List.length_nil]
  omega

theorem answers_bleReadWrite {write : Bool} :
    Answers requestId (Sound (bleSelector reader = none)) (bleReadWrite write reader requestId) s := by
  unfold bleReadWrite
  split
  next h => exact answers_malformed h
  next selector h =>
    have hlen := bleSelected_length h
    have hshort : (bleSelected selector).length < kMaxMetadata := metadata_length_lt _
    refine answers_getMachine ?_
    refine answers_bind (quiet_onBoard _) fun characteristic _ => ?_
    split
    · exact answers_failed (by decide)
    · split
      · split
        · exact answers_failed (by decide)
        · refine answers_bind (quiet_onBoard _) fun written _ => ?_
          split
          · exact answers_data hshort (by omega)
          · exact answers_failed (by decide)
      · refine answers_bind (quiet_onBoard _) fun reply _ => ?_
        split
        · exact answers_failed (by decide)
        · refine answers_bind (quiet_run _) fun _ _ => answers_data hshort ?_
          have hvalue : (reply.stored kMaxApplicationTransfer).length ≤ kMaxApplicationTransfer :=
            List.length_take_le _ _
          simp only [kMaxApplicationTransfer] at *
          omega

end ble

section receive

open SharedReceiveQueue

theorem peek_length {queue : Fin kQueueCount} {storage : Nat → UInt8} {cursor length : Nat} :
    (peek queue storage cursor length).length = length := by
  induction length generalizing cursor with
  | zero => rfl
  | succ length ih => rw [peek, List.length_cons, ih]

theorem readLoop_output_length {queue : Fin kQueueCount} {tail limit : Nat} {channel : UInt8}
    {drain : Bool} {scan : ReadScan} (short : scan.output.length ≤ limit) :
    (readLoop queue tail channel limit drain scan).output.length ≤ limit := by
  fun_induction readLoop queue tail channel limit drain scan with
  | case1 | case2 | case6 => exact short
  | case3 scan _ header size _ _ hfits ih =>
    refine ih ?_
    change (scan.output ++ peek queue scan.storage scan.cursor size).length ≤ limit
    rw [List.length_append, peek_length]
    omega
  | case4 scan _ header size _ _ _ ih => exact ih short
  | case5 scan _ header size _ _ _ ih => exact ih short

theorem read_length_le {q : SharedReceiveQueue} {protocol limit : Nat} {channel : UInt8} {drain : Bool} :
    (q.read protocol channel limit drain).2.length ≤ limit := by
  unfold SharedReceiveQueue.read
  split
  · simp
  · split
    · simp
    · dsimp only
      split <;> exact readLoop_output_length (Nat.zero_le _)

theorem receiveMetadata_length {reader : TlvReader} {window : ReceiveWindow}
    (h : receiveWindow reader = some window) : (receiveMetadata window).length ≤ 1000 := by
  obtain ⟨hprotocol, hchannel, -⟩ := receiveWindow_bounds h
  simp only [ PROTO_GPIO] at hprotocol
  have hprotocol := @decimal_length_le window.protocol (by omega)
  have hchannel := @decimal_length_le window.channel (by omega)
  have htruth : (text (if window.drain ≠ 0 then "true" else "false")).length ≤ 5 := by
    split <;> decide
  refine Nat.le_trans (metadata_length_le _) ?_
  simp only [List.flatten_cons, List.flatten_nil, List.length_append]
  simp only [text_length, String.reduceToList, List.length_cons, List.length_nil] at *
  omega

theorem readReceived_le (window : ReceiveWindow) (machine : Machine) :
    (readReceived window machine).1 ≤ window.limit := read_length_le

/-- What was read fits the answer. -/
theorem succeeded_received {reader : TlvReader} {window : ReceiveWindow} {machine : Machine}
    {length queueDepth overflow : Nat} (h : receiveWindow reader = some window)
    (le : length ≤ window.limit) :
    Succeeded
      { status := kStatusOk
        data := responseBytes machine length
        metadata := receiveMetadata window
        queueDepth := queueDepth
        overflow := overflow } := by
  have hlen := receiveMetadata_length h
  obtain ⟨-, -, hlimit⟩ := receiveWindow_bounds h
  refine ⟨rfl, rfl, metadata_length_lt _, ?_⟩
  rw [responseBytes, List.length_map, List.length_range]
  refine Nat.le_trans (Nat.add_le_add le hlen) ?_
  simp only [kMaxApplicationTransfer] at hlimit
  omega

theorem answers_receiveOperation {reader : TlvReader} {requestId : Nat} {s : Bridge} :
    Answers requestId (Sound (receiveWindow reader = none)) (receiveOperation reader requestId) s := by
  unfold receiveOperation
  split
  next h => exact answers_malformed h
  next window h =>
    refine answers_bind (quiet_onBoard _) fun limit _ => ?_
    refine answers_bind (quiet_run _) fun _ _ => ?_
    refine answers_bind_value (quiet_run _) fun _ => ?_
    exact answers_getMachine (answers_sendResponse (succeeded_received h (readReceived_le _ _)).sound)

end receive

section dispatch

variable {reader : TlvReader} {requestId : Nat} {s : Bridge}

theorem appendSafePins_length {pins : List Nat} {first : Bool} {listed : Bytes}
    (short : listed.length < kMaxMetadata) : (appendSafePins pins first listed).length < kMaxMetadata := by
  induction pins generalizing first listed with
  | nil => exact short
  | cons pin pins ih =>
    rw [appendSafePins]
    split
    · exact ih (appendText_length_lt short _)
    · exact ih short

theorem answers_getStatus : Answers requestId (Sound False) (getStatus requestId) s := by
  unfold getStatus
  refine answers_getMachine ?_
  refine answers_bind (quiet_onBoard _) fun peer _ => answers_ok ?_
  exact appendText_length_lt (appendSafePins_length (metadata_length_lt _)) _

/-- The checks of a handler that end with `kMalformed`, in the state it starts from. -/
def Refused (operation : Operation) (reader : TlvReader) (s : Bridge) : Prop :=
  match operation with
  | .getStatus | .usbEnumerate | .usbReset | .usbRelease | .wifiDisconnect | .bleDisconnect => False
  | .receive => receiveWindow reader = none
  | .uartConfigure => uartConfiguration reader = none
  | .canConfigure => canConfiguration reader = none
  | .usbSelect => usbSelector reader = none
  | .wifiConnect => wifiCredentials reader = none
  | .wifiSocketOpen => wifiSocket s.machine.wifiConnected reader = none
  | .wifiSocketClose => wifiSocketId (fun socket => (s.machine.sockets socket).used) reader = none
  | .bleScan => bleScanFields reader = none
  | .bleConnect => copyString reader .bleAddress 18 true = none
  | .blePair => passkeyRefused reader
  | .bleDiscover => bleDiscoverRefused s reader
  | .bleSubscribe => bleSelector reader = none ∨ bleEnabled reader = none
  | .gpioConfigure => gpioConfiguration reader = none
  | .gpioWatch => gpioWatched s.machine.gpioConfigured reader = none
  | .spiExchange => spiTransfer reader = none
  | .i2cExchange => i2cTransaction reader = none
  | .uartWrite => uartOutput s.machine.uartConfigured reader = none
  | .canSend => canOutput s.machine.canConfigured reader = none
  | .usbTransfer => usbTransferRefused s.machine.usbDevice.isSome reader
  | .wifiSend => wifiOutput (fun socket => (s.machine.sockets socket).used) reader = none
  | .bleRead | .bleWrite => bleSelector reader = none
  | .gpioRead | .gpioWrite | .gpioPulse => gpioRefused s.machine.gpioConfigured operation reader

theorem answers_runOperation {operation : Operation} :
    Answers requestId (Sound (Refused operation reader s)) (runOperation operation reader requestId) s := by
  cases operation with
  | getStatus => exact answers_getStatus
  | receive => exact answers_receiveOperation
  | uartConfigure => exact answers_configureUart
  | canConfigure => exact answers_configureCan
  | usbEnumerate => exact answers_usbEnumerate
  | usbSelect => exact answers_usbSelect
  | usbReset => exact answers_usbReset
  | usbRelease => exact answers_usbRelease
  | wifiConnect => exact answers_wifiConnect
  | wifiDisconnect => exact answers_wifiDisconnect
  | wifiSocketOpen => exact answers_wifiSocketOpen
  | wifiSocketClose => exact answers_wifiSocketClose
  | bleScan => exact answers_bleScan
  | bleConnect => exact answers_bleConnect
  | bleDisconnect => exact answers_bleDisconnect
  | blePair => exact answers_blePair
  | bleDiscover => exact answers_bleDiscover
  | bleSubscribe => exact answers_bleSubscribe
  | gpioConfigure => exact answers_gpioConfigure
  | gpioWatch => exact answers_gpioWatch
  | spiExchange => exact answers_spiExchange
  | i2cExchange => exact answers_i2cExchange
  | uartWrite => exact answers_uartWriteOperation
  | canSend => exact answers_canSend
  | usbTransfer => exact answers_usbTransfer
  | wifiSend => exact answers_wifiSend
  | bleRead | bleWrite => exact answers_bleReadWrite
  | gpioRead | gpioWrite | gpioPulse => exact answers_gpioOperation

/-- The checks of `dispatch` and of the handler it chooses that end with `kMalformed`. -/
def DispatchRefused (body : Bytes) (s : Bridge) : Prop :=
  match operationNumber ⟨body⟩ with
  | none => True
  | some number => ∃ operation, Operation.ofNat? number = some operation ∧ Refused operation ⟨body⟩ s

/-- Whatever the body and the hardware, `dispatch` answers once. -/
theorem answers_dispatch {body : Bytes} :
    Answers requestId (Sound (DispatchRefused body s)) (dispatch requestId body) s := by
  unfold dispatch DispatchRefused
  cases operationNumber ⟨body⟩ with
  | none => exact answers_malformed trivial
  | some number =>
    dsimp only
    split
    next => exact answers_failed (by decide)
    next operation hoperation =>
      refine answers_runOperation.mono fun _ s' ⟨response, machine, hsound, hserial⟩ => ?_
      exact ⟨response, machine,
        { hsound with malformed := fun h => ⟨operation, hoperation, hsound.malformed h⟩ }, hserial⟩

end dispatch

end JLinkMcp.Firmware
