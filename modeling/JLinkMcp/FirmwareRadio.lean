import JLinkMcp.FirmwareRuns

namespace JLinkMcp.Firmware

open Codec StateProgram

/-- `radio_mode` names the radio that is in use. -/
structure RadioNamed (c : Settings) : Prop where
  wifi : c.wifiConnected = true → c.radioMode = 1
  ble : c.bleInitialized = true → c.radioMode = 2

/-- No session of one radio is live while one of the other is. -/
def RadiosExclusive (c : Settings) : Prop := ¬(c.wifiConnected = true ∧ c.bleInitialized = true)

theorem RadioNamed.exclusive {c : Settings} (named : RadioNamed c) : RadiosExclusive c := by
  rintro ⟨hwifi, hble⟩
  exact absurd ((named.wifi hwifi).symm.trans (named.ble hble)) (by decide)

/-- A radio is disconnected only while the other one has no session. -/
def DisconnectsOwnRadio (c : Settings) (event : Event) : Prop :=
  (event.operation = some .wifiDisconnect → c.bleInitialized = false) ∧
    (event.operation = some .bleDisconnect → c.wifiConnected = false)

section kept

variable {reader : TlvReader} {c c' : Settings} {operation : Operation} {response : Response}

theorem RadioNamed.bleReady (named : RadioNamed c) (radio : c.radioMode ≠ 1) :
    RadioNamed c.bleReady := ⟨fun hwifi => absurd (named.wifi hwifi) radio, fun _ => rfl⟩

/-- Only the disconnect of the radio that is not in use breaks the link between mode and sessions. -/
theorem radioNamed_effect (named : RadioNamed c)
    (wifi : operation = .wifiDisconnect → c.bleInitialized = false)
    (ble : operation = .bleDisconnect → c.wifiConnected = false)
    (h : Effect reader c operation response c') : RadioNamed c' := by
  cases h with
  | failed | asked | i2cExchanged | wifiSent => exact named
  | received ok h =>
    rcases h with rfl | rfl
    · exact named
    · exact ⟨named.wifi, named.ble⟩
  | uartConfigured | canConfigured | can1Configured | can1Claimed | spiExchanged | i2c1Exchanged
  | gpioConfigured | gpioWatched | socketOpened | socketClosed => exact ⟨named.wifi, named.ble⟩
  | wifiConnected ok radio =>
    exact ⟨fun _ => rfl, fun hble => absurd (named.ble hble) radio⟩
  | wifiLost failed radio =>
    exact ⟨nofun, fun hble => absurd (named.ble hble) radio⟩
  | wifiDisconnected =>
    refine ⟨nofun, fun hble => ?_⟩
    cases hble.symm.trans (wifi rfl)
  | bleStarted _ radio => exact named.bleReady radio
  | blePaired code ok radio => exact ⟨(named.bleReady radio).wifi, fun _ => rfl⟩
  | pairRefused failed radio => exact ⟨(named.bleReady radio).wifi, fun _ => rfl⟩
  | bleDisconnected =>
    refine ⟨fun hwifi => ?_, nofun⟩
    cases hwifi.symm.trans (ble rfl)

end kept

theorem radioNamed_event {c c' : Settings} {event : Event} (named : RadioNamed c)
    (ok : DisconnectsOwnRadio c event) (h : EventEffect event c c') : RadioNamed c' := by
  cases event with
  | poll =>
    rcases h with rfl | rfl
    · exact named
    · exact ⟨named.wifi, named.ble⟩
  | request requestId body =>
    obtain ⟨response, heffect⟩ := h
    rcases dispatchEffect_cases heffect with ⟨-, rfl⟩ | ⟨operation, hoperation, heffect⟩
    · exact named
    · refine radioNamed_effect named (fun hop => ok.1 ?_) (fun hop => ok.2 ?_) heffect
      · exact hoperation.trans (congrArg some hop)
      · exact hoperation.trans (congrArg some hop)

/-- Wi-Fi and BLE exclude each other in every run that disconnects no radio while the other one has
a session. -/
theorem radiosExclusive_of_disconnectsOwnRadio {s : Bridge} (reached : Reaches DisconnectsOwnRadio s) :
    RadiosExclusive s.machine.settings := by
  refine (reached.invariant ⟨nofun, nofun⟩ fun c event c' named ok heffect => ?_ :
    RadioNamed s.machine.settings).exclusive
  exact radioNamed_event named ok heffect

/-- `wifi_connect`, `ble_disconnect` and `ble_pair` without a passkey. -/
def connectItems : List Tlv :=
  [(1, leBytes 2 Operation.wifiConnect.toNat), (52, [97]), (53, List.replicate 8 97)]
def disconnectItems : List Tlv := [(1, leBytes 2 Operation.bleDisconnect.toNat)]
def pairItems : List Tlv := [(1, leBytes 2 Operation.blePair.toNat)]

theorem connectItems_representable : Representable connectItems := by
  intro item hitem
  simp only [connectItems, List.mem_cons, List.not_mem_nil, or_false] at hitem
  rcases hitem with rfl | rfl | rfl <;> exact ⟨by decide, by decide⟩

theorem operationItems_representable (operation : Operation) :
    Representable [(1, leBytes 2 operation.toNat)] := by
  intro item hitem
  obtain rfl := List.mem_singleton.mp hitem
  exact ⟨show 1 < 2 ^ 16 by decide, by rw [leBytes_length]; decide⟩

theorem connectItems_handled : handledOperation (tlvBytes connectItems) = some .wifiConnect :=
  handledOperation_tlvBytes connectItems_representable (by decide) rfl (by decide)

theorem disconnectItems_handled : handledOperation (tlvBytes disconnectItems) = some .bleDisconnect :=
  handledOperation_tlvBytes (operationItems_representable _) (by decide) rfl (by decide)

theorem pairItems_handled : handledOperation (tlvBytes pairItems) = some .blePair :=
  handledOperation_tlvBytes (operationItems_representable _) (by decide) rfl (by decide)

theorem radiosExclusive_of_disconnectsOwnRadio_connected :
    RadiosExclusive (obligingBridge.after (.request 1 (tlvBytes connectItems))).machine.settings := by
  refine radiosExclusive_of_disconnectsOwnRadio (.after (.powerUp _ _ _) ⟨fun h => ?_, fun h => ?_⟩)
  · cases connectItems_handled.symm.trans h
  · cases connectItems_handled.symm.trans h

/-- Both radios after three requests: the disconnect of BLE has cleared `radio_mode`, although
Wi-Fi is in use. -/
def bothRadios : Bridge :=
  ((obligingBridge.after (.request 1 (tlvBytes connectItems))).after
    (.request 2 (tlvBytes disconnectItems))).after (.request 3 (tlvBytes pairItems))

theorem bothRadios_live :
    bothRadios.machine.wifiConnected = true ∧ bothRadios.machine.bleInitialized = true := by
  have hcredentials : wifiCredentials ⟨tlvBytes connectItems⟩ =
      some ⟨[97], List.replicate 8 97⟩ := by
    have hfind := bytes_tlvBytes connectItems_representable (by decide)
    simp only [wifiCredentials, copyString, hfind]
    rfl
  have hpasskey : (TlvReader.mk (tlvBytes pairItems)).bytes FieldId.passkey.toNat false = some none := by
    rw [pairItems, bytes_tlvBytes (operationItems_representable .blePair) (by decide)]
    rfl
  simp only [bothRadios, Bridge.after, Event.run, dispatch_of_handled connectItems_handled,
    dispatch_of_handled disconnectItems_handled, dispatch_of_handled pairItems_handled, runOperation,
    wifiConnect, hcredentials, blePair, hpasskey]
  exact ⟨rfl, rfl⟩

theorem radiosExclusive_fails : ¬∀ s, Reaches anyEvent s → RadiosExclusive s.machine.settings := by
  intro h
  have hstart : Reaches anyEvent obligingBridge := .powerUp _ _ _
  have hreached : Reaches anyEvent bothRadios :=
    ((hstart.after trivial).after trivial).after trivial
  exact h bothRadios hreached bothRadios_live

end JLinkMcp.Firmware
