import JLinkMcp.RequestEncoding

namespace JLinkMcp

open Codec Host FieldValue

theorem payload_length_le {maximum : Nat} (text : PayloadField maximum) :
    text.payload.length ≤ maximum := by
  obtain ⟨payload, hpayload, hlen⟩ := text.property
  rw [PayloadField.payload, hpayload]
  exact hlen

/-- The secrets are those of a profile that `control` looked up. -/
def Attached (request : BridgeRequest) (secrets : PyDict) : Prop :=
  ∃ profiles, request.secrets profiles = .ok secrets

theorem attached_nil {request : BridgeRequest} {secrets : PyDict}
    (hnone : ∀ profiles, request.secrets profiles = .ok []) (h : Attached request secrets) :
    secrets = [] := by
  obtain ⟨profiles, h⟩ := h
  exact (Except.ok.inj ((hnone profiles).symm.trans h)).symm

theorem attached_wifi {r : WifiConnectRequest} {secrets : PyDict}
    (h : Attached (.control (.wifiConnect r)) secrets) :
    ∃ profile : WifiCredentialProfile,
      secrets = [("ssid", .ofText profile.ssid), ("password", .ofText profile.password)] := by
  obtain ⟨profiles, h⟩ := h
  cases profiles with
  | error e => cases h
  | ok profiles =>
    simp only [BridgeRequest.secrets, controlSecrets, Except.ok_bind] at h
    split at h
    next profile _ => exact ⟨profile, (Except.ok.inj h).symm⟩
    next => cases h

theorem attached_pair {r : BlePairRequest} {secrets : PyDict}
    (h : Attached (.control (.blePair r)) secrets) :
    (r.passkeyProfile = none ∧ secrets = []) ∨
      ∃ profile : BlePasskeyProfile, secrets = [("passkey", .ofText profile.passkey)] := by
  obtain ⟨profiles, h⟩ := h
  obtain ⟨name⟩ := r
  cases name with
  | none => exact .inl ⟨rfl, (Except.ok.inj h).symm⟩
  | some name =>
    right
    cases profiles with
    | error e => cases h
    | ok profiles =>
      simp only [BridgeRequest.secrets, controlSecrets, Except.ok_bind] at h
      split at h
      next profile _ => exact ⟨profile, (Except.ok.inj h).symm⟩
      next => cases h

section fits

variable {secrets : PyDict}

theorem utf8_textField_length_le {lower upper : Nat} (text : TextField lower upper) :
    (utf8 text.val).length ≤ 4 * upper := by
  have hlen := utf8_length_le text.val
  have hupper := text.property.2.2
  omega

theorem fieldsSize_optionalText_le {field : Firmware.FieldId} {lower upper : Nat}
    (o : Option (TextField lower upper)) :
    fieldsSize (optionalField field (o.map ofText)) ≤ 4 + 4 * upper :=
  fieldsSize_optional_le (fun text => utf8_textField_length_le text) o

theorem fieldsSize_optionalNumber_le {field : Firmware.FieldId} {P : Nat → Prop}
    (o : Option (Subtype P)) :
    fieldsSize (optionalField field (o.map ofNat)) ≤ 4 + fieldSize field :=
  fieldsSize_optional_le (fun n => Nat.le_of_eq (fieldItem_ofNat_length n)) o

/-- The bound of the fields of a request: with payload and texts they stay below a body. -/
theorem bodyFits_of {fields : List (Firmware.FieldId × FieldValue)} (ids : List Firmware.FieldId)
    (sublist : (fields.map Prod.fst).Sublist ids)
    (nodup : (.operation :: ids : List Firmware.FieldId).Nodup)
    (size : fieldsSize fields ≤ 65530) : BodyFits fields :=
  ⟨nodup.sublist (sublist.cons_cons _), by simp only [maxBridgePayload]; omega⟩

theorem usbSelect_fits (r : UsbSelectRequest) : BodyFits (controlFields secrets (.usbSelect r)) := by
  have hserial := @fieldsSize_optionalText_le .serialNumber _ _ r.serial
  have hinterface := @fieldsSize_optionalNumber_le .usbInterface _ r.interfaceNumber
  refine bodyFits_of [.vid, .pid, .serialNumber, .usbInterface] ?_ (by decide) ?_
  · simp only [controlFields, List.map_append]
    exact ((List.Sublist.refl _).append (optionalField_ids _)).append (optionalField_ids _)
  · simp only [controlFields, fieldsSize_append, fieldsSize_cons, fieldsSize_nil,
      fieldItem_ofNat_length, fieldSize] at *
    omega

theorem wifiConnect_fits {r : WifiConnectRequest}
    (attached : Attached (.control (.wifiConnect r)) secrets) :
    BodyFits (controlFields secrets (.wifiConnect r)) := by
  obtain ⟨profile, rfl⟩ := attached_wifi attached
  have hprofile := utf8_length_le r.profile.val
  have hname := r.profile.property.2.2
  have hssid := utf8_length_le profile.ssid.val
  have hssid' := profile.ssid.property.2
  have hpassword := utf8_length_le profile.password.val
  have hpassword' := profile.password.property.2
  have hfields : controlFields [("ssid", .ofText profile.ssid), ("password", .ofText profile.password)]
      (.wifiConnect r) = [(.profile, ofText r.profile), (.ssid, ofText profile.ssid),
        (.password, ofText profile.password)] := rfl
  rw [hfields]
  refine bodyFits_of _ (List.Sublist.refl _) (by simp) ?_
  simp only [fieldsSize_cons, fieldItem_ofText_length, fieldsSize_nil]
  omega

theorem wifiSocketOpen_fits (r : WifiSocketOpenRequest) :
    BodyFits (controlFields secrets (.wifiSocketOpen r)) := by
  have hhost := utf8_textField_length_le r.host
  have hlocal := @fieldsSize_optionalNumber_le .localPort _ r.localPort
  refine bodyFits_of [.socketProtocol, .host, .localPort, .networkPort] ?_ (by decide) ?_
  · simp only [controlFields, List.map_append]
    exact ((List.Sublist.refl _).append (optionalField_ids _)).append (List.Sublist.refl _)
  · simp only [controlFields, fieldsSize_append, fieldsSize_cons, fieldsSize_nil,
      fieldItem_ofNat_length, fieldItem_number_length, fieldItem_ofText_length, fieldSize] at *
    omega

theorem bleScan_fits (r : BleScanRequest) : BodyFits (controlFields secrets (.bleScan r)) := by
  have hservice := @fieldsSize_optionalText_le .serviceUuid _ _ r.serviceUuid
  refine bodyFits_of [.scanDurationMs, .serviceUuid] ?_ (by decide) ?_
  · simp only [controlFields, List.map_append]
    exact (List.Sublist.refl _).append (optionalField_ids _)
  · simp only [controlFields, fieldsSize_append, fieldsSize_cons, fieldsSize_nil,
      fieldItem_ofNat_length, fieldSize]
    omega

theorem bleConnect_fits (r : BleConnectRequest) :
    BodyFits (controlFields secrets (.bleConnect r)) := by
  have haddress := utf8_length_le r.address.val
  have hlen := r.address.property.2
  refine bodyFits_of [.bleAddress] (List.Sublist.refl _) (by decide) ?_
  simp only [controlFields, fieldsSize_cons, fieldItem_ofText_length, fieldsSize_nil]
  omega

theorem blePair_fits {r : BlePairRequest} (attached : Attached (.control (.blePair r)) secrets) :
    BodyFits (controlFields secrets (.blePair r)) := by
  refine bodyFits_of [.passkey] (optionalField_ids _) (by decide) ?_
  rcases attached_pair attached with ⟨-, rfl⟩ | ⟨profile, rfl⟩
  · exact Nat.zero_le _
  · have hpasskey := utf8_length_le profile.passkey.val
    have hlen := profile.passkey.property.2
    have hfields : controlFields [("passkey", .ofText profile.passkey)] (.blePair r) =
        [(.passkey, ofText profile.passkey)] := rfl
    rw [hfields]
    simp only [fieldsSize_cons, fieldItem_ofText_length, fieldsSize_nil]
    omega

theorem bleDiscover_fits (r : BleDiscoverRequest) :
    BodyFits (controlFields secrets (.bleDiscover r)) := by
  have hservice := @fieldsSize_optionalText_le .serviceUuid _ _ r.serviceUuid
  refine bodyFits_of [.serviceUuid] (optionalField_ids _) (by decide) ?_
  simp only [controlFields]
  omega

theorem bleSubscribe_fits (r : BleSubscribeRequest) :
    BodyFits (controlFields secrets (.bleSubscribe r)) := by
  have hservice := utf8_textField_length_le r.serviceUuid
  have hcharacteristic := utf8_textField_length_le r.characteristicUuid
  refine bodyFits_of _ (List.Sublist.refl _) (by simp [controlFields]) ?_
  simp only [controlFields, fieldsSize_cons, fieldItem_ofText_length, fieldItem_ofBool_length,
    fieldSize, fieldsSize_nil]
  omega

theorem gpioConfigure_fits (r : GpioConfigureRequest) :
    BodyFits (controlFields secrets (.gpioConfigure r)) := by
  have hinitial : fieldsSize (optionalField .initialValue (r.initialValue.map ofBool)) ≤ 4 + 1 :=
    fieldsSize_optional_le (fun b => Nat.le_of_eq (fieldItem_ofBool_length b)) _
  refine bodyFits_of [.pin, .pull, .initialValue, .gpioMode] ?_ (by decide) ?_
  · simp only [controlFields, List.map_append]
    exact ((List.Sublist.refl _).append (optionalField_ids _)).append (List.Sublist.refl _)
  · simp only [controlFields, fieldsSize_append, fieldsSize_cons, fieldsSize_nil,
      fieldItem_number_length, fieldSize]
    omega

theorem controlFields_fit {r : ControlRequest} (attached : Attached (.control r) secrets) :
    BodyFits (controlFields secrets r) := by
  cases r with
  | usbSelect r => exact usbSelect_fits r
  | wifiConnect r => exact wifiConnect_fits attached
  | wifiSocketOpen r => exact wifiSocketOpen_fits r
  | bleScan r => exact bleScan_fits r
  | bleConnect r => exact bleConnect_fits r
  | blePair r => exact blePair_fits attached
  | bleDiscover r => exact bleDiscover_fits r
  | bleSubscribe r => exact bleSubscribe_fits r
  | gpioConfigure r => exact gpioConfigure_fits r
  | uartConfigure r | canConfigure r | wifiSocketClose r | gpioWatch r =>
    exact bodyFits_of _ (List.Sublist.refl _) (by simp [controlFields])
      (by simp [controlFields, fieldSize])
  | usbEnumerate | usbReset | usbRelease | wifiDisconnect | bleDisconnect =>
    exact bodyFits_of [] (List.Sublist.refl _) (by decide) (Nat.zero_le _)

theorem usbTransfer_fits (r : UsbTransferRequest) : BodyFits (exchangeFields (.usbTransfer r)) := by
  have hpayload : r.dataBase64.payload.length ≤ 64000 := payload_length_le _
  have hrequestType := @fieldsSize_optionalNumber_le .requestType _ r.requestType
  have hrequest := @fieldsSize_optionalNumber_le .requestCode _ r.request
  have hvalue := @fieldsSize_optionalNumber_le .value _ r.value
  have hindex := @fieldsSize_optionalNumber_le .index _ r.index
  refine bodyFits_of [.data, .transferType, .endpoint, .readLength, .requestType, .requestCode, .value,
    .index] ?_ (by decide) ?_
  · simp only [exchangeFields, List.map_append]
    exact ((((List.Sublist.refl _).append (optionalField_ids _)).append (optionalField_ids _)).append
      (optionalField_ids _)).append (optionalField_ids _)
  · simp only [exchangeFields, fieldsSize_append, fieldsSize_cons, fieldsSize_nil,
      fieldItem_ofNat_length, fieldItem_number_length, fieldItem_bytes_length, fieldSize] at *
    omega

theorem exchangeFields_fit (r : ExchangeRequest) : BodyFits (exchangeFields r) := by
  cases r with
  | usbTransfer r => exact usbTransfer_fits r
  | bleRead r =>
    have hservice := utf8_textField_length_le r.serviceUuid
    have hcharacteristic := utf8_textField_length_le r.characteristicUuid
    refine bodyFits_of _ (List.Sublist.refl _) (by simp [exchangeFields]) ?_
    simp only [exchangeFields, fieldsSize_cons, fieldItem_ofText_length, fieldsSize_nil]
    omega
  | bleWrite r =>
    have hpayload : r.dataBase64.payload.length ≤ 64000 := payload_length_le _
    have hservice := utf8_textField_length_le r.serviceUuid
    have hcharacteristic := utf8_textField_length_le r.characteristicUuid
    refine bodyFits_of _ (List.Sublist.refl _) (by simp [exchangeFields]) ?_
    simp only [exchangeFields, fieldsSize_cons, fieldItem_ofText_length, fieldItem_bytes_length,
      fieldItem_number_length, fieldSize, fieldsSize_nil]
    omega
  | spiExchange r | uartWrite r | wifiSend r =>
    have hpayload : r.dataBase64.payload.length ≤ 64000 := payload_length_le _
    refine bodyFits_of _ (List.Sublist.refl _) (by simp [exchangeFields]) ?_
    simp only [exchangeFields, fieldsSize_cons, fieldItem_ofNat_length, fieldItem_bytes_length,
      fieldItem_number_length, fieldSize, fieldsSize_nil]
    omega
  | i2cExchange r =>
    have hpayload := payload_length_le r.dataBase64
    refine bodyFits_of _ (List.Sublist.refl _) (by simp [exchangeFields]) ?_
    simp only [exchangeFields, fieldsSize_cons, fieldItem_ofNat_length, fieldItem_bytes_length,
      fieldItem_ofBool_length, fieldSize, fieldsSize_nil]
    omega
  | canSend r =>
    have hpayload := payload_length_le r.dataBase64
    refine bodyFits_of _ (List.Sublist.refl _) (by simp [exchangeFields]) ?_
    simp only [exchangeFields, fieldsSize_cons, fieldItem_ofNat_length, fieldItem_bytes_length,
      fieldItem_ofBool_length, fieldSize, fieldsSize_nil]
    omega
  | gpioRead r | gpioWrite r | gpioPulse r =>
    exact bodyFits_of _ (List.Sublist.refl _) (by simp [exchangeFields])
      (by simp [exchangeFields, fieldSize])

theorem requestFields_fit {request : BridgeRequest} (attached : Attached request secrets) :
    BodyFits (requestFields secrets request) := by
  cases request with
  | status => exact bodyFits_of [] (List.Sublist.refl _) (by decide) (Nat.zero_le _)
  | control r => exact controlFields_fit attached
  | exchange r => exact exchangeFields_fit r
  | receive r =>
    exact bodyFits_of _ (List.Sublist.refl _) (by simp [requestFields])
      (by simp [requestFields, fieldSize])

end fits

section control

theorem profileName_scalars (name : ProfileName) : name.val.all isScalar = true := by
  refine List.all_eq_true.mpr fun c hc => ?_
  have hchar := List.all_eq_true.mp name.property.1 c hc
  simp only [isProfileChar, isScalar, Bool.or_eq_true, Bool.and_eq_true, decide_eq_true_eq,
    beq_iff_eq] at hchar ⊢
  omega

theorem passkey_scalars (profile : BlePasskeyProfile) : profile.passkey.val.all isScalar = true := by
  refine List.all_eq_true.mpr fun c hc => ?_
  have hchar := List.all_eq_true.mp profile.passkey.property.1 c hc
  simp only [isDigitChar, isScalar, Bool.or_eq_true, Bool.and_eq_true, decide_eq_true_eq] at hchar ⊢
  omega

theorem uartConfigure_encodes (r : UartConfigureRequest) :
    Encodes "uart_configure" r.modelDump.tail (controlFields [] (.uartConfigure r)) :=
  .cons (.bounded (by decide) _) (.cons (.bounded (by decide) _)
    (.cons (.literal 8 (by decide) (by decide) _) (.cons (by cases r.parity <;> rfl)
    (.cons (.literal 2 (by decide) (by decide) _) .nil))))

theorem canConfigure_encodes (r : CanConfigureRequest) :
    Encodes "can_configure" r.modelDump.tail (controlFields [] (.canConfigure r)) :=
  .cons (.bounded (by decide) _) (.cons (.literal 1000000 (by decide) (by decide) _) .nil)

theorem usbSelect_encodes (r : UsbSelectRequest) :
    Encodes "usb_select" r.modelDump.tail (controlFields [] (.usbSelect r)) :=
  ((Encodes.cons (.bounded (by decide) _) (.cons (.bounded (by decide) _) .nil)).append
    (.optional (fun serial => .textField (by decide) (by decide) serial) _)).append
    (.optional (fun number => .bounded (by decide) number) _)

/-- The secrets come behind the profile name, which is sent as well. -/
theorem wifiConnect_encodes (r : WifiConnectRequest) (profile : WifiCredentialProfile)
    (ssid : profile.ssid.val.all isScalar = true) (password : profile.password.val.all isScalar = true) :
    Encodes "wifi_connect" (r.modelDump.tail ++ [("ssid", .ofText profile.ssid),
      ("password", .ofText profile.password)])
      [(.profile, ofText r.profile), (.ssid, ofText profile.ssid),
        (.password, ofText profile.password)] := by
  have hname := r.profile.property.2.2
  have hssid := profile.ssid.property.2
  have hpassword := profile.password.property.2
  exact .cons (.text (by decide) _ (profileName_scalars _) (by omega))
    (.cons (.text (by decide) _ ssid (by omega)) (.cons (.text (by decide) _ password (by omega)) .nil))

/-- Without a local port every field is sent, the port as the network's. -/
theorem wifiSocketOpen_encodes (r : WifiSocketOpenRequest) :
    Encodes "wifi_socket_open" [("protocol", .ofString r.protocol.value), ("host", .ofText r.host),
      ("port_network", .ofInt r.port)]
      [(.socketProtocol, number r.protocol.number), (.host, ofText r.host), (.networkPort, ofNat r.port)] :=
  .cons (by cases r.protocol <;> rfl) (.cons (.textField (by decide) (by decide) _)
    (.cons (.bounded (by decide) _) .nil))

theorem bleScan_encodes (r : BleScanRequest) :
    Encodes "ble_scan" r.modelDump.tail (controlFields [] (.bleScan r)) :=
  (Encodes.cons (.bounded (by decide) _) .nil).append
    (.optional (fun uuid => .textField (by decide) (by decide) uuid) _)

theorem bleDiscover_encodes (r : BleDiscoverRequest) :
    Encodes "ble_discover" r.modelDump.tail (controlFields [] (.bleDiscover r)) :=
  .optional (fun uuid => .textField (by decide) (by decide) uuid) _

theorem bleSubscribe_encodes (r : BleSubscribeRequest) :
    Encodes "ble_subscribe" r.modelDump.tail (controlFields [] (.bleSubscribe r)) :=
  .cons (.textField (by decide) (by decide) _) (.cons (.textField (by decide) (by decide) _)
    (.cons (.bool (by decide) rfl _) .nil))

/-- The mode is taken out and set again, which puts it last. -/
theorem gpioConfigure_encodes (r : GpioConfigureRequest) :
    Encodes "gpio_configure" ([("pin", .ofText r.pin), ("pull", .ofString r.pull.value)] ++
      dumpOptional "initial_value" (r.initialValue.map .bool) ++ [("mode", .ofString r.mode.value)])
      (controlFields [] (.gpioConfigure r)) :=
  ((Encodes.cons (.pin (by decide) (.inl rfl) rfl _) (.cons (by cases r.pull <;> rfl) .nil)).append
    (.optional (fun b => .bool (by decide) rfl b) _)).append (.cons (by cases r.mode <;> rfl) .nil)

theorem gpioWatch_encodes (r : GpioWatchRequest) :
    Encodes "gpio_watch" r.modelDump.tail (controlFields [] (.gpioWatch r)) :=
  .cons (.pin (by decide) (.inl rfl) rfl _) (.cons (by cases r.edge <;> rfl) .nil)

end control

section exchange

theorem spiExchange_encodes (r : SpiExchangeRequest) :
    Encodes "spi_exchange" (r.modelDump.filter (·.1 ≠ "operation")) (exchangeFields (.spiExchange r)) :=
  .cons (.payload (by decide) _) (.cons (.bounded (by decide) _)
    (.cons (.pin (by decide) (.inr rfl) rfl _) (.cons (.bounded (by decide) _)
    (.cons (.literal 3 (by decide) (by decide) _) (.cons (by cases r.bitOrder <;> rfl)
    (.cons (.bounded (by decide) _) (.cons (.bounded (by decide) _) .nil)))))))

theorem i2cExchange_encodes (r : I2cExchangeRequest) :
    Encodes "i2c_exchange" (r.modelDump.filter (·.1 ≠ "operation")) (exchangeFields (.i2cExchange r)) :=
  .cons (.payload (by decide) _) (.cons (.literal 1 (by decide) (by decide) _)
    (.cons (.bounded (by decide) _) (.cons (.bounded (by decide) _)
    (.cons (.bool (by decide) rfl _) (.cons (.literal 400000 (by decide) (by decide) _) .nil)))))

theorem canSend_encodes (r : CanSendRequest) :
    Encodes "can_send" (r.modelDump.filter (·.1 ≠ "operation")) (exchangeFields (.canSend r)) :=
  .cons (.payload (by decide) _) (.cons (.bounded (by decide) _) (.cons (.bounded (by decide) _)
    (.cons (.bool (by decide) rfl _) .nil)))

theorem usbTransfer_encodes (r : UsbTransferRequest) :
    Encodes "usb_transfer" ([("data_base64", .ofText r.dataBase64),
      ("transfer_type", .ofString r.transferType.value), ("endpoint", .ofInt r.endpoint),
      ("read_length", .ofInt r.readLength)] ++
      dumpOptional "request_type" (r.requestType.map .ofInt) ++
      dumpOptional "request" (r.request.map .ofInt) ++
      dumpOptional "value" (r.value.map .ofInt) ++
      dumpOptional "index" (r.index.map .ofInt)) (exchangeFields (.usbTransfer r)) :=
  ((((Encodes.cons (.payload (by decide) _) (.cons (by cases r.transferType <;> rfl)
    (.cons (.bounded (by decide) _) (.cons (.bounded (by decide) _) .nil)))).append
    (.optional (fun n => .bounded (by decide) n) _)).append
    (.optional (fun n => .bounded (by decide) n) _)).append
    (.optional (fun n => .bounded (by decide) n) _)).append
    (.optional (fun n => .bounded (by decide) n) _)

theorem bleWrite_encodes (r : BleWriteRequest) :
    Encodes "ble_write" (r.modelDump.filter (·.1 ≠ "operation")) (exchangeFields (.bleWrite r)) :=
  .cons (.payload (by decide) _) (.cons (.textField (by decide) (by decide) _)
    (.cons (.textField (by decide) (by decide) _) (.cons (by cases r.writeMode <;> rfl) .nil)))

/-- The value is taken out and set again under its own name, which puts it last. -/
theorem gpioPulse_encodes (r : GpioPulseRequest) :
    Encodes "gpio_pulse" [("pin", .ofText r.pin), ("duration_us", .ofInt r.durationUs),
      ("value_gpio", .bool r.value)] (exchangeFields (.gpioPulse r)) :=
  .cons (.pin (by decide) (.inl rfl) rfl _) (.cons (.bounded (by decide) _)
    (.cons (.bool (by decide) rfl _) .nil))

end exchange

theorem control_encodes {r : ControlRequest} {secrets : PyDict} (attached : Attached (.control r) secrets)
    (encodable : Encodable secrets (.control r)) :
    encodeRequestBody r.modelDump none secrets = .ok (tlvBytes (requestItems secrets (.control r))) := by
  have fits := controlFields_fit attached
  cases r with
  | wifiConnect r =>
    obtain ⟨profile, rfl⟩ := attached_wifi attached
    have hssid := encodable _ List.mem_cons_self _ rfl
    have hpassword := encodable _ (List.mem_cons_of_mem _ List.mem_cons_self) _ rfl
    exact encodeRequestBody_of_encodes .wifiConnect rfl rfl
      (wifiConnect_encodes r profile hssid hpassword) fits
  | blePair r =>
    obtain ⟨name⟩ := r
    rcases attached_pair attached with ⟨hnone, rfl⟩ | ⟨profile, rfl⟩
    · obtain rfl : name = none := hnone
      exact encodeRequestBody_of_encodes .blePair rfl rfl .nil fits
    · have hlen := profile.passkey.property.2
      have hpasskey : Encodes "ble_pair" [("passkey", .ofText profile.passkey)]
          [(.passkey, ofText profile.passkey)] :=
        .text (by decide) _ (passkey_scalars profile) (by omega)
      cases name with
      | none => exact encodeRequestBody_of_encodes .blePair rfl rfl hpasskey fits
      | some name =>
        -- the profile name is left out
        have hskip : Encodes "ble_pair" [("passkey_profile", .ofText name),
            ("passkey", .ofText profile.passkey)] [(.passkey, ofText profile.passkey)] := hpasskey
        exact encodeRequestBody_of_encodes .blePair rfl rfl hskip fits
  | bleConnect r => exact encodable.elim
  | wifiSocketOpen r =>
    obtain ⟨protocol, host, port, localPort⟩ := r
    obtain rfl : localPort = none := encodable
    obtain rfl := attached_nil (fun _ => rfl) attached
    exact encodeRequestBody_of_encodes .wifiSocketOpen rfl rfl
      (wifiSocketOpen_encodes ⟨protocol, host, port, none⟩) fits
  | uartConfigure r =>
    obtain rfl := attached_nil (fun _ => rfl) attached
    exact encodeRequestBody_of_encodes .uartConfigure rfl rfl (uartConfigure_encodes r) fits
  | canConfigure r =>
    obtain rfl := attached_nil (fun _ => rfl) attached
    exact encodeRequestBody_of_encodes .canConfigure rfl rfl (canConfigure_encodes r) fits
  | usbEnumerate =>
    obtain rfl := attached_nil (fun _ => rfl) attached
    exact encodeRequestBody_of_encodes .usbEnumerate rfl rfl .nil fits
  | usbSelect r =>
    obtain rfl := attached_nil (fun _ => rfl) attached
    have hname : operationOf r.modelDump none = (.ofString "usb_select", r.modelDump.tail) := by
      obtain ⟨vid, pid, serial, number⟩ := r
      cases serial <;> cases number <;> rfl
    exact encodeRequestBody_of_encodes .usbSelect hname rfl (usbSelect_encodes r) fits
  | usbReset =>
    obtain rfl := attached_nil (fun _ => rfl) attached
    exact encodeRequestBody_of_encodes .usbReset rfl rfl .nil fits
  | usbRelease =>
    obtain rfl := attached_nil (fun _ => rfl) attached
    exact encodeRequestBody_of_encodes .usbRelease rfl rfl .nil fits
  | wifiDisconnect =>
    obtain rfl := attached_nil (fun _ => rfl) attached
    exact encodeRequestBody_of_encodes .wifiDisconnect rfl rfl .nil fits
  | wifiSocketClose r =>
    obtain rfl := attached_nil (fun _ => rfl) attached
    exact encodeRequestBody_of_encodes .wifiSocketClose rfl rfl
      (.cons (.bounded (by decide) _) .nil) fits
  | bleScan r =>
    obtain rfl := attached_nil (fun _ => rfl) attached
    have hname : operationOf r.modelDump none = (.ofString "ble_scan", r.modelDump.tail) := by
      obtain ⟨duration, uuid⟩ := r
      cases uuid <;> rfl
    exact encodeRequestBody_of_encodes .bleScan hname rfl (bleScan_encodes r) fits
  | bleDisconnect =>
    obtain rfl := attached_nil (fun _ => rfl) attached
    exact encodeRequestBody_of_encodes .bleDisconnect rfl rfl .nil fits
  | bleDiscover r =>
    obtain rfl := attached_nil (fun _ => rfl) attached
    have hname : operationOf r.modelDump none = (.ofString "ble_discover", r.modelDump.tail) := by
      obtain ⟨uuid⟩ := r
      cases uuid <;> rfl
    exact encodeRequestBody_of_encodes .bleDiscover hname rfl (bleDiscover_encodes r) fits
  | bleSubscribe r =>
    obtain rfl := attached_nil (fun _ => rfl) attached
    exact encodeRequestBody_of_encodes .bleSubscribe rfl rfl (bleSubscribe_encodes r) fits
  | gpioConfigure r =>
    obtain rfl := attached_nil (fun _ => rfl) attached
    have hname : operationOf r.modelDump none = (.ofString "gpio_configure", r.modelDump.tail) := by
      obtain ⟨pin, mode, pull, initial⟩ := r
      cases initial <;> rfl
    have hrenamed : renamedValues "gpio_configure" r.modelDump.tail =
        .ok ([("pin", .ofText r.pin), ("pull", .ofString r.pull.value)] ++
          dumpOptional "initial_value" (r.initialValue.map .bool) ++
          [("mode", .ofString r.mode.value)]) := by
      obtain ⟨pin, mode, pull, initial⟩ := r
      cases initial <;> rfl
    exact encodeRequestBody_of_encodes .gpioConfigure hname hrenamed (gpioConfigure_encodes r) fits
  | gpioWatch r =>
    obtain rfl := attached_nil (fun _ => rfl) attached
    exact encodeRequestBody_of_encodes .gpioWatch rfl rfl (gpioWatch_encodes r) fits

theorem exchange_encodes (r : ExchangeRequest) :
    encodeRequestBody r.modelDump none [] = .ok (tlvBytes (requestItems [] (.exchange r))) := by
  have fits := exchangeFields_fit r
  cases r with
  | spiExchange r => exact encodeRequestBody_of_encodes .spiExchange rfl rfl (spiExchange_encodes r) fits
  | i2cExchange r => exact encodeRequestBody_of_encodes .i2cExchange rfl rfl (i2cExchange_encodes r) fits
  | uartWrite r =>
    exact encodeRequestBody_of_encodes .uartWrite rfl rfl
      (.cons (.payload (by decide) _) (.cons (.bounded (by decide) _) .nil)) fits
  | canSend r => exact encodeRequestBody_of_encodes .canSend rfl rfl (canSend_encodes r) fits
  | usbTransfer r =>
    have hname : operationOf r.modelDump none = (.ofString "usb_transfer",
        r.modelDump.filter fun item => item.1 ≠ "operation") := rfl
    have hfilter : r.modelDump.filter (fun item => item.1 ≠ "operation") =
        r.modelDump.head?.toList ++ r.modelDump.drop 2 := by
      obtain ⟨data, type, endpoint, length, requestType, request, value, index⟩ := r
      cases requestType <;> cases request <;> cases value <;> cases index <;> rfl
    rw [hfilter] at hname
    exact encodeRequestBody_of_encodes .usbTransfer hname rfl (usbTransfer_encodes r) fits
  | wifiSend r =>
    exact encodeRequestBody_of_encodes .wifiSend rfl rfl
      (.cons (.payload (by decide) _) (.cons (.bounded (by decide) _) .nil)) fits
  | bleRead r =>
    exact encodeRequestBody_of_encodes .bleRead rfl rfl
      (.cons (.textField (by decide) (by decide) _) (.cons (.textField (by decide) (by decide) _) .nil))
      fits
  | bleWrite r => exact encodeRequestBody_of_encodes .bleWrite rfl rfl (bleWrite_encodes r) fits
  | gpioRead r =>
    exact encodeRequestBody_of_encodes .gpioRead rfl rfl
      (.cons (.pin (by decide) (.inl rfl) rfl _) .nil) fits
  | gpioWrite r =>
    exact encodeRequestBody_of_encodes .gpioWrite rfl rfl
      (.cons (.pin (by decide) (.inl rfl) rfl _) (.cons (.bool (by decide) rfl _) .nil)) fits
  | gpioPulse r => exact encodeRequestBody_of_encodes .gpioPulse rfl rfl (gpioPulse_encodes r) fits

theorem receive_encodes (r : ReceiveRequest) :
    Encodes "receive" r.modelDump (requestFields [] (.receive r)) :=
  .cons (by cases r.protocol.val <;> rfl) (.cons (.bounded (by decide) _)
    (.cons (.bounded (by decide) _) (.cons (.bool (by decide) rfl _)
    (.cons (.bounded (by decide) _) .nil))))

/-- Every encodable request becomes the row of its fields behind the operation. -/
theorem encodeRequestBody_eq {request : BridgeRequest} {secrets : PyDict}
    (attached : Attached request secrets) (encodable : Encodable secrets request) :
    encodeRequestBody request.modelDump request.operationArgument secrets =
      .ok (tlvBytes (requestItems secrets request)) := by
  cases request with
  | status =>
    obtain rfl := attached_nil (fun _ => rfl) attached
    exact encodeRequestBody_of_encodes .getStatus rfl rfl .nil (requestFields_fit attached)
  | control r => exact control_encodes attached encodable
  | exchange r =>
    obtain rfl := attached_nil (fun _ => rfl) attached
    exact exchange_encodes r
  | receive r =>
    obtain rfl := attached_nil (fun _ => rfl) attached
    exact encodeRequestBody_of_encodes .receive rfl rfl (receive_encodes r) (requestFields_fit attached)

end JLinkMcp
