import JLinkMcp.FirmwareReads
import JLinkMcp.RequestPath

namespace JLinkMcp

open Codec Host FieldValue
open Firmware (TlvReader FieldRead handlerReads)

/-- A read of the handler gets what the request says of the field: the number in exactly its width,
or the bytes. A field that the request leaves out is missing, and the read does not require it. -/
def Carries (fields : List (Firmware.FieldId × FieldValue)) (reader : TlvReader) : FieldRead → Prop
  | .number field width initial required =>
    match fields.lookup field with
    | some (.number n) => reader.find field.toNat = (true, some (leBytes width n)) ∧
        reader.getNumber width field.toNat initial required = some n
    | some (.bytes _) => False
    | none => required = false ∧ reader.find field.toNat = (false, none)
  | .bytes field required =>
    match fields.lookup field with
    | some (.bytes value) => reader.bytes field.toNat required = some (some value)
    | some (.number _) => False
    | none => required = false ∧ reader.find field.toNat = (false, none)

/-- The condition on the fields alone. -/
def Covers (fields : List (Firmware.FieldId × FieldValue)) : FieldRead → Prop
  | .number field width _ required =>
    match fields.lookup field with
    | some (.number n) => fieldSize field = width ∧ n < 256 ^ width
    | some (.bytes _) => False
    | none => required = false ∧ field ≠ .operation
  | .bytes field required =>
    match fields.lookup field with
    | some (.bytes _) => True
    | some (.number _) => False
    | none => required = false ∧ field ≠ .operation

theorem lookup_ids {fields : List (Firmware.FieldId × FieldValue)} {field : Firmware.FieldId}
    {value : FieldValue} (h : fields.lookup field = some value) : field ∈ fields.map Prod.fst := by
  induction fields with
  | nil => simp at h
  | cons entry fields ih =>
    rw [List.lookup_cons] at h
    split at h
    next he => simp [eq_of_beq he]
    next => exact List.mem_cons_of_mem _ (ih h)

theorem lookup_fieldItems (fields : List (Firmware.FieldId × FieldValue)) (field : Firmware.FieldId) :
    lookupTlv field.toNat (fields.map fieldItem) =
      (fields.lookup field).map fun value => (fieldItem (field, value)).2 := by
  induction fields with
  | nil => rfl
  | cons entry fields ih =>
    obtain ⟨key, value⟩ := entry
    rw [List.map_cons, lookupTlv, fieldItem_fst, List.lookup_cons]
    by_cases he : field = key
    · subst he
      simp
    · rw [if_neg fun h => he (Firmware.FieldId.toNat_injective _ _ h).symm, ih]
      rw [beq_false_of_ne he]

section reads

variable {operation : Firmware.Operation} {fields : List (Firmware.FieldId × FieldValue)}
    {field : Firmware.FieldId}

theorem lookup_fieldsBody (ne : field ≠ .operation) :
    lookupTlv field.toNat (fieldsBody operation fields) =
      (fields.lookup field).map fun value => (fieldItem (field, value)).2 := by
  rw [fieldsBody, lookupTlv, if_neg fun h => ne (Firmware.FieldId.toNat_injective _ _ h).symm,
    lookup_fieldItems]

variable (fits : BodyFits fields)

include fits

theorem field_ne_operation {value : FieldValue} (h : fields.lookup field = some value) :
    field ≠ .operation := by
  rintro rfl
  exact (List.nodup_cons.mp fits.nodup).1 (lookup_ids h)

theorem find_fieldsBody (ne : field ≠ .operation) :
    (TlvReader.mk (tlvBytes (fieldsBody operation fields))).find field.toNat =
      ((fields.lookup field).isSome,
        (fields.lookup field).map fun value => (fieldItem (field, value)).2) := by
  rw [Firmware.find_tlvBytes (fits.representable operation) (fits.nodup_items operation),
    lookup_fieldsBody ne, Option.isSome_map]

theorem getNumber_fieldsBody {n initial : Nat} {required : Bool}
    (h : fields.lookup field = some (.number n)) (small : n < 256 ^ fieldSize field) :
    (TlvReader.mk (tlvBytes (fieldsBody operation fields))).getNumber (fieldSize field) field.toNat
      initial required = some n := by
  rw [Firmware.getNumber_tlvBytes (fits.representable operation) (fits.nodup_items operation),
    lookup_fieldsBody (field_ne_operation fits h), h]
  simp [fieldItem, leNat_leBytes_of_lt small, -fieldSize]

theorem bytes_fieldsBody {value : Host.Bytes} {required : Bool}
    (h : fields.lookup field = some (.bytes value)) :
    (TlvReader.mk (tlvBytes (fieldsBody operation fields))).bytes field.toNat required =
      some (some value) := by
  rw [Firmware.bytes_tlvBytes (fits.representable operation) (fits.nodup_items operation),
    lookup_fieldsBody (field_ne_operation fits h), h]
  rfl

/-- A body carries what its fields cover. -/
theorem carries_of_covers {read : FieldRead} (h : Covers fields read) :
    Carries fields ⟨tlvBytes (fieldsBody operation fields)⟩ read := by
  cases read with
  | number field width initial required =>
    rw [Covers] at h
    rw [Carries]
    cases hlookup : fields.lookup field with
    | none =>
      rw [hlookup] at h
      exact ⟨h.1, by rw [find_fieldsBody fits h.2, hlookup]; rfl⟩
    | some value =>
      rw [hlookup] at h
      cases value with
      | number n =>
        obtain ⟨rfl, hsmall⟩ := h
        refine ⟨?_, getNumber_fieldsBody fits hlookup hsmall⟩
        rw [find_fieldsBody fits (field_ne_operation fits hlookup), hlookup]
        rfl
      | bytes value => exact h
  | bytes field required =>
    rw [Covers] at h
    rw [Carries]
    cases hlookup : fields.lookup field with
    | none =>
      rw [hlookup] at h
      exact ⟨h.1, by rw [find_fieldsBody fits h.2, hlookup]; rfl⟩
    | some value =>
      rw [hlookup] at h
      cases value with
      | number n => exact h
      | bytes value => exact bytes_fieldsBody fits hlookup

end reads

section cover

variable {fields : List (Firmware.FieldId × FieldValue)} {field : Firmware.FieldId}
    {width initial : Nat} {required : Bool}

theorem covers_number {n : Nat} (h : fields.lookup field = some (number n))
    (hwidth : fieldSize field = width) (small : n < 256 ^ width) :
    Covers fields (.number field width initial required) := by
  rw [Covers, h]
  exact ⟨hwidth, small⟩

theorem covers_bytes {value : Host.Bytes} (h : fields.lookup field = some (bytes value)) :
    Covers fields (.bytes field required) := by
  rw [Covers, h]
  trivial

theorem covers_missing_number (h : fields.lookup field = none) (ne : field ≠ .operation) :
    Covers fields (.number field width initial false) := by
  rw [Covers, h]
  exact ⟨rfl, ne⟩

theorem covers_missing_bytes (h : fields.lookup field = none) (ne : field ≠ .operation) :
    Covers fields (.bytes field false) := by
  rw [Covers, h]
  exact ⟨rfl, ne⟩

end cover

theorem SafePin.number_lt (pin : SafePin) : pin.number < 256 ^ 2 :=
  (pinNumber_of_safe pin.val pin.property).2

theorem boundedInt_lt {lower upper bound : Nat} (n : BoundedInt lower upper) (h : upper < bound) :
    n.val < bound := Nat.lt_of_le_of_lt n.property.2 h

theorem Bool.toNat_lt_byte (b : Bool) : b.toNat < 256 ^ 1 := by
  cases b <;> decide

section control

variable {secrets : PyDict} {reader : TlvReader}

theorem uartConfigure_covers (r : UartConfigureRequest) :
    ∀ read ∈ handlerReads .uartConfigure reader,
      Covers (controlFields secrets (.uartConfigure r)) read := by
  have hport := r.port.property
  have hbaudrate := r.baudrate.property
  have hdata := r.dataBits.property
  have hstop := r.stopBits.property
  simp only [List.mem_cons, List.not_mem_nil, or_false] at hdata hstop
  simp only [handlerReads, List.forall_mem_cons]
  refine ⟨covers_number rfl rfl (by omega), covers_number rfl rfl (by omega),
    covers_number rfl rfl (by omega), covers_number rfl rfl ?_, covers_number rfl rfl (by omega),
      List.forall_mem_nil _⟩
  cases r.parity <;> decide

theorem canConfigure_covers (r : CanConfigureRequest) :
    ∀ read ∈ handlerReads .canConfigure reader,
      Covers (controlFields secrets (.canConfigure r)) read := by
  have hbus := r.bus.property
  have hbitrate := r.bitrate.property
  simp only [List.mem_cons, List.not_mem_nil, or_false] at hbitrate
  simp only [handlerReads, List.forall_mem_cons]
  exact ⟨covers_number rfl rfl (by omega), covers_number rfl rfl (by omega), List.forall_mem_nil _⟩

theorem usbSelect_covers (r : UsbSelectRequest) :
    ∀ read ∈ handlerReads .usbSelect reader, Covers (controlFields secrets (.usbSelect r)) read := by
  obtain ⟨vendorId, productId, serial, interfaceNumber⟩ := r
  simp only [handlerReads, List.forall_mem_cons]
  refine ⟨covers_number rfl rfl (boundedInt_lt vendorId (by decide)),
    covers_number rfl rfl (boundedInt_lt productId (by decide)), ?_, ?_, List.forall_mem_nil _⟩
  · cases interfaceNumber with
    | none => cases serial <;> exact covers_missing_number rfl (by decide)
    | some interfaceNumber =>
      cases serial <;> exact covers_number rfl rfl (boundedInt_lt interfaceNumber (by decide))
  · cases serial with
    | none => cases interfaceNumber <;> exact covers_missing_bytes rfl (by decide)
    | some serial => exact covers_bytes rfl

theorem wifiConnect_covers {r : WifiConnectRequest}
    (attached : Attached (.control (.wifiConnect r)) secrets) :
    ∀ read ∈ handlerReads .wifiConnect reader,
      Covers (controlFields secrets (.wifiConnect r)) read := by
  obtain ⟨profile, rfl⟩ := attached_wifi attached
  simp only [handlerReads, List.forall_mem_cons]
  exact ⟨covers_bytes rfl, covers_bytes rfl, List.forall_mem_nil _⟩

theorem wifiSocketOpen_covers (r : WifiSocketOpenRequest) :
    ∀ read ∈ handlerReads .wifiSocketOpen reader,
      Covers (controlFields secrets (.wifiSocketOpen r)) read := by
  obtain ⟨protocol, host, port, localPort⟩ := r
  have hprotocol : protocol.number < 256 ^ 1 := by cases protocol <;> decide
  simp only [handlerReads, List.forall_mem_cons]
  cases localPort with
  | none =>
    exact ⟨covers_number rfl rfl hprotocol, covers_number rfl rfl (boundedInt_lt port (by decide)),
      covers_missing_number rfl (by decide), covers_bytes rfl, List.forall_mem_nil _⟩
  | some localPort =>
    exact ⟨covers_number rfl rfl hprotocol, covers_number rfl rfl (boundedInt_lt port (by decide)),
      covers_number rfl rfl (boundedInt_lt localPort (by decide)), covers_bytes rfl, List.forall_mem_nil _⟩

theorem bleScan_covers (r : BleScanRequest) :
    ∀ read ∈ handlerReads .bleScan reader, Covers (controlFields secrets (.bleScan r)) read := by
  obtain ⟨duration, service⟩ := r
  simp only [handlerReads, List.forall_mem_cons]
  refine ⟨covers_number rfl rfl (boundedInt_lt duration (by decide)), ?_, List.forall_mem_nil _⟩
  cases service with
  | none => exact covers_missing_bytes rfl (by decide)
  | some service => exact covers_bytes rfl

theorem blePair_covers {r : BlePairRequest} (attached : Attached (.control (.blePair r)) secrets) :
    ∀ read ∈ handlerReads .blePair reader, Covers (controlFields secrets (.blePair r)) read := by
  simp only [handlerReads, List.forall_mem_cons]
  refine ⟨?_, List.forall_mem_nil _⟩
  rcases attached_pair attached with ⟨-, rfl⟩ | ⟨profile, rfl⟩
  · exact covers_missing_bytes rfl (by decide)
  · exact covers_bytes rfl

theorem bleDiscover_covers (r : BleDiscoverRequest) :
    ∀ read ∈ handlerReads .bleDiscover reader,
      Covers (controlFields secrets (.bleDiscover r)) read := by
  obtain ⟨service⟩ := r
  simp only [handlerReads, List.forall_mem_cons]
  refine ⟨?_, List.forall_mem_nil _⟩
  cases service with
  | none => exact covers_missing_bytes rfl (by decide)
  | some service => exact covers_bytes rfl

theorem gpioConfigure_covers (r : GpioConfigureRequest) :
    ∀ read ∈ handlerReads .gpioConfigure reader,
      Covers (controlFields secrets (.gpioConfigure r)) read := by
  obtain ⟨pin, mode, pull, initial, -, -⟩ := r
  have hmode : mode.number < 256 ^ 1 := by cases mode <;> decide
  have hpull : pull.number < 256 ^ 1 := by cases pull <;> decide
  simp only [handlerReads, List.forall_mem_cons]
  cases initial with
  | none =>
    exact ⟨covers_number rfl rfl (SafePin.number_lt pin), covers_number rfl rfl hmode,
      covers_number rfl rfl hpull, covers_missing_number rfl (by decide), List.forall_mem_nil _⟩
  | some initial =>
    exact ⟨covers_number rfl rfl (SafePin.number_lt pin), covers_number rfl rfl hmode,
      covers_number rfl rfl hpull, covers_number rfl rfl (Bool.toNat_lt_byte initial), List.forall_mem_nil _⟩

theorem controlFields_cover {r : ControlRequest} (attached : Attached (.control r) secrets) :
    ∀ read ∈ handlerReads (BridgeRequest.control r).operation reader,
      Covers (controlFields secrets r) read := by
  cases r with
  | usbEnumerate | usbReset | usbRelease | wifiDisconnect | bleDisconnect => exact List.forall_mem_nil _
  | uartConfigure r => exact uartConfigure_covers r
  | canConfigure r => exact canConfigure_covers r
  | usbSelect r => exact usbSelect_covers r
  | wifiConnect r => exact wifiConnect_covers attached
  | wifiSocketOpen r => exact wifiSocketOpen_covers r
  | bleScan r => exact bleScan_covers r
  | blePair r => exact blePair_covers attached
  | bleDiscover r => exact bleDiscover_covers r
  | gpioConfigure r => exact gpioConfigure_covers r
  | wifiSocketClose r =>
    have hsocket := r.socketId.property
    simp only [BridgeRequest.operation, handlerReads, List.forall_mem_cons]
    exact ⟨covers_number rfl rfl (by omega), List.forall_mem_nil _⟩
  | bleConnect r =>
    simp only [BridgeRequest.operation, handlerReads, List.forall_mem_cons]
    exact ⟨covers_bytes rfl, List.forall_mem_nil _⟩
  | bleSubscribe r =>
    simp only [BridgeRequest.operation, handlerReads, List.forall_mem_cons]
    exact ⟨covers_bytes rfl, covers_bytes rfl, covers_number rfl rfl (Bool.toNat_lt_byte _), List.forall_mem_nil _⟩
  | gpioWatch r =>
    simp only [BridgeRequest.operation, handlerReads, List.forall_mem_cons]
    refine ⟨covers_number rfl rfl (SafePin.number_lt _), covers_number rfl rfl ?_, List.forall_mem_nil _⟩
    cases r.edge <;> decide

end control

section exchange

variable {reader : TlvReader}

theorem spiExchange_covers (r : SpiExchangeRequest) :
    ∀ read ∈ handlerReads .spiExchange reader, Covers (exchangeFields (.spiExchange r)) read := by
  have hbus := r.bus.property
  have hclock := r.clockHz.property
  have hmode := r.mode.property
  have hfill := r.fillByte.property
  have hread := boundedInt_lt r.readLength (show maxApplicationPayload < 256 ^ 4 by decide)
  simp only [List.mem_cons, List.not_mem_nil, or_false] at hmode
  simp only [handlerReads, List.forall_mem_cons]
  refine ⟨covers_number rfl rfl (by omega), covers_number rfl rfl (SafePin.number_lt _),
    covers_number rfl rfl (by omega), covers_number rfl rfl (by omega), covers_number rfl rfl ?_,
    covers_number rfl rfl (by omega), covers_number rfl rfl hread, covers_bytes rfl, List.forall_mem_nil _⟩
  cases r.bitOrder <;> decide

theorem i2cExchange_covers (r : I2cExchangeRequest) :
    ∀ read ∈ handlerReads .i2cExchange reader, Covers (exchangeFields (.i2cExchange r)) read := by
  have hbus := r.bus.property
  have haddress := r.address.property
  have hread := r.readLength.property
  have hclock := r.clockHz.property
  simp only [List.mem_cons, List.not_mem_nil, or_false] at hbus hclock
  simp only [handlerReads, List.forall_mem_cons]
  exact ⟨covers_number rfl rfl (by omega), covers_number rfl rfl (by omega),
    covers_number rfl rfl (by omega), covers_number rfl rfl (by omega),
    covers_number rfl rfl (Bool.toNat_lt_byte _), covers_bytes rfl, List.forall_mem_nil _⟩

theorem canSend_covers (r : CanSendRequest) :
    ∀ read ∈ handlerReads .canSend reader, Covers (exchangeFields (.canSend r)) read := by
  have hbus := r.bus.property
  have hidentifier := r.arbitrationId.property
  simp only [handlerReads, List.forall_mem_cons]
  exact ⟨covers_number rfl rfl (by omega), covers_number rfl rfl (by omega),
    covers_number rfl rfl (Bool.toNat_lt_byte _), covers_bytes rfl, List.forall_mem_nil _⟩

/-- The setup packet is there for a control transfer, which alone reads it. -/
theorem usbTransfer_covers (r : UsbTransferRequest)
    (htype : reader.u8 .transferType = some r.transferType.number) :
    ∀ read ∈ handlerReads .usbTransfer reader, Covers (exchangeFields (.usbTransfer r)) read := by
  obtain ⟨data, type, endpoint, readLength, requestType, request, value, index, control, _, _⟩ := r
  have hnumber : type.number < 256 ^ 1 := by cases type <;> decide
  simp only [handlerReads, List.forall_mem_append, List.forall_mem_cons]
  refine ⟨⟨covers_number rfl rfl hnumber, covers_number rfl rfl (boundedInt_lt endpoint (by decide)),
    covers_number rfl rfl (boundedInt_lt readLength (by decide)), covers_bytes rfl, List.forall_mem_nil _⟩, ?_⟩
  split
  next hzero =>
    have hcontrol : type = .control := by
      rw [htype] at hzero
      cases type <;> first | rfl | cases hzero
    obtain ⟨hrequestType, hrequest, hvalue, hindex, -⟩ := control hcontrol
    obtain ⟨requestType, rfl⟩ := Option.isSome_iff_exists.mp hrequestType
    obtain ⟨request, rfl⟩ := Option.isSome_iff_exists.mp hrequest
    obtain ⟨value, rfl⟩ := Option.isSome_iff_exists.mp hvalue
    obtain ⟨index, rfl⟩ := Option.isSome_iff_exists.mp hindex
    simp only [List.forall_mem_cons]
    exact ⟨covers_number rfl rfl (boundedInt_lt requestType (by decide)),
      covers_number rfl rfl (boundedInt_lt request (by decide)), covers_number rfl rfl
        (boundedInt_lt value (by decide)),
      covers_number rfl rfl (boundedInt_lt index (by decide)), List.forall_mem_nil _⟩
  next => exact List.forall_mem_nil _

theorem exchangeFields_cover (r : ExchangeRequest)
    (htype : ∀ usb, r = .usbTransfer usb →
      reader.u8 .transferType = some usb.transferType.number) :
    ∀ read ∈ handlerReads (BridgeRequest.exchange r).operation reader,
      Covers (exchangeFields r) read := by
  cases r with
  | spiExchange r => exact spiExchange_covers r
  | i2cExchange r => exact i2cExchange_covers r
  | canSend r => exact canSend_covers r
  | usbTransfer r => exact usbTransfer_covers r (htype r rfl)
  | uartWrite r =>
    have hport := r.port.property
    simp only [BridgeRequest.operation, handlerReads, List.forall_mem_cons]
    exact ⟨covers_number rfl rfl (by omega), covers_bytes rfl, List.forall_mem_nil _⟩
  | wifiSend r =>
    have hsocket := r.socketId.property
    simp only [BridgeRequest.operation, handlerReads, List.forall_mem_cons]
    exact ⟨covers_number rfl rfl (by omega), covers_bytes rfl, List.forall_mem_nil _⟩
  | bleRead r =>
    simp only [BridgeRequest.operation, handlerReads, List.forall_mem_cons]
    exact ⟨covers_bytes rfl, covers_bytes rfl, List.forall_mem_nil _⟩
  | bleWrite r =>
    have hmode : r.writeMode.number < 256 ^ 1 := by cases r.writeMode <;> decide
    simp only [BridgeRequest.operation, handlerReads, List.forall_mem_cons]
    exact ⟨covers_bytes rfl, covers_bytes rfl, covers_number rfl rfl hmode, covers_bytes rfl, List.forall_mem_nil _⟩
  | gpioRead r =>
    simp only [BridgeRequest.operation, handlerReads, List.forall_mem_cons]
    exact ⟨covers_number rfl rfl (SafePin.number_lt _), List.forall_mem_nil _⟩
  | gpioWrite r =>
    simp only [BridgeRequest.operation, handlerReads, List.forall_mem_cons]
    exact ⟨covers_number rfl rfl (SafePin.number_lt _), covers_number rfl rfl (Bool.toNat_lt_byte _),
      List.forall_mem_nil _⟩
  | gpioPulse r =>
    have hduration := r.durationUs.property
    simp only [BridgeRequest.operation, handlerReads, List.forall_mem_cons]
    exact ⟨covers_number rfl rfl (SafePin.number_lt _), covers_number rfl rfl (Bool.toNat_lt_byte _),
      covers_number rfl rfl (by omega), List.forall_mem_nil _⟩

end exchange

theorem requestFields_cover {request : BridgeRequest} {secrets : PyDict} {reader : TlvReader}
    (attached : Attached request secrets)
    (htype : ∀ usb, request = .exchange (.usbTransfer usb) →
      reader.u8 .transferType = some usb.transferType.number) :
    ∀ read ∈ handlerReads request.operation reader, Covers (requestFields secrets request) read := by
  cases request with
  | status => exact List.forall_mem_nil _
  | control r => exact controlFields_cover attached
  | exchange r => exact exchangeFields_cover r fun usb h => htype usb (congrArg _ h)
  | receive r =>
    have hprotocol : r.protocol.val.number < 256 ^ 1 := by cases r.protocol.val <;> decide
    simp only [BridgeRequest.operation, handlerReads, List.forall_mem_cons]
    exact ⟨covers_number rfl rfl hprotocol, covers_number rfl rfl (boundedInt_lt r.channel (by decide)),
      covers_number rfl rfl (boundedInt_lt r.limit (by decide)),
      covers_number rfl rfl (Bool.toNat_lt_byte _),
      covers_number rfl rfl (boundedInt_lt r.timeoutMs (by decide)), List.forall_mem_nil _⟩

theorem mem_optionalField {field : Firmware.FieldId} {o : Option FieldValue}
    {entry : Firmware.FieldId × FieldValue} (h : entry ∈ optionalField field o) : entry.1 = field := by
  cases o with
  | none => cases h
  | some value =>
    obtain rfl := List.mem_singleton.mp h
    rfl

/-- The operation knows all of the fields. -/
def Known (operation : Firmware.Operation) (fields : List (Firmware.FieldId × FieldValue)) : Prop :=
  ∀ entry ∈ fields, entry.1 ∈ operation.knownFields

namespace Known

variable {operation : Firmware.Operation} {fields fields' : List (Firmware.FieldId × FieldValue)}
    {field : Firmware.FieldId} {value : FieldValue}

theorem nil : Known operation [] := nofun

theorem cons (hfield : field ∈ operation.knownFields) (hfields : Known operation fields) :
    Known operation ((field, value) :: fields) :=
  List.forall_mem_cons.mpr ⟨hfield, hfields⟩

theorem append (hfields : Known operation fields) (hfields' : Known operation fields') :
    Known operation (fields ++ fields') :=
  List.forall_mem_append.mpr ⟨hfields, hfields'⟩

theorem optional {o : Option FieldValue} (hfield : field ∈ operation.knownFields) :
    Known operation (optionalField field o) := by
  intro entry hentry
  rwa [mem_optionalField hentry]

end Known

/-- A request has no field that its operation does not know. -/
theorem requestFields_known (secrets : PyDict) (request : BridgeRequest) :
    Known request.operation (requestFields secrets request) := by
  cases request with
  | status => exact .nil
  | receive r =>
    simp [Known, requestFields, BridgeRequest.operation, Firmware.Operation.knownFields]
  | exchange r =>
    cases r with
    | usbTransfer r =>
      have hfixed : Known .usbTransfer [(.data, bytes r.dataBase64.payload),
          (.transferType, number r.transferType.number), (.endpoint, ofNat r.endpoint),
          (.readLength, ofNat r.readLength)] := by
        simp [Known, Firmware.Operation.knownFields]
      exact (((hfixed.append (.optional (by decide))).append (.optional (by decide))).append
        (.optional (by decide))).append (.optional (by decide))
    | _ =>
      simp [Known, requestFields, exchangeFields, BridgeRequest.operation, Firmware.Operation.knownFields]
  | control r =>
    cases r with
    | usbSelect r =>
      show Known .usbSelect _
      exact ((Known.cons (by decide) (.cons (by decide) .nil)).append (.optional (by decide))).append
        (.optional (by decide))
    | wifiConnect r =>
      show Known .wifiConnect _
      exact ((Known.cons (by decide) .nil).append (.optional (by decide))).append (.optional (by decide))
    | wifiSocketOpen r =>
      show Known .wifiSocketOpen _
      exact ((Known.cons (by decide) (.cons (by decide) .nil)).append (.optional (by decide))).append
        (.cons (by decide) .nil)
    | bleScan r =>
      show Known .bleScan _
      exact (Known.cons (by decide) .nil).append (.optional (by decide))
    | blePair r =>
      show Known .blePair _
      exact .optional (by decide)
    | bleDiscover r =>
      show Known .bleDiscover _
      exact .optional (by decide)
    | gpioConfigure r =>
      show Known .gpioConfigure _
      exact ((Known.cons (by decide) (.cons (by decide) .nil)).append (.optional (by decide))).append
        (.cons (by decide) .nil)
    | _ =>
      simp [Known, requestFields, controlFields, BridgeRequest.operation, Firmware.Operation.knownFields]

theorem operation_ofNat? (operation : Firmware.Operation) :
    Firmware.Operation.ofNat? operation.toNat = some operation := by
  cases operation <;> rfl

/-- What the firmware finds in the body of a request. -/
structure FieldsAgree (secrets : PyDict) (request : BridgeRequest) (body : Host.Bytes) : Prop where
  valid : (TlvReader.mk body).valid = true
  operation : (TlvReader.mk body).u16 .operation = some request.operation.toNat
  known : (TlvReader.mk body).onlyKnown (Firmware.knownField request.operation.toNat) = true
  reads : ∀ read ∈ handlerReads request.operation ⟨body⟩,
    Carries (requestFields secrets request) ⟨body⟩ read
  /-- The handler sees nothing of the body beside these reads. -/
  only : ∀ other requestId,
    (∀ read ∈ handlerReads request.operation ⟨body⟩, read.Agrees ⟨body⟩ other) →
      Firmware.runOperation request.operation other requestId =
        Firmware.runOperation request.operation ⟨body⟩ requestId

section agreement

variable {fields : List (Firmware.FieldId × FieldValue)} {operation : Firmware.Operation}

theorem knownField_of_mem {field : Firmware.FieldId} (h : field ∈ operation.knownFields) :
    Firmware.knownField operation.toNat field.toNat = true := by
  rw [Firmware.knownField, operation_ofNat?]
  split
  next => rfl
  next => exact decide_eq_true (List.mem_map_of_mem h)

theorem onlyKnown_fieldsBody (fits : BodyFits fields)
    (hknown : Known operation fields) :
    (TlvReader.mk (tlvBytes (fieldsBody operation fields))).onlyKnown
      (Firmware.knownField operation.toNat) = true := by
  rw [Firmware.onlyKnown_tlvBytes (fits.representable operation), List.all_eq_true]
  intro item hitem
  rcases List.mem_cons.mp hitem with rfl | hitem
  · rw [Firmware.knownField, if_pos rfl]
  · obtain ⟨entry, hentry, rfl⟩ := List.mem_map.mp hitem
    rw [fieldItem_fst]
    exact knownField_of_mem (hknown entry hentry)

theorem operation_fieldsBody (fits : BodyFits fields) :
    (TlvReader.mk (tlvBytes (fieldsBody operation fields))).u16 .operation = some operation.toNat := by
  have hnumber : operation.toNat < 256 ^ 2 := by cases operation <;> decide
  rw [TlvReader.u16, TlvReader.getU16, Firmware.getNumber_tlvBytes (fits.representable operation)
    (fits.nodup_items operation), fieldsBody, lookupTlv, if_pos rfl]
  simp [leNat_leBytes_of_lt hnumber]

end agreement

theorem fieldsAgree_requestItems {request : BridgeRequest} {secrets : PyDict}
    (attached : Attached request secrets) :
    FieldsAgree secrets request (tlvBytes (requestItems secrets request)) := by
  have fits := requestFields_fit attached
  have htype : ∀ usb, request = .exchange (.usbTransfer usb) →
      (TlvReader.mk (tlvBytes (requestItems secrets request))).u8 .transferType =
        some usb.transferType.number := by
    rintro usb rfl
    refine @getNumber_fieldsBody _ _ .transferType fits _ 0 true rfl ?_
    cases usb.transferType <;> decide
  constructor
  · rw [requestItems, Firmware.valid_tlvBytes (fits.representable _)]
    exact decide_eq_true (fits.nodup_items _)
  · exact operation_fieldsBody fits
  · exact onlyKnown_fieldsBody fits (requestFields_known secrets request)
  · exact fun read hread => carries_of_covers fits (requestFields_cover attached htype read hread)
  · exact fun other requestId agree => Firmware.runOperation_agrees requestId agree

/-- Host and firmware agree on every field of every request that `encode_request_body` writes. -/
theorem encodeRequestBody_fieldsAgree {request : BridgeRequest} {secrets : PyDict} {body : Host.Bytes}
    (attached : Attached request secrets)
    (h : encodeRequestBody request.modelDump request.operationArgument secrets = .ok body) :
    FieldsAgree secrets request body := by
  have hbody := encodeRequestBody_eq attached (encodable_of_encoded attached h)
  obtain rfl := Except.ok.inj (h.symm.trans hbody)
  exact fieldsAgree_requestItems attached

/-- A control transfer of eight bytes, with its setup packet. -/
theorem encodeRequestBody_fieldsAgree_usbControl :
    ∃ body, FieldsAgree [] (.exchange (.usbTransfer { transferType := .control
                                                      readLength := ⟨8, by decide⟩
                                                      requestType := some ⟨0x80, by decide⟩
                                                      request := some ⟨6, by decide⟩
                                                      value := some ⟨0x100, by decide⟩
                                                      index := some ⟨0, by decide⟩
                                                      controlSetup := by decide
                                                      otherSetup := by decide
                                                      interruptLength := by decide })) body :=
  have attached := ⟨.ok ⟨[], []⟩, rfl⟩
  ⟨_, encodeRequestBody_fieldsAgree attached (encodeRequestBody_eq attached (by simp [Encodable]))⟩

end JLinkMcp
