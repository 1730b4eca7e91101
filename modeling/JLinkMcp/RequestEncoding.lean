import JLinkMcp.RequestFields
import Mathlib.Data.List.Nodup

namespace JLinkMcp

open Codec Host FieldValue

theorem encodeItems_append (operationName : String) (xs ys : PyDict) :
    encodeItems operationName (xs ++ ys) = (encodeItems operationName xs).bind fun items =>
      (encodeItems operationName ys).bind fun items' => .ok (items ++ items') := by
  induction xs with
  | nil =>
    rw [List.nil_append, encodeItems, Except.ok_bind]
    cases encodeItems operationName ys <;> rfl
  | cons item xs ih =>
    obtain ⟨name, value⟩ := item
    rw [List.cons_append, encodeItems, encodeItems, ih]
    split
    next => rfl
    next =>
      cases fieldIdOf operationName name with
      | error e => rfl
      | ok fieldId =>
        cases encodeValue name value with
        | error e => rfl
        | ok encoded =>
          cases encodeItems operationName xs with
          | error e => rfl
          | ok items => cases encodeItems operationName ys <;> rfl

/-- The items that `encode_request_body` makes of the values are those of the fields. -/
def Encodes (operationName : String) (values : PyDict)
    (fields : List (Firmware.FieldId × FieldValue)) : Prop :=
  encodeItems operationName values = .ok (fields.map fieldItem)

/-- A value of the request goes into the body under the number of the field. -/
abbrev SentAs (operationName name : String) (field : Firmware.FieldId) : Prop :=
  name ≠ "passkey_profile" ∧ (fieldIdOf operationName name).map FieldId.toNat = .ok field.toNat

abbrev NumberSent (operationName name : String) (field : Firmware.FieldId) (upper : Nat) : Prop :=
  SentAs operationName name field ∧ name ≠ "data_base64" ∧ (name ≠ "pin" ∧ name ≠ "chip_select") ∧
    fieldWidth name = some (fieldSize field) ∧ upper < 256 ^ fieldSize field

abbrev TextSent (operationName name : String) (field : Firmware.FieldId) : Prop :=
  SentAs operationName name field ∧ name ≠ "data_base64" ∧ (name ≠ "pin" ∧ name ≠ "chip_select") ∧
    (name ≠ "protocol" ∧ enumValues.lookup name = none) ∧ fieldWidth name = none

namespace Encodes

variable {operationName name : String} {item : String × PyValue} {value : PyValue}
    {values values' : PyDict} {field : Firmware.FieldId} {fieldValue : FieldValue}
    {entry : Firmware.FieldId × FieldValue} {fields fields' : List (Firmware.FieldId × FieldValue)}

theorem nil : Encodes operationName [] [] := rfl

theorem append (hvalues : Encodes operationName values fields)
    (hvalues' : Encodes operationName values' fields') :
    Encodes operationName (values ++ values') (fields ++ fields') := by
  unfold Encodes at hvalues hvalues' ⊢
  rw [encodeItems_append, hvalues, hvalues', List.map_append]
  rfl

theorem cons (hitem : Encodes operationName [item] [entry])
    (hvalues : Encodes operationName values fields) :
    Encodes operationName (item :: values) (entry :: fields) :=
  hitem.append hvalues

/-- A value that may be `None`, in the model and in the body. -/
theorem optional {α : Type} {f : α → PyValue} {g : α → FieldValue}
    (h : ∀ a, Encodes operationName [(name, f a)] [(field, g a)]) (o : Option α) :
    Encodes operationName (dumpOptional name (o.map f)) (optionalField field (o.map g)) := by
  cases o with
  | none => exact nil
  | some a => exact h a

theorem of_value (sent : SentAs operationName name field)
    (hvalue : encodeValue name value = .ok (fieldItem (field, fieldValue)).2) :
    Encodes operationName [(name, value)] [(field, fieldValue)] := by
  obtain ⟨hname, hid⟩ := sent
  have hitem : fieldItem (field, fieldValue) = (field.toNat, (fieldItem (field, fieldValue)).2) := by
    cases fieldValue <;> rfl
  unfold Encodes
  rw [encodeItems, if_neg hname, hvalue, List.map_singleton, hitem]
  cases hf : fieldIdOf operationName name with
  | error e =>
    rw [hf] at hid
    cases hid
  | ok fieldId =>
    rw [hf] at hid
    exact congrArg (fun n => Except.ok [(n, (fieldItem (field, fieldValue)).2)]) (Except.ok.inj hid)

theorem number {P : Nat → Prop} {upper : Nat} (sent : NumberSent operationName name field upper)
    (n : Subtype P) (hn : n.val ≤ upper) :
    Encodes operationName [(name, .ofInt n)] [(field, ofNat n)] := by
  obtain ⟨sent, hdata, notPin, hwidth, hupper⟩ := sent
  refine of_value sent ?_
  rw [PyValue.ofInt, encodeValue, if_neg hdata]
  · exact scalar_of_int notPin hwidth (by omega)
  · nofun

theorem bounded {lower upper : Nat} (sent : NumberSent operationName name field upper)
    (n : BoundedInt lower upper) : Encodes operationName [(name, .ofInt n)] [(field, ofNat n)] :=
  number sent n n.property.2

theorem literal {ns : List Nat} (upper : Nat) (sent : NumberSent operationName name field upper)
    (below : ∀ n ∈ ns, n ≤ upper) (n : LiteralInt ns) :
    Encodes operationName [(name, .ofInt n)] [(field, ofNat n)] :=
  number sent n (below n.val n.property)

theorem bool (sent : NumberSent operationName name field 1) (hsize : fieldSize field = 1) (b : Bool) :
    Encodes operationName [(name, .bool b)] [(field, ofBool b)] := by
  obtain ⟨sent, hdata, notPin, -⟩ := sent
  refine of_value sent ?_
  rw [encodeValue, if_neg hdata, scalar_of_bool notPin, ofBool, fieldItem, hsize]
  nofun

theorem text {P : PyStr → Prop} (sent : TextSent operationName name field) (text : Subtype P)
    (scalars : text.val.all isScalar = true) (short : text.val.length ≤ 256) :
    Encodes operationName [(name, .ofText text)] [(field, ofText text)] := by
  obtain ⟨sent, hdata, notPin, notEnum, hwidth⟩ := sent
  have hlen := utf8_length_le text.val
  refine of_value sent ?_
  rw [PyValue.ofText, encodeValue, if_neg hdata,
    scalar_of_text notPin notEnum hwidth scalars (by omega)]
  rfl

theorem textField {lower upper : Nat} (sent : TextSent operationName name field)
    (hupper : upper ≤ 256) (field' : TextField lower upper) :
    Encodes operationName [(name, .ofText field')] [(field, ofText field')] :=
  text sent field' field'.property.1 (by have := field'.property.2.2; omega)

theorem pin (sent : SentAs operationName name field) (hpin : name = "pin" ∨ name = "chip_select")
    (hsize : fieldSize field = 2) (pin : SafePin) :
    Encodes operationName [(name, .ofText pin)] [(field, .number pin.number)] := by
  have hdata : name ≠ "data_base64" := by
    rcases hpin with rfl | rfl <;> decide
  refine of_value sent ?_
  rw [fieldItem, hsize, ← scalar_of_pin hpin, PyValue.ofText, encodeValue, if_neg hdata]

theorem payload {maximum : Nat} (sent : SentAs operationName "data_base64" field)
    (text : PayloadField maximum) :
    Encodes operationName [("data_base64", .ofText text)] [(field, bytes text.payload)] := by
  obtain ⟨payload, hpayload, -⟩ := text.property
  refine of_value sent ?_
  rw [PyValue.ofText, encodeValue, if_pos rfl, fieldItem, PayloadField.payload, hpayload]
  exact decodeCanonicalBase64_mono hpayload (by decide)

end Encodes

/-- The bytes that a row of fields takes. -/
def fieldsSize (fields : List (Firmware.FieldId × FieldValue)) : Nat :=
  (tlvBytes (fields.map fieldItem)).length

/-- The fields have different numbers and their items fit a body. -/
structure BodyFits (fields : List (Firmware.FieldId × FieldValue)) : Prop where
  nodup : (.operation :: fields.map Prod.fst : List Firmware.FieldId).Nodup
  size : 6 + fieldsSize fields ≤ maxBridgePayload

section size

variable {field : Firmware.FieldId} {fields fields' : List (Firmware.FieldId × FieldValue)}

@[simp] theorem fieldsSize_nil : fieldsSize [] = 0 := rfl

@[simp] theorem fieldsSize_cons (entry : Firmware.FieldId × FieldValue) :
    fieldsSize (entry :: fields) = 4 + (fieldItem entry).2.length + fieldsSize fields := by
  rw [fieldsSize, List.map_cons, tlvBytes_length_cons]
  rfl

@[simp] theorem fieldsSize_append : fieldsSize (fields ++ fields') = fieldsSize fields + fieldsSize fields' := by
  simp [fieldsSize]

@[simp] theorem fieldItem_ofNat_length {P : Nat → Prop} (n : Subtype P) :
    (fieldItem (field, ofNat n)).2.length = fieldSize field := leBytes_length _ _

@[simp] theorem fieldItem_number_length (n : Nat) :
    (fieldItem (field, number n)).2.length = fieldSize field := leBytes_length _ _

@[simp] theorem fieldItem_ofBool_length (b : Bool) :
    (fieldItem (field, ofBool b)).2.length = fieldSize field := leBytes_length _ _

@[simp] theorem fieldItem_bytes_length (value : Bytes) :
    (fieldItem (field, bytes value)).2.length = value.length := rfl

@[simp] theorem fieldItem_ofText_length {P : PyStr → Prop} (text : Subtype P) :
    (fieldItem (field, ofText text)).2.length = (utf8 text.val).length := rfl

/-- A field that may be missing takes no more than its longest value. -/
theorem fieldsSize_optional_le {α : Type} {f : α → FieldValue} {bound : Nat}
    (h : ∀ a, (fieldItem (field, f a)).2.length ≤ bound) (o : Option α) :
    fieldsSize (optionalField field (o.map f)) ≤ 4 + bound := by
  cases o with
  | none => exact Nat.zero_le _
  | some a =>
    have ha := h a
    simp only [Option.map_some, optionalField, fieldsSize_cons, fieldsSize_nil]
    omega

theorem optionalField_ids (o : Option FieldValue) :
    ((optionalField field o).map Prod.fst).Sublist [field] := by
  cases o with
  | none => exact List.nil_sublist _
  | some value => exact List.Sublist.refl _

end size

theorem fieldItem_fst (field : Firmware.FieldId × FieldValue) : (fieldItem field).1 = field.1.toNat := by
  obtain ⟨field, value⟩ := field
  cases value <;> rfl

theorem map_fieldItem_fst (fields : List (Firmware.FieldId × FieldValue)) :
    (fields.map fieldItem).map Prod.fst = (fields.map Prod.fst).map Firmware.FieldId.toNat := by
  simp [fieldItem_fst]

namespace BodyFits

variable {fields : List (Firmware.FieldId × FieldValue)} (fits : BodyFits fields)
    (operation : Firmware.Operation)

include fits

theorem nodup_items : ((fieldsBody operation fields).map Prod.fst).Nodup := by
  rw [fieldsBody, List.map_cons, map_fieldItem_fst]
  exact List.Nodup.map Firmware.FieldId.toNat_injective fits.nodup

theorem length_le : (tlvBytes (fieldsBody operation fields)).length ≤ maxBridgePayload := by
  have hsize := fits.size
  rw [fieldsBody, tlvBytes_length_cons, leBytes_length]
  exact hsize

theorem representable : Representable (fieldsBody operation fields) := by
  intro item hitem
  have hlen := fits.length_le operation
  have hle := length_le_tlvBytes hitem
  simp only [maxBridgePayload] at hlen
  refine ⟨?_, by omega⟩
  rcases List.mem_cons.mp hitem with rfl | hitem
  · show 1 < 2 ^ 16
    decide
  · obtain ⟨field, -, rfl⟩ := List.mem_map.mp hitem
    rw [fieldItem_fst]
    cases field.1 <;> decide

end BodyFits

/-- The name of an operation on the host. -/
def operationName : Firmware.Operation → String
  | .getStatus => "get_status" | .receive => "receive" | .uartConfigure => "uart_configure"
  | .canConfigure => "can_configure" | .usbEnumerate => "usb_enumerate"
  | .usbSelect => "usb_select" | .usbReset => "usb_reset" | .usbRelease => "usb_release"
  | .wifiConnect => "wifi_connect" | .wifiDisconnect => "wifi_disconnect"
  | .wifiSocketOpen => "wifi_socket_open" | .wifiSocketClose => "wifi_socket_close"
  | .bleScan => "ble_scan" | .bleConnect => "ble_connect" | .bleDisconnect => "ble_disconnect"
  | .blePair => "ble_pair" | .bleDiscover => "ble_discover" | .bleSubscribe => "ble_subscribe"
  | .gpioConfigure => "gpio_configure" | .gpioWatch => "gpio_watch"
  | .spiExchange => "spi_exchange" | .i2cExchange => "i2c_exchange" | .uartWrite => "uart_write"
  | .canSend => "can_send" | .usbTransfer => "usb_transfer" | .wifiSend => "wifi_send"
  | .bleRead => "ble_read" | .bleWrite => "ble_write" | .gpioRead => "gpio_read"
  | .gpioWrite => "gpio_write" | .gpioPulse => "gpio_pulse"

theorem PyStr.ofString_inj {s t : String} : PyStr.ofString s = PyStr.ofString t ↔ s = t := by
  constructor
  · intro h
    have hlt : ∀ c : Char, c.toNat < 0x110000 := by
      intro c
      have hc := c.valid
      simp only [UInt32.isValidChar, Nat.isValidChar] at hc
      show c.val.toNat < _
      omega
    have hchar : Function.Injective fun c : Char => Fin.ofNat 0x110000 c.toNat := by
      intro c d hcd
      have hval := congrArg Fin.val hcd
      simp only [Fin.ofNat] at hval
      rw [Nat.mod_eq_of_lt (hlt c), Nat.mod_eq_of_lt (hlt d)] at hval
      exact Char.toNat_inj.mp hval
    exact String.toList_inj.mp (List.map_injective_iff.mpr hchar h)
  · rintro rfl
    rfl

theorem PyValue.ofString_inj {s t : String} : PyValue.ofString s = .ofString t ↔ s = t := by
  rw [PyValue.ofString, PyValue.ofString, PyValue.str.injEq, PyStr.ofString_inj]

/-- Both sides number the operations alike. -/
theorem operations_find (operation : Firmware.Operation) :
    operations.find? (fun item => PyValue.ofString item.1 = .ofString (operationName operation)) =
      some (operationName operation, operation.toNat) := by
  simp only [PyValue.ofString_inj]
  cases operation <;> rfl

theorem encodeRequestBody_of_encodes {values rest renamed secrets : PyDict} {argument : Option String}
    {fields : List (Firmware.FieldId × FieldValue)} (operation : Firmware.Operation)
    (hname : operationOf values argument = (.ofString (operationName operation), rest))
    (hrenamed : renamedValues (operationName operation) rest = .ok renamed)
    (hfields : Encodes (operationName operation) (renamed.update secrets) fields)
    (fits : BodyFits fields) :
    encodeRequestBody values argument secrets = .ok (tlvBytes (fieldsBody operation fields)) := by
  rw [encodeRequestBody, hname]
  dsimp only
  rw [operations_find]
  dsimp only
  rw [hrenamed, Except.ok_bind, hfields, Except.ok_bind]
  exact encodeTlvs_eq (fits.representable operation) (fits.nodup_items operation)
    (fits.length_le operation)

end JLinkMcp
