import JLinkMcp.FirmwareDispatchAnswers
import JLinkMcp.RequestReads

namespace JLinkMcp

open Codec Host FieldValue
open Firmware (TlvReader FieldRead handlerReads)

namespace Firmware

end Firmware

section carried

variable {fields : List (Firmware.FieldId × FieldValue)} {reader : TlvReader} {field : Firmware.FieldId}
    {width initial n : Nat} {required : Bool} {value : Host.Bytes}

theorem carried_number (h : Carries fields reader (.number field width initial required))
    (hlookup : fields.lookup field = some (number n)) :
    reader.getNumber width field.toNat initial required = some n := by
  rw [Carries, hlookup] at h
  exact h.2

theorem carried_u8 (h : Carries fields reader (FieldRead.u8 field))
    (hlookup : fields.lookup field = some (number n)) : reader.u8 field = some n :=
  carried_number h hlookup

theorem carried_u16 (h : Carries fields reader (FieldRead.u16 field))
    (hlookup : fields.lookup field = some (number n)) : reader.u16 field = some n :=
  carried_number h hlookup

theorem carried_u32 (h : Carries fields reader (FieldRead.u32 field))
    (hlookup : fields.lookup field = some (number n)) : reader.u32 field = some n :=
  carried_number h hlookup

theorem carried_bytes (h : Carries fields reader (.bytes field required))
    (hlookup : fields.lookup field = some (bytes value)) :
    reader.bytes field.toNat required = some (some value) := by
  rwa [Carries, hlookup] at h

theorem carried_optionalBytes (h : Carries fields reader (.bytes field false))
    (hlookup : fields.lookup field = some (bytes value)) :
    reader.optionalBytes field = some value := by
  rw [TlvReader.optionalBytes, carried_bytes h hlookup]
  rfl

end carried

theorem guard_of {p : Prop} [Decidable p] (h : p) : (guard p : Option Unit) = some () :=
  Firmware.guard_eq_some.mpr h

section control

variable {secrets : PyDict} {reader : TlvReader}

theorem SafePin.safe (pin : SafePin) : Firmware.safeDynamicPin pin.number = true := by
  have h : ∀ label ∈ safeGpioPins, Firmware.safeDynamicPin (intOfDigits label.tail) = true := by decide
  exact h pin.val pin.property

end control

section exchange

variable {reader : TlvReader}

theorem spiTransfer_carried (r : SpiExchangeRequest)
    (reads : ∀ read ∈ handlerReads .spiExchange reader,
      Carries (exchangeFields (.spiExchange r)) reader read) :
    Firmware.spiTransfer reader = some ⟨r.bus.val, r.chipSelect.number, r.clockHz.val, r.mode.val,
      r.bitOrder.number, r.fillByte.val, r.readLength.val, r.dataBase64.payload⟩ := by
  simp only [handlerReads, List.forall_mem_cons] at reads
  obtain ⟨hbus, hchip, hclock, hmode, horder, hfill, hread, hdata, -⟩ := reads
  have hmode' := r.mode.property
  simp only [List.mem_cons, List.not_mem_nil, or_false] at hmode'
  have hfill' : reader.getU8 Firmware.FieldId.fillByte.toNat 0xFF true = some r.fillByte.val :=
    carried_number hfill rfl
  have horder' : r.bitOrder.number ≤ 1 := by cases r.bitOrder <;> decide
  simp only [Firmware.spiTransfer, carried_u8 hbus rfl, carried_u16 hchip rfl, carried_u32 hclock rfl,
    carried_u8 hmode rfl, carried_u8 horder rfl, hfill', carried_u32 hread rfl,
    carried_optionalBytes hdata rfl, Option.bind_eq_bind, Option.bind_some, guard_of r.bus.property.2,
    guard_of r.clockHz.property, guard_of (show r.mode.val ≤ 3 by omega), guard_of horder']
  rfl

end exchange

theorem receiveWindow_carried {secrets : PyDict} {reader : TlvReader} (r : ReceiveRequest)
    (reads : ∀ read ∈ handlerReads .receive reader,
      Carries (requestFields secrets (.receive r)) reader read) :
    Firmware.receiveWindow reader =
      some ⟨r.protocol.val.number, r.channel.val, r.limit.val, r.drain.toNat, r.timeoutMs.val⟩ := by
  simp only [handlerReads, List.forall_mem_cons] at reads
  obtain ⟨hprotocol, hchannel, hlimit, hdrain, htimeout, -⟩ := reads
  have hprotocol' : Firmware.PROTO_UART ≤ r.protocol.val.number ∧
      r.protocol.val.number ≤ Firmware.PROTO_GPIO := by
    obtain ⟨hspi, hi2c⟩ := r.protocol.property
    cases h : r.protocol.val with
    | spi => exact absurd h hspi
    | i2c => exact absurd h hi2c
    | _ => decide
  have hlimit' : reader.getU16 Firmware.FieldId.limit.toNat 4096 true = some r.limit.val :=
    carried_number hlimit rfl
  have hdrain' : reader.getU8 Firmware.FieldId.drain.toNat 1 true = some r.drain.toNat :=
    carried_number hdrain rfl
  have hbounds := r.limit.property
  have hnonzero : r.limit.val ≠ 0 ∧ r.limit.val ≤ Firmware.kMaxApplicationTransfer :=
    ⟨Nat.ne_of_gt hbounds.1, hbounds.2⟩
  simp only [Firmware.receiveWindow, carried_u8 hprotocol rfl, carried_u8 hchannel rfl, hlimit', hdrain',
    carried_u32 htimeout rfl, Option.bind_eq_bind, Option.bind_some, guard_of hprotocol',
    guard_of hnonzero, guard_of (Bool.toNat_le r.drain), guard_of r.timeoutMs.property.2]
  rfl

section request

variable {secrets : PyDict} {reader : TlvReader}

end request

theorem operationNumber_of_fieldsAgree {request : BridgeRequest} {secrets : PyDict} {body : Host.Bytes}
    (agree : FieldsAgree secrets request body) :
    Firmware.operationNumber ⟨body⟩ = some request.operation.toNat := by
  simp only [Firmware.operationNumber, agree.operation, Option.bind_eq_bind, Option.bind_some,
    guard_of agree.valid, guard_of agree.known]
  rfl

end JLinkMcp
