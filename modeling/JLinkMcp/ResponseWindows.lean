import JLinkMcp.FirmwareEffects
import JLinkMcp.RequestForm
import Mathlib.Algebra.Order.Field.Rat
import Mathlib.Tactic.Linarith
import Mathlib.Tactic.NormNum

namespace JLinkMcp

open Codec Host FieldValue
open Firmware (TlvReader FieldRead handlerReads)

namespace Firmware

/-- The seconds that a handler spends on the fields of a request before it answers, where its checks of the
state pass and a receive finds its queue empty. -/
def operationSeconds (operation : Operation) (reader : TlvReader) : ℚ :=
  match operation with
  | .spiExchange => (spiTransfer reader).elim 0 fun spi =>
    -- One bit in each cycle of the clock.
    if spi.clocks ≤ kMaxApplicationTransfer then 8 * spi.clocks / spi.clock else 0
  | .gpioPulse => (gpioDuration reader).elim 0 fun duration => duration / 1000000
  | .receive => (receiveWindow reader).elim 0 fun window => window.timeout / 1000
  | .bleScan => (bleScanFields reader).elim 0 fun scan => scan.duration / 1000
  | _ => 0

def obligedSeconds (body : Bytes) : ℚ :=
  (handledOperation body).elim 0 fun operation => operationSeconds operation ⟨body⟩

theorem gpioDuration_bounds {reader : TlvReader} {duration : Nat} (h : gpioDuration reader = some duration) :
    duration ≤ 1000000 := by
  simp only [gpioDuration, Option.bind_eq_bind, Option.bind_eq_some_iff, guard_eq_some, pure,
    Option.some.injEq] at h
  obtain ⟨value, -, -, hvalue, rfl⟩ := h
  exact hvalue.2

theorem bleScanFields_bounds {reader : TlvReader} {scan : BleScan} (h : bleScanFields reader = some scan) :
    scan.duration ≤ 30000 := by
  simp only [bleScanFields, Option.bind_eq_bind, Option.bind_eq_some_iff, guard_eq_some, pure,
    Option.some.injEq] at h
  obtain ⟨duration, -, -, hduration, uuid, -, rfl⟩ := h
  exact hduration.2

/-- A pulse is over within a second. -/
theorem gpioPulse_seconds (reader : TlvReader) : operationSeconds .gpioPulse reader ≤ 1 := by
  simp only [operationSeconds]
  cases hduration : gpioDuration reader with
  | none => exact zero_le_one
  | some duration =>
    have hbound : (duration : ℚ) ≤ 1000000 := by exact_mod_cast gpioDuration_bounds hduration
    rw [Option.elim_some, div_le_iff₀ (by norm_num)]
    linarith

/-- A scan is over within half a minute. -/
theorem bleScan_seconds (reader : TlvReader) : operationSeconds .bleScan reader ≤ 30 := by
  simp only [operationSeconds]
  cases hscan : bleScanFields reader with
  | none => norm_num
  | some scan =>
    have hbound : (scan.duration : ℚ) ≤ 30000 := by exact_mod_cast bleScanFields_bounds hscan
    rw [Option.elim_some, div_le_iff₀ (by norm_num)]
    linarith

end Firmware

/-- The duration that the service passes to the serial exchange. -/
def Host.BridgeRequest.windowSeconds (request : BridgeRequest) : ℚ := request.timeoutMs / 1000

/-- The bits of an SPI exchange last less than the half minute of every exchange. -/
def InTime : BridgeRequest → Prop
  | .exchange (.spiExchange r) => 8 * max r.dataBase64.payload.length r.readLength.val < 30 * r.clockHz.val
  | _ => True

section windows

variable {request : BridgeRequest} {secrets : PyDict} {body : Host.Bytes}

theorem obligedSeconds_of_fieldsAgree (agree : FieldsAgree secrets request body) :
    Firmware.obligedSeconds body = Firmware.operationSeconds request.operation ⟨body⟩ := by
  have hhandled : Firmware.handledOperation body = some request.operation := by
    rw [Firmware.handledOperation, operationNumber_of_fieldsAgree agree]
    exact operation_ofNat? _
  rw [Firmware.obligedSeconds, hhandled, Option.elim_some]

theorem spiExchange_seconds {reader : TlvReader} (r : SpiExchangeRequest)
    (reads : ∀ read ∈ handlerReads .spiExchange reader, Carries (exchangeFields (.spiExchange r)) reader read) :
    Firmware.operationSeconds .spiExchange reader =
      8 * (max r.dataBase64.payload.length r.readLength.val : Nat) / r.clockHz.val := by
  have hclocks : max r.dataBase64.payload.length r.readLength.val ≤ Firmware.kMaxApplicationTransfer :=
    Nat.max_le.mpr ⟨payload_length_le r.dataBase64, r.readLength.property.2⟩
  rw [Firmware.operationSeconds, spiTransfer_carried r reads, Option.elim_some]
  exact if_pos hclocks

theorem spiExchange_seconds_lt {reader : TlvReader} (r : SpiExchangeRequest)
    (reads : ∀ read ∈ handlerReads .spiExchange reader, Carries (exchangeFields (.spiExchange r)) reader read) :
    Firmware.operationSeconds .spiExchange reader < 30 ↔
      8 * max r.dataBase64.payload.length r.readLength.val < 30 * r.clockHz.val := by
  have hclock : (0 : ℚ) < r.clockHz.val := by
    have hbound := r.clockHz.property.1
    exact_mod_cast show 0 < r.clockHz.val by omega
  rw [spiExchange_seconds r reads, div_lt_iff₀ hclock]
  exact_mod_cast Iff.rfl

theorem receive_seconds {reader : TlvReader} (r : ReceiveRequest)
    (reads : ∀ read ∈ handlerReads .receive reader, Carries (requestFields secrets (.receive r)) reader read) :
    Firmware.operationSeconds .receive reader = r.timeoutMs.val / 1000 := by
  simp only [Firmware.operationSeconds, receiveWindow_carried r reads, Option.elim_some]

/-- A receive is given two seconds beside its own. -/
theorem receive_windowSeconds (r : ReceiveRequest) :
    (r.timeoutMs.val : ℚ) / 1000 + 2 ≤ (BridgeRequest.receive r).windowSeconds := by
  have hmax : ((r.timeoutMs.val + 2000 : Nat) : ℚ) ≤ (max 5000 (r.timeoutMs.val + 2000) : Nat) := by
    exact_mod_cast le_max_right _ _
  rw [BridgeRequest.windowSeconds, BridgeRequest.timeoutMs, le_div_iff₀ (by norm_num)]
  push_cast at hmax ⊢
  linarith

theorem exchange_windowSeconds (r : ExchangeRequest) : (BridgeRequest.exchange r).windowSeconds = 30 := by
  rw [BridgeRequest.windowSeconds, BridgeRequest.timeoutMs]
  norm_num

theorem windowSeconds_pos (request : BridgeRequest) : 0 < request.windowSeconds := by
  have hpos : 0 < request.timeoutMs := by
    cases request with
    | status => exact Nat.succ_pos 4999
    | exchange r => exact Nat.succ_pos 29999
    | control r =>
      have hshort := Nat.succ_pos 4999
      have hlong := Nat.succ_pos 34999
      cases r <;> assumption
    | receive r => exact lt_of_lt_of_le (by decide) (le_max_left 5000 _)
  rw [BridgeRequest.windowSeconds]
  exact div_pos (by exact_mod_cast hpos) (by norm_num)

theorem control_inTime {reader : TlvReader} (r : ControlRequest) :
    Firmware.operationSeconds (BridgeRequest.control r).operation reader <
      (BridgeRequest.control r).windowSeconds := by
  cases r with
  | bleScan r =>
    have hscan := Firmware.bleScan_seconds reader
    refine lt_of_le_of_lt hscan ?_
    rw [BridgeRequest.windowSeconds, BridgeRequest.timeoutMs]
    norm_num
  | _ => exact windowSeconds_pos _

theorem exchange_inTime {reader : TlvReader} (r : ExchangeRequest)
    (reads : ∀ read ∈ handlerReads (BridgeRequest.exchange r).operation reader,
      Carries (exchangeFields r) reader read) :
    Firmware.operationSeconds (BridgeRequest.exchange r).operation reader <
      (BridgeRequest.exchange r).windowSeconds ↔ InTime (.exchange r) := by
  rw [exchange_windowSeconds]
  cases r with
  | spiExchange r => exact spiExchange_seconds_lt r reads
  | gpioPulse r => exact iff_true_intro (lt_of_le_of_lt (Firmware.gpioPulse_seconds reader) (by norm_num))
  | _ => exact iff_true_intro (show (0 : ℚ) < 30 by norm_num)

/-- The firmware answers an encoded request within the host's window exactly where it is not a slow SPI
exchange. -/
theorem obligedSeconds_lt_windowSeconds_iff (attached : Attached request secrets)
    (h : encodeRequestBody request.modelDump request.operationArgument secrets = .ok body) :
    Firmware.obligedSeconds body < request.windowSeconds ↔ InTime request := by
  have encodable := encodable_of_encoded attached h
  obtain rfl := Except.ok.inj (h.symm.trans (encodeRequestBody_eq attached encodable))
  have agree := fieldsAgree_requestItems attached
  rw [obligedSeconds_of_fieldsAgree agree]
  cases request with
  | status => exact iff_true_intro (windowSeconds_pos .status)
  | control r => exact iff_true_intro (control_inTime r)
  | exchange r => exact exchange_inTime r agree.reads
  | receive r =>
    refine iff_true_intro ?_
    have hseconds := receive_seconds r agree.reads
    have hwindow := receive_windowSeconds r
    rw [BridgeRequest.operation, hseconds]
    linarith

end windows

/-- The slowest clock with the longest read. -/
def slowSpiRequest : SpiExchangeRequest where
  bus := ⟨0, by decide⟩
  chipSelect := ⟨pinLabel 10, List.mem_map_of_mem (by decide)⟩
  clockHz := ⟨1000, by decide⟩
  readLength := ⟨64000, by decide⟩

theorem slowSpi_attached : Attached (.exchange (.spiExchange slowSpiRequest)) [] := ⟨.ok ⟨[], []⟩, rfl⟩

/-- 512 seconds of bits within a window of 30. -/
theorem slowSpi_obligedSeconds :
    ∃ body, encodeRequestBody (BridgeRequest.exchange (.spiExchange slowSpiRequest)).modelDump
        (BridgeRequest.exchange (.spiExchange slowSpiRequest)).operationArgument [] = .ok body ∧
      Firmware.obligedSeconds body = 512 ∧
      (BridgeRequest.exchange (.spiExchange slowSpiRequest)).windowSeconds = 30 := by
  refine ⟨_, encodeRequestBody_eq slowSpi_attached (by simp [Encodable]), ?_, exchange_windowSeconds _⟩
  have agree := fieldsAgree_requestItems slowSpi_attached
  have hclocks : max slowSpiRequest.dataBase64.payload.length slowSpiRequest.readLength.val = 64000 := rfl
  have hclock : slowSpiRequest.clockHz.val = 1000 := rfl
  rw [obligedSeconds_of_fieldsAgree agree]
  refine (spiExchange_seconds slowSpiRequest agree.reads).trans ?_
  rw [hclocks, hclock]
  norm_num

theorem obligedSeconds_lt_windowSeconds_fails :
    ¬∀ request secrets body, Attached request secrets →
      encodeRequestBody request.modelDump request.operationArgument secrets = .ok body →
        Firmware.obligedSeconds body < request.windowSeconds := by
  intro h
  obtain ⟨body, hbody, hseconds, hwindow⟩ := slowSpi_obligedSeconds
  have hlt := h _ _ _ slowSpi_attached hbody
  rw [hseconds, hwindow] at hlt
  norm_num at hlt

theorem obligedSeconds_lt_windowSeconds_spi :
    ∃ body, Firmware.obligedSeconds body < (BridgeRequest.exchange (.spiExchange { slowSpiRequest with
      clockHz := ⟨1000000, by decide⟩ })).windowSeconds := by
  have attached : Attached (.exchange (.spiExchange { slowSpiRequest with
      clockHz := ⟨1000000, by decide⟩ })) [] := ⟨.ok ⟨[], []⟩, rfl⟩
  exact ⟨_, (obligedSeconds_lt_windowSeconds_iff attached
    (encodeRequestBody_eq attached (by simp [Encodable]))).mpr (show 8 * 64000 < 30 * 1000000 by omega)⟩

end JLinkMcp
