import JLinkMcp.RequestPath
import JLinkMcp.WireChecks

namespace JLinkMcp.Host

open Codec

/-- A step that fails with a `BridgeWireError` only. -/
def WireOnly {α : Type} (step : Except PyError α) : Prop := ∀ error, step = .error error → error.isWire = true

section wire

variable {α β : Type}

theorem wireOnly_ok (a : α) : WireOnly (.ok a : Except PyError α) := nofun

theorem wireOnly_wire (message : String) : WireOnly (.error (.bridgeWire message) : Except PyError α) := by
  intro error h
  obtain rfl := Except.error.inj h
  rfl

theorem wireOnly_bind_iff {step : Except PyError α} {next : α → Except PyError β}
    (first : WireOnly step) : WireOnly (step >>= next) ↔ ∀ a, step = .ok a → WireOnly (next a) := by
  cases step with
  | error error =>
    have herror := first error rfl
    refine iff_of_true ?_ nofun
    intro error' h
    obtain rfl := Except.error.inj (show Except.error error = .error error' from h)
    exact herror
  | ok a =>
    constructor
    · intro h b hb
      obtain rfl := Except.ok.inj hb
      exact h
    · exact fun h => h a rfl

theorem wireOnly_bind {step : Except PyError α} {next : α → Except PyError β} (first : WireOnly step)
    (second : ∀ a, WireOnly (next a)) : WireOnly (step >>= next) :=
  (wireOnly_bind_iff first).mpr fun a _ => second a

/-- A step before a condition on what the steps behind it find. -/
theorem wireOnly_layer {step : Except PyError α} {next : α → Except PyError β} {found : α → Option PyStr}
    {holds : PyStr → Prop} (first : WireOnly step)
    (second : ∀ a, step = .ok a → (WireOnly (next a) ↔ ∀ text, found a = some text → holds text)) :
    WireOnly (step >>= next) ↔ ∀ text, step.toOption.bind found = some text → holds text := by
  rw [wireOnly_bind_iff first]
  cases step with
  | error error => exact iff_of_true nofun nofun
  | ok a =>
    change _ ↔ ∀ text, found a = some text → holds text
    rw [← second a rfl]
    constructor
    · exact fun h => h a rfl
    · intro h b hb
      obtain rfl := Except.ok.inj hb
      exact h

end wire

section layers

theorem wireOnly_decodeStream (data : Bytes) : WireOnly (decodeStream data) := by
  unfold decodeStream
  split
  next => exact wireOnly_wire _
  next =>
    intro error h
    obtain ⟨part, -, herror⟩ := Bridge.refused_of_mapM h
    exact (Bridge.told_decodeFrame herror).isWire

theorem isWire_of_isSequence {error : PyError} (h : error.isSequence) : error.isWire = true := by
  cases error <;> first | rfl | cases h

theorem wireOnly_reassembleFrames (frames : List WireFrame) (requestId : Option Int)
    (messageType : Option MessageType) : WireOnly (reassembleFrames frames requestId messageType) :=
  fun _ h => isWire_of_isSequence (reassembleFrames_error h)

theorem wireOnly_decodeTlvs (payload : Bytes) : WireOnly (decodeTlvs payload (some responseFields)) := by
  intro error h
  have hkinds := Bridge.kindsTold_decodeTlvsFrom [] payload
  rw [← decodeTlvs, h] at hkinds
  exact Bridge.Told.isWire hkinds

theorem wireOnly_responseStatus (values : List Tlv) : WireOnly (responseStatus values) :=
  fun _ h => Bridge.plainErrors_isWire _ (Bridge.responseStatus_plain h)

theorem wireOnly_responseError (raw : Bytes) : WireOnly (responseError raw) :=
  fun _ h => Bridge.plainErrors_isWire _ (Bridge.responseError_plain h)

theorem wireOnly_responseInteger (values : List Tlv) (kind : FieldId) (name : String) (width : Nat) :
    WireOnly (responseInteger values kind name width) := by
  unfold responseInteger
  split
  next => exact wireOnly_ok _
  next =>
    split
    next => exact wireOnly_wire _
    next => exact wireOnly_ok _

/-- The one layer that lets another error through: it catches the syntax errors of `json.loads` alone. -/
theorem wireOnly_responseMetadata (depth : Nat) (raw : Bytes) : WireOnly (responseMetadata depth raw) ↔
    ∀ text, (decodeUtf8 raw).toOption = some text → WithinLimits depth text := by
  unfold responseMetadata
  cases htext : decodeUtf8 raw with
  | error error =>
    obtain rfl := decodeUtf8_error htext
    exact iff_of_true (wireOnly_wire _) nofun
  | ok text =>
    rw [Except.ok_bind]
    have hforall : (∀ text', (Except.ok text : Except PyError PyStr).toOption = some text' →
        WithinLimits depth text') ↔
        WithinLimits depth text := by
      constructor
      · exact fun h => h text rfl
      · intro h text' htext'
        obtain rfl := Option.some.inj (show some text = some text' from htext')
        exact h
    rw [hforall, ← loads_syntax_iff]
    cases hloads : loads depth text with
    | ok value =>
      refine iff_of_true ?_ nofun
      cases value <;> first | exact wireOnly_ok _ | exact wireOnly_wire _
    | error error =>
      rcases loads_error hloads with rfl | hlimit
      · exact iff_of_true (wireOnly_wire _) fun error h => (Except.error.inj h).symm
      · have hwire := not_isWire_of_isLimit hlimit
        refine iff_of_false ?_ ?_
        · intro h
          have herror : error.isWire = true := by
            refine h error ?_
            cases error <;> first | rfl | cases hlimit
          rw [hwire] at herror
          cases herror
        · intro h
          obtain rfl := h error rfl
          cases hlimit

end layers

/-- The text that `json.loads` is given of the bytes of a device, where the layers before it let them through. -/
def metadataText (requestId : Int) (raw : Bytes) : Option PyStr :=
  (decodeStream raw).toOption.bind fun frames =>
  frames.head?.bind fun first =>
  if first.messageType = .request then none
  else
    (reassembleFrames frames (some requestId) (some first.messageType)).toOption.bind fun responseBody =>
    (decodeTlvs responseBody (some responseFields)).toOption.bind fun values =>
    (responseStatus values).toOption.bind fun _ =>
    (decodeUtf8 ((lookupTlv FieldId.metadataJson.toNat values).getD [123, 125])).toOption

theorem decodeResponseBody_wire_iff {depth : Nat} {payload : Bytes} :
    WireOnly (decodeResponseBody depth payload) ↔
      ∀ text, ((decodeTlvs payload (some responseFields)).toOption.bind fun values =>
        (responseStatus values).toOption.bind fun _ =>
        (decodeUtf8 ((lookupTlv FieldId.metadataJson.toNat values).getD [123, 125])).toOption) = some text →
          WithinLimits depth text := by
  refine wireOnly_layer (wireOnly_decodeTlvs _) fun values _ => ?_
  refine wireOnly_layer (wireOnly_responseStatus values) fun status _ => ?_
  rw [← wireOnly_responseMetadata]
  constructor
  · intro h error herror
    refine h error ?_
    rw [herror]
    rfl
  · intro h
    refine wireOnly_bind h fun metadata => ?_
    refine wireOnly_bind (wireOnly_responseError _) fun error => ?_
    refine wireOnly_bind (wireOnly_responseInteger _ _ _ _) fun queueDepth => ?_
    refine wireOnly_bind (wireOnly_responseInteger _ _ _ _) fun overflowCount => ?_
    exact wireOnly_bind (wireOnly_responseInteger _ _ _ _) fun timestampUs => wireOnly_ok _

end JLinkMcp.Host

namespace JLinkMcp.Bridge

open Host

/-- The decoding of an answer raises nothing but a `BridgeWireError` exactly where the metadata it comes to is
within the limits of the interpreter. -/
theorem decodeAnswer_wire_iff {depth : Nat} {requestId : Int} {raw : Bytes} :
    WireOnly (decodeAnswer depth requestId raw) ↔
      ∀ text, metadataText requestId raw = some text → WithinLimits depth text := by
  refine wireOnly_layer (wireOnly_decodeStream raw) fun frames _ => ?_
  cases frames with
  | nil => exact iff_of_true (wireOnly_wire _) nofun
  | cons first rest =>
    rw [List.head?_cons, Option.bind_some]
    dsimp only
    split
    next => exact iff_of_true (wireOnly_wire _) nofun
    next =>
      refine wireOnly_layer (wireOnly_reassembleFrames _ _ _) fun responseBody _ => ?_
      refine Iff.trans ?_ decodeResponseBody_wire_iff
      constructor
      · intro h error herror
        refine h error ?_
        rw [herror]
        rfl
      · exact fun h => wireOnly_bind h fun response => wireOnly_ok _

section request

variable {sha256 : Bytes → PyStr} {depth : Nat} {request : Request} {run : Run} {raw stream : Bytes}

theorem labelled_ok (body encoded : Bytes) (received : run.exchange = .received raw) :
    (run.labelled sha256 request body
      (exchangeResult sha256 request.port encoded 115200 run.exchange run.stamp)).ok = true := by
  rw [received]
  unfold Run.labelled
  dsimp only
  split
  next => rfl
  next => rfl

/-- What a request whose exchange returned bytes makes of their decoding. -/
def settle (sha256 : Bytes → PyStr) (run : Run) (result : Audit.CommandResult) :
    Except PyError Answer → Except PyError Audit.CommandResult
  | .ok answer => .ok (run.answered sha256 answer result)
  | .error error => if error.isWire then .ok (Run.undecodable error result) else .error error

/-- A request whose exchange returned bytes ends in a result unless their decoding raises another error. -/
theorem requestLocked_returns_iff (received : run.exchange = .received raw)
    (sent : requestStream request.values request.operation run.secretsToSend request.timeoutMs run.requestId =
      .ok stream) :
    (∃ result, run.requestLocked sha256 depth request = .ok result) ↔
      WireOnly (decodeAnswer depth run.requestId raw) := by
  obtain ⟨body, hbody, sent⟩ := Except.then_ok sent
  obtain ⟨encoded, hencoded, sent⟩ := Except.then_ok sent
  obtain ⟨_, hcheck, -⟩ := Except.then_ok sent
  have hbody' : run.body request = .ok body := hbody
  have hok := @labelled_ok sha256 request run raw body encoded received
  have hraw : run.exchange.raw = raw := by
    rw [received]
    rfl
  have hlocked : run.requestLocked sha256 depth request =
      settle sha256 run (run.labelled sha256 request body
        (exchangeResult sha256 request.port encoded 115200 run.exchange run.stamp))
        (decodeAnswer depth run.requestId raw) := by
    rw [Run.requestLocked, hbody', Except.ok_then, hencoded, Except.ok_then, exchangeBinary, hcheck,
      Except.ok_then]
    dsimp only [pure, Except.pure]
    rw [Except.ok_then]
    dsimp only
    subst hraw
    exact if_neg (by rw [hok]; decide)
  rw [hlocked]
  cases hanswer : decodeAnswer depth run.requestId raw with
  | ok answer => exact iff_of_true ⟨_, rfl⟩ (wireOnly_ok _)
  | error error =>
    rw [settle]
    split
    next hwire =>
      refine iff_of_true ⟨_, rfl⟩ ?_
      intro error' h
      obtain rfl := Except.error.inj h
      exact hwire
    next hwire =>
      refine iff_of_false ?_ fun h => hwire (h error rfl)
      rintro ⟨result, hresult⟩
      cases hresult

/-- Whatever the device sends, the decoding fails as a wire error and the request ends in a result, exactly where
the metadata that the layers come to is within the limits of the interpreter. -/
theorem malformed_reported_iff (sha256 : Bytes → PyStr) (depth : Nat) (request : Request) (run : Run)
    (received : run.exchange = .received raw)
    (sent : requestStream request.values request.operation run.secretsToSend request.timeoutMs run.requestId =
      .ok stream) :
    (WireOnly (decodeAnswer depth run.requestId raw) ∧
      ∃ result, run.requestLocked sha256 depth request = .ok result) ↔
    ∀ text, metadataText run.requestId raw = some text → WithinLimits depth text := by
  have hreturns := @requestLocked_returns_iff sha256 depth request run raw stream received sent
  rw [← decodeAnswer_wire_iff]
  exact ⟨And.left, fun h => ⟨h, hreturns.mpr h⟩⟩

end request

/-- A response whose metadata is one integer of these digits. -/
def digitsItems (digits : Nat) : List Codec.Tlv :=
  [(FieldId.status.toNat, [0, 0]), (FieldId.metadataJson.toNat, List.replicate digits 49)]

section digits

variable {digits : Nat}

theorem digitsItems_representable (short : digits ≤ 60000) : Codec.Representable (digitsItems digits) := by
  intro item hitem
  rcases List.mem_pair.mp hitem with rfl | rfl
  · exact ⟨by decide, by decide⟩
  · refine ⟨show FieldId.metadataJson.toNat < 2 ^ 16 by decide, ?_⟩
    rw [List.length_replicate]
    omega

theorem digitsBody_length : (Codec.tlvBytes (digitsItems digits)).length = digits + 10 := by
  rw [digitsItems, Codec.tlvBytes_length_cons, Codec.tlvBytes_length_cons, List.length_replicate,
    Codec.tlvBytes_nil, List.length_nil, List.length_cons, List.length_singleton]
  omega

/-- The integer comes through all the layers. -/
theorem metadataText_digits (short : digits ≤ 60000) : ∃ stream,
    encodeMessage (Codec.tlvBytes (digitsItems digits)) .response 5 = .ok stream ∧
      metadataText 5 stream = some (List.replicate digits 49) := by
  have hshort : (Codec.tlvBytes (digitsItems digits)).length ≤ maxBridgePayload := by
    rw [digitsBody_length, maxBridgePayload]
    omega
  obtain ⟨stream, hstream, -, -⟩ := @encodeMessage_length _ hshort .response 5 (by decide) (by decide)
  refine ⟨stream, hstream, ?_⟩
  have hframes := decodeStream_encodeMessage hshort .response (by decide) (by decide) hstream
  have hpayload := @reassembleFrames_messageFrames _ hshort .response 5
  have htlvs := decodeTlvs_tlvBytes (digitsItems_representable short) (by simp [digitsItems, FieldId.toNat])
    (show ∀ item ∈ digitsItems digits, item.1 ∈ responseFields by simp [digitsItems, responseFields])
  have htext : decodeUtf8 (List.replicate digits 49) = .ok (List.replicate digits 49) := by
    rw [decodeUtf8_of_ascii, List.map_replicate]
    · rfl
    · intro b hb
      rw [List.eq_of_mem_replicate hb]
      decide
  have htype : ∀ frame ∈ messageFrames (Codec.tlvBytes (digitsItems digits)) .response 5,
      frame.messageType = .response := by
    intro frame hframe
    obtain ⟨i, hi, rfl⟩ := List.mem_mapIdx.mp hframe
    rfl
  rw [metadataText, hframes]
  cases hf : messageFrames (Codec.tlvBytes (digitsItems digits)) .response 5 with
  | nil =>
    rw [hf] at hpayload
    cases hpayload
  | cons first rest =>
    have hfirst : first.messageType = .response := htype first (hf ▸ List.mem_cons_self)
    rw [hf] at hpayload
    have hstatus : responseStatus (digitsItems digits) = .ok 0 := rfl
    have hlookup : Codec.lookupTlv FieldId.metadataJson.toNat (digitsItems digits) = some
        (List.replicate digits 49) := rfl
    simp only [Except.toOption, Option.bind_some, List.head?_cons, hfirst, hpayload, htlvs, hstatus, hlookup,
      Option.getD_some, htext]
    rfl

theorem longInteger_digits (long : 4300 < digits) : LongInteger (List.replicate digits 49) := by
  obtain ⟨more, rfl⟩ := Nat.exists_eq_succ_of_ne_zero (show digits ≠ 0 by omega)
  have hunsigned : unsignedText (List.replicate (more + 1) 49) = List.replicate (more + 1) 49 := by
    rw [unsignedText, List.replicate_succ]
    rfl
  have hdigits : integerDigits (List.replicate (more + 1) 49) = List.replicate (more + 1) 49 := by
    have htake : (List.replicate (more + 1) (49 : CodePoint)).takeWhile isAsciiDigit =
        List.replicate (more + 1) 49 := by
      rw [List.takeWhile_replicate, if_pos (by decide)]
    rw [List.replicate_succ, integerDigits, ← List.replicate_succ, htake]
    rfl
  unfold LongInteger
  dsimp only
  rw [hunsigned, hdigits, List.drop_length, List.length_replicate]
  exact ⟨long, rfl, rfl⟩

end digits

/-- The service's request for the status. -/
def statusCall : Request :=
  ⟨PyStr.ofString "/dev/ttyACM0", BridgeRequest.status.modelDump, BridgeRequest.status.operationArgument,
    BridgeRequest.status.timeoutMs⟩

/-- A run of it in which the device sends these bytes. -/
def statusCallRun (raw : Bytes) : Run := ⟨[], 5, .received raw, ⟨[], [], [], 0⟩⟩

theorem statusCall_sent (raw : Bytes) :
    ∃ stream, requestStream statusCall.values statusCall.operation (statusCallRun raw).secretsToSend
      statusCall.timeoutMs (statusCallRun raw).requestId = .ok stream := by
  have attached : Attached .status [] := ⟨.ok ⟨[], []⟩, rfl⟩
  obtain ⟨body, stream, -, -, -, -, -, -, hstream⟩ := @pipelineSucceeds_of_encodable _ _ attached
    (by simp [Encodable]) (by decide) 5 (by decide) (by decide)
  exact ⟨stream, hstream⟩

/-- An integer of 4301 digits escapes the request, in a response that is well formed otherwise. -/
theorem malformed_escapes : ∃ raw, (∃ stream, requestStream statusCall.values statusCall.operation
      (statusCallRun raw).secretsToSend statusCall.timeoutMs (statusCallRun raw).requestId = .ok stream) ∧
    ∀ sha256 depth, ¬WireOnly (decodeAnswer depth 5 raw) ∧
      ∀ result, (statusCallRun raw).requestLocked sha256 depth statusCall ≠ .ok result := by
  obtain ⟨raw, -, htext⟩ := @metadataText_digits 4301 (by decide)
  obtain ⟨stream, hsent⟩ := statusCall_sent raw
  refine ⟨raw, ⟨stream, hsent⟩, fun sha256 depth => ?_⟩
  have hescapes : ¬WireOnly (decodeAnswer depth 5 raw) := by
    intro h
    have hlimits := decodeAnswer_wire_iff.mp h _ htext
    rw [List.replicate_succ] at hlimits
    refine hlimits (by decide) _ _ (.here _ _) (Or.inr ?_)
    exact longInteger_digits (show 4300 < 4301 by decide)
  refine ⟨hescapes, fun result hresult => hescapes ?_⟩
  exact (requestLocked_returns_iff rfl hsent).mp ⟨result, hresult⟩

/-- An integer of three digits in place of the metadata is reported: it comes through all the layers before. -/
theorem malformed_reported_iff_digits : ∃ raw, metadataText 5 raw = some (List.replicate 3 49) ∧
    ∃ result, (statusCallRun raw).requestLocked (fun _ => []) 10 statusCall = .ok result := by
  obtain ⟨raw, -, htext⟩ := @metadataText_digits 3 (by decide)
  obtain ⟨stream, hsent⟩ := statusCall_sent raw
  have hloads : (loads 10 (List.replicate 3 49)).toBool = true := by decide +kernel
  have hlimits : ∀ text, metadataText (statusCallRun raw).requestId raw = some text → WithinLimits 10 text := by
    intro text h
    obtain rfl := Option.some.inj (htext.symm.trans h)
    refine loads_syntax_iff.mp fun error herror => ?_
    rw [herror] at hloads
    cases hloads
  exact ⟨raw, htext, ((malformed_reported_iff (fun _ => []) 10 statusCall (statusCallRun raw) rfl hsent).mpr hlimits).2⟩

end JLinkMcp.Bridge
