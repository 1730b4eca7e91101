import JLinkMcp.FirmwareDispatchAnswers
import JLinkMcp.FirmwareResponse
import JLinkMcp.HostResponse

namespace JLinkMcp

open Codec Host
open Firmware (Response Bridge dispatch responseMessage responseItems fittingBody kMaxMessage sendMessage)

/-- What a handler may pass to `sendResponse`; `fields` is what the metadata says. -/
structure Reportable (depth : Nat) (response : Response) (fields : List (PyStr × PyJson)) : Prop where
  status : response.status < 2 ^ 16
  data : response.data.length ≤ Firmware.kMaxApplicationTransfer
  short : response.metadata.length < Firmware.kMaxMetadata
  metadata : (decodeUtf8 response.metadata).bind (loads depth) = .ok (.dict fields)
  queueDepth : response.queueDepth < 2 ^ 16
  overflow : response.overflow < 2 ^ 32
  ascii : ∀ b ∈ response.error, b.toNat < 128

/-- ASCII bytes as a text. -/
def asciiText (bytes : Host.Bytes) : PyStr := bytes.map fun b => Fin.ofNat 0x110000 b.toNat

/-- The response as the host should see it. -/
def readBack (response : Response) (timestampUs : Nat) (fields : List (PyStr × PyJson)) :
    ResponseBody where
  status := response.status
  data := response.data
  dataBase64 := b64encode response.data
  metadata := fields
  queueDepth := response.queueDepth
  overflowCount := response.overflow
  timestampUs := timestampUs
  error := asciiText (response.error.take 160)

/-- The answer in place of one that is too long. -/
def tooLong : ResponseBody where
  status := Firmware.kIoError
  data := []
  dataBase64 := []
  metadata := []
  queueDepth := 0
  overflowCount := 0
  timestampUs := 0
  error := PyStr.ofString "response exceeds bridge bounds"

def answerType (status : Nat) : MessageType := if status = 0 then .response else .error

/-- The type that `sendResponse` writes. -/
theorem answerType_value (status : Nat) :
    (if status = 0 then Firmware.RESPONSE else Firmware.ERROR_RESPONSE) = (answerType status).value := by
  unfold answerType
  split <;> rfl

theorem answerType_ne_request (status : Nat) : answerType status ≠ .request := by
  unfold answerType
  split <;> decide

section decode

variable {depth : Nat} {response : Response} {timestampUs : Nat} {fields : List (PyStr × PyJson)}

theorem metadata_ne_nil (reportable : Reportable depth response fields) : response.metadata ≠ [] := by
  intro h
  have hobject := reportable.metadata
  rw [h, decodeUtf8_of_ascii (by simp)] at hobject
  simp [loads, skipWhitespace, scanOnce] at hobject
  cases hobject

section values

variable (response timestampUs)

theorem responseStatus_responseItems (small : response.status < 2 ^ 16) :
    responseStatus (responseItems response timestampUs) = .ok response.status := by
  have hlookup : lookupTlv FieldId.status.toNat (responseItems response timestampUs) = _ :=
    Firmware.lookup_status response timestampUs
  rw [responseStatus, hlookup]
  simp [leNat_leBytes_of_lt (show response.status < 256 ^ 2 by omega)]

theorem responseData_responseItems :
    (lookupTlv FieldId.responseData.toNat (responseItems response timestampUs)).getD [] =
      response.data := by
  have hlookup : lookupTlv FieldId.responseData.toNat (responseItems response timestampUs) = _ :=
    Firmware.lookup_responseData response timestampUs
  rw [hlookup]
  by_cases h : response.data = [] <;> simp [h]

theorem responseError_responseItems (ascii : ∀ b ∈ response.error, b.toNat < 128) :
    responseError ((lookupTlv FieldId.errorMessage.toNat (responseItems response timestampUs)).getD []) =
      .ok (asciiText (response.error.take 160)) := by
  have hlookup : lookupTlv FieldId.errorMessage.toNat (responseItems response timestampUs) = _ :=
    Firmware.lookup_errorMessage response timestampUs
  have hvalue : ((if response.error ≠ [] then some (response.error.take 160) else none).getD []) =
      response.error.take 160 := by
    by_cases h : response.error = [] <;> simp [h]
  rw [hlookup, hvalue, responseError, decodeUtf8_of_ascii fun b hb => ascii b (List.mem_of_mem_take hb)]
  rfl

/-- A counter that is left out counts as zero. -/
theorem responseInteger_responseItems {kind : FieldId} {name : String} {width n : Nat}
    {items : List Tlv} (small : n < 256 ^ width)
    (hlookup : lookupTlv kind.toNat items = if n ≠ 0 then some (leBytes width n) else none) :
    responseInteger items kind name width = .ok n := by
  rw [responseInteger, hlookup]
  by_cases h : n = 0
  · simp [h]
  · simp [h, leNat_leBytes_of_lt small]

theorem responseTimestamp_responseItems (small : timestampUs < 2 ^ 64) {name : String} :
    responseInteger (responseItems response timestampUs) .timestampUs name 8 = .ok timestampUs := by
  have hlookup : lookupTlv FieldId.timestampUs.toNat (responseItems response timestampUs) = _ :=
    Firmware.lookup_timestampUs response timestampUs
  rw [responseInteger, hlookup]
  simp [leNat_leBytes_of_lt (show timestampUs < 256 ^ 8 by omega)]

end values

theorem responseMetadata_responseItems (reportable : Reportable depth response fields) :
    responseMetadata depth
      ((lookupTlv FieldId.metadataJson.toNat (responseItems response timestampUs)).getD [123, 125]) =
      .ok fields := by
  have hlookup : lookupTlv FieldId.metadataJson.toNat (responseItems response timestampUs) = _ :=
    Firmware.lookup_metadataJson response timestampUs
  rw [hlookup, if_pos (metadata_ne_nil reportable), Option.getD_some, responseMetadata,
    reportable.metadata]

theorem decodeTlvs_responseItems {response : Response} (timestampUs : Nat) (data_lt : response.data.length < 2 ^ 16)
    (short : response.metadata.length < Firmware.kMaxMetadata) :
    decodeTlvs (tlvBytes (responseItems response timestampUs)) (some responseFields) =
      .ok (responseItems response timestampUs) := by
  refine decodeTlvs_tlvBytes (Firmware.responseItems_representable timestampUs data_lt short)
    (Firmware.responseItems_nodup response timestampUs) fun item hitem => ?_
  exact (Firmware.responseItems_fields response timestampUs).subset (List.mem_map_of_mem hitem)

/-- What the firmware puts into a response, the host takes out of it. -/
theorem decodeResponseBody_responseItems (reportable : Reportable depth response fields)
    (timestamp_lt : timestampUs < 2 ^ 64) :
    decodeResponseBody depth (tlvBytes (responseItems response timestampUs)) =
      .ok (readBack response timestampUs fields) := by
  have hitems := decodeTlvs_responseItems timestampUs (Nat.lt_of_le_of_lt reportable.data (by decide))
    reportable.short
  have hdepth : responseInteger (responseItems response timestampUs) .queueDepth "QUEUE_DEPTH" 2 =
      .ok response.queueDepth :=
    responseInteger_responseItems reportable.queueDepth (Firmware.lookup_queueDepth response timestampUs)
  have hoverflow : responseInteger (responseItems response timestampUs) .overflowCount "OVERFLOW_COUNT" 4 =
      .ok response.overflow :=
    responseInteger_responseItems reportable.overflow (Firmware.lookup_overflowCount response timestampUs)
  rw [decodeResponseBody, hitems, Except.ok_then,
    responseStatus_responseItems response timestampUs reportable.status, Except.ok_then]
  dsimp only
  rw [responseData_responseItems, responseMetadata_responseItems reportable, Except.ok_then,
    responseError_responseItems response timestampUs reportable.ascii, Except.ok_then,
    hdepth, Except.ok_then, hoverflow, Except.ok_then,
    responseTimestamp_responseItems response timestampUs timestamp_lt, Except.ok_then]
  rfl

theorem decodeUtf8_literal {bytes : Bytes} (ascii : bytes.all (fun b => b.toNat < 128) = true) :
    decodeUtf8 bytes = .ok (bytes.map fun b => Fin.ofNat 0x110000 b.toNat) :=
  decodeUtf8_of_ascii fun b hb => of_decide_eq_true (List.all_eq_true.mp ascii b hb)

theorem decodeTlvs_fallbackItems : decodeTlvs (tlvBytes Firmware.fallbackItems) (some responseFields) =
    .ok Firmware.fallbackItems := by
  refine decodeTlvs_tlvBytes ?_ (by decide) (by decide)
  intro item hitem
  simp only [Firmware.fallbackItems, List.mem_cons, List.not_mem_nil, or_false] at hitem
  rcases hitem with rfl | rfl <;> exact ⟨by decide, by decide⟩

/-- The fallback of `sendResponse` is an I/O error without data. -/
theorem decodeResponseBody_fallbackBody (depth : Nat) :
    decodeResponseBody (depth + 1) Firmware.fallbackBody = .ok tooLong := by
  have hitems := decodeTlvs_fallbackItems
  have hbraces : responseMetadata (depth + 1) [123, 125] = .ok [] := by
    have hbytes : decodeUtf8 [123, 125] = .ok (PyStr.ofString "{}") :=
      decodeUtf8_literal (by decide)
    rw [responseMetadata, hbytes, Except.ok_bind, loads_braces]
  have herror : responseError (Firmware.text "response exceeds bridge bounds") =
      .ok (PyStr.ofString "response exceeds bridge bounds") := by
    rw [responseError, decodeUtf8_literal (by decide)]
    rfl
  have hstatus : responseStatus Firmware.fallbackItems = .ok Firmware.kIoError := rfl
  rw [Firmware.fallbackBody_eq, decodeResponseBody, hitems, Except.ok_then, hstatus, Except.ok_then]
  change (responseMetadata (depth + 1) [123, 125] >>= _) = _
  rw [hbraces, Except.ok_then]
  change (responseError (Firmware.text "response exceeds bridge bounds") >>= _) = _
  rw [herror]
  rfl

end decode

/-- The bytes are those of one message, that carries the request id and answers it. -/
def IsAnswer (requestId : Nat) (written : Host.Bytes) : Prop :=
  ∃ type payload, type ≠ MessageType.request ∧ payload.length ≤ kMaxMessage ∧
    written = sendMessage requestId type.value payload ∧
    decodeStream written = .ok (messageFrames payload type requestId)

section message

variable {requestId : Nat} (id_lt : requestId < 2 ^ 32)

include id_lt

theorem isAnswer_sendMessage {type : MessageType} {payload : Host.Bytes} (answer : type ≠ .request)
    (short : payload.length ≤ kMaxMessage) :
    IsAnswer requestId (sendMessage requestId type.value payload) :=
  ⟨type, payload, answer, short, rfl, decodeStream_encodeMessage short type (by omega) (by omega)
    (Firmware.sendMessage_eq_encodeMessage payload short type requestId id_lt).1⟩

theorem decodeResponse_sendMessage {depth : Nat} {type : MessageType} {payload : Host.Bytes}
    (answer : type ≠ .request) (short : payload.length ≤ kMaxMessage) :
    decodeResponse depth requestId (sendMessage requestId type.value payload) =
      (decodeResponseBody depth payload).map fun body => (type, body) :=
  decodeResponse_encodeMessage short (by omega) (by omega) answer
    (Firmware.sendMessage_eq_encodeMessage payload short type requestId id_lt).1

theorem isAnswer_responseMessage (response : Response) (timestampUs : Nat) :
    IsAnswer requestId (responseMessage requestId response timestampUs) := by
  unfold responseMessage
  split
  next => exact isAnswer_sendMessage id_lt (show MessageType.error ≠ .request by decide) (by decide)
  next body hbody =>
    rw [answerType_value]
    exact isAnswer_sendMessage id_lt (answerType_ne_request _) (Firmware.responseBody_length_le hbody)

theorem decodeResponse_responseMessage {depth : Nat} {response : Response} {timestampUs : Nat}
    {fields : List (PyStr × PyJson)} (reportable : Reportable (depth + 1) response fields)
    (timestamp_lt : timestampUs < 2 ^ 64) :
    decodeResponse (depth + 1) requestId (responseMessage requestId response timestampUs) =
      .ok (if (tlvBytes (responseItems response timestampUs)).length ≤ 65536 then
        (answerType response.status, readBack response timestampUs fields) else (.error, tooLong)) := by
  rw [responseMessage, Firmware.responseBody_eq reportable.short, fittingBody]
  by_cases hfits : (tlvBytes (responseItems response timestampUs)).length ≤ 65536
  · rw [if_pos (show _ ≤ kMaxMessage from hfits), if_pos hfits]
    dsimp only
    rw [answerType_value, decodeResponse_sendMessage id_lt (answerType_ne_request _) hfits,
      decodeResponseBody_responseItems reportable timestamp_lt]
    rfl
  · have herror := @decodeResponse_sendMessage requestId id_lt (depth + 1) .error Firmware.fallbackBody
      (by decide) (by decide)
    rw [if_neg (show ¬_ ≤ kMaxMessage from hfits), if_neg hfits]
    refine herror.trans ?_
    rw [decodeResponseBody_fallbackBody]
    rfl

end message

/-- What `sendResponse` writes in place of a response that does not fit. -/
def fallbackMessage (requestId : Nat) : Host.Bytes :=
  sendMessage requestId Firmware.ERROR_RESPONSE Firmware.fallbackBody

/-- The body of a success fits one message. -/
theorem Firmware.Succeeded.isSome_responseBody {response : Response} (ok : Firmware.Succeeded response)
    (timestampUs : Nat) : (Firmware.responseBody response timestampUs).isSome := by
  rw [Firmware.responseBody_of_room ok.short ok.room]
  rfl

section types

variable {requestId : Nat} (id_lt : requestId < 2 ^ 32)

include id_lt

/-- The type and the payload of a message can be told from its bytes. -/
theorem sendMessage_injective {type type' : MessageType} {payload payload' : Host.Bytes}
    (short : payload.length ≤ kMaxMessage) (short' : payload'.length ≤ kMaxMessage)
    (h : sendMessage requestId type.value payload = sendMessage requestId type'.value payload') :
    type = type' ∧ payload = payload' := by
  have hdecode := decodeStream_encodeMessage short type (by omega) (by omega)
    (Firmware.sendMessage_eq_encodeMessage payload short type requestId id_lt).1
  have hdecode' := decodeStream_encodeMessage short' type' (by omega) (by omega)
    (Firmware.sendMessage_eq_encodeMessage payload' short' type' requestId id_lt).1
  rw [h, hdecode'] at hdecode
  have hframes := Except.ok.inj hdecode
  refine ⟨?_, ?_⟩
  · have hpos : 0 < (messageFrames payload type requestId).length := by
      rw [messageFrames_length, messageChunks_length]
      omega
    obtain ⟨frame, hfirst⟩ : ∃ frame, (messageFrames payload type requestId)[0]? = some frame :=
      ⟨_, List.getElem?_eq_getElem hpos⟩
    obtain ⟨chunk, -, hframe⟩ := messageFrames_getElem? hfirst
    rw [← hframes] at hfirst
    obtain ⟨chunk', -, hframe'⟩ := messageFrames_getElem? hfirst
    exact congrArg WireFrame.messageType (hframe.symm.trans hframe')
  · rw [← messageFrames_payload payload type requestId, ← hframes, messageFrames_payload]

/-- A success is never taken for an error. -/
theorem responseMessage_ne {response response' : Response} {timestampUs timestampUs' : Nat}
    (ok : response.status = Firmware.kStatusOk)
    (fits : (Firmware.responseBody response timestampUs).isSome)
    (failed : response'.status ≠ Firmware.kStatusOk) :
    responseMessage requestId response timestampUs ≠ responseMessage requestId response' timestampUs' := by
  obtain ⟨payload, hpayload⟩ := Option.isSome_iff_exists.mp fits
  have hshort := Firmware.responseBody_length_le hpayload
  have hok : response.status = 0 := ok
  have hfailed : ¬response'.status = 0 := failed
  rw [responseMessage, hpayload, responseMessage]
  dsimp only
  rw [if_pos hok]
  intro h
  split at h
  next =>
    have htypes := (@sendMessage_injective _ id_lt .response .error _ _ hshort (by decide) h).1
    cases htypes
  next body hbody =>
    rw [if_neg hfailed] at h
    have htypes := (@sendMessage_injective _ id_lt .response .error _ _ hshort
      (Firmware.responseBody_length_le hbody) h).1
    cases htypes

/-- A response that leaves room for itself is never replaced: the fallback has no timestamp. -/
theorem responseMessage_ne_fallback {response : Response} (short : response.metadata.length < Firmware.kMaxMetadata)
    (room : response.data.length + response.metadata.length ≤ 65000) (timestampUs : Nat) :
    responseMessage requestId response timestampUs ≠ fallbackMessage requestId := by
  have hbody := Firmware.responseBody_of_room short room timestampUs
  have hlen := Firmware.responseBody_length_le hbody
  rw [responseMessage, hbody, answerType_value]
  intro h
  have hpayload := (@sendMessage_injective _ id_lt _ .error _ _ hlen (by decide) h).2
  have hitems := decodeTlvs_responseItems timestampUs (by omega) short
  rw [hpayload, Firmware.fallbackBody_eq, decodeTlvs_fallbackItems] at hitems
  have hlookup := Firmware.lookup_timestampUs response timestampUs
  rw [← Except.ok.inj hitems] at hlookup
  cases hlookup

end types

/-- Every request is answered by one message of its id, which is never the fallback, and what fits is read
back as it was. -/
theorem dispatch_answers_once_and_reads_back (requestId : Nat) (id_lt : requestId < 2 ^ 32) :
    (∀ body bridge, ∃ response machine,
      (dispatch requestId body bridge).2.serial =
        bridge.serial ++ responseMessage requestId response (Firmware.timestampUs machine) ∧
      IsAnswer requestId (responseMessage requestId response (Firmware.timestampUs machine)) ∧
      responseMessage requestId response (Firmware.timestampUs machine) ≠ fallbackMessage requestId) ∧
    ∀ depth response timestampUs fields, Reportable (depth + 1) response fields →
      timestampUs < 2 ^ 64 →
      decodeResponse (depth + 1) requestId (responseMessage requestId response timestampUs) =
        .ok (if (tlvBytes (responseItems response timestampUs)).length ≤ 65536 then
          (answerType response.status, readBack response timestampUs fields) else (.error, tooLong)) := by
  refine ⟨fun body bridge => ?_, fun depth response timestampUs fields reportable timestamp_lt =>
    decodeResponse_responseMessage id_lt reportable timestamp_lt⟩
  obtain ⟨response, machine, hsound, hserial⟩ := @Firmware.answers_dispatch requestId bridge body
  exact ⟨response, machine, hserial, isAnswer_responseMessage id_lt response _,
    responseMessage_ne_fallback id_lt hsound.short hsound.room _⟩

theorem dispatch_answers_once_and_reads_back_status :
    decodeResponse 64 7 (responseMessage 7 { status := 0, metadata := Firmware.text "{}" } 5) =
      .ok (.response, readBack { status := 0, metadata := Firmware.text "{}" } 5 []) := by
  have hbraces : (decodeUtf8 (Firmware.text "{}")).bind (loads 64) = .ok (.dict []) := by
    have hbytes : decodeUtf8 (Firmware.text "{}") = .ok (PyStr.ofString "{}") :=
      decodeUtf8_literal (by decide)
    rw [hbytes, Except.ok_bind, loads_braces]
  exact (dispatch_answers_once_and_reads_back 7 (by decide)).2 63 _ 5 []
    ⟨by decide, by decide, by decide, hbraces, by decide, by decide, by simp⟩ (by decide)

end JLinkMcp
