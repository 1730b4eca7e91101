import JLinkMcp.HostBase64
import JLinkMcp.HostJson
import JLinkMcp.HostReassembly
import JLinkMcp.HostRequestBody

namespace JLinkMcp.Host

open Codec

/-- The `while` of `decode_tlvs`; `result` holds the items before. -/
def decodeTlvsFrom (allowed : Option (List Nat)) (result : List Tlv) (payload : Bytes) :
    Except PyError (List Tlv) :=
  if payload = [] then .ok result
  else if payload.length < 4 then .error (.bridgeWire "truncated TLV header")
  else
    let kind := leNat (payload.take 2)
    let length := leNat ((payload.drop 2).take 2)
    let rest := payload.drop 4
    if length > rest.length then .error (.bridgeWire "truncated TLV value")
    else if kind ∈ result.map Prod.fst then .error (.bridgeWire s!"duplicate TLV type: {kind}")
    else if allowed.any fun allowed => kind ∉ allowed then
      .error (.bridgeWire s!"unknown TLV type: {kind}")
    else decodeTlvsFrom allowed (result ++ [(kind, rest.take length)]) (rest.drop length)
  termination_by payload.length
  decreasing_by
    simp only [List.length_drop]
    omega

def decodeTlvs (payload : Bytes) (allowed : Option (List Nat)) : Except PyError (List Tlv) :=
  decodeTlvsFrom allowed [] payload

/-- The dictionary that `decode_response_body` returns. -/
structure ResponseBody where
  status : Nat
  data : Bytes
  dataBase64 : PyStr
  metadata : List (PyStr × PyJson)
  queueDepth : Nat
  overflowCount : Nat
  timestampUs : Nat
  error : PyStr

/-- `allowed` of `decode_response_body` -/
def responseFields : List Nat :=
  [FieldId.status, FieldId.responseData, FieldId.metadataJson, FieldId.queueDepth,
    FieldId.overflowCount, FieldId.timestampUs, FieldId.errorMessage].map FieldId.toNat

/-- `integer` of `decode_response_body` -/
def responseInteger (values : List Tlv) (kind : FieldId) (name : String) (width : Nat) :
    Except PyError Nat :=
  match lookupTlv kind.toNat values with
  | none => .ok 0
  | some raw =>
    if raw.length ≠ width then .error (.bridgeWire s!"{name} has an invalid width")
    else .ok (leNat raw)

/-- The metadata of a response: a JSON object. -/
def responseMetadata (depth : Nat) (raw : Bytes) : Except PyError (List (PyStr × PyJson)) :=
  match (decodeUtf8 raw).bind (loads depth) with
  | .ok (.dict metadata) => .ok metadata
  | .ok _ => .error (.bridgeWire "response metadata must be a JSON object")
  | .error .unicodeDecodeError | .error .jsonDecodeError =>
    .error (.bridgeWire "response metadata is not valid UTF-8 JSON")
  | .error other => .error other

/-- `error_raw.decode("utf-8")` -/
def responseError (raw : Bytes) : Except PyError PyStr :=
  match decodeUtf8 raw with
  | .ok error => .ok error
  | .error _ => .error (.bridgeWire "firmware error text is not UTF-8")

/-- The status of a response: two bytes that must be there. -/
def responseStatus (values : List Tlv) : Except PyError Nat :=
  match lookupTlv FieldId.status.toNat values with
  | none => .error (.bridgeWire "response has no status TLV")
  | some raw =>
    if raw.length ≠ 2 then .error (.bridgeWire "response status is not uint16") else .ok (leNat raw)

/-- `decode_response_body`; `depth` is how deep the interpreter nests JSON. -/
def decodeResponseBody (depth : Nat) (payload : Bytes) : Except PyError ResponseBody := do
  let values ← decodeTlvs payload (some responseFields)
  let status ← responseStatus values
  let data := (lookupTlv FieldId.responseData.toNat values).getD []
  let metadata ← responseMetadata depth
    ((lookupTlv FieldId.metadataJson.toNat values).getD [123, 125])
  let error ← responseError ((lookupTlv FieldId.errorMessage.toNat values).getD [])
  let queueDepth ← responseInteger values .queueDepth "QUEUE_DEPTH" 2
  let overflowCount ← responseInteger values .overflowCount "OVERFLOW_COUNT" 4
  let timestampUs ← responseInteger values .timestampUs "TIMESTAMP_US" 8
  return ⟨status, data, b64encode data, metadata, queueDepth, overflowCount, timestampUs, error⟩

/-- The decoding steps of `_request_locked` on the bytes that came from the device: the type of the
response, and its body. -/
def decodeResponse (depth : Nat) (requestId : Int) (raw : Bytes) :
    Except PyError (MessageType × ResponseBody) := do
  let frames ← decodeStream raw
  match frames with
  | [] => .error (.bridgeWire "bridge response contained no delimited frame")
  | first :: _ =>
    if first.messageType = .request then
      .error (.bridgeWire "unexpected bridge response type: REQUEST")
    else
      let responseBody ← reassembleFrames frames (some requestId) (some first.messageType)
      let response ← decodeResponseBody depth responseBody
      return (first.messageType, response)

/-- A step that succeeds, in a program written with `do`. -/
theorem Except.ok_then {α β : Type} (a : α) (next : α → Except PyError β) :
    (Except.ok a >>= next) = next a := rfl

theorem decodeTlvsFrom_tlvBytes {allowed : List Nat} {items result : List Tlv}
    (representable : Representable items) (nodup : ((result ++ items).map Prod.fst).Nodup)
    (known : ∀ item ∈ items, item.1 ∈ allowed) :
    decodeTlvsFrom (some allowed) result (tlvBytes items) = .ok (result ++ items) := by
  induction items generalizing result with
  | nil =>
    rw [decodeTlvsFrom, List.append_nil]
    rfl
  | cons item items ih =>
    have hitem := representable item List.mem_cons_self
    have hlen := tlvBytes_length_cons item items
    have hne : tlvBytes (item :: items) ≠ [] := List.ne_nil_of_length_pos (by omega)
    have hrest := @tlvBytes_cons_rest item items
    have hnew : item.1 ∉ result.map Prod.fst := by
      intro hmem
      rw [List.map_append, List.nodup_append] at nodup
      exact nodup.2.2 _ hmem _ (by simp) rfl
    have hknown : item.1 ∈ allowed := known item List.mem_cons_self
    have hsplit : result ++ item :: items = result ++ [item] ++ items := by simp
    have ih := ih (fun i hi => representable i (List.mem_cons_of_mem item hi)) (hsplit ▸ nodup)
      fun i hi => known i (List.mem_cons_of_mem item hi)
    rw [decodeTlvsFrom, if_neg hne, if_neg (by omega)]
    simp only [tlvBytes_cons_type hitem, tlvBytes_cons_size hitem, hrest]
    rw [if_neg (by rw [List.length_append]; omega), if_neg hnew, if_neg (by simpa using hknown),
      List.drop_left, List.take_left, ih, ← hsplit]

theorem decodeTlvs_tlvBytes {allowed : List Nat} {items : List Tlv} (representable : Representable items)
    (nodup : (items.map Prod.fst).Nodup) (known : ∀ item ∈ items, item.1 ∈ allowed) :
    decodeTlvs (tlvBytes items) (some allowed) = .ok items :=
  decodeTlvsFrom_tlvBytes representable nodup known

/-- The bytes of a message that holds a response come back as its type and the decoded body. -/
theorem decodeResponse_encodeMessage {depth : Nat} {requestId : Int} {payload stream : Bytes}
    {type : MessageType} (short : payload.length ≤ maxBridgePayload) (id_nonneg : 0 ≤ requestId)
    (id_le : requestId ≤ 0xFFFFFFFF) (answer : type ≠ .request)
    (encoded : encodeMessage payload type requestId = .ok stream) :
    decodeResponse depth requestId stream =
      (decodeResponseBody depth payload).map fun body => (type, body) := by
  have hstream := decodeStream_encodeMessage short type id_nonneg id_le encoded
  have hframes := @reassembleFrames_messageFrames payload short type requestId
  have htype : ∀ frame ∈ messageFrames payload type requestId, frame.messageType = type := by
    intro frame hframe
    obtain ⟨i, hi, rfl⟩ := List.mem_mapIdx.mp hframe
    rfl
  rw [decodeResponse, hstream]
  cases hf : messageFrames payload type requestId with
  | nil =>
    rw [hf] at hframes
    simp [reassembleFrames] at hframes
  | cons first rest =>
    have hfirst : first.messageType = type := htype first (by rw [hf]; exact List.mem_cons_self)
    rw [hf] at hframes
    change (if first.messageType = .request then _ else _) = _
    rw [hfirst, if_neg answer, hframes]
    change (decodeResponseBody depth payload).bind (fun body => .ok (type, body)) = _
    cases decodeResponseBody depth payload <;> rfl

end JLinkMcp.Host
