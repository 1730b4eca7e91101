import JLinkMcp.FirmwareBridge

namespace JLinkMcp.Firmware

open Codec

/-- The item, where it is sent. -/
def itemIf (sent : Bool) (field : FieldId) (value : Bytes) : List Tlv :=
  if sent then [(field.toNat, value)] else []

/-- What a response says, item by item. -/
def responseItems (response : Response) (timestampUs : Nat) : List Tlv :=
  [(FieldId.status.toNat, leBytes 2 response.status)] ++
    itemIf (response.data ≠ []) .responseData response.data ++
    itemIf (response.metadata ≠ []) .metadataJson response.metadata ++
    itemIf (response.queueDepth ≠ 0) .queueDepth (leBytes 2 response.queueDepth) ++
    itemIf (response.overflow ≠ 0) .overflowCount (leBytes 4 response.overflow) ++
    [(FieldId.timestampUs.toNat, leBytes 8 timestampUs)] ++
    itemIf (response.error ≠ []) .errorMessage (response.error.take 160)

/-- The items that `fallback` sends. -/
def fallbackItems : List Tlv :=
  [(FieldId.status.toNat, leBytes 2 kIoError),
    (FieldId.errorMessage.toNat, text "response exceeds bridge bounds")]

/-- The items as a body, if they fit `response_body`. -/
def fittingBody (items : List Tlv) : Option Bytes :=
  if (tlvBytes items).length ≤ kMaxMessage then some (tlvBytes items) else none

theorem tlvBytes_length_append (items more : List Tlv) :
    (tlvBytes items).length ≤ (tlvBytes (items ++ more)).length := by
  rw [tlvBytes_append, List.length_append]
  omega

/-- The writer takes one more item, if there is still room. -/
theorem appendItem_fittingBody (items : List Tlv) (field : FieldId) (value : Bytes) :
    appendItem (fittingBody items) field value = fittingBody (items ++ [(field.toNat, value)]) := by
  have hlen : (tlvBytes (items ++ [(field.toNat, value)])).length =
      (tlvBytes items).length + (4 + value.length) := by
    rw [tlvBytes_append, List.length_append, tlvBytes_length_cons, tlvBytes_nil, List.length_nil,
      Nat.add_zero]
  by_cases h : (tlvBytes items).length ≤ kMaxMessage
  · simp only [appendItem, fittingBody, if_pos h, Option.bind_some, TlvWriter.append, hlen]
    by_cases hroom : (tlvBytes items).length + (4 + value.length) ≤ kMaxMessage
    · rw [if_neg (by simp only [sizeofTlvHeader]; omega), if_pos hroom]
      simp [tlvBytes]
    · rw [if_pos (by simp only [sizeofTlvHeader]; omega), if_neg hroom]
  · have hlonger := tlvBytes_length_append items [(field.toNat, value)]
    rw [fittingBody, if_neg h, fittingBody, if_neg (by omega)]
    rfl

theorem appendItem_itemIf {sent : Prop} [Decidable sent] (items : List Tlv) (field : FieldId)
    (value : Bytes) :
    (if sent then appendItem (fittingBody items) field value else fittingBody items) =
      fittingBody (items ++ itemIf (decide sent) field value) := by
  by_cases h : sent
  · rw [if_pos h, appendItem_fittingBody, itemIf, if_pos (decide_eq_true h)]
  · rw [if_neg h, itemIf, if_neg (by simpa using h), List.append_nil]

/-- `sendResponse` succeeds exactly where the items fit. -/
theorem responseBody_eq {response : Response} (short : response.metadata.length < kMaxMetadata)
    (timestampUs : Nat) :
    responseBody response timestampUs = fittingBody (responseItems response timestampUs) := by
  have hstart : (some [] : Option Bytes) = fittingBody [] := rfl
  have hdata : response.data.length ≠ 0 ↔ response.data ≠ [] :=
    not_congr List.length_eq_zero_iff
  simp only [responseBody, if_pos short, hdata, hstart]
  rw [appendItem_fittingBody, appendItem_itemIf, appendItem_itemIf, appendItem_itemIf, appendItem_itemIf,
    appendItem_fittingBody, appendItem_itemIf]
  rfl

/-- Whatever is passed to `sendResponse`, the body fits `response_body`. -/
theorem responseBody_length_le {response : Response} {timestampUs : Nat} {body : Bytes}
    (h : responseBody response timestampUs = some body) : body.length ≤ kMaxMessage := by
  by_cases short : response.metadata.length < kMaxMetadata
  · rw [responseBody_eq short, fittingBody] at h
    split at h
    next hfits =>
      cases h
      exact hfits
    next => simp at h
  · have hne : response.metadata ≠ [] := List.ne_nil_of_length_pos (by
      simp only [kMaxMetadata] at short
      omega)
    simp [responseBody, short, hne, appendItem] at h

theorem fallbackBody_eq : fallbackBody = tlvBytes fallbackItems := rfl

theorem tlvBytes_itemIf_length_le (sent : Bool) (field : FieldId) (value : Bytes) :
    (tlvBytes (itemIf sent field value)).length ≤ 4 + value.length := by
  cases sent with
  | false => exact Nat.zero_le _
  | true =>
    rw [itemIf, if_pos rfl, tlvBytes_length_cons]
    exact Nat.le_refl _

/-- A response takes at most 204 bytes more than its data and its metadata. -/
theorem responseItems_length_le (response : Response) (timestampUs : Nat) :
    (tlvBytes (responseItems response timestampUs)).length ≤
      response.data.length + response.metadata.length + 204 := by
  have hdata := tlvBytes_itemIf_length_le (response.data ≠ []) .responseData response.data
  have hmetadata := tlvBytes_itemIf_length_le (response.metadata ≠ []) .metadataJson response.metadata
  have hdepth := tlvBytes_itemIf_length_le (response.queueDepth ≠ 0) .queueDepth
    (leBytes 2 response.queueDepth)
  have hoverflow := tlvBytes_itemIf_length_le (response.overflow ≠ 0) .overflowCount
    (leBytes 4 response.overflow)
  have herror := tlvBytes_itemIf_length_le (response.error ≠ []) .errorMessage (response.error.take 160)
  have htake : (response.error.take 160).length ≤ 160 := List.length_take_le _ _
  simp only [responseItems, tlvBytes_append, List.length_append, tlvBytes_length_cons, tlvBytes_nil,
    List.length_nil, leBytes_length] at *
  omega

/-- A response that leaves room for itself is written as it is. -/
theorem responseBody_of_room {response : Response} (short : response.metadata.length < kMaxMetadata)
    (room : response.data.length + response.metadata.length ≤ 65000) (timestampUs : Nat) :
    responseBody response timestampUs = some (tlvBytes (responseItems response timestampUs)) := by
  have hlen := responseItems_length_le response timestampUs
  rw [responseBody_eq short, fittingBody, if_pos (by simp only [kMaxMessage]; omega)]

theorem itemIf_fields (sent : Bool) (field : FieldId) (value : Bytes) :
    ((itemIf sent field value).map Prod.fst).Sublist [field.toNat] := by
  cases sent with
  | false => exact List.nil_sublist _
  | true => exact List.Sublist.refl _

/-- The fields of a response come in the order of their numbers. -/
theorem responseItems_fields (response : Response) (timestampUs : Nat) :
    ((responseItems response timestampUs).map Prod.fst).Sublist
      ([FieldId.status, .responseData, .metadataJson, .queueDepth, .overflowCount, .timestampUs,
        .errorMessage].map FieldId.toNat) := by
  simp only [responseItems, List.map_append]
  exact (((((List.Sublist.refl [FieldId.status.toNat]).append (itemIf_fields _ _ _)).append
    (itemIf_fields _ _ _)).append (itemIf_fields _ _ _)).append (itemIf_fields _ _ _)).append
    (List.Sublist.refl [FieldId.timestampUs.toNat]) |>.append (itemIf_fields _ _ _)

theorem responseItems_nodup (response : Response) (timestampUs : Nat) :
    ((responseItems response timestampUs).map Prod.fst).Nodup :=
  (responseItems_fields response timestampUs).nodup (by decide)

theorem representable_itemIf {sent : Bool} {field : FieldId} {value : Bytes}
    (short : value.length < 2 ^ 16) : Representable (itemIf sent field value) := by
  intro item hitem
  cases sent with
  | false => exact absurd hitem List.not_mem_nil
  | true =>
    obtain rfl := List.mem_singleton.mp hitem
    exact ⟨FieldId.toNat_lt field, short⟩

/-- Types and lengths of a response fit the 16 bits that `TlvHeader` has for them. -/
theorem responseItems_representable {response : Response} (timestampUs : Nat)
    (data_lt : response.data.length < 2 ^ 16)
    (short : response.metadata.length < kMaxMetadata) :
    Representable (responseItems response timestampUs) := by
  have hstatus : itemIf true .status (leBytes 2 response.status) =
      [(FieldId.status.toNat, leBytes 2 response.status)] := rfl
  have htimestamp : itemIf true .timestampUs (leBytes 8 timestampUs) =
      [(FieldId.timestampUs.toNat, leBytes 8 timestampUs)] := rfl
  have herror : (response.error.take 160).length ≤ 160 := List.length_take_le _ _
  simp only [kMaxMetadata] at short
  intro item hitem
  rw [responseItems, ← hstatus, ← htimestamp] at hitem
  simp only [List.mem_append, or_assoc] at hitem
  rcases hitem with h | h | h | h | h | h | h <;>
    refine representable_itemIf ?_ item h <;> first | omega | (rw [leBytes_length]; decide)

/-- The value behind a type, in a row that is put together of two. -/
theorem lookupTlv_append (type : Nat) (xs ys : List Tlv) :
    lookupTlv type (xs ++ ys) = (lookupTlv type xs).or (lookupTlv type ys) := by
  induction xs with
  | nil => rfl
  | cons item xs ih =>
    rw [List.cons_append, lookupTlv, lookupTlv, ih]
    split <;> rfl

theorem lookupTlv_itemIf (type : Nat) (sent : Bool) (field : FieldId) (value : Bytes) :
    lookupTlv type (itemIf sent field value) =
      if sent ∧ field.toNat = type then some value else none := by
  cases sent with
  | false => rfl
  | true => simp [itemIf, lookupTlv]

section lookups

variable (response : Response) (timestampUs : Nat)

theorem lookup_status :
    lookupTlv FieldId.status.toNat (responseItems response timestampUs) =
      some (leBytes 2 response.status) := by
  simp [responseItems, lookupTlv]

theorem lookup_responseData :
    lookupTlv FieldId.responseData.toNat (responseItems response timestampUs) =
      if response.data ≠ [] then some response.data else none := by
  simp [responseItems, lookupTlv_append, lookupTlv_itemIf, lookupTlv, FieldId.toNat_inj]

theorem lookup_metadataJson :
    lookupTlv FieldId.metadataJson.toNat (responseItems response timestampUs) =
      if response.metadata ≠ [] then some response.metadata else none := by
  simp [responseItems, lookupTlv_append, lookupTlv_itemIf, lookupTlv, FieldId.toNat_inj]

theorem lookup_queueDepth :
    lookupTlv FieldId.queueDepth.toNat (responseItems response timestampUs) =
      if response.queueDepth ≠ 0 then some (leBytes 2 response.queueDepth) else none := by
  simp [responseItems, lookupTlv_append, lookupTlv_itemIf, lookupTlv, FieldId.toNat_inj]

theorem lookup_overflowCount :
    lookupTlv FieldId.overflowCount.toNat (responseItems response timestampUs) =
      if response.overflow ≠ 0 then some (leBytes 4 response.overflow) else none := by
  simp [responseItems, lookupTlv_append, lookupTlv_itemIf, lookupTlv, FieldId.toNat_inj]

theorem lookup_timestampUs :
    lookupTlv FieldId.timestampUs.toNat (responseItems response timestampUs) =
      some (leBytes 8 timestampUs) := by
  simp [responseItems, lookupTlv_append, lookupTlv_itemIf, lookupTlv, FieldId.toNat_inj]

theorem lookup_errorMessage :
    lookupTlv FieldId.errorMessage.toNat (responseItems response timestampUs) =
      if response.error ≠ [] then some (response.error.take 160) else none := by
  simp [responseItems, lookupTlv_append, lookupTlv_itemIf, lookupTlv, FieldId.toNat_inj]

end lookups

end JLinkMcp.Firmware
