import JLinkMcp.FirmwareToldListings
import JLinkMcp.JsonPrefixes

namespace JLinkMcp.Firmware

open Codec Host

section dispatch

variable {depth requestId : Nat} {reader : TlvReader} {s : Bridge}

theorem Told.mono {listing listing' : Prop} {response : Response} (h : listing → listing')
    (told : Told depth listing response) : Told depth listing' response := by
  obtain ⟨whole, fields, tells⟩ := told
  exact ⟨whole, fields, { tells with short := fun hnot => tells.short fun hlisting => hnot (h hlisting) }⟩

end dispatch

section decode

variable {depth requestId timestampUs : Nat} {listing : Prop} {response : Response} {whole : Bytes}
  {fields : List (PyStr × PyJson)}

theorem Tells.metadata_length (tells : Tells depth listing response whole fields) :
    response.metadata.length < kMaxMetadata := by
  have hlen : response.metadata.length ≤ kMaxMetadata - 1 := tells.cut ▸ List.length_take_le _ _
  simp only [kMaxMetadata] at *
  omega

/-- Whatever is told fits `response_body`. -/
theorem Tells.fits (tells : Tells depth listing response whole fields) :
    (tlvBytes (responseItems response timestampUs)).length ≤ kMaxMessage := by
  have hlen := responseItems_length_le response timestampUs
  have hroom := tells.room
  simp only [kMaxMessage]
  omega

theorem Tells.reportable (tells : Tells depth listing response whole fields) (short : whole.length < kMaxMetadata) :
    Reportable (depth + 3) response fields where
  status := tells.status
  data := tells.data
  short := tells.metadata_length
  metadata := by
    rw [tells.cut, List.take_of_length_le (Nat.le_sub_one_of_lt short)]
    exact tells.json.loads
  queueDepth := tells.queueDepth
  overflow := tells.overflow
  ascii := tells.ascii

/-- A listing that is cut is refused by the host. -/
theorem Tells.refused (tells : Tells depth listing response whole fields) (long : kMaxMetadata ≤ whole.length)
    (depth' : Nat) : ∃ error, decodeResponseBody depth' (tlvBytes (responseItems response timestampUs)) =
      .error error := by
  have hlen : response.metadata.length = kMaxMetadata - 1 := by
    rw [tells.cut, List.length_take]
    omega
  have hne : response.metadata ≠ [] := List.ne_nil_of_length_pos (hlen ▸ by decide)
  have hitems := decodeTlvs_responseItems timestampUs (Nat.lt_of_le_of_lt tells.data (by decide))
    tells.metadata_length
  have hlookup : lookupTlv Host.FieldId.metadataJson.toNat (responseItems response timestampUs) = _ :=
    lookup_metadataJson response timestampUs
  obtain ⟨error, herror⟩ : ∃ error, loads depth' (asciiText response.metadata) = .error error := by
    have hprefix : asciiText response.metadata <+: asciiText whole := by
      rw [tells.cut]
      exact (List.take_prefix _ _).map _
    refine loads_cut tells.json.reads hprefix fun heq => ?_
    have hlength := congrArg List.length heq
    simp only [asciiText, List.length_map, hlen, kMaxMetadata] at hlength long
    omega
  have hmetadata : ∃ error, responseMetadata depth' response.metadata = .error error := by
    have hload : (decodeUtf8 response.metadata).bind (loads depth') = .error error := by
      rw [decodeUtf8_of_ascii fun b hb => tells.json.ascii b (List.mem_of_mem_take (tells.cut ▸ hb))]
      exact herror
    rw [responseMetadata, hload]
    cases error <;> exact ⟨_, rfl⟩
  obtain ⟨refusal, hrefusal⟩ := hmetadata
  refine ⟨refusal, ?_⟩
  rw [decodeResponseBody, hitems, Except.ok_then,
    responseStatus_responseItems response timestampUs tells.status, Except.ok_then]
  dsimp only
  rw [hlookup, if_pos hne, Option.getD_some, hrefusal]
  rfl

variable (id_lt : requestId < 2 ^ 32)

include id_lt

theorem Tells.decoded (tells : Tells depth listing response whole fields) (timestamp_lt : timestampUs < 2 ^ 64)
    (short : whole.length < kMaxMetadata) :
    decodeResponse (depth + 3) requestId (responseMessage requestId response timestampUs) =
      .ok (answerType response.status, readBack response timestampUs fields) := by
  have hdecode := decodeResponse_responseMessage id_lt (tells.reportable short) timestamp_lt
  rwa [if_pos (show _ ≤ 65536 from tells.fits)] at hdecode

end decode

end JLinkMcp.Firmware
