import JLinkMcp.FrameCorruption

namespace JLinkMcp.Host

open Codec

section frame

variable {decoded : Bytes} {frame : WireFrame}

theorem value_of_ofValue? {n : Nat} {kind : MessageType} (h : MessageType.ofValue? n = some kind) :
    kind.value = n := by
  rw [MessageType.ofValue?.eq_def] at h
  split at h <;> cases h <;> rfl

/-- What was decoded can be packed again. -/
theorem Decodes.packable (h : Decodes decoded frame) (short : decoded.length ≤ 0xFFFF) : frame.Packable := by
  have hid : (unpackHeader decoded).requestId < 256 ^ 4 := leNat_take_lt 4 _
  have hcount : (unpackHeader decoded).segmentCount < 256 ^ 2 := leNat_take_lt 2 _
  have hindex := h.index
  have hpayload : frame.payload.length ≤ decoded.length := by
    rw [h.payload, List.length_drop]
    omega
  have hrequest := h.requestId
  have hsegment := h.segmentIndex
  have hsegments := h.segmentCount
  exact ⟨h.wireVersion, by omega, by omega, by omega, by omega, by omega, by omega⟩

/-- Packing what was decoded gives the same bytes. -/
theorem rawFrame_of_decodes (h : Decodes decoded frame) : rawFrame frame = decoded := by
  have hlong := h.long
  have hlength := h.length
  simp only [headerSize] at hlong hlength
  have hpayload : frame.payload.length = (unpackHeader decoded).payloadLength := by
    rw [h.payload, List.length_drop]
    simp only [headerSize]
    omega
  have hversion : frame.wireVersion.toNat = (unpackHeader decoded).version := by
    have hversion := h.version
    rw [← h.wireVersion] at hversion
    omega
  have hrequest : frame.requestId.toNat = (unpackHeader decoded).requestId := by
    rw [h.requestId]
    exact Int.toNat_natCast _
  have hindex : frame.segmentIndex.toNat = (unpackHeader decoded).segmentIndex := by
    rw [h.segmentIndex]
    exact Int.toNat_natCast _
  have hcount : frame.segmentCount.toNat = (unpackHeader decoded).segmentCount := by
    rw [h.segmentCount]
    exact Int.toNat_natCast _
  have hheader : packHeaderWithoutCrc frame.wireVersion.toNat frame.messageType.value frame.requestId.toNat
      frame.segmentIndex.toNat frame.segmentCount.toNat frame.payload.length = decoded.take 16 := by
    have hbytes := @Firmware.bytesBeforeCrc_ofBytes decoded h.long
    rw [hversion, value_of_ofValue? h.kind, hrequest, hindex, hcount, hpayload, packHeaderWithoutCrc, ← h.magic]
    exact hbytes
  have hcrc : leBytes 4 (unpackHeader decoded).expectedCrc = (decoded.drop 16).take 4 := by
    have hwidth : ((decoded.drop 16).take 4).length = 4 := by
      rw [List.length_take, List.length_drop]
      omega
    have hread := leBytes_leNat ((decoded.drop 16).take 4)
    rwa [hwidth] at hread
  have hchecked : crc32 (decoded.take 16 ++ frame.payload) = (unpackHeader decoded).expectedCrc := by
    rw [h.payload]
    exact h.crc
  rw [rawFrame, hheader, hchecked, hcrc, h.payload]
  have hdrop : decoded.drop headerSize = (decoded.drop 16).drop 4 := by
    rw [List.drop_drop]
    rfl
  rw [hdrop, List.append_assoc, List.take_append_drop, List.take_append_drop]

/-- `encoded[:-1]` where it ends with the delimiter -/
def undelimited (encoded : Bytes) : Bytes := if encoded.getLast? = some 0 then encoded.dropLast else encoded

theorem unstuff_of_cobsDecode {data : Bytes} (h : cobsDecode data = .ok decoded) :
    data ≠ [] ∧ unstuff data = some decoded := by
  have hdata : ¬(data = [] ∨ (0 : UInt8) ∈ data) := by
    intro hbad
    rw [cobsDecode, if_pos hbad] at h
    cases h
  rw [not_or] at hdata
  rcases cobsDecode_cases hdata.1 hdata.2 with ⟨out, hout, hok⟩ | ⟨-, message, herror⟩
  · rw [h] at hok
    cases Except.ok.inj hok
    exact ⟨hdata.1, hout⟩
  · rw [h] at herror
    cases herror

theorem decodes_of_decodeFrame {encoded : Bytes} (h : decodeFrame encoded = .ok frame) :
    ∃ decoded, cobsDecode (undelimited encoded) = .ok decoded ∧ Decodes decoded frame ∧
      (undelimited encoded).length ≤ maxCobsFrame := by
  have hdecode : decodeFrame encoded =
      if (undelimited encoded).length > maxCobsFrame then
        .error (.bridgeWire "encoded frame exceeds transport limit")
      else (cobsDecode (undelimited encoded)).bind decodeRawFrame := rfl
  rw [hdecode] at h
  split at h
  next => cases h
  next hlength =>
    cases hunstuffed : cobsDecode (undelimited encoded) with
    | error error =>
      rw [hunstuffed] at h
      cases h
    | ok decoded =>
      rw [hunstuffed] at h
      exact ⟨decoded, rfl, decodes_of_decodeRawFrame h, Nat.le_of_not_lt hlength⟩

end frame

end JLinkMcp.Host

namespace JLinkMcp

open Codec

/-- The frame is of the encoder's, which stuffs the same bytes, and fits the firmware's buffer. -/
def SharesFrameLimit (encoded : Host.Bytes) (frame : Host.WireFrame) : Prop :=
  ∃ decoded, Host.cobsDecode (Host.undelimited encoded) = .ok decoded ∧ decoded.length ≤ Host.maxTransportFrame ∧
    frame.payload.length ≤ Host.maxSegmentPayload ∧
    Host.encodeFrame frame = .ok (Host.cobsEncode decoded ++ [0]) ∧
    Firmware.cobsDecode (Host.undelimited encoded) Firmware.kMaxDecodedFrame = decoded

theorem sharesFrameLimit_of_length {encoded decoded : Host.Bytes} {frame : Host.WireFrame}
    (unstuffed : Host.cobsDecode (Host.undelimited encoded) = .ok decoded) (decodes : Host.Decodes decoded frame)
    (short : decoded.length ≤ Host.maxTransportFrame) : SharesFrameLimit encoded frame := by
  have hshort := short
  simp only [Host.maxTransportFrame] at hshort
  have hpackable := decodes.packable (by omega)
  have hlong := decodes.long
  have hpayload : frame.payload.length ≤ Host.maxSegmentPayload := by
    rw [decodes.payload, List.length_drop]
    simp only [Host.maxSegmentPayload, Host.maxTransportFrame, Host.headerSize] at hlong ⊢
    omega
  have hencodable : frame.Encodable := ⟨hpackable.version, hpackable.id_nonneg, hpackable.id_le,
    hpackable.index_nonneg, hpackable.index_lt, hpackable.count_le, hpayload⟩
  have hraw := Host.rawFrame_of_decodes decodes
  refine ⟨decoded, unstuffed, short, hpayload, ?_, ?_⟩
  · rw [Host.encodeFrame_of_encodable hencodable, hraw, Host.cobsEncode_eq_stuff]
  · obtain ⟨-, hunstuff⟩ := Host.unstuff_of_cobsDecode unstuffed
    have hfits : decoded.length ≤ Firmware.kMaxDecodedFrame := short
    rw [Firmware.cobsDecode_eq_fitted, hunstuff, Option.elim_some, Firmware.fitted_of_le hfits]

/-- The frames that the decoder accepts are the encoder's where the stuffed frame is short enough for the codes
in it, and it accepts all of the encoder's. -/
theorem decodedFrame_sharesLimit_iff (encoded : Host.Bytes) (frame : Host.WireFrame) :
    (Host.decodeFrame encoded = .ok frame →
      (SharesFrameLimit encoded frame ↔
        (Host.undelimited encoded).length ≤ Host.maxTransportFrame + 1 + fullBlocks (Host.undelimited encoded))) ∧
    (Host.encodeFrame frame = .ok encoded →
      Host.decodeFrame encoded = .ok frame ∧ SharesFrameLimit encoded frame) := by
  constructor
  · intro haccepted
    obtain ⟨decoded, hunstuffed, hdecodes, -⟩ := Host.decodes_of_decodeFrame haccepted
    obtain ⟨hnonempty, hunstuff⟩ := Host.unstuff_of_cobsDecode hunstuffed
    have hlength := unstuff_length hunstuff hnonempty
    constructor
    · rintro ⟨decoded', hunstuffed', hshort, -⟩
      rw [hunstuffed] at hunstuffed'
      cases Except.ok.inj hunstuffed'
      omega
    · intro hshort
      exact sharesFrameLimit_of_length hunstuffed hdecodes (by omega)
  · intro hencoded
    obtain ⟨hencodable, rfl⟩ := Host.encodeFrame_ok hencoded
    have hraw := Host.decodeRawFrame_rawFrame hencodable
    have hshort : (Host.rawFrame frame).length ≤ Host.maxTransportFrame := by
      have hpayload := hencodable.payload_le
      rw [Host.rawFrame_length]
      simp only [Host.maxSegmentPayload, Host.maxTransportFrame, Host.headerSize] at hpayload ⊢
      omega
    have hundelimited : Host.undelimited (stuff (Host.rawFrame frame) ++ [0]) = stuff (Host.rawFrame frame) := by
      rw [Host.undelimited, List.getLast?_concat, if_pos rfl, List.dropLast_concat]
    have hunstuffed : Host.cobsDecode (Host.undelimited (stuff (Host.rawFrame frame) ++ [0])) =
        .ok (Host.rawFrame frame) := by
      rw [hundelimited, ← Host.cobsEncode_eq_stuff]
      exact Host.cobsDecode_cobsEncode (Host.rawFrame frame)
    refine ⟨(Host.decodeFrame_of_stuff hshort).1.trans hraw, ?_⟩
    exact sharesFrameLimit_of_length hunstuffed (Host.decodes_of_decodeRawFrame hraw) hshort

theorem decodedFrame_sharesLimit_iff_sample :
    SharesFrameLimit (Host.cobsEncode (Host.rawFrame sampleFrame) ++ [0]) sampleFrame ∧
      (SharesFrameLimit (Host.cobsEncode (Host.rawFrame sampleFrame) ++ [0]) sampleFrame ↔
        (Host.undelimited (Host.cobsEncode (Host.rawFrame sampleFrame) ++ [0])).length ≤
          Host.maxTransportFrame + 1 +
            fullBlocks (Host.undelimited (Host.cobsEncode (Host.rawFrame sampleFrame) ++ [0]))) := by
  have hencoded : Host.encodeFrame sampleFrame = .ok (Host.cobsEncode (Host.rawFrame sampleFrame) ++ [0]) := by
    decide +kernel
  obtain ⟨hdecoded, hshares⟩ := (decodedFrame_sharesLimit_iff _ _).2 hencoded
  exact ⟨hshares, (decodedFrame_sharesLimit_iff _ _).1 hdecoded⟩

/-- One byte more than a segment may carry. -/
def oversizedFrame : Host.WireFrame := ⟨.request, 1, 0, 1, List.replicate 4077 0, 1⟩

/-- The decoder accepts what the encoder refuses. -/
theorem oversizedFrame_decoded :
    Host.decodeFrame (Host.cobsEncode (Host.rawFrame oversizedFrame)) = .ok oversizedFrame ∧
      Host.encodeFrame oversizedFrame = .error (.bridgeWire "segment exceeds decoded transport frame limit") ∧
      (Host.rawFrame oversizedFrame).length = 4097 := by
  have hpayload : oversizedFrame.payload.length = 4077 := List.length_replicate
  have hlength : (Host.rawFrame oversizedFrame).length = 4097 := by
    rw [Host.rawFrame_length, hpayload]
    rfl
  have hpackable : oversizedFrame.Packable := ⟨rfl, by decide, by decide, by decide, by decide, by decide, by omega⟩
  have hstuffed := stuff_length_le (Host.rawFrame oversizedFrame)
  have hlast : (stuff (Host.rawFrame oversizedFrame)).getLast? ≠ some 0 :=
    fun h => zero_not_mem_stuff _ (List.mem_of_getLast? h)
  have hunstuffed := Host.cobsDecode_cobsEncode (Host.rawFrame oversizedFrame)
  have hfits : ¬(stuff (Host.rawFrame oversizedFrame)).length > Host.maxCobsFrame := by
    simp only [Host.maxCobsFrame, Host.maxTransportFrame]
    omega
  refine ⟨?_, ?_, hlength⟩
  · rw [Host.cobsEncode_eq_stuff] at hunstuffed ⊢
    rw [Host.decodeFrame, if_neg hlast, if_neg hfits, hunstuffed, Host.Except.ok_bind,
      Host.decodeRawFrame_of_packable hpackable]
  · have hlarge : oversizedFrame.payload.length > Host.maxSegmentPayload := by
      rw [hpayload]
      decide
    have hsegments : ¬¬(0 ≤ oversizedFrame.segmentIndex ∧
        oversizedFrame.segmentIndex < oversizedFrame.segmentCount ∧
        oversizedFrame.segmentCount ≤ 0xFFFF) := by decide
    have hid : ¬¬(0 ≤ oversizedFrame.requestId ∧ oversizedFrame.requestId ≤ 0xFFFFFFFF) := by decide
    have hversion : ¬oversizedFrame.wireVersion ≠ Host.bridgeWireVersion := by decide
    rw [Host.encodeFrame, if_neg hversion, if_neg hid, if_neg hsegments, if_pos hlarge]

end JLinkMcp
