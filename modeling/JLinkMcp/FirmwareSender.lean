import JLinkMcp.FirmwareWire
import JLinkMcp.HostMessage

namespace JLinkMcp.Firmware

open Codec

def kSegmentPayload : Nat := kMaxDecodedFrame - sizeofFrameHeader

/-- The `segment_count` of `sendMessage`, cast to `uint16_t`. -/
def segmentCount (bodyLength : Nat) : Nat :=
  max 1 ((bodyLength + kSegmentPayload - 1) / kSegmentPayload % 2 ^ 16)

/-- `frame_output` after the second `memcpy` of one round of `sendMessage`. -/
def segmentFrame (requestId messageType : Nat) (body : Bytes) (count segment : Nat) : Bytes :=
  let offset := segment * kSegmentPayload
  let payloadLength :=
    min kSegmentPayload (if body.length > offset then body.length - offset else 0) % 2 ^ 16
  let payload := (body.drop offset).take payloadLength
  let header : FrameHeader :=
    ⟨kMagic, kWireVersion, messageType, requestId, segment, count, payloadLength, 0⟩
  { header with crc32 := (frameCrc header payload).toNat }.bytes ++ payload

/-- The rounds of `sendMessage`; an encoding of length zero ends them. -/
def sendSegments (requestId messageType : Nat) (body : Bytes) (count : Nat) : List Nat → Bytes
  | [] => []
  | segment :: segments =>
    let encoded := cobsEncode (segmentFrame requestId messageType body count segment)
      kEncodedCapacity
    if encoded = [] then []
    else encoded ++ 0 :: sendSegments requestId messageType body count segments

/-- The bytes `sendMessage` writes to `Serial`. -/
def sendMessage (requestId messageType : Nat) (body : Bytes) : Bytes :=
  sendSegments requestId messageType body (segmentCount body.length)
    (List.range (segmentCount body.length))

/-- The frame a round stands for. -/
def sentFrame (requestId : Nat) (t : Host.MessageType) (body : Bytes) (segment : Nat) :
    Host.WireFrame :=
  ⟨t, requestId, segment, segmentCount body.length,
    (body.drop (segment * kSegmentPayload)).take kSegmentPayload, Host.bridgeWireVersion⟩

theorem segmentCount_eq {bodyLength : Nat} (short : bodyLength ≤ kMaxMessage) :
    segmentCount bodyLength = max 1 ((bodyLength + kSegmentPayload - 1) / kSegmentPayload) := by
  simp only [segmentCount, kMaxMessage, kSegmentPayload, kMaxDecodedFrame, sizeofFrameHeader] at *
  omega

theorem messageChunks_eq_range (body : Bytes) :
    Host.messageChunks body =
      (List.range (max 1 ((body.length + kSegmentPayload - 1) / kSegmentPayload))).map fun i =>
        (body.drop (i * kSegmentPayload)).take kSegmentPayload := by
  have hk : Host.maxSegmentPayload = kSegmentPayload := rfl
  have hl := segments_length kSegmentPayload body
  rw [Host.messageChunks, hk]
  by_cases h : segments kSegmentPayload body = []
  · have hb := @flatten_segments _ kSegmentPayload (by decide) body
    rw [h] at hl hb
    simp only [List.length_nil, List.flatten_nil] at hl hb
    subst hb
    rw [if_pos h, ← hl]
    rfl
  · have := List.length_pos_iff.mpr h
    rw [if_neg h, Nat.max_eq_right (by omega)]
    rfl

theorem messageFrames_eq_range {body : Bytes} (short : body.length ≤ kMaxMessage)
    (t : Host.MessageType) (r : Nat) :
    Host.messageFrames body t r =
      (List.range (segmentCount body.length)).map (sentFrame r t body) := by
  have hc : (Host.messageChunks body).length = segmentCount body.length := by
    rw [segmentCount_eq short, messageChunks_eq_range]
    simp
  apply List.ext_getElem?
  intro i
  simp only [Host.messageFrames, List.getElem?_mapIdx, hc]
  rw [messageChunks_eq_range, ← segmentCount_eq short]
  cases h : (List.range (segmentCount body.length))[i]? with
  | none => simp [h]
  | some j =>
    have hj : j = i := by
      obtain ⟨hlt, hv⟩ := List.getElem?_eq_some_iff.mp h
      simpa using hv.symm
    subst hj
    simp [h, sentFrame]

/-- A round builds the host's unstuffed frame. -/
theorem segmentFrame_eq_rawFrame {body : Bytes} (t : Host.MessageType) (r segment : Nat) :
    segmentFrame r t.value body (segmentCount body.length) segment =
      Host.rawFrame (sentFrame r t body segment) := by
  have hlen : min kSegmentPayload
      (if body.length > segment * kSegmentPayload then body.length - segment * kSegmentPayload
        else 0) % 2 ^ 16 =
      ((body.drop (segment * kSegmentPayload)).take kSegmentPayload).length := by
    rw [List.length_take, List.length_drop, Nat.mod_eq_of_lt]
    · split <;> omega
    · simp only [kSegmentPayload, kMaxDecodedFrame, sizeofFrameHeader]
      omega
  have htake : (body.drop (segment * kSegmentPayload)).take
      ((body.drop (segment * kSegmentPayload)).take kSegmentPayload).length =
      (body.drop (segment * kSegmentPayload)).take kSegmentPayload := by
    rw [List.length_take, List.take_eq_take_iff]
    omega
  simp only [segmentFrame, hlen, htake, frameCrc_eq_crcFrom, FrameHeader.bytes,
    FrameHeader.bytesBeforeCrc, List.take_length]
  rfl

theorem sentFrame_encodable {body : Bytes} (short : body.length ≤ kMaxMessage)
    (t : Host.MessageType) {r segment : Nat} (hr : r < 2 ^ 32)
    (hs : segment < segmentCount body.length) : (sentFrame r t body segment).Encodable := by
  apply @Host.messageFrames_encodable body short t r (by omega) (by omega)
  rw [messageFrames_eq_range short]
  exact List.mem_map_of_mem (List.mem_range.mpr hs)

theorem cobsEncode_segmentFrame {body : Bytes} (short : body.length ≤ kMaxMessage)
    (t : Host.MessageType) {r segment : Nat} (hr : r < 2 ^ 32)
    (hs : segment < segmentCount body.length) :
    cobsEncode (segmentFrame r t.value body (segmentCount body.length) segment) kEncodedCapacity =
      stuff (Host.rawFrame (sentFrame r t body segment)) := by
  have hl := Host.stuff_rawFrame_length_le (sentFrame_encodable short t hr hs)
  rw [segmentFrame_eq_rawFrame, cobsEncode_eq_fitted, fitted_of_le]
  simp only [kEncodedCapacity, kMaxDecodedFrame, Host.maxTransportFrame] at *
  omega

theorem sendSegments_eq_terminated {body : Bytes} (short : body.length ≤ kMaxMessage)
    (t : Host.MessageType) {r : Nat} (hr : r < 2 ^ 32) {rounds : List Nat}
    (hs : ∀ segment ∈ rounds, segment < segmentCount body.length) :
    sendSegments r t.value body (segmentCount body.length) rounds =
      terminated 0 (rounds.map fun s => stuff (Host.rawFrame (sentFrame r t body s))) := by
  induction rounds with
  | nil => rfl
  | cons segment rounds ih =>
    have hc := cobsEncode_segmentFrame short t hr (hs segment (by simp))
    have hne : stuff (Host.rawFrame (sentFrame r t body segment)) ≠ [] := stuffFrom_ne_nil [] _
    simp only [sendSegments, hc, if_neg hne, List.map_cons, terminated_cons]
    rw [ih fun s h => hs s (by simp [h])]

/-- The firmware writes the host's bytes, and no round of it returns early. -/
theorem sendMessage_eq_encodeMessage (body : Bytes) (short : body.length ≤ kMaxMessage)
    (t : Host.MessageType) (r : Nat) (hr : r < 2 ^ 32) :
    Host.encodeMessage body t r = .ok (sendMessage r t.value body) ∧
      ∀ segment, segment < segmentCount body.length →
        cobsEncode (segmentFrame r t.value body (segmentCount body.length) segment)
          kEncodedCapacity ≠ [] := by
  constructor
  · rw [Host.encodeMessage_eq_terminated short t (by omega) (by omega),
      messageFrames_eq_range short, sendMessage,
      sendSegments_eq_terminated short t hr fun s h => List.mem_range.mp h, List.map_map]
    rfl
  · intro segment hs
    rw [cobsEncode_segmentFrame short t hr hs]
    exact stuffFrom_ne_nil [] _

theorem sendMessage_eq_encodeMessage_response :
    Host.encodeMessage [1, 0] .response 7 = .ok (sendMessage 7 RESPONSE [1, 0]) :=
  (sendMessage_eq_encodeMessage [1, 0] (by decide) .response 7 (by decide)).1

end JLinkMcp.Firmware
