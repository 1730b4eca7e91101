import JLinkMcp.CodecDelimited
import JLinkMcp.CodecSegments
import JLinkMcp.HostFrame

namespace JLinkMcp.Host

open Codec

/-- The slices of the payload, or one empty chunk. -/
def messageChunks (payload : Bytes) : List Bytes :=
  if segments maxSegmentPayload payload = [] then [[]] else segments maxSegmentPayload payload

def messageFrames (payload : Bytes) (messageType : MessageType) (requestId : Int) :
    List WireFrame :=
  let chunks := messageChunks payload
  chunks.mapIdx fun index chunk =>
    { messageType := messageType
      requestId := requestId
      segmentIndex := index
      segmentCount := chunks.length
      payload := chunk }

def encodeMessage (payload : Bytes) (messageType : MessageType) (requestId : Int) :
    Except PyError Bytes :=
  if payload.length > maxBridgePayload then
    .error (.bridgeWire "message exceeds the 64 KiB assembly limit")
  else (List.flatten ·) <$> (messageFrames payload messageType requestId).mapM encodeFrame

def decodeStream (data : Bytes) : Except PyError (List WireFrame) :=
  if data ≠ [] ∧ data.getLast? ≠ some 0 then
    .error (.bridgeWire "bridge response ended with a partial COBS frame")
  else ((data.splitOn 0).filter (· ≠ [])).mapM decodeFrame

/-- The checks of the loop over `enumerate(frames)`. -/
def checkFrames (expectedRequest : Int) (expectedType : MessageType) (count : Int) :
    Nat → List WireFrame → Except PyError Unit
  | _, [] => .ok ()
  | index, frame :: frames =>
    if frame.requestId ≠ expectedRequest ∨ frame.messageType ≠ expectedType ∨
        frame.segmentCount ≠ count ∨ frame.segmentIndex ≠ index then
      .error (.bridgeSequence "stale, mismatched, or out-of-order response")
    else checkFrames expectedRequest expectedType count (index + 1) frames

def reassembleFrames (frames : List WireFrame) (requestId : Option Int)
    (messageType : Option MessageType) : Except PyError Bytes :=
  match frames with
  | [] => .error (.bridgeSequence "response contained no complete frames")
  | first :: _ =>
    let expectedRequest := requestId.getD first.requestId
    let expectedType := messageType.getD first.messageType
    let count := first.segmentCount
    if (frames.length : Int) ≠ count then
      .error (.bridgeSequence s!"response has {frames.length} of {count} required segments")
    else (checkFrames expectedRequest expectedType count 0 frames).bind fun _ =>
      let payload := frames.flatMap WireFrame.payload
      if payload.length > maxBridgePayload then
        .error (.bridgeSequence "assembled response exceeds 64 KiB")
      else .ok payload

theorem messageChunks_length (payload : Bytes) :
    (messageChunks payload).length =
      max 1 ((payload.length + maxSegmentPayload - 1) / maxSegmentPayload) := by
  have hl := segments_length maxSegmentPayload payload
  unfold messageChunks
  split
  next h =>
    simp only [h, List.length_nil] at hl
    simp [← hl]
  next h =>
    have := List.length_pos_iff.mpr h
    omega

theorem messageChunks_flatten (payload : Bytes) : (messageChunks payload).flatten = payload := by
  have hf := @flatten_segments _ maxSegmentPayload (by decide) payload
  unfold messageChunks
  split
  next h => simpa [h] using hf
  next => exact hf

theorem length_le_of_mem_messageChunks {payload chunk : Bytes}
    (h : chunk ∈ messageChunks payload) : chunk.length ≤ maxSegmentPayload := by
  unfold messageChunks at h
  split at h
  next =>
    rw [List.mem_singleton] at h
    simp [h]
  next => exact length_le_of_mem_segments h

@[simp] theorem messageFrames_length (payload : Bytes) (t : MessageType) (r : Int) :
    (messageFrames payload t r).length = (messageChunks payload).length := by
  simp [messageFrames]

theorem messageFrames_getElem? {payload : Bytes} {t : MessageType} {r : Int} {i : Nat}
    {frame : WireFrame} (h : (messageFrames payload t r)[i]? = some frame) :
    ∃ chunk, (messageChunks payload)[i]? = some chunk ∧
      frame = ⟨t, r, i, (messageChunks payload).length, chunk, bridgeWireVersion⟩ := by
  simp only [messageFrames, List.getElem?_mapIdx, Option.map_eq_some_iff] at h
  obtain ⟨chunk, hc, rfl⟩ := h
  exact ⟨chunk, hc, rfl⟩

theorem messageFrames_payload (payload : Bytes) (t : MessageType) (r : Int) :
    (messageFrames payload t r).flatMap WireFrame.payload = payload := by
  have h : (messageFrames payload t r).map WireFrame.payload = messageChunks payload := by
    apply List.ext_getElem?
    intro i
    simp [messageFrames, Function.comp_def]
  rw [List.flatMap, h, messageChunks_flatten]

section message

variable {payload : Bytes} (short : payload.length ≤ maxBridgePayload) (t : MessageType) {r : Int}
  (id_nonneg : 0 ≤ r) (id_le : r ≤ 0xFFFFFFFF)

include short in
theorem messageChunks_length_le : (messageChunks payload).length ≤ 17 := by
  rw [messageChunks_length]
  simp only [maxBridgePayload, maxSegmentPayload, maxTransportFrame, headerSize] at *
  omega

include short id_nonneg id_le in
theorem messageFrames_encodable {frame : WireFrame} (h : frame ∈ messageFrames payload t r) :
    frame.Encodable := by
  obtain ⟨i, hi⟩ := List.mem_iff_getElem?.mp h
  obtain ⟨chunk, hc, rfl⟩ := messageFrames_getElem? hi
  have hb := (List.getElem?_eq_some_iff.mp hc).1
  have hn := messageChunks_length_le short
  exact ⟨rfl, id_nonneg, id_le, by simp, by simpa using hb, by simp only; omega,
    length_le_of_mem_messageChunks (List.mem_of_getElem? hc)⟩

include short id_nonneg id_le in
/-- The stream of a message: one stuffed frame after another, each closed by a zero. -/
theorem encodeMessage_eq_terminated :
    encodeMessage payload t r =
      .ok (terminated 0 ((messageFrames payload t r).map fun f => stuff (rawFrame f))) := by
  have hm : (messageFrames payload t r).mapM encodeFrame =
      .ok ((messageFrames payload t r).map fun f => stuff (rawFrame f) ++ [0]) :=
    Except.mapM_ok fun f hf =>
      encodeFrame_of_encodable (messageFrames_encodable short t id_nonneg id_le hf)
  rw [encodeMessage, if_neg (by omega), hm]
  simp [terminated, List.flatMap]
  rfl

/-- Decoding a row of stuffed frames finds them all, in order. -/
theorem decodeStream_terminated {frames : List WireFrame} (h : ∀ f ∈ frames, f.Encodable) :
    decodeStream (terminated 0 (frames.map fun f => stuff (rawFrame f))) = .ok frames := by
  have hs := @splitOn_terminated UInt8 _ _ 0 (frames.map fun f => stuff (rawFrame f)) []
    (by simp only [List.mem_map]; rintro _ ⟨f, _, rfl⟩; exact zero_not_mem_stuff _) (by simp)
  rw [List.append_nil] at hs
  have hf : ((frames.map fun f => stuff (rawFrame f)) ++ [[]]).filter (· ≠ []) =
      frames.map fun f => stuff (rawFrame f) := by
    have hne : ∀ f : WireFrame, stuff (rawFrame f) ≠ [] := fun f => stuffFrom_ne_nil [] _
    simp [List.filter_append, List.filter_eq_self, hne]
  have hm : (frames.map fun f => stuff (rawFrame f)).mapM decodeFrame = .ok frames :=
    Except.mapM_map_ok fun f hf => decodeFrame_stuff (h f hf)
  unfold decodeStream
  rw [hs, hf, hm]
  split
  next hc =>
    have hne : (frames.map fun f => stuff (rawFrame f)) ≠ [] := fun hn => hc.1 (by simp [hn])
    exact absurd (terminated_getLast? 0 hne) hc.2
  next => rfl

include short id_nonneg id_le in
theorem decodeStream_encodeMessage {stream : Bytes} (h : encodeMessage payload t r = .ok stream) :
    decodeStream stream = .ok (messageFrames payload t r) := by
  rw [encodeMessage_eq_terminated short t id_nonneg id_le] at h
  rw [← Except.ok.inj h]
  exact decodeStream_terminated fun f hf => messageFrames_encodable short t id_nonneg id_le hf

include short id_nonneg id_le in
/-- A payload that fits makes a stream of at least one byte and at most 128 KiB. -/
theorem encodeMessage_length :
    ∃ stream, encodeMessage payload t r = .ok stream ∧ stream ≠ [] ∧ stream.length ≤ 128 * 1024 := by
  have hcount := messageChunks_length_le short
  have hpos : 0 < (messageFrames payload t r).length := by
    rw [messageFrames_length, messageChunks_length]
    omega
  refine ⟨_, encodeMessage_eq_terminated short t id_nonneg id_le, ?_, ?_⟩
  · obtain ⟨frame, frames, hframes⟩ := List.exists_cons_of_length_pos hpos
    rw [hframes, List.map_cons, terminated_cons]
    simp
  · have hbound : ∀ chunk ∈ (messageFrames payload t r).map fun f => stuff (rawFrame f),
        chunk.length ≤ maxCobsFrame := by
      intro chunk hchunk
      obtain ⟨frame, hframe, rfl⟩ := List.mem_map.mp hchunk
      have hlen := stuff_rawFrame_length_le (messageFrames_encodable short t id_nonneg id_le hframe)
      simp only [maxCobsFrame]
      omega
    have hlen := @terminated_length_le _ 0 _ _ hbound
    rw [List.length_map, messageFrames_length] at hlen
    exact Nat.le_trans hlen (Nat.le_trans (Nat.mul_le_mul_right _ hcount) (by decide))

end message

end JLinkMcp.Host
