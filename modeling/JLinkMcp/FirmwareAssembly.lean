import JLinkMcp.FirmwareReceiver

namespace JLinkMcp.Firmware

open Codec

/-- The payload a frame carries behind its header. -/
def segmentPayload (encoded : Bytes) : Bytes :=
  (cobsDecode encoded kMaxDecodedFrame).drop sizeofFrameHeader

/-- A frame that carries segment `i` of the `n` segments of request `r`, with a matching CRC. -/
structure IsSegment (encoded : Bytes) (r n i : Nat) : Prop where
  long : sizeofFrameHeader ≤ (cobsDecode encoded kMaxDecodedFrame).length
  messageType : (FrameHeader.ofBytes (cobsDecode encoded kMaxDecodedFrame)).messageType = REQUEST
  requestId : (FrameHeader.ofBytes (cobsDecode encoded kMaxDecodedFrame)).requestId = r
  segmentCount : (FrameHeader.ofBytes (cobsDecode encoded kMaxDecodedFrame)).segmentCount = n
  segmentIndex : (FrameHeader.ofBytes (cobsDecode encoded kMaxDecodedFrame)).segmentIndex = i
  crc32 : (frameCrc (FrameHeader.ofBytes (cobsDecode encoded kMaxDecodedFrame))
    (segmentPayload encoded)).toNat = (FrameHeader.ofBytes (cobsDecode encoded kMaxDecodedFrame)).crc32

/-- The frames at these places of the received row carry the segments from 0 on of one request of
`n` segments, in order, and the body is what they carry. -/
def AssembledFrom (frames : List Bytes) (indices : List Nat) (r n : Nat) (body : Bytes) : Prop :=
  ∃ used : List Bytes, indices.map (frames[·]?) = used.map some ∧ body = used.flatMap segmentPayload ∧
    ∀ i encoded, used[i]? = some encoded → IsSegment encoded r n i

theorem assembledFrom_nil (frames : List Bytes) (r n : Nat) : AssembledFrom frames [] r n [] :=
  ⟨[], rfl, rfl, by simp⟩

/-- Frames received later do not change what was assembled. -/
theorem AssembledFrom.mono {frames : List Bytes} {indices : List Nat} {r n : Nat} {body : Bytes}
    (h : AssembledFrom frames indices r n body) (more : List Bytes) :
    AssembledFrom (frames ++ more) indices r n body := by
  obtain ⟨used, hused, hbody, hseg⟩ := h
  refine ⟨used, ?_, hbody, hseg⟩
  rw [← hused]
  apply List.map_congr_left
  intro i hi
  have hmem : frames[i]? ∈ used.map some := hused ▸ List.mem_map_of_mem hi
  obtain ⟨encoded, _, he⟩ := List.mem_map.mp hmem
  have hlt := (List.getElem?_eq_some_iff.mp he.symm).1
  exact List.getElem?_append_left hlt

theorem AssembledFrom.snoc {frames : List Bytes} {indices : List Nat} {r n : Nat} {body : Bytes}
    (h : AssembledFrom frames indices r n body) {i : Nat} {encoded : Bytes}
    (hi : frames[i]? = some encoded) (segment : IsSegment encoded r n indices.length) :
    AssembledFrom frames (indices ++ [i]) r n (body ++ segmentPayload encoded) := by
  obtain ⟨used, hused, rfl, hseg⟩ := h
  have hlen : indices.length = used.length := by simpa using congrArg List.length hused
  refine ⟨used ++ [encoded], by simp [hused, hi], by simp, ?_⟩
  intro j e hj
  by_cases hlt : j < used.length
  · rw [List.getElem?_append_left hlt] at hj
    exact hseg j e hj
  · rw [List.getElem?_append_right (by omega)] at hj
    obtain ⟨hz, he⟩ := List.getElem?_eq_some_iff.mp hj
    simp only [List.length_singleton] at hz
    have hje : j = indices.length := by omega
    simp only [List.getElem_singleton] at he
    exact hje ▸ he ▸ segment

/-- A call of `dispatch` with the places of the frames its body came from. -/
structure TracedRequest where
  indices : List Nat
  requestId : Nat
  body : Bytes

/-- The bounds of the static buffers and counters. -/
structure WithinBounds (rx : Receiver) : Prop where
  assembly_le : rx.messageAssembly.length ≤ kMaxMessage
  next_le : rx.assemblyNextSegment ≤ rx.assemblySegmentCount
  count_lt : rx.assemblySegmentCount < 2 ^ 16

/-- What holds of the receiver after the events so far: `traced` are its dispatches, `current`
the places of the frames of the open assembly. -/
structure Tracked (rx : Receiver) (events : List ReceiverEvent) (traced : List TracedRequest)
    (current : List Nat) : Prop where
  ordered : (traced.flatMap TracedRequest.indices ++ current).Pairwise (· < ·)
  received : ∀ i ∈ traced.flatMap TracedRequest.indices ++ current, i < (consumedFrames events).length
  dispatched : dispatchedRequests events = traced.map fun t => (t.requestId, t.body)
  assembled : ∀ t ∈ traced, t.indices ≠ [] ∧
    AssembledFrom (consumedFrames events) t.indices t.requestId t.indices.length t.body
  held : AssembledFrom (consumedFrames events) current rx.assemblyRequestId rx.assemblySegmentCount
    rx.messageAssembly
  next : rx.assemblyNextSegment = current.length
  bounds : WithinBounds rx

namespace Tracked

variable {rx : Receiver} {events : List ReceiverEvent} {traced : List TracedRequest}
  {current : List Nat} (h : Tracked rx events traced current)

include h

theorem input (encodedInput : Bytes) :
    Tracked { rx with encodedInput := encodedInput } events traced current :=
  ⟨h.ordered, h.received, h.dispatched, h.assembled, h.held, h.next, ⟨h.bounds.1, h.bounds.2, h.bounds.3⟩⟩

theorem consumed (encoded : Bytes) : Tracked rx (events ++ [.consumed encoded]) traced current := by
  have hc : consumedFrames (events ++ [.consumed encoded]) = consumedFrames events ++ [encoded] := by
    rw [consumedFrames_append]
    rfl
  have hd : dispatchedRequests (events ++ [.consumed encoded]) = dispatchedRequests events := by
    rw [dispatchedRequests_append]
    exact List.append_nil _
  refine ⟨h.ordered, ?_, hd ▸ h.dispatched, ?_, hc ▸ h.held.mono _, h.next, h.bounds⟩
  · intro i hi
    have := h.received i hi
    rw [hc, List.length_append]
    omega
  · intro t ht
    exact ⟨(h.assembled t ht).1, hc ▸ (h.assembled t ht).2.mono _⟩

theorem rejected (r : Nat) (message : String) :
    Tracked rx (events ++ [.rejected r message]) traced current := by
  have hc : consumedFrames (events ++ [.rejected r message]) = consumedFrames events := by
    rw [consumedFrames_append]
    exact List.append_nil _
  have hd : dispatchedRequests (events ++ [.rejected r message]) = dispatchedRequests events := by
    rw [dispatchedRequests_append]
    exact List.append_nil _
  exact ⟨h.ordered, hc ▸ h.received, hd ▸ h.dispatched, hc ▸ h.assembled, hc ▸ h.held, h.next, h.bounds⟩

/-- An assembly may be dropped at any time. -/
theorem dropped {rx' : Receiver} (hbody : rx'.messageAssembly = []) (hnext : rx'.assemblyNextSegment = 0)
    (hcount : rx'.assemblySegmentCount < 2 ^ 16) : Tracked rx' events traced [] := by
  have hsub : (traced.flatMap TracedRequest.indices ++ []).Sublist
      (traced.flatMap TracedRequest.indices ++ current) := List.Sublist.append_left (List.nil_sublist _) _
  refine ⟨h.ordered.sublist hsub, fun i hi => h.received i (hsub.subset hi), h.dispatched, h.assembled,
    hbody ▸ assembledFrom_nil _ _ _, hnext, ⟨by simp [hbody], by omega, hcount⟩⟩

theorem cleared : Tracked (clearAssembly rx) events traced [] :=
  h.dropped rfl rfl (by simp [clearAssembly])

theorem opened (header : FrameHeader) (hcount : header.segmentCount < 2 ^ 16) :
    ∃ current', Tracked (openAssembly rx header) events traced current' := by
  unfold openAssembly
  split
  next => exact ⟨[], h.dropped rfl rfl hcount⟩
  next => exact ⟨current, h⟩

/-- The frame taken last continues the open assembly. -/
theorem appended {encoded : Bytes}
    (segment : IsSegment encoded rx.assemblyRequestId rx.assemblySegmentCount rx.assemblyNextSegment)
    (hnext : rx.assemblyNextSegment < rx.assemblySegmentCount)
    (hroom : (segmentPayload encoded).length ≤ kMaxMessage - rx.messageAssembly.length) :
    Tracked (appendSegment rx (segmentPayload encoded)) (events ++ [.consumed encoded]) traced
      (current ++ [(consumedFrames events).length]) := by
  have hbounds := h.bounds
  have hlast : (consumedFrames (events ++ [.consumed encoded]))[(consumedFrames events).length]? =
      some encoded := by
    rw [consumedFrames_append, List.getElem?_append_right (Nat.le_refl _), Nat.sub_self]
    rfl
  have hmod : (rx.assemblyNextSegment + 1) % 2 ^ 16 = rx.assemblyNextSegment + 1 :=
    Nat.mod_eq_of_lt (by have := hbounds.count_lt; omega)
  have later := h.consumed encoded
  refine ⟨?_, ?_, later.dispatched, later.assembled, ?_, ?_, ⟨?_, ?_, hbounds.count_lt⟩⟩
  · rw [← List.append_assoc, List.pairwise_append]
    refine ⟨h.ordered, List.pairwise_singleton _ _, fun i hi j hj => ?_⟩
    rw [List.mem_singleton.mp hj]
    exact h.received i hi
  · intro i hi
    rw [← List.append_assoc, List.mem_append, List.mem_singleton] at hi
    rcases hi with hi | rfl
    · exact later.received i hi
    · exact (List.getElem?_eq_some_iff.mp hlast).1
  · exact later.held.snoc hlast (h.next ▸ segment)
  · rw [List.length_append, List.length_singleton, ← h.next]
    exact hmod
  · have hle := hbounds.assembly_le
    simp only [appendSegment, List.length_append]
    omega
  · simp only [appendSegment, hmod]
    exact hnext

/-- The open assembly has its last segment: it is dispatched and dropped. -/
theorem completed (hpos : rx.assemblyNextSegment ≠ 0)
    (hlast : rx.assemblyNextSegment = rx.assemblySegmentCount) :
    Tracked (clearAssembly rx)
      (events ++ [.dispatched rx.assemblyRequestId rx.messageAssembly])
      (traced ++ [⟨current, rx.assemblyRequestId, rx.messageAssembly⟩]) [] := by
  have hc : consumedFrames (events ++ [.dispatched rx.assemblyRequestId rx.messageAssembly]) =
      consumedFrames events := by
    rw [consumedFrames_append]
    exact List.append_nil _
  refine ⟨?_, ?_, ?_, ?_, assembledFrom_nil _ _ _, rfl, ⟨by simp [clearAssembly], ?_, ?_⟩⟩
  · simpa using h.ordered
  · simpa [hc] using h.received
  · rw [dispatchedRequests_append, h.dispatched, List.map_append]
    rfl
  · intro t ht
    rw [hc]
    rcases List.mem_append.mp ht with ht | ht
    · exact h.assembled t ht
    · rw [List.mem_singleton.mp ht]
      have hlen : current.length = rx.assemblySegmentCount := by rw [← h.next, hlast]
      have hne : current ≠ [] := fun hnil => hpos (by rw [h.next, hnil]; rfl)
      exact ⟨hne, hlen ▸ h.held⟩
  · exact Nat.le_refl _
  · simp [clearAssembly]

end Tracked

theorem segmentCount_lt (bytes : Bytes) : (FrameHeader.ofBytes bytes).segmentCount < 2 ^ 16 :=
  leNat_take_lt 2 _

/-- What `continuesAssembly` and `validHeader` say of the segment. -/
theorem isSegment_of_continues {rx : Receiver} (long : sizeofFrameHeader ≤ rx.decoded.length)
    (valid : validHeader rx.decoded)
    (continues : continuesAssembly rx.opened (FrameHeader.ofBytes rx.decoded)) :
    IsSegment rx.encodedInput rx.opened.assemblyRequestId rx.opened.assemblySegmentCount
        rx.opened.assemblyNextSegment ∧
      rx.opened.assemblyNextSegment < rx.opened.assemblySegmentCount ∧
      (segmentPayload rx.encodedInput).length ≤ kMaxMessage - rx.opened.messageAssembly.length := by
  simp only [validHeader, Bool.and_eq_true, decide_eq_true_eq] at valid
  simp only [continuesAssembly, Bool.and_eq_true, decide_eq_true_eq] at continues
  obtain ⟨⟨⟨⟨⟨⟨_, _⟩, htype⟩, _⟩, hindex⟩, hlength⟩, hcrc⟩ := valid
  obtain ⟨⟨⟨hid, hcount⟩, hnext⟩, hroom⟩ := continues
  refine ⟨⟨long, htype, hid, hcount, hnext, hcrc⟩, by omega, ?_⟩
  have hp : (segmentPayload rx.encodedInput).length = rx.decoded.length - sizeofFrameHeader :=
    List.length_drop
  omega

theorem Tracked.stored {rx : Receiver} {events : List ReceiverEvent} {traced : List TracedRequest}
    {current : List Nat} (h : Tracked rx events traced current)
    (long : sizeofFrameHeader ≤ rx.decoded.length) (valid : validHeader rx.decoded)
    (continues : continuesAssembly rx.opened (FrameHeader.ofBytes rx.decoded)) :
    ∃ current', Tracked rx.stored (events ++ [.consumed rx.encodedInput]) traced current' := by
  obtain ⟨current', hopen⟩ := (h.input []).opened (FrameHeader.ofBytes rx.decoded) (segmentCount_lt _)
  obtain ⟨segment, hnext, hroom⟩ := isSegment_of_continues long valid continues
  exact ⟨_, Tracked.appended hopen segment hnext hroom⟩

theorem tracked_consumeFrame {rx : Receiver} {events : List ReceiverEvent}
    {traced : List TracedRequest} {current : List Nat} (h : Tracked rx events traced current) :
    ∃ traced' current', Tracked (consumeFrame rx).1 (events ++ (consumeFrame rx).2) traced' current' := by
  have hcases := consumeFrame_cases rx
  generalize consumeFrame rx = out at hcases ⊢
  cases hcases with
  | undecodable short => exact ⟨_, _, (h.consumed _).input _⟩
  | refused message long =>
    have h := (((h.consumed rx.encodedInput).rejected
      (FrameHeader.ofBytes rx.decoded).requestId message).input []).cleared
    rw [List.append_assoc] at h
    exact ⟨_, _, h⟩
  | stored long valid continues more =>
    obtain ⟨current', h⟩ := h.stored long valid continues
    exact ⟨_, _, h⟩
  | completed long valid continues last =>
    obtain ⟨current', h⟩ := h.stored long valid continues
    have hpos : rx.stored.assemblyNextSegment ≠ 0 := by
      obtain ⟨_, hnext, _⟩ := isSegment_of_continues long valid continues
      have hcount : rx.stored.assemblySegmentCount = rx.opened.assemblySegmentCount := rfl
      omega
    have h := h.completed hpos last
    rw [clearAssembly_stored, List.append_assoc] at h
    exact ⟨_, _, h⟩

theorem tracked_receiveByte {rx : Receiver} {events : List ReceiverEvent}
    {traced : List TracedRequest} {current : List Nat} (h : Tracked rx events traced current)
    (value : UInt8) :
    ∃ traced' current',
      Tracked (receiveByte rx value).1 (events ++ (receiveByte rx value).2) traced' current' := by
  unfold receiveByte
  split
  next =>
    split
    next => exact tracked_consumeFrame h
    next => exact ⟨_, _, by simpa using h⟩
  next =>
    split
    next => exact ⟨_, _, by simpa using (h.input []).cleared⟩
    next => exact ⟨_, _, by simpa using h.input _⟩

theorem tracked_receive {rx : Receiver} {events : List ReceiverEvent} {traced : List TracedRequest}
    {current : List Nat} (h : Tracked rx events traced current) (available : Bytes) :
    ∃ traced' current',
      Tracked (receive rx available).1 (events ++ (receive rx available).2) traced' current' := by
  induction available generalizing rx events traced current with
  | nil => exact ⟨_, _, by simpa [receive] using h⟩
  | cons value available ih =>
    obtain ⟨traced', current', h⟩ := tracked_receiveByte h value
    obtain ⟨traced', current', h⟩ := ih h
    exact ⟨_, _, by simpa [receive] using h⟩

theorem tracked_powerUp : Tracked Receiver.powerUp [] [] [] :=
  ⟨List.Pairwise.nil, by simp, rfl, by simp, assembledFrom_nil _ _ _, rfl,
    ⟨by simp [Receiver.powerUp], by decide, by decide⟩⟩

theorem tracked_receiveCalls (calls : List Bytes) :
    ∃ traced current, Tracked (receiveCalls Receiver.powerUp calls).1
      (receiveCalls Receiver.powerUp calls).2 traced current := by
  rw [receiveCalls_eq_receive]
  exact tracked_receive tracked_powerUp calls.flatten

/-- From power-up, every dispatched body is put together from the segments of one request, in the
order they were received, no frame serves twice, and the buffers keep their bounds, also between
the assignments of one `consumeFrame`. -/
theorem receiveCalls_assembly_safe (calls : List Bytes) :
    let rx := (receiveCalls Receiver.powerUp calls).1
    let events := (receiveCalls Receiver.powerUp calls).2
    (∃ traced : List TracedRequest,
      dispatchedRequests events = traced.map (fun t => (t.requestId, t.body)) ∧
      (traced.flatMap TracedRequest.indices).Pairwise (· < ·) ∧
      ∀ t ∈ traced, t.indices ≠ [] ∧
        AssembledFrom (consumedFrames events) t.indices t.requestId t.indices.length t.body) ∧
    WithinBounds rx ∧ WithinBounds rx.opened ∧
    (sizeofFrameHeader ≤ rx.decoded.length → validHeader rx.decoded →
      continuesAssembly rx.opened (FrameHeader.ofBytes rx.decoded) → WithinBounds rx.stored) := by
  intro rx events
  obtain ⟨traced, current, h⟩ := tracked_receiveCalls calls
  refine ⟨⟨traced, h.dispatched, ?_, h.assembled⟩, h.bounds, ?_, ?_⟩
  · exact (List.pairwise_append.mp h.ordered).1
  · obtain ⟨_, hopened⟩ := (h.input []).opened (FrameHeader.ofBytes rx.decoded) (segmentCount_lt _)
    exact hopened.bounds
  · intro long valid continues
    obtain ⟨_, hstored⟩ := h.stored long valid continues
    exact hstored.bounds

end JLinkMcp.Firmware
