import JLinkMcp.FirmwareReceiver
import JLinkMcp.HostMessage

namespace JLinkMcp.Firmware

open Codec

/-- Both sides cut the header at the same places. -/
theorem ofBytes_eq_unpackHeader (decoded : Bytes) :
    FrameHeader.ofBytes decoded =
      let header := Host.unpackHeader decoded
      ⟨header.magic, header.version, header.messageType, header.requestId, header.segmentIndex,
        header.segmentCount, header.payloadLength, header.expectedCrc⟩ := rfl

section frame

variable {frame : Host.WireFrame} (encodable : frame.Encodable)

include encodable

theorem ofBytes_rawFrame :
    FrameHeader.ofBytes (Host.rawFrame frame) =
      ⟨kMagic, 1, frame.messageType.value, frame.requestId.toNat, frame.segmentIndex.toNat,
        frame.segmentCount.toNat, frame.payload.length,
        Host.crc32 ((Host.rawFrame frame).take Host.headerWithoutCrcSize ++ frame.payload)⟩ := by
  rw [ofBytes_eq_unpackHeader, Host.unpackHeader_rawFrame encodable, encodable.version]
  rfl

theorem bytesBeforeCrc_rawFrame :
    (FrameHeader.ofBytes (Host.rawFrame frame)).bytesBeforeCrc =
      (Host.rawFrame frame).take Host.headerWithoutCrcSize := by
  rw [ofBytes_rawFrame encodable, Host.rawFrame, List.append_assoc, List.take_left' (by simp),
    encodable.version]
  rfl

theorem decoded_stuff_rawFrame {rx : Receiver} (h : rx.encodedInput = stuff (Host.rawFrame frame)) :
    rx.decoded = Host.rawFrame frame := by
  have hp := encodable.payload_le
  have hl := Host.rawFrame_length frame
  rw [Receiver.decoded, h, cobsDecode_eq_fitted, unstuff_stuff, Option.elim_some, fitted_of_le]
  simp only [Host.maxSegmentPayload, Host.maxTransportFrame, Host.headerSize,
    kMaxDecodedFrame] at *
  omega

theorem validHeader_rawFrame (request : frame.messageType = .request) :
    validHeader (Host.rawFrame frame) = true := by
  have hb := bytesBeforeCrc_rawFrame encodable
  have hd : (Host.rawFrame frame).drop sizeofFrameHeader = frame.payload := Host.rawFrame_drop frame
  have hl := Host.rawFrame_length frame
  have hi := encodable.index_lt
  have hi0 := encodable.index_nonneg
  simp only [validHeader, hd, frameCrc_eq_crcFrom, hb]
  rw [ofBytes_rawFrame encodable]
  simp only [Host.crc32, List.take_length, kWireVersion, request, hl, sizeofFrameHeader,
    Host.headerSize, Bool.and_eq_true, decide_eq_true_eq, and_true]
  exact ⟨⟨⟨⟨trivial, rfl⟩, by omega⟩, by omega⟩, by omega⟩

end frame

/-- A zero-free run that fits is only stored. -/
theorem receive_fitting_run {run : Bytes} (free : (0 : UInt8) ∉ run) {rx : Receiver}
    (room : rx.encodedInput.length + run.length ≤ kEncodedCapacity) :
    receive rx run = ({ rx with encodedInput := rx.encodedInput ++ run }, []) := by
  induction run generalizing rx with
  | nil => simp [receive]
  | cons b run ih =>
    simp only [List.mem_cons, not_or, List.length_cons] at free room
    have hb : receiveByte rx b = ({ rx with encodedInput := rx.encodedInput ++ [b] }, []) := by
      rw [receiveByte, if_neg (Ne.symm free.1), if_neg (by omega)]
    rw [receive, hb]
    simp only
    rw [ih free.2 (by simp only [List.length_append, List.length_singleton]; omega)]
    simp

theorem receive_frame {run : Bytes} (free : (0 : UInt8) ∉ run) (nonempty : run ≠ [])
    (fits : run.length ≤ kEncodedCapacity) {rx : Receiver} (empty : rx.encodedInput = []) :
    receive rx (run ++ [0]) = consumeFrame { rx with encodedInput := run } := by
  rw [receive_append, receive_fitting_run free (by simpa [empty] using fits)]
  simp [receive, receiveByte, empty, nonempty]

/-- The receiver between two frames of a message, the first `done` of them stored; before the
first frame anything may be left over. -/
structure Holding (rx : Receiver) (r : Nat) (frames : List Host.WireFrame) (done : Nat) : Prop where
  empty : rx.encodedInput = []
  assembly : done ≠ 0 → rx.assemblyRequestId = r ∧ rx.assemblySegmentCount = frames.length ∧
    rx.assemblyNextSegment = done ∧
    rx.messageAssembly = (frames.take done).flatMap Host.WireFrame.payload

theorem flatMap_take_succ {frames : List Host.WireFrame} {i : Nat} {frame : Host.WireFrame}
    (hf : frames[i]? = some frame) :
    (frames.take (i + 1)).flatMap Host.WireFrame.payload =
      (frames.take i).flatMap Host.WireFrame.payload ++ frame.payload := by
  rw [List.take_add_one, hf]
  simp

section message

variable {payload : Bytes} (short : payload.length ≤ kMaxMessage) {r : Nat} (hr : r < 2 ^ 32)

theorem length_flatMap_take_le (i : Nat) :
    ((Host.messageFrames payload .request r).take i |>.flatMap Host.WireFrame.payload).length ≤
      payload.length := by
  have hp := Host.messageFrames_payload payload .request r
  conv => rhs; rw [← hp, ← List.take_append_drop i (Host.messageFrames payload .request r)]
  rw [List.flatMap_append, List.length_append]
  omega

include short hr in
theorem requestFrame_encodable {i : Nat} {frame : Host.WireFrame}
    (hf : (Host.messageFrames payload .request r)[i]? = some frame) : frame.Encodable :=
  Host.messageFrames_encodable short .request (by omega) (by omega) (List.mem_of_getElem? hf)

/-- Opening at the first frame of the message, or going on where the frames held so far end. -/
theorem opened_of_holding {i : Nat} {frame : Host.WireFrame}
    (hf : (Host.messageFrames payload .request r)[i]? = some frame) (encodable : frame.Encodable)
    {rx : Receiver} (held : Holding rx r (Host.messageFrames payload .request r) i)
    (encoded : Bytes) (hd : ({ rx with encodedInput := encoded } : Receiver).decoded =
      Host.rawFrame frame) :
    ({ rx with encodedInput := encoded } : Receiver).opened =
      ⟨[], ((Host.messageFrames payload .request r).take i).flatMap Host.WireFrame.payload, r,
        (Host.messageFrames payload .request r).length, i⟩ := by
  obtain ⟨chunk, _, rfl⟩ := Host.messageFrames_getElem? hf
  rw [Receiver.opened, hd, ofBytes_rawFrame encodable, openAssembly]
  by_cases hi : i = 0
  · subst hi
    simp [clearAssembly]
  · obtain ⟨hid, hcount, hnext, hasm⟩ := held.assembly hi
    rw [if_neg (by simpa using hi), hid, hcount, hnext, hasm]

include short hr in
/-- The next frame of the message is stored behind the frames held so far. -/
theorem consumeFrame_message_frame {i : Nat} {frame : Host.WireFrame}
    (hf : (Host.messageFrames payload .request r)[i]? = some frame) {rx : Receiver}
    (held : Holding rx r (Host.messageFrames payload .request r) i) :
    let frames := Host.messageFrames payload .request r
    let encoded := stuff (Host.rawFrame frame)
    consumeFrame { rx with encodedInput := encoded } =
      if i + 1 = frames.length then (Receiver.powerUp, [.consumed encoded, .dispatched r payload])
      else (⟨[], (frames.take (i + 1)).flatMap Host.WireFrame.payload, r, frames.length, i + 1⟩,
        [.consumed encoded]) := by
  intro frames encoded
  let rx' : Receiver := { rx with encodedInput := encoded }
  have encodable := requestFrame_encodable short hr hf
  have hbound : i < frames.length := (List.getElem?_eq_some_iff.mp hf).1
  have hn : frames.length ≤ 17 := by
    rw [Host.messageFrames_length]
    exact Host.messageChunks_length_le short
  have hd : rx'.decoded = Host.rawFrame frame := decoded_stuff_rawFrame encodable rfl
  have hdrop : (Host.rawFrame frame).drop sizeofFrameHeader = frame.payload := Host.rawFrame_drop frame
  have hopened : rx'.opened = _ := opened_of_holding hf encodable held _ hd
  have htake := flatMap_take_succ hf
  obtain ⟨chunk, _, hframe⟩ := Host.messageFrames_getElem? hf
  have hcontinues : continuesAssembly rx'.opened (FrameHeader.ofBytes rx'.decoded) := by
    have htotal := @length_flatMap_take_le payload r (i + 1)
    rw [htake, List.length_append, hframe] at htotal
    rw [hopened, hd, ofBytes_rawFrame encodable, continuesAssembly]
    simp only [hframe, Int.toNat_natCast, Host.messageFrames_length, decide_true, Bool.true_and,
      decide_eq_true_eq] at htotal ⊢
    omega
  have hstored : rx'.stored =
      ⟨[], (frames.take (i + 1)).flatMap Host.WireFrame.payload, r, frames.length, i + 1⟩ := by
    rw [Receiver.stored, hopened, hd, hdrop, appendSegment, htake]
    simp only [Receiver.mk.injEq, true_and]
    exact ⟨rfl, Nat.mod_eq_of_lt (by omega)⟩
  have hlong : sizeofFrameHeader ≤ rx'.decoded.length := by
    rw [hd, Host.rawFrame_length]
    exact Nat.le_add_right _ _
  have hvalid : validHeader rx'.decoded := by
    rw [hd]
    exact validHeader_rawFrame encodable (by rw [hframe])
  have hconsume := consumeFrame_of_continues hlong hvalid hcontinues
  rw [hstored] at hconsume
  refine hconsume.trans ?_
  split
  next last =>
    have last : i + 1 = frames.length := last
    have hall : (frames.take (i + 1)).flatMap Host.WireFrame.payload = payload := by
      rw [last, List.take_length, Host.messageFrames_payload]
    simp only [hall]
    rfl
  next => rfl

include short hr in
/-- The rest of a message, received while its first frames are held. -/
theorem receive_message_rest {todo done : Nat} {rx : Receiver}
    (hdone : done + todo = (Host.messageFrames payload .request r).length) (pos : todo ≠ 0)
    (held : Holding rx r (Host.messageFrames payload .request r) done) :
    let frames := Host.messageFrames payload .request r
    let encoded := fun frame => stuff (Host.rawFrame frame)
    receive rx (terminated 0 ((frames.drop done).map encoded)) =
      (Receiver.powerUp,
        ((frames.drop done).map fun frame => .consumed (encoded frame)) ++ [.dispatched r payload]) := by
  intro frames encoded
  induction todo generalizing rx done with
  | zero => exact absurd rfl pos
  | succ todo ih =>
    have hdone : done + (todo + 1) = frames.length := hdone
    have hlt : done < frames.length := by omega
    have hf : frames[done]? = some frames[done] := List.getElem?_eq_getElem hlt
    have hlen := Host.stuff_rawFrame_length_le (requestFrame_encodable short hr hf)
    have hfits : (encoded frames[done]).length ≤ kEncodedCapacity := by
      simp only [kEncodedCapacity, kMaxDecodedFrame, Host.maxTransportFrame, encoded] at *
      omega
    have hframe : receive rx (encoded frames[done] ++ [0]) =
        if done + 1 = frames.length then
          (Receiver.powerUp, [.consumed (encoded frames[done]), .dispatched r payload])
        else (⟨[], (frames.take (done + 1)).flatMap Host.WireFrame.payload, r, frames.length, done + 1⟩,
          [.consumed (encoded frames[done])]) :=
      (receive_frame (zero_not_mem_stuff _) (stuffFrom_ne_nil [] _) hfits held.empty).trans
        (consumeFrame_message_frame short hr hf held)
    have hrest : terminated 0 ((frames.drop done).map encoded) =
        (encoded frames[done] ++ [0]) ++ terminated 0 ((frames.drop (done + 1)).map encoded) := by
      rw [List.drop_eq_getElem_cons hlt, List.map_cons, terminated_cons]
      simp
    rw [hrest, receive_append, hframe, List.drop_eq_getElem_cons hlt]
    split
    next last =>
      have last : done + 1 = frames.length := last
      simp [last, receive, encoded]
    next more =>
      have more : done + 1 ≠ frames.length := more
      have h := @ih (done + 1)
        ⟨[], (frames.take (done + 1)).flatMap Host.WireFrame.payload, r, frames.length, done + 1⟩
        (by omega) (by omega) ⟨rfl, fun _ => ⟨rfl, rfl, rfl, rfl⟩⟩
      simp only [h, List.map_cons, List.cons_append, List.nil_append]

include short hr in
/-- A host message reaches `dispatch` once, as its last byte arrives. -/
theorem receive_encodeMessage {stream : Bytes} (encoded : Host.encodeMessage payload .request r = .ok stream)
    {rx : Receiver} (empty : rx.encodedInput = []) :
    receive rx stream =
      (Receiver.powerUp,
        ((Host.messageFrames payload .request r).map fun frame => .consumed (stuff (Host.rawFrame frame))) ++
          [.dispatched r payload]) := by
  rw [Host.encodeMessage_eq_terminated short .request (by omega) (by omega)] at encoded
  rw [← Except.ok.inj encoded]
  have hpos : (Host.messageFrames payload .request r).length ≠ 0 := by
    rw [Host.messageFrames_length, Host.messageChunks_length]
    exact Nat.ne_of_gt (Nat.le_max_left _ _)
  exact receive_message_rest short hr (Nat.zero_add _) hpos ⟨empty, fun h => absurd rfl h⟩

end message

/-- However the stream of a host request is cut into calls and whatever assembly was left open
before it, the request is dispatched once and the receiver is left as at power-up. -/
theorem receiveCalls_encodeMessage (payload : Bytes) (short : payload.length ≤ kMaxMessage) (r : Nat)
    (hr : r < 2 ^ 32) :
    ∃ stream, Host.encodeMessage payload .request r = .ok stream ∧
      ∀ rx : Receiver, rx.encodedInput = [] → ∀ calls : List Bytes, calls.flatten = stream →
        dispatchedRequests (receiveCalls rx calls).2 = [(r, payload)] ∧
        rejectedRequests (receiveCalls rx calls).2 = [] ∧
        (receiveCalls rx calls).1 = Receiver.powerUp := by
  have hstream := Host.encodeMessage_eq_terminated short .request (r := r) (by omega) (by omega)
  refine ⟨_, hstream, fun rx empty calls cut => ?_⟩
  rw [receiveCalls_eq_receive, cut, receive_encodeMessage short hr hstream empty]
  simp [dispatchedRequests, rejectedRequests, List.filterMap_append]

theorem receiveCalls_encodeMessage_stale :
    ∃ stream, Host.encodeMessage [1, 0] .request 7 = .ok stream ∧
      dispatchedRequests (receiveCalls ⟨[], [5, 6], 7, 3, 1⟩ [stream.take 3, [], stream.drop 3]).2 =
        [(7, [1, 0])] := by
  obtain ⟨stream, hstream, h⟩ := receiveCalls_encodeMessage [1, 0] (by decide) 7 (by decide)
  exact ⟨stream, hstream, (h _ rfl _ (by simp)).1⟩

end JLinkMcp.Firmware
