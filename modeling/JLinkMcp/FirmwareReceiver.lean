import JLinkMcp.CodecDelimited
import JLinkMcp.FirmwareWire

namespace JLinkMcp.Firmware

open Codec

/-- The static variables of the receive path. The lists hold `encoded_input` below
`encoded_length` and `message_assembly` below `assembly_length`. -/
structure Receiver where
  encodedInput : Bytes
  messageAssembly : Bytes
  assemblyRequestId : Nat
  assemblySegmentCount : Nat
  assemblyNextSegment : Nat
  deriving DecidableEq, Repr

def Receiver.powerUp : Receiver := ⟨[], [], 0, 0, 0⟩

/-- What the receive path does besides changing its variables. -/
inductive ReceiverEvent where
  | consumed (encoded : Bytes)
  | dispatched (requestId : Nat) (body : Bytes)
  | rejected (requestId : Nat) (message : String)
  deriving DecidableEq, Repr

def clearAssembly (rx : Receiver) : Receiver :=
  { rx with
    messageAssembly := []
    assemblyRequestId := 0
    assemblySegmentCount := 0
    assemblyNextSegment := 0 }

/-- The first check of `consumeFrame` on a decoded frame of at least a header's size. -/
def validHeader (decoded : Bytes) : Bool :=
  let header := FrameHeader.ofBytes decoded
  header.magic = kMagic && header.wireVersion = kWireVersion && header.messageType = REQUEST &&
    header.segmentCount ≠ 0 && header.segmentIndex < header.segmentCount &&
    header.payloadLength = decoded.length - sizeofFrameHeader &&
    (frameCrc header (decoded.drop sizeofFrameHeader)).toNat = header.crc32

/-- The variables before the second check: a first segment opens a new assembly. -/
def openAssembly (rx : Receiver) (header : FrameHeader) : Receiver :=
  if header.segmentIndex = 0 then
    { clearAssembly rx with
      assemblyRequestId := header.requestId
      assemblySegmentCount := header.segmentCount }
  else rx

/-- The second check: the segment continues the open assembly and fits its buffer. -/
def continuesAssembly (rx : Receiver) (header : FrameHeader) : Bool :=
  header.requestId = rx.assemblyRequestId && header.segmentCount = rx.assemblySegmentCount &&
    header.segmentIndex = rx.assemblyNextSegment &&
    header.payloadLength ≤ kMaxMessage - rx.messageAssembly.length

def appendSegment (rx : Receiver) (payload : Bytes) : Receiver :=
  { rx with
    messageAssembly := rx.messageAssembly ++ payload
    assemblyNextSegment := (rx.assemblyNextSegment + 1) % 2 ^ 16 }

def consumeFrame (rx : Receiver) : Receiver × List ReceiverEvent :=
  let decoded := cobsDecode rx.encodedInput kMaxDecodedFrame
  let consumed := ReceiverEvent.consumed rx.encodedInput
  let rx := { rx with encodedInput := [] }
  if decoded.length < sizeofFrameHeader then (rx, [consumed])
  else
    let header := FrameHeader.ofBytes decoded
    if validHeader decoded then
      let rx := openAssembly rx header
      if continuesAssembly rx header then
        let rx := appendSegment rx (decoded.drop sizeofFrameHeader)
        if rx.assemblyNextSegment = rx.assemblySegmentCount then
          (clearAssembly rx, [consumed, .dispatched rx.assemblyRequestId rx.messageAssembly])
        else (rx, [consumed])
      else
        (clearAssembly rx,
          [consumed, .rejected header.requestId "stale or out-of-order bridge segment"])
    else (clearAssembly rx, [consumed, .rejected header.requestId "invalid bridge frame"])

/-- One round of the `while` in `loop()`. -/
def receiveByte (rx : Receiver) (value : UInt8) : Receiver × List ReceiverEvent :=
  if value = 0 then if rx.encodedInput ≠ [] then consumeFrame rx else (rx, [])
  else if rx.encodedInput.length ≥ kEncodedCapacity then
    (clearAssembly { rx with encodedInput := [] }, [])
  else ({ rx with encodedInput := rx.encodedInput ++ [value] }, [])

/-- The `while` of one call of `loop()` over the bytes available to it. -/
def receive (rx : Receiver) : Bytes → Receiver × List ReceiverEvent
  | [] => (rx, [])
  | value :: available =>
    let first := receiveByte rx value
    let rest := receive first.1 available
    (rest.1, first.2 ++ rest.2)

/-- Successive calls of `loop()`, each with the bytes available to it. -/
def receiveCalls (rx : Receiver) : List Bytes → Receiver × List ReceiverEvent
  | [] => (rx, [])
  | available :: calls =>
    let first := receive rx available
    let rest := receiveCalls first.1 calls
    (rest.1, first.2 ++ rest.2)

/-- The frames handed to `consumeFrame`, in order. -/
def consumedFrames (events : List ReceiverEvent) : List Bytes :=
  events.filterMap fun
    | .consumed encoded => some encoded
    | _ => none

/-- The arguments of the calls of `dispatch`, in order. -/
def dispatchedRequests (events : List ReceiverEvent) : List (Nat × Bytes) :=
  events.filterMap fun
    | .dispatched requestId body => some (requestId, body)
    | _ => none

/-- The receiver's own error responses, in order. -/
def rejectedRequests (events : List ReceiverEvent) : List (Nat × String) :=
  events.filterMap fun
    | .rejected requestId message => some (requestId, message)
    | _ => none

@[simp] theorem consumedFrames_append (xs ys : List ReceiverEvent) :
    consumedFrames (xs ++ ys) = consumedFrames xs ++ consumedFrames ys := by
  simp [consumedFrames]

@[simp] theorem dispatchedRequests_append (xs ys : List ReceiverEvent) :
    dispatchedRequests (xs ++ ys) = dispatchedRequests xs ++ dispatchedRequests ys := by
  simp [dispatchedRequests]

theorem receive_append (rx : Receiver) (xs ys : Bytes) :
    receive rx (xs ++ ys) =
      ((receive (receive rx xs).1 ys).1, (receive rx xs).2 ++ (receive (receive rx xs).1 ys).2) := by
  induction xs generalizing rx with
  | nil => simp [receive]
  | cons x xs ih => simp [receive, ih]

/-- However the stream is cut into calls, the receiver sees its bytes in a row. -/
theorem receiveCalls_eq_receive (rx : Receiver) (calls : List Bytes) :
    receiveCalls rx calls = receive rx calls.flatten := by
  induction calls generalizing rx with
  | nil => rfl
  | cons available calls ih => simp [receiveCalls, ih, receive_append]

/-- What remains of a zero-free run of bytes in `encoded_input`: every 4117th byte empties it. -/
def keptOf (run : Bytes) : Bytes :=
  run.drop ((kEncodedCapacity + 1) * (run.length / (kEncodedCapacity + 1)))

theorem keptOf_length (run : Bytes) : (keptOf run).length = run.length % (kEncodedCapacity + 1) := by
  rw [keptOf, List.length_drop, Nat.mod_eq_sub_mul_div]

theorem keptOf_eq_self {run : Bytes} (short : run.length ≤ kEncodedCapacity) : keptOf run = run := by
  rw [keptOf, Nat.div_eq_of_lt (by omega)]
  simp

theorem keptOf_append_of_full {run : Bytes} (full : (keptOf run).length ≥ kEncodedCapacity)
    (b : UInt8) : keptOf (run ++ [b]) = [] := by
  rw [keptOf_length] at full
  apply List.length_eq_zero_iff.mp
  rw [keptOf_length, List.length_append, List.length_singleton]
  simp only [kEncodedCapacity, kMaxDecodedFrame] at *
  omega

theorem keptOf_append_of_room {run : Bytes} (room : ¬(keptOf run).length ≥ kEncodedCapacity)
    (b : UInt8) : keptOf (run ++ [b]) = keptOf run ++ [b] := by
  rw [keptOf_length] at room
  have hq : (run.length + 1) / (kEncodedCapacity + 1) = run.length / (kEncodedCapacity + 1) := by
    simp only [kEncodedCapacity, kMaxDecodedFrame] at *
    omega
  have hle : (kEncodedCapacity + 1) * (run.length / (kEncodedCapacity + 1)) ≤ run.length :=
    Nat.mul_div_le _ _
  rw [keptOf, keptOf, List.length_append, List.length_singleton, hq,
    List.drop_append_of_le_length hle]

/-- Zero-free bytes only fill the buffer; nothing is parsed or answered before the zero. -/
theorem receive_zero_free {more : Bytes} (free : (0 : UInt8) ∉ more) {rx : Receiver} {run : Bytes}
    (held : rx.encodedInput = keptOf run) :
    (receive rx more).1.encodedInput = keptOf (run ++ more) ∧ (receive rx more).2 = [] := by
  induction more generalizing rx run with
  | nil => simp [receive, held]
  | cons b more ih =>
    simp only [List.mem_cons, not_or] at free
    have hb : b ≠ 0 := Ne.symm free.1
    by_cases full : (keptOf run).length ≥ kEncodedCapacity
    · have hrx : receiveByte rx b = (clearAssembly { rx with encodedInput := [] }, []) := by
        rw [receiveByte, if_neg hb, if_pos (by rw [held]; exact full)]
      have h := @ih free.2 (clearAssembly { rx with encodedInput := [] }) (run ++ [b])
        (by simp [clearAssembly, keptOf_append_of_full full])
      simpa [receive, hrx] using h
    · have hrx : receiveByte rx b = ({ rx with encodedInput := keptOf run ++ [b] }, []) := by
        rw [receiveByte, if_neg hb, if_neg (by rw [held]; exact full), held]
      have h := @ih free.2 { rx with encodedInput := keptOf run ++ [b] } (run ++ [b])
        (by simp [keptOf_append_of_room full])
      simpa [receive, hrx] using h

@[simp] theorem clearAssembly_encodedInput (rx : Receiver) :
    (clearAssembly rx).encodedInput = rx.encodedInput := rfl

@[simp] theorem openAssembly_encodedInput (rx : Receiver) (header : FrameHeader) :
    (openAssembly rx header).encodedInput = rx.encodedInput := by
  unfold openAssembly
  split <;> rfl

@[simp] theorem appendSegment_encodedInput (rx : Receiver) (payload : Bytes) :
    (appendSegment rx payload).encodedInput = rx.encodedInput := rfl

theorem clearAssembly_openAssembly (rx : Receiver) (header : FrameHeader) :
    clearAssembly (openAssembly rx header) = clearAssembly rx := by
  unfold openAssembly
  split <;> rfl

/-- What `consumeFrame` reads from its frame. -/
def Receiver.decoded (rx : Receiver) : Bytes := cobsDecode rx.encodedInput kMaxDecodedFrame

/-- The variables once the frame is taken and its first segment has opened an assembly. -/
def Receiver.opened (rx : Receiver) : Receiver :=
  openAssembly { rx with encodedInput := [] } (FrameHeader.ofBytes rx.decoded)

/-- The variables once the payload is stored. -/
def Receiver.stored (rx : Receiver) : Receiver :=
  appendSegment rx.opened (rx.decoded.drop sizeofFrameHeader)

/-- Everything `consumeFrame` can do. -/
inductive Consumed (rx : Receiver) : Receiver × List ReceiverEvent → Prop where
  | undecodable (short : rx.decoded.length < sizeofFrameHeader) :
      Consumed rx ({ rx with encodedInput := [] }, [.consumed rx.encodedInput])
  | refused (message : String) (long : sizeofFrameHeader ≤ rx.decoded.length) :
      Consumed rx (clearAssembly { rx with encodedInput := [] }, [.consumed rx.encodedInput,
        .rejected (FrameHeader.ofBytes rx.decoded).requestId message])
  | stored (long : sizeofFrameHeader ≤ rx.decoded.length) (valid : validHeader rx.decoded)
      (continues : continuesAssembly rx.opened (FrameHeader.ofBytes rx.decoded))
      (more : rx.stored.assemblyNextSegment ≠ rx.stored.assemblySegmentCount) :
      Consumed rx (rx.stored, [.consumed rx.encodedInput])
  | completed (long : sizeofFrameHeader ≤ rx.decoded.length) (valid : validHeader rx.decoded)
      (continues : continuesAssembly rx.opened (FrameHeader.ofBytes rx.decoded))
      (last : rx.stored.assemblyNextSegment = rx.stored.assemblySegmentCount) :
      Consumed rx (clearAssembly { rx with encodedInput := [] }, [.consumed rx.encodedInput,
        .dispatched rx.stored.assemblyRequestId rx.stored.messageAssembly])

theorem clearAssembly_stored (rx : Receiver) :
    clearAssembly rx.stored = clearAssembly { rx with encodedInput := [] } := by
  calc clearAssembly rx.stored = clearAssembly rx.opened := rfl
    _ = clearAssembly { rx with encodedInput := [] } := clearAssembly_openAssembly _ _

theorem consumeFrame_cases (rx : Receiver) : Consumed rx (consumeFrame rx) := by
  simp only [consumeFrame]
  split
  next short => exact .undecodable short
  next long =>
    have long : sizeofFrameHeader ≤ rx.decoded.length := Nat.le_of_not_lt long
    split
    next valid =>
      split
      next continues =>
        split
        next last =>
          have h := Consumed.completed long valid continues last
          rwa [← clearAssembly_stored] at h
        next more => exact .stored long valid continues more
      next =>
        rw [clearAssembly_openAssembly]
        exact .refused _ long
    next => exact .refused _ long

theorem consumeFrame_of_continues {rx : Receiver} (long : sizeofFrameHeader ≤ rx.decoded.length)
    (valid : validHeader rx.decoded)
    (continues : continuesAssembly rx.opened (FrameHeader.ofBytes rx.decoded)) :
    consumeFrame rx =
      if rx.stored.assemblyNextSegment = rx.stored.assemblySegmentCount then
        (clearAssembly { rx with encodedInput := [] }, [.consumed rx.encodedInput,
          .dispatched rx.stored.assemblyRequestId rx.stored.messageAssembly])
      else (rx.stored, [.consumed rx.encodedInput]) := by
  have long' : ¬(cobsDecode rx.encodedInput kMaxDecodedFrame).length < sizeofFrameHeader :=
    Nat.not_lt.mpr long
  have valid' : validHeader (cobsDecode rx.encodedInput kMaxDecodedFrame) = true := valid
  rw [← clearAssembly_stored]
  simp only [consumeFrame]
  rw [if_neg long', if_pos valid']
  exact if_pos continues

theorem consumeFrame_encodedInput (rx : Receiver) : (consumeFrame rx).1.encodedInput = [] := by
  have h := consumeFrame_cases rx
  generalize consumeFrame rx = out at h ⊢
  cases h <;> simp [Receiver.stored, Receiver.opened]

theorem consumedFrames_consumeFrame (rx : Receiver) :
    consumedFrames (consumeFrame rx).2 = [rx.encodedInput] := by
  have h := consumeFrame_cases rx
  generalize consumeFrame rx = out at h ⊢
  cases h <;> rfl

theorem receiveByte_zero (rx : Receiver) :
    (receiveByte rx 0).1.encodedInput = [] ∧
      consumedFrames (receiveByte rx 0).2 = [rx.encodedInput].filter (· ≠ []) := by
  by_cases h : rx.encodedInput = []
  · simp [receiveByte, h, consumedFrames]
  · simp [receiveByte, h, consumeFrame_encodedInput, consumedFrames_consumeFrame]

/-- The frames handed over on a row of terminated runs: what is kept of each, when not empty. -/
theorem consumedFrames_receive_terminated {runs : List Bytes} (free : ∀ run ∈ runs, (0 : UInt8) ∉ run)
    {rx : Receiver} (empty : rx.encodedInput = []) :
    (receive rx (terminated 0 runs)).1.encodedInput = [] ∧
      consumedFrames (receive rx (terminated 0 runs)).2 = (runs.map keptOf).filter (· ≠ []) := by
  induction runs generalizing rx with
  | nil => simp [receive, empty, consumedFrames]
  | cons run runs ih =>
    have hrun := @receive_zero_free run (free run (by simp)) rx [] (by simp [empty, keptOf])
    rw [List.nil_append] at hrun
    have hzero := receiveByte_zero (receive rx run).1
    have h := ih (fun r hr => free r (by simp [hr])) hzero.1
    rw [terminated_cons, receive_append]
    simp only [receive, hrun.2, List.nil_append, consumedFrames_append, hzero.2, hrun.1, h.2, h.1,
      List.map_cons, List.filter_cons, true_and]
    split <;> simp

end JLinkMcp.Firmware
