import JLinkMcp.CodecRing
import JLinkMcp.FirmwareWire

namespace JLinkMcp.Firmware

open Codec

def PROTO_UART : Nat := 2
def PROTO_CAN : Nat := 3
def PROTO_USB : Nat := 4
def PROTO_WIFI : Nat := 5
def PROTO_BLE : Nat := 6
def PROTO_GPIO : Nat := 7

/-- The labels bridge requests may take: D2 to D10 and D22 to D85. -/
def safeDynamicPin (pin : Nat) : Bool := (2 ≤ pin && pin ≤ 10) || (22 ≤ pin && pin ≤ 85)

/-- The owner of every pin; zero is none. -/
structure PinResources where
  owners : Nat → Nat

namespace PinResources

def init : PinResources := ⟨fun _ => 0⟩

def setOwner (resources : PinResources) (pin owner : Nat) : PinResources :=
  ⟨fun p => if p = pin then owner else resources.owners p⟩

/-- `owners_[pin] != 0 && owners_[pin] != owner` -/
def takenFrom (resources : PinResources) (pin owner : Nat) : Bool :=
  resources.owners pin ≠ 0 && resources.owners pin ≠ owner

/-- `none` is `false`. -/
def claim (resources : PinResources) (pin owner : Nat) : Option PinResources :=
  if !safeDynamicPin pin || owner = 0 then none
  else if resources.takenFrom pin owner then none
  else some (resources.setOwner pin owner)

def claimPair (resources : PinResources) (first second owner : Nat) : Option PinResources :=
  if !safeDynamicPin first || !safeDynamicPin second || owner = 0 then none
  else if resources.takenFrom first owner || resources.takenFrom second owner then none
  else some ((resources.setOwner first owner).setOwner second owner)

section claims

variable {resources pins : PinResources} {pin first second owner : Nat}

theorem setOwner_self (resources : PinResources) (pin owner : Nat) :
    (resources.setOwner pin owner).owners pin = owner := if_pos rfl

theorem setOwner_ne (resources : PinResources) {pin p : Nat} (owner : Nat) (ne : p ≠ pin) :
    (resources.setOwner pin owner).owners p = resources.owners p := if_neg ne

theorem takenFrom_eq_false : resources.takenFrom pin owner = false ↔
    resources.owners pin = 0 ∨ resources.owners pin = owner := by
  simp only [takenFrom, Bool.and_eq_false_iff, decide_eq_false_iff_not, not_not]

theorem claim_eq_some (h : resources.claim pin owner = some pins) :
    safeDynamicPin pin = true ∧ owner ≠ 0 ∧
      (resources.owners pin = 0 ∨ resources.owners pin = owner) ∧
      pins = resources.setOwner pin owner := by
  unfold claim at h
  split at h
  next => cases h
  next hsafe =>
    simp only [Bool.or_eq_true, Bool.not_eq_true', decide_eq_true_eq, not_or, Bool.not_eq_false] at hsafe
    split at h
    next => cases h
    next htaken =>
      exact ⟨hsafe.1, hsafe.2, takenFrom_eq_false.mp (Bool.eq_false_iff.mpr htaken),
        (Option.some.inj h).symm⟩

theorem claimPair_eq_some (h : resources.claimPair first second owner = some pins) :
    safeDynamicPin first = true ∧ safeDynamicPin second = true ∧ owner ≠ 0 ∧
      (resources.owners first = 0 ∨ resources.owners first = owner) ∧
      (resources.owners second = 0 ∨ resources.owners second = owner) ∧
      pins = (resources.setOwner first owner).setOwner second owner := by
  unfold claimPair at h
  split at h
  next => cases h
  next hsafe =>
    simp only [Bool.or_eq_true, Bool.not_eq_true', decide_eq_true_eq, not_or, Bool.not_eq_false] at hsafe
    split at h
    next => cases h
    next htaken =>
      simp only [Bool.or_eq_true, not_or, Bool.not_eq_true] at htaken
      exact ⟨hsafe.1.1, hsafe.1.2, hsafe.2, takenFrom_eq_false.mp htaken.1,
        takenFrom_eq_false.mp htaken.2, (Option.some.inj h).symm⟩

end claims

end PinResources

def kQueueCount : Nat := 6
def kStorageSize : Nat := 64 * 1024
def kSliceSize : Nat := kStorageSize / kQueueCount
def sizeofQueueRecordHeader : Nat := 11

/-- The arguments of a `push` after the protocol. The length is a `uint16_t`. -/
structure QueueRecord where
  channel : UInt8
  payload : Bytes
  timestampUs : UInt64
  short : payload.length < 2 ^ 16

/-- The bytes of a packed `QueueRecordHeader`. -/
def QueueRecord.header (record : QueueRecord) : Bytes :=
  record.channel :: (leBytes 2 record.payload.length ++ leBytes 8 record.timestampUs.toNat)

structure Queue where
  head : Nat
  tail : Nat
  used : Nat
  overflow : Nat
  deriving DecidableEq, Repr

structure SharedReceiveQueue where
  storage : Nat → UInt8
  queues : Fin kQueueCount → Queue

namespace SharedReceiveQueue

def init : SharedReceiveQueue := ⟨fun _ => 0, fun _ => ⟨0, 0, 0, 0⟩⟩

/-- The place of the protocol's queue in `queues_`. -/
def select (protocol : Nat) : Option (Fin kQueueCount) :=
  if h : PROTO_UART ≤ protocol ∧ protocol ≤ PROTO_GPIO then
    some ⟨protocol - PROTO_UART, by simp only [PROTO_UART, PROTO_GPIO, kQueueCount] at *; omega⟩
  else none

def offset (queue : Fin kQueueCount) (relative : Nat) : Nat := queue.val * kSliceSize + relative

/-- The loop of `write`: the storage and `head` after it. -/
def writeLoop (queue : Fin kQueueCount) (storage : Nat → UInt8) (head : Nat) :
    Bytes → (Nat → UInt8) × Nat
  | [] => (storage, head)
  | value :: data =>
    writeLoop queue (Function.update storage (offset queue head) value) ((head + 1) % kSliceSize) data

def write (q : SharedReceiveQueue) (queue : Fin kQueueCount) (data : Bytes) : SharedReceiveQueue :=
  let out := writeLoop queue q.storage (q.queues queue).head data
  { storage := out.1
    queues := Function.update q.queues queue
      { q.queues queue with
        head := out.2
        used := (q.queues queue).used + data.length } }

def copy (queue : Fin kQueueCount) (storage : Nat → UInt8) (source destination : Nat) :
    Nat → Nat → UInt8
  | 0 => storage
  | length + 1 =>
    copy queue (Function.update storage (offset queue destination) (storage (offset queue source)))
      ((source + 1) % kSliceSize) ((destination + 1) % kSliceSize) length

def peek (queue : Fin kQueueCount) (storage : Nat → UInt8) (cursor : Nat) : Nat → Bytes
  | 0 => []
  | length + 1 => storage (offset queue cursor) :: peek queue storage ((cursor + 1) % kSliceSize) length

def push (q : SharedReceiveQueue) (protocol : Nat) (record : QueueRecord) : SharedReceiveQueue × Bool :=
  match select protocol with
  | none => (q, false)
  | some queue =>
    if sizeofQueueRecordHeader + record.payload.length > kSliceSize - (q.queues queue).used then
      ({ q with
          queues := Function.update q.queues queue
            { q.queues queue with overflow := ((q.queues queue).overflow + 1) % 2 ^ 32 } }, false)
    else (write (write q queue record.header) queue record.payload, true)

/-- The channel of a header read from the ring. -/
def headerChannel (header : Bytes) : UInt8 := header.headD 0

/-- The size of the record behind a header read from the ring. -/
def recordSize (header : Bytes) : Nat := sizeofQueueRecordHeader + leNat ((header.drop 1).take 2)

theorem recordSize_pos (header : Bytes) : 0 < recordSize header := by
  simp only [recordSize, sizeofQueueRecordHeader]
  omega

/-- The local variables of `read`, and the storage it works on. -/
structure ReadScan where
  storage : Nat → UInt8
  cursor : Nat
  remaining : Nat
  retained : Nat
  output : Bytes

/-- The `while` of `read`. -/
def readLoop (queue : Fin kQueueCount) (tail : Nat) (channel : UInt8) (limit : Nat) (drain : Bool)
    (scan : ReadScan) : ReadScan :=
  if scan.remaining ≥ sizeofQueueRecordHeader then
    let header := peek queue scan.storage scan.cursor sizeofQueueRecordHeader
    let size := recordSize header
    if size > scan.remaining then scan
    else if headerChannel header = channel then
      if size > limit - scan.output.length then scan
      else readLoop queue tail channel limit drain
        { scan with
          output := scan.output ++ peek queue scan.storage scan.cursor size
          cursor := (scan.cursor + size) % kSliceSize
          remaining := scan.remaining - size }
    else if drain then
      readLoop queue tail channel limit drain
        { scan with
          storage := copy queue scan.storage scan.cursor ((tail + scan.retained) % kSliceSize) size
          retained := scan.retained + size
          cursor := (scan.cursor + size) % kSliceSize
          remaining := scan.remaining - size }
    else
      readLoop queue tail channel limit drain
        { scan with
          cursor := (scan.cursor + size) % kSliceSize
          remaining := scan.remaining - size }
  else scan
  termination_by scan.remaining
  decreasing_by
    all_goals
      have := recordSize_pos header
      change scan.remaining - size < scan.remaining
      omega

def read (q : SharedReceiveQueue) (protocol : Nat) (channel : UInt8) (limit : Nat) (drain : Bool) :
    SharedReceiveQueue × Bytes :=
  match select protocol with
  | none => (q, [])
  | some queue =>
    if limit < sizeofQueueRecordHeader then (q, [])
    else
      let tail := (q.queues queue).tail
      let scan := readLoop queue tail channel limit drain
        ⟨q.storage, tail, (q.queues queue).used, 0, []⟩
      if drain then
        let storage := copy queue scan.storage scan.cursor ((tail + scan.retained) % kSliceSize)
          scan.remaining
        let retained := scan.retained + scan.remaining
        ({ storage := storage
           queues := Function.update q.queues queue
            { q.queues queue with
              used := retained
              head := (tail + retained) % kSliceSize } }, scan.output)
      else ({ q with storage := scan.storage }, scan.output)

/-- The `while` of `depth` for one channel. -/
def depthLoop (queue : Fin kQueueCount) (storage : Nat → UInt8) (channel : UInt8)
    (cursor remaining matched : Nat) : Nat :=
  if remaining ≥ sizeofQueueRecordHeader then
    let header := peek queue storage cursor sizeofQueueRecordHeader
    let size := recordSize header
    if size > remaining then matched
    else depthLoop queue storage channel ((cursor + size) % kSliceSize) (remaining - size)
      (if headerChannel header = channel then matched + size else matched)
  else matched
  termination_by remaining
  decreasing_by
    have := recordSize_pos header
    change remaining - size < remaining
    omega

/-- `depth` of a protocol. -/
def depthAll (q : SharedReceiveQueue) (protocol : Nat) : Nat :=
  match select protocol with
  | none => 0
  | some queue => (q.queues queue).used

/-- `depth` of one channel of a protocol. -/
def depth (q : SharedReceiveQueue) (protocol : Nat) (channel : UInt8) : Nat :=
  match select protocol with
  | none => 0
  | some queue => depthLoop queue q.storage channel (q.queues queue).tail (q.queues queue).used 0

def overflow (q : SharedReceiveQueue) (protocol : Nat) : Nat :=
  match select protocol with
  | none => 0
  | some queue => (q.queues queue).overflow

end SharedReceiveQueue

end JLinkMcp.Firmware
