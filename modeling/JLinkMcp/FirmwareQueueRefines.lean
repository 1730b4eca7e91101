import JLinkMcp.FirmwareQueue

namespace JLinkMcp.Firmware

open Codec SharedReceiveQueue

theorem kSliceSize_pos : 0 < kSliceSize := by decide

/-- The bytes queued in one slice of the storage. -/
def content (storage : Nat → UInt8) (queue : Fin kQueueCount) (tail used : Nat) : Bytes :=
  ringSlice storage (queue.val * kSliceSize) kSliceSize tail used

/-- Only the queue's own slice may differ. -/
def SameOutside (queue : Fin kQueueCount) (storage storage' : Nat → UInt8) : Prop :=
  ∀ a, a < queue.val * kSliceSize ∨ queue.val * kSliceSize + kSliceSize ≤ a → storage' a = storage a

theorem SameOutside.trans {queue : Fin kQueueCount} {s s' s'' : Nat → UInt8}
    (h : SameOutside queue s s') (h' : SameOutside queue s' s'') : SameOutside queue s s'' :=
  fun a ha => (h' a ha).trans (h a ha)

theorem sameOutside_update {queue : Fin kQueueCount} {storage : Nat → UInt8} {relative : Nat}
    (hlt : relative < kSliceSize) (v : UInt8) :
    SameOutside queue storage (Function.update storage (offset queue relative) v) := by
  intro a ha
  apply Function.update_of_ne
  simp only [offset]
  omega

/-- The slices do not overlap. -/
theorem SameOutside.content {queue other : Fin kQueueCount} {s s' : Nat → UInt8}
    (h : SameOutside queue s s') (hne : other ≠ queue) (tail used : Nat) :
    content s' other tail used = content s other tail used := by
  apply ringSlice_congr kSliceSize_pos
  intro a hlo hhi
  apply h
  have hv : other.val ≠ queue.val := fun he => hne (Fin.ext he)
  rcases Nat.lt_or_gt_of_ne hv with hlt | hgt
  · have hm : (other.val + 1) * kSliceSize ≤ queue.val * kSliceSize := Nat.mul_le_mul_right _ hlt
    rw [Nat.succ_mul] at hm
    exact Or.inl (by omega)
  · have hm : (queue.val + 1) * kSliceSize ≤ other.val * kSliceSize := Nat.mul_le_mul_right _ hgt
    rw [Nat.succ_mul] at hm
    exact Or.inr (by omega)

theorem content_take (storage : Nat → UInt8) (queue : Fin kQueueCount) (tail : Nat) {n used : Nat}
    (h : n ≤ used) : content storage queue tail n = (content storage queue tail used).take n := by
  have hw := ringSlice_window storage (queue.val * kSliceSize) kSliceSize tail
    (show 0 + n ≤ used by omega)
  rw [Nat.add_zero, List.drop_zero] at hw
  exact hw

section loops

variable (queue : Fin kQueueCount)

/-- Writing at the head appends to the queued bytes. -/
theorem writeLoop_spec (storage : Nat → UInt8) (tail : Nat) {used : Nat} {data : Bytes}
    (fits : used + data.length ≤ kSliceSize) :
    let out := writeLoop queue storage ((tail + used) % kSliceSize) data
    out.2 = (tail + (used + data.length)) % kSliceSize ∧
      content out.1 queue tail (used + data.length) = content storage queue tail used ++ data ∧
      SameOutside queue storage out.1 := by
  induction data generalizing storage used with
  | nil => exact ⟨rfl, by simp [writeLoop], fun a _ => rfl⟩
  | cons value data ih =>
    rw [List.length_cons] at fits
    have hmod : ((tail + used) % kSliceSize + 1) % kSliceSize = (tail + (used + 1)) % kSliceSize := by
      rw [Nat.mod_add_mod, Nat.add_assoc]
    obtain ⟨hhead, hbytes, hsame⟩ := ih
      (Function.update storage (offset queue ((tail + used) % kSliceSize)) value)
      (show used + 1 + data.length ≤ kSliceSize by omega)
    have hone : content (Function.update storage (offset queue ((tail + used) % kSliceSize)) value)
        queue tail (used + 1) = content storage queue tail used ++ [value] :=
      ringSlice_push (by omega) value
    have hlen : used + 1 + data.length = used + (value :: data).length := by
      rw [List.length_cons]
      omega
    rw [hone, List.append_assoc, hlen] at hbytes
    rw [hlen] at hhead
    simp only [writeLoop, hmod]
    exact ⟨hhead, hbytes, (sameOutside_update (Nat.mod_lt _ kSliceSize_pos) value).trans hsame⟩

/-- `peek` reads the slice from its cursor. -/
theorem peek_eq_content {storage : Nat → UInt8} {cursor : Nat} (hlt : cursor < kSliceSize) (n : Nat) :
    peek queue storage cursor n = content storage queue cursor n := by
  induction n generalizing cursor with
  | zero => rfl
  | succ n ih =>
    have h := ringSlice_succ storage (queue.val * kSliceSize) kSliceSize cursor n
    rw [Nat.mod_eq_of_lt hlt] at h
    rw [peek, ih (Nat.mod_lt _ kSliceSize_pos)]
    refine Eq.trans ?_ h.symm
    rw [content, ringSlice_mod]
    rfl

theorem peek_window {storage : Nat → UInt8} {tail used k n : Nat} (fits : k + n ≤ used) :
    peek queue storage ((tail + k) % kSliceSize) n =
      ((content storage queue tail used).drop k).take n := by
  rw [peek_eq_content queue (Nat.mod_lt _ kSliceSize_pos), content, ringSlice_mod]
  exact ringSlice_window storage _ _ _ fits

/-- Copying a stretch of the queued bytes down, byte by byte in one direction, moves it whole. -/
theorem copy_spec (storage : Nat → UInt8) (tail : Nat) {used src dst n : Nat} (fits : used ≤ kSliceSize)
    (forward : dst ≤ src) (inside : src + n ≤ used) :
    let storage' := copy queue storage ((tail + src) % kSliceSize) ((tail + dst) % kSliceSize) n
    let bytes := content storage queue tail used
    content storage' queue tail used = bytes.take dst ++ (bytes.drop src).take n ++ bytes.drop (dst + n) ∧
      SameOutside queue storage storage' := by
  induction n generalizing storage src dst with
  | zero => exact ⟨by simp [copy], fun a _ => rfl⟩
  | succ n ih =>
    have hmod : ∀ k, ((tail + k) % kSliceSize + 1) % kSliceSize = (tail + (k + 1)) % kSliceSize := by
      intro k
      rw [Nat.mod_add_mod, Nat.add_assoc]
    let value := storage (offset queue ((tail + src) % kSliceSize))
    have hvalue : (content storage queue tail used)[src]? = some value :=
      ringSlice_getElem? storage _ _ _ (by omega)
    have hone : content (Function.update storage (offset queue ((tail + dst) % kSliceSize)) value)
        queue tail used = (content storage queue tail used).set dst value :=
      ringSlice_update (by omega) fits value
    obtain ⟨hbytes, hsame⟩ := ih
      (Function.update storage (offset queue ((tail + dst) % kSliceSize)) value)
      (show dst + 1 ≤ src + 1 by omega) (by omega)
    rw [hone, take_move_succ hvalue forward] at hbytes
    simp only [copy, hmod]
    exact ⟨hbytes, (sameOutside_update (Nat.mod_lt _ kSliceSize_pos) value).trans hsame⟩

end loops

/-- Where one pass over the records of a queue stops: those of other channels passed, those of the
channel taken, and those not reached. -/
structure Pass where
  passed : List QueueRecord
  taken : List QueueRecord
  rest : List QueueRecord

def passRecords (channel : UInt8) (limit : Nat) : List QueueRecord → Pass
  | [] => ⟨[], [], []⟩
  | record :: records =>
    if record.channel = channel then
      if record.bytes.length ≤ limit then
        let later := passRecords channel (limit - record.bytes.length) records
        { later with taken := record :: later.taken }
      else ⟨[], [], record :: records⟩
    else
      let later := passRecords channel limit records
      { later with passed := record :: later.passed }

/-- A limit below the size of a header has room for no record. -/
theorem fittingPrefix_of_lt {limit : Nat} (small : limit < sizeofQueueRecordHeader)
    (records : List QueueRecord) : fittingPrefix limit records = [] := by
  cases records with
  | nil => rfl
  | cons record records =>
    have hsize := record.bytes_length
    simp only [sizeofQueueRecordHeader] at small
    rw [fittingPrefix, if_neg (by omega)]

theorem passRecords_taken (channel : UInt8) (limit : Nat) (records : List QueueRecord) :
    (passRecords channel limit records).taken =
      fittingPrefix limit (records.filter (·.channel = channel)) := by
  induction records generalizing limit with
  | nil => rfl
  | cons record records ih =>
    by_cases h : record.channel = channel
    · by_cases hfit : record.bytes.length ≤ limit
      · simp [passRecords, fittingPrefix, h, hfit, ih]
      · simp [passRecords, fittingPrefix, h, hfit]
    · simp [passRecords, h, ih]

theorem passRecords_kept (channel : UInt8) (limit : Nat) (records : List QueueRecord) :
    (passRecords channel limit records).passed ++ (passRecords channel limit records).rest =
      removeFirst channel (passRecords channel limit records).taken.length records := by
  induction records generalizing limit with
  | nil => rfl
  | cons record records ih =>
    by_cases h : record.channel = channel
    · by_cases hfit : record.bytes.length ≤ limit
      · simp [passRecords, removeFirst, h, hfit, ih]
      · simp [passRecords, removeFirst, h, hfit]
    · cases hc : (passRecords channel limit records).taken with
      | nil => simp [passRecords, removeFirst, h, ih, hc]
      | cons first others => simp [passRecords, removeFirst, h, ih, hc]

/-- A queue in the middle of a pass: `kept` has been moved to the front, `rest` is still to come. -/
structure Scanning (queue : Fin kQueueCount) (tail used : Nat) (kept rest : List QueueRecord)
    (scan : ReadScan) : Prop where
  fits : used ≤ kSliceSize
  cursor : scan.cursor = (tail + (used - scan.remaining)) % kSliceSize
  remaining : scan.remaining = (queuedBytes rest).length
  retained : scan.retained = (queuedBytes kept).length
  inside : scan.retained + scan.remaining ≤ used
  keptBytes : (content scan.storage queue tail used).take scan.retained = queuedBytes kept
  restBytes : (content scan.storage queue tail used).drop (used - scan.remaining) = queuedBytes rest

namespace Scanning

variable {queue : Fin kQueueCount} {tail used : Nat} {kept rest : List QueueRecord}
  {record : QueueRecord} {scan : ReadScan}

theorem peek_prefix (h : Scanning queue tail used kept rest scan) {n : Nat}
    (hn : n ≤ (queuedBytes rest).length) :
    peek queue scan.storage scan.cursor n = (queuedBytes rest).take n := by
  have hr := h.remaining
  have hi := h.inside
  rw [h.cursor, peek_window queue (show used - scan.remaining + n ≤ used by omega), h.restBytes]

theorem peek_header (h : Scanning queue tail used kept (record :: rest) scan) :
    peek queue scan.storage scan.cursor sizeofQueueRecordHeader = record.header := by
  rw [h.peek_prefix, queuedBytes_cons, QueueRecord.bytes, List.append_assoc]
  · exact List.take_left' record.header_length
  · rw [queuedBytes_cons, List.length_append, record.bytes_length]
    simp only [sizeofQueueRecordHeader]
    omega

theorem peek_record (h : Scanning queue tail used kept (record :: rest) scan) :
    peek queue scan.storage scan.cursor record.bytes.length = record.bytes := by
  rw [h.peek_prefix, queuedBytes_cons, List.take_left]
  rw [queuedBytes_cons, List.length_append]
  omega

theorem remaining_cons (h : Scanning queue tail used kept (record :: rest) scan) :
    scan.remaining = record.bytes.length + (queuedBytes rest).length := by
  rw [h.remaining, queuedBytes_cons, List.length_append]

theorem cursor_next (h : Scanning queue tail used kept (record :: rest) scan) :
    (scan.cursor + record.bytes.length) % kSliceSize =
      (tail + (used - (scan.remaining - record.bytes.length))) % kSliceSize := by
  have hr := h.remaining_cons
  have hi := h.inside
  have hsum : tail + (used - scan.remaining) + record.bytes.length =
      tail + (used - (scan.remaining - record.bytes.length)) := by omega
  rw [h.cursor, Nat.mod_add_mod, hsum]

theorem restBytes_next (h : Scanning queue tail used kept (record :: rest) scan) :
    (content scan.storage queue tail used).drop (used - (scan.remaining - record.bytes.length)) =
      queuedBytes rest := by
  have hr := h.remaining_cons
  have hi := h.inside
  have hsum : used - (scan.remaining - record.bytes.length) =
      used - scan.remaining + record.bytes.length := by omega
  rw [hsum, ← List.drop_drop, h.restBytes, queuedBytes_cons, List.drop_left]

/-- The next record is passed without being moved. -/
theorem skip (h : Scanning queue tail used kept (record :: rest) scan) (output : Bytes) :
    Scanning queue tail used kept rest
      { scan with
        output := output
        cursor := (scan.cursor + record.bytes.length) % kSliceSize
        remaining := scan.remaining - record.bytes.length } := by
  have hr := h.remaining_cons
  have hi := h.inside
  exact ⟨h.fits, h.cursor_next, by simp only; omega, h.retained, by simp only; omega, h.keptBytes,
    h.restBytes_next⟩

theorem moved_content (h : Scanning queue tail used kept rest scan) (n : Nat) (hn : n ≤ scan.remaining) :
    let storage := copy queue scan.storage scan.cursor ((tail + scan.retained) % kSliceSize) n
    content storage queue tail used =
        queuedBytes kept ++ (queuedBytes rest).take n ++
          (content scan.storage queue tail used).drop (scan.retained + n) ∧
      SameOutside queue scan.storage storage := by
  have hi := h.inside
  have hcopy := copy_spec queue scan.storage tail h.fits
    (show scan.retained ≤ used - scan.remaining by omega)
    (show used - scan.remaining + n ≤ used by omega)
  simp only [h.keptBytes, h.restBytes, ← h.cursor] at hcopy
  exact hcopy

/-- The next record is moved behind the records kept before it. -/
theorem move (h : Scanning queue tail used kept (record :: rest) scan) :
    Scanning queue tail used (kept ++ [record]) rest
      { scan with
        storage := copy queue scan.storage scan.cursor ((tail + scan.retained) % kSliceSize)
          record.bytes.length
        retained := scan.retained + record.bytes.length
        cursor := (scan.cursor + record.bytes.length) % kSliceSize
        remaining := scan.remaining - record.bytes.length } := by
  have hr := h.remaining_cons
  have hi := h.inside
  have hk := h.retained
  obtain ⟨hmoved, _⟩ := h.moved_content record.bytes.length (by omega)
  rw [queuedBytes_cons, List.take_left, List.append_assoc] at hmoved
  refine ⟨h.fits, h.cursor_next, by simp only; omega, ?_, by simp only; omega, ?_, ?_⟩
  · simp [hk]
  · rw [hmoved, ← List.append_assoc, queuedBytes_append, queuedBytes_cons, queuedBytes_nil, List.append_nil]
    exact List.take_left' (by simp [hk])
  · have hlen : (queuedBytes kept ++ record.bytes).length = scan.retained + record.bytes.length := by
      rw [List.length_append, hk]
    have hplace : used - (scan.remaining - record.bytes.length) =
        scan.retained + record.bytes.length + (used - scan.remaining - scan.retained) := by omega
    have hnext := h.restBytes_next
    rw [hplace, ← List.drop_drop] at hnext
    rw [hmoved, ← List.append_assoc, hplace, ← List.drop_drop, List.drop_left' hlen]
    exact hnext

end Scanning

section scanning

variable {queue : Fin kQueueCount} {tail used : Nat} {kept rest : List QueueRecord} {scan : ReadScan}

theorem readLoop_spec (channel : UInt8) (limit : Nat) (drain : Bool)
    (h : Scanning queue tail used kept rest scan) :
    let pass := passRecords channel (limit - scan.output.length) rest
    let out := readLoop queue tail channel limit drain scan
    out.output = scan.output ++ queuedBytes pass.taken ∧ SameOutside queue scan.storage out.storage ∧
      (drain = false → out.storage = scan.storage) ∧
      (drain = true → Scanning queue tail used (kept ++ pass.passed) pass.rest out) := by
  induction rest generalizing kept scan with
  | nil =>
    have hr := h.remaining
    have hend : ¬scan.remaining ≥ sizeofQueueRecordHeader := by
      rw [hr]
      decide
    rw [readLoop, if_neg hend]
    exact ⟨by simp [passRecords], fun _ _ => rfl, fun _ => rfl, fun _ => by simpa [passRecords] using h⟩
  | cons record rest ih =>
    have hr := h.remaining_cons
    have hsize := record.bytes_length
    have hmore : scan.remaining ≥ sizeofQueueRecordHeader := by
      simp only [sizeofQueueRecordHeader]
      omega
    have hwhole : ¬record.bytes.length > scan.remaining := by omega
    rw [readLoop, if_pos hmore]
    simp only [h.peek_header, recordSize_header, headerChannel_header, h.peek_record]
    rw [if_neg hwhole]
    by_cases hc : record.channel = channel
    · by_cases hfit : record.bytes.length ≤ limit - scan.output.length
      · have hlimit : limit - (scan.output ++ record.bytes).length =
            limit - scan.output.length - record.bytes.length := by
          rw [List.length_append]
          omega
        have hnext := ih (h.skip (scan.output ++ record.bytes))
        simp only [hlimit] at hnext
        simp only [passRecords, hc, if_true, if_pos hfit, if_neg (Nat.not_lt.mpr hfit)]
        exact ⟨by simp [hnext.1], hnext.2⟩
      · simp only [passRecords, hc, if_true, if_neg hfit, if_pos (Nat.lt_of_not_le hfit)]
        exact ⟨by simp, fun _ _ => rfl, fun _ => trivial, fun _ => by simpa using h⟩
    · simp only [passRecords, hc, if_false]
      cases drain with
      | false =>
        obtain ⟨houtput, hsame, hstorage, _⟩ := ih (h.skip scan.output)
        simp only [Bool.false_eq_true, if_false]
        refine ⟨houtput, hsame, fun _ => hstorage rfl, ?_⟩
        simp
      | true =>
        obtain ⟨houtput, hsame, _, hscan⟩ := ih h.move
        have hmoved : SameOutside queue scan.storage (copy queue scan.storage scan.cursor
            ((tail + scan.retained) % kSliceSize) record.bytes.length) :=
          (h.moved_content record.bytes.length (by omega)).2
        have hscan := hscan rfl
        rw [List.append_assoc, List.singleton_append] at hscan
        simp only [if_true]
        simp only at hsame
        refine ⟨houtput, hmoved.trans hsame, ?_, fun _ => hscan⟩
        simp

theorem depthLoop_spec (channel : UInt8) (matched : Nat) (h : Scanning queue tail used kept rest scan) :
    depthLoop queue scan.storage channel scan.cursor scan.remaining matched =
      matched + (queuedBytes (rest.filter (·.channel = channel))).length := by
  induction rest generalizing scan matched with
  | nil =>
    have hend : ¬scan.remaining ≥ sizeofQueueRecordHeader := by
      rw [h.remaining]
      decide
    rw [depthLoop, if_neg hend]
    rfl
  | cons record rest ih =>
    have hr := h.remaining_cons
    have hsize := record.bytes_length
    have hmore : scan.remaining ≥ sizeofQueueRecordHeader := by
      simp only [sizeofQueueRecordHeader]
      omega
    have hnext := fun matched => ih matched (h.skip scan.output)
    simp only at hnext
    rw [depthLoop, if_pos hmore]
    simp only [h.peek_header, recordSize_header, headerChannel_header]
    rw [if_neg (by omega), hnext]
    by_cases hc : record.channel = channel
    · simp [hc, Nat.add_assoc]
    · simp [hc]

end scanning

/-- How one queue and its slice of the storage hold a list of records. -/
structure RepresentsQueue (storage : Nat → UInt8) (queue : Fin kQueueCount) (state : Queue)
    (fifo : Fifo) : Prop where
  head : state.head = (state.tail + state.used) % kSliceSize
  used : state.used = (queuedBytes fifo.records).length
  used_le : state.used ≤ kSliceSize
  bytes : content storage queue state.tail state.used = queuedBytes fifo.records
  tail_lt : state.tail < kSliceSize
  overflow : state.overflow = fifo.overflow

def Represents (q : SharedReceiveQueue) (fifos : Fin kQueueCount → Fifo) : Prop :=
  ∀ queue, RepresentsQueue q.storage queue (q.queues queue) (fifos queue)

theorem writeLoop_append (queue : Fin kQueueCount) (storage : Nat → UInt8) (head : Nat) (xs ys : Bytes) :
    writeLoop queue storage head (xs ++ ys) =
      writeLoop queue (writeLoop queue storage head xs).1 (writeLoop queue storage head xs).2 ys := by
  induction xs generalizing storage head with
  | nil => rfl
  | cons x xs ih => exact ih _ _

/-- The header and the payload are written as one run of bytes. -/
theorem write_append (q : SharedReceiveQueue) (queue : Fin kQueueCount) (xs ys : Bytes) :
    (q.write queue xs).write queue ys = q.write queue (xs ++ ys) := by
  simp [write, writeLoop_append, Nat.add_assoc]

section operations

variable {q : SharedReceiveQueue} {fifos : Fin kQueueCount → Fifo} (h : Represents q fifos)

include h

/-- A call that changes one queue and its slice keeps what the other queues hold. -/
theorem represents_update {queue : Fin kQueueCount} {storage : Nat → UInt8} {state : Queue} {fifo : Fifo}
    (same : SameOutside queue q.storage storage) (one : RepresentsQueue storage queue state fifo) :
    Represents ⟨storage, Function.update q.queues queue state⟩ (Function.update fifos queue fifo) := by
  intro other
  by_cases he : other = queue
  · subst he
    simpa using one
  · have ho := h other
    simp only [Function.update_of_ne he]
    exact ⟨ho.head, ho.used, ho.used_le, (same.content he _ _).trans ho.bytes, ho.tail_lt, ho.overflow⟩

theorem scanning_of_represents (queue : Fin kQueueCount) :
    Scanning queue (q.queues queue).tail (q.queues queue).used [] (fifos queue).records
      ⟨q.storage, (q.queues queue).tail, (q.queues queue).used, 0, []⟩ := by
  have ho := h queue
  refine ⟨ho.used_le, ?_, ho.used, rfl, by simp, by simp, ?_⟩
  · simp [Nat.mod_eq_of_lt ho.tail_lt]
  · simpa using ho.bytes

theorem depth_refines (protocol : Nat) (channel : UInt8) :
    q.depth protocol channel =
      (select protocol).elim 0 fun queue => (fifos queue).depth channel := by
  cases hs : select protocol with
  | none => simp [SharedReceiveQueue.depth, hs]
  | some queue =>
    have hd := depthLoop_spec channel 0 (scanning_of_represents h queue)
    simpa [SharedReceiveQueue.depth, hs, Fifo.depth, Fifo.ofChannel] using hd

theorem push_refines (protocol : Nat) (record : QueueRecord) :
    Represents (q.push protocol record).1 (callFifos fifos (.push protocol record)).1 ∧
      (callFifos fifos (.push protocol record)).2 = .pushed (q.push protocol record).2 := by
  cases hs : select protocol with
  | none => exact ⟨by simpa [SharedReceiveQueue.push, callFifos, hs] using h,
      by simp [SharedReceiveQueue.push, callFifos, hs]⟩
  | some queue =>
    have ho := h queue
    have hused := ho.used
    have hle := ho.used_le
    simp only [SharedReceiveQueue.push, callFifos, hs, Fifo.push]
    have hroom : sizeofQueueRecordHeader + record.payload.length > kSliceSize - (q.queues queue).used ↔
        ¬11 + record.payload.length ≤ 10922 - (queuedBytes (fifos queue).records).length := by
      rw [hused]
      exact Nat.not_le.symm
    by_cases hfit : 11 + record.payload.length ≤ 10922 - (queuedBytes (fifos queue).records).length
    · rw [if_neg (fun hc => hroom.mp hc hfit), if_pos hfit, write_append]
      refine ⟨?_, rfl⟩
      have hsize : (record.header ++ record.payload).length = 11 + record.payload.length := record.bytes_length
      have hslice : kSliceSize = 10922 := rfl
      obtain ⟨hhead, hbytes, hsame⟩ := writeLoop_spec queue q.storage (q.queues queue).tail
        (show (q.queues queue).used + (record.header ++ record.payload).length ≤ kSliceSize by omega)
      rw [← ho.head] at hhead hbytes hsame
      refine represents_update h hsame ⟨hhead, ?_, by simp only; omega, ?_, ho.tail_lt, ho.overflow⟩
      · simp [QueueRecord.bytes, hused]
      · rw [queuedBytes_append, ← ho.bytes, queuedBytes_cons, queuedBytes_nil, List.append_nil]
        exact hbytes
    · rw [if_pos (hroom.mpr hfit), if_neg hfit]
      refine ⟨?_, rfl⟩
      exact represents_update h (fun _ _ => rfl)
        ⟨ho.head, ho.used, ho.used_le, ho.bytes, ho.tail_lt, by simp only [ho.overflow]⟩

theorem read_refines (protocol : Nat) (channel : UInt8) (limit : Nat) (drain : Bool) :
    Represents (q.read protocol channel limit drain).1
        (callFifos fifos (.read protocol channel limit drain)).1 ∧
      (callFifos fifos (.read protocol channel limit drain)).2 =
        .output (q.read protocol channel limit drain).2 := by
  cases hs : select protocol with
  | none => exact ⟨by simpa [SharedReceiveQueue.read, callFifos, hs] using h,
      by simp [SharedReceiveQueue.read, callFifos, hs]⟩
  | some queue =>
    have ho := h queue
    simp only [SharedReceiveQueue.read, callFifos, hs, Fifo.read, Fifo.ofChannel]
    by_cases hlimit : limit < sizeofQueueRecordHeader
    · rw [if_pos hlimit]
      simp only [fittingPrefix_of_lt hlimit, List.length_nil, removeFirst, ite_self, Function.update_eq_self]
      exact ⟨h, rfl⟩
    · rw [if_neg hlimit]
      obtain ⟨houtput, hsame, hstorage, hscan⟩ :=
        readLoop_spec channel limit drain (scanning_of_represents h queue)
      simp only [List.length_nil, Nat.sub_zero, List.nil_append, passRecords_taken] at houtput hscan hstorage
      have hkept := passRecords_kept channel limit (fifos queue).records
      rw [passRecords_taken] at hkept
      cases drain with
      | false =>
        simp only [Bool.false_eq_true, if_false, hstorage, houtput, Function.update_eq_self]
        exact ⟨h, trivial⟩
      | true =>
        have hpass := hscan rfl
        simp only [if_true, houtput, ← hkept]
        refine ⟨?_, trivial⟩
        obtain ⟨hmoved, hcopied⟩ := hpass.moved_content _ (Nat.le_refl _)
        have hr := hpass.retained
        have hn := hpass.remaining
        have hi := hpass.inside
        have hf := hpass.fits
        refine represents_update h (SameOutside.trans hsame hcopied)
          ⟨rfl, by simp [hr, hn], by simp only; omega, ?_, ho.tail_lt, ho.overflow⟩
        simp only
        rw [content_take _ _ _ hi, hmoved, hn, List.take_length, queuedBytes_append]
        exact List.take_left' (by simp [hr])

theorem call_refines (call : QueueCall) :
    Represents (q.call call).1 (callFifos fifos call).1 ∧ (q.call call).2 = (callFifos fifos call).2 := by
  cases call with
  | push protocol record =>
    obtain ⟨hnext, hresult⟩ := push_refines h protocol record
    exact ⟨hnext, hresult.symm⟩
  | read protocol channel limit drain =>
    obtain ⟨hnext, hresult⟩ := read_refines h protocol channel limit drain
    exact ⟨hnext, hresult.symm⟩
  | depth protocol channel => exact ⟨h, congrArg QueueResult.count (depth_refines h protocol channel)⟩
  | depthAll protocol =>
    refine ⟨h, congrArg QueueResult.count ?_⟩
    cases hs : select protocol with
    | none => simp [depthAll, hs]
    | some queue => simp [depthAll, hs, (h queue).used]
  | overflow protocol =>
    refine ⟨h, congrArg QueueResult.count ?_⟩
    cases hs : select protocol with
    | none => simp [SharedReceiveQueue.overflow, hs]
    | some queue => simp [SharedReceiveQueue.overflow, hs, (h queue).overflow]

end operations

theorem represents_init : Represents SharedReceiveQueue.init fun _ => ⟨[], 0⟩ :=
  fun _ => ⟨rfl, rfl, Nat.zero_le _, rfl, kSliceSize_pos, rfl⟩

/-- On every row of calls the rings answer as six independent lists of records do. -/
theorem sharedReceiveQueue_refines_fifos (calls : List QueueCall) :
    Represents (runCalls SharedReceiveQueue.call SharedReceiveQueue.init calls).1
        (runCalls callFifos (fun _ => ⟨[], 0⟩) calls).1 ∧
      (runCalls SharedReceiveQueue.call SharedReceiveQueue.init calls).2 =
        (runCalls callFifos (fun _ => ⟨[], 0⟩) calls).2 := by
  have simulates : ∀ {q fifos}, Represents q fifos → ∀ call,
      Represents (q.call call).1 (callFifos fifos call).1 ∧
        (q.call call).2 = (callFifos fifos call).2 := fun h call => call_refines h call
  exact runCalls_simulates simulates represents_init calls

end JLinkMcp.Firmware
