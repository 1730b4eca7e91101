import JLinkMcp.FirmwareQueueRefines

namespace JLinkMcp.Firmware

open Codec SharedReceiveQueue

/-- The record that the bytes begin with. -/
def recordOf (bytes : Bytes) : QueueRecord where
  channel := headerChannel bytes
  payload := (bytes.drop sizeofQueueRecordHeader).take (leNat ((bytes.drop 1).take 2))
  timestampUs := UInt64.ofNat (leNat ((bytes.drop 3).take 8))
  short := by
    have hlen : leNat ((bytes.drop 1).take 2) < 256 ^ 2 := leNat_take_lt 2 _
    rw [List.length_take]
    omega

/-- The records of the bytes, at most as many as given. -/
def recordsIn : Nat → Bytes → List QueueRecord
  | 0, _ => []
  | _ + 1, [] => []
  | count + 1, value :: bytes =>
    recordOf (value :: bytes) :: recordsIn count ((value :: bytes).drop (recordSize (value :: bytes)))

/-- The records of the protocol as they lie in its slice, the oldest first. -/
def SharedReceiveQueue.records (q : SharedReceiveQueue) (protocol : Nat) : List QueueRecord :=
  match select protocol with
  | none => []
  | some queue =>
    let bytes := content q.storage queue (q.queues queue).tail (q.queues queue).used
    recordsIn bytes.length bytes

/-- The rings hold records, as they do from power-up on. -/
def SharedReceiveQueue.Sound (q : SharedReceiveQueue) : Prop := ∃ fifos, Represents q fifos

section decoding

variable {record : QueueRecord} {rest : Bytes}

theorem header_take : (record.header.drop 1).take 2 = leBytes 2 record.payload.length := by
  rw [QueueRecord.header, List.drop_one, List.tail_cons, List.take_left' (leBytes_length _ _)]

theorem bytes_append_take :
    ((record.bytes ++ rest).drop 1).take 2 = leBytes 2 record.payload.length := by
  have hheader := record.header_length
  rw [QueueRecord.bytes, List.append_assoc, List.drop_append_of_le_length (by omega),
    List.take_append_of_le_length (by rw [List.length_drop]; omega), header_take]

theorem recordSize_append : recordSize (record.bytes ++ rest) = record.bytes.length := by
  rw [recordSize, bytes_append_take, leNat_leBytes_of_lt record.short, record.bytes_length]
  rfl

theorem QueueRecord.eq_of_fields {a b : QueueRecord} (channel : a.channel = b.channel)
    (payload : a.payload = b.payload) (timestampUs : a.timestampUs = b.timestampUs) : a = b := by
  cases a
  cases b
  simp only at channel payload timestampUs
  subst channel payload timestampUs
  rfl

theorem recordOf_append : recordOf (record.bytes ++ rest) = record := by
  have hheader := record.header_length
  have hpayload : (record.bytes ++ rest).drop sizeofQueueRecordHeader = record.payload ++ rest := by
    rw [QueueRecord.bytes, List.append_assoc]
    exact List.drop_left' hheader
  have htime : ((record.bytes ++ rest).drop 3).take 8 = leBytes 8 record.timestampUs.toNat := by
    rw [QueueRecord.bytes, List.append_assoc, List.drop_append_of_le_length (by omega),
      List.take_append_of_le_length (by rw [List.length_drop]; omega), QueueRecord.header,
      ← List.cons_append, List.drop_left' (by simp), List.take_of_length_le (by simp)]
  have hlt : record.timestampUs.toNat < 256 ^ 8 := record.timestampUs.toNat_lt
  have hlen : record.payload.length < 256 ^ 2 := record.short
  refine QueueRecord.eq_of_fields rfl ?_ ?_
  · change ((record.bytes ++ rest).drop sizeofQueueRecordHeader).take
      (leNat (((record.bytes ++ rest).drop 1).take 2)) = record.payload
    rw [bytes_append_take, leNat_leBytes_of_lt hlen, hpayload, List.take_left' rfl]
  · change UInt64.ofNat (leNat (((record.bytes ++ rest).drop 3).take 8)) = record.timestampUs
    rw [htime, leNat_leBytes_of_lt hlt, UInt64.ofNat_toNat]

/-- Every list of records is read back from its bytes. -/
theorem recordsIn_queuedBytes (records : List QueueRecord) {count : Nat}
    (enough : records.length ≤ count) : recordsIn count (queuedBytes records) = records := by
  induction records generalizing count with
  | nil => cases count <;> rfl
  | cons record records ih =>
    cases count with
    | zero => cases enough
    | succ count =>
      have hstep : recordsIn (count + 1) (record.bytes ++ queuedBytes records) =
          recordOf (record.bytes ++ queuedBytes records) :: recordsIn count
            ((record.bytes ++ queuedBytes records).drop
              (recordSize (record.bytes ++ queuedBytes records))) := rfl
      rw [queuedBytes_cons, hstep, recordOf_append, recordSize_append, List.drop_left' rfl,
        ih (Nat.le_of_succ_le_succ enough)]

theorem length_le_queuedBytes (records : List QueueRecord) :
    records.length ≤ (queuedBytes records).length := by
  induction records with
  | nil => exact Nat.le_refl 0
  | cons record records ih =>
    rw [queuedBytes_cons, List.length_append, record.bytes_length, List.length_cons]
    omega

end decoding

section calls

variable {q : SharedReceiveQueue} {fifos : Fin kQueueCount → Fifo} {protocol : Nat}

theorem records_of_represents (h : Represents q fifos) :
    q.records protocol = (select protocol).elim [] fun queue => (fifos queue).records := by
  unfold SharedReceiveQueue.records
  cases select protocol with
  | none => rfl
  | some queue =>
    dsimp only [Option.elim_some]
    rw [(h queue).bytes]
    exact recordsIn_queuedBytes _ (length_le_queuedBytes _)

theorem select_inj {other : Nat} {queue : Fin kQueueCount} (h : select protocol = some queue)
    (h' : select other = some queue) : protocol = other := by
  unfold select at h h'
  split at h
  next hrange =>
    split at h'
    next hrange' =>
      have hqueue := congrArg Fin.val (Option.some.inj (h.trans h'.symm))
      dsimp only at hqueue
      omega
    next => cases h'
  next => cases h

/-- What a call can do to the records of a protocol. -/
inductive RecordsAfter (protocol : Nat) (records : List QueueRecord) : QueueCall → List QueueRecord → Prop
  | kept {call} : RecordsAfter protocol records call records
  | pushed (record : QueueRecord) :
      RecordsAfter protocol records (.push protocol record) (records ++ [record])
  | drained (channel : UInt8) (limit : Nat) :
      RecordsAfter protocol records (.read protocol channel limit true)
        (removeFirst channel
          (fittingPrefix limit (records.filter (·.channel = channel))).length records)

theorem recordsAfter_callFifos (call : QueueCall) :
    RecordsAfter protocol ((select protocol).elim [] fun queue => (fifos queue).records) call
      ((select protocol).elim [] fun queue => ((callFifos fifos call).1 queue).records) := by
  cases hselect : select protocol with
  | none => exact .kept
  | some queue =>
    dsimp only [Option.elim_some]
    cases call with
    | push other record =>
      cases hother : select other with
      | none => simpa only [callFifos, hother] using .kept
      | some changed =>
        simp only [callFifos, hother]
        by_cases hqueue : queue = changed
        · subst hqueue
          obtain rfl := select_inj hselect hother
          rw [Function.update_self, Fifo.push]
          split
          · exact .pushed record
          · exact .kept
        · rw [Function.update_of_ne hqueue]
          exact .kept
    | read other channel limit drain =>
      cases hother : select other with
      | none => simpa only [callFifos, hother] using .kept
      | some changed =>
        simp only [callFifos, hother]
        by_cases hqueue : queue = changed
        · subst hqueue
          obtain rfl := select_inj hselect hother
          rw [Function.update_self, Fifo.read]
          cases drain with
          | false => exact .kept
          | true => exact .drained channel limit
        · rw [Function.update_of_ne hqueue]
          exact .kept
    | depth | depthAll | overflow => exact .kept

theorem SharedReceiveQueue.Sound.call (sound : q.Sound) (call : QueueCall) : (q.call call).1.Sound := by
  obtain ⟨fifos, h⟩ := sound
  exact ⟨_, (call_refines h call).1⟩

theorem recordsAfter_call (sound : q.Sound) (protocol : Nat) (call : QueueCall) :
    RecordsAfter protocol (q.records protocol) call ((q.call call).1.records protocol) := by
  obtain ⟨fifos, h⟩ := sound
  rw [records_of_represents h, records_of_represents (call_refines h call).1]
  exact recordsAfter_callFifos call

theorem sound_init : SharedReceiveQueue.init.Sound := ⟨_, represents_init⟩

theorem records_init : SharedReceiveQueue.init.records protocol = [] := by
  rw [records_of_represents represents_init]
  cases select protocol <;> rfl

/-- A draining read takes out of its protocol's records the first ones of the channel that fit. -/
theorem records_read (sound : q.Sound) (read : Nat) (channel : UInt8) (limit : Nat) (drain : Bool) :
    (q.read read channel limit drain).1.records protocol =
      if read = protocol ∧ drain = true then
        removeFirst channel (fittingPrefix limit ((q.records protocol).filter (·.channel = channel))).length
          (q.records protocol)
      else q.records protocol := by
  obtain ⟨fifos, h⟩ := sound
  rw [records_of_represents h, records_of_represents (read_refines h read channel limit drain).1]
  cases hselect : select protocol with
  | none => simp [removeFirst, fittingPrefix]
  | some queue =>
    dsimp only [Option.elim_some]
    cases hread : select read with
    | none =>
      have hne : read ≠ protocol := by
        rintro rfl
        cases hread.symm.trans hselect
      rw [if_neg fun hboth => hne hboth.1]
      simp only [callFifos, hread]
    | some changed =>
      simp only [callFifos, hread]
      by_cases hqueue : queue = changed
      · subst hqueue
        obtain rfl := select_inj hselect hread
        rw [Function.update_self, Fifo.read]
        cases drain <;> simp [Fifo.ofChannel]
      · have hne : read ≠ protocol := by
          rintro rfl
          exact hqueue (Option.some.inj (hselect.symm.trans hread))
        rw [Function.update_of_ne hqueue, if_neg fun hboth => hne hboth.1]

/-- What a read returns are the first records of the channel that fit. -/
theorem read_records (sound : q.Sound) (channel : UInt8) (limit : Nat) (drain : Bool) :
    (q.read protocol channel limit drain).2 =
      queuedBytes (fittingPrefix limit ((q.records protocol).filter (·.channel = channel))) := by
  obtain ⟨fifos, h⟩ := sound
  have hread := (read_refines h protocol channel limit drain).2
  rw [records_of_represents h]
  cases hselect : select protocol with
  | none =>
    rw [callFifos, hselect] at hread
    exact (QueueResult.output.inj hread).symm
  | some queue =>
    simp only [callFifos, hselect] at hread
    exact (QueueResult.output.inj hread).symm

end calls

end JLinkMcp.Firmware
