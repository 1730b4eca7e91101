import JLinkMcp.CodecRing

/-! A ring with one writer and one reader, each with an offset of its own, and the queue that it carries.
One cell stays unused, so that equal offsets mean an empty queue. -/

namespace RingFifo

open Codec

variable {α : Type} {size : Nat}

section offsets

/-- The offset after `offset`. -/
def nextOffset (size offset : Nat) : Nat :=
  if offset + 1 = size then 0 else offset + 1

/-- The number of cells from one offset up to another. -/
def cellsBetween (size start stop : Nat) : Nat :=
  (stop + size - start) % size

theorem nextOffset_mod (pos : 0 < size) (n : Nat) : nextOffset size (n % size) = (n + 1) % size := by
  have hlt := Nat.mod_lt n pos
  have hnext : (n + 1) % size = (n % size + 1) % size := (Nat.mod_add_mod n size 1).symm
  rw [nextOffset, hnext]
  split
  next h => rw [h, Nat.mod_self]
  next h => exact (Nat.mod_eq_of_lt (show n % size + 1 < size by omega)).symm

theorem cellsBetween_self (offset : Nat) : cellsBetween size offset offset = 0 := by
  rw [cellsBetween, Nat.add_sub_cancel_left, Nat.mod_self]

/-- Counts that are less than a turn apart are told from their offsets. -/
theorem cellsBetween_mod {start stop : Nat} (order : start ≤ stop) (turn : stop < start + size) :
    cellsBetween size (start % size) (stop % size) = stop - start := by
  obtain ⟨count, rfl⟩ := Nat.exists_eq_add_of_le order
  have hcount : count < size := by omega
  have hlt := Nat.mod_lt start (show 0 < size by omega)
  rw [cellsBetween, ← Nat.mod_add_mod, Nat.add_sub_cancel_left]
  generalize start % size = place at hlt
  rcases Nat.lt_or_ge (place + count) size with h | h
  · have hsum : place + count + size - place = count + size := by omega
    rw [Nat.mod_eq_of_lt h, hsum, Nat.add_mod_right, Nat.mod_eq_of_lt hcount]
  · have hsum : place + count - size + size - place = count := by omega
    rw [Nat.mod_eq_sub_mod h, Nat.mod_eq_of_lt (show place + count - size < size by omega), hsum,
      Nat.mod_eq_of_lt hcount]

end offsets

/-- What has been put into a queue and how much of that has been taken; fewer than `size` elements wait. -/
structure Fifo (α : Type) (size : Nat) where
  sent : List α
  taken : Nat
  bound : taken ≤ sent.length
  room : sent.length < taken + size

namespace Fifo

def empty (pos : 0 < size) : Fifo α size :=
  ⟨[], 0, Nat.le_refl 0, by simpa using pos⟩

/-- The elements that wait, the oldest first. -/
def waiting (queue : Fifo α size) : List α :=
  queue.sent.drop queue.taken

theorem length_waiting (queue : Fifo α size) :
    queue.waiting.length = queue.sent.length - queue.taken := by
  simp [waiting]

theorem size_pos (queue : Fifo α size) : 0 < size := by
  have hb := queue.bound
  have hr := queue.room
  omega

theorem waiting_lt (queue : Fifo α size) : queue.waiting.length < size := by
  have hb := queue.bound
  have hr := queue.room
  rw [length_waiting]
  omega

def put (queue : Fifo α size) (value : α) (free : queue.waiting.length + 1 < size) : Fifo α size where
  sent := queue.sent ++ [value]
  taken := queue.taken
  bound := by
    have hb := queue.bound
    simp only [List.length_append, List.length_singleton]
    omega
  room := by
    rw [length_waiting] at free
    simp only [List.length_append, List.length_singleton]
    omega

def take (queue : Fifo α size) (count : Nat) (there : count ≤ queue.waiting.length) : Fifo α size where
  sent := queue.sent
  taken := queue.taken + count
  bound := by
    have hb := queue.bound
    rw [length_waiting] at there
    omega
  room := by
    have hr := queue.room
    omega

theorem waiting_put (queue : Fifo α size) (value : α) (free : queue.waiting.length + 1 < size) :
    (queue.put value free).waiting = queue.waiting ++ [value] := by
  show (queue.sent ++ [value]).drop queue.taken = _
  rw [List.drop_append_of_le_length queue.bound]
  rfl

theorem waiting_take (queue : Fifo α size) (count : Nat) (there : count ≤ queue.waiting.length) :
    (queue.take count there).waiting = queue.waiting.drop count := by
  show queue.sent.drop (queue.taken + count) = (queue.sent.drop queue.taken).drop count
  rw [List.drop_drop]

/-- The cells of a ring and the two offsets carry the queue. -/
structure InRing (queue : Fifo α size) (cells : Nat → α) (write read : Nat) : Prop where
  writes : write = queue.sent.length % size
  reads : read = queue.taken % size
  carries : ringSlice cells 0 size read queue.waiting.length = queue.waiting

theorem inRing_empty (pos : 0 < size) (cells : Nat → α) : (empty pos).InRing cells 0 0 :=
  ⟨(Nat.zero_mod size).symm, (Nat.zero_mod size).symm, rfl⟩

section ring

variable {queue : Fifo α size} {cells : Nat → α} {write read count i : Nat} {value : α}

theorem InRing.write_lt (rings : queue.InRing cells write read) : write < size := by
  rw [rings.writes]
  exact Nat.mod_lt _ queue.size_pos

theorem InRing.read_lt (rings : queue.InRing cells write read) : read < size := by
  rw [rings.reads]
  exact Nat.mod_lt _ queue.size_pos

/-- The writer's offset is the place behind the elements that wait. -/
theorem InRing.write_eq (rings : queue.InRing cells write read) :
    write = (read + queue.waiting.length) % size := by
  have hb := queue.bound
  rw [rings.writes, rings.reads, Nat.mod_add_mod, length_waiting, Nat.add_sub_cancel' hb]

theorem InRing.cellsBetween_eq (rings : queue.InRing cells write read) :
    cellsBetween size read write = queue.waiting.length := by
  rw [rings.reads, rings.writes, cellsBetween_mod queue.bound queue.room, length_waiting]

theorem InRing.cell (rings : queue.InRing cells write read) (h : i < queue.waiting.length) :
    queue.sent[queue.taken + i]? = some (cells ((read + i) % size)) := by
  have hcell := ringSlice_getElem? cells 0 size read h
  rwa [rings.carries, waiting, List.getElem?_drop, Nat.zero_add] at hcell

/-- None of the elements that wait is in the cell at the writer's offset. -/
theorem InRing.place_ne_write (rings : queue.InRing cells write read) (h : i < queue.waiting.length) :
    (read + i) % size ≠ write := by
  rw [rings.write_eq]
  exact (place_ne_of_lt h queue.waiting_lt).symm

/-- The ring is full where the writer's next offset is the reader's. -/
theorem InRing.nextOffset_eq_iff (rings : queue.InRing cells write read) :
    nextOffset size write = read ↔ queue.waiting.length + 1 = size := by
  have hb := queue.bound
  have hr := queue.room
  rw [rings.writes, nextOffset_mod queue.size_pos, rings.reads, length_waiting]
  constructor
  · intro h
    rcases Nat.lt_or_ge (queue.sent.length + 1) (queue.taken + size) with hlt | hge
    · have hbetween := cellsBetween_mod (show queue.taken ≤ queue.sent.length + 1 by omega) hlt
      rw [h, cellsBetween_self] at hbetween
      omega
    · omega
  · intro h
    have hturn : queue.sent.length + 1 = queue.taken + size := by omega
    rw [hturn, Nat.add_mod_right]

/-- A store into the unused cell changes nothing that waits. -/
theorem InRing.store (rings : queue.InRing cells write read) (value : α) :
    queue.InRing (Function.update cells write value) write read := by
  refine ⟨rings.writes, rings.reads, ?_⟩
  have hpush : ringSlice (Function.update cells (0 + (read + queue.waiting.length) % size) value) 0 size read
      (queue.waiting.length + 1) = ringSlice cells 0 size read queue.waiting.length ++ [value] :=
    ringSlice_push queue.waiting_lt value
  rw [Nat.zero_add, ← rings.write_eq, ringSlice_append] at hpush
  exact (List.append_inj_left' hpush rfl).trans rings.carries

/-- Moving the writer's offset over a cell puts the cell's element into the queue. -/
theorem InRing.put (rings : queue.InRing cells write read) (stored : cells write = value)
    (free : queue.waiting.length + 1 < size) :
    (queue.put value free).InRing cells (nextOffset size write) read := by
  refine ⟨?_, rings.reads, ?_⟩
  · rw [rings.writes, nextOffset_mod queue.size_pos]
    show _ = (queue.sent ++ [value]).length % size
    rw [List.length_append, List.length_singleton]
  · rw [waiting_put, List.length_append, List.length_singleton, ringSlice_append, rings.carries]
    have hlast : ringSlice cells 0 size (read + queue.waiting.length) 1 = [cells write] := by
      rw [ringSlice_succ, Nat.zero_add, ← rings.write_eq]
      rfl
    rw [hlast, stored]

/-- Moving the reader's offset over elements that wait takes them. -/
theorem InRing.take (rings : queue.InRing cells write read) (there : count ≤ queue.waiting.length) :
    (queue.take count there).InRing cells write ((read + count) % size) := by
  refine ⟨rings.writes, ?_, ?_⟩
  · rw [rings.reads, Nat.mod_add_mod]
    rfl
  · have hlength : count + (queue.waiting.length - count) ≤ queue.waiting.length := by omega
    rw [waiting_take, List.length_drop, ringSlice_mod, ringSlice_window cells 0 size read hlength, rings.carries,
      List.take_of_length_le (by simp)]

end ring

end Fifo

end RingFifo
