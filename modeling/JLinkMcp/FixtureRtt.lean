import Mathlib.Algebra.Group.Nat.Defs
import JLinkMcp.RingFifo
import JLinkMcp.StepRuns

namespace JLinkMcp.Fixture

open Codec RingFifo StepRuns

section model

/-- The fields of `RTTBuffer` that the firmware and the host use. -/
structure RTTBuffer where
  buffer : Nat → UInt8
  size : Nat
  writeOffset : Nat
  readOffset : Nat

/-- `_SEGGER_RTT.up[0]` as the firmware starts. -/
def upChannel : RTTBuffer := ⟨fun _ => 0, 1024, 0, 0⟩

/-- The number of bytes between `read_offset` and `write_offset`. -/
def RTTBuffer.unread (channel : RTTBuffer) : Nat :=
  cellsBetween channel.size channel.readOffset channel.writeOffset

def RTTBuffer.unreadBytes (channel : RTTBuffer) : List UInt8 :=
  ringSlice channel.buffer 0 channel.size channel.readOffset channel.unread

/-- The characters of a text, given what the memory holds from its pointer on. -/
def cString (text : List UInt8) : List UInt8 := text.takeWhile (· ≠ 0)

/-- The next load or store of a call of `jlink_mcp_rtt_write`, with the locals that it has by then. -/
inductive Point where
  | test (text : List UInt8)
  | load (text : List UInt8)
  | wrap (text : List UInt8) (next : Nat)
  | compare (text : List UInt8) (next : Nat)
  | index (text : List UInt8) (next : Nat)
  | store (text : List UInt8) (next place : Nat)
  -- the byte that has been stored is kept for the history only
  | publish (byte : UInt8) (text : List UInt8) (next : Nat)

/-- The history of a call: its text and the bytes that it has moved `write_offset` over. -/
structure Call where
  text : List UInt8
  sent : List UInt8
  deriving DecidableEq

/-- How a call has ended; where it broke off, how many bytes were unread then. -/
inductive Ending where
  | whole
  | cut (unread : Nat)
  deriving DecidableEq

/-- The host's copy of `write_offset`, the bytes it has loaded by their places from `read_offset` on, and the
history of the bytes that it has moved `read_offset` over. -/
structure Host where
  seen : Nat
  fetched : Nat → Option UInt8
  read : List UInt8

structure State where
  channel : RTTBuffer
  running : Option (Call × Point)
  ended : List (Call × Ending)
  host : Host

/-- The calls of `jlink_mcp_rtt_write` up to now. -/
def State.calls (s : State) : List Call :=
  s.ended.map Prod.fst ++ s.running.toList.map Prod.fst

def start : State := ⟨upChannel, none, [], ⟨0, fun _ => none, []⟩⟩

def State.goesOn (s : State) (call : Call) (point : Point) : State :=
  { s with running := some (call, point) }

def State.ends (s : State) (call : Call) (ending : Ending) : State :=
  { s with running := none, ended := s.ended ++ [(call, ending)] }

/-- The next load or store of a call. -/
def State.write (s : State) (call : Call) : Point → State
  | .test text =>
    -- `while (*text)`
    if text.headD 0 = 0 then s.ends call .whole else s.goesOn call (.load text)
  | .load text => s.goesOn call (.wrap text ((s.channel.writeOffset + 1) % 2 ^ 32))
  | .wrap text next => s.goesOn call (.compare text (if next = s.channel.size then 0 else next))
  | .compare text next =>
    if next = s.channel.readOffset then s.ends call (.cut s.channel.unread)
    else s.goesOn call (.index text next)
  | .index text next => s.goesOn call (.store text next s.channel.writeOffset)
  | .store text next place =>
    { s with
      channel := { s.channel with buffer := Function.update s.channel.buffer place (text.headD 0) }
      running := some (call, .publish (text.headD 0) text.tail next) }
  | .publish byte text next =>
    { s with
      channel := { s.channel with writeOffset := next }
      running := some ({ call with sent := call.sent ++ [byte] }, .test text) }

inductive Event where
  /-- The firmware calls `jlink_mcp_rtt_write`. -/
  | call (text : List UInt8)
  /-- The call makes its next load or store. -/
  | write
  /-- The host loads `write_offset`. -/
  | look
  /-- The host loads one of the bytes that it has seen. -/
  | fetch (place : Nat)
  /-- The host stores `read_offset`, over bytes that it has loaded. -/
  | advance (count : Nat)

/-- One load or store of either side. -/
def step (s : State) : Event → Option State
  | .call text =>
    match s.running with
    | none => some (s.goesOn ⟨text, []⟩ (.test text))
    | some _ => none
  | .write => s.running.map fun running => s.write running.1 running.2
  | .look => some { s with host := { s.host with seen := s.channel.writeOffset } }
  | .fetch place =>
    if place < cellsBetween s.channel.size s.channel.readOffset s.host.seen then
      let byte := s.channel.buffer ((s.channel.readOffset + place) % s.channel.size)
      some { s with host := { s.host with fetched := Function.update s.host.fetched place (some byte) } }
    else none
  | .advance count =>
    if count ≤ cellsBetween s.channel.size s.channel.readOffset s.host.seen then
      ((List.range count).mapM s.host.fetched).map fun bytes =>
        { s with
          channel := { s.channel with readOffset := (s.channel.readOffset + count) % s.channel.size }
          host :=
            { s.host with
              fetched := fun place => s.host.fetched (place + count)
              read := s.host.read ++ bytes } }
    else none

end model

section invariant

variable {size : Nat}

/-- The ring carries the queue, and the host knows no byte but those that wait in it. -/
structure Shares (channel : RTTBuffer) (host : Host) (queue : Fifo UInt8 size) : Prop where
  size_eq : channel.size = size
  word : size < 2 ^ 32
  rings : queue.InRing channel.buffer channel.writeOffset channel.readOffset
  read : host.read = queue.sent.take queue.taken
  seen : ∃ count, queue.taken ≤ count ∧ count ≤ queue.sent.length ∧ host.seen = count % size
  loaded : ∀ place byte, host.fetched place = some byte → queue.sent[queue.taken + place]? = some byte

/-- What a call has still to publish. -/
def Point.left : Point → List UInt8
  | .test text | .load text | .wrap text _ | .compare text _ | .index text _ | .store text _ _ => cString text
  | .publish byte text _ => byte :: cString text

/-- What the locals of a call say about the channel; `free` is that a cell is free apart from the unused one. -/
def Point.Consistent (channel : RTTBuffer) (free : Prop) : Point → Prop
  | .test _ => True
  | .load text => text.headD 0 ≠ 0
  | .wrap text next => text.headD 0 ≠ 0 ∧ next = channel.writeOffset + 1
  | .compare text next => text.headD 0 ≠ 0 ∧ next = nextOffset channel.size channel.writeOffset
  | .index text next => text.headD 0 ≠ 0 ∧ next = nextOffset channel.size channel.writeOffset ∧ free
  | .store text next place =>
    text.headD 0 ≠ 0 ∧ next = nextOffset channel.size channel.writeOffset ∧ free ∧ place = channel.writeOffset
  | .publish byte _ next =>
    next = nextOffset channel.size channel.writeOffset ∧ free ∧ channel.buffer channel.writeOffset = byte

/-- A call is cut off only where all cells but the unused one hold unread bytes. -/
def Call.Ended (size : Nat) (call : Call) : Ending → Prop
  | .whole => call.sent = cString call.text
  | .cut unread => call.sent <+: cString call.text ∧ unread + 1 = size

/-- The state keeps the queue in its ring, and the calls have sent what has been put into the queue. -/
structure Inv (s : State) (queue : Fifo UInt8 size) : Prop where
  shares : Shares s.channel s.host queue
  sent : queue.sent = s.calls.flatMap Call.sent
  running : ∀ call point, s.running = some (call, point) →
    call.sent ++ point.left = cString call.text ∧
      point.Consistent s.channel (queue.waiting.length + 1 < size)
  ended : ∀ call ending, (call, ending) ∈ s.ended → call.Ended size ending

theorem cString_of_zero {text : List UInt8} (h : text.headD 0 = 0) : cString text = [] := by
  cases text with
  | nil => rfl
  | cons byte rest =>
    have hbyte : byte = 0 := h
    simp [cString, hbyte]

theorem cString_of_nonzero {text : List UInt8} (h : text.headD 0 ≠ 0) :
    cString text = text.headD 0 :: cString text.tail := by
  cases text with
  | nil => exact absurd rfl h
  | cons byte rest =>
    have hbyte : byte ≠ 0 := h
    simp [cString, hbyte]

variable {channel channel' : RTTBuffer} {host : Host} {queue : Fifo UInt8 size} {byte : UInt8}
  {free free' : Prop} {point : Point}

/-- The locals of a call stay right while the host moves `read_offset`. -/
theorem Point.Consistent.of_read (h : point.Consistent channel free) (more : free → free')
    (buffer : channel'.buffer = channel.buffer) (same : channel'.size = channel.size)
    (write : channel'.writeOffset = channel.writeOffset) : point.Consistent channel' free' := by
  cases point with
  | test => trivial
  | load => exact h
  | wrap => exact ⟨h.1, by rw [write]; exact h.2⟩
  | compare => exact ⟨h.1, by rw [same, write]; exact h.2⟩
  | index => exact ⟨h.1, by rw [same, write]; exact h.2.1, more h.2.2⟩
  | store => exact ⟨h.1, by rw [same, write]; exact h.2.1, more h.2.2.1, by rw [write]; exact h.2.2.2⟩
  | publish => exact ⟨by rw [same, write]; exact h.1, more h.2.1, by rw [buffer, write]; exact h.2.2⟩

section shares

theorem Shares.unread (shares : Shares channel host queue) : channel.unread = queue.waiting.length := by
  rw [RTTBuffer.unread, shares.size_eq, shares.rings.cellsBetween_eq]

theorem Shares.unreadBytes (shares : Shares channel host queue) : channel.unreadBytes = queue.waiting := by
  rw [RTTBuffer.unreadBytes, shares.unread, shares.size_eq]
  exact shares.rings.carries

theorem Shares.nextOffset_eq_iff (shares : Shares channel host queue) :
    nextOffset channel.size channel.writeOffset = channel.readOffset ↔ queue.waiting.length + 1 = size := by
  have hfull := shares.rings.nextOffset_eq_iff
  rwa [show nextOffset size = nextOffset channel.size by rw [shares.size_eq]] at hfull

theorem Shares.store (shares : Shares channel host queue) (byte : UInt8) :
    Shares { channel with buffer := Function.update channel.buffer channel.writeOffset byte } host queue :=
  { shares with rings := shares.rings.store byte }

theorem Shares.publish (shares : Shares channel host queue) (free : queue.waiting.length + 1 < size)
    (stored : channel.buffer channel.writeOffset = byte) :
    Shares { channel with writeOffset := nextOffset channel.size channel.writeOffset } host
      (queue.put byte free) where
  size_eq := shares.size_eq
  word := shares.word
  rings := by
    show (queue.put byte free).InRing channel.buffer (nextOffset channel.size channel.writeOffset) _
    rw [shares.size_eq]
    exact shares.rings.put stored free
  read := by
    show host.read = (queue.sent ++ [byte]).take queue.taken
    rw [List.take_append_of_le_length queue.bound]
    exact shares.read
  seen := by
    obtain ⟨count, hfrom, hto, hseen⟩ := shares.seen
    refine ⟨count, hfrom, ?_, hseen⟩
    show count ≤ (queue.sent ++ [byte]).length
    rw [List.length_append]
    exact Nat.le_add_right_of_le hto
  loaded := by
    intro place old h
    have hold := shares.loaded place old h
    show (queue.sent ++ [byte])[queue.taken + place]? = some old
    rw [List.getElem?_append_left (List.getElem?_eq_some_iff.mp hold).1]
    exact hold

theorem Shares.look (shares : Shares channel host queue) :
    Shares channel { host with seen := channel.writeOffset } queue :=
  { shares with seen := ⟨queue.sent.length, queue.bound, Nat.le_refl _, shares.rings.writes⟩ }

/-- The host never sees more than the bytes that wait. -/
theorem Shares.seen_le (shares : Shares channel host queue) :
    cellsBetween channel.size channel.readOffset host.seen ≤ queue.waiting.length := by
  obtain ⟨count, hfrom, hto, hseen⟩ := shares.seen
  have hroom := queue.room
  rw [shares.size_eq, shares.rings.reads, hseen, cellsBetween_mod hfrom (by omega), queue.length_waiting]
  omega

theorem Shares.fetch {place : Nat} (shares : Shares channel host queue)
    (h : place < cellsBetween channel.size channel.readOffset host.seen) :
    Shares channel
      { host with
        fetched := Function.update host.fetched place
          (some (channel.buffer ((channel.readOffset + place) % channel.size))) } queue := by
  refine { shares with loaded := ?_ }
  intro other byte hbyte
  change Function.update host.fetched place _ other = some byte at hbyte
  have hplace := Nat.lt_of_lt_of_le h shares.seen_le
  by_cases hother : other = place
  · subst hother
    have hcell := shares.rings.cell hplace
    rw [Function.update_self, shares.size_eq] at hbyte
    rwa [hbyte] at hcell
  · rw [Function.update_of_ne hother] at hbyte
    exact shares.loaded other byte hbyte

/-- What is gathered from places that agree with a list is the start of the list. -/
theorem eq_take_of_mapM {fetched : Nat → Option UInt8} {waiting bytes : List UInt8} {count : Nat}
    (agrees : ∀ place byte, fetched place = some byte → waiting[place]? = some byte)
    (h : (List.range count).mapM fetched = some bytes) : bytes = waiting.take count := by
  induction count generalizing bytes with
  | zero => exact (Option.some.inj h).symm
  | succ count ih =>
    rw [List.range_succ, List.mapM_append] at h
    obtain ⟨before, hbefore, h⟩ := Option.bind_eq_some_iff.mp h
    obtain ⟨last, hlast, h⟩ := Option.bind_eq_some_iff.mp h
    rw [List.mapM_cons, List.mapM_nil] at hlast
    obtain ⟨byte, hbyte, hlast⟩ := Option.bind_eq_some_iff.mp hlast
    cases Option.some.inj hlast
    cases Option.some.inj h
    rw [ih hbefore, List.take_add_one, agrees count byte hbyte]
    rfl

/-- Moving `read_offset` over bytes that have been loaded takes them from the queue. -/
theorem Shares.advance {count : Nat} {bytes : List UInt8} (shares : Shares channel host queue)
    (h : count ≤ cellsBetween channel.size channel.readOffset host.seen)
    (hbytes : (List.range count).mapM host.fetched = some bytes) :
    ∃ there : count ≤ queue.waiting.length,
      Shares { channel with readOffset := (channel.readOffset + count) % channel.size }
        { host with
          fetched := fun place => host.fetched (place + count)
          read := host.read ++ bytes } (queue.take count there) := by
  have there := Nat.le_trans h shares.seen_le
  have hgathered : bytes = queue.waiting.take count := by
    apply eq_take_of_mapM _ hbytes
    intro place byte hplace
    rw [Fifo.waiting, List.getElem?_drop]
    exact shares.loaded place byte hplace
  refine ⟨there, shares.size_eq, shares.word, ?_, ?_, ?_, ?_⟩
  · show (queue.take count there).InRing channel.buffer _ ((channel.readOffset + count) % channel.size)
    rw [shares.size_eq]
    exact shares.rings.take there
  · show host.read ++ bytes = queue.sent.take (queue.taken + count)
    rw [shares.read, hgathered, Fifo.waiting, List.take_add]
  · obtain ⟨seen, hfrom, hto, hseen⟩ := shares.seen
    have hroom := queue.room
    rw [shares.size_eq, shares.rings.reads, hseen, cellsBetween_mod hfrom (by omega)] at h
    exact ⟨seen, show queue.taken + count ≤ seen by omega, hto, hseen⟩
  · intro place byte hplace
    have hloaded := shares.loaded (place + count) byte hplace
    show queue.sent[queue.taken + count + place]? = some byte
    rwa [show queue.taken + count + place = queue.taken + (place + count) by omega]

end shares

section steps

variable {s s' : State} {call : Call} {ending : Ending}

theorem inv_start : Inv start (Fifo.empty (show 0 < 1024 by decide)) where
  shares := ⟨rfl, by decide, Fifo.inRing_empty _ _, rfl, ⟨0, Nat.le_refl 0, Nat.le_refl 0, rfl⟩, nofun⟩
  sent := rfl
  running := nofun
  ended := nofun

theorem calls_of_running {point : Point} (h : s.running = some (call, point)) :
    s.calls = s.ended.map Prod.fst ++ [call] := by
  rw [State.calls, h]
  rfl

/-- A step of a call that changes its locals only. -/
theorem Inv.goesOn {point' : Point} (inv : Inv s queue) (h : s.running = some (call, point))
    (left : point'.left = point.left)
    (consistent : point'.Consistent s.channel (queue.waiting.length + 1 < size)) :
    Inv (s.goesOn call point') queue where
  shares := inv.shares
  sent := by
    rw [inv.sent, calls_of_running h]
    rfl
  running := by
    intro other at' hrunning
    cases Option.some.inj hrunning
    rw [left]
    exact ⟨(inv.running call point h).1, consistent⟩
  ended := inv.ended

theorem Inv.ends (inv : Inv s queue) (h : s.running = some (call, point))
    (ended : call.Ended size ending) : Inv (s.ends call ending) queue where
  shares := inv.shares
  sent := by
    rw [inv.sent, calls_of_running h, State.calls, State.ends]
    simp
  running := nofun
  ended := by
    intro other how hmem
    rcases List.mem_append.mp hmem with hold | hnew
    · exact inv.ended other how hold
    · cases List.mem_singleton.mp hnew
      exact ended

/-- Each load or store of a call keeps the invariant, for a queue that may have gained a byte. -/
theorem Inv.write (inv : Inv s queue) (h : s.running = some (call, point)) :
    ∃ queue' : Fifo UInt8 size, Inv (s.write call point) queue' := by
  obtain ⟨hleft, hpoint⟩ := inv.running call point h
  cases point with
  | test text =>
    rw [State.write]
    split
    next hzero =>
      refine ⟨queue, inv.ends h ?_⟩
      rw [Point.left, cString_of_zero hzero, List.append_nil] at hleft
      exact hleft
    next hnonzero => exact ⟨queue, inv.goesOn h rfl hnonzero⟩
  | load text =>
    refine ⟨queue, inv.goesOn h rfl ⟨hpoint, ?_⟩⟩
    -- the offset is below the size, so that `+ 1` does not overflow
    have hlt := inv.shares.rings.write_lt
    have hword := inv.shares.word
    exact Nat.mod_eq_of_lt (by omega)
  | wrap text next =>
    obtain ⟨hnonzero, rfl⟩ := hpoint
    exact ⟨queue, inv.goesOn h rfl ⟨hnonzero, rfl⟩⟩
  | compare text next =>
    obtain ⟨hnonzero, rfl⟩ := hpoint
    have hfull := inv.shares.nextOffset_eq_iff
    rw [State.write]
    split
    next heq =>
      refine ⟨queue, inv.ends h ⟨⟨_, hleft⟩, ?_⟩⟩
      rw [inv.shares.unread, hfull.mp heq]
    next hne =>
      refine ⟨queue, inv.goesOn h rfl ⟨hnonzero, rfl, ?_⟩⟩
      have hwaiting := queue.waiting_lt
      rw [hfull] at hne
      omega
  | index text next =>
    obtain ⟨hnonzero, rfl, free⟩ := hpoint
    exact ⟨queue, inv.goesOn h rfl ⟨hnonzero, rfl, free, rfl⟩⟩
  | store text next place =>
    obtain ⟨hnonzero, rfl, free, rfl⟩ := hpoint
    refine ⟨queue, inv.shares.store _, ?_, ?_, inv.ended⟩
    · rw [inv.sent, calls_of_running h]
      rfl
    · intro other at' hrunning
      cases Option.some.inj hrunning
      refine ⟨?_, rfl, free, Function.update_self _ _ _⟩
      show call.sent ++ text.headD 0 :: cString text.tail = cString call.text
      rw [← cString_of_nonzero hnonzero]
      exact hleft
  | publish byte text next =>
    obtain ⟨rfl, free, hstored⟩ := hpoint
    refine ⟨queue.put byte free, inv.shares.publish free hstored, ?_, ?_, inv.ended⟩
    · show queue.sent ++ [byte] = _
      rw [inv.sent, calls_of_running h, State.calls, State.write]
      simp
    · intro other at' hrunning
      cases Option.some.inj hrunning
      refine ⟨?_, trivial⟩
      show call.sent ++ [byte] ++ cString text = cString call.text
      rw [List.append_assoc]
      exact hleft

/-- Each load or store of either side keeps the invariant. -/
theorem Inv.step {event : Event} (inv : Inv s queue) (h : step s event = some s') :
    ∃ queue' : Fifo UInt8 size, Inv s' queue' := by
  cases event with
  | call text =>
    rw [Fixture.step] at h
    cases hrunning : s.running with
    | some running =>
      rw [hrunning] at h
      cases h
    | none =>
      rw [hrunning] at h
      cases Option.some.inj h
      refine ⟨queue, inv.shares, ?_, ?_, inv.ended⟩
      · rw [inv.sent, State.calls, State.calls, hrunning, State.goesOn]
        simp
      · intro call point hpoint
        cases Option.some.inj hpoint
        exact ⟨rfl, trivial⟩
  | write =>
    obtain ⟨⟨call, point⟩, hrunning, rfl⟩ := Option.map_eq_some_iff.mp h
    exact inv.write hrunning
  | look =>
    cases Option.some.inj h
    exact ⟨queue, inv.shares.look, inv.sent, inv.running, inv.ended⟩
  | fetch place =>
    rw [Fixture.step] at h
    split at h
    next hplace =>
      cases Option.some.inj h
      exact ⟨queue, inv.shares.fetch hplace, inv.sent, inv.running, inv.ended⟩
    next => cases h
  | advance count =>
    rw [Fixture.step] at h
    split at h
    next hcount =>
      obtain ⟨bytes, hbytes, rfl⟩ := Option.map_eq_some_iff.mp h
      obtain ⟨there, hshares⟩ := inv.shares.advance hcount hbytes
      refine ⟨queue.take count there, hshares, inv.sent, ?_, inv.ended⟩
      intro call point hrunning
      obtain ⟨hleft, hpoint⟩ := inv.running call point hrunning
      refine ⟨hleft, hpoint.of_read ?_ rfl rfl rfl⟩
      rw [Fifo.waiting_take, List.length_drop]
      omega
    next => cases h

/-- The invariant for the queue of the fixture's own ring. -/
def Queued (s : State) : Prop := ∃ queue : Fifo UInt8 1024, Inv s queue

theorem queued_of_reached (h : Reached Fixture.step anyStep start s) : Queued s := by
  have hstart : Queued start := ⟨_, inv_start⟩
  apply Reached.invariant hstart _ h
  rintro s event s' ⟨queue, inv⟩ - hstep
  exact inv.step hstep

end steps

end invariant

section delivery

variable {s s' : State} {event : Event}

/-- The cell that the running call is about to store a byte into. -/
def State.storing (s : State) : Option Nat :=
  match s.running with
  | some (_, .store _ _ place) => some place
  | _ => none

/-- What the host reads is what the calls have written, each text as far as there was room for it. -/
structure Delivers (s : State) : Prop where
  writeOffset : s.channel.writeOffset < s.channel.size
  readOffset : s.channel.readOffset < s.channel.size
  storing : ∀ place, s.storing = some place → place < s.channel.size ∧
    ∀ i, i < s.channel.unread → (s.channel.readOffset + i) % s.channel.size ≠ place
  sent : ∀ call, call ∈ s.calls → call.sent <+: cString call.text
  whole : ∀ call, (call, .whole) ∈ s.ended → call.sent = cString call.text
  cut : ∀ call unread, (call, .cut unread) ∈ s.ended → unread + 1 = s.channel.size
  loaded : ∀ place byte, s.host.fetched place = some byte →
    (s.calls.flatMap Call.sent)[s.host.read.length + place]? = some byte
  read : s.host.read <+: s.calls.flatMap Call.sent
  unread : s.host.read ++ s.channel.unreadBytes = s.calls.flatMap Call.sent

theorem storing_eq_some {place : Nat} (h : s.storing = some place) :
    ∃ call text next, s.running = some (call, .store text next place) := by
  unfold State.storing at h
  split at h
  next call text next place' hrunning =>
    cases Option.some.inj h
    exact ⟨call, text, next, hrunning⟩
  next => cases h

/-- The only step that changes the buffer is the store of the running call, into its cell. -/
theorem buffer_of_step (h : step s event = some s') {cell : Nat} (other : s.storing ≠ some cell) :
    s'.channel.buffer cell = s.channel.buffer cell := by
  cases event with
  | call text =>
    rw [step] at h
    split at h
    · cases Option.some.inj h
      rfl
    · cases h
  | write =>
    obtain ⟨⟨call, point⟩, hrunning, rfl⟩ := Option.map_eq_some_iff.mp h
    rw [State.storing, hrunning] at other
    cases point with
    | test text =>
      rw [State.write]
      split <;> rfl
    | compare text next =>
      rw [State.write]
      split <;> rfl
    | store text next place =>
      have hne : cell ≠ place := fun heq => other (congrArg some heq.symm)
      exact Function.update_of_ne hne _ _
    | load | wrap | index | publish => rfl
  | look =>
    cases Option.some.inj h
    rfl
  | fetch place =>
    rw [step] at h
    split at h
    · cases Option.some.inj h
      rfl
    · cases h
  | advance count =>
    rw [step] at h
    split at h
    · obtain ⟨bytes, -, rfl⟩ := Option.map_eq_some_iff.mp h
      rfl
    · cases h

theorem Inv.sent_of_call {size : Nat} {queue : Fifo UInt8 size} (inv : Inv s queue) {call : Call}
    (h : call ∈ s.calls) : call.sent <+: cString call.text := by
  rcases List.mem_append.mp h with hended | hrunning
  · obtain ⟨⟨other, ending⟩, hmem, rfl⟩ := List.mem_map.mp hended
    have how := inv.ended other ending hmem
    cases ending with
    | whole => exact ⟨[], by rw [List.append_nil]; exact how⟩
    | cut unread => exact how.1
  · obtain ⟨⟨other, point⟩, hmem, rfl⟩ := List.mem_map.mp hrunning
    exact ⟨point.left, (inv.running other point (Option.mem_toList.mp hmem)).1⟩

theorem Inv.delivers {size : Nat} {queue : Fifo UInt8 size} (inv : Inv s queue) : Delivers s := by
  have hsize := inv.shares.size_eq
  have hread : s.host.read ++ s.channel.unreadBytes = s.calls.flatMap Call.sent := by
    rw [inv.shares.read, inv.shares.unreadBytes, ← inv.sent, Fifo.waiting, List.take_append_drop]
  have hlength : s.host.read.length = queue.taken := by
    rw [inv.shares.read, List.length_take, Nat.min_eq_left queue.bound]
  refine ⟨?_, ?_, ?_, fun _ => inv.sent_of_call, fun call => inv.ended call .whole, ?_, ?_, ⟨_, hread⟩, hread⟩
  · rw [hsize]
    exact inv.shares.rings.write_lt
  · rw [hsize]
    exact inv.shares.rings.read_lt
  · intro place hplace
    obtain ⟨call, text, next, hrunning⟩ := storing_eq_some hplace
    obtain ⟨-, -, -, -, rfl⟩ := inv.running _ _ hrunning
    rw [hsize, inv.shares.unread]
    exact ⟨inv.shares.rings.write_lt, fun i hi => inv.shares.rings.place_ne_write hi⟩
  · intro call unread hmem
    rw [hsize]
    exact (inv.ended call (.cut unread) hmem).2
  · rw [hlength, ← inv.sent]
    exact inv.shares.loaded

/-- In every interleaving of the loads and stores of the firmware and the host, the host reads what the calls
have written, in order, and no step changes a byte that it has still to read. -/
theorem rtt_delivers (h : Reached step anyStep start s) : Delivers s ∧
    ∀ event s', step s event = some s' → ∀ i, i < s.channel.unread →
      s'.channel.buffer ((s.channel.readOffset + i) % s.channel.size) =
        s.channel.buffer ((s.channel.readOffset + i) % s.channel.size) := by
  obtain ⟨queue, inv⟩ := queued_of_reached h
  have delivers := inv.delivers
  refine ⟨delivers, ?_⟩
  intro event s' hstep i hi
  apply buffer_of_step hstep
  intro hstoring
  exact (delivers.storing _ hstoring).2 i hi rfl

/-- The host reads the first byte of a text while the call that writes it is still running. -/
theorem rtt_delivers_first : ∃ s, Reached step anyStep start s ∧
    (s.host.read = [65] ∧ s.calls = [⟨[65, 66, 0], [65]⟩]) ∧ Delivers s ∧
    ∀ event s', step s event = some s' → ∀ i, i < s.channel.unread →
      s'.channel.buffer ((s.channel.readOffset + i) % s.channel.size) =
        s.channel.buffer ((s.channel.readOffset + i) % s.channel.size) := by
  have hrun : (run step anyStep start (.call [65, 66, 0] :: List.replicate 13 .write ++
      [.look, .fetch 0, .advance 1])).any
      (fun s => decide (s.host.read = [65] ∧ s.calls = [⟨[65, 66, 0], [65]⟩])) = true := by decide
  obtain ⟨s, reached, hread⟩ := exists_reached_of_run hrun
  exact ⟨s, reached, of_decide_eq_true hread, rtt_delivers reached⟩

end delivery

end JLinkMcp.Fixture
