import JLinkMcp.FirmwareCobs
import JLinkMcp.FirmwareUsb
import Mathlib.Data.Nat.Find

namespace JLinkMcp.Firmware

/-- `sizeof(serial)` of `usbSerial` -/
def kSerialSize : Nat := 126

/-- The memory from `serial` on: the buffer, and what happens to stand behind it. -/
def serialMemory (serial : Bytes) (beyond : Nat → UInt8) (index : Nat) : UInt8 :=
  if index < kSerialSize then serial.getD index 0 else beyond index

/-- The copying loop of `usbSerial` over the memory and the cells of the output; how many bytes are written where
it ends, nothing where the function returns false. -/
def copySerialFrom (memory : Nat → UInt8) (capacity index written : Nat) (buffers : Buffers) :
    Option Nat × Buffers :=
  if index + 1 < (memory 0).toNat ∧ written + 1 < capacity then
    let buffers := (buffers.load 0).load (index + 1)
    if memory (index + 1) ≠ 0 then (none, buffers.store 0 0)
    else
      let buffers := buffers.load index
      if memory index < 0x20 ∨ 0x7E < memory index then (none, buffers.store 0 0)
      else copySerialFrom memory capacity (index + 2) (written + 1) (buffers.store written (memory index))
  else (some written, buffers.load 0)
  termination_by (memory 0).toNat - index

/-- `usbSerial` behind its three reads: the device, language and serial descriptor in their zeroed buffers, nothing
where a read fails. -/
def usbSerialInto (device language serial : Option Bytes) (beyond : Nat → UInt8) (capacity : Nat)
    (cells : Nat → UInt8) : Bool × Buffers :=
  let refused : Bool × Buffers := (false, Buffers.store ⟨cells, [], []⟩ 0 0)
  match device, language, serial with
  | some device, some _, some serial =>
    if device.getD 16 0 = 0 then refused
    else if serial.getD 0 0 < 2 then (false, (Buffers.load ⟨cells, [], []⟩ 0).store 0 0)
    else
      match copySerialFrom (serialMemory serial beyond) capacity 2 0 (Buffers.load ⟨cells, [], []⟩ 0) with
      | (none, buffers) => (false, buffers)
      | (some written, buffers) => (written > 0, buffers.store written 0)
  | _, _, _ => refused

/-- The low byte of a unit of the descriptor's text. -/
def unitByte (memory : Nat → UInt8) (unit : Nat) : UInt8 := memory (2 + 2 * unit)

/-- A unit that is a printable character of ASCII. -/
def PrintableUnit (memory : Nat → UInt8) (unit : Nat) : Prop :=
  memory (3 + 2 * unit) = 0 ∧ ¬(unitByte memory unit < 0x20 ∨ 0x7E < unitByte memory unit)

/-- The units that the length byte of a descriptor announces. -/
def descriptorUnits (serial : Bytes) : Nat := ((serial.getD 0 0).toNat - 2) / 2

section loop

variable {memory : Nat → UInt8} {capacity written last : Nat} {buffers : Buffers}

/-- A round on a printable unit. -/
theorem copySerialFrom_printable (more : 3 + 2 * written < (memory 0).toNat) (room : written + 1 < capacity)
    (printable : PrintableUnit memory written) :
    copySerialFrom memory capacity (2 + 2 * written) written buffers =
      copySerialFrom memory capacity (2 + 2 * (written + 1)) (written + 1)
        ((((buffers.load 0).load (3 + 2 * written)).load (2 + 2 * written)).store written
          (unitByte memory written)) := by
  have hindex : 2 + 2 * written + 1 = 3 + 2 * written := by omega
  have hnext : 2 + 2 * written + 2 = 2 + 2 * (written + 1) := by omega
  rw [copySerialFrom, hindex, if_pos ⟨more, room⟩, hnext]
  dsimp only
  rw [if_neg (not_not.mpr printable.1)]
  exact if_neg printable.2

/-- A round on any other unit ends the loop. -/
theorem copySerialFrom_refused (more : 3 + 2 * written < (memory 0).toNat) (room : written + 1 < capacity)
    (refused : ¬PrintableUnit memory written) :
    ∃ loads, copySerialFrom memory capacity (2 + 2 * written) written buffers =
        (none, Buffers.store { buffers with reads := loads ++ buffers.reads } 0 0) ∧
      3 + 2 * written ∈ loads ∧ ∀ index ∈ loads, index = 0 ∨ index = 2 + 2 * written ∨ index = 3 + 2 * written := by
  have hindex : 2 + 2 * written + 1 = 3 + 2 * written := by omega
  rw [copySerialFrom, hindex, if_pos ⟨more, room⟩]
  dsimp only
  by_cases hhigh : memory (3 + 2 * written) = 0
  · refine ⟨[2 + 2 * written, 3 + 2 * written, 0], ?_, by simp, by simp⟩
    rw [if_neg (not_not.mpr hhigh), if_pos]
    · rfl
    · by_contra hlow
      exact refused ⟨hhigh, hlow⟩
  · refine ⟨[3 + 2 * written, 0], ?_, by simp, by simp⟩
    rw [if_pos hhigh]
    rfl

/-- The loop ends at the last unit or where the output is full. -/
theorem copySerialFrom_end (done : ¬(3 + 2 * written < (memory 0).toNat ∧ written + 1 < capacity)) :
    copySerialFrom memory capacity (2 + 2 * written) written buffers = (some written, buffers.load 0) := by
  have hindex : 2 + 2 * written + 1 = 3 + 2 * written := by omega
  rw [copySerialFrom, hindex, if_neg done]

/-- Nothing that was read is forgotten. -/
theorem mem_reads_copySerialFrom {read : Nat} {rounds : Nat} (h : read ∈ buffers.reads)
    (enough : (memory 0).toNat ≤ 2 + 2 * written + rounds) :
    read ∈ (copySerialFrom memory capacity (2 + 2 * written) written buffers).2.reads := by
  induction rounds generalizing written buffers with
  | zero =>
    rw [copySerialFrom_end fun hmore => by omega]
    exact List.mem_cons_of_mem _ h
  | succ rounds ih =>
    by_cases hmore : 3 + 2 * written < (memory 0).toNat ∧ written + 1 < capacity
    · by_cases hprintable : PrintableUnit memory written
      · rw [copySerialFrom_printable hmore.1 hmore.2 hprintable]
        refine ih ?_ (by omega)
        exact List.mem_cons_of_mem _ (List.mem_cons_of_mem _ (List.mem_cons_of_mem _ h))
      · obtain ⟨loads, heq, -, -⟩ := @copySerialFrom_refused _ _ _ buffers hmore.1 hmore.2 hprintable
        rw [heq]
        exact List.mem_append_right _ h
    · rw [copySerialFrom_end hmore]
      exact List.mem_cons_of_mem _ h

/-- What the rounds before have done to the buffers of a call. -/
structure SerialCopied (memory : Nat → UInt8) (stop : Nat) (buffers : Buffers) : Prop where
  reads : ∀ index ∈ buffers.reads, index < 2 + 2 * stop
  writes : ∀ index ∈ buffers.writes, index < stop
  cells : ∀ index < stop, buffers.cells index = unitByte memory index

theorem serialCopied_zero (cells : Nat → UInt8) : SerialCopied memory 0 (Buffers.load ⟨cells, [], []⟩ 0) := by
  refine ⟨fun index hindex => ?_, nofun, nofun⟩
  obtain rfl := List.mem_singleton.mp hindex
  decide

theorem SerialCopied.succ {stop : Nat} (copied : SerialCopied memory stop buffers) :
    SerialCopied memory (stop + 1) ((((buffers.load 0).load (3 + 2 * stop)).load (2 + 2 * stop)).store stop
      (unitByte memory stop)) := by
  constructor
  · intro index hindex
    simp only [Buffers.store, Buffers.load, List.mem_cons] at hindex
    rcases hindex with rfl | rfl | rfl | hindex
    · omega
    · omega
    · omega
    · have hbound := copied.reads index hindex
      omega
  · intro index hindex
    rcases List.mem_cons.mp hindex with rfl | hindex
    · omega
    · have hbound := copied.writes index hindex
      omega
  · intro index hindex
    by_cases hlast : index = stop
    · subst hlast
      exact Buffers.store_cells_self
    · exact (Buffers.store_cells_of_ne hlast).trans (copied.cells index (by omega))

/-- The loop over the printable units at the beginning. -/
theorem copySerialFrom_run {stop : Nat} (units : stop ≤ ((memory 0).toNat - 2) / 2) (room : stop ≤ capacity - 1)
    (printable : ∀ unit < stop, PrintableUnit memory unit) (copied : SerialCopied memory 0 buffers) :
    ∃ after, copySerialFrom memory capacity 2 0 buffers = copySerialFrom memory capacity (2 + 2 * stop) stop after ∧
      SerialCopied memory stop after := by
  induction stop with
  | zero => exact ⟨buffers, rfl, copied⟩
  | succ stop ih =>
    obtain ⟨after, heq, hcopied⟩ := ih (by omega) (by omega) fun unit hunit => printable unit (by omega)
    refine ⟨_, ?_, hcopied.succ⟩
    rw [heq, copySerialFrom_printable (by omega) (by omega) (printable stop (by omega))]

end loop

section memory

variable {serial : Bytes} {beyond : Nat → UInt8}

theorem serialMemory_zero : serialMemory serial beyond 0 = serial.getD 0 0 := rfl

theorem unitByte_serialMemory {unit : Nat} (h : unit < 62) :
    unitByte (serialMemory serial beyond) unit = unitByte (fun index => serial.getD index 0) unit := by
  have hlow : 2 + 2 * unit < kSerialSize := by
    rw [kSerialSize]
    omega
  exact if_pos hlow

theorem printableUnit_serialMemory {unit : Nat} (h : unit < 62) :
    PrintableUnit (serialMemory serial beyond) unit ↔ PrintableUnit (fun index => serial.getD index 0) unit := by
  have hhigh : 3 + 2 * unit < kSerialSize := by
    rw [kSerialSize]
    omega
  have hbyte : serialMemory serial beyond (3 + 2 * unit) = serial.getD (3 + 2 * unit) 0 := if_pos hhigh
  rw [PrintableUnit, PrintableUnit, unitByte_serialMemory h, hbyte]

end memory

/-- The accesses stay within the buffers, the output ends with a NUL, and it is true only for the text of the
descriptor. -/
structure SerialSound (serial : Option Bytes) (capacity : Nat) (result : Bool × Buffers) : Prop where
  inBounds : Buffers.InBounds kSerialSize capacity result.2
  terminated : ∃ index < capacity, result.2.cells index = 0
  exact : result.1 = true → ∃ descriptor, serial = some descriptor ∧
    (∀ unit < descriptorUnits descriptor, PrintableUnit (fun index => descriptor.getD index 0) unit ∧
      result.2.cells unit = unitByte (fun index => descriptor.getD index 0) unit) ∧
    result.2.cells (descriptorUnits descriptor) = 0

/-- A unit that is not printable among those that are read, an output of the NUL alone, or as many units as the
buffer and the output hold. -/
def SerialFits (serial : Bytes) (capacity : Nat) : Prop :=
  capacity = 1 ∨ descriptorUnits serial ≤ min 62 (capacity - 1) ∨
    ∃ unit < min (descriptorUnits serial) (min 62 (capacity - 1)),
      ¬PrintableUnit (fun index => serial.getD index 0) unit

section serial

variable {device language serial : Bytes} {beyond : Nat → UInt8} {capacity : Nat} {cells : Nat → UInt8}

/-- The outcomes of the loop. -/
theorem copySerialFrom_cases (serial : Bytes) (beyond : Nat → UInt8) (capacity : Nat) (cells : Nat → UInt8) :
    (∃ after, SerialCopied (serialMemory serial beyond) (min (descriptorUnits serial) (capacity - 1)) after ∧
      (∀ unit < min (descriptorUnits serial) (capacity - 1), PrintableUnit (serialMemory serial beyond) unit) ∧
      copySerialFrom (serialMemory serial beyond) capacity 2 0 (Buffers.load ⟨cells, [], []⟩ 0) =
        (some (min (descriptorUnits serial) (capacity - 1)), after.load 0)) ∨
    ∃ unit after loads, unit < min (descriptorUnits serial) (capacity - 1) ∧
      ¬PrintableUnit (serialMemory serial beyond) unit ∧
      (∀ other < unit, PrintableUnit (serialMemory serial beyond) other) ∧
      SerialCopied (serialMemory serial beyond) unit after ∧ (∀ index ∈ loads, index ≤ 3 + 2 * unit) ∧
      copySerialFrom (serialMemory serial beyond) capacity 2 0 (Buffers.load ⟨cells, [], []⟩ 0) =
        (none, Buffers.store { after with reads := loads ++ after.reads } 0 0) := by
  classical
  by_cases hall : ∀ unit < min (descriptorUnits serial) (capacity - 1),
    PrintableUnit (serialMemory serial beyond) unit
  · left
    obtain ⟨after, heq, hcopied⟩ := copySerialFrom_run (Nat.min_le_left _ _) (Nat.min_le_right _ _) hall
      (@serialCopied_zero (serialMemory serial beyond) cells)
    refine ⟨after, hcopied, hall, heq.trans (copySerialFrom_end ?_)⟩
    have hunits : descriptorUnits serial = ((serialMemory serial beyond 0).toNat - 2) / 2 := rfl
    omega
  · right
    have hexists : ∃ unit, unit < min (descriptorUnits serial) (capacity - 1) ∧
        ¬PrintableUnit (serialMemory serial beyond) unit := by
      by_contra hnone
      exact hall fun unit hunit => by
        by_contra hbad
        exact hnone ⟨unit, hunit, hbad⟩
    obtain ⟨hunit, hbad⟩ := Nat.find_spec hexists
    have hfirst : ∀ other < Nat.find hexists, PrintableUnit (serialMemory serial beyond) other := by
      intro other hother
      by_contra hbad'
      exact Nat.find_min hexists hother ⟨by omega, hbad'⟩
    have hunits : Nat.find hexists < ((serialMemory serial beyond 0).toNat - 2) / 2 := by
      have hmin := Nat.min_le_left (descriptorUnits serial) (capacity - 1)
      exact Nat.lt_of_lt_of_le hunit hmin
    obtain ⟨after, heq, hcopied⟩ := @copySerialFrom_run _ capacity _ (Nat.find hexists) (by omega) (by omega) hfirst
      (@serialCopied_zero (serialMemory serial beyond) cells)
    obtain ⟨loads, hrefused, -, hloads⟩ := @copySerialFrom_refused _ capacity _ after (by omega) (by omega) hbad
    refine ⟨_, after, loads, hunit, hbad, hfirst, hcopied, ?_, heq.trans hrefused⟩
    intro index hindex
    have hcases := hloads index hindex
    omega

theorem Buffers.terminated_store (buffers : Buffers) {index : Nat} (h : index < capacity) :
    ∃ index' < capacity, (buffers.store index 0).cells index' = 0 := ⟨index, h, Buffers.store_cells_self⟩

theorem serialSound_refused {found : Option Bytes} {buffers : Buffers}
    (bounds : buffers.InBounds kSerialSize capacity)
    (pos : 0 < capacity) : SerialSound found capacity (false, buffers.store 0 0) :=
  ⟨bounds.store pos, Buffers.terminated_store _ pos, nofun⟩

/-- The loop ends below the size of the buffer and of the output. -/
theorem serialSound_of_fits {found : Bytes} (fits : SerialFits found capacity) (pos : 0 < capacity) :
    SerialSound (some found) capacity
      (match copySerialFrom (serialMemory found beyond) capacity 2 0 (Buffers.load ⟨cells, [], []⟩ 0) with
        | (none, buffers) => (false, buffers)
        | (some written, buffers) => (written > 0, buffers.store written 0)) := by
  rcases copySerialFrom_cases found beyond capacity cells with
    ⟨after, copied, hall, heq⟩ | ⟨unit, after, loads, hunit, hbad, hfirst, copied, hloads, heq⟩
  · rw [heq]
    dsimp only
    have hsmall : min (descriptorUnits found) (capacity - 1) ≤ 62 ∧
        (0 < min (descriptorUnits found) (capacity - 1) → descriptorUnits found ≤ capacity - 1) := by
      rcases fits with hone | hunits | ⟨bad, hbad, hnot⟩
      · omega
      · omega
      · have hprintable := hall bad (by omega)
        exact absurd ((printableUnit_serialMemory (by omega)).mp hprintable) hnot
    obtain ⟨hsize, hroom⟩ := hsmall
    have hbounds : Buffers.InBounds kSerialSize capacity (after.load 0) := by
      refine Buffers.InBounds.load ⟨fun index hindex => ?_, fun index hindex => ?_⟩ (by decide)
      · have hread := copied.reads index hindex
        rw [kSerialSize]
        omega
      · have hwrite := copied.writes index hindex
        omega
    refine ⟨hbounds.store (by omega), Buffers.terminated_store _ (by omega), fun htrue => ?_⟩
    have hpos : 0 < min (descriptorUnits found) (capacity - 1) := of_decide_eq_true htrue
    have hunits : min (descriptorUnits found) (capacity - 1) = descriptorUnits found :=
      Nat.min_eq_left (hroom hpos)
    rw [hunits] at hall copied hsize ⊢
    refine ⟨found, rfl, fun unit hunit => ⟨?_, ?_⟩, Buffers.store_cells_self⟩
    · exact (printableUnit_serialMemory (by omega)).mp (hall unit hunit)
    · rw [Buffers.store_cells_of_ne (by omega), ← @unitByte_serialMemory found beyond unit (by omega)]
      exact copied.cells unit hunit
  · rw [heq]
    dsimp only
    have hsmall : unit < 62 := by
      rcases fits with hone | hunits | ⟨bad, hbad', hnot⟩
      · omega
      · omega
      · by_contra hlarge
        exact hnot ((printableUnit_serialMemory (by omega)).mp (hfirst bad (by omega)))
    refine serialSound_refused ⟨fun index hindex => ?_, fun index hindex => ?_⟩ pos
    · rw [kSerialSize]
      rcases List.mem_append.mp hindex with hload | hread
      · have hbound := hloads index hload
        omega
      · have hbound := copied.reads index hread
        omega
    · have hwrite := copied.writes index hindex
      omega

/-- With 63 printable units or more announced and room for them the loop reads behind the buffer; with less room it
is true for a text that is cut off. -/
theorem serialFits_of_sound {found : Bytes} (pos : 0 < capacity)
    (sound : SerialSound (some found) capacity
      (match copySerialFrom (serialMemory found beyond) capacity 2 0 (Buffers.load ⟨cells, [], []⟩ 0) with
        | (none, buffers) => (false, buffers)
        | (some written, buffers) => (written > 0, buffers.store written 0))) : SerialFits found capacity := by
  by_contra hnot
  simp only [SerialFits, not_or, Nat.not_le, not_exists, not_and, not_not] at hnot
  obtain ⟨hone, hunits, hprintable⟩ := hnot
  by_cases hroom : capacity - 1 ≤ 62
  · have hmin : min (descriptorUnits found) (capacity - 1) = capacity - 1 := by omega
    rcases copySerialFrom_cases found beyond capacity cells with
      ⟨after, copied, hall, heq⟩ | ⟨unit, after, loads, hunit, hbad, hfirst, copied, hloads, heq⟩
    · rw [heq, hmin] at sound
      dsimp only at sound
      obtain ⟨descriptor, hdescriptor, hexact, -⟩ := sound.exact (decide_eq_true (by omega))
      obtain rfl := Option.some.inj hdescriptor
      obtain ⟨hunit, hcell⟩ := hexact (capacity - 1) (by omega)
      rw [Buffers.store_cells_self] at hcell
      exact hunit.2 (Or.inl (hcell ▸ by decide))
    · have hgood := hprintable unit (by omega)
      exact hbad ((printableUnit_serialMemory (by omega)).mpr hgood)
  · have hlong : 62 < descriptorUnits found := by omega
    have hall : ∀ unit < 62, PrintableUnit (serialMemory found beyond) unit := fun unit hunit =>
      (printableUnit_serialMemory hunit).mpr (hprintable unit (by omega))
    obtain ⟨after, heq, copied⟩ := @copySerialFrom_run (serialMemory found beyond) capacity _ 62
      (Nat.le_of_lt hlong) (by omega) hall (@serialCopied_zero (serialMemory found beyond) cells)
    have hmore : 3 + 2 * 62 < (serialMemory found beyond 0).toNat := by
      rw [serialMemory_zero]
      rw [descriptorUnits] at hlong
      omega
    have hread : 127 ∈ (copySerialFrom (serialMemory found beyond) capacity 2 0
        (Buffers.load ⟨cells, [], []⟩ 0)).2.reads := by
      rw [heq]
      by_cases hunit : PrintableUnit (serialMemory found beyond) 62
      · rw [copySerialFrom_printable hmore (by omega) hunit]
        exact mem_reads_copySerialFrom (List.mem_cons_of_mem _ List.mem_cons_self) (Nat.le_add_left _ _)
      · obtain ⟨loads, hrefused, hload, -⟩ := @copySerialFrom_refused _ capacity _ after hmore (by omega) hunit
        rw [hrefused]
        exact List.mem_append_left _ hload
    have hbounds := sound.inBounds.reads 127
    cases hloop : copySerialFrom (serialMemory found beyond) capacity 2 0 (Buffers.load ⟨cells, [], []⟩ 0) with
    | mk written buffers =>
      rw [hloop] at hread hbounds
      cases written with
      | none => exact absurd (hbounds hread) (by decide)
      | some written => exact absurd (hbounds hread) (by decide)

/-- The serial descriptor of a call whose reads all succeed, of a device that has one. -/
def readSerial (device language serial : Option Bytes) : Option Bytes :=
  device.bind fun device =>
  language.bind fun _ =>
  serial.bind fun serial =>
  if device.getD 16 0 = 0 ∨ serial.getD 0 0 < 2 then none else some serial

/-- The function is sound exactly where the descriptor that it reads fits its buffers. -/
theorem usbSerialInto_sound_iff (device language serial : Option Bytes) (beyond : Nat → UInt8)
    (cells : Nat → UInt8) {capacity : Nat} (pos : 1 ≤ capacity) :
    SerialSound serial capacity (usbSerialInto device language serial beyond capacity cells) ↔
      ∀ found, readSerial device language serial = some found → SerialFits found capacity := by
  have hrefused : SerialSound serial capacity (false, Buffers.store ⟨cells, [], []⟩ 0 0) :=
    serialSound_refused ⟨nofun, nofun⟩ pos
  cases device with
  | none => exact iff_of_true hrefused nofun
  | some device =>
    cases language with
    | none => exact iff_of_true hrefused nofun
    | some language =>
      cases serial with
      | none => exact iff_of_true hrefused nofun
      | some serial =>
        simp only [usbSerialInto, readSerial, Option.bind_some]
        by_cases hdevice : device.getD 16 0 = 0
        · rw [if_pos hdevice, if_pos (Or.inl hdevice)]
          exact iff_of_true hrefused nofun
        · by_cases hshort : serial.getD 0 0 < 2
          · rw [if_neg hdevice, if_pos hshort, if_pos (Or.inr hshort)]
            refine iff_of_true (serialSound_refused ?_ pos) nofun
            exact Buffers.InBounds.load ⟨nofun, nofun⟩ (by decide)
          · rw [if_neg hdevice, if_neg hshort, if_neg (not_or.mpr ⟨hdevice, hshort⟩)]
            constructor
            · intro h found hfound
              obtain rfl := Option.some.inj hfound
              exact serialFits_of_sound pos h
            · exact fun h => serialSound_of_fits (h serial rfl) pos

/-- The loop of `usbSerial` over a list finds the same text while the loop over the memory stays in the buffer. -/
theorem copySerialFrom_copySerial {written fuel : Nat} {output : Bytes} {buffers : Buffers}
    (small : min (descriptorUnits serial) (capacity - 1) ≤ 62) (length : output.length = written)
    (holds : buffers.Holds output) (enough : capacity ≤ fuel + written) :
    match copySerialFrom (serialMemory serial beyond) capacity (2 + 2 * written) written buffers,
        copySerial serial capacity output fuel (2 + 2 * written) with
    | (none, _), none => True
    | (some last, buffers), some output => output.length = last ∧ buffers.Holds output
    | _, _ => False := by
  have hunits : descriptorUnits serial = ((serialMemory serial beyond 0).toNat - 2) / 2 := rfl
  have hzero : (serialMemory serial beyond 0).toNat = (serial.getD 0 0).toNat := rfl
  have hindex : 2 + 2 * written + 1 = 3 + 2 * written := by omega
  induction fuel generalizing written output buffers with
  | zero =>
    rw [copySerialFrom_end fun hmore => by omega]
    exact ⟨length, holds⟩
  | succ fuel ih =>
    rw [copySerial, hindex, ← hzero, length]
    dsimp only
    by_cases hmore : 3 + 2 * written < (serialMemory serial beyond 0).toNat ∧ written + 1 < capacity
    · have hlt : written < 62 := by omega
      have hagrees := @printableUnit_serialMemory serial beyond written hlt
      rw [if_pos hmore]
      by_cases hprintable : PrintableUnit (serialMemory serial beyond) written
      · have hlisted := hagrees.mp hprintable
        have hvalue : unitByte (serialMemory serial beyond) written = serial.getD (2 + 2 * written) 0 :=
          unitByte_serialMemory hlt
        rw [copySerialFrom_printable hmore.1 hmore.2 hprintable, if_neg]
        · refine ih ?_ ?_ (by omega) (by omega)
          · rw [List.length_append, length, List.length_singleton]
          · rw [hvalue, ← length]
            exact Buffers.Holds.push holds
        · rintro (hhigh | hlow)
          · exact hhigh hlisted.1
          · exact hlisted.2 hlow
      · obtain ⟨loads, hrefused, -, -⟩ := @copySerialFrom_refused _ _ _ buffers hmore.1 hmore.2 hprintable
        have hlisted : ¬PrintableUnit (fun index => serial.getD index 0) written := fun h =>
            hprintable (hagrees.mpr h)
        rw [hrefused, if_pos]
        · trivial
        · by_contra hnot
          rw [not_or, not_not] at hnot
          exact hlisted hnot
    · rw [copySerialFrom_end hmore, if_neg hmore]
      exact ⟨length, holds⟩

end serial

instance (memory : Nat → UInt8) (unit : Nat) : Decidable (PrintableUnit memory unit) :=
  inferInstanceAs (Decidable (_ ∧ _))

/-- The descriptor of a device with a serial. -/
def sampleDevice : Bytes := List.replicate 16 0 ++ [3, 1]

/-- 62 letters under a length byte that announces 63. -/
def longSerial : Bytes := [128, 3] ++ (List.replicate 62 [65, 0]).flatten

theorem longSerial_overread :
    ¬SerialSound (some longSerial) 127
      (usbSerialInto (some sampleDevice) (some [4, 3, 9, 4]) (some longSerial) (fun _ => 0) 127
        (fun _ => 0)) := by
  intro h
  have hfits : SerialFits longSerial 127 := serialFits_of_sound (show 0 < 127 by decide) h
  rcases hfits with hone | hunits | ⟨unit, hunit, hbad⟩
  · exact absurd hone (by decide)
  · exact absurd hunits (by decide)
  · have hall : ∀ unit < 62, PrintableUnit (fun index => longSerial.getD index 0) unit := by decide
    exact hbad (hall unit (Nat.lt_of_lt_of_le hunit (by decide)))

theorem usbSerialInto_sound_iff_sample :
    SerialSound (some [6, 3, 65, 0, 66, 0]) 127
      (usbSerialInto (some sampleDevice) (some [4, 3, 9, 4]) (some [6, 3, 65, 0, 66, 0]) (fun _ => 0) 127
        (fun _ => 0)) := by
  refine (usbSerialInto_sound_iff _ _ _ _ _ (show 1 ≤ 127 by decide)).mpr ?_
  intro found hfound
  obtain rfl := Option.some.inj (show some [6, 3, 65, 0, 66, 0] = some found from hfound)
  exact Or.inr (Or.inl (by decide))

end JLinkMcp.Firmware
