import JLinkMcp.FirmwareWire
import JLinkMcp.HostFrame
import Mathlib.Logic.Function.Basic

namespace JLinkMcp.Firmware

open Codec

/-- The cells of an output buffer, and the indices that were read from the input and written. -/
structure Buffers where
  cells : Nat → UInt8
  reads : List Nat := []
  writes : List Nat := []

namespace Buffers

def load (buffers : Buffers) (index : Nat) : Buffers := { buffers with reads := index :: buffers.reads }

def store (buffers : Buffers) (index : Nat) (byte : UInt8) : Buffers :=
  { buffers with cells := Function.update buffers.cells index byte, writes := index :: buffers.writes }

/-- No access lies outside of an input of this length and an output of this capacity. -/
structure InBounds (length capacity : Nat) (buffers : Buffers) : Prop where
  reads : ∀ index ∈ buffers.reads, index < length
  writes : ∀ index ∈ buffers.writes, index < capacity

/-- The cells below the length of the output hold it. -/
def Holds (buffers : Buffers) (output : Bytes) : Prop :=
  ∀ index < output.length, output[index]? = some (buffers.cells index)

/-- The cells hold the output, but for the code that is still to be set. -/
def HoldsExcept (buffers : Buffers) (codeIndex : Nat) (output : Bytes) : Prop :=
  ∀ index < output.length, index ≠ codeIndex → output[index]? = some (buffers.cells index)

end Buffers

/-- `cobsEncode` from its loop on, over the cells of the output. -/
def cobsEncodeFrom (input : Bytes) (capacity read write codeIndex : Nat) (code : UInt8) (buffers : Buffers) :
    Nat × Buffers :=
  if read < input.length then
    let byte := input.getD read 0
    if byte = 0 then
      if codeIndex ≥ capacity then (0, buffers.load read)
      else cobsEncodeFrom input capacity (read + 1) (write + 1) write 1
        ((buffers.load read).store codeIndex code)
    else if write ≥ capacity then (0, buffers.load read)
    else if code + 1 = 0xFF then
      cobsEncodeFrom input capacity (read + 1) (write + 2) (write + 1) 1
        (((buffers.load read).store write byte).store codeIndex (code + 1))
    else cobsEncodeFrom input capacity (read + 1) (write + 1) codeIndex (code + 1)
      ((buffers.load read).store write byte)
  else if codeIndex ≥ capacity then (0, buffers)
  else (write, buffers.store codeIndex code)
  termination_by input.length - read

/-- `cobsEncode` into an output buffer: what it returns, and the buffers after it. -/
def cobsEncodeInto (input : Bytes) (capacity : Nat) (cells : Nat → UInt8) : Nat × Buffers :=
  if capacity = 0 then (0, ⟨cells, [], []⟩) else cobsEncodeFrom input capacity 0 1 0 1 ⟨cells, [], []⟩

/-- `for (uint8_t index = 1; index < code; ++index)` of `cobsDecode` from an index on; the new
`read` and `write` where it ends, nothing where the function returns zero. -/
def cobsCopyFrom (input : Bytes) (capacity : Nat) (code index : UInt8) (read write : Nat) (buffers : Buffers) :
    Option (Nat × Nat) × Buffers :=
  if index < code then
    if write ≥ capacity then (none, buffers)
    else cobsCopyFrom input capacity code (index + 1) (read + 1) (write + 1)
      ((buffers.load read).store write (input.getD read 0))
  else (some (read, write), buffers)
  termination_by code.toNat - index.toNat
  decreasing_by
    have hlt : index.toNat < code.toNat := UInt8.lt_iff_toNat_lt.mp (by assumption)
    have hcode := code.toNat_lt
    rw [UInt8.toNat_add]
    have hone : (1 : UInt8).toNat = 1 := rfl
    omega

/-- The loop of `cobsDecode` over the cells of the output. Every round reads a code byte. -/
def cobsDecodeFrom (input : Bytes) (capacity : Nat) : Nat → Nat → Nat → Buffers → Nat × Buffers
  | 0, _, write, buffers => (write, buffers)
  | rounds + 1, read, write, buffers =>
    if read < input.length then
      let code := input.getD read 0
      if code = 0 ∨ read + 1 + code.toNat - 1 > input.length then (0, buffers.load read)
      else
        match cobsCopyFrom input capacity code 1 (read + 1) write (buffers.load read) with
        | (none, buffers) => (0, buffers)
        | (some (read, write), buffers) =>
          if code ≠ 0xFF ∧ read < input.length then
            if write ≥ capacity then (0, buffers)
            else cobsDecodeFrom input capacity rounds read (write + 1) (buffers.store write 0)
          else cobsDecodeFrom input capacity rounds read write buffers
    else (write, buffers)

def cobsDecodeInto (input : Bytes) (capacity : Nat) (cells : Nat → UInt8) : Nat × Buffers :=
  cobsDecodeFrom input capacity input.length 0 0 ⟨cells, [], []⟩

namespace Buffers

variable {buffers : Buffers} {length capacity codeIndex index : Nat} {byte : UInt8} {output : Bytes}

theorem store_cells_self : (buffers.store index byte).cells index = byte := Function.update_self ..

theorem store_cells_of_ne {other : Nat} (h : other ≠ index) :
    (buffers.store index byte).cells other = buffers.cells other := Function.update_of_ne h ..

theorem InBounds.load (h : InBounds length capacity buffers) (hindex : index < length) :
    InBounds length capacity (buffers.load index) := by
  refine ⟨fun i hi => ?_, h.writes⟩
  rcases List.mem_cons.mp hi with rfl | hi
  · exact hindex
  · exact h.reads i hi

theorem InBounds.store (h : InBounds length capacity buffers) (hindex : index < capacity) :
    InBounds length capacity (buffers.store index byte) := by
  refine ⟨h.reads, fun i hi => ?_⟩
  rcases List.mem_cons.mp hi with rfl | hi
  · exact hindex
  · exact h.writes i hi

theorem holds_nil : Holds buffers [] := fun index h => absurd h (Nat.not_lt_zero index)

/-- The code is set, and nothing is open any more. -/
theorem HoldsExcept.set (h : HoldsExcept buffers codeIndex output) :
    Holds (buffers.store codeIndex byte) (output.set codeIndex byte) := by
  intro i hi
  rw [List.length_set] at hi
  by_cases hcode : i = codeIndex
  · rw [hcode] at hi ⊢
    rw [List.getElem?_set_self hi, store_cells_self]
  · rw [List.getElem?_set_ne (Ne.symm hcode), h i hi hcode, store_cells_of_ne hcode]

/-- The next byte stands behind the output. -/
theorem HoldsExcept.push (h : HoldsExcept buffers codeIndex output) :
    HoldsExcept (buffers.store output.length byte) codeIndex (output ++ [byte]) := by
  intro i hi hcode
  rw [List.length_append, List.length_singleton] at hi
  by_cases hlast : i = output.length
  · rw [hlast, List.getElem?_concat_length, store_cells_self]
  · rw [List.getElem?_append_left (by omega), h i (by omega) hcode, store_cells_of_ne hlast]

theorem Holds.push (h : Holds buffers output) : Holds (buffers.store output.length byte) (output ++ [byte]) := by
  intro i hi
  rw [List.length_append, List.length_singleton] at hi
  by_cases hlast : i = output.length
  · rw [hlast, List.getElem?_concat_length, store_cells_self]
  · rw [List.getElem?_append_left (by omega), h i (by omega), store_cells_of_ne hlast]

/-- A new code stands behind the output, whatever the cell holds. -/
theorem Holds.open (h : Holds buffers output) : HoldsExcept buffers output.length (output ++ [byte]) := by
  intro i hi hlast
  rw [List.length_append, List.length_singleton] at hi
  rw [List.getElem?_append_left (by omega)]
  exact h i (by omega)

end Buffers

/-- What a call leaves: its result is the length of the output, the cells hold it, no access was out
of bounds. -/
structure Fills (length capacity : Nat) (output : Bytes) (result : Nat × Buffers) : Prop where
  returned : result.1 = output.length
  holds : result.2.Holds output
  inBounds : result.2.InBounds length capacity

section cobs

variable {input output : Bytes} {capacity read write codeIndex : Nat} {code : UInt8} {buffers : Buffers}

theorem fills_nothing (h : buffers.InBounds input.length capacity) :
    Fills input.length capacity [] (0, buffers) := ⟨rfl, Buffers.holds_nil, h⟩

theorem drop_getD (h : read < input.length) : input.drop read = input.getD read 0 :: input.drop (read + 1) := by
  rw [List.drop_eq_getElem_cons h, List.getD_eq_getElem?_getD, List.getElem?_eq_getElem h]
  rfl

/-- The loop over cells does what the loop over lists does; the code byte lies below `write`, so that
it may be written wherever the byte before `write` was. -/
theorem cobsEncodeFrom_fills (hwrite : write = output.length) (hcode : codeIndex < output.length)
    (holds : buffers.HoldsExcept codeIndex output) (inBounds : buffers.InBounds input.length capacity) :
    Fills input.length capacity (cobsEncodeLoop capacity (input.drop read) output codeIndex code)
      (cobsEncodeFrom input capacity read write codeIndex code buffers) := by
  induction hn : input.length - read generalizing read write codeIndex code buffers output with
  | zero =>
    rw [cobsEncodeFrom, if_neg (by omega), List.drop_of_length_le (by omega), cobsEncodeLoop]
    by_cases hfull : codeIndex ≥ capacity
    · rw [if_pos hfull, if_pos hfull]
      exact fills_nothing inBounds
    · rw [if_neg hfull, if_neg hfull]
      exact ⟨by rw [List.length_set, hwrite], holds.set, inBounds.store (by omega)⟩
  | succ n ih =>
    have hread : read < input.length := by omega
    have hloaded := inBounds.load hread
    rw [cobsEncodeFrom, if_pos hread, drop_getD hread, cobsEncodeLoop]
    dsimp only
    split
    next hzero =>
      by_cases hfull : codeIndex ≥ capacity
      · rw [if_pos hfull, if_pos hfull]
        exact fills_nothing hloaded
      · rw [if_neg hfull, if_neg hfull]
        have hset : ((buffers.load read).store codeIndex code).Holds (output.set codeIndex code) :=
          Buffers.HoldsExcept.set holds
        have hopen := @Buffers.Holds.open _ 0 _ hset
        rw [List.length_set, ← hwrite] at hopen
        rw [← hwrite]
        exact ih (by simp [hwrite]) (by simp [hwrite]) hopen (hloaded.store (by omega)) (by omega)
    next hzero =>
      rw [← hwrite]
      by_cases hfull : write ≥ capacity
      · rw [if_pos hfull, if_pos hfull]
        exact fills_nothing hloaded
      · rw [if_neg hfull, if_neg hfull]
        have hpush : ((buffers.load read).store write (input.getD read 0)).HoldsExcept codeIndex
            (output ++ [input.getD read 0]) := by
          rw [hwrite]
          exact Buffers.HoldsExcept.push holds
        have hstored : ((buffers.load read).store write (input.getD read 0)).InBounds input.length capacity :=
          hloaded.store (Nat.lt_of_not_le hfull)
        split
        next hmax =>
          have hset := @Buffers.HoldsExcept.set _ _ (code + 1) _ hpush
          have hopen := @Buffers.Holds.open _ 0 _ hset
          rw [List.length_set, List.length_append, List.length_singleton, ← hwrite] at hopen
          exact ih (by simp [hwrite]) (by simp [hwrite]) hopen (hstored.store (by omega)) (by omega)
        next hmax =>
          exact ih (by simp [hwrite]) (by simp; omega) hpush hstored (by omega)

theorem toNat_pos (h : code ≠ 0) : 0 < code.toNat :=
  Nat.pos_of_ne_zero fun hzero => h (UInt8.toNat_inj.mp hzero)

/-- What the inner loop leaves, as the loop over lists says. -/
def Copied (input : Bytes) (capacity read : Nat) :
    Option (Bytes × Bytes) → Option (Nat × Nat) × Buffers → Prop
  | none, result => result.1 = none ∧ result.2.InBounds input.length capacity
  | some (rest, output), result =>
    result.1 = some (read, output.length) ∧ rest = input.drop read ∧ result.2.Holds output ∧
      result.2.InBounds input.length capacity

theorem cobsCopyFrom_copied {index : UInt8} {count : Nat} (hcount : index.toNat + count = code.toNat)
    (enough : read + count ≤ input.length) (holds : buffers.Holds output)
    (inBounds : buffers.InBounds input.length capacity) :
    Copied input capacity (read + count) (cobsCopy capacity count (input.drop read) output)
      (cobsCopyFrom input capacity code index read output.length buffers) := by
  induction count generalizing index read output buffers with
  | zero =>
    have hdone : ¬index < code := by rw [UInt8.lt_iff_toNat_lt]; omega
    rw [cobsCopyFrom, if_neg hdone, cobsCopy]
    exact ⟨rfl, rfl, holds, inBounds⟩
  | succ count ih =>
    have hmore : index < code := by rw [UInt8.lt_iff_toNat_lt]; omega
    have hread : read < input.length := by omega
    rw [cobsCopyFrom, if_pos hmore, drop_getD hread, cobsCopy]
    by_cases hfull : output.length ≥ capacity
    · rw [if_pos hfull, if_pos hfull]
      exact ⟨rfl, inBounds⟩
    · rw [if_neg hfull, if_neg hfull]
      have hcode := code.toNat_lt
      have hnext : (index + 1).toNat = index.toNat + 1 := by
        rw [UInt8.toNat_add, show (1 : UInt8).toNat = 1 from rfl]
        omega
      have hpush : ((buffers.load read).store output.length (input.getD read 0)).Holds
          (output ++ [input.getD read 0]) := Buffers.Holds.push holds
      have hstored : ((buffers.load read).store output.length (input.getD read 0)).InBounds
          input.length capacity := (inBounds.load hread).store (Nat.lt_of_not_le hfull)
      have hnextCount : (index + 1).toNat + count = code.toNat := by omega
      have hnextEnough : read + 1 + count ≤ input.length := by omega
      have h := ih hnextCount hnextEnough hpush hstored
      rw [List.length_append, List.length_singleton, Nat.add_assoc, Nat.add_comm 1] at h
      exact h

theorem cobsDecodeFrom_fills {rounds : Nat} (holds : buffers.Holds output)
    (inBounds : buffers.InBounds input.length capacity) (enough : input.length - read ≤ rounds) :
    Fills input.length capacity (cobsDecodeLoop capacity rounds (input.drop read) output)
      (cobsDecodeFrom input capacity rounds read output.length buffers) := by
  induction rounds generalizing read output buffers with
  | zero =>
    rw [List.drop_of_length_le (by omega), cobsDecodeLoop, cobsDecodeFrom]
    exact ⟨rfl, holds, inBounds⟩
  | succ rounds ih =>
    rw [cobsDecodeFrom]
    by_cases hread : read < input.length
    · have hloaded := inBounds.load hread
      rw [if_pos hread, drop_getD hread, cobsDecodeLoop, List.length_drop]
      dsimp only
      generalize input.getD read 0 = code at *
      have hcheck : (code = 0 ∨ read + 1 + code.toNat - 1 > input.length) ↔
          (code = 0 ∨ code.toNat - 1 > input.length - (read + 1)) := by
        refine or_congr_right' fun hne => ?_
        have hpos := toNat_pos hne
        omega
      rw [if_congr hcheck rfl rfl]
      by_cases hbad : code = 0 ∨ code.toNat - 1 > input.length - (read + 1)
      · rw [if_pos hbad, if_pos hbad]
        exact fills_nothing hloaded
      · rw [if_neg hbad, if_neg hbad]
        rw [not_or] at hbad
        have hpos := toNat_pos hbad.1
        have hcount : (1 : UInt8).toNat + (code.toNat - 1) = code.toNat := by
          rw [show (1 : UInt8).toNat = 1 from rfl]
          omega
        have henough : read + 1 + (code.toNat - 1) ≤ input.length := by omega
        have hkept : (buffers.load read).Holds output := holds
        have hcopied := cobsCopyFrom_copied hcount henough hkept hloaded
        generalize cobsCopyFrom input capacity code 1 (read + 1) output.length (buffers.load read) = result
          at hcopied ⊢
        obtain ⟨indices, buffers'⟩ := result
        cases hcopy : cobsCopy capacity (code.toNat - 1) (input.drop (read + 1)) output with
        | none =>
          rw [hcopy] at hcopied
          obtain ⟨hnone, hin⟩ := hcopied
          cases hnone
          exact fills_nothing hin
        | some copied =>
          obtain ⟨rest, output'⟩ := copied
          rw [hcopy] at hcopied
          obtain ⟨hsome, hrest, hholds, hin⟩ := hcopied
          cases hsome
          have hmore : code ≠ 0xFF ∧ rest ≠ [] ↔ code ≠ 0xFF ∧ read + 1 + (code.toNat - 1) < input.length := by
            rw [hrest, ne_eq (List.drop _ input), List.drop_eq_nil_iff, Nat.not_le]
          dsimp only
          by_cases hzero : code ≠ 0xFF ∧ rest ≠ []
          · rw [if_pos hzero, if_pos (hmore.mp hzero), hrest]
            by_cases hfull : output'.length ≥ capacity
            · rw [if_pos hfull, if_pos hfull]
              exact fills_nothing hin
            · rw [if_neg hfull, if_neg hfull]
              have hpush : (buffers'.store output'.length 0).Holds (output' ++ [0]) := hholds.push
              have h := ih hpush (hin.store (Nat.lt_of_not_le hfull))
                (show input.length - (read + 1 + (code.toNat - 1)) ≤ rounds by omega)
              rw [List.length_append, List.length_singleton] at h
              exact h
          · rw [if_neg hzero, if_neg (mt hmore.mpr hzero), hrest]
            exact ih hholds hin (by omega)
    · rw [if_neg hread, List.drop_of_length_le (by omega), cobsDecodeLoop]
      exact ⟨rfl, holds, inBounds⟩

theorem cobsEncodeInto_fills (input : Bytes) (capacity : Nat) (cells : Nat → UInt8) :
    Fills input.length capacity (cobsEncode input capacity) (cobsEncodeInto input capacity cells) := by
  have hin : (Buffers.mk cells [] []).InBounds input.length capacity := ⟨nofun, nofun⟩
  rw [cobsEncode, cobsEncodeInto]
  split
  next => exact fills_nothing hin
  next =>
    have hopen : (Buffers.mk cells [] []).HoldsExcept 0 [0] := fun i hi h => absurd (Nat.lt_one_iff.mp hi) h
    exact @cobsEncodeFrom_fills input [0] capacity 0 1 0 1 _ rfl Nat.one_pos hopen hin

theorem cobsDecodeInto_fills (input : Bytes) (capacity : Nat) (cells : Nat → UInt8) :
    Fills input.length capacity (cobsDecode input capacity) (cobsDecodeInto input capacity cells) := by
  have hin : (Buffers.mk cells [] []).InBounds input.length capacity := ⟨nofun, nofun⟩
  exact @cobsDecodeFrom_fills input [] capacity 0 _ _ Buffers.holds_nil hin (Nat.sub_le _ _)

end cobs

end JLinkMcp.Firmware

namespace JLinkMcp

open Codec Firmware

/-- The host reads back what it stuffs, without a delimiter and with little more than one byte in 254;
what it reads is never longer than what it was given. -/
theorem hostCobs_roundtrip (data : Bytes) :
    Host.cobsDecode (Host.cobsEncode data) = .ok data ∧ (0 : UInt8) ∉ Host.cobsEncode data ∧
      (Host.cobsEncode data).length ≤ data.length + data.length / 254 + 1 ∧
      (data.length ≤ Host.maxTransportFrame → (Host.cobsEncode data).length ≤ Host.maxCobsFrame ∧
        (Host.cobsEncode data).length ≤ kEncodedCapacity) ∧
      (data ≠ [] → (0 : UInt8) ∉ data →
        (∃ message, Host.cobsDecode data = .error (.bridgeWire message)) ∨
          ∃ out, Host.cobsDecode data = .ok out ∧ out.length ≤ data.length) := by
  have hlength := stuff_length_le data
  rw [Host.cobsEncode_eq_stuff]
  refine ⟨Host.cobsEncode_eq_stuff data ▸ Host.cobsDecode_cobsEncode data, zero_not_mem_stuff data,
    hlength, fun hframe => ?_, fun hne hfree => ?_⟩
  · simp only [Host.maxTransportFrame] at hframe
    simp only [Host.maxCobsFrame, Host.maxTransportFrame, kEncodedCapacity, kMaxDecodedFrame]
    omega
  · rcases Host.cobsDecode_cases hne hfree with ⟨out, hout, hok⟩ | ⟨_, herror⟩
    · exact Or.inr ⟨out, hok, unstuff_length_le hout⟩
    · exact Or.inl herror

/-- The firmware's encoder writes what the host's does where it fits, and nothing else; its decoder
writes what the host's decoder returns where that is not empty and fits. Neither leaves its buffers. -/
theorem firmwareCobs_agrees (input : Bytes) (capacity : Nat) (cells : Nat → UInt8) :
    (((cobsEncodeInto input capacity cells).1 = 0 ↔ capacity < (Host.cobsEncode input).length) ∧
      ((cobsEncodeInto input capacity cells).1 ≠ 0 →
        (cobsEncodeInto input capacity cells).1 = (Host.cobsEncode input).length ∧
          (cobsEncodeInto input capacity cells).2.Holds (Host.cobsEncode input)) ∧
      (cobsEncodeInto input capacity cells).2.InBounds input.length capacity) ∧
    ((0 : UInt8) ∉ input →
      (∀ out, Host.cobsDecode input = .ok out → out ≠ [] → out.length ≤ capacity →
        (cobsDecodeInto input capacity cells).1 = out.length ∧
          (cobsDecodeInto input capacity cells).2.Holds out) ∧
      ((¬∃ out, Host.cobsDecode input = .ok out ∧ out ≠ [] ∧ out.length ≤ capacity) →
        (cobsDecodeInto input capacity cells).1 = 0) ∧
      (cobsDecodeInto input capacity cells).2.InBounds input.length capacity) := by
  obtain ⟨hencoded, hholds, hin⟩ := cobsEncodeInto_fills input capacity cells
  obtain ⟨hdecoded, hout, hbounds⟩ := cobsDecodeInto_fills input capacity cells
  have hpos := List.length_pos_iff.mpr (stuffFrom_ne_nil [] input)
  rw [cobsEncode_eq_fitted, ← Host.cobsEncode_eq_stuff] at hencoded hholds
  rw [cobsDecode_eq_fitted] at hdecoded hout
  have hstuff : 0 < (Host.cobsEncode input).length := by
    rw [Host.cobsEncode_eq_stuff]
    exact hpos
  refine ⟨⟨?_, ?_, hin⟩, fun hfree => ⟨?_, ?_, hbounds⟩⟩
  · by_cases hfits : (Host.cobsEncode input).length ≤ capacity
    · rw [fitted_of_le hfits] at hencoded
      omega
    · rw [fitted_of_lt (Nat.lt_of_not_le hfits)] at hencoded
      exact ⟨fun _ => Nat.lt_of_not_le hfits, fun _ => hencoded⟩
  · intro hne
    by_cases hfits : (Host.cobsEncode input).length ≤ capacity
    · rw [fitted_of_le hfits] at hencoded hholds
      exact ⟨hencoded, hholds⟩
    · rw [fitted_of_lt (Nat.lt_of_not_le hfits)] at hencoded
      exact absurd hencoded hne
  · intro out hok hne hfits
    have hinput : input ≠ [] := by
      intro hnil
      rw [hnil] at hok
      cases hok
    rcases Host.cobsDecode_cases hinput hfree with ⟨out', hunstuff, hok'⟩ | ⟨_, message, herror⟩
    · cases hok'.symm.trans hok
      rw [hunstuff, Option.elim_some, fitted_of_le hfits] at hdecoded hout
      exact ⟨hdecoded, hout⟩
    · cases herror.symm.trans hok
  · intro hnone
    rw [hdecoded]
    by_cases hinput : input = []
    · rw [hinput, unstuff, Option.elim_some]
      rw [fitted_of_le (Nat.zero_le _)]
      rfl
    · rcases Host.cobsDecode_cases hinput hfree with ⟨out, hunstuff, hok⟩ | ⟨hunstuff, _⟩
      · rw [hunstuff, Option.elim_some]
        by_cases hfits : out.length ≤ capacity
        · have hempty : out = [] := not_not.mp fun hne => hnone ⟨out, hok, hne, hfits⟩
          rw [hempty, fitted_of_le (Nat.zero_le _)]
          rfl
        · rw [fitted_of_lt (Nat.lt_of_not_le hfits)]
          rfl
      · rw [hunstuff]
        rfl

end JLinkMcp
