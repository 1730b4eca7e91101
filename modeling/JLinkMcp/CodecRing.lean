import Mathlib.Logic.Function.Basic

namespace Codec

variable {α : Type}

/-- The `n` cells of a ring of `size` cells at `base`, in ring order from relative place `start`. -/
def ringSlice (mem : Nat → α) (base size start n : Nat) : List α :=
  (List.range n).map fun i => mem (base + (start + i) % size)

section slice

variable (mem : Nat → α) (base size start : Nat)

@[simp] theorem ringSlice_length (n : Nat) : (ringSlice mem base size start n).length = n := by
  simp [ringSlice]

theorem ringSlice_getElem? {i n : Nat} (h : i < n) :
    (ringSlice mem base size start n)[i]? = some (mem (base + (start + i) % size)) := by
  simp [ringSlice, h]

@[simp] theorem ringSlice_mod (n : Nat) :
    ringSlice mem base size (start % size) n = ringSlice mem base size start n := by
  simp [ringSlice]

theorem ringSlice_succ (n : Nat) :
    ringSlice mem base size start (n + 1) =
      mem (base + start % size) :: ringSlice mem base size (start + 1) n := by
  simp [ringSlice, List.range_succ_eq_map, Nat.add_assoc, Nat.add_comm 1]

/-- A stretch of a slice is the slice from its place. -/
theorem ringSlice_window {k n total : Nat} (h : k + n ≤ total) :
    ringSlice mem base size (start + k) n = ((ringSlice mem base size start total).drop k).take n := by
  apply List.ext_getElem?
  intro i
  by_cases hi : i < n
  · rw [ringSlice_getElem? _ _ _ _ hi, List.getElem?_take_of_lt hi, List.getElem?_drop,
      ringSlice_getElem? _ _ _ _ (by omega), Nat.add_assoc]
  · rw [List.getElem?_eq_none (by simpa using hi), List.getElem?_eq_none (by simp; omega)]

theorem ringSlice_append (m n : Nat) :
    ringSlice mem base size start (m + n) =
      ringSlice mem base size start m ++ ringSlice mem base size (start + m) n := by
  have hm := ringSlice_window mem base size start (show 0 + m ≤ m + n by omega)
  have hn := ringSlice_window mem base size start (k := m) (n := n) (Nat.le_refl (m + n))
  rw [Nat.add_zero, List.drop_zero] at hm
  rw [List.take_of_length_le (by simp)] at hn
  rw [hm, hn, List.take_append_drop]

end slice

theorem place_ne_of_lt {size start i j : Nat} (hij : i < j) (hj : j < size) :
    (start + j) % size ≠ (start + i) % size := by
  intro he
  have hd := Nat.sub_mod_eq_zero_of_mod_eq he
  rw [Nat.add_sub_add_left, Nat.mod_eq_of_lt (by omega)] at hd
  omega

/-- Two different places of one turn of the ring are different cells. -/
theorem ring_place_ne (start : Nat) {size i j : Nat} (hi : i < size) (hj : j < size) (h : i ≠ j) :
    (start + i) % size ≠ (start + j) % size := by
  intro he
  rcases Nat.lt_or_gt_of_ne h with hlt | hlt
  · exact absurd he.symm (place_ne_of_lt hlt hj)
  · exact absurd he (place_ne_of_lt hlt hi)

/-- Storing at a place of the slice sets that place. -/
theorem ringSlice_update {mem : Nat → α} {base size start k total : Nat} (hk : k < total)
    (fits : total ≤ size) (v : α) :
    ringSlice (Function.update mem (base + (start + k) % size) v) base size start total =
      (ringSlice mem base size start total).set k v := by
  apply List.ext_getElem?
  intro i
  by_cases hi : i < total
  · rw [ringSlice_getElem? _ _ _ _ hi, List.getElem?_set]
    by_cases he : k = i
    · subst he
      simp [hk]
    · have hne := ring_place_ne start (show i < size by omega) (by omega) (Ne.symm he)
      rw [if_neg he, ringSlice_getElem? _ _ _ _ hi, Function.update_of_ne (by omega)]
  · rw [List.getElem?_eq_none (by simpa using hi), List.getElem?_eq_none (by simpa using hi)]

/-- Storing at the first free place appends to the slice. -/
theorem ringSlice_push {mem : Nat → α} {base size start n : Nat} (room : n < size) (v : α) :
    ringSlice (Function.update mem (base + (start + n) % size) v) base size start (n + 1) =
      ringSlice mem base size start n ++ [v] := by
  rw [ringSlice_update (Nat.lt_add_one n) room, ringSlice_append, List.set_append_right n v (by simp),
    ringSlice_length, Nat.sub_self]
  rfl

/-- Memories with the same ring have the same slices. -/
theorem ringSlice_congr {mem mem' : Nat → α} {base size : Nat} (pos : 0 < size)
    (same : ∀ a, base ≤ a → a < base + size → mem' a = mem a) (start n : Nat) :
    ringSlice mem' base size start n = ringSlice mem base size start n := by
  unfold ringSlice
  apply List.map_congr_left
  intro i _
  have hlt := Nat.mod_lt (start + i) pos
  exact same _ (Nat.le_add_right _ _) (by omega)

/-- One round of moving a stretch of a list forward to a lower place. -/
theorem take_move_succ {xs : List α} {src dst n : Nat} {v : α} (hv : xs[src]? = some v)
    (forward : dst ≤ src) :
    ((xs.set dst v).take (dst + 1) ++ ((xs.set dst v).drop (src + 1)).take n ++
        (xs.set dst v).drop (dst + 1 + n)) =
      xs.take dst ++ (xs.drop src).take (n + 1) ++ xs.drop (dst + (n + 1)) := by
  have hsrc := (List.getElem?_eq_some_iff.mp hv).1
  have hhead : (xs.set dst v).take (dst + 1) = xs.take dst ++ [v] := by
    rw [List.take_add_one, List.take_set_of_le (Nat.le_refl dst), List.getElem?_set_self (by omega)]
    rfl
  have hnext : (xs.drop src).take (n + 1) = v :: (xs.drop (src + 1)).take n := by
    rw [List.drop_eq_getElem_cons hsrc, (List.getElem?_eq_some_iff.mp hv).2, List.take_succ_cons]
  rw [hhead, List.drop_set_of_lt (by omega), List.drop_set_of_lt (by omega), hnext,
    Nat.add_right_comm dst 1 n, Nat.add_assoc dst n 1]
  simp

end Codec
