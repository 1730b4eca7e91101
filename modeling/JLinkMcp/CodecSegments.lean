/-! Cutting a list into segments of a fixed size, the last one possibly shorter. -/

namespace Codec

variable {α : Type}

def segments (size : Nat) (xs : List α) : List (List α) :=
  (List.range ((xs.length + size - 1) / size)).map fun i => (xs.drop (i * size)).take size

@[simp] theorem segments_length (size : Nat) (xs : List α) :
    (segments size xs).length = (xs.length + size - 1) / size := by
  simp [segments]

theorem flatten_range_slices (size count : Nat) (xs : List α) :
    ((List.range count).map fun i => (xs.drop (i * size)).take size).flatten =
      xs.take (count * size) := by
  induction count with
  | zero => simp
  | succ count ih =>
    rw [List.range_succ, List.map_append, List.flatten_append, ih, Nat.succ_mul, List.take_add]
    simp

/-- Nothing is lost at a cut. -/
theorem flatten_segments {size : Nat} (pos : 0 < size) (xs : List α) :
    (segments size xs).flatten = xs := by
  rw [segments, flatten_range_slices]
  apply List.take_of_length_le
  have h := Nat.lt_div_mul_add (a := xs.length + size - 1) pos
  omega

theorem length_le_of_mem_segments {size : Nat} {xs segment : List α}
    (h : segment ∈ segments size xs) : segment.length ≤ size := by
  obtain ⟨i, _, rfl⟩ := List.mem_map.mp h
  exact List.length_take_le _ _

end Codec
