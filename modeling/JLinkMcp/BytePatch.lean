import Mathlib.Data.List.Basic

/-! Pieces of a list that are read, written over and laid out at their places. -/

namespace BytePatch

variable {α : Type} {bytes image patch : List α} {place length other i : Nat}

/-- The bytes at a place, fewer where the list ends. -/
def slice (bytes : List α) (place length : Nat) : List α := (bytes.drop place).take length

/-- The list with the bytes at a place written over. -/
def splice (bytes : List α) (place : Nat) (patch : List α) : List α :=
  bytes.take place ++ patch ++ bytes.drop (place + patch.length)

theorem length_slice (bytes : List α) (place length : Nat) :
    (slice bytes place length).length = min length (bytes.length - place) := by
  rw [slice, List.length_take, List.length_drop]

theorem length_splice (fits : place + patch.length ≤ bytes.length) :
    (splice bytes place patch).length = bytes.length := by
  rw [splice, List.length_append, List.length_append, List.length_take, List.length_drop]
  omega

theorem getElem?_slice (bytes : List α) (place length i : Nat) :
    (slice bytes place length)[i]? = if i < length then bytes[place + i]? else none := by
  rw [slice, List.getElem?_take, List.getElem?_drop]

/-- Outside of the patch the list is as it was. -/
theorem getElem?_splice_of_outside (fits : place + patch.length ≤ bytes.length)
    (outside : i < place ∨ place + patch.length ≤ i) : (splice bytes place patch)[i]? = bytes[i]? := by
  have htake : (bytes.take place).length = place := by
    rw [List.length_take]
    omega
  have hfront : (bytes.take place ++ patch).length = place + patch.length := by
    rw [List.length_append, htake]
  rw [splice]
  rcases outside with hbefore | hbehind
  · rw [List.append_assoc, List.getElem?_append_left (by omega), List.getElem?_take, if_pos hbefore]
  · rw [List.getElem?_append_right (by omega), hfront, List.getElem?_drop]
    congr 1
    omega

theorem getElem?_splice_of_inside (fits : place + patch.length ≤ bytes.length) (hi : i < patch.length) :
    (splice bytes place patch)[place + i]? = patch[i]? := by
  have htake : (bytes.take place).length = place := by
    rw [List.length_take]
    omega
  rw [splice, List.append_assoc, List.getElem?_append_right (by omega), htake, List.getElem?_append_left (by omega)]
  congr 1
  omega

theorem slice_congr {bytes' : List α} (h : ∀ i, place ≤ i → i < place + length → bytes'[i]? = bytes[i]?) :
    slice bytes' place length = slice bytes place length := by
  apply List.ext_getElem?
  intro i
  rw [getElem?_slice, getElem?_slice]
  split
  next hi => exact h (place + i) (by omega) (by omega)
  next => rfl

/-- To write what is there changes nothing. -/
theorem splice_slice (fits : place + patch.length ≤ bytes.length)
    (same : slice bytes place patch.length = patch) : splice bytes place patch = bytes := by
  apply List.ext_getElem?
  intro i
  by_cases inside : place ≤ i ∧ i < place + patch.length
  · obtain ⟨offset, rfl⟩ := Nat.exists_eq_add_of_le inside.1
    have hoffset : offset < patch.length := by omega
    rw [getElem?_splice_of_inside fits hoffset]
    conv_lhs => rw [← same]
    rw [getElem?_slice, if_pos hoffset]
  · exact getElem?_splice_of_outside fits (by omega)

/-- Of two patches at one place the second one stays. -/
theorem splice_splice {patch' : List α} (fits : place + patch.length ≤ bytes.length)
    (same : patch'.length = patch.length) :
    splice (splice bytes place patch) place patch' = splice bytes place patch' := by
  have hlength := length_splice fits
  apply List.ext_getElem?
  intro i
  by_cases inside : place ≤ i ∧ i < place + patch'.length
  · obtain ⟨offset, rfl⟩ := Nat.exists_eq_add_of_le inside.1
    rw [getElem?_splice_of_inside (by omega) (by omega), getElem?_splice_of_inside (by omega) (by omega)]
  · rw [getElem?_splice_of_outside (by omega) (by omega), getElem?_splice_of_outside fits (by omega),
      getElem?_splice_of_outside (by omega) (by omega)]

/-- A part of what was written is read. -/
theorem slice_splice_of_inside (fits : place + patch.length ≤ bytes.length) (within : i + length ≤ patch.length) :
    slice (splice bytes place patch) (place + i) length = slice patch i length := by
  apply List.ext_getElem?
  intro j
  rw [getElem?_slice, getElem?_slice]
  split
  next hj =>
    rw [Nat.add_assoc]
    exact getElem?_splice_of_inside fits (by omega)
  next => rfl

/-- Two patches one behind the other. -/
theorem splice_append {patch' : List α} (fits : place + (patch ++ patch').length ≤ bytes.length) :
    splice (splice bytes place patch) (place + patch.length) patch' = splice bytes place (patch ++ patch') := by
  have hboth : (patch ++ patch').length = patch.length + patch'.length := List.length_append
  have hfirst : place + patch.length ≤ bytes.length := by omega
  have hlength := length_splice hfirst
  apply List.ext_getElem?
  intro i
  by_cases hbefore : i < place
  · rw [getElem?_splice_of_outside (by omega) (by omega), getElem?_splice_of_outside hfirst (by omega),
      getElem?_splice_of_outside fits (by omega)]
  · obtain ⟨offset, rfl⟩ := Nat.exists_eq_add_of_le (Nat.le_of_not_lt hbefore)
    by_cases hin : offset < patch.length
    · rw [getElem?_splice_of_outside (by omega) (by omega), getElem?_splice_of_inside hfirst hin,
        getElem?_splice_of_inside fits (by omega), List.getElem?_append_left hin]
    · obtain ⟨more, rfl⟩ := Nat.exists_eq_add_of_le (Nat.le_of_not_lt hin)
      by_cases hmore : more < patch'.length
      · rw [← Nat.add_assoc, getElem?_splice_of_inside (by omega) hmore, Nat.add_assoc,
          getElem?_splice_of_inside fits (by omega), List.getElem?_append_right (by omega), Nat.add_sub_cancel_left]
      · rw [getElem?_splice_of_outside (by omega) (by omega), getElem?_splice_of_outside hfirst (by omega),
          getElem?_splice_of_outside fits (by omega)]

/-- A patch within a patch. -/
theorem splice_splice_of_inside {patch' : List α} (fits : place + patch.length ≤ bytes.length)
    (within : i + patch'.length ≤ patch.length) :
    splice (splice bytes place patch) (place + i) patch' = splice bytes place (splice patch i patch') := by
  have hlength := length_splice fits
  have hpatch := length_splice within
  apply List.ext_getElem?
  intro j
  by_cases inside : place ≤ j ∧ j < place + patch.length
  · obtain ⟨offset, rfl⟩ := Nat.exists_eq_add_of_le inside.1
    rw [getElem?_splice_of_inside (by omega) (by omega)]
    by_cases hin : i ≤ offset ∧ offset < i + patch'.length
    · obtain ⟨more, rfl⟩ := Nat.exists_eq_add_of_le hin.1
      rw [← Nat.add_assoc, getElem?_splice_of_inside (by omega) (by omega),
        getElem?_splice_of_inside within (by omega)]
    · rw [getElem?_splice_of_outside (by omega) (by omega), getElem?_splice_of_outside within (by omega),
        getElem?_splice_of_inside fits (by omega)]
  · rw [getElem?_splice_of_outside (by omega) (by omega), getElem?_splice_of_outside fits (by omega),
      getElem?_splice_of_outside (by omega) (by omega)]

section set

variable {b : α}

/-- What is written over does not matter. -/
theorem splice_set_of_inside (fits : place + patch.length ≤ bytes.length)
    (inside : place ≤ i ∧ i < place + patch.length) :
    splice (bytes.set i b) place patch = splice bytes place patch := by
  have hset : place + patch.length ≤ (bytes.set i b).length := by
    rw [List.length_set]
    exact fits
  apply List.ext_getElem?
  intro j
  by_cases hj : place ≤ j ∧ j < place + patch.length
  · obtain ⟨offset, rfl⟩ := Nat.exists_eq_add_of_le hj.1
    rw [getElem?_splice_of_inside hset (by omega), getElem?_splice_of_inside fits (by omega)]
  · rw [getElem?_splice_of_outside hset (by omega), getElem?_splice_of_outside fits (by omega),
      List.getElem?_set_ne (by omega)]

theorem set_ne_self (hi : i < bytes.length) (other : bytes[i]? ≠ some b) : bytes.set i b ≠ bytes := by
  intro same
  rw [← same, List.getElem?_set_self hi] at other
  exact other rfl

theorem slice_set_of_inside (hi : i < length) :
    slice (bytes.set (place + i) b) place length = (slice bytes place length).set i b := by
  apply List.ext_getElem?
  intro j
  rw [getElem?_slice, List.getElem?_set, List.getElem?_set, getElem?_slice, length_slice]
  by_cases hij : i = j
  · subst hij
    rw [if_pos hi, if_pos rfl, if_pos rfl]
    by_cases hbound : place + i < bytes.length
    · rw [if_pos hbound, if_pos (by omega)]
    · rw [if_neg hbound, if_neg (by omega)]
  · have hne : ¬place + i = place + j := by omega
    rw [if_neg hij, if_neg hne]

theorem slice_set_of_outside (outside : i < place ∨ place + length ≤ i) :
    slice (bytes.set i b) place length = slice bytes place length :=
  slice_congr fun j _ _ => List.getElem?_set_ne (by omega)

theorem splice_set_of_outside (fits : place + patch.length ≤ bytes.length)
    (outside : i < place ∨ place + patch.length ≤ i) :
    splice (bytes.set i b) place patch = (splice bytes place patch).set i b := by
  have hset : place + patch.length ≤ (bytes.set i b).length := by
    rw [List.length_set]
    exact fits
  have hlength := length_splice fits
  apply List.ext_getElem?
  intro j
  by_cases hij : i = j
  · subst hij
    rw [getElem?_splice_of_outside hset outside, List.getElem?_set, List.getElem?_set, if_pos rfl,
      if_pos rfl, hlength]
  · rw [List.getElem?_set_ne hij]
    by_cases inside : place ≤ j ∧ j < place + patch.length
    · obtain ⟨offset, rfl⟩ := Nat.exists_eq_add_of_le inside.1
      rw [getElem?_splice_of_inside hset (by omega), getElem?_splice_of_inside fits (by omega)]
    · rw [getElem?_splice_of_outside hset (by omega), getElem?_splice_of_outside fits (by omega),
        List.getElem?_set_ne hij]

theorem splice_of_set (fits : place + patch.length ≤ bytes.length) (hi : i < patch.length) :
    splice bytes place (patch.set i b) = (splice bytes place patch).set (place + i) b := by
  have hset : place + (patch.set i b).length ≤ bytes.length := by
    rw [List.length_set]
    exact fits
  have hlength := length_splice fits
  apply List.ext_getElem?
  intro j
  by_cases inside : place ≤ j ∧ j < place + patch.length
  · obtain ⟨offset, rfl⟩ := Nat.exists_eq_add_of_le inside.1
    rw [getElem?_splice_of_inside hset (by rw [List.length_set]; omega), List.getElem?_set, List.getElem?_set,
      getElem?_splice_of_inside fits (by omega), hlength]
    by_cases hij : i = offset
    · have heq : place + i = place + offset := by omega
      rw [if_pos hij, if_pos hi, if_pos heq, if_pos (by omega)]
    · have hne : ¬place + i = place + offset := by omega
      rw [if_neg hij, if_neg hne]
  · rw [getElem?_splice_of_outside hset (by rw [List.length_set]; omega), List.getElem?_set_ne (by omega),
      getElem?_splice_of_outside fits (by omega)]

end set

/-- Pieces laid over an image, each at its place. -/
def paint (image : List α) (pieces : List (Nat × List α)) : List α :=
  pieces.foldl (fun image piece => splice image piece.1 piece.2) image

/-- Every piece ends within a length. -/
def Fit (size : Nat) (pieces : List (Nat × List α)) : Prop :=
  ∀ piece ∈ pieces, piece.1 + piece.2.length ≤ size

variable {pieces front back : List (Nat × List α)}

theorem length_paint (fit : Fit image.length pieces) : (paint image pieces).length = image.length := by
  induction pieces generalizing image with
  | nil => rfl
  | cons piece pieces ih =>
    have hpiece := length_splice (fit piece (List.mem_cons_self ..))
    have hrest : (paint (splice image piece.1 piece.2) pieces).length = (splice image piece.1 piece.2).length :=
      ih fun other hother => hpiece ▸ fit other (List.mem_cons_of_mem _ hother)
    exact hrest.trans hpiece

theorem paint_append : paint image (front ++ back) = paint (paint image front) back :=
  List.foldl_append ..

/-- A place that no piece covers keeps what the image had there. -/
theorem paint_set_of_outside {b : α} (fit : Fit image.length pieces)
    (outside : ∀ piece ∈ pieces, i < piece.1 ∨ piece.1 + piece.2.length ≤ i) :
    paint (image.set i b) pieces = (paint image pieces).set i b := by
  induction pieces generalizing image with
  | nil => rfl
  | cons piece pieces ih =>
    have hpiece := fit piece (List.mem_cons_self ..)
    have hlength := length_splice hpiece
    have hset : splice (image.set i b) piece.1 piece.2 = (splice image piece.1 piece.2).set i b :=
      splice_set_of_outside hpiece (outside piece (List.mem_cons_self ..))
    have hrest : paint ((splice image piece.1 piece.2).set i b) pieces =
        (paint (splice image piece.1 piece.2) pieces).set i b :=
      ih (fun other hother => hlength ▸ fit other (List.mem_cons_of_mem _ hother)) fun other hother =>
        outside other (List.mem_cons_of_mem _ hother)
    have hcons (start : List α) : paint start (piece :: pieces) = paint (splice start piece.1 piece.2) pieces := rfl
    rw [hcons, hcons, hset, hrest]

/-- Another byte in one piece is another byte in the image, where no later piece covers it. -/
theorem paint_piece_set {b : α} {data : List α} (fit : Fit image.length (front ++ (place, data) :: back))
    (hi : i < data.length)
    (outside : ∀ piece ∈ back, place + i < piece.1 ∨ piece.1 + piece.2.length ≤ place + i) :
    paint image (front ++ (place, data.set i b) :: back) =
      (paint image (front ++ (place, data) :: back)).set (place + i) b := by
  have hfront : (paint image front).length = image.length :=
    length_paint fun piece hpiece => fit piece (List.mem_append_left _ hpiece)
  have hpiece : place + data.length ≤ (paint image front).length :=
    hfront ▸ fit (place, data) (List.mem_append_right _ (List.mem_cons_self ..))
  have hlength := length_splice hpiece
  have hback : Fit (splice (paint image front) place data).length back := by
    rw [hlength, hfront]
    exact fun piece hmem => fit piece (List.mem_append_right _ (List.mem_cons_of_mem _ hmem))
  have hset : splice (paint image front) place (data.set i b) =
      (splice (paint image front) place data).set (place + i) b := splice_of_set hpiece hi
  have hrest : paint ((splice (paint image front) place data).set (place + i) b) back =
      (paint (splice (paint image front) place data) back).set (place + i) b := paint_set_of_outside hback outside
  have hcons (data : List α) : paint (paint image front) ((place, data) :: back) =
      paint (splice (paint image front) place data) back := rfl
  rw [paint_append, paint_append, hcons, hcons, hset, hrest]

/-- In the image a piece is read that no later piece covers. -/
theorem getElem?_paint_piece {data : List α} (fit : Fit image.length (front ++ (place, data) :: back))
    (hi : i < data.length)
    (outside : ∀ piece ∈ back, place + i < piece.1 ∨ piece.1 + piece.2.length ≤ place + i) :
    (paint image (front ++ (place, data) :: back))[place + i]? = data[i]? := by
  have hself := @paint_piece_set _ image place i front back data[i] data fit hi outside
  have hlength := length_paint fit
  have hpiece := fit (place, data) (List.mem_append_right _ (List.mem_cons_self ..))
  dsimp only at hpiece
  rw [List.set_getElem_self] at hself
  rw [hself, List.getElem?_set_self (by omega), List.getElem?_eq_getElem hi]

end BytePatch
