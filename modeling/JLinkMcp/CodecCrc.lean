import Mathlib.Algebra.Group.Nat.Defs

/-! Reflected 32-bit cyclic redundancy checks, one byte at a time. -/

namespace Codec

/-- One shift of the remainder, reducing by the polynomial when a one falls out. -/
def crcShift (poly c : UInt32) : UInt32 :=
  if c &&& 1 = 1 then (c >>> 1) ^^^ poly else c >>> 1

def crcShifts (poly : UInt32) : Nat → UInt32 → UInt32
  | 0, c => c
  | n + 1, c => crcShifts poly n (crcShift poly c)

def crcByte (poly c : UInt32) (b : UInt8) : UInt32 := crcShifts poly 8 (c ^^^ b.toUInt32)

def crcBytes (poly c : UInt32) (bytes : List UInt8) : UInt32 := bytes.foldl (crcByte poly) c

/-- Continues a finished check: the seed is the check of the bytes that went before. -/
def crcFrom (poly seed : UInt32) (bytes : List UInt8) : UInt32 := ~~~ crcBytes poly (~~~ seed) bytes

theorem crcBytes_append (poly c : UInt32) (xs ys : List UInt8) :
    crcBytes poly c (xs ++ ys) = crcBytes poly (crcBytes poly c xs) ys := by
  simp [crcBytes]

theorem crcFrom_append (poly seed : UInt32) (xs ys : List UInt8) :
    crcFrom poly seed (xs ++ ys) = crcFrom poly (crcFrom poly seed xs) ys := by
  simp [crcFrom, crcBytes_append]

theorem low_bit_cases (c : UInt32) : c &&& 1 = 0 ∨ c &&& 1 = 1 := by
  have h : (c &&& 1).toNat = c.toNat % 2 := by
    simp [UInt32.toNat_and, Nat.and_one_is_mod]
  rcases Nat.mod_two_eq_zero_or_one c.toNat with h0 | h1
  · exact Or.inl (UInt32.toNat_inj.mp (by rw [h, h0]; rfl))
  · exact Or.inr (UInt32.toNat_inj.mp (by rw [h, h1]; rfl))

/-- The same shift without a branch: the negated low bit masks the polynomial. -/
theorem crcShift_eq_masked (poly c : UInt32) :
    crcShift poly c = (c >>> 1) ^^^ (poly &&& (0 - (c &&& 1))) := by
  rcases low_bit_cases c with h | h
  · simp [crcShift, h]
  · have ones : (0 : UInt32) - 1 = ~~~ 0 := by decide
    simp only [crcShift, h, if_true, ones]
    simp

section detection

variable {poly c d : UInt32} {x y : UInt8} {bytes : List UInt8}

/-- A shift down leaves the top bit free, and the polynomial sets it. -/
theorem topBit_crcShift (top : poly.toNat.testBit 31 = true) :
    (crcShift poly c).toNat.testBit 31 = c.toNat.testBit 0 := by
  have hdown : (c >>> 1).toNat.testBit 31 = false := by
    have hlt : (c >>> 1).toNat < 2 ^ 31 := by
      have hc := c.toNat_lt
      have hshift : (c >>> 1).toNat = c.toNat / 2 := by
        rw [UInt32.toNat_shiftRight, Nat.shiftRight_eq_div_pow]
        rfl
      omega
    exact Nat.testBit_lt_two_pow hlt
  have hlow : (c &&& 1).toNat = c.toNat % 2 := by
    rw [UInt32.toNat_and]
    exact Nat.and_one_is_mod c.toNat
  rcases low_bit_cases c with h | h
  · have hmod : c.toNat % 2 = 0 := hlow.symm.trans (congrArg UInt32.toNat h)
    rw [crcShift, h, if_neg (by decide), hdown, Nat.testBit_zero, hmod]
    rfl
  · have hmod : c.toNat % 2 = 1 := hlow.symm.trans (congrArg UInt32.toNat h)
    rw [crcShift, if_pos h, UInt32.toNat_xor, Nat.testBit_xor, hdown, top, Nat.testBit_zero, hmod]
    rfl

/-- A shift loses nothing: its top bit says what fell out. -/
theorem crcShift_inj (top : poly.toNat.testBit 31 = true) (h : crcShift poly c = crcShift poly d) : c = d := by
  have hbit : c.toNat.testBit 0 = d.toNat.testBit 0 := by
    rw [← topBit_crcShift top, h, topBit_crcShift top]
  have hmod : c.toNat % 2 = d.toNat % 2 := by
    rw [Nat.testBit_zero, Nat.testBit_zero, decide_eq_decide] at hbit
    omega
  have hlow : c &&& 1 = d &&& 1 := by
    apply UInt32.toNat_inj.mp
    rw [UInt32.toNat_and, UInt32.toNat_and]
    exact (Nat.and_one_is_mod c.toNat).trans (hmod.trans (Nat.and_one_is_mod d.toNat).symm)
  have hdown : c >>> 1 = d >>> 1 := by
    rw [crcShift, crcShift, hlow] at h
    split at h
    · exact (UInt32.xor_left_inj poly).mp h
    · exact h
  have hhalf : c.toNat / 2 = d.toNat / 2 := by
    have hval := congrArg UInt32.toNat hdown
    rw [UInt32.toNat_shiftRight, UInt32.toNat_shiftRight, Nat.shiftRight_eq_div_pow,
      Nat.shiftRight_eq_div_pow] at hval
    exact hval
  apply UInt32.toNat_inj.mp
  omega

theorem crcShifts_inj (top : poly.toNat.testBit 31 = true) {rounds : Nat}
    (h : crcShifts poly rounds c = crcShifts poly rounds d) : c = d := by
  induction rounds generalizing c d with
  | zero => exact h
  | succ rounds ih => exact crcShift_inj top (ih h)

/-- Of two different bytes the remainders differ. -/
theorem crcByte_inj_byte (top : poly.toNat.testBit 31 = true) (h : crcByte poly c x = crcByte poly c y) :
    x = y := by
  have hxor := crcShifts_inj top h
  have hbyte : x.toUInt32 = y.toUInt32 := (UInt32.xor_right_inj c).mp hxor
  have hval := congrArg UInt32.toNat hbyte
  rw [UInt8.toNat_toUInt32, UInt8.toNat_toUInt32] at hval
  exact UInt8.toNat_inj.mp hval

theorem crcByte_inj (top : poly.toNat.testBit 31 = true) (h : crcByte poly c x = crcByte poly d x) : c = d :=
  (UInt32.xor_left_inj x.toUInt32).mp (crcShifts_inj top h)

theorem crcBytes_inj (top : poly.toNat.testBit 31 = true) (h : crcBytes poly c bytes = crcBytes poly d bytes) :
    c = d := by
  induction bytes generalizing c d with
  | nil => exact h
  | cons x bytes ih => exact crcByte_inj top (ih h)

theorem lt_length_of_set_ne {i : Nat} (changed : bytes.set i x ≠ bytes) : i < bytes.length := by
  by_cases hi : i < bytes.length
  · exact hi
  · exact absurd (List.set_eq_of_length_le (Nat.le_of_not_lt hi)) changed

/-- Another byte in one place changes the check. -/
theorem crcFrom_set_ne (top : poly.toNat.testBit 31 = true) {seed : UInt32} {i : Nat}
    (changed : bytes.set i x ≠ bytes) : crcFrom poly seed (bytes.set i x) ≠ crcFrom poly seed bytes := by
  intro h
  have hi := lt_length_of_set_ne changed
  have hbytes : crcBytes poly (~~~ seed) (bytes.set i x) = crcBytes poly (~~~ seed) bytes :=
    UInt32.not_inj.mp h
  have hsplit : bytes = bytes.take i ++ bytes[i] :: bytes.drop (i + 1) := by
    rw [List.getElem_cons_drop, List.take_append_drop]
  have hset : bytes.set i x = bytes.take i ++ x :: bytes.drop (i + 1) := by
    rw [List.set_eq_take_append_cons_drop, if_pos hi]
  have hfold : crcBytes poly (~~~ seed) (bytes.take i ++ x :: bytes.drop (i + 1)) =
      crcBytes poly (~~~ seed) (bytes.take i ++ bytes[i] :: bytes.drop (i + 1)) := by
    rw [← hsplit, ← hset]
    exact hbytes
  rw [crcBytes_append, crcBytes_append] at hfold
  have hbyte : x = bytes[i] := crcByte_inj_byte top (crcBytes_inj top hfold)
  rw [hbyte, ← hsplit] at hset
  rw [hbyte] at changed
  exact changed hset

end detection

end Codec
