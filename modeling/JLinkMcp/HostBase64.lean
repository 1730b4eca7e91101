import JLinkMcp.HostText

namespace JLinkMcp.Host

/-- The character of the base64 alphabet for a number below 64. -/
def base64Char (n : Nat) : CodePoint :=
  Fin.ofNat 0x110000 (if n < 26 then 65 + n else if n < 52 then 71 + n
    else if n < 62 then n - 4 else if n = 62 then 43 else 47)

def base64Value (c : CodePoint) : Option Nat :=
  if 65 ≤ c.val ∧ c.val ≤ 90 then some (c.val - 65)
  else if 97 ≤ c.val ∧ c.val ≤ 122 then some (c.val - 71)
  else if 48 ≤ c.val ∧ c.val ≤ 57 then some (c.val + 4)
  else if c.val = 43 then some 62
  else if c.val = 47 then some 63
  else none

/-- `=` -/
def base64Pad : CodePoint := 61

/-- `base64.b64encode(data).decode("ascii")` -/
def b64encode : Bytes → PyStr
  | [] => []
  | [a] => [base64Char (a.toNat / 4), base64Char (a.toNat % 4 * 16), base64Pad, base64Pad]
  | [a, b] =>
    [base64Char (a.toNat / 4), base64Char (a.toNat % 4 * 16 + b.toNat / 16),
      base64Char (b.toNat % 16 * 4), base64Pad]
  | a :: b :: c :: rest =>
    base64Char (a.toNat / 4) :: base64Char (a.toNat % 4 * 16 + b.toNat / 16) ::
      base64Char (b.toNat % 16 * 4 + c.toNat / 64) :: base64Char (c.toNat % 64) :: b64encode rest

/-- The loop of `binascii.a2b_base64` in strict mode. `leftchar` holds the bits that the `quadPos`
characters before gave to no byte yet. -/
def a2bBase64From (quadPos leftchar pads : Nat) (paddingStarted : Bool) :
    PyStr → Except PyError Bytes
  | [] => if quadPos = 0 then .ok [] else .error (.valueError "Incorrect padding")
  | c :: rest =>
    if c = base64Pad then
      if 2 ≤ quadPos ∧ 4 ≤ quadPos + (pads + 1) then
        if rest = [] then .ok [] else .error (.valueError "Excess data after padding")
      else a2bBase64From quadPos leftchar (if 2 ≤ quadPos then pads + 1 else pads) true rest
    else match base64Value c with
      | none => .error (.valueError "Only base64 data is allowed")
      | some value =>
        if paddingStarted then .error (.valueError "Discontinuous padding not allowed")
        else match quadPos with
          | 0 => a2bBase64From 1 value 0 false rest
          | 1 => (UInt8.ofNat (leftchar * 4 + value / 16) :: ·) <$>
              a2bBase64From 2 (value % 16) 0 false rest
          | 2 => (UInt8.ofNat (leftchar * 16 + value / 4) :: ·) <$>
              a2bBase64From 3 (value % 4) 0 false rest
          | _ => (UInt8.ofNat (leftchar * 64 + value) :: ·) <$> a2bBase64From 0 0 0 false rest

/-- `base64.b64decode(value, validate=True)` -/
def b64decode (value : PyStr) : Except PyError Bytes :=
  if value.head? = some base64Pad then .error (.valueError "Leading padding not allowed")
  else a2bBase64From 0 0 0 false value

def decodeCanonicalBase64 (value : PyStr) (maximum : Nat) : Except PyError Bytes :=
  match b64decode value with
  | .error _ => .error (.valueError "payload must be canonical RFC 4648 base64")
  | .ok decoded =>
    if b64encode decoded ≠ value then
      .error (.valueError "payload must use canonical padded RFC 4648 base64")
    else if decoded.length > maximum then
      .error (.valueError s!"decoded payload exceeds {maximum} bytes")
    else .ok decoded

theorem base64Value_base64Char : ∀ n < 64, base64Value (base64Char n) = some n := by decide

theorem base64Char_ne_pad : ∀ n < 64, base64Char n ≠ base64Pad := by decide

/-- A character of the alphabet moves the loop on by one place. -/
theorem a2bBase64From_base64Char (quadPos leftchar pads : Nat) {n : Nat} (h : n < 64) (rest : PyStr) :
    a2bBase64From quadPos leftchar pads false (base64Char n :: rest) =
      match quadPos with
      | 0 => a2bBase64From 1 n 0 false rest
      | 1 => (UInt8.ofNat (leftchar * 4 + n / 16) :: ·) <$> a2bBase64From 2 (n % 16) 0 false rest
      | 2 => (UInt8.ofNat (leftchar * 16 + n / 4) :: ·) <$> a2bBase64From 3 (n % 4) 0 false rest
      | _ => (UInt8.ofNat (leftchar * 64 + n) :: ·) <$> a2bBase64From 0 0 0 false rest := by
  rw [a2bBase64From, if_neg (base64Char_ne_pad n h), base64Value_base64Char n h]
  rfl

theorem byte_of_digits {a high low : Nat} (n : UInt8) (h : n.toNat = a) (hsum : high + low = a) :
    UInt8.ofNat (high + low) = n := by
  rw [hsum, ← h, UInt8.ofNat_toNat]

theorem a2bBase64From_b64encode (data : Bytes) :
    a2bBase64From 0 0 0 false (b64encode data) = .ok data := by
  induction data using b64encode.induct with
  | case1 => rfl
  | case2 a =>
    have ha := a.toNat_lt
    rw [b64encode, a2bBase64From_base64Char 0 0 0 (by omega)]
    simp only
    rw [a2bBase64From_base64Char 1 _ 0 (by omega)]
    simp only
    rw [byte_of_digits a rfl (by omega)]
    rfl
  | case3 a b =>
    have ha := a.toNat_lt
    have hb := b.toNat_lt
    rw [b64encode, a2bBase64From_base64Char 0 0 0 (by omega)]
    simp only
    rw [a2bBase64From_base64Char 1 _ 0 (by omega)]
    simp only
    rw [a2bBase64From_base64Char 2 _ 0 (by omega)]
    simp only
    rw [byte_of_digits a rfl (by omega), byte_of_digits b rfl (by omega)]
    rfl
  | case4 a b c rest ih =>
    have ha := a.toNat_lt
    have hb := b.toNat_lt
    have hc := c.toNat_lt
    rw [b64encode, a2bBase64From_base64Char 0 0 0 (by omega)]
    simp only
    rw [a2bBase64From_base64Char 1 _ 0 (by omega)]
    simp only
    rw [a2bBase64From_base64Char 2 _ 0 (by omega)]
    simp only
    rw [a2bBase64From_base64Char 3 _ 0 (by omega)]
    simp only
    rw [byte_of_digits a rfl (by omega), byte_of_digits b rfl (by omega), byte_of_digits c rfl (by omega), ih]
    rfl

theorem b64decode_b64encode (data : Bytes) : b64decode (b64encode data) = .ok data := by
  have hhead : (b64encode data).head? ≠ some base64Pad := by
    have hne : ∀ a : UInt8, some (base64Char (a.toNat / 4)) ≠ some base64Pad := fun a he =>
      base64Char_ne_pad (a.toNat / 4) (by have := a.toNat_lt; omega) (Option.some.inj he)
    cases data using b64encode.fun_cases_unfolding with
    | case1 => simp
    | case2 a => exact hne a
    | case3 a b => exact hne a
    | case4 a b c rest => exact hne a
  rw [b64decode, if_neg hhead, a2bBase64From_b64encode]

/-- Every payload up to the maximum has a canonical text. -/
theorem decodeCanonicalBase64_b64encode {data : Bytes} {maximum : Nat} (fits : data.length ≤ maximum) :
    decodeCanonicalBase64 (b64encode data) maximum = .ok data := by
  rw [decodeCanonicalBase64, b64decode_b64encode]
  simp only [ne_eq, not_true_eq_false, ↓reduceIte]
  rw [if_neg (by omega)]

theorem base64Char_count {n : Nat} (h : n < 64) (rest : PyStr) :
    (base64Char n :: rest).count base64Pad = rest.count base64Pad :=
  List.count_cons_of_ne (base64Char_ne_pad n h)

/-- Every three bytes take four characters, those that the padding stands for with them. -/
theorem b64encode_length (data : Bytes) :
    3 * (b64encode data).length = 4 * (data.length + (b64encode data).count base64Pad) := by
  induction data using b64encode.induct with
  | case1 => rfl
  | case2 a =>
    have ha := a.toNat_lt
    rw [b64encode, base64Char_count (by omega), base64Char_count (by omega)]
    rfl
  | case3 a b =>
    have ha := a.toNat_lt
    have hb := b.toNat_lt
    rw [b64encode, base64Char_count (by omega), base64Char_count (by omega), base64Char_count (by omega)]
    rfl
  | case4 a b c rest ih =>
    have ha := a.toNat_lt
    have hb := b.toNat_lt
    have hc := c.toNat_lt
    rw [b64encode, base64Char_count (by omega), base64Char_count (by omega), base64Char_count (by omega),
      base64Char_count (by omega)]
    simp only [List.length_cons]
    omega

theorem base64Char_ascii : ∀ n < 64, (base64Char n).val < 128 := by decide

theorem b64encode_ascii (data : Bytes) : ∀ c ∈ b64encode data, c.val < 128 := by
  have hpad : base64Pad.val < 128 := by decide
  induction data using b64encode.induct with
  | case1 => exact nofun
  | case2 a =>
    have ha := a.toNat_lt
    simp only [b64encode, List.forall_mem_cons]
    exact ⟨base64Char_ascii _ (by omega), base64Char_ascii _ (by omega), hpad, hpad, nofun⟩
  | case3 a b =>
    have ha := a.toNat_lt
    have hb := b.toNat_lt
    simp only [b64encode, List.forall_mem_cons]
    exact ⟨base64Char_ascii _ (by omega), base64Char_ascii _ (by omega), base64Char_ascii _ (by omega), hpad, nofun⟩
  | case4 a b c rest ih =>
    have ha := a.toNat_lt
    have hb := b.toNat_lt
    have hc := c.toNat_lt
    simp only [b64encode, List.forall_mem_cons]
    exact ⟨base64Char_ascii _ (by omega), base64Char_ascii _ (by omega), base64Char_ascii _ (by omega),
      base64Char_ascii _ (by omega), ih⟩

/-- What a canonical text encodes. -/
theorem b64encode_of_decodeCanonicalBase64 {value : PyStr} {maximum : Nat} {decoded : Bytes}
    (h : decodeCanonicalBase64 value maximum = .ok decoded) : b64encode decoded = value := by
  unfold decodeCanonicalBase64 at h
  split at h
  next => cases h
  next =>
    split at h
    next => cases h
    next hcanonical =>
      split at h
      next => cases h
      next =>
        cases h
        exact Classical.not_not.mp hcanonical

/-- A text accepted under one maximum is accepted under every larger one. -/
theorem decodeCanonicalBase64_mono {value : PyStr} {maximum larger : Nat} {decoded : Bytes}
    (h : decodeCanonicalBase64 value maximum = .ok decoded) (hle : maximum ≤ larger) :
    decodeCanonicalBase64 value larger = .ok decoded := by
  unfold decodeCanonicalBase64 at h ⊢
  split at h
  next => cases h
  next bytes hb =>
    split at h
    next => cases h
    next hcanonical =>
      split at h
      next => cases h
      next hlen =>
        simp only [if_neg hcanonical]
        rw [if_neg (by omega), h]

end JLinkMcp.Host
