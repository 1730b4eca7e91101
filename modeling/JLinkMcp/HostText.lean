import JLinkMcp.HostBase

namespace JLinkMcp.Host

/-- UTF-8 encodes every code point but the surrogates. -/
def isScalar (c : CodePoint) : Bool := c.val < 0xD800 || 0xDFFF < c.val

def utf8CodePoint (c : CodePoint) : Bytes := String.utf8EncodeChar (Char.ofNat c.val)

/-- The bytes of a text without surrogates. -/
def utf8 (text : PyStr) : Bytes := text.flatMap utf8CodePoint

/-- `text.encode("utf-8")` -/
def encodeUtf8 (text : PyStr) : Except PyError Bytes :=
  if text.all isScalar then .ok (utf8 text) else .error .unicodeEncodeError

/-- `bytes.decode("utf-8")` -/
def decodeUtf8 (bytes : Bytes) : Except PyError PyStr :=
  match bytes.toByteArray.utf8Decode? with
  | some chars => .ok (chars.toList.map fun c => Fin.ofNat 0x110000 c.toNat)
  | none => .error .unicodeDecodeError

/-- The values of a request as JSON has them. -/
inductive PyValue where
  | str (text : PyStr)
  | int (n : Int)
  | bool (b : Bool)
  deriving DecidableEq, Repr

/-- The literal of the source, as a value. -/
def PyValue.ofString (s : String) : PyValue := .str (PyStr.ofString s)

/-- A dictionary in insertion order. -/
abbrev PyDict := List (String × PyValue)

/-- `values.pop(name)` for a name that is there -/
def PyDict.pop (values : PyDict) (name : String) : Except PyError (PyValue × PyDict) :=
  match values.lookup name with
  | none => .error (.keyError name)
  | some value => .ok (value, values.filter fun item => item.1 ≠ name)

/-- `values[name] = value` -/
def PyDict.set (values : PyDict) (name : String) (value : PyValue) : PyDict :=
  if values.any fun item => item.1 = name then
    values.map fun item => if item.1 = name then (name, value) else item
  else values ++ [(name, value)]

/-- `values.update(others)` -/
def PyDict.update (values others : PyDict) : PyDict :=
  others.foldl (fun values item => PyDict.set values item.1 item.2) values

theorem decodeUtf8_error {bytes : Bytes} {error : PyError} (h : decodeUtf8 bytes = .error error) :
    error = .unicodeDecodeError := by
  unfold decodeUtf8 at h
  split at h
  next => cases h
  next => exact (Except.error.inj h).symm

theorem utf8CodePoint_length_le (c : CodePoint) : (utf8CodePoint c).length ≤ 4 := by
  rw [utf8CodePoint, String.length_utf8EncodeChar]
  exact Char.utf8Size_le_four _

theorem utf8_length_le (text : PyStr) : (utf8 text).length ≤ 4 * text.length := by
  induction text with
  | nil => simp [utf8]
  | cons c text ih =>
    have hc := utf8CodePoint_length_le c
    have hu : utf8 (c :: text) = utf8CodePoint c ++ utf8 text := rfl
    rw [hu, List.length_append, List.length_cons]
    omega

theorem utf8CodePoint_of_ascii {c : CodePoint} (ascii : c.val < 128) :
    utf8CodePoint c = [UInt8.ofNat c.val] := by
  have hvalid : c.val.isValidChar := Or.inl (by omega)
  have hval : (Char.ofNat c.val).val.toNat = c.val := by
    rw [Char.ofNat, dif_pos hvalid]
    rfl
  rw [utf8CodePoint, String.utf8EncodeChar]
  simp only [hval]
  rw [if_pos (by omega)]

/-- ASCII text takes one byte for each character, the character's own number. -/
theorem utf8_of_ascii {text : PyStr} (ascii : ∀ c ∈ text, c.val < 128) :
    utf8 text = text.map fun c => UInt8.ofNat c.val := by
  induction text with
  | nil => rfl
  | cons c text ih =>
    have hu : utf8 (c :: text) = utf8CodePoint c ++ utf8 text := rfl
    rw [hu, ih fun d hd => ascii d (List.mem_cons_of_mem c hd),
      utf8CodePoint_of_ascii (ascii c List.mem_cons_self)]
    rfl

theorem isValidChar_of_isScalar {c : CodePoint} (scalar : isScalar c) : c.val.isValidChar := by
  simp only [isScalar, Bool.or_eq_true, decide_eq_true_eq] at scalar
  have := c.isLt
  rcases scalar with h | h
  · exact Or.inl h
  · exact Or.inr ⟨h, this⟩

theorem decodeUtf8_utf8 {text : PyStr} (scalar : text.all isScalar) : decodeUtf8 (utf8 text) = .ok text := by
  have hencode : (utf8 text).toByteArray = (text.map fun c => Char.ofNat c.val).utf8Encode := by
    rw [utf8, List.utf8Encode, List.flatMap_map]
    rfl
  have hback : text.map ((fun c => Fin.ofNat 0x110000 c.toNat) ∘ fun c => Char.ofNat c.val) = text := by
    refine (List.map_congr_left fun c hc => ?_).trans (List.map_id text)
    have hvalid := isValidChar_of_isScalar (List.all_eq_true.mp scalar c hc)
    have hval : (Char.ofNat c.val).toNat = c.val := by
      rw [Char.ofNat, dif_pos hvalid]
      rfl
    rw [Function.comp_apply, hval]
    exact Fin.ext (Nat.mod_eq_of_lt c.isLt)
  rw [decodeUtf8, hencode, List.utf8Decode?_utf8Encode]
  simp only [List.map_map, hback]

/-- ASCII bytes decode to their own numbers. -/
theorem decodeUtf8_of_ascii {bytes : Bytes} (ascii : ∀ b ∈ bytes, b.toNat < 128) :
    decodeUtf8 bytes = .ok (bytes.map fun b => Fin.ofNat 0x110000 b.toNat) := by
  have hval : ∀ b ∈ bytes, (Fin.ofNat 0x110000 b.toNat).val = b.toNat := fun b hb =>
    Nat.mod_eq_of_lt (by have := ascii b hb; omega)
  have hutf8 : utf8 (bytes.map fun b => Fin.ofNat 0x110000 b.toNat) = bytes := by
    rw [utf8_of_ascii, List.map_map]
    · refine (List.map_congr_left fun b hb => ?_).trans (List.map_id bytes)
      rw [Function.comp_apply, hval b hb]
      exact UInt8.ofNat_toNat
    · intro c hc
      obtain ⟨b, hb, rfl⟩ := List.mem_map.mp hc
      rw [hval b hb]
      exact ascii b hb
  have hscalar : (bytes.map fun b => Fin.ofNat 0x110000 b.toNat).all isScalar := by
    rw [List.all_eq_true]
    intro c hc
    obtain ⟨b, hb, rfl⟩ := List.mem_map.mp hc
    have := ascii b hb
    simp only [isScalar, hval b hb, Bool.or_eq_true, decide_eq_true_eq]
    omega
  conv => lhs; rw [← hutf8]
  exact decodeUtf8_utf8 hscalar

end JLinkMcp.Host
