import JLinkMcp.FirmwareFields

namespace JLinkMcp.Firmware

/-- The characters of a literal, without the NUL. -/
def text (literal : String) : Bytes := literal.toList.map fun c => UInt8.ofNat c.toNat

/-- `%u` and `%lu` -/
def decimal (n : Nat) : Bytes := (Nat.toDigits 10 n).map fun c => UInt8.ofNat c.toNat

/-- `%d` -/
def signedDecimal (n : Int) : Bytes :=
  if n < 0 then 45 :: decimal n.natAbs else decimal n.natAbs

def hexDigit (n : Nat) : UInt8 := if n < 10 then UInt8.ofNat (48 + n) else UInt8.ofNat (55 + n)

/-- What `snprintf` leaves in a buffer of the capacity; `parts` is the whole text. -/
def snprintf (capacity : Nat) (parts : List Bytes) : Bytes := parts.flatten.take (capacity - 1)

def appendText (destination : Bytes) (capacity : Nat) (source : Bytes) : Bytes :=
  if destination.length ≥ capacity then destination
  else destination ++ source.take (capacity - destination.length - 1)

/-- `encoded` of one character. -/
def jsonChar (c : UInt8) : Bytes :=
  if c = 34 ∨ c = 92 then [92, c]
  else if c < 0x20 ∨ 0x7E < c then text "\\u00" ++ [hexDigit (c.toNat / 16), hexDigit (c.toNat % 16)]
  else [c]

/-- The loop of `encodeJsonString`; `written` is the text so far. -/
def encodeJsonLoop (capacity : Nat) (written : Bytes) : Bytes → Option Bytes
  | [] => some (written ++ [34])
  | c :: input =>
    if written.length + (jsonChar c).length + 2 > capacity then none
    else encodeJsonLoop capacity (written ++ jsonChar c) input

/-- `none` is `false`. -/
def encodeJsonString (input : Bytes) (capacity : Nat) : Option Bytes :=
  if capacity < 3 then none else encodeJsonLoop capacity [34] (cString input)

def kMaxMetadata : Nat := 4096

/-- A text in `metadata_buffer`. -/
def metadata (parts : List Bytes) : Bytes := snprintf kMaxMetadata parts

theorem text_length (literal : String) : (text literal).length = literal.toList.length := by
  rw [text, List.length_map]

theorem decimal_length_le {n : Nat} (small : n < 10 ^ 10) : (decimal n).length ≤ 10 := by
  rw [decimal, List.length_map]
  exact (Nat.length_toDigits_le_iff (by decide) (by decide)).mpr small

theorem snprintf_length_le (capacity : Nat) (parts : List Bytes) :
    (snprintf capacity parts).length ≤ parts.flatten.length := by
  rw [snprintf, List.length_take]
  exact Nat.min_le_right _ _

theorem snprintf_length_lt {capacity : Nat} (pos : 0 < capacity) (parts : List Bytes) :
    (snprintf capacity parts).length < capacity := by
  rw [snprintf, List.length_take]
  omega

theorem metadata_length_lt (parts : List Bytes) : (metadata parts).length < kMaxMetadata :=
  snprintf_length_lt (by decide) parts

theorem metadata_length_le (parts : List Bytes) : (metadata parts).length ≤ parts.flatten.length :=
  snprintf_length_le _ parts

theorem appendText_length_lt {destination : Bytes} {capacity : Nat}
    (short : destination.length < capacity) (source : Bytes) :
    (appendText destination capacity source).length < capacity := by
  rw [appendText, if_neg (by omega), List.length_append, List.length_take]
  omega

end JLinkMcp.Firmware
