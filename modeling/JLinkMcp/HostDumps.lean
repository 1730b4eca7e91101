import JLinkMcp.HostJson
import Mathlib.Data.List.Lex
import Mathlib.Data.List.Sort

namespace JLinkMcp.Host

def hexLower (n : Nat) : CodePoint := Fin.ofNat 0x110000 (if n < 10 then 48 + n else 87 + n)

/-- The escape of one UTF-16 unit. -/
def unicodeEscape (unit : Nat) : PyStr :=
  PyStr.ofString "\\u" ++ [hexLower (unit / 4096 % 16), hexLower (unit / 256 % 16),
    hexLower (unit / 16 % 16), hexLower (unit % 16)]

/-- What `ensure_ascii` leaves of a character. -/
def escapeChar (c : CodePoint) : PyStr :=
  if c.is '"' then PyStr.ofString "\\\""
  else if c.is '\\' then PyStr.ofString "\\\\"
  else if c.val = 8 then PyStr.ofString "\\b"
  else if c.val = 9 then PyStr.ofString "\\t"
  else if c.val = 10 then PyStr.ofString "\\n"
  else if c.val = 12 then PyStr.ofString "\\f"
  else if c.val = 13 then PyStr.ofString "\\r"
  else if 0x20 ≤ c.val ∧ c.val ≤ 0x7E then [c]
  else if c.val < 0x10000 then unicodeEscape c.val
  else
    unicodeEscape (0xD800 + (c.val - 0x10000) / 0x400) ++
      unicodeEscape (0xDC00 + (c.val - 0x10000) % 0x400)

def dumpsStr (text : PyStr) : PyStr := 34 :: text.flatMap escapeChar ++ [34]

def decimalText (n : Nat) : PyStr := (Nat.toDigits 10 n).map fun c => Fin.ofNat 0x110000 c.toNat

/-- `int.__repr__(n)` -/
def dumpsInt (n : Int) : PyStr := (if n < 0 then [45] else []) ++ decimalText n.natAbs

/-- The texts with commas between them. -/
def commas : List PyStr → PyStr
  | [] => []
  | [text] => text
  | text :: texts => text ++ 44 :: commas texts

/-- `sorted(items)` for names that differ -/
def sortKeys {α : Type} (items : List (PyStr × α)) : List (PyStr × α) :=
  items.insertionSort fun a b => a.1 ≤ b.1

/-- `f'"{name}":{value}'` -/
def dumpsPair (pair : PyStr × PyStr) : PyStr := dumpsStr pair.1 ++ 58 :: pair.2

mutual

/-- `json.dumps(value, sort_keys=True, separators=(",", ":"))` -/
def dumps : PyJson → PyStr
  | .null => PyStr.ofString "null"
  | .bool true => PyStr.ofString "true"
  | .bool false => PyStr.ofString "false"
  | .int n => dumpsInt n
  | .float literal => literal
  | .str text => dumpsStr text
  | .list items => 91 :: commas (dumpsItems items) ++ [93]
  | .dict items => 123 :: commas ((sortKeys (dumpsPairs items)).map dumpsPair) ++ [125]

def dumpsItems : List PyJson → List PyStr
  | [] => []
  | item :: items => dumps item :: dumpsItems items

def dumpsPairs : List (PyStr × PyJson) → List (PyStr × PyStr)
  | [] => []
  | (name, value) :: items => (name, dumps value) :: dumpsPairs items

end

mutual

/-- The value with the names of every object in order. -/
def PyJson.sorted : PyJson → PyJson
  | .null => .null
  | .bool b => .bool b
  | .int n => .int n
  | .float literal => .float literal
  | .str text => .str text
  | .list items => .list (sortedItems items)
  | .dict items => .dict (sortKeys (sortedPairs items))

def sortedItems : List PyJson → List PyJson
  | [] => []
  | item :: items => item.sorted :: sortedItems items

def sortedPairs : List (PyStr × PyJson) → List (PyStr × PyJson)
  | [] => []
  | (name, value) :: items => (name, value.sorted) :: sortedPairs items

end

/-- What may stand behind a value. -/
def Delimited (rest : PyStr) : Prop := ∀ c, rest.head? = some c → c = 44 ∨ c = 93 ∨ c = 125

/-- How a value may begin. -/
def isValueStart (c : CodePoint) : Bool :=
  c.is '"' || c.is '{' || c.is '[' || c.is '-' || isAsciiDigit c || c.is 'n' || c.is 't' || c.is 'f' ||
    c.is 'N' || c.is 'I'

def StartsValue (text : PyStr) : Prop := ∃ c rest, text = c :: rest ∧ isValueStart c = true

/-- The scanner reads the literal as a float. -/
structure FloatLiteral (literal : PyStr) : Prop where
  starts : StartsValue literal
  reads : ∀ depth rest, Delimited rest → scanOnce depth (literal ++ rest) = .ok (.float literal, rest)

mutual

/-- A value that `json.dumps` writes and `json.loads` reads back at this depth: integers of at most
4300 digits, texts without surrogates, names that differ. -/
def Dumpable : Nat → PyJson → Prop
  | _, .null | _, .bool _ => True
  | _, .int n => (Nat.toDigits 10 n.natAbs).length ≤ 4300
  | _, .float literal => FloatLiteral literal
  | _, .str text => text.all isScalar = true
  | 0, .list _ | 0, .dict _ => False
  | depth + 1, .list items => DumpableItems depth items
  | depth + 1, .dict items => (items.map Prod.fst).Nodup ∧ DumpablePairs depth items

def DumpableItems : Nat → List PyJson → Prop
  | _, [] => True
  | depth, item :: items => Dumpable depth item ∧ DumpableItems depth items

def DumpablePairs : Nat → List (PyStr × PyJson) → Prop
  | _, [] => True
  | depth, (name, value) :: items =>
    name.all isScalar = true ∧ Dumpable depth value ∧ DumpablePairs depth items

end

theorem dumpsPairs_eq (items : List (PyStr × PyJson)) :
    dumpsPairs items = items.map fun item => (item.1, dumps item.2) := by
  induction items with
  | nil => rfl
  | cons item items ih => rw [dumpsPairs, ih, List.map_cons]

theorem sortedPairs_eq (items : List (PyStr × PyJson)) :
    sortedPairs items = items.map fun item => (item.1, item.2.sorted) := by
  induction items with
  | nil => rfl
  | cons item items ih => rw [sortedPairs, ih, List.map_cons]

/-- Sorting looks at the names alone. -/
theorem sortKeys_map {α β : Type} (f : α → β) (items : List (PyStr × α)) :
    sortKeys (items.map fun item => (item.1, f item.2)) =
      (sortKeys items).map fun item => (item.1, f item.2) := by
  unfold sortKeys
  refine (List.map_insertionSort _ _ (fun item : PyStr × α => (item.1, f item.2)) items ?_).symm
  exact fun _ _ _ _ => Iff.rfl

section strings

theorem hexValue_hexLower {n : Nat} (lt : n < 16) : hexValue (hexLower n) = some n := by
  have hall : ∀ n < 16, hexValue (hexLower n) = some n := by decide
  exact hall n lt

theorem hexUnit_unicodeEscape {unit : Nat} (lt : unit < 0x10000) (rest : PyStr) :
    hexUnit ((unicodeEscape unit).drop 2 ++ rest) = some (unit, rest) := by
  have hdigit : ∀ n, hexValue (hexLower (n % 16)) = some (n % 16) := fun n =>
    hexValue_hexLower (Nat.mod_lt n (by decide))
  have hsum : unit / 4096 % 16 * 4096 + unit / 256 % 16 * 256 + unit / 16 % 16 * 16 + unit % 16 = unit := by
    omega
  change (do
    let a ← hexValue (hexLower (unit / 4096 % 16))
    let b ← hexValue (hexLower (unit / 256 % 16))
    let c ← hexValue (hexLower (unit / 16 % 16))
    let d ← hexValue (hexLower (unit % 16))
    return (a * 4096 + b * 256 + c * 16 + d, rest)) = _
  rw [hdigit, hdigit, hdigit, hdigit]
  exact congrArg (fun n => some (n, rest)) hsum

theorem unicodeEscape_eq (unit : Nat) (rest : PyStr) :
    unicodeEscape unit ++ rest = 92 :: 117 :: ((unicodeEscape unit).drop 2 ++ rest) := rfl

theorem scanEscape_unicode (rest : PyStr) : scanEscape (117 :: rest) = scanUnicodeEscape rest := rfl

/-- A unit that opens no surrogate pair. -/
theorem scanUnicodeEscape_unit {unit : Nat} (lt : unit < 0x10000) (alone : unit < 0xD800 ∨ 0xDBFF < unit)
    (rest : PyStr) :
    scanUnicodeEscape ((unicodeEscape unit).drop 2 ++ rest) = .ok (Fin.ofNat _ unit, rest) := by
  rw [scanUnicodeEscape, hexUnit_unicodeEscape lt]
  dsimp only
  rw [if_neg (by omega)]

theorem scanUnicodeEscape_pair {high low : Nat} (hhigh : 0xD800 ≤ high ∧ high ≤ 0xDBFF)
    (hlow : 0xDC00 ≤ low ∧ low ≤ 0xDFFF) (rest : PyStr) :
    scanUnicodeEscape ((unicodeEscape high).drop 2 ++ (unicodeEscape low ++ rest)) =
      .ok (Fin.ofNat _ (0x10000 + (high - 0xD800) * 0x400 + (low - 0xDC00)), rest) := by
  have hbehind : afterLiteral "\\u" (unicodeEscape low ++ rest) =
      some ((unicodeEscape low).drop 2 ++ rest) := rfl
  rw [scanUnicodeEscape, hexUnit_unicodeEscape (by omega)]
  dsimp only
  rw [if_pos hhigh, hbehind]
  dsimp only
  rw [hexUnit_unicodeEscape (by omega)]
  dsimp only
  rw [if_pos hlow]

/-- The scanner takes the escape of a character for the character. -/
theorem scanString_escapeChar {c : CodePoint} (scalar : isScalar c = true) (rounds : Nat) (rest : PyStr) :
    scanString (rounds + 1) (escapeChar c ++ rest) = (do
      let (text, rest) ← scanString rounds rest
      return (c :: text, rest)) := by
  have hc : Fin.ofNat 0x110000 c.val = c := Fin.ext (Nat.mod_eq_of_lt c.isLt)
  -- an escape that `scanEscape` reads
  have hescape : ∀ {behind : PyStr}, scanEscape behind = .ok (Fin.ofNat 0x110000 c.val, rest) →
      scanString (rounds + 1) (92 :: behind) = (do
        let (text, rest) ← scanString rounds rest
        return (c :: text, rest)) := by
    intro behind h
    change (scanEscape behind >>= fun out => scanString rounds out.2 >>= fun found =>
      Except.ok (out.1 :: found.1, found.2)) = _
    rw [h, hc]
    rfl
  have hshort : ∀ {short : CodePoint} {n : Nat}, shortEscape short = some n → short.is 'u' = false →
      n = c.val → scanEscape (short :: rest) = .ok (Fin.ofNat 0x110000 c.val, rest) := by
    intro short n h hu hn
    rw [scanEscape, hu, h, hn]
    rfl
  unfold escapeChar
  split
  next h => exact hescape (hshort rfl rfl (of_decide_eq_true h).symm)
  next hquote =>
    split
    next h => exact hescape (hshort rfl rfl (of_decide_eq_true h).symm)
    next hbackslash =>
      split
      next h => exact hescape (hshort rfl rfl h.symm)
      split
      next h => exact hescape (hshort rfl rfl h.symm)
      split
      next h => exact hescape (hshort rfl rfl h.symm)
      split
      next h => exact hescape (hshort rfl rfl h.symm)
      split
      next h => exact hescape (hshort rfl rfl h.symm)
      split
      next h =>
        change (if c.is '"' then _ else if c.is '\\' then _ else if c.val < 0x20 then _ else _) = _
        rw [if_neg hquote, if_neg hbackslash, if_neg (by omega)]
        rfl
      split
      next h =>
        have halone : c.val < 0xD800 ∨ 0xDBFF < c.val := by
          simp only [isScalar, Bool.or_eq_true, decide_eq_true_eq] at scalar
          omega
        rw [unicodeEscape_eq]
        exact hescape ((scanEscape_unicode _).trans (scanUnicodeEscape_unit h halone rest))
      next h =>
        have hlt := c.isLt
        rw [List.append_assoc]
        generalize hhigh : 0xD800 + (c.val - 0x10000) / 0x400 = high
        generalize hlow : 0xDC00 + (c.val - 0x10000) % 0x400 = low
        have hsum : 0x10000 + (high - 0xD800) * 0x400 + (low - 0xDC00) = c.val := by omega
        have hpair := scanUnicodeEscape_pair ⟨show 0xD800 ≤ high by omega, by omega⟩
          ⟨show 0xDC00 ≤ low by omega, by omega⟩ rest
        rw [hsum] at hpair
        rw [unicodeEscape_eq high]
        exact hescape ((scanEscape_unicode _).trans hpair)

theorem scanString_dumps {text : PyStr} (scalar : text.all isScalar = true) {rounds : Nat}
    (enough : text.length < rounds) (rest : PyStr) :
    scanString rounds (text.flatMap escapeChar ++ 34 :: rest) = .ok (text, rest) := by
  induction text generalizing rounds with
  | nil =>
    obtain ⟨rounds, rfl⟩ := Nat.exists_eq_add_of_lt enough
    rfl
  | cons c text ih =>
    rw [List.all_cons, Bool.and_eq_true] at scalar
    obtain ⟨rounds, rfl⟩ : ∃ n, rounds = n + 1 := Nat.exists_eq_succ_of_ne_zero (by omega)
    rw [List.flatMap_cons, List.append_assoc, scanString_escapeChar scalar.1,
      ih scalar.2 (by simpa using enough)]
    rfl

end strings

section numbers

theorem decimalText_succ {n : Nat} (ge : 10 ≤ n) :
    decimalText n = decimalText (n / 10) ++ [Fin.ofNat 0x110000 (48 + n % 10)] := by
  have hdigit : (n % 10).digitChar.toNat = 48 + n % 10 :=
    Nat.toNat_digitChar_of_lt_ten (Nat.mod_lt n (by decide))
  rw [decimalText, Nat.toDigits_of_base_le (by decide) ge, List.map_append, List.map_singleton, hdigit]
  rfl

theorem decimalText_small {n : Nat} (lt : n < 10) : decimalText n = [Fin.ofNat 0x110000 (48 + n)] := by
  rw [decimalText, Nat.toDigits_of_lt_base lt, List.map_singleton, Nat.toNat_digitChar_of_lt_ten lt]

theorem digit_val {d : Nat} (lt : d < 10) : (Fin.ofNat 0x110000 (48 + d)).val = 48 + d :=
  Nat.mod_eq_of_lt (by omega)

theorem decimalText_digits (n : Nat) : ∀ c ∈ decimalText n, isAsciiDigit c = true := by
  have hdigit : ∀ d < 10, isAsciiDigit (Fin.ofNat 0x110000 (48 + d)) = true := by decide
  induction n using Nat.strongRecOn with
  | ind n ih =>
    by_cases hlt : n < 10
    · rw [decimalText_small hlt]
      rintro c hc
      obtain rfl := List.mem_singleton.mp hc
      exact hdigit n hlt
    · rw [decimalText_succ (by omega)]
      rintro c hc
      rcases List.mem_append.mp hc with hc | hc
      · exact ih (n / 10) (by omega) c hc
      · obtain rfl := List.mem_singleton.mp hc
        exact hdigit (n % 10) (by omega)

theorem decimalText_value (n : Nat) :
    (decimalText n).foldl (fun n c => n * 10 + (c.val - 48)) 0 = n := by
  induction n using Nat.strongRecOn with
  | ind n ih =>
    by_cases hlt : n < 10
    · rw [decimalText_small hlt, List.foldl_cons, digit_val hlt]
      simp
    · rw [decimalText_succ (by omega), List.foldl_append, ih (n / 10) (by omega), List.foldl_cons,
        List.foldl_nil, digit_val (by omega)]
      omega

/-- Only zero begins with a zero. -/
theorem decimalText_head {n : Nat} (pos : 0 < n) : ∃ c text, decimalText n = c :: text ∧ c.val ≠ 48 := by
  induction n using Nat.strongRecOn with
  | ind n ih =>
    by_cases hlt : n < 10
    · exact ⟨_, _, decimalText_small hlt, by rw [digit_val hlt]; omega⟩
    · obtain ⟨c, text, htext, hc⟩ := ih (n / 10) (by omega) (by omega)
      refine ⟨c, text ++ [Fin.ofNat 0x110000 (48 + n % 10)], ?_, hc⟩
      rw [decimalText_succ (by omega), htext]
      rfl

theorem decimalText_cons (n : Nat) : ∃ c text, decimalText n = c :: text ∧ isAsciiDigit c = true := by
  cases htext : decimalText n with
  | nil =>
    rw [decimalText, List.map_eq_nil_iff] at htext
    exact absurd htext Nat.toDigits_ne_nil
  | cons c text => exact ⟨c, text, rfl, decimalText_digits n c (by rw [htext]; simp)⟩

theorem afterLiteral_ne {literal : String} {char : Char} {chars : List Char} {c : CodePoint}
    (hliteral : literal.toList = char :: chars) (ne : c ≠ Fin.ofNat 0x110000 char.toNat) (text : PyStr) :
    afterLiteral literal (c :: text) = none := by
  rw [afterLiteral, PyStr.ofString, hliteral, List.map_cons]
  refine if_neg fun h => ne ?_
  exact (List.cons_prefix_cons.mp h).1.symm

/-- Nothing that is named begins with a digit. -/
theorem scanName_digit {c : CodePoint} (digit : isAsciiDigit c = true) (text : PyStr) :
    scanName (c :: text) = none := by
  have hne : ∀ d : CodePoint, isAsciiDigit d = false → c ≠ d := fun d hd h => by
    rw [h, hd] at digit
    cases digit
  have hnull : afterLiteral "null" (c :: text) = none := afterLiteral_ne rfl (hne _ rfl) text
  have htrue : afterLiteral "true" (c :: text) = none := afterLiteral_ne rfl (hne _ rfl) text
  have hfalse : afterLiteral "false" (c :: text) = none := afterLiteral_ne rfl (hne _ rfl) text
  have hnan : afterLiteral "NaN" (c :: text) = none := afterLiteral_ne rfl (hne _ rfl) text
  have hinf : afterLiteral "Infinity" (c :: text) = none := afterLiteral_ne rfl (hne _ rfl) text
  have hminus : afterLiteral "-Infinity" (c :: text) = none := afterLiteral_ne rfl (hne _ rfl) text
  simp only [scanName, hnull, htrue, hfalse, hnan, hinf, hminus]
  rfl

/-- Nor does anything begin with a sign and a digit. -/
theorem scanName_minus {c : CodePoint} (digit : isAsciiDigit c = true) (text : PyStr) :
    scanName (45 :: c :: text) = none := by
  have hminus : afterLiteral "-Infinity" (45 :: c :: text) = none := by
    rw [afterLiteral]
    refine if_neg fun h => ?_
    obtain ⟨-, h⟩ := List.cons_prefix_cons.mp (show 45 :: 73 :: _ <+: 45 :: c :: text from h)
    obtain ⟨rfl, -⟩ := List.cons_prefix_cons.mp h
    cases digit
  have hnull : afterLiteral "null" (45 :: c :: text) = none := afterLiteral_ne rfl (by decide) _
  have htrue : afterLiteral "true" (45 :: c :: text) = none := afterLiteral_ne rfl (by decide) _
  have hfalse : afterLiteral "false" (45 :: c :: text) = none := afterLiteral_ne rfl (by decide) _
  have hnan : afterLiteral "NaN" (45 :: c :: text) = none := afterLiteral_ne rfl (by decide) _
  have hinf : afterLiteral "Infinity" (45 :: c :: text) = none := afterLiteral_ne rfl (by decide) _
  simp only [scanName, hnull, htrue, hfalse, hnan, hinf, hminus]
  rfl

variable {rest : PyStr} (delimited : Delimited rest)

include delimited

theorem takeWhile_delimited {text : PyStr} (digits : ∀ c ∈ text, isAsciiDigit c = true) :
    (text ++ rest).takeWhile isAsciiDigit = text := by
  rw [List.takeWhile_append_of_pos digits]
  cases rest with
  | nil => simp
  | cons c rest =>
    have hc : isAsciiDigit c = false := by
      rcases delimited c rfl with rfl | rfl | rfl <;> decide
    rw [List.takeWhile_cons_of_neg (by rw [hc]; decide), List.append_nil]

theorem integerDigits_decimalText (n : Nat) : integerDigits (decimalText n ++ rest) = decimalText n := by
  by_cases hn : n = 0
  · subst hn
    rfl
  · obtain ⟨c, text, htext, hc⟩ := decimalText_head (Nat.pos_of_ne_zero hn)
    have hdigits := takeWhile_delimited delimited (decimalText_digits n)
    rw [htext] at hdigits ⊢
    change (if c.is '0' then [c] else (c :: text ++ rest).takeWhile isAsciiDigit) = c :: text
    have hzero : ¬c.is '0' = true := fun h => hc (of_decide_eq_true h)
    rw [if_neg hzero, hdigits]

theorem scanFraction_delimited : scanFraction rest = ([], rest) := by
  cases rest with
  | nil => rfl
  | cons c rest =>
    have hc : c.is '.' = false := by
      rcases delimited c rfl with rfl | rfl | rfl <;> decide
    simp [scanFraction, hc]

theorem scanExponent_delimited : scanExponent rest = ([], rest) := by
  cases rest with
  | nil => rfl
  | cons c rest =>
    have he : c.is 'e' = false := by
      rcases delimited c rfl with rfl | rfl | rfl <;> decide
    have hE : c.is 'E' = false := by
      rcases delimited c rfl with rfl | rfl | rfl <;> decide
    simp [scanExponent, he, hE]

/-- The digits of a natural number behind an optional sign. -/
theorem scanNumber_digits {n : Nat} (short : (Nat.toDigits 10 n).length ≤ 4300) {text : PyStr}
    {negative : Bool} (hnegative : (text.head?.any fun c => c.is '-') = negative)
    (hunsigned : (if negative then text.tail else text) = decimalText n ++ rest) :
    scanNumber text = .ok (.int (if negative then -n else n), rest) := by
  have hdigits := integerDigits_decimalText delimited n
  have hne : decimalText n ≠ [] := by
    rw [decimalText, ne_eq, List.map_eq_nil_iff]
    exact Nat.toDigits_ne_nil
  have hlen : ¬(decimalText n).length > 4300 := by
    rw [decimalText, List.length_map]
    omega
  unfold scanNumber
  rw [hnegative]
  dsimp only
  rw [hunsigned, hdigits, if_neg hne, List.drop_left, scanFraction_delimited delimited]
  dsimp only
  rw [scanExponent_delimited delimited]
  dsimp only
  rw [if_pos ⟨rfl, rfl⟩, pyInt, if_neg hlen, decimalText_value]
  rfl

theorem scanNumber_dumpsInt {n : Int} (short : (Nat.toDigits 10 n.natAbs).length ≤ 4300) :
    scanNumber (dumpsInt n ++ rest) = .ok (.int n, rest) := by
  by_cases hn : n < 0
  · have hvalue : (-(n.natAbs : Int)) = n := by omega
    rw [dumpsInt, if_pos hn]
    have h := @scanNumber_digits rest delimited n.natAbs short ([45] ++ decimalText n.natAbs ++ rest) true
      rfl rfl
    rw [h]
    exact congrArg (fun m => Except.ok (PyJson.int m, rest)) hvalue
  · have hvalue : (n.natAbs : Int) = n := by omega
    rw [dumpsInt, if_neg hn, List.nil_append]
    have hsign : ((decimalText n.natAbs ++ rest).head?.any fun c => c.is '-') = false := by
      obtain ⟨c, text, htext, hdigit⟩ := decimalText_cons n.natAbs
      rw [htext]
      refine Bool.eq_false_iff.mpr fun h => ?_
      have hc : c.val = 45 := of_decide_eq_true h
      simp [isAsciiDigit, hc] at hdigit
    have h := @scanNumber_digits rest delimited n.natAbs short (decimalText n.natAbs ++ rest) false hsign rfl
    rw [h]
    exact congrArg (fun m => Except.ok (PyJson.int m, rest)) hvalue

theorem scanOnce_dumpsInt (depth : Nat) {n : Int} (short : (Nat.toDigits 10 n.natAbs).length ≤ 4300) :
    scanOnce depth (dumpsInt n ++ rest) = .ok (.int n, rest) := by
  have hnumber := scanNumber_dumpsInt delimited short
  obtain ⟨c, text, htext, hdigit⟩ := decimalText_cons n.natAbs
  rw [dumpsInt, htext] at hnumber ⊢
  by_cases hn : n < 0
  · rw [if_pos hn] at hnumber ⊢
    change scanOnce depth (45 :: c :: (text ++ rest)) = _
    unfold scanOnce
    dsimp only
    rw [if_neg (by decide), if_neg (by decide), scanName_minus hdigit]
    exact hnumber
  · rw [if_neg hn] at hnumber ⊢
    have hne : ∀ char : Char, isAsciiDigit (Fin.ofNat _ char.toNat) = false → char.toNat < 0x110000 →
        c.is char = false := by
      intro char hchar hlt
      refine Bool.eq_false_iff.mpr fun h => ?_
      have hc : c = Fin.ofNat _ char.toNat := Fin.ext ((of_decide_eq_true h).trans (Nat.mod_eq_of_lt hlt).symm)
      rw [hc, hchar] at hdigit
      cases hdigit
    have hquote := hne '"' rfl (by decide)
    have hbrace := hne '{' rfl (by decide)
    have hbracket := hne '[' rfl (by decide)
    change scanOnce depth (c :: (text ++ rest)) = _
    unfold scanOnce
    dsimp only
    rw [if_neg (by rw [hquote]; decide), if_neg (by rw [hbrace, hbracket]; decide), scanName_digit hdigit]
    exact hnumber

end numbers

theorem skipWhitespace_start {text : PyStr} (starts : StartsValue text) (rest : PyStr) :
    skipWhitespace (text ++ rest) = text ++ rest := by
  obtain ⟨c, text, rfl, hc⟩ := starts
  refine List.dropWhile_cons_of_neg fun h => ?_
  simp only [isValueStart, isAsciiDigit, CodePoint.is, Bool.or_eq_true, Bool.and_eq_true,
    decide_eq_true_eq, Char.reduceToNat] at hc h
  omega

theorem startsValue_dumpsStr (text : PyStr) : StartsValue (dumpsStr text) := ⟨34, _, rfl, rfl⟩

theorem startsValue_dumps {depth : Nat} {value : PyJson} (dumpable : Dumpable depth value) :
    StartsValue (dumps value) := by
  cases value with
  | null => exact ⟨110, _, rfl, rfl⟩
  | bool b => cases b <;> exact ⟨_, _, rfl, rfl⟩
  | int n =>
    obtain ⟨c, text, htext, hdigit⟩ := decimalText_cons n.natAbs
    rw [dumps, dumpsInt, htext]
    by_cases hn : n < 0
    · rw [if_pos hn]
      exact ⟨45, _, rfl, rfl⟩
    · rw [if_neg hn]
      exact ⟨c, _, rfl, by simp [isValueStart, hdigit]⟩
  | float literal =>
    rw [dumps]
    exact FloatLiteral.starts (by cases depth <;> exact dumpable)
  | str text => exact startsValue_dumpsStr text
  | list items => exact ⟨91, _, rfl, rfl⟩
  | dict items => exact ⟨123, _, rfl, rfl⟩

theorem length_escapeChar_pos (c : CodePoint) : 0 < (escapeChar c).length := by
  unfold escapeChar
  repeat' split
  all_goals exact Nat.zero_lt_succ _

theorem length_le_flatMap_escapeChar (text : PyStr) : text.length ≤ (text.flatMap escapeChar).length := by
  induction text with
  | nil => exact Nat.le_refl _
  | cons c text ih =>
    have hpos := length_escapeChar_pos c
    rw [List.flatMap_cons, List.length_append, List.length_cons]
    omega

/-- The scanner takes a text that was dumped, behind its first quote. -/
theorem scanString_dumpsStr {text : PyStr} (scalar : text.all isScalar = true) (rest : PyStr) :
    scanString (text.flatMap escapeChar ++ 34 :: rest).length (text.flatMap escapeChar ++ 34 :: rest) =
      .ok (text, rest) := by
  refine scanString_dumps scalar ?_ rest
  have hle := length_le_flatMap_escapeChar text
  rw [List.length_append, List.length_cons]
  omega

theorem commas_cons (text next : PyStr) (texts : List PyStr) :
    commas (text :: next :: texts) = text ++ 44 :: commas (next :: texts) := rfl

theorem length_le_commas (texts : List PyStr) : texts.length ≤ (commas texts).length + 1 := by
  induction texts with
  | nil => exact Nat.zero_le _
  | cons text texts ih =>
    cases texts with
    | nil => exact Nat.le_add_left _ _
    | cons next texts =>
      rw [commas_cons, List.length_append, List.length_cons, @List.length_cons _ _ (commas _)]
      omega

theorem start_ne {c : CodePoint} {char : Char} (starts : isValueStart c = true)
    (ne : isValueStart (Fin.ofNat 0x110000 char.toNat) = false) (lt : char.toNat < 0x110000) :
    ¬c.is char = true := by
  intro h
  have hc : c = Fin.ofNat 0x110000 char.toNat :=
    Fin.ext ((of_decide_eq_true h).trans (Nat.mod_eq_of_lt lt).symm)
  rw [hc, ne] at starts
  cases starts

theorem dumpsItems_length (items : List PyJson) : (dumpsItems items).length = items.length := by
  induction items with
  | nil => rfl
  | cons item items ih => rw [dumpsItems, List.length_cons, List.length_cons, ih]

/-- As many rounds as there are characters are enough. -/
theorem enough_rounds {n : Nat} {texts : List PyStr} {c : CodePoint} {rest : PyStr} (le : n ≤ texts.length) :
    n ≤ (commas texts ++ c :: rest).length := by
  have hle := length_le_commas texts
  rw [List.length_append, List.length_cons]
  omega

/-- What was dumped is scanned as the value, up to what may stand behind it. -/
def Scans (scan : Scan) (value : PyJson) : Prop :=
  ∀ rest, Delimited rest → scan (dumps value ++ rest) = .ok (value.sorted, rest)

theorem delimited_comma (rest : PyStr) : Delimited (44 :: rest) := by
  rintro c hc
  exact .inl (Option.some.inj hc).symm

theorem delimited_bracket (rest : PyStr) : Delimited (93 :: rest) := by
  rintro c hc
  exact .inr (.inl (Option.some.inj hc).symm)

theorem delimited_brace (rest : PyStr) : Delimited (125 :: rest) := by
  rintro c hc
  exact .inr (.inr (Option.some.inj hc).symm)

section lists

variable {scan : Scan}

theorem startsValue_commas {text : PyStr} {texts : List PyStr} (starts : StartsValue text) :
    StartsValue (commas (text :: texts)) := by
  obtain ⟨c, more, rfl, hc⟩ := starts
  cases texts with
  | nil => exact ⟨c, _, rfl, hc⟩
  | cons next texts => exact ⟨c, _, rfl, hc⟩

theorem scanItems_dumpsItems {items : List PyJson} (ne : items ≠ [])
    (scans : ∀ item ∈ items, Scans scan item) (starts : ∀ item ∈ items, StartsValue (dumps item))
    {rounds : Nat} (enough : items.length ≤ rounds) (rest : PyStr) :
    scanItems scan rounds (commas (dumpsItems items) ++ 93 :: rest) = .ok (sortedItems items, rest) := by
  induction items generalizing rounds with
  | nil => exact absurd rfl ne
  | cons item items ih =>
    obtain ⟨rounds, rfl⟩ : ∃ n, rounds = n + 1 := Nat.exists_eq_succ_of_ne_zero (by
      rw [List.length_cons] at enough
      omega)
    cases items with
    | nil =>
      have hitem := scans item (by simp) _ (delimited_bracket rest)
      change (scan (dumps item ++ 93 :: rest) >>= _) = _
      rw [hitem]
      rfl
    | cons next items =>
      have hitem := scans item (by simp) _
        (delimited_comma (commas (dumpsItems (next :: items)) ++ 93 :: rest))
      have hrest := ih (by simp) (fun item hitem => scans item (by simp [hitem]))
        (fun item hitem => starts item (by simp [hitem])) (Nat.le_of_succ_le_succ enough)
      have hskip := skipWhitespace_start
        (@startsValue_commas _ (dumpsItems items) (starts next (by simp))) (93 :: rest)
      rw [dumpsItems, dumpsItems, commas_cons, List.append_assoc]
      change (scan (dumps item ++ 44 :: (commas (dumpsItems (next :: items)) ++ 93 :: rest)) >>= _) = _
      rw [hitem]
      change (scanItems scan rounds (skipWhitespace (commas (dumpsItems (next :: items)) ++ 93 :: rest))
        >>= _) = _
      rw [dumpsItems, hskip]
      change (scanItems scan rounds (commas (dumpsItems (next :: items)) ++ 93 :: rest) >>= _) = _
      rw [hrest]
      rfl

theorem scanList_dumps {items : List PyJson} (scans : ∀ item ∈ items, Scans scan item)
    (starts : ∀ item ∈ items, StartsValue (dumps item)) (rest : PyStr) :
    scanList scan (commas (dumpsItems items) ++ 93 :: rest) = .ok (.list (sortedItems items), rest) := by
  cases items with
  | nil => rfl
  | cons item items =>
    obtain ⟨c, more, hc, hstart⟩ := @startsValue_commas _ (dumpsItems items) (starts item (by simp))
    have hskip := skipWhitespace_start
      (@startsValue_commas _ (dumpsItems items) (starts item (by simp))) (93 :: rest)
    have hitems := @scanItems_dumpsItems scan (item :: items) (by simp) scans starts
      (commas (dumpsItems (item :: items)) ++ 93 :: rest).length
      (enough_rounds (by rw [dumpsItems_length])) rest
    unfold scanList
    rw [dumpsItems, hskip]
    rw [dumpsItems] at hitems
    rw [hc] at hitems ⊢
    dsimp only [List.cons_append] at hitems ⊢
    rw [if_neg (start_ne hstart rfl (by decide)), hitems]
    rfl

theorem setPair_of_notMem {pairs : List (PyStr × PyJson)} {pair : PyStr × PyJson}
    (h : pair.1 ∉ pairs.map Prod.fst) : setPair pairs pair = pairs ++ [pair] := by
  rw [setPair, if_neg]
  simpa [List.any_eq_true] using fun value hmem => h (List.mem_map.mpr ⟨(pair.1, value), hmem, rfl⟩)

/-- `f'"{name}":{value}'` of a pair of the object -/
def dumpsField (pair : PyStr × PyJson) : PyStr := dumpsPair (pair.1, dumps pair.2)

theorem startsValue_dumpsField (pair : PyStr × PyJson) : StartsValue (dumpsField pair) := ⟨34, _, rfl, rfl⟩

theorem scanPair_dumpsField {pair : PyStr × PyJson} (scalar : pair.1.all isScalar = true)
    (scans : Scans scan pair.2) (starts : StartsValue (dumps pair.2)) {rest : PyStr}
    (delimited : Delimited rest) :
    scanPair scan (dumpsField pair ++ rest) = .ok ((pair.1, pair.2.sorted), rest) := by
  have hname := scanString_dumpsStr scalar (58 :: (dumps pair.2 ++ rest))
  have htext : dumpsField pair ++ rest =
      34 :: (pair.1.flatMap escapeChar ++ 34 :: 58 :: (dumps pair.2 ++ rest)) := by
    simp [dumpsField, dumpsPair, dumpsStr]
  rw [htext]
  change (scanString _ _ >>= _) = _
  rw [hname]
  change (scan (skipWhitespace (dumps pair.2 ++ rest)) >>= _) = _
  rw [skipWhitespace_start starts, scans rest delimited]
  rfl

theorem scanPairs_dumpsFields {pairs seen : List (PyStr × PyJson)} (ne : pairs ≠ [])
    (nodup : (seen.map Prod.fst ++ pairs.map Prod.fst).Nodup)
    (fields : ∀ pair ∈ pairs, pair.1.all isScalar = true ∧ Scans scan pair.2 ∧ StartsValue (dumps pair.2))
    {rounds : Nat} (enough : pairs.length ≤ rounds) (rest : PyStr) :
    scanPairs scan rounds seen (commas (pairs.map dumpsField) ++ 125 :: rest) =
      .ok (seen ++ pairs.map fun pair => (pair.1, pair.2.sorted), rest) := by
  induction pairs generalizing rounds seen with
  | nil => exact absurd rfl ne
  | cons pair pairs ih =>
    obtain ⟨rounds, rfl⟩ : ∃ n, rounds = n + 1 := Nat.exists_eq_succ_of_ne_zero (by
      rw [List.length_cons] at enough
      omega)
    obtain ⟨hscalar, hscans, hstarts⟩ := fields pair (by simp)
    have hfresh : (pair.1, pair.2.sorted).1 ∉ seen.map Prod.fst := fun hmem =>
      (List.nodup_append.mp nodup).2.2 _ hmem _ (by simp) rfl
    have hset := @setPair_of_notMem seen (pair.1, pair.2.sorted) hfresh
    cases pairs with
    | nil =>
      have hpair := scanPair_dumpsField hscalar hscans hstarts (delimited_brace rest)
      change (scanPair scan (dumpsField pair ++ 125 :: rest) >>= _) = _
      rw [hpair]
      change Except.ok (setPair seen (pair.1, pair.2.sorted), rest) = _
      rw [hset]
      rfl
    | cons next pairs =>
      have hpair := scanPair_dumpsField hscalar hscans hstarts
        (delimited_comma (commas ((next :: pairs).map dumpsField) ++ 125 :: rest))
      have hskip := skipWhitespace_start
        (@startsValue_commas _ (pairs.map dumpsField) (startsValue_dumpsField next)) (125 :: rest)
      have hrest := @ih (seen ++ [(pair.1, pair.2.sorted)]) (by simp) (by simpa using nodup)
        (fun pair hpair => fields pair (by simp [hpair])) rounds (Nat.le_of_succ_le_succ enough)
      rw [List.map_cons, List.map_cons, commas_cons, List.append_assoc]
      change (scanPair scan (dumpsField pair ++ 44 :: (commas ((next :: pairs).map dumpsField) ++ 125 :: rest))
        >>= _) = _
      rw [hpair]
      change scanPairs scan rounds (setPair seen (pair.1, pair.2.sorted))
        (skipWhitespace (commas ((next :: pairs).map dumpsField) ++ 125 :: rest)) = _
      rw [hset, List.map_cons, hskip]
      rw [List.map_cons] at hrest
      rw [hrest]
      simp

/-- The pairs of an object in the order of their names. -/
theorem scanObject_dumps {pairs : List (PyStr × PyJson)} (nodup : (pairs.map Prod.fst).Nodup)
    (fields : ∀ pair ∈ pairs, pair.1.all isScalar = true ∧ Scans scan pair.2 ∧ StartsValue (dumps pair.2))
    (rest : PyStr) :
    scanObject scan (commas (pairs.map dumpsField) ++ 125 :: rest) =
      .ok (.dict (pairs.map fun pair => (pair.1, pair.2.sorted)), rest) := by
  cases pairs with
  | nil => rfl
  | cons pair pairs =>
    obtain ⟨c, more, hc, hstart⟩ := @startsValue_commas _ (pairs.map dumpsField) (startsValue_dumpsField pair)
    have hskip := skipWhitespace_start
      (@startsValue_commas _ (pairs.map dumpsField) (startsValue_dumpsField pair)) (125 :: rest)
    have hpairs := @scanPairs_dumpsFields scan (pair :: pairs) [] (by simp) nodup fields
      (commas ((pair :: pairs).map dumpsField) ++ 125 :: rest).length
      (enough_rounds (by rw [List.length_map])) rest
    unfold scanObject
    rw [List.map_cons, hskip]
    rw [List.map_cons] at hpairs
    rw [hc] at hpairs ⊢
    dsimp only [List.cons_append] at hpairs ⊢
    rw [if_neg (start_ne hstart rfl (by decide)), hpairs]
    rfl

end lists

theorem sortKeys_perm {α : Type} (items : List (PyStr × α)) : (sortKeys items).Perm items :=
  List.perm_insertionSort _ items

theorem mem_sortKeys {α : Type} {items : List (PyStr × α)} {item : PyStr × α} :
    item ∈ sortKeys items ↔ item ∈ items := (sortKeys_perm items).mem_iff

theorem dumps_dict (items : List (PyStr × PyJson)) :
    dumps (.dict items) = 123 :: commas ((sortKeys items).map dumpsField) ++ [125] := by
  rw [dumps, dumpsPairs_eq, sortKeys_map, List.map_map]
  rfl

theorem sorted_dict (items : List (PyStr × PyJson)) :
    (PyJson.dict items).sorted = .dict ((sortKeys items).map fun pair => (pair.1, pair.2.sorted)) := by
  rw [PyJson.sorted, sortedPairs_eq, sortKeys_map]

theorem scanOnce_str (depth : Nat) {text : PyStr} (scalar : text.all isScalar = true) (rest : PyStr) :
    scanOnce depth (dumpsStr text ++ rest) = .ok (.str text, rest) := by
  have hstring := scanString_dumpsStr scalar rest
  have htext : dumpsStr text ++ rest = 34 :: (text.flatMap escapeChar ++ 34 :: rest) := by simp [dumpsStr]
  rw [htext]
  unfold scanOnce
  dsimp only
  rw [if_pos (by decide), hstring]
  rfl

theorem startsValue_of_items {depth : Nat} {items : List PyJson} (dumpable : DumpableItems depth items) :
    ∀ item ∈ items, StartsValue (dumps item) := by
  induction items with
  | nil => exact nofun
  | cons item items ih =>
    intro found hfound
    rcases List.mem_cons.mp hfound with rfl | hfound
    · exact startsValue_dumps dumpable.1
    · exact ih dumpable.2 found hfound

theorem dumpable_of_pairs {depth : Nat} {items : List (PyStr × PyJson)}
    (dumpable : DumpablePairs depth items) :
    ∀ item ∈ items, item.1.all isScalar = true ∧ Dumpable depth item.2 := by
  induction items with
  | nil => exact nofun
  | cons item items ih =>
    intro found hfound
    obtain ⟨name, value⟩ := item
    rcases List.mem_cons.mp hfound with rfl | hfound
    · exact ⟨dumpable.1, dumpable.2.1⟩
    · exact ih dumpable.2.2 found hfound

mutual

/-- `json.loads` reads back what `json.dumps` wrote, value by value. -/
theorem scans_dumps : ∀ (depth : Nat) (value : PyJson), Dumpable depth value → Scans (scanOnce depth) value
  | depth, .null, _ => fun rest _ => by cases depth <;> rfl
  | depth, .bool b, _ => fun rest _ => by cases depth <;> cases b <;> rfl
  | depth, .int n, dumpable => fun rest delimited => by
    refine scanOnce_dumpsInt delimited depth ?_
    cases depth <;> exact dumpable
  | depth, .float literal, dumpable => fun rest delimited => by
    refine FloatLiteral.reads ?_ depth rest delimited
    cases depth <;> exact dumpable
  | depth, .str text, dumpable => fun rest _ => by
    refine scanOnce_str depth ?_ rest
    cases depth <;> exact dumpable
  | depth + 1, .list items, dumpable => fun rest _ => by
    have hlist := scanList_dumps (scans_items depth items dumpable) (startsValue_of_items dumpable) rest
    have htext : dumps (.list items) ++ rest = 91 :: (commas (dumpsItems items) ++ 93 :: rest) := by
      simp [dumps]
    rw [htext]
    exact hlist
  | depth + 1, .dict items, dumpable => fun rest _ => by
    obtain ⟨hnodup, hpairs⟩ := dumpable
    have hobject := @scanObject_dumps (scanOnce depth) (sortKeys items)
      (((sortKeys_perm items).map Prod.fst).nodup_iff.mpr hnodup) (fun pair hpair => by
        obtain ⟨hscalar, hvalue⟩ := dumpable_of_pairs hpairs pair (mem_sortKeys.mp hpair)
        have hscans := scans_pairs depth items hpairs pair (mem_sortKeys.mp hpair)
        exact ⟨hscalar, hscans, startsValue_dumps hvalue⟩) rest
    have htext : dumps (.dict items) ++ rest =
        123 :: (commas ((sortKeys items).map dumpsField) ++ 125 :: rest) := by
      simp [dumps_dict]
    rw [htext, sorted_dict]
    exact hobject

theorem scans_items : ∀ (depth : Nat) (items : List PyJson), DumpableItems depth items →
    ∀ item ∈ items, Scans (scanOnce depth) item
  | _, [], _ => nofun
  | depth, item :: items, dumpable => fun found hfound => by
    rcases List.mem_cons.mp hfound with h | hfound
    · exact h ▸ scans_dumps depth item dumpable.1
    · exact scans_items depth items dumpable.2 found hfound

theorem scans_pairs : ∀ (depth : Nat) (items : List (PyStr × PyJson)), DumpablePairs depth items →
    ∀ item ∈ items, Scans (scanOnce depth) item.2
  | _, [], _ => nofun
  | depth, (name, value) :: items, dumpable => fun found hfound => by
    rcases List.mem_cons.mp hfound with h | hfound
    · exact h ▸ scans_dumps depth value dumpable.2.1
    · exact scans_pairs depth items dumpable.2.2 found hfound

end

/-- `json.loads(json.dumps(value, sort_keys=True))` -/
theorem loads_dumps {depth : Nat} {value : PyJson} (dumpable : Dumpable depth value) :
    loads depth (dumps value) = .ok value.sorted := by
  have hscan := scans_dumps depth value dumpable [] nofun
  have hskip := skipWhitespace_start (startsValue_dumps dumpable) []
  obtain ⟨c, text, htext, hc⟩ := startsValue_dumps dumpable
  rw [List.append_nil] at hscan hskip
  have hmark : ¬(dumps value).head? = some 0xFEFF := by
    rw [htext]
    intro h
    rw [Option.some.inj h] at hc
    cases hc
  rw [loads, if_neg hmark, hskip, hscan]
  rfl

/-- `value.get(name)` of an object -/
def PyJson.get? : PyJson → String → Option PyJson
  | .dict items, name => (items.find? fun item => item.1 = PyStr.ofString name).map Prod.snd
  | _, _ => none

/-- Sorting keeps the values of an object. -/
theorem get?_sorted {items : List (PyStr × PyJson)} {name : String} {value : PyJson}
    (nodup : (items.map Prod.fst).Nodup) (mem : (PyStr.ofString name, value) ∈ items) :
    (PyJson.dict items).sorted.get? name = some value.sorted := by
  rw [sorted_dict]
  have hmem : (PyStr.ofString name, value.sorted) ∈ (sortKeys items).map fun pair => (pair.1, pair.2.sorted) :=
    List.mem_map.mpr ⟨_, mem_sortKeys.mpr mem, rfl⟩
  have hnodup : (((sortKeys items).map fun pair => (pair.1, pair.2.sorted)).map Prod.fst).Nodup := by
    rw [List.map_map]
    exact ((sortKeys_perm items).map Prod.fst).nodup_iff.mpr nodup
  generalize (sortKeys items).map (fun pair => (pair.1, pair.2.sorted)) = pairs at hmem hnodup ⊢
  have hfound : (pairs.find? fun item => item.1 = PyStr.ofString name).isSome = true :=
    List.find?_isSome.mpr ⟨_, hmem, decide_eq_true rfl⟩
  obtain ⟨item, hfind⟩ := Option.isSome_iff_exists.mp hfound
  have hname : item.1 = PyStr.ofString name := by
    have hcheck := List.find?_some hfind
    exact of_decide_eq_true hcheck
  have hitem : item = (PyStr.ofString name, value.sorted) :=
    List.inj_on_of_nodup_map hnodup (List.mem_of_find?_eq_some hfind) hmem hname
  rw [PyJson.get?, hfind, hitem]
  rfl

mutual

/-- The value is one that JSON carries at this depth, and it holds no float. -/
def isDumpable : Nat → PyJson → Bool
  | _, .null | _, .bool _ => true
  | _, .int n => (Nat.toDigits 10 n.natAbs).length ≤ 4300
  | _, .float _ => false
  | _, .str text => text.all isScalar
  | 0, .list _ | 0, .dict _ => false
  | depth + 1, .list items => areDumpable depth items
  | depth + 1, .dict items => decide (items.map Prod.fst).Nodup && pairsDumpable depth items

def areDumpable : Nat → List PyJson → Bool
  | _, [] => true
  | depth, item :: items => isDumpable depth item && areDumpable depth items

def pairsDumpable : Nat → List (PyStr × PyJson) → Bool
  | _, [] => true
  | depth, (name, value) :: items => name.all isScalar && isDumpable depth value && pairsDumpable depth items

end

mutual

theorem dumpable_of_isDumpable : ∀ {depth : Nat} {value : PyJson}, isDumpable depth value = true → Dumpable depth value
  | _, .null, _ | _, .bool _, _ => by simp only [Dumpable]
  | _, .int n, h => by
    simp only [isDumpable, decide_eq_true_eq] at h
    simpa only [Dumpable] using h
  | _, .str text, h => by
    simp only [isDumpable] at h
    simpa only [Dumpable] using h
  | depth + 1, .list items, h => by
    simp only [isDumpable] at h
    simpa only [Dumpable] using dumpable_of_areDumpable h
  | depth + 1, .dict items, h => by
    simp only [isDumpable, Bool.and_eq_true, decide_eq_true_eq] at h
    simpa only [Dumpable] using ⟨h.1, dumpable_of_pairsDumpable h.2⟩

theorem dumpable_of_areDumpable : ∀ {depth : Nat} {items : List PyJson}, areDumpable depth items = true →
    DumpableItems depth items
  | _, [], _ => by simp only [DumpableItems]
  | depth, item :: items, h => by
    simp only [areDumpable, Bool.and_eq_true] at h
    simpa only [DumpableItems] using ⟨dumpable_of_isDumpable h.1, dumpable_of_areDumpable h.2⟩

theorem dumpable_of_pairsDumpable : ∀ {depth : Nat} {items : List (PyStr × PyJson)},
    pairsDumpable depth items = true → DumpablePairs depth items
  | _, [], _ => by simp only [DumpablePairs]
  | depth, (name, value) :: items, h => by
    simp only [pairsDumpable, Bool.and_eq_true, and_assoc] at h
    simpa only [DumpablePairs] using ⟨h.1, dumpable_of_isDumpable h.2.1, dumpable_of_pairsDumpable h.2.2⟩

end

end JLinkMcp.Host
