import JLinkMcp.HostDumps
import JLinkMcp.HostResponse

namespace JLinkMcp.Host

section rests

theorem skipWhitespace_length_le (text : PyStr) : (skipWhitespace text).length ≤ text.length :=
  List.IsSuffix.length_le (List.dropWhile_suffix _)

theorem afterLiteral_length {literal : String} {text rest : PyStr} (h : afterLiteral literal text = some rest) :
    rest.length + literal.length = text.length := by
  unfold afterLiteral at h
  split at h
  next hbegins =>
    obtain rfl := Option.some.inj h
    have hlen := hbegins.length_le
    rw [PyStr.ofString, List.length_map, String.length_toList] at hlen
    rw [List.length_drop]
    omega
  next => cases h

theorem hexUnit_length {text rest : PyStr} {unit : Nat} (h : hexUnit text = some (unit, rest)) :
    rest.length < text.length := by
  unfold hexUnit at h
  split at h
  next a b c d behind =>
    simp only [Option.bind_eq_bind, Option.bind_eq_some_iff, Option.pure_def, Option.some.injEq,
      Prod.mk.injEq] at h
    obtain ⟨-, -, -, -, -, -, -, -, -, rfl⟩ := h
    simp only [List.length_cons]
    omega
  next => cases h

theorem scanUnicodeEscape_length {text rest : PyStr} {c : CodePoint}
    (h : scanUnicodeEscape text = .ok (c, rest)) : rest.length < text.length := by
  unfold scanUnicodeEscape at h
  split at h
  next => cases h
  next unit behind hunit =>
    have hbehind := hexUnit_length hunit
    split at h
    next =>
      split at h
      next =>
        obtain ⟨-, rfl⟩ := Prod.mk.inj (Except.ok.inj h)
        exact hbehind
      next low hlow =>
        have hafter := afterLiteral_length hlow
        split at h
        next => cases h
        next lowUnit last hlast =>
          have hlength := hexUnit_length hlast
          split at h
          all_goals
            obtain ⟨-, rfl⟩ := Prod.mk.inj (Except.ok.inj h)
            omega
    next =>
      obtain ⟨-, rfl⟩ := Prod.mk.inj (Except.ok.inj h)
      exact hbehind

theorem scanEscape_length {text rest : PyStr} {c : CodePoint} (h : scanEscape text = .ok (c, rest)) :
    rest.length < text.length := by
  cases text with
  | nil => cases h
  | cons e behind =>
    rw [scanEscape] at h
    rw [List.length_cons]
    split at h
    next => exact Nat.lt_succ_of_lt (scanUnicodeEscape_length h)
    next =>
      split at h
      next => cases h
      next => cases h; exact Nat.lt_succ_self _

theorem scanString_length {rounds : Nat} {text value rest : PyStr}
    (h : scanString rounds text = .ok (value, rest)) : rest.length < text.length := by
  induction rounds generalizing text value with
  | zero => cases h
  | succ rounds ih =>
    cases text with
    | nil => cases h
    | cons c behind =>
      rw [scanString] at h
      rw [List.length_cons]
      split at h
      next => cases h; exact Nat.lt_succ_self _
      next =>
        split at h
        next =>
          obtain ⟨⟨char, behind'⟩, hescape, h⟩ := Except.then_ok h
          obtain ⟨⟨value', rest'⟩, hstring, h⟩ := Except.then_ok h
          cases h
          have hlength := scanEscape_length hescape
          have hrest := ih hstring
          omega
        next =>
          split at h
          next => cases h
          next =>
            obtain ⟨⟨value', rest'⟩, hstring, h⟩ := Except.then_ok h
            cases h
            exact Nat.lt_succ_of_lt (ih hstring)

theorem scanName_length {text rest : PyStr} {value : PyJson} (h : scanName text = some (value, rest)) :
    rest.length < text.length := by
  have hnamed : ∀ {literal : String} {named : PyJson}, 0 < literal.length →
      (afterLiteral literal text).map (fun rest => (named, rest)) = some (value, rest) →
        rest.length < text.length := by
    intro literal named hpos hmap
    obtain ⟨behind, hbehind, hpair⟩ := Option.map_eq_some_iff.mp hmap
    cases hpair
    have hlength := afterLiteral_length hbehind
    omega
  simp only [scanName, Option.orElse_eq_orElse, Option.orElse_eq_or, Option.or_eq_some_iff] at h
  rcases h with h | ⟨-, h | ⟨-, h | ⟨-, h | ⟨-, h | ⟨-, h⟩⟩⟩⟩⟩
  all_goals exact hnamed (by decide) h

theorem scanFraction_length (text : PyStr) : (scanFraction text).2.length ≤ text.length := by
  unfold scanFraction
  split
  next =>
    dsimp only
    split
    next => simp only [List.length_drop, List.length_cons]; omega
    next => exact le_rfl
  next => exact le_rfl

theorem scanExponent_length (text : PyStr) : (scanExponent text).2.length ≤ text.length := by
  cases text with
  | nil => exact le_rfl
  | cons e rest =>
    simp only [scanExponent]
    generalize rest.take _ = sign
    split
    next => simp only [List.length_drop, List.length_cons]; omega
    next => exact le_rfl

end rests

/-- What the interpreter raises at a limit of its own. -/
def PyError.isLimit : PyError → Bool
  | .valueError _ | .recursionError => true
  | _ => false

theorem not_isWire_of_isLimit {error : PyError} (h : error.isLimit) : error.isWire = false := by
  cases error <;> first | rfl | cases h

/-- The digits of the integer at the head of a text, behind its sign. -/
def unsignedText (text : PyStr) : PyStr := if text.head?.any fun c => c.is '-' then text.tail else text

/-- A text that begins with an integer, not a float, of more digits than `int` takes. -/
def LongInteger (text : PyStr) : Prop :=
  let digits := integerDigits (unsignedText text)
  let fraction := scanFraction ((unsignedText text).drop digits.length)
  4300 < digits.length ∧ fraction.1 = [] ∧ (scanExponent fraction.2).1 = []

/-- A list or an object where no more may be nested, or an integer that is too long. -/
def BeyondLimit (depth : Nat) (text : PyStr) : Prop :=
  (depth = 0 ∧ ∃ c rest, text = c :: rest ∧ (c.is '{' ∨ c.is '[')) ∨ LongInteger text

section numbers

variable {text : PyStr}

theorem integerDigits_length_le (text : PyStr) : (integerDigits text).length ≤ text.length := by
  cases text with
  | nil => exact le_rfl
  | cons c rest =>
    rw [integerDigits]
    split
    next => simp only [List.length_cons, List.length_nil]; omega
    next => exact (List.takeWhile_prefix _).length_le

theorem unsignedText_length_le (text : PyStr) : (unsignedText text).length ≤ text.length := by
  unfold unsignedText
  split
  next => rw [List.length_tail]; omega
  next => exact le_rfl

theorem scanNumber_eq (text : PyStr) : scanNumber text =
    let digits := integerDigits (unsignedText text)
    let fraction := scanFraction ((unsignedText text).drop digits.length)
    let exponent := scanExponent fraction.2
    if digits = [] then .error .jsonDecodeError
    else if fraction.1 = [] ∧ exponent.1 = [] then do
      let n ← pyInt (text.head?.any fun c => c.is '-') digits
      return (.int n, exponent.2)
    else .ok (.float (text.take (text.length - exponent.2.length)), exponent.2) := rfl

theorem scanNumber_length {rest : PyStr} {value : PyJson} (h : scanNumber text = .ok (value, rest)) :
    rest.length < text.length := by
  have hunsigned := unsignedText_length_le text
  have hdigits := integerDigits_length_le (unsignedText text)
  have hfraction := scanFraction_length ((unsignedText text).drop (integerDigits (unsignedText text)).length)
  have hexponent := scanExponent_length
    (scanFraction ((unsignedText text).drop (integerDigits (unsignedText text)).length)).2
  rw [List.length_drop] at hfraction
  rw [scanNumber_eq] at h
  dsimp only at h
  split at h
  next => cases h
  next hne =>
    have hpos := List.length_pos_of_ne_nil hne
    split at h
    next =>
      obtain ⟨n, -, h⟩ := Except.then_ok h
      obtain ⟨-, rfl⟩ := Prod.mk.inj (Except.ok.inj h)
      exact Nat.lt_of_le_of_lt hexponent (by omega)
    next =>
      obtain ⟨-, rfl⟩ := Prod.mk.inj (Except.ok.inj h)
      exact Nat.lt_of_le_of_lt hexponent (by omega)

/-- A number that is refused for more than its syntax is a long integer. -/
theorem longInteger_of_refused {error : PyError} (h : scanNumber text = .error error)
    (refused : error ≠ .jsonDecodeError) : LongInteger text := by
  rw [scanNumber_eq] at h
  dsimp only at h
  split at h
  next => exact absurd (Except.error.inj h).symm refused
  next =>
    split at h
    next hplain =>
      rw [pyInt] at h
      split at h
      next hlong => exact ⟨hlong, hplain.1, hplain.2⟩
      next => cases h
    next => cases h

theorem scanNumber_longInteger (long : LongInteger text) : ∃ error, scanNumber text = .error error ∧
    error.isLimit := by
  obtain ⟨hlong, hfraction, hexponent⟩ := long
  have hne : integerDigits (unsignedText text) ≠ [] := by
    intro hnil
    rw [hnil] at hlong
    exact absurd hlong (by decide)
  rw [scanNumber_eq]
  dsimp only
  rw [if_neg hne, if_pos ⟨hfraction, hexponent⟩, pyInt, if_pos hlong]
  exact ⟨_, rfl, rfl⟩

/-- A long integer begins with a digit, or with a sign and a digit. -/
theorem LongInteger.head (long : LongInteger text) :
    ∃ c rest, isAsciiDigit c = true ∧ (text = c :: rest ∨ text = 45 :: c :: rest) := by
  have hlong := long.1
  cases hunsigned : unsignedText text with
  | nil =>
    rw [hunsigned] at hlong
    exact absurd hlong (by decide)
  | cons c rest =>
    refine ⟨c, rest, ?_, ?_⟩
    · rw [hunsigned, integerDigits] at hlong
      split at hlong
      next => exact absurd hlong (show ¬4300 < 1 by decide)
      next =>
        by_contra hdigit
        rw [List.takeWhile_cons_of_neg hdigit] at hlong
        exact absurd hlong (by decide)
    · unfold unsignedText at hunsigned
      split at hunsigned
      next hminus =>
        right
        cases text with
        | nil => cases hunsigned
        | cons sign behind =>
          have hsign : sign.val = 45 := of_decide_eq_true hminus
          have heq : sign = 45 := Fin.ext hsign
          rw [heq]
          exact congrArg (45 :: ·) hunsigned
      next => exact Or.inl hunsigned

end numbers

/-- The texts at which the items of a list begin, as far as the scanner comes. -/
inductive ItemAt (scan : Scan) : PyStr → PyStr → Prop
  | first (text : PyStr) : ItemAt scan text text
  | next {text rest behind item : PyStr} {value : PyJson} {comma : CodePoint}
      (scanned : scan text = .ok (value, rest)) (follows : skipWhitespace rest = comma :: behind)
      (isComma : comma.is ',') (after : ItemAt scan (skipWhitespace behind) item) : ItemAt scan text item

/-- The text of the value behind a name and its colon. -/
def pairValue : PyStr → Option PyStr
  | [] => none
  | quote :: text =>
    if !quote.is '"' then none
    else match scanString text.length text with
      | .error _ => none
      | .ok (_, rest) =>
        match skipWhitespace rest with
        | [] => none
        | colon :: rest => if !colon.is ':' then none else some (skipWhitespace rest)

/-- The texts at which the values of an object begin. -/
inductive ValueAt (scan : Scan) : PyStr → PyStr → Prop
  | first {text value : PyStr} (named : pairValue text = some value) : ValueAt scan text value
  | next {text rest behind value : PyStr} {pair : PyStr × PyJson} {comma : CodePoint}
      (scanned : scanPair scan text = .ok (pair, rest)) (follows : skipWhitespace rest = comma :: behind)
      (isComma : comma.is ',') (after : ValueAt scan (skipWhitespace behind) value) : ValueAt scan text value

/-- The values that the scanner comes to, each with how many lists and objects may still be nested in it. -/
inductive Reads : Nat → PyStr → Nat → PyStr → Prop
  | here (depth : Nat) (text : PyStr) : Reads depth text depth text
  | item {depth inner : Nat} {rest behind item text : PyStr} {c first : CodePoint} (opens : c.is '[')
      (follows : skipWhitespace rest = first :: behind) (some : ¬first.is ']')
      (isItem : ItemAt (scanOnce depth) (first :: behind) item) (reads : Reads depth item inner text) :
      Reads (depth + 1) (c :: rest) inner text
  | value {depth inner : Nat} {rest behind value text : PyStr} {c first : CodePoint} (opens : c.is '{')
      (follows : skipWhitespace rest = first :: behind) (some : ¬first.is '}')
      (isValue : ValueAt (scanOnce depth) (first :: behind) value) (reads : Reads depth value inner text) :
      Reads (depth + 1) (c :: rest) inner text

section scans

variable {scan : Scan} {text rest : PyStr} {error : PyError}

theorem then_error {α β ε : Type} {x : Except ε α} {next : α → Except ε β} {e : ε}
    (h : (x >>= next) = .error e) : x = .error e ∨ ∃ a, x = .ok a ∧ next a = .error e := by
  cases x with
  | error e' =>
    cases h
    exact Or.inl rfl
  | ok a => exact Or.inr ⟨a, rfl, h⟩

theorem scanUnicodeEscape_error (h : scanUnicodeEscape text = .error error) : error = .jsonDecodeError := by
  unfold scanUnicodeEscape at h
  split at h
  next => exact (Except.error.inj h).symm
  next =>
    split at h
    next =>
      split at h
      next => cases h
      next =>
        split at h
        next => exact (Except.error.inj h).symm
        next => split at h <;> cases h
    next => cases h

theorem scanEscape_error (h : scanEscape text = .error error) : error = .jsonDecodeError := by
  cases text with
  | nil => exact (Except.error.inj h).symm
  | cons c rest =>
    rw [scanEscape] at h
    split at h
    next => exact scanUnicodeEscape_error h
    next =>
      split at h
      next => exact (Except.error.inj h).symm
      next => cases h

theorem scanString_error {rounds : Nat} (h : scanString rounds text = .error error) :
    error = .jsonDecodeError := by
  induction rounds generalizing text with
  | zero => exact (Except.error.inj h).symm
  | succ rounds ih =>
    cases text with
    | nil => exact (Except.error.inj h).symm
    | cons c rest =>
      rw [scanString] at h
      split at h
      next => cases h
      next =>
        split at h
        next =>
          rcases then_error h with h | ⟨escaped, -, h⟩
          · exact scanEscape_error h
          · rcases then_error h with h | ⟨found, -, h⟩
            · exact ih h
            · cases h
        next =>
          split at h
          next => exact (Except.error.inj h).symm
          next =>
            rcases then_error h with h | ⟨found, -, h⟩
            · exact ih h
            · cases h

/-- A pair is what its value is: the name is read before. -/
theorem scanPair_eq (scan : Scan) (text : PyStr) :
    (∃ value name, pairValue text = some value ∧ value.length < text.length ∧
      scanPair scan text = (scan value).bind fun found => .ok ((name, found.1), found.2)) ∨
    pairValue text = none ∧ scanPair scan text = .error .jsonDecodeError := by
  cases text with
  | nil => exact Or.inr ⟨rfl, rfl⟩
  | cons quote text =>
    rw [pairValue, scanPair]
    split
    next => exact Or.inr ⟨rfl, rfl⟩
    next =>
      cases hname : scanString text.length text with
      | error e =>
        obtain rfl := scanString_error hname
        exact Or.inr ⟨rfl, rfl⟩
      | ok found =>
        obtain ⟨name, rest⟩ := found
        have hrest := scanString_length hname
        have hskip := skipWhitespace_length_le rest
        rw [Except.ok_then]
        dsimp only
        cases hfollows : skipWhitespace rest with
        | nil => exact Or.inr ⟨rfl, rfl⟩
        | cons colon behind =>
          dsimp only
          split
          next => exact Or.inr ⟨rfl, rfl⟩
          next =>
            refine Or.inl ⟨_, name, rfl, ?_, rfl⟩
            have hvalue := skipWhitespace_length_le behind
            rw [hfollows, List.length_cons] at hskip
            rw [List.length_cons]
            omega

/-- Every value that the scanner returns leaves a shorter text behind. -/
def Consumes (scan : Scan) : Prop :=
  ∀ {text rest : PyStr} {value : PyJson}, scan text = .ok (value, rest) → rest.length < text.length

theorem scanPair_length (consumes : Consumes scan) {pair : PyStr × PyJson}
    (h : scanPair scan text = .ok (pair, rest)) : rest.length < text.length := by
  rcases scanPair_eq scan text with ⟨value, name, -, hlength, heq⟩ | ⟨-, heq⟩
  · rw [heq] at h
    obtain ⟨⟨found, behind⟩, hscan, h⟩ := Except.then_ok h
    cases h
    exact Nat.lt_trans (consumes hscan) hlength
  · rw [heq] at h
    cases h

theorem scanItems_length (consumes : Consumes scan) {rounds : Nat} {values : List PyJson}
    (h : scanItems scan rounds text = .ok (values, rest)) : rest.length < text.length := by
  induction rounds generalizing text values with
  | zero => cases h
  | succ rounds ih =>
    rw [scanItems] at h
    obtain ⟨⟨value, behind⟩, hscan, h⟩ := Except.then_ok h
    have hlength := consumes hscan
    have hskip := skipWhitespace_length_le behind
    dsimp only at h
    split at h
    next => cases h
    next c after hfollows =>
      rw [hfollows, List.length_cons] at hskip
      split at h
      next =>
        obtain ⟨-, rfl⟩ := Prod.mk.inj (Except.ok.inj h)
        omega
      next =>
        split at h
        next =>
          obtain ⟨⟨values', rest'⟩, hitems, h⟩ := Except.then_ok h
          cases h
          have hafter := ih hitems
          have hskip' := skipWhitespace_length_le after
          omega
        next => cases h

theorem scanPairs_length (consumes : Consumes scan) {rounds : Nat} {pairs found : List (PyStr × PyJson)}
    (h : scanPairs scan rounds pairs text = .ok (found, rest)) : rest.length < text.length := by
  induction rounds generalizing text pairs with
  | zero => cases h
  | succ rounds ih =>
    rw [scanPairs] at h
    obtain ⟨⟨pair, behind⟩, hscan, h⟩ := Except.then_ok h
    have hlength := scanPair_length consumes hscan
    have hskip := skipWhitespace_length_le behind
    dsimp only at h
    split at h
    next => cases h
    next c after hfollows =>
      rw [hfollows, List.length_cons] at hskip
      split at h
      next =>
        obtain ⟨-, rfl⟩ := Prod.mk.inj (Except.ok.inj h)
        omega
      next =>
        split at h
        next =>
          have hafter := ih h
          have hskip' := skipWhitespace_length_le after
          omega
        next => cases h

theorem scanList_length (consumes : Consumes scan) {value : PyJson} (h : scanList scan text = .ok (value, rest)) :
    rest.length < text.length := by
  have hskip := skipWhitespace_length_le text
  unfold scanList at h
  split at h
  next => cases h
  next c behind hfollows =>
    rw [hfollows, List.length_cons] at hskip
    split at h
    next =>
      obtain ⟨-, rfl⟩ := Prod.mk.inj (Except.ok.inj h)
      omega
    next =>
      obtain ⟨⟨items, rest'⟩, hitems, h⟩ := Except.then_ok h
      cases h
      have hlength := scanItems_length consumes hitems
      rw [List.length_cons] at hlength
      omega

theorem scanObject_length (consumes : Consumes scan) {value : PyJson}
    (h : scanObject scan text = .ok (value, rest)) : rest.length < text.length := by
  have hskip := skipWhitespace_length_le text
  unfold scanObject at h
  split at h
  next => cases h
  next c behind hfollows =>
    rw [hfollows, List.length_cons] at hskip
    split at h
    next =>
      obtain ⟨-, rfl⟩ := Prod.mk.inj (Except.ok.inj h)
      omega
    next =>
      obtain ⟨⟨pairs, rest'⟩, hpairs, h⟩ := Except.then_ok h
      cases h
      have hlength := scanPairs_length consumes hpairs
      rw [List.length_cons] at hlength
      omega

theorem scanOnce_length {depth : Nat} (nested : ∀ inner, depth = inner + 1 → Consumes (scanOnce inner)) :
    Consumes (scanOnce depth) := by
  intro text rest value h
  unfold scanOnce at h
  cases text with
  | nil => cases h
  | cons c behind =>
    dsimp only at h
    split at h
    next =>
      obtain ⟨⟨found, rest'⟩, hstring, h⟩ := Except.then_ok h
      cases h
      exact Nat.lt_succ_of_lt (scanString_length hstring)
    next =>
      split at h
      next =>
        split at h
        next => cases h
        next inner =>
          split at h
          next => exact Nat.lt_succ_of_lt (scanObject_length (nested inner rfl) h)
          next => exact Nat.lt_succ_of_lt (scanList_length (nested inner rfl) h)
      next =>
        split at h
        next hname =>
          cases h
          exact scanName_length hname
        next => exact scanNumber_length h

theorem scanOnce_consumes (depth : Nat) : Consumes (scanOnce depth) := by
  induction depth with
  | zero => exact scanOnce_length fun inner h => absurd h (Nat.succ_ne_zero inner).symm
  | succ depth ih =>
    refine scanOnce_length fun inner hinner => ?_
    obtain rfl := Nat.succ.inj hinner
    exact @ih

/-- An error that is not one of syntax comes from one of the items. -/
theorem scanItems_refused {rounds : Nat} (h : scanItems scan rounds text = .error error)
    (refused : error ≠ .jsonDecodeError) : ∃ item, ItemAt scan text item ∧ scan item = .error error := by
  induction rounds generalizing text with
  | zero => exact absurd (Except.error.inj h).symm refused
  | succ rounds ih =>
    rw [scanItems] at h
    rcases then_error h with h | ⟨⟨value, behind⟩, hscan, h⟩
    · exact ⟨text, .first text, h⟩
    · dsimp only at h
      split at h
      next => exact absurd (Except.error.inj h).symm refused
      next c after hfollows =>
        split at h
        next => cases h
        next =>
          split at h
          next hcomma =>
            rcases then_error h with h | ⟨found, -, h⟩
            · obtain ⟨item, hitem, herror⟩ := ih h
              exact ⟨item, .next hscan hfollows hcomma hitem, herror⟩
            · cases h
          next => exact absurd (Except.error.inj h).symm refused

theorem scanPairs_refused {rounds : Nat} {pairs : List (PyStr × PyJson)}
    (h : scanPairs scan rounds pairs text = .error error) (refused : error ≠ .jsonDecodeError) :
    ∃ value, ValueAt scan text value ∧ scan value = .error error := by
  induction rounds generalizing text pairs with
  | zero => exact absurd (Except.error.inj h).symm refused
  | succ rounds ih =>
    rw [scanPairs] at h
    rcases then_error h with h | ⟨⟨pair, behind⟩, hscan, h⟩
    · rcases scanPair_eq scan text with ⟨value, name, hnamed, -, heq⟩ | ⟨-, heq⟩
      · rw [heq] at h
        rcases then_error h with h | ⟨found, -, h⟩
        · exact ⟨value, .first hnamed, h⟩
        · cases h
      · rw [heq] at h
        exact absurd (Except.error.inj h).symm refused
    · dsimp only at h
      split at h
      next => exact absurd (Except.error.inj h).symm refused
      next c after hfollows =>
        split at h
        next => cases h
        next =>
          split at h
          next hcomma =>
            obtain ⟨value, hvalue, herror⟩ := ih h
            exact ⟨value, .next hscan hfollows hcomma hvalue, herror⟩
          next => exact absurd (Except.error.inj h).symm refused

/-- The scanner of a list comes to each of its items, and as many rounds as there are characters are enough. -/
theorem scanItems_of_itemAt (consumes : Consumes scan) (nil : scan [] = .error .jsonDecodeError) {item : PyStr}
    (isItem : ItemAt scan text item) (h : scan item = .error error) (limit : error.isLimit)
    {rounds : Nat} (enough : text.length ≤ rounds) : scanItems scan rounds text = .error error := by
  induction isItem generalizing rounds with
  | first text =>
    cases rounds with
    | zero =>
      obtain rfl := List.eq_nil_of_length_eq_zero (Nat.le_zero.mp enough)
      obtain rfl := Except.error.inj (nil.symm.trans h)
      cases limit
    | succ rounds =>
      rw [scanItems, h]
      rfl
  | next scanned follows isComma after ih =>
    next text rest behind item value comma =>
    have hlength := consumes scanned
    have hskip := skipWhitespace_length_le rest
    have hskip' := skipWhitespace_length_le behind
    rw [follows, List.length_cons] at hskip
    cases rounds with
    | zero => omega
    | succ rounds =>
      have hitems := ih h (show (skipWhitespace behind).length ≤ rounds by omega)
      have hbracket : ¬comma.is ']' := by
        have hval : comma.val = 44 := of_decide_eq_true isComma
        intro hbracket
        have hval' : comma.val = 93 := of_decide_eq_true hbracket
        omega
      rw [scanItems, scanned, Except.ok_then]
      dsimp only
      rw [follows]
      dsimp only
      rw [if_neg hbracket, if_pos isComma, hitems]
      rfl

theorem scanPairs_of_valueAt (consumes : Consumes scan) {value : PyStr} (isValue : ValueAt scan text value)
    (h : scan value = .error error) {rounds : Nat} (enough : text.length ≤ rounds)
    (pairs : List (PyStr × PyJson)) : scanPairs scan rounds pairs text = .error error := by
  induction isValue generalizing rounds pairs with
  | first named =>
    next text value =>
    rcases scanPair_eq scan text with ⟨value', name, hnamed, hlength, heq⟩ | ⟨hnone, -⟩
    · obtain rfl := Option.some.inj (named.symm.trans hnamed)
      cases rounds with
      | zero => omega
      | succ rounds =>
        rw [scanPairs, heq, h]
        rfl
    · cases named.symm.trans hnone
  | next scanned follows isComma after ih =>
    next text rest behind value pair comma =>
    have hlength := scanPair_length consumes scanned
    have hskip := skipWhitespace_length_le rest
    have hskip' := skipWhitespace_length_le behind
    rw [follows, List.length_cons] at hskip
    cases rounds with
    | zero => omega
    | succ rounds =>
      have hpairs := ih h (show (skipWhitespace behind).length ≤ rounds by omega) (setPair pairs pair)
      have hbrace : ¬comma.is '}' := by
        have hval : comma.val = 44 := of_decide_eq_true isComma
        intro hbrace
        have hval' : comma.val = 125 := of_decide_eq_true hbrace
        omega
      rw [scanPairs, scanned, Except.ok_then]
      dsimp only
      rw [follows]
      dsimp only
      rw [if_neg hbrace, if_pos isComma, hpairs]

theorem scanOnce_nil (depth : Nat) : scanOnce depth [] = .error .jsonDecodeError := by
  unfold scanOnce
  rfl

theorem CodePoint.eq_of_is {c : CodePoint} {char : Char} (h : c.is char) : c.val = char.toNat := of_decide_eq_true h

theorem CodePoint.is_ne {c : CodePoint} {char other : Char} (h : c.is char) (ne : char.toNat ≠ other.toNat) :
    ¬c.is other := fun hother => ne ((CodePoint.eq_of_is h).symm.trans (CodePoint.eq_of_is hother))

theorem scanList_refused {depth : Nat} (h : scanList (scanOnce depth) text = .error error)
    (refused : error ≠ .jsonDecodeError) :
    ∃ first behind item, skipWhitespace text = first :: behind ∧ ¬first.is ']' ∧
      ItemAt (scanOnce depth) (first :: behind) item ∧ scanOnce depth item = .error error := by
  unfold scanList at h
  split at h
  next => exact absurd (Except.error.inj h).symm refused
  next first behind hfollows =>
    split at h
    next => cases h
    next hend =>
      rcases then_error h with h | ⟨found, -, h⟩
      · obtain ⟨item, hitem, herror⟩ := scanItems_refused h refused
        exact ⟨first, behind, item, hfollows, hend, hitem, herror⟩
      · cases h

theorem scanObject_refused {depth : Nat} (h : scanObject (scanOnce depth) text = .error error)
    (refused : error ≠ .jsonDecodeError) :
    ∃ first behind value, skipWhitespace text = first :: behind ∧ ¬first.is '}' ∧
      ValueAt (scanOnce depth) (first :: behind) value ∧ scanOnce depth value = .error error := by
  unfold scanObject at h
  split at h
  next => exact absurd (Except.error.inj h).symm refused
  next first behind hfollows =>
    split at h
    next => cases h
    next hend =>
      rcases then_error h with h | ⟨found, -, h⟩
      · obtain ⟨value, hvalue, herror⟩ := scanPairs_refused h refused
        exact ⟨first, behind, value, hfollows, hend, hvalue, herror⟩
      · cases h

/-- A scan that fails for another reason than the syntax has come to a value beyond a limit. -/
theorem reads_of_refused {depth : Nat} (h : scanOnce depth text = .error error)
    (refused : error ≠ .jsonDecodeError) : ∃ inner value, Reads depth text inner value ∧
      BeyondLimit inner value := by
  induction depth generalizing text with
  | zero =>
    unfold scanOnce at h
    cases text with
    | nil => exact absurd (Except.error.inj h).symm refused
    | cons c rest =>
      dsimp only at h
      split at h
      next =>
        rcases then_error h with h | ⟨found, -, h⟩
        · exact absurd (scanString_error h) refused
        · cases h
      next =>
        split at h
        next hopens => exact ⟨0, _, .here _ _, Or.inl ⟨rfl, c, rest, rfl, hopens⟩⟩
        next =>
          split at h
          next => cases h
          next => exact ⟨0, _, .here _ _, Or.inr (longInteger_of_refused h refused)⟩
  | succ depth ih =>
    unfold scanOnce at h
    cases text with
    | nil => exact absurd (Except.error.inj h).symm refused
    | cons c rest =>
      dsimp only at h
      split at h
      next =>
        rcases then_error h with h | ⟨found, -, h⟩
        · exact absurd (scanString_error h) refused
        · cases h
      next =>
        split at h
        next hopens =>
          split at h
          next hbrace =>
            obtain ⟨first, behind, value, hfollows, hend, hvalue, herror⟩ := scanObject_refused h refused
            obtain ⟨inner, found, hreads, hbeyond⟩ := ih herror
            exact ⟨inner, found, .value hbrace hfollows hend hvalue hreads, hbeyond⟩
          next hbrace =>
            have hbracket := hopens.resolve_left hbrace
            obtain ⟨first, behind, item, hfollows, hend, hitem, herror⟩ := scanList_refused h refused
            obtain ⟨inner, found, hreads, hbeyond⟩ := ih herror
            exact ⟨inner, found, .item hbracket hfollows hend hitem hreads, hbeyond⟩
        next =>
          split at h
          next => cases h
          next => exact ⟨depth + 1, _, .here _ _, Or.inr (longInteger_of_refused h refused)⟩

/-- A number is not the beginning of anything else. -/
theorem scanOnce_longInteger (depth : Nat) (long : LongInteger text) : scanOnce depth text = scanNumber text := by
  have hscan : ∀ c rest, text = c :: rest → ¬c.is '"' → ¬(c.is '{' ∨ c.is '[') → scanName (c :: rest) = none →
      scanOnce depth text = scanNumber text := by
    rintro c rest rfl hquote hopens hname
    unfold scanOnce
    dsimp only
    rw [if_neg hquote, if_neg hopens, hname]
  obtain ⟨c, rest, hdigit, rfl | rfl⟩ := long.head
  · have hval : 48 ≤ c.val ∧ c.val ≤ 57 := by
      simpa only [isAsciiDigit, Bool.and_eq_true, decide_eq_true_eq] using hdigit
    refine hscan c rest rfl ?_ ?_ (scanName_digit hdigit rest)
    · intro hquote
      have hval' : c.val = 34 := CodePoint.eq_of_is hquote
      omega
    · rintro (hbrace | hbracket)
      · have hval' : c.val = 123 := CodePoint.eq_of_is hbrace
        omega
      · have hval' : c.val = 91 := CodePoint.eq_of_is hbracket
        omega
  · exact hscan 45 (c :: rest) rfl (by decide) (by decide) (scanName_minus hdigit rest)

theorem refused_of_beyond {depth : Nat} (beyond : BeyondLimit depth text) :
    ∃ error, scanOnce depth text = .error error ∧ error.isLimit := by
  rcases beyond with ⟨rfl, c, rest, rfl, hopens⟩ | hlong
  · have hquote : ¬c.is '"' := by
      rcases hopens with hbrace | hbracket
      · exact CodePoint.is_ne hbrace (by decide)
      · exact CodePoint.is_ne hbracket (by decide)
    refine ⟨.recursionError, ?_, rfl⟩
    unfold scanOnce
    dsimp only
    rw [if_neg hquote, if_pos hopens]
  · rw [scanOnce_longInteger depth hlong]
    exact scanNumber_longInteger hlong

theorem refused_of_reads {depth inner : Nat} {value : PyStr} (reads : Reads depth text inner value)
    (beyond : BeyondLimit inner value) : ∃ error, scanOnce depth text = .error error ∧ error.isLimit := by
  induction reads with
  | here depth text => exact refused_of_beyond beyond
  | item opens follows some isItem reads ih =>
    next depth inner rest behind item text c first =>
    obtain ⟨error, herror, hlimit⟩ := ih beyond
    have henough := skipWhitespace_length_le rest
    rw [follows] at henough
    have hitems := scanItems_of_itemAt (scanOnce_consumes depth) (scanOnce_nil depth) isItem herror hlimit henough
    refine ⟨error, ?_, hlimit⟩
    unfold scanOnce
    dsimp only
    rw [if_neg (CodePoint.is_ne opens (by decide)), if_pos (Or.inr opens),
      if_neg (CodePoint.is_ne opens (by decide)), scanList, follows]
    dsimp only
    rw [if_neg some, hitems]
    rfl
  | value opens follows some isValue reads ih =>
    next depth inner rest behind value text c first =>
    obtain ⟨error, herror, hlimit⟩ := ih beyond
    have henough := skipWhitespace_length_le rest
    rw [follows] at henough
    have hpairs := scanPairs_of_valueAt (scanOnce_consumes depth) isValue herror henough []
    refine ⟨error, ?_, hlimit⟩
    unfold scanOnce
    dsimp only
    rw [if_neg (CodePoint.is_ne opens (by decide)), if_pos (Or.inl opens), if_pos opens, scanObject, follows]
    dsimp only
    rw [if_neg some, hpairs]
    rfl

end scans

/-- Nothing that `json.loads` comes to in the text is beyond a limit of the interpreter. -/
def WithinLimits (depth : Nat) (text : PyStr) : Prop :=
  text.head? ≠ some 0xFEFF → ∀ inner value, Reads depth (skipWhitespace text) inner value → ¬BeyondLimit inner value

theorem loads_beyond {depth inner : Nat} {text value : PyStr} (unmarked : text.head? ≠ some 0xFEFF)
    (reads : Reads depth (skipWhitespace text) inner value) (beyond : BeyondLimit inner value) :
    ∃ error, loads depth text = .error error ∧ error.isLimit := by
  obtain ⟨error, herror, hlimit⟩ := refused_of_reads reads beyond
  refine ⟨error, ?_, hlimit⟩
  rw [loads, if_neg unmarked, herror]
  rfl

theorem beyond_of_loads {depth : Nat} {text : PyStr} {error : PyError} (h : loads depth text = .error error)
    (refused : error ≠ .jsonDecodeError) :
    text.head? ≠ some 0xFEFF ∧ ∃ inner value, Reads depth (skipWhitespace text) inner value ∧
      BeyondLimit inner value := by
  unfold loads at h
  split at h
  next => exact absurd (Except.error.inj h).symm refused
  next hmark =>
    rcases then_error h with hscan | ⟨found, -, hrest⟩
    · exact ⟨hmark, reads_of_refused hscan refused⟩
    · dsimp only at hrest
      split at hrest
      next => cases hrest
      next => exact absurd (Except.error.inj hrest).symm refused

/-- `json.loads` raises another error than `JSONDecodeError` exactly where it comes to a value beyond a limit. -/
theorem loads_syntax_iff {depth : Nat} {text : PyStr} :
    (∀ error, loads depth text = .error error → error = .jsonDecodeError) ↔ WithinLimits depth text := by
  constructor
  · intro h hmark inner value hreads hbeyond
    obtain ⟨error, herror, hlimit⟩ := loads_beyond hmark hreads hbeyond
    obtain rfl := h error herror
    cases hlimit
  · intro h error herror
    by_contra hrefused
    obtain ⟨hmark, inner, value, hreads, hbeyond⟩ := beyond_of_loads herror hrefused
    exact h hmark inner value hreads hbeyond

/-- Beside its errors of syntax it only raises those of the limits. -/
theorem loads_error {depth : Nat} {text : PyStr} {error : PyError} (h : loads depth text = .error error) :
    error = .jsonDecodeError ∨ error.isLimit := by
  by_cases hsyntax : error = .jsonDecodeError
  · exact Or.inl hsyntax
  · obtain ⟨hmark, inner, value, hreads, hbeyond⟩ := beyond_of_loads h hsyntax
    obtain ⟨error', herror, hlimit⟩ := loads_beyond hmark hreads hbeyond
    obtain rfl := Except.error.inj (h.symm.trans herror)
    exact Or.inr hlimit

end JLinkMcp.Host
