import JLinkMcp.JsonLimits
import JLinkMcp.JsonTexts

namespace JLinkMcp.Host

/-- How far into a JSON text: the brackets that are open, and whether the next character stands in a
string, and there behind a backslash. -/
structure Nesting where
  opened : Nat
  quoted : Bool
  escaped : Bool

def Nesting.next (n : Nesting) (c : CodePoint) : Nesting :=
  if n.escaped then { n with escaped := false }
  else if n.quoted then
    if c.is '"' then { n with quoted := false }
    else if c.is '\\' then { n with escaped := true }
    else n
  else if c.is '"' then { n with quoted := true }
  else if c.is '{' ∨ c.is '[' then { n with opened := n.opened + 1 }
  else if c.is '}' ∨ c.is ']' then { n with opened := n.opened - 1 }
  else n

/-- The text leads from one place to the other, and no more than `floor` brackets are closed on the way. -/
inductive Within (floor : Nat) : Nesting → PyStr → Nesting → Prop
  | nil {n : Nesting} (le : floor ≤ n.opened) : Within floor n [] n
  | cons {n m : Nesting} {c : CodePoint} {text : PyStr} (le : floor ≤ n.opened)
      (rest : Within floor (n.next c) text m) : Within floor n (c :: text) m

/-- Behind `o` brackets, outside of a string. -/
def outside (o : Nat) : Nesting := ⟨o, false, false⟩

/-- Behind `o` brackets, in a string. -/
def inside (o : Nat) : Nesting := ⟨o, true, false⟩

/-- What closes all the brackets and quotes it opens, and no others. -/
def Closed (text : PyStr) : Prop := ∀ o, Within o (outside o) text (outside o)

section within

variable {floor : Nat} {n m k : Nesting} {text more : PyStr}

theorem Within.append (h : Within floor n text m) (hmore : Within floor m more k) :
    Within floor n (text ++ more) k := by
  induction h with
  | nil => exact hmore
  | cons le _ ih => exact .cons le (ih hmore)

theorem Within.mono {lower : Nat} (h : Within floor n text m) (le : lower ≤ floor) : Within lower n text m := by
  induction h with
  | nil hfloor => exact .nil (Nat.le_trans le hfloor)
  | cons hfloor _ ih => exact .cons (Nat.le_trans le hfloor) ih

/-- Where the text leads to is what its characters say. -/
theorem Within.foldl (h : Within floor n text m) : text.foldl Nesting.next n = m := by
  induction h with
  | nil => rfl
  | cons _ _ ih => exact ih

theorem Within.le_of_cut (h : Within floor n text m) (pre : more <+: text) :
    floor ≤ (more.foldl Nesting.next n).opened := by
  induction h generalizing more with
  | nil le =>
    obtain rfl := List.prefix_nil.mp pre
    exact le
  | @cons n m c text le _ ih =>
    cases more with
    | nil => exact le
    | cons other more =>
      obtain ⟨rfl, hrest⟩ := List.cons_prefix_cons.mp pre
      exact ih hrest

theorem Closed.nil : Closed [] := fun _ => .nil (Nat.le_refl _)

theorem Closed.append (h : Closed text) (hmore : Closed more) : Closed (text ++ more) := fun o =>
  (h o).append (hmore o)

/-- A character that is no bracket, no quote and no backslash. -/
def isPlainMark (c : CodePoint) : Bool :=
  !(c.is '"' || c.is '\\' || c.is '{' || c.is '[' || c.is '}' || c.is ']')

theorem next_outside {c : CodePoint} (plain : isPlainMark c = true) (o : Nat) :
    (outside o).next c = outside o := by
  simp only [isPlainMark, Bool.not_eq_true', Bool.or_eq_false_iff] at plain
  obtain ⟨⟨⟨⟨⟨hquote, -⟩, hbrace⟩, hbracket⟩, hbraceEnd⟩, hbracketEnd⟩ := plain
  simp [Nesting.next, outside, hquote, hbrace, hbracket, hbraceEnd, hbracketEnd]

theorem next_inside {c : CodePoint} (hquote : c.is '"' = false) (hbackslash : c.is '\\' = false) (o : Nat) :
    (inside o).next c = inside o := by
  simp [Nesting.next, inside, hquote, hbackslash]

theorem closed_plain (plain : ∀ c ∈ text, isPlainMark c = true) : Closed text := by
  induction text with
  | nil => exact .nil
  | cons c text ih =>
    have hrest := ih fun other hother => plain other (List.mem_cons_of_mem c hother)
    intro o
    refine .cons (Nat.le_refl _) ?_
    rw [next_outside (plain c List.mem_cons_self)]
    exact hrest o

end within

/-- What is taken from the text leads from the one place to the other, behind any number of brackets. -/
def Takes (start finish : Nat → Nesting) (text rest : PyStr) : Prop :=
  ∃ taken, text = taken ++ rest ∧ ∀ o, Within o (start o) taken (finish o)

/-- Up to the mark, and behind it. -/
def EndsAt (mark : CodePoint) (text rest : PyStr) : Prop := ∃ body, text = body ++ mark :: rest ∧ Closed body

section takes

variable {a b c : Nat → Nesting} {text rest behind : PyStr}

theorem Takes.trans (h : Takes a b text rest) (hnext : Takes b c rest behind) : Takes a c text behind := by
  obtain ⟨taken, rfl, hwithin⟩ := h
  obtain ⟨next, rfl, hwithin'⟩ := hnext
  exact ⟨taken ++ next, (List.append_assoc taken next behind).symm, fun o => (hwithin o).append (hwithin' o)⟩

theorem Takes.refl (le : ∀ o, o ≤ (a o).opened) : Takes a a text text := ⟨[], rfl, fun o => .nil (le o)⟩

theorem Takes.cons {char : CodePoint} (le : ∀ o, o ≤ (a o).opened) (next : ∀ o, (a o).next char = b o)
    (le' : ∀ o, o ≤ (b o).opened) : Takes a b (char :: text) text :=
  ⟨[char], rfl, fun o => .cons (le o) ((next o).symm ▸ .nil (le' o))⟩

theorem EndsAt.takes {mark : CodePoint} {before : PyStr} (h : Takes outside outside before text)
    (ends : EndsAt mark text rest) : EndsAt mark before rest := by
  obtain ⟨taken, rfl, hclosed⟩ := h
  obtain ⟨body, rfl, hbody⟩ := ends
  exact ⟨taken ++ body, (List.append_assoc taken body _).symm, Closed.append hclosed hbody⟩

theorem endsAt_nil (mark : CodePoint) : EndsAt mark (mark :: rest) rest := ⟨[], rfl, .nil⟩

/-- Brackets around what is closed. -/
theorem Closed.bracketed {opens closes : CodePoint} (hopens : ∀ o, (outside o).next opens = outside (o + 1))
    (hcloses : ∀ o, (outside (o + 1)).next closes = outside o) (h : Closed text) :
    Closed (opens :: (text ++ [closes])) := by
  intro o
  refine .cons (Nat.le_refl o) ?_
  rw [hopens]
  refine ((h (o + 1)).mono (Nat.le_succ o)).append (.cons (Nat.le_succ o) ?_)
  rw [hcloses]
  exact .nil (Nat.le_refl o)

end takes

section scanners

variable {text rest : PyStr}

theorem takes_skipWhitespace (text : PyStr) : Takes outside outside text (skipWhitespace text) := by
  refine ⟨_, (List.takeWhile_append_dropWhile).symm, closed_plain fun c hc => ?_⟩
  have hspace := List.all_eq_true.mp List.all_takeWhile c hc
  simp only [Bool.or_eq_true] at hspace
  simp only [CodePoint.is, decide_eq_true_eq] at hspace
  simp only [isPlainMark, CodePoint.is]
  rcases hspace with ((h | h) | h) | h <;> rw [h] <;> rfl

theorem hexValue_marks {c : CodePoint} {v : Nat} (h : hexValue c = some v) :
    c.is '"' = false ∧ c.is '\\' = false := by
  simp only [hexValue, isAsciiDigit, Bool.and_eq_true, decide_eq_true_eq] at h
  simp only [CodePoint.is, decide_eq_false_iff_not]
  constructor <;>
  · intro hmark
    rw [hmark] at h
    simp at h

/-- The digits of `\u` stay in the string. -/
theorem takes_hexUnit {unit : Nat} (h : hexUnit text = some (unit, rest)) : Takes inside inside text rest := by
  unfold hexUnit at h
  split at h
  next a b c d behind =>
    simp only [Option.bind_eq_bind, Option.bind_eq_some_iff, Option.pure_def, Option.some.injEq,
      Prod.mk.injEq] at h
    obtain ⟨_, ha, _, hb, _, hc, _, hd, -, rfl⟩ := h
    have hdigit : ∀ {digit : CodePoint} {v : Nat} (text : PyStr), hexValue digit = some v →
        Takes inside inside (digit :: text) text := fun text hdigit =>
      .cons (fun _ => Nat.le_refl _) (next_inside (hexValue_marks hdigit).1 (hexValue_marks hdigit).2)
        fun _ => Nat.le_refl _
    exact (((hdigit _ ha).trans (hdigit _ hb)).trans (hdigit _ hc)).trans (hdigit _ hd)
  next => cases h

theorem afterLiteral_eq {literal : String} (h : afterLiteral literal text = some rest) :
    text = PyStr.ofString literal ++ rest := by
  unfold afterLiteral at h
  split at h
  next hbegins =>
    obtain ⟨behind, rfl⟩ := hbegins
    obtain rfl := Option.some.inj h
    rw [List.drop_left' (by rw [PyStr.ofString, List.length_map, String.length_toList])]
  next => cases h

/-- Behind a backslash, in a string. -/
def afterBackslash (o : Nat) : Nesting := ⟨o, true, true⟩

theorem takes_backslash : Takes inside afterBackslash (92 :: text) text :=
  .cons (fun _ => Nat.le_refl _) (fun _ => rfl) fun _ => Nat.le_refl _

theorem takes_escaped (c : CodePoint) : Takes afterBackslash inside (c :: text) text :=
  .cons (fun _ => Nat.le_refl _) (fun _ => rfl) fun _ => Nat.le_refl _

theorem takes_scanUnicodeEscape {c : CodePoint} (h : scanUnicodeEscape text = .ok (c, rest)) :
    Takes inside inside text rest := by
  unfold scanUnicodeEscape at h
  split at h
  next => cases h
  next unit behind hunit =>
    have hbehind := takes_hexUnit hunit
    split at h
    next =>
      split at h
      next =>
        obtain ⟨-, rfl⟩ := Prod.mk.inj (Except.ok.inj h)
        exact hbehind
      next low hlow =>
        split at h
        next => cases h
        next lowUnit last hlast =>
          split at h
          next =>
            obtain ⟨-, rfl⟩ := Prod.mk.inj (Except.ok.inj h)
            obtain rfl := afterLiteral_eq hlow
            exact ((hbehind.trans takes_backslash).trans (takes_escaped 117)).trans (takes_hexUnit hlast)
          next =>
            obtain ⟨-, rfl⟩ := Prod.mk.inj (Except.ok.inj h)
            exact hbehind
    next =>
      obtain ⟨-, rfl⟩ := Prod.mk.inj (Except.ok.inj h)
      exact hbehind

theorem takes_scanEscape {c : CodePoint} (h : scanEscape text = .ok (c, rest)) :
    Takes afterBackslash inside text rest := by
  cases text with
  | nil => cases h
  | cons e behind =>
    rw [scanEscape] at h
    split at h
    next => exact (takes_escaped e).trans (takes_scanUnicodeEscape h)
    next =>
      split at h
      next => cases h
      next =>
        cases h
        exact takes_escaped e

theorem eq_of_is {c : CodePoint} {char : Char} (h : c.is char = true) (lt : char.toNat < 0x110000) :
    c = Fin.ofNat 0x110000 char.toNat :=
  Fin.ext ((of_decide_eq_true h).trans (Nat.mod_eq_of_lt lt).symm)

theorem takes_scanString {rounds : Nat} {value : PyStr} (h : scanString rounds text = .ok (value, rest)) :
    Takes inside outside text rest := by
  induction rounds generalizing text value with
  | zero => cases h
  | succ rounds ih =>
    cases text with
    | nil => cases h
    | cons c behind =>
      rw [scanString] at h
      split at h
      next hquote =>
        cases h
        obtain rfl := eq_of_is hquote (by decide)
        exact .cons (fun _ => Nat.le_refl _) (fun _ => rfl) fun _ => Nat.le_refl _
      next hquote =>
        split at h
        next hbackslash =>
          obtain ⟨⟨char, behind'⟩, hescape, h⟩ := Except.then_ok h
          obtain ⟨⟨value', rest'⟩, hstring, h⟩ := Except.then_ok h
          cases h
          obtain rfl := eq_of_is hbackslash (by decide)
          exact (takes_backslash.trans (takes_scanEscape hescape)).trans (ih hstring)
        next hbackslash =>
          split at h
          next => cases h
          next =>
            obtain ⟨⟨value', rest'⟩, hstring, h⟩ := Except.then_ok h
            cases h
            have hstep : Takes inside inside (c :: behind) behind :=
              .cons (fun _ => Nat.le_refl _)
                (next_inside (Bool.eq_false_of_not_eq_true hquote) (Bool.eq_false_of_not_eq_true hbackslash))
                fun _ => Nat.le_refl _
            exact hstep.trans (ih hstring)

theorem takes_quoted {rounds : Nat} {value : PyStr} (h : scanString rounds text = .ok (value, rest)) :
    Takes outside outside (34 :: text) rest :=
  Takes.trans (.cons (fun _ => Nat.le_refl _) (fun _ => rfl) fun _ => Nat.le_refl _) (takes_scanString h)

theorem takes_scanName {value : PyJson} (h : scanName text = some (value, rest)) :
    Takes outside outside text rest := by
  have hnamed : ∀ {literal : String} {named : PyJson},
      (PyStr.ofString literal).all isPlainMark = true →
      (afterLiteral literal text).map (fun rest => (named, rest)) = some (value, rest) →
        Takes outside outside text rest := by
    intro literal named hplain hmap
    obtain ⟨behind, hbehind, hpair⟩ := Option.map_eq_some_iff.mp hmap
    cases hpair
    exact ⟨_, afterLiteral_eq hbehind, closed_plain (List.all_eq_true.mp hplain)⟩
  simp only [scanName, Option.orElse_eq_orElse, Option.orElse_eq_or, Option.or_eq_some_iff] at h
  rcases h with h | ⟨-, h | ⟨-, h | ⟨-, h | ⟨-, h | ⟨-, h⟩⟩⟩⟩⟩
  all_goals exact hnamed (by decide) h

theorem digit_plain {c : CodePoint} (h : isAsciiDigit c = true) : isPlainMark c = true := by
  simp only [isAsciiDigit, Bool.and_eq_true, decide_eq_true_eq] at h
  have hne : ∀ n, (n < 48 ∨ 57 < n) → decide (c.val = n) = false := fun n hn =>
    decide_eq_false (by omega)
  simp only [isPlainMark, CodePoint.is]
  rw [hne _ (by decide), hne _ (by decide), hne _ (by decide), hne _ (by decide), hne _ (by decide),
    hne _ (by decide)]
  rfl

theorem digits_plain (text : PyStr) : ∀ c ∈ text.takeWhile isAsciiDigit, isPlainMark c = true := fun c hc =>
  digit_plain (List.all_eq_true.mp List.all_takeWhile c hc)

/-- Plain characters at the begin are taken. -/
theorem takes_prefix {taken : PyStr} (pre : taken <+: text) (plain : ∀ c ∈ taken, isPlainMark c = true) :
    Takes outside outside text (text.drop taken.length) :=
  ⟨taken, (List.prefix_iff_eq_append.mp pre).symm, closed_plain plain⟩

theorem takes_digits (text : PyStr) :
    Takes outside outside text (text.drop (text.takeWhile isAsciiDigit).length) :=
  takes_prefix (List.takeWhile_prefix _) (digits_plain text)

theorem takes_self (text : PyStr) : Takes outside outside text text := .refl fun _ => Nat.le_refl _

/-- A character of a number outside of its digits. -/
theorem takes_plain {c : CodePoint} (plain : isPlainMark c = true) : Takes outside outside (c :: text) text :=
  .cons (fun _ => Nat.le_refl _) (next_outside plain) fun _ => Nat.le_refl _

theorem takes_scanFraction (text : PyStr) : Takes outside outside text (scanFraction text).2 := by
  unfold scanFraction
  split
  next point rest =>
    dsimp only
    split
    next h =>
      obtain rfl := eq_of_is h.1 (by decide)
      exact (takes_plain (by decide)).trans (takes_digits rest)
    next => exact takes_self _
  next => exact takes_self _

theorem takes_sign (text : PyStr) : Takes outside outside text
    (text.drop (text.take (if (text.head?.any fun c => c.is '+' || c.is '-') then 1 else 0)).length) := by
  refine takes_prefix (List.take_prefix _ _) fun c hc => ?_
  cases text with
  | nil => exact absurd hc (by simp)
  | cons first rest =>
    rw [List.head?_cons, Option.any_some] at hc
    by_cases h : (first.is '+' || first.is '-') = true
    · rw [if_pos h, List.take_succ_cons, List.take_zero, List.mem_singleton] at hc
      rw [Bool.or_eq_true] at h
      rcases h with h | h <;>
      · rw [hc, eq_of_is h (by decide)]
        decide
    · rw [if_neg h] at hc
      exact absurd hc (by simp)

theorem takes_scanExponent (text : PyStr) : Takes outside outside text (scanExponent text).2 := by
  cases text with
  | nil => exact takes_self _
  | cons e rest =>
    have hsign := takes_sign rest
    simp only [scanExponent]
    generalize rest.take _ = sign at hsign ⊢
    split
    next h =>
      have he : Takes outside outside (e :: rest) rest := by
        rcases h.1 with h | h <;>
        · obtain rfl := eq_of_is h (by decide)
          exact takes_plain (by decide)
      exact (he.trans hsign).trans (takes_digits _)
    next => exact takes_self _

theorem takes_unsignedText (text : PyStr) : Takes outside outside text (unsignedText text) := by
  cases text with
  | nil => exact takes_self _
  | cons c rest =>
    rw [unsignedText, List.head?_cons, Option.any_some]
    by_cases h : c.is '-' = true
    · obtain rfl := eq_of_is h (by decide)
      exact takes_plain (by decide)
    · rw [if_neg h]
      exact takes_self _

theorem takes_integerDigits (text : PyStr) :
    Takes outside outside text (text.drop (integerDigits text).length) := by
  cases text with
  | nil => exact takes_self _
  | cons c rest =>
    rw [integerDigits]
    split
    next h =>
      obtain rfl := eq_of_is h (by decide)
      exact takes_plain (by decide)
    next => exact takes_digits _

theorem takes_scanNumber {value : PyJson} (h : scanNumber text = .ok (value, rest)) :
    Takes outside outside text rest := by
  have htakes := (((takes_unsignedText text).trans (takes_integerDigits _)).trans
    (takes_scanFraction _)).trans (takes_scanExponent _)
  rw [scanNumber_eq] at h
  dsimp only at h
  split at h
  next => cases h
  next =>
    split at h
    next =>
      obtain ⟨n, -, h⟩ := Except.then_ok h
      obtain ⟨-, rfl⟩ := Prod.mk.inj (Except.ok.inj h)
      exact htakes
    next =>
      obtain ⟨-, rfl⟩ := Prod.mk.inj (Except.ok.inj h)
      exact htakes

/-- Every value that the scanner returns is closed. -/
def TakesValues (scan : Scan) : Prop :=
  ∀ {text rest : PyStr} {value : PyJson}, scan text = .ok (value, rest) → Takes outside outside text rest

variable {scan : Scan}

theorem takes_scanPair (takes : TakesValues scan) {pair : PyStr × PyJson}
    (h : scanPair scan text = .ok (pair, rest)) : Takes outside outside text rest := by
  cases text with
  | nil => cases h
  | cons quote text =>
    rw [scanPair] at h
    split at h
    next => cases h
    next hquote =>
      simp only [Bool.not_eq_true', Bool.not_eq_false] at hquote
      obtain rfl := eq_of_is hquote (by decide)
      obtain ⟨⟨name, behind⟩, hname, h⟩ := Except.then_ok h
      have hbehind := (takes_quoted hname).trans (takes_skipWhitespace behind)
      dsimp only at h
      split at h
      next => cases h
      next colon after hfollows =>
        split at h
        next => cases h
        next hcolon =>
          simp only [Bool.not_eq_true', Bool.not_eq_false] at hcolon
          obtain rfl := eq_of_is hcolon (by decide)
          obtain ⟨⟨value, rest'⟩, hvalue, h⟩ := Except.then_ok h
          cases h
          rw [hfollows] at hbehind
          exact ((hbehind.trans (takes_plain (by decide))).trans (takes_skipWhitespace after)).trans (takes hvalue)

theorem ends_scanItems (takes : TakesValues scan) {rounds : Nat} {values : List PyJson}
    (h : scanItems scan rounds text = .ok (values, rest)) : EndsAt 93 text rest := by
  induction rounds generalizing text values with
  | zero => cases h
  | succ rounds ih =>
    rw [scanItems] at h
    obtain ⟨⟨value, behind⟩, hscan, h⟩ := Except.then_ok h
    have hbehind := (takes hscan).trans (takes_skipWhitespace behind)
    dsimp only at h
    split at h
    next => cases h
    next c after hfollows =>
      rw [hfollows] at hbehind
      split at h
      next hend =>
        obtain ⟨-, rfl⟩ := Prod.mk.inj (Except.ok.inj h)
        obtain rfl := eq_of_is hend (by decide)
        exact .takes hbehind (endsAt_nil 93)
      next =>
        split at h
        next hcomma =>
          obtain ⟨⟨values', rest'⟩, hitems, h⟩ := Except.then_ok h
          cases h
          obtain rfl := eq_of_is hcomma (by decide)
          exact .takes ((hbehind.trans (takes_plain (by decide))).trans (takes_skipWhitespace after)) (ih hitems)
        next => cases h

theorem ends_scanPairs (takes : TakesValues scan) {rounds : Nat} {pairs found : List (PyStr × PyJson)}
    (h : scanPairs scan rounds pairs text = .ok (found, rest)) : EndsAt 125 text rest := by
  induction rounds generalizing text pairs with
  | zero => cases h
  | succ rounds ih =>
    rw [scanPairs] at h
    obtain ⟨⟨pair, behind⟩, hscan, h⟩ := Except.then_ok h
    have hbehind := (takes_scanPair takes hscan).trans (takes_skipWhitespace behind)
    dsimp only at h
    split at h
    next => cases h
    next c after hfollows =>
      rw [hfollows] at hbehind
      split at h
      next hend =>
        obtain ⟨-, rfl⟩ := Prod.mk.inj (Except.ok.inj h)
        obtain rfl := eq_of_is hend (by decide)
        exact .takes hbehind (endsAt_nil 125)
      next =>
        split at h
        next hcomma =>
          obtain rfl := eq_of_is hcomma (by decide)
          exact .takes ((hbehind.trans (takes_plain (by decide))).trans (takes_skipWhitespace after)) (ih h)
        next => cases h

theorem ends_scanList (takes : TakesValues scan) {value : PyJson} (h : scanList scan text = .ok (value, rest)) :
    EndsAt 93 text rest := by
  have hskip := takes_skipWhitespace text
  unfold scanList at h
  split at h
  next => cases h
  next c behind hfollows =>
    rw [hfollows] at hskip
    split at h
    next hend =>
      obtain ⟨-, rfl⟩ := Prod.mk.inj (Except.ok.inj h)
      obtain rfl := eq_of_is hend (by decide)
      exact .takes hskip (endsAt_nil 93)
    next =>
      obtain ⟨⟨items, rest'⟩, hitems, h⟩ := Except.then_ok h
      cases h
      exact .takes hskip (ends_scanItems takes hitems)

theorem ends_scanObject (takes : TakesValues scan) {value : PyJson}
    (h : scanObject scan text = .ok (value, rest)) : EndsAt 125 text rest := by
  have hskip := takes_skipWhitespace text
  unfold scanObject at h
  split at h
  next => cases h
  next c behind hfollows =>
    rw [hfollows] at hskip
    split at h
    next hend =>
      obtain ⟨-, rfl⟩ := Prod.mk.inj (Except.ok.inj h)
      obtain rfl := eq_of_is hend (by decide)
      exact .takes hskip (endsAt_nil 125)
    next =>
      obtain ⟨⟨pairs, rest'⟩, hpairs, h⟩ := Except.then_ok h
      cases h
      exact .takes hskip (ends_scanPairs takes hpairs)

theorem takes_bracketed {opens closes : CodePoint} (hopens : ∀ o, (outside o).next opens = outside (o + 1))
    (hcloses : ∀ o, (outside (o + 1)).next closes = outside o) (ends : EndsAt closes text rest) :
    Takes outside outside (opens :: text) rest := by
  obtain ⟨body, rfl, hbody⟩ := ends
  refine ⟨opens :: (body ++ [closes]), ?_, hbody.bracketed hopens hcloses⟩
  rw [List.cons_append, List.append_assoc]
  rfl

theorem takes_scanOnce_step {depth : Nat} (nested : ∀ inner, depth = inner + 1 → TakesValues (scanOnce inner)) :
    TakesValues (scanOnce depth) := by
  intro text rest value h
  unfold scanOnce at h
  cases text with
  | nil => cases h
  | cons c behind =>
    dsimp only at h
    split at h
    next hquote =>
      obtain ⟨⟨found, rest'⟩, hstring, h⟩ := Except.then_ok h
      cases h
      obtain rfl := eq_of_is hquote (by decide)
      exact takes_quoted hstring
    next =>
      split at h
      next hopens =>
        split at h
        next => cases h
        next inner =>
          split at h
          next hbrace =>
            obtain rfl := eq_of_is hbrace (by decide)
            exact takes_bracketed (fun _ => rfl) (fun _ => rfl) (ends_scanObject (nested inner rfl) h)
          next hbrace =>
            obtain rfl := eq_of_is (hopens.resolve_left hbrace) (by decide)
            exact takes_bracketed (fun _ => rfl) (fun _ => rfl) (ends_scanList (nested inner rfl) h)
      next =>
        split at h
        next hname =>
          cases h
          exact takes_scanName hname
        next => exact takes_scanNumber h

theorem takes_scanOnce (depth : Nat) : TakesValues (scanOnce depth) := by
  induction depth with
  | zero => exact takes_scanOnce_step fun inner h => absurd h (Nat.succ_ne_zero inner).symm
  | succ depth ih =>
    refine takes_scanOnce_step fun inner hinner => ?_
    obtain rfl := Nat.succ.inj hinner
    exact ih

/-- An object is read from its brace to the brace that closes it. -/
theorem ends_scanOnce {depth : Nat} {value : PyJson} (h : scanOnce depth (123 :: text) = .ok (value, rest)) :
    EndsAt 125 text rest := by
  cases depth with
  | zero => cases h
  | succ depth => exact ends_scanObject (takes_scanOnce depth) h

end scanners

/-- What `json.loads` takes closes the brackets it opens. -/
theorem closed_of_loads {depth : Nat} {text : PyStr} {value : PyJson} (h : loads depth text = .ok value) :
    Closed text := by
  unfold loads at h
  split at h
  next => cases h
  next =>
    obtain ⟨⟨found, rest⟩, hscan, h⟩ := Except.then_ok h
    dsimp only at h
    split at h
    next hrest =>
      have hvalue := ((takes_skipWhitespace text).trans (takes_scanOnce depth hscan)).trans
        (takes_skipWhitespace rest)
      rw [hrest] at hvalue
      obtain ⟨taken, rfl, hclosed⟩ := hvalue
      rwa [List.append_nil]
    next => cases h

theorem loads_nil (depth : Nat) : loads depth [] = .error .jsonDecodeError := by
  have hscan := scanOnce_nil depth
  rw [loads, if_neg (by simp)]
  change (scanOnce depth [] >>= _) = _
  rw [hscan]
  rfl

/-- What is read as an object begins with its brace. -/
theorem brace_of_scanOnce {depth : Nat} {text rest : PyStr} {fields : List (PyStr × PyJson)}
    (h : scanOnce depth text = .ok (.dict fields, rest)) : ∃ behind, text = 123 :: behind := by
  unfold scanOnce at h
  cases text with
  | nil => cases h
  | cons c behind =>
    dsimp only at h
    split at h
    next =>
      obtain ⟨found, -, h⟩ := Except.then_ok h
      cases h
    next =>
      split at h
      next =>
        split at h
        next => cases h
        next =>
          split at h
          next hbrace => exact ⟨behind, by rw [eq_of_is hbrace (by decide)]; rfl⟩
          next =>
            unfold scanList at h
            split at h
            next => cases h
            next =>
              split at h
              next => cases h
              next =>
                obtain ⟨found, -, h⟩ := Except.then_ok h
                cases h
      next =>
        split at h
        next hname =>
          cases h
          simp [scanName, Option.orElse_eq_orElse, Option.orElse_eq_or, Option.or_eq_some_iff] at hname
        next =>
          rw [scanNumber_eq] at h
          dsimp only at h
          split at h
          next => cases h
          next =>
            split at h
            next =>
              obtain ⟨found, -, h⟩ := Except.then_ok h
              cases h
            next => cases h

/-- `json.loads` takes no object that is cut. -/
theorem loads_cut {depth depth' : Nat} {whole cut : PyStr} {fields : List (PyStr × PyJson)}
    (reads : ReadsAs depth whole (.dict fields)) (pre : cut <+: whole) (ne : cut ≠ whole) :
    ∃ error, loads depth' cut = .error error := by
  have hscan := reads.scans [] nofun
  rw [List.append_nil] at hscan
  obtain ⟨text, rfl⟩ := brace_of_scanOnce hscan
  obtain ⟨body, hbody, hclosed⟩ := ends_scanOnce hscan
  cases h : loads depth' cut with
  | error error => exact ⟨error, rfl⟩
  | ok found =>
    have hcut := closed_of_loads h
    exfalso
    cases cut with
    | nil => exact absurd h (by rw [loads_nil]; exact nofun)
    | cons c cut =>
      obtain ⟨rfl, hpre⟩ := List.cons_prefix_cons.mp pre
      obtain ⟨more, hmore⟩ := hpre
      have hne : more ≠ [] := by
        rintro rfl
        rw [List.append_nil] at hmore
        exact ne (congrArg _ hmore)
      have hinside : cut <+: body := by
        refine List.prefix_of_prefix_length_le ⟨more, hmore⟩ ⟨[125], hbody.symm⟩ ?_
        have hlen := congrArg List.length (hmore.trans hbody)
        have hpos := List.length_pos_of_ne_nil hne
        simp only [List.length_append, List.length_cons, List.length_nil] at hlen
        omega
      -- the brace that opens the object is still open
      have hopen := (hclosed 1).le_of_cut hinside
      have hfinish := (hcut 0).foldl
      rw [List.foldl_cons] at hfinish
      change List.foldl Nesting.next (outside 1) cut = outside 0 at hfinish
      rw [hfinish] at hopen
      exact absurd hopen (by decide)

end JLinkMcp.Host
