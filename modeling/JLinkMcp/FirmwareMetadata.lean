import JLinkMcp.JsonTexts
import JLinkMcp.RequestEncoding
import JLinkMcp.ResponsePath

namespace JLinkMcp.Firmware

open Host

/-- The bytes are ASCII, and the host reads them as the value wherever it nests them. -/
structure JsonBytes (depth : Nat) (bytes : Bytes) (value : PyJson) : Prop where
  ascii : ∀ b ∈ bytes, b.toNat < 128
  reads : ReadsAs depth (asciiText bytes) value

/-- The texts with a comma between each two. -/
def joined : List Bytes → Bytes
  | [] => []
  | [item] => item
  | item :: items => item ++ 44 :: joined items

/-- The name needs no escape. -/
def plainName (name : String) : Bool :=
  name.toList.all fun c => 32 ≤ c.toNat && c.toNat < 127 && c != '"' && c != '\\'

/-- A member of an object: its name, and the bytes that the host reads as its value. -/
structure MetadataMember (depth : Nat) where
  name : String
  bytes : Bytes
  value : PyJson
  plain : plainName name = true
  json : JsonBytes depth bytes value

/-- `"name":value` -/
@[simp] def MetadataMember.written {depth : Nat} (member : MetadataMember depth) : Bytes :=
  text "\"" ++ text member.name ++ text "\":" ++ member.bytes

def MetadataMember.item {depth : Nat} (member : MetadataMember depth) : PyStr × PyJson :=
  (PyStr.ofString member.name, member.value)

def MetadataMember.toText {depth : Nat} (member : MetadataMember depth) : JsonMember :=
  ⟨PyStr.ofString member.name, asciiText member.bytes, member.value⟩

def objectBytes {depth : Nat} (members : List (MetadataMember depth)) : Bytes :=
  text "\x7b" ++ joined (members.map MetadataMember.written) ++ text "\x7d"

def listBytes (items : List Bytes) : Bytes := text "[" ++ joined items ++ text "]"

section bytes

variable {depth : Nat} {bytes : Bytes} {value : PyJson}

theorem asciiText_append (a b : Bytes) : asciiText (a ++ b) = asciiText a ++ asciiText b :=
  List.map_append

theorem JsonBytes.loads (json : JsonBytes depth bytes value) :
    (decodeUtf8 bytes).bind (Host.loads depth) = .ok value := by
  rw [decodeUtf8_of_ascii json.ascii]
  exact json.reads.loads

theorem joined_cons (item next : Bytes) (items : List Bytes) :
    joined (item :: next :: items) = item ++ 44 :: joined (next :: items) := rfl

theorem asciiText_joined (items : List Bytes) : asciiText (joined items) = commas (items.map asciiText) := by
  induction items with
  | nil => rfl
  | cons item items ih =>
    cases items with
    | nil => rfl
    | cons next items =>
      rw [joined_cons, asciiText_append, List.map_cons, List.map_cons, commas_cons, ← List.map_cons, ← ih]
      rfl

theorem ascii_joined {items : List Bytes} (ascii : ∀ item ∈ items, ∀ b ∈ item, b.toNat < 128) :
    ∀ b ∈ joined items, b.toNat < 128 := by
  induction items with
  | nil => intro b hb; cases hb
  | cons item items ih =>
    cases items with
    | nil => exact ascii item List.mem_cons_self
    | cons next items =>
      intro b hb
      rcases List.mem_append.mp hb with hb | hb
      · exact ascii item List.mem_cons_self b hb
      · rcases List.mem_cons.mp hb with rfl | hb
        · decide
        · exact ih (fun other hother => ascii other (List.mem_cons_of_mem _ hother)) b hb

/-- A literal of the sketch, as the host sees it. -/
theorem asciiText_text {literal : String} (ascii : literal.toList.all (fun c => c.toNat < 128) = true) :
    asciiText (text literal) = PyStr.ofString literal := by
  rw [asciiText, text, List.map_map, PyStr.ofString]
  refine List.map_congr_left fun c hc => ?_
  have hsmall : c.toNat < 128 := of_decide_eq_true (List.all_eq_true.mp ascii c hc)
  have hbyte : (UInt8.ofNat c.toNat).toNat = c.toNat := by
    rw [UInt8.toNat_ofNat']
    omega
  rw [Function.comp, hbyte]

theorem ascii_text {literal : String} (ascii : literal.toList.all (fun c => c.toNat < 128) = true) :
    ∀ b ∈ text literal, b.toNat < 128 := by
  intro b hb
  obtain ⟨c, hc, rfl⟩ := List.mem_map.mp hb
  have hsmall : c.toNat < 128 := of_decide_eq_true (List.all_eq_true.mp ascii c hc)
  rw [UInt8.toNat_ofNat']
  omega

end bytes

section values

variable {depth : Nat}

theorem asciiText_decimal (n : Nat) : asciiText (decimal n) = decimalText n := by
  rw [asciiText, decimal, List.map_map, decimalText]
  refine List.map_congr_left fun c hc => ?_
  have hdigit := Nat.isDigit_of_mem_toDigits (by decide) (by decide) hc
  have hsmall : c.toNat < 256 := by
    simp only [Char.isDigit, Bool.and_eq_true, decide_eq_true_eq] at hdigit
    have hle : c.val.toNat ≤ 57 := UInt32.le_iff_toNat_le.mp hdigit.2
    change c.val.toNat < 256
    omega
  have hbyte : (UInt8.ofNat c.toNat).toNat = c.toNat := by
    rw [UInt8.toNat_ofNat']
    omega
  rw [Function.comp, hbyte]

theorem ascii_decimal (n : Nat) : ∀ b ∈ decimal n, b.toNat < 128 := by
  intro b hb
  obtain ⟨c, hc, rfl⟩ := List.mem_map.mp hb
  have hdigit := Nat.isDigit_of_mem_toDigits (by decide) (by decide) hc
  simp only [Char.isDigit, Bool.and_eq_true, decide_eq_true_eq] at hdigit
  have hle : c.val.toNat ≤ 57 := UInt32.le_iff_toNat_le.mp hdigit.2
  change (UInt8.ofNat c.val.toNat).toNat < 128
  rw [UInt8.toNat_ofNat']
  omega

/-- `%d` -/
theorem jsonBytes_signedDecimal {n : Int} (short : (Nat.toDigits 10 n.natAbs).length ≤ 4300) :
    JsonBytes depth (signedDecimal n) (.int n) := by
  have htext : asciiText (signedDecimal n) = dumpsInt n := by
    rw [signedDecimal, dumpsInt]
    split
    · rw [← asciiText_decimal]
      rfl
    · exact asciiText_decimal _
  constructor
  · rw [signedDecimal]
    split
    · intro b hb
      rcases List.mem_cons.mp hb with rfl | hb
      · decide
      · exact ascii_decimal _ b hb
    · exact ascii_decimal _
  · rw [htext]
    exact readsAs_int short

/-- `%u` -/
theorem jsonBytes_decimal {n : Nat} (small : n < 10 ^ 10) : JsonBytes depth (decimal n) (.int n) := by
  have hlen : (Nat.toDigits 10 n).length ≤ 10 := (Nat.length_toDigits_le_iff (by decide) (by decide)).mpr small
  have hsigned : signedDecimal n = decimal n := by
    rw [signedDecimal, if_neg (by omega)]
    rfl
  have hjson := @jsonBytes_signedDecimal depth n (by rw [Int.natAbs_natCast]; omega)
  rwa [hsigned] at hjson

end values

section strings

variable {depth : Nat}

theorem hexValue_hexDigit {n : Nat} (lt : n < 16) :
    hexValue (Fin.ofNat 0x110000 (hexDigit n).toNat) = some n := by
  have h : ∀ n < 16, hexValue (Fin.ofNat 0x110000 (hexDigit n).toNat) = some n := by decide
  exact h n lt

/-- The scanner takes `encoded` of a character for the character. -/
theorem scanString_jsonChar (c : UInt8) (rounds : Nat) (rest : PyStr) :
    scanString (rounds + 1) (asciiText (jsonChar c) ++ rest) = (do
      let (text, rest) ← scanString rounds rest
      return (Fin.ofNat 0x110000 c.toNat :: text, rest)) := by
  have hlt := c.toNat_lt
  have hval : (Fin.ofNat 0x110000 c.toNat).val = c.toNat := Nat.mod_eq_of_lt (by omega)
  unfold jsonChar
  split
  next h =>
    rcases h with rfl | rfl <;> rfl
  next hplain =>
    split
    next h =>
      have hunit : hexUnit (asciiText [48, 48, hexDigit (c.toNat / 16), hexDigit (c.toNat % 16)] ++ rest) =
          some (c.toNat, rest) := by
        have hhigh := hexValue_hexDigit (show c.toNat / 16 < 16 by omega)
        have hlow := hexValue_hexDigit (show c.toNat % 16 < 16 by omega)
        have hzero : hexValue (Fin.ofNat 0x110000 (48 : UInt8).toNat) = some 0 := rfl
        simp only [asciiText, List.map_cons, List.map_nil, List.cons_append, List.nil_append, hexUnit, hhigh, hlow,
          hzero, Option.bind_eq_bind, Option.bind_some, Option.pure_def]
        have hsum : 0 * 4096 + 0 * 256 + c.toNat / 16 * 16 + c.toNat % 16 = c.toNat := by omega
        rw [hsum]
      have hescape : scanEscape (asciiText (text "u00" ++ [hexDigit (c.toNat / 16), hexDigit (c.toNat % 16)]) ++ rest) =
          .ok (Fin.ofNat 0x110000 c.toNat, rest) := by
        change scanUnicodeEscape (asciiText [48, 48, hexDigit (c.toNat / 16), hexDigit (c.toNat % 16)] ++ rest) = _
        rw [scanUnicodeEscape, hunit]
        dsimp only
        rw [if_neg (by omega)]
      change (scanEscape (asciiText (text "u00" ++ [hexDigit (c.toNat / 16), hexDigit (c.toNat % 16)]) ++ rest) >>=
        fun out => scanString rounds out.2 >>= fun found => Except.ok (out.1 :: found.1, found.2)) = _
      rw [hescape]
      rfl
    next h =>
      obtain ⟨hquote, hbackslash⟩ : c.toNat ≠ 34 ∧ c.toNat ≠ 92 :=
        ⟨fun hc => hplain (.inl (UInt8.toNat_inj.mp hc)), fun hc => hplain (.inr (UInt8.toNat_inj.mp hc))⟩
      have hcontrol : ¬c.toNat < 0x20 := fun hc => h (.inl (UInt8.lt_iff_toNat_lt.mpr hc))
      change scanString (rounds + 1) (Fin.ofNat 0x110000 c.toNat :: rest) = _
      generalize (Fin.ofNat 0x110000 c.toNat : CodePoint) = point at hval ⊢
      have hisQuote : ¬CodePoint.is point '"' = true := fun hp => hquote (hval.symm.trans (of_decide_eq_true hp))
      have hisBackslash : ¬CodePoint.is point '\\' = true := fun hp => hbackslash (hval.symm.trans (of_decide_eq_true hp))
      change (if CodePoint.is point '"' then _ else if CodePoint.is point '\\' then _ else if point.val < 0x20 then _ else _) = _
      rw [if_neg hisQuote, if_neg hisBackslash, if_neg (by omega)]

theorem scanString_jsonChars (input : Bytes) {rounds : Nat} (enough : input.length < rounds) (rest : PyStr) :
    scanString rounds (asciiText (input.flatMap jsonChar) ++ 34 :: rest) = .ok (asciiText input, rest) := by
  induction input generalizing rounds with
  | nil =>
    obtain ⟨rounds, rfl⟩ := Nat.exists_eq_add_of_lt enough
    rfl
  | cons c input ih =>
    obtain ⟨rounds, rfl⟩ : ∃ n, rounds = n + 1 := Nat.exists_eq_succ_of_ne_zero (by omega)
    have hrest := @ih rounds (by simpa using enough)
    rw [List.flatMap_cons, asciiText_append, List.append_assoc, scanString_jsonChar, hrest]
    rfl

theorem ascii_jsonChar (c : UInt8) : ∀ b ∈ jsonChar c, b.toNat < 128 := by
  have hdigit : ∀ n < 16, (hexDigit n).toNat < 128 := by decide
  have hlt := c.toNat_lt
  unfold jsonChar
  split
  next h =>
    intro b hb
    rcases List.mem_pair.mp hb with rfl | rfl
    · decide
    · rcases h with rfl | rfl <;> decide
  next hplain =>
    split
    next h =>
      intro b hb
      rcases List.mem_append.mp hb with hb | hb
      · exact ascii_text (by decide) b hb
      · rcases List.mem_pair.mp hb with rfl | rfl <;> exact hdigit _ (by omega)
    next h =>
      intro b hb
      obtain rfl := List.mem_singleton.mp hb
      have hle : ¬(0x7E : UInt8) < b := fun hb => h (.inr hb)
      have hle : b.toNat ≤ 126 := UInt8.le_iff_toNat_le.mp (UInt8.not_lt.mp hle)
      omega

/-- The characters of a text between quotes, as `encodeJsonString` writes them. -/
def quotedText (input : Bytes) : Bytes := 34 :: (input.flatMap jsonChar ++ [34])

theorem length_jsonChar_pos (c : UInt8) : 0 < (jsonChar c).length := by
  unfold jsonChar
  split
  · exact Nat.zero_lt_two
  · split
    · rw [List.length_append]
      exact Nat.lt_add_left _ Nat.zero_lt_two
    · exact Nat.zero_lt_one

theorem length_le_jsonChars (input : Bytes) : input.length ≤ (input.flatMap jsonChar).length := by
  induction input with
  | nil => exact Nat.le_refl _
  | cons c input ih =>
    have hpos := length_jsonChar_pos c
    rw [List.flatMap_cons, List.length_append, List.length_cons]
    omega

/-- The host reads a text that was escaped as that text, each byte as a character. -/
theorem jsonBytes_quotedText (input : Bytes) : JsonBytes depth (quotedText input) (.str (asciiText input)) := by
  refine ⟨fun b hb => ?_, ⟨34, _, rfl, rfl⟩, fun rest _ => ?_⟩
  · rcases List.mem_cons.mp hb with rfl | hb
    · decide
    · rcases List.mem_append.mp hb with hb | hb
      · obtain ⟨c, -, hb⟩ := List.mem_flatMap.mp hb
        exact ascii_jsonChar c b hb
      · obtain rfl := List.mem_singleton.mp hb
        decide
  · have hle := length_le_jsonChars input
    have htext : asciiText (quotedText input) ++ rest = 34 :: (asciiText (input.flatMap jsonChar) ++ 34 :: rest) := by
      rw [quotedText, ← List.singleton_append, asciiText_append, asciiText_append, List.append_assoc, List.append_assoc]
      rfl
    have hstring := @scanString_jsonChars input (asciiText (input.flatMap jsonChar) ++ 34 :: rest).length (by
      rw [List.length_append, List.length_cons, asciiText, List.length_map]
      omega) rest
    rw [htext]
    unfold scanOnce
    dsimp only
    rw [if_pos (by decide), hstring]
    rfl

/-- No character of the text needs an escape. -/
def Plain (input : Bytes) : Prop := ∀ b ∈ input, 0x20 ≤ b ∧ b ≤ 0x7E ∧ b ≠ 34 ∧ b ≠ 92

theorem Plain.append {a b : Bytes} (ha : Plain a) (hb : Plain b) : Plain (a ++ b) := by
  intro c hc
  rcases List.mem_append.mp hc with hc | hc
  · exact ha c hc
  · exact hb c hc

theorem quotedText_of_plain {input : Bytes} (plain : Plain input) :
    quotedText input = text "\"" ++ input ++ text "\"" := by
  have hchars : input.flatMap jsonChar = input := by
    induction input with
    | nil => rfl
    | cons c input ih =>
      obtain ⟨hlow, hhigh, hquote, hbackslash⟩ := plain c List.mem_cons_self
      have hc : jsonChar c = [c] := by
        rw [jsonChar, if_neg (by simp [hquote, hbackslash]), if_neg]
        rintro (h | h)
        · exact absurd hlow (UInt8.not_le.mpr h)
        · exact absurd hhigh (UInt8.not_le.mpr h)
      rw [List.flatMap_cons, hc, ih fun b hb => plain b (List.mem_cons_of_mem _ hb)]
      rfl
  rw [quotedText, hchars]
  rfl

end strings

section objects

variable {depth : Nat}

theorem jsonBytes_list {items : List (Bytes × PyJson)} (json : ∀ item ∈ items, JsonBytes depth item.1 item.2) :
    JsonBytes (depth + 1) (listBytes (items.map Prod.fst)) (.list (items.map Prod.snd)) := by
  have htext : asciiText (listBytes (items.map Prod.fst)) =
      listText ((items.map fun item => (asciiText item.1, item.2)).map Prod.fst) := by
    rw [listBytes, asciiText_append, asciiText_append, asciiText_joined, List.map_map, List.map_map]
    rfl
  have hvalues : items.map Prod.snd = (items.map fun item => (asciiText item.1, item.2)).map Prod.snd := by
    rw [List.map_map]
    rfl
  constructor
  · intro b hb
    rcases List.mem_append.mp hb with hb | hb
    · rcases List.mem_append.mp hb with hb | hb
      · exact ascii_text (by decide) b hb
      · refine ascii_joined ?_ b hb
        intro bytes hbytes
        obtain ⟨item, hitem, rfl⟩ := List.mem_map.mp hbytes
        exact (json item hitem).ascii
    · exact ascii_text (by decide) b hb
  · rw [htext, hvalues]
    refine readsAs_list ?_
    intro found hfound
    obtain ⟨item, hitem, rfl⟩ := List.mem_map.mp hfound
    exact (json item hitem).reads

theorem plainName_ascii {name : String} (plain : plainName name = true) :
    name.toList.all (fun c => c.toNat < 128) = true := by
  refine List.all_eq_true.mpr fun c hc => ?_
  have hplain := List.all_eq_true.mp plain c hc
  simp only [Bool.and_eq_true, decide_eq_true_eq] at hplain ⊢
  omega

theorem escapeChar_plain {c : Char} (low : 32 ≤ c.toNat) (high : c.toNat < 127) (quote : c ≠ '"')
    (backslash : c ≠ '\\') : escapeChar (Fin.ofNat 0x110000 c.toNat) = [Fin.ofNat 0x110000 c.toNat] := by
  have hval : (Fin.ofNat 0x110000 c.toNat).val = c.toNat := Nat.mod_eq_of_lt (by omega)
  have hquote : c.toNat ≠ 34 := fun h => quote (Char.toNat_inj.mp h)
  have hbackslash : c.toNat ≠ 92 := fun h => backslash (Char.toNat_inj.mp h)
  generalize (Fin.ofNat 0x110000 c.toNat : CodePoint) = point at hval ⊢
  have hisQuote : ¬CodePoint.is point '"' = true := fun hp => hquote (hval.symm.trans (of_decide_eq_true hp))
  have hisBackslash : ¬CodePoint.is point '\\' = true := fun hp => hbackslash (hval.symm.trans (of_decide_eq_true hp))
  rw [escapeChar, if_neg hisQuote, if_neg hisBackslash, if_neg (by omega), if_neg (by omega), if_neg (by omega),
    if_neg (by omega), if_neg (by omega), if_pos (by omega)]

theorem dumpsStr_plainName {name : String} (plain : plainName name = true) :
    dumpsStr (PyStr.ofString name) = 34 :: PyStr.ofString name ++ [34] := by
  have hescape : (PyStr.ofString name).flatMap escapeChar = PyStr.ofString name := by
    rw [PyStr.ofString, List.flatMap_map, ← List.flatMap_pure_eq_map]
    refine List.flatMap_congr fun c hc => ?_
    have hplain := List.all_eq_true.mp plain c hc
    simp only [Bool.and_eq_true, decide_eq_true_eq, bne_iff_ne] at hplain
    exact escapeChar_plain hplain.1.1.1 hplain.1.1.2 hplain.1.2 hplain.2
  rw [dumpsStr, hescape]

section members

variable (member : MetadataMember depth)

theorem toText_written : asciiText member.written = member.toText.written := by
  rw [MetadataMember.written, asciiText_append, asciiText_append, asciiText_append,
    asciiText_text (plainName_ascii member.plain), JsonMember.written, MetadataMember.toText,
    dumpsStr_plainName member.plain]
  simp only [List.append_assoc]
  rfl

theorem ascii_written : ∀ b ∈ member.written, b.toNat < 128 := by
  intro b hb
  rcases List.mem_append.mp hb with hb | hb
  · rcases List.mem_append.mp hb with hb | hb
    · rcases List.mem_append.mp hb with hb | hb
      · exact ascii_text (by decide) b hb
      · exact ascii_text (plainName_ascii member.plain) b hb
    · exact ascii_text (by decide) b hb
  · exact member.json.ascii b hb

end members

theorem plainName_scalar {name : String} (plain : plainName name = true) :
    (PyStr.ofString name).all isScalar = true := by
  refine List.all_eq_true.mpr fun point hpoint => ?_
  obtain ⟨c, hc, rfl⟩ := List.mem_map.mp hpoint
  have hsmall := List.all_eq_true.mp (plainName_ascii plain) c hc
  have hval : (Fin.ofNat 0x110000 c.toNat).val = c.toNat := Nat.mod_eq_of_lt (by
    simp only [decide_eq_true_eq] at hsmall
    omega)
  simp only [isScalar, hval, Bool.or_eq_true, decide_eq_true_eq] at hsmall ⊢
  omega

/-- An object is read as the members that were written. -/
theorem jsonBytes_object {members : List (MetadataMember depth)}
    (nodup : (members.map MetadataMember.name).Nodup) :
    JsonBytes (depth + 1) (objectBytes members) (.dict (members.map MetadataMember.item)) := by
  have hwritten : members.map (asciiText ∘ MetadataMember.written) =
      members.map (JsonMember.written ∘ MetadataMember.toText) :=
    List.map_congr_left fun member _ => toText_written member
  have htext : asciiText (objectBytes members) = objectText (members.map MetadataMember.toText) := by
    rw [objectBytes, asciiText_append, asciiText_append, asciiText_joined, List.map_map, objectText, List.map_map,
      hwritten]
    rfl
  have hvalue : members.map MetadataMember.item = (members.map MetadataMember.toText).map JsonMember.item := by
    rw [List.map_map]
    rfl
  constructor
  · intro b hb
    rcases List.mem_append.mp hb with hb | hb
    · rcases List.mem_append.mp hb with hb | hb
      · exact ascii_text (by decide) b hb
      · refine ascii_joined ?_ b hb
        intro bytes hbytes
        obtain ⟨member, -, rfl⟩ := List.mem_map.mp hbytes
        exact ascii_written member
    · exact ascii_text (by decide) b hb
  · rw [htext, hvalue]
    refine readsAs_object ?_ ?_
    · have hnames := nodup.map fun _ _ h => PyStr.ofString_inj.mp h
      rw [List.map_map] at hnames ⊢
      exact hnames
    · intro found hfound
      obtain ⟨member, -, rfl⟩ := List.mem_map.mp hfound
      exact ⟨plainName_scalar member.plain, member.json.reads⟩

namespace MetadataMember

variable (name : String)

/-- `%u` -/
@[simp] def number (n : Nat) (small : n < 10 ^ 10) (plain : plainName name = true) : MetadataMember depth :=
  ⟨name, decimal n, .int n, plain, jsonBytes_decimal small⟩

/-- `\"%s\"` of a text that needs no escape. -/
@[simp] def label (input : Bytes) (h : Plain input) (plain : plainName name = true) : MetadataMember depth :=
  ⟨name, text "\"" ++ input ++ text "\"", .str (asciiText input), plain,
    quotedText_of_plain h ▸ jsonBytes_quotedText input⟩

/-- What `encodeJsonString` makes of a text. -/
@[simp] def encoded (input : Bytes) (plain : plainName name = true) : MetadataMember depth :=
  ⟨name, quotedText input, .str (asciiText input), plain, jsonBytes_quotedText input⟩

@[simp] def list (items : List (Bytes × PyJson)) (json : ∀ item ∈ items, JsonBytes depth item.1 item.2)
    (plain : plainName name = true) : MetadataMember (depth + 1) :=
  ⟨name, listBytes (items.map Prod.fst), .list (items.map Prod.snd), plain, jsonBytes_list json⟩

@[simp] def object (members : List (MetadataMember depth)) (nodup : (members.map MetadataMember.name).Nodup)
    (plain : plainName name = true) : MetadataMember (depth + 1) :=
  ⟨name, objectBytes members, .dict (members.map MetadataMember.item), plain, jsonBytes_object nodup⟩

end MetadataMember

end objects

end JLinkMcp.Firmware
