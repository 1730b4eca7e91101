import JLinkMcp.HostRequestBody

namespace JLinkMcp.Host

open Codec

/-- The bytes a number of the field takes; `none` for the names of no width table. -/
def fieldWidth (name : String) : Option Nat :=
  if name ∈ u8Fields then some 1 else if name ∈ u16Fields then some 2
  else if name ∈ u32Fields then some 4 else none

/-- The number of a pin label. -/
def SafePin.number (pin : SafePin) : Nat := intOfDigits pin.val.tail

theorem encodeTlvsFrom_eq {items : List Tlv} (representable : Representable items) :
    ∀ {seen : List Nat} {output : Bytes}, (items.map Prod.fst).Nodup →
      (∀ item ∈ items, item.1 ∉ seen) →
      (output ++ tlvBytes items).length ≤ maxBridgePayload →
      encodeTlvsFrom seen output items = .ok (output ++ tlvBytes items) := by
  induction items with
  | nil =>
    intro seen output _ _ hlen
    rw [tlvBytes_nil, List.append_nil] at hlen ⊢
    rw [encodeTlvsFrom, if_neg (by omega)]
  | cons item items ih =>
    intro seen output hnodup hseen hlen
    obtain ⟨kind, value⟩ := item
    have hitem := representable _ List.mem_cons_self
    rw [List.map_cons, List.nodup_cons] at hnodup
    have hnot : kind ∉ seen := hseen _ List.mem_cons_self
    simp only at hitem
    have hbytes : output ++ tlvBytes ((kind, value) :: items) =
        output ++ leBytes 2 kind ++ leBytes 2 value.length ++ value ++ tlvBytes items := by
      simp only [tlvBytes_cons, List.append_assoc]
    rw [hbytes] at hlen ⊢
    rw [encodeTlvsFrom, if_neg hnot, if_neg (by omega)]
    refine ih (fun i hi => representable i (List.mem_cons_of_mem _ hi)) hnodup.2 ?_ hlen
    intro i hi hmem
    rcases List.mem_cons.mp hmem with he | hmem
    · exact hnodup.1 (List.mem_map.mpr ⟨i, hi, he⟩)
    · exact hseen i (List.mem_cons_of_mem _ hi) hmem

theorem encodeTlvs_eq {items : List Tlv} (representable : Representable items)
    (nodup : (items.map Prod.fst).Nodup) (fits : (tlvBytes items).length ≤ maxBridgePayload) :
    encodeTlvs items = .ok (tlvBytes items) :=
  encodeTlvsFrom_eq representable nodup (by simp) (by simpa using fits)

/-- The items that the encoder accepts fit, and their types differ. -/
theorem encodeTlvsFrom_ok {items : List Tlv} {seen : List Nat} {output bytes : Bytes}
    (h : encodeTlvsFrom seen output items = .ok bytes) :
    Representable items ∧ (items.map Prod.fst).Nodup ∧ (∀ item ∈ items, item.1 ∉ seen) ∧
      bytes = output ++ tlvBytes items := by
  induction items generalizing seen output with
  | nil =>
    rw [encodeTlvsFrom] at h
    split at h
    next => cases h
    next =>
      cases h
      exact ⟨List.forall_mem_nil _, List.nodup_nil, List.forall_mem_nil _, (List.append_nil _).symm⟩
  | cons item items ih =>
    obtain ⟨kind, value⟩ := item
    rw [encodeTlvsFrom] at h
    split at h
    next => cases h
    next hnew =>
      split at h
      next => cases h
      next hfits =>
        obtain ⟨hrep, hn, hseen, hbytes⟩ := ih h
        refine ⟨?_, ?_, ?_, ?_⟩
        · intro found hfound
          rcases List.mem_cons.mp hfound with rfl | hfound
          · dsimp only
            omega
          · exact hrep found hfound
        · rw [List.map_cons, List.nodup_cons]
          refine ⟨fun hmem => ?_, hn⟩
          obtain ⟨found, hfound, hkind⟩ := List.mem_map.mp hmem
          exact hseen found hfound (hkind ▸ List.mem_cons_self)
        · intro found hfound
          rcases List.mem_cons.mp hfound with rfl | hfound
          · exact hnew
          · exact fun hmem => hseen found hfound (List.mem_cons_of_mem _ hmem)
        · rw [hbytes, tlvBytes_cons]
          simp only [List.append_assoc]

section value

variable {name : String}

theorem packScalar_of_int {width n : Nat} (hwidth : fieldWidth name = some width)
    (hn : n < 256 ^ width) : packScalar name (.int n) = .ok (leBytes width n) := by
  have hpack : structPack width (.int n) = .ok (leBytes width n) := by
    rw [structPack, if_pos ⟨by omega, hn⟩]
    rfl
  unfold fieldWidth at hwidth
  unfold packScalar
  dsimp only
  split at hwidth
  next h => rw [if_pos h, Option.some.inj hwidth, hpack]
  next h =>
    rw [if_neg h]
    split at hwidth
    next h => rw [if_pos h, Option.some.inj hwidth, hpack]
    next h =>
      rw [if_neg h]
      split at hwidth
      next h => rw [if_pos h, Option.some.inj hwidth, hpack]
      next => cases hwidth

theorem packScalar_of_str (hwidth : fieldWidth name = none) (text : PyStr) :
    packScalar name (.str text) = (encodeUtf8 text).bind fun encoded =>
      if encoded.length > 1024 then .error (.bridgeWire s!"{name} string is too long")
      else .ok encoded := by
  unfold fieldWidth at hwidth
  unfold packScalar
  dsimp only
  split at hwidth
  next => cases hwidth
  next h1 =>
    split at hwidth
    next => cases hwidth
    next h2 =>
      split at hwidth
      next => cases hwidth
      next h4 => rw [if_neg h1, if_neg h2, if_neg h4]

/-- Outside the pins and the enumerations a value is packed as it is. -/
theorem scalar_eq_packScalar (notPin : name ≠ "pin" ∧ name ≠ "chip_select") {value : PyValue}
    (notEnum : enumNumber name (enumMapName name value) value = .ok value) :
    scalar name value = packScalar name value := by
  rw [scalar, if_neg (by simp [notPin]), Except.ok_bind, notEnum, Except.ok_bind]

theorem scalar_of_int {width n : Nat} (notPin : name ≠ "pin" ∧ name ≠ "chip_select")
    (hwidth : fieldWidth name = some width) (hn : n < 256 ^ width) :
    scalar name (.int n) = .ok (leBytes width n) := by
  rw [scalar_eq_packScalar notPin rfl, packScalar_of_int hwidth hn]

theorem scalar_of_bool (notPin : name ≠ "pin" ∧ name ≠ "chip_select") (b : Bool) :
    scalar name (.bool b) = .ok (leBytes 1 b.toNat) :=
  scalar_eq_packScalar notPin rfl

section text

variable (notPin : name ≠ "pin" ∧ name ≠ "chip_select")
    (notEnum : name ≠ "protocol" ∧ enumValues.lookup name = none) (hwidth : fieldWidth name = none)

include notPin notEnum hwidth

theorem scalar_of_str (text : PyStr) : scalar name (.str text) =
    (encodeUtf8 text).bind fun encoded =>
      if encoded.length > 1024 then .error (.bridgeWire s!"{name} string is too long")
      else .ok encoded := by
  have henum : enumNumber name (enumMapName name (.str text)) (.str text) = .ok (.str text) := by
    rw [enumMapName, if_neg (fun h => notEnum.1 h.1), enumNumber, notEnum.2]
  rw [scalar_eq_packScalar notPin henum, packScalar_of_str hwidth]

theorem scalar_of_text {text : PyStr} (scalars : text.all isScalar = true)
    (short : (utf8 text).length ≤ 1024) : scalar name (.str text) = .ok (utf8 text) := by
  rw [scalar_of_str notPin notEnum hwidth, encodeUtf8, if_pos scalars, Except.ok_bind,
    if_neg (by omega)]

/-- A text with a lone surrogate cannot be sent. -/
theorem scalar_of_surrogate {text : PyStr} (surrogate : ¬text.all isScalar = true) :
    scalar name (.str text) = .error .unicodeEncodeError := by
  rw [scalar_of_str notPin notEnum hwidth, encodeUtf8, if_neg surrogate]
  rfl

end text

theorem pinNumber_of_safe : ∀ label ∈ safeGpioPins,
    pinNumber (.str label) = .ok (intOfDigits label.tail : Nat) ∧
      intOfDigits label.tail < 256 ^ 2 := by
  decide

theorem scalar_of_pin {name : String} (hpin : name = "pin" ∨ name = "chip_select") (pin : SafePin) :
    scalar name (.ofText pin) = .ok (leBytes 2 pin.number) := by
  obtain ⟨hnumber, hlt⟩ := pinNumber_of_safe pin.val pin.property
  have hwidth : fieldWidth name = some 2 := by
    rcases hpin with rfl | rfl <;> rfl
  rw [scalar, if_pos hpin, PyValue.ofText, hnumber]
  exact packScalar_of_int hwidth hlt

end value

end JLinkMcp.Host
