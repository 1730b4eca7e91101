import JLinkMcp.CodecTlv
import JLinkMcp.FirmwareWire

namespace JLinkMcp.Firmware

open Codec

def sizeofTlvHeader : Nat := 4

/-- A reader is the body it reads. -/
structure TlvReader where
  data : Bytes

namespace TlvReader

def typeAt (reader : TlvReader) (offset : Nat) : Nat := leNat ((reader.data.drop offset).take 2)

def lengthAt (reader : TlvReader) (offset : Nat) : Nat :=
  leNat ((reader.data.drop (offset + 2)).take 2)

def valueAt (reader : TlvReader) (offset : Nat) : Bytes :=
  (reader.data.drop (offset + sizeofTlvHeader)).take (reader.lengthAt offset)

/-- The offset behind the item at `offset`. -/
def nextOffset (reader : TlvReader) (offset : Nat) : Nat :=
  offset + sizeofTlvHeader + reader.lengthAt offset

theorem lt_nextOffset (reader : TlvReader) (offset : Nat) : offset < reader.nextOffset offset := by
  simp only [nextOffset, sizeofTlvHeader]
  omega

/-- The inner `while` of `valid`: whether an item before `offset` has the type. -/
def seenBefore (reader : TlvReader) (type offset prior : Nat) : Bool :=
  if prior < offset then
    if reader.typeAt prior = type then true
    else seenBefore reader type offset (reader.nextOffset prior)
  else false
  termination_by offset - prior
  decreasing_by
    have := reader.lt_nextOffset prior
    omega

/-- The outer `while` of `valid`. -/
def validFrom (reader : TlvReader) (offset : Nat) : Bool :=
  if offset < reader.data.length then
    if reader.data.length - offset < sizeofTlvHeader then false
    else if reader.seenBefore (reader.typeAt offset) offset 0 then false
    else if reader.lengthAt offset > reader.data.length - (offset + sizeofTlvHeader) then false
    else validFrom reader (reader.nextOffset offset)
  else offset = reader.data.length
  termination_by reader.data.length - offset
  decreasing_by
    have := reader.lt_nextOffset offset
    omega

def valid (reader : TlvReader) : Bool := reader.validFrom 0

/-- The `while` of `find`: what it returns, and the value it leaves in `value` and `length`. -/
def findFrom (reader : TlvReader) (type offset : Nat) (value : Option Bytes) : Bool × Option Bytes :=
  if offset + sizeofTlvHeader ≤ reader.data.length then
    if reader.lengthAt offset > reader.data.length - (offset + sizeofTlvHeader) then (false, value)
    else if reader.typeAt offset = type then
      if value.isSome then (false, value)
      else findFrom reader type (reader.nextOffset offset) (some (reader.valueAt offset))
    else findFrom reader type (reader.nextOffset offset) value
  else (value.isSome, value)
  termination_by reader.data.length - offset
  decreasing_by
    all_goals
      have := reader.lt_nextOffset offset
      simp only [sizeofTlvHeader] at *
      omega

def find (reader : TlvReader) (type : Nat) : Bool × Option Bytes := reader.findFrom type 0 none

/-- The common body of `getU8`, `getU16` and `getU32`. The result is `none` where these return
`false`, else the number in the variable after the call, which was `initial` before it. -/
def getNumber (reader : TlvReader) (width type initial : Nat) (required : Bool) : Option Nat :=
  match reader.find type with
  | (true, some value) => if value.length ≠ width then none else some (leNat value)
  | _ => if required then none else some initial

def getU8 (reader : TlvReader) (type initial : Nat) (required : Bool) : Option Nat :=
  reader.getNumber 1 type initial required

def getU16 (reader : TlvReader) (type initial : Nat) (required : Bool) : Option Nat :=
  reader.getNumber 2 type initial required

def getU32 (reader : TlvReader) (type initial : Nat) (required : Bool) : Option Nat :=
  reader.getNumber 4 type initial required

/-- `none` where `bytes` returns `false`; `some none` where `value` stays null. -/
def bytes (reader : TlvReader) (type : Nat) (required : Bool) : Option (Option Bytes) :=
  if (reader.find type).1 then some (reader.find type).2
  else if required then none else some (reader.find type).2

theorem getNumber_lt {reader : TlvReader} {width type initial n : Nat} {required : Bool}
    (h : reader.getNumber width type initial required = some n) (small : initial < 256 ^ width) :
    n < 256 ^ width := by
  unfold getNumber at h
  split at h
  next value _ =>
    split at h
    next => simp at h
    next hwidth =>
      cases h
      rw [← Decidable.not_not.mp hwidth]
      exact leNat_lt value
  next =>
    split at h
    next => simp at h
    next =>
      cases h
      exact small

/-- The `while` of `onlyKnown`. -/
def onlyKnownFrom (reader : TlvReader) (known : Nat → Bool) (offset : Nat) : Bool :=
  if offset + sizeofTlvHeader ≤ reader.data.length then
    if reader.lengthAt offset > reader.data.length - (offset + sizeofTlvHeader) ||
        !known (reader.typeAt offset) then false
    else onlyKnownFrom reader known (reader.nextOffset offset)
  else offset = reader.data.length
  termination_by reader.data.length - offset
  decreasing_by
    have := reader.lt_nextOffset offset
    simp only [sizeofTlvHeader] at *
    omega

def onlyKnown (reader : TlvReader) (known : Nat → Bool) : Bool := reader.onlyKnownFrom known 0

end TlvReader

/-- A writer of the given capacity is the bytes it has written; `none` is `false`. -/
def TlvWriter.append (written : Bytes) (capacity type : Nat) (value : Bytes) : Option Bytes :=
  if sizeofTlvHeader + value.length > capacity - written.length then none
  else some (written ++ leBytes 2 type ++ leBytes 2 value.length ++ value)

/-- What a reader of a whole row of items sees from the place between two of them. -/
structure ReaderAt (reader : TlvReader) (offset : Nat) (before after : List Tlv) : Prop where
  data : reader.data = tlvBytes before ++ tlvBytes after
  offset : offset = (tlvBytes before).length
  representable : Representable (before ++ after)

namespace ReaderAt

variable {reader : TlvReader} {offset : Nat} {before after : List Tlv} {item : Tlv}

theorem drop_offset (h : ReaderAt reader offset before after) :
    reader.data.drop offset = tlvBytes after := by
  rw [h.data, h.offset, List.drop_left]

theorem length_eq (h : ReaderAt reader offset before after) :
    reader.data.length = offset + (tlvBytes after).length := by
  rw [h.data, h.offset, List.length_append]

theorem item_representable (h : ReaderAt reader offset before (item :: after)) :
    item.1 < 2 ^ 16 ∧ item.2.length < 2 ^ 16 :=
  h.representable item (by simp)

theorem typeAt (h : ReaderAt reader offset before (item :: after)) : reader.typeAt offset = item.1 := by
  rw [TlvReader.typeAt, h.drop_offset, tlvBytes_cons_type h.item_representable]

theorem lengthAt (h : ReaderAt reader offset before (item :: after)) :
    reader.lengthAt offset = item.2.length := by
  rw [TlvReader.lengthAt, ← List.drop_drop, h.drop_offset, tlvBytes_cons_size h.item_representable]

theorem valueAt (h : ReaderAt reader offset before (item :: after)) : reader.valueAt offset = item.2 := by
  rw [TlvReader.valueAt, h.lengthAt, ← List.drop_drop, h.drop_offset]
  exact (congrArg (List.take item.2.length) (@tlvBytes_cons_rest item after)).trans List.take_left

theorem next (h : ReaderAt reader offset before (item :: after)) :
    ReaderAt reader (reader.nextOffset offset) (before ++ [item]) after := by
  refine ⟨?_, ?_, ?_⟩
  · rw [h.data, tlvBytes_append, List.append_assoc, ← tlvBytes_append [item], List.singleton_append]
  · rw [TlvReader.nextOffset, h.lengthAt, tlvBytes_append, List.length_append, tlvBytes_length_cons,
      h.offset]
    simp only [sizeofTlvHeader, tlvBytes_nil, List.length_nil]
    omega
  · simpa using h.representable

theorem start (h : ReaderAt reader offset before after) : ReaderAt reader 0 [] (before ++ after) :=
  ⟨by rw [h.data, tlvBytes_append]; rfl, rfl, h.representable⟩

theorem room (h : ReaderAt reader offset before (item :: after)) :
    offset + sizeofTlvHeader + item.2.length ≤ reader.data.length := by
  rw [h.length_eq, tlvBytes_length_cons]
  simp only [sizeofTlvHeader]
  omega

end ReaderAt

section items

variable {reader : TlvReader}

theorem seenBefore_eq {offset : Nat} {type : Nat} {later : List Tlv} :
    ∀ {before after : List Tlv} {prior : Nat}, ReaderAt reader prior before (after ++ later) →
      offset = (tlvBytes (before ++ after)).length →
      reader.seenBefore type offset prior = decide (type ∈ after.map Prod.fst)
  | before, [], prior, h, hoffset => by
    have hp := h.offset
    rw [List.append_nil, ← hp] at hoffset
    rw [TlvReader.seenBefore, if_neg (by omega)]
    rfl
  | before, item :: after, prior, h, hoffset => by
    have hp := h.offset
    have hlt : prior < offset := by
      rw [hoffset, hp, tlvBytes_append, List.length_append, tlvBytes_length_cons]
      omega
    rw [TlvReader.seenBefore, if_pos hlt, h.typeAt]
    by_cases he : item.1 = type
    · simp [he]
    · rw [if_neg he, seenBefore_eq h.next (by simpa using hoffset)]
      simp [Ne.symm he]

theorem validFrom_eq :
    ∀ {before after : List Tlv} {offset : Nat}, ReaderAt reader offset before after →
      (before.map Prod.fst).Nodup →
      reader.validFrom offset = decide ((before ++ after).map Prod.fst).Nodup
  | before, [], offset, h, hnodup => by
    have hl := h.length_eq
    rw [tlvBytes_nil, List.length_nil] at hl
    rw [TlvReader.validFrom, if_neg (by omega)]
    simp [hl, hnodup]
  | before, item :: after, offset, h, hnodup => by
    have hroom := h.room
    have hlen := h.lengthAt
    have hseen := @seenBefore_eq reader offset item.1 (item :: after) [] before 0 h.start
      (h.offset.trans (by rw [List.nil_append]))
    simp only [sizeofTlvHeader] at hroom
    rw [TlvReader.validFrom, if_pos (by omega), if_neg (by simp only [sizeofTlvHeader]; omega), h.typeAt,
      hseen]
    by_cases hmem : item.1 ∈ before.map Prod.fst
    · rw [if_pos (by simpa using hmem)]
      have hdup : ¬((before ++ item :: after).map Prod.fst).Nodup := by
        rw [List.map_append, List.nodup_append]
        exact fun hn => hn.2.2 _ hmem _ (by simp) rfl
      exact (decide_eq_false hdup).symm
    · have hnext : ((before ++ [item]).map Prod.fst).Nodup := by
        rw [List.map_append, List.nodup_append]
        refine ⟨hnodup, by simp, fun a ha b hb => ?_⟩
        rw [List.map_singleton, List.mem_singleton] at hb
        exact fun he => hmem (hb ▸ he ▸ ha)
      rw [if_neg (by simpa using hmem), if_neg (by rw [hlen]; simp only [sizeofTlvHeader]; omega),
        validFrom_eq h.next hnext]
      simp

theorem findFrom_eq (type : Nat) :
    ∀ {before after : List Tlv} {offset : Nat}, ReaderAt reader offset before after →
      (after.map Prod.fst).Nodup → ∀ value, (value.isSome → type ∉ after.map Prod.fst) →
      reader.findFrom type offset value =
        ((value.or (lookupTlv type after)).isSome, value.or (lookupTlv type after))
  | before, [], offset, h, hnodup, value, hvalue => by
    have hl := h.length_eq
    rw [tlvBytes_nil, List.length_nil] at hl
    rw [TlvReader.findFrom, if_neg (by simp only [sizeofTlvHeader]; omega)]
    simp [lookupTlv]
  | before, item :: after, offset, h, hnodup, value, hvalue => by
    have hroom := h.room
    have hlen := h.lengthAt
    simp only [sizeofTlvHeader] at hroom
    rw [List.map_cons, List.nodup_cons] at hnodup
    rw [TlvReader.findFrom, if_pos (by simp only [sizeofTlvHeader]; omega),
      if_neg (by rw [hlen]; simp only [sizeofTlvHeader]; omega), h.typeAt]
    by_cases he : item.1 = type
    · have hnone : value = none := by
        cases value with
        | none => rfl
        | some v => exact absurd (hvalue rfl) (by simp [he])
      subst hnone
      rw [if_pos he, if_neg (by simp), findFrom_eq type h.next hnodup.2 _ (fun _ => he ▸ hnodup.1), h.valueAt]
      simp [lookupTlv, he]
    · rw [if_neg he, findFrom_eq type h.next hnodup.2 value fun hs hmem =>
        hvalue hs (List.mem_cons_of_mem _ hmem)]
      simp [lookupTlv, he]

theorem onlyKnownFrom_eq (known : Nat → Bool) :
    ∀ {before after : List Tlv} {offset : Nat}, ReaderAt reader offset before after →
      reader.onlyKnownFrom known offset = after.all fun item => known item.1
  | before, [], offset, h => by
    have hl := h.length_eq
    rw [tlvBytes_nil, List.length_nil] at hl
    rw [TlvReader.onlyKnownFrom, if_neg (by simp only [sizeofTlvHeader]; omega)]
    simp [hl]
  | before, item :: after, offset, h => by
    have hroom := h.room
    have hlen := h.lengthAt
    simp only [sizeofTlvHeader] at hroom
    have hfits : ¬reader.lengthAt offset > reader.data.length - (offset + sizeofTlvHeader) := by
      rw [hlen]
      simp only [sizeofTlvHeader]
      omega
    rw [TlvReader.onlyKnownFrom, if_pos (by simp only [sizeofTlvHeader]; omega), h.typeAt]
    cases hk : known item.1 with
    | false => simp [hk]
    | true =>
      rw [if_neg (by simpa using hfits), onlyKnownFrom_eq known h.next]
      simp [hk]

end items

section body

variable {items : List Tlv} (representable : Representable items)

include representable

theorem readerAt_start : ReaderAt ⟨tlvBytes items⟩ 0 [] items :=
  ⟨rfl, rfl, representable⟩

theorem valid_tlvBytes : (TlvReader.mk (tlvBytes items)).valid = decide (items.map Prod.fst).Nodup :=
  validFrom_eq (readerAt_start representable) List.nodup_nil

theorem onlyKnown_tlvBytes (known : Nat → Bool) :
    (TlvReader.mk (tlvBytes items)).onlyKnown known = items.all fun item => known item.1 :=
  onlyKnownFrom_eq known (readerAt_start representable)

theorem find_tlvBytes (nodup : (items.map Prod.fst).Nodup) (type : Nat) :
    (TlvReader.mk (tlvBytes items)).find type = ((lookupTlv type items).isSome, lookupTlv type items) :=
  findFrom_eq type (readerAt_start representable) nodup none (by simp)

theorem getNumber_tlvBytes (nodup : (items.map Prod.fst).Nodup) (width type initial : Nat)
    (required : Bool) :
    (TlvReader.mk (tlvBytes items)).getNumber width type initial required =
      match lookupTlv type items with
      | none => if required then none else some initial
      | some value => if value.length ≠ width then none else some (leNat value) := by
  rw [TlvReader.getNumber, find_tlvBytes representable nodup]
  cases lookupTlv type items <;> rfl

theorem bytes_tlvBytes (nodup : (items.map Prod.fst).Nodup) (type : Nat) (required : Bool) :
    (TlvReader.mk (tlvBytes items)).bytes type required =
      match lookupTlv type items with
      | none => if required then none else some none
      | some value => some (some value) := by
  rw [TlvReader.bytes, find_tlvBytes representable nodup]
  cases lookupTlv type items <;> simp

end body

end JLinkMcp.Firmware
