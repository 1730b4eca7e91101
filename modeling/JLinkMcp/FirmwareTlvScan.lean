import JLinkMcp.FirmwareTlv
import JLinkMcp.HostEncoding
import JLinkMcp.HostResponse

namespace JLinkMcp.Firmware

open Codec

namespace TlvReader

variable (reader : TlvReader)

/-- The type of a header, where it lies in the buffer. -/
def typeRead (offset : Nat) : Option Nat :=
  if offset + 2 ≤ reader.data.length then some (reader.typeAt offset) else none

/-- The length of a header, where it lies in the buffer. -/
def lengthRead (offset : Nat) : Option Nat :=
  if offset + sizeofTlvHeader ≤ reader.data.length then some (reader.lengthAt offset) else none

/-- The bytes from an offset on, where they lie in the buffer. -/
def valueRead (offset length : Nat) : Option Bytes :=
  if offset + length ≤ reader.data.length then some ((reader.data.drop offset).take length) else none

/-- `seenBefore` as a loop that stops at a read outside of the buffer. -/
def seenBeforeRead (type offset prior : Nat) : Option Bool :=
  if prior < offset then
    match reader.typeRead prior with
    | none => none
    | some previous =>
      if previous = type then some true
      else
        match reader.lengthRead prior with
        | none => none
        | some length => seenBeforeRead type offset (prior + sizeofTlvHeader + length)
  else some false
  termination_by offset - prior
  decreasing_by
    simp only [sizeofTlvHeader]
    omega

/-- `validFrom` as a loop that stops at a read outside of the buffer. -/
def validFromRead (offset : Nat) : Option Bool :=
  if offset < reader.data.length then
    if reader.data.length - offset < sizeofTlvHeader then some false
    else
      match reader.typeRead offset with
      | none => none
      | some type =>
        match reader.seenBeforeRead type offset 0 with
        | none => none
        | some true => some false
        | some false =>
          match reader.lengthRead offset with
          | none => none
          | some length =>
            if length > reader.data.length - (offset + sizeofTlvHeader) then some false
            else validFromRead (offset + sizeofTlvHeader + length)
  else some (offset = reader.data.length)
  termination_by reader.data.length - offset
  decreasing_by
    simp only [sizeofTlvHeader]
    omega

def validRead : Option Bool := reader.validFromRead 0

/-- `findFrom` as a loop that stops at a read outside of the buffer. -/
def findFromRead (type offset : Nat) (value : Option Bytes) : Option (Bool × Option Bytes) :=
  if offset + sizeofTlvHeader ≤ reader.data.length then
    match reader.lengthRead offset, reader.typeRead offset with
    | some length, some found =>
      if length > reader.data.length - (offset + sizeofTlvHeader) then some (false, value)
      else if found = type then
        if value.isSome then some (false, value)
        else
          match reader.valueRead (offset + sizeofTlvHeader) length with
          | none => none
          | some bytes => findFromRead type (offset + sizeofTlvHeader + length) (some bytes)
      else findFromRead type (offset + sizeofTlvHeader + length) value
    | _, _ => none
  else some (value.isSome, value)
  termination_by reader.data.length - offset
  decreasing_by all_goals (simp only [sizeofTlvHeader] at *; omega)

def findRead (type : Nat) : Option (Bool × Option Bytes) := reader.findFromRead type 0 none

/-- `onlyKnownFrom` as a loop that stops at a read outside of the buffer. -/
def onlyKnownFromRead (known : Nat → Bool) (offset : Nat) : Option Bool :=
  if offset + sizeofTlvHeader ≤ reader.data.length then
    match reader.lengthRead offset, reader.typeRead offset with
    | some length, some type =>
      if length > reader.data.length - (offset + sizeofTlvHeader) || !known type then some false
      else onlyKnownFromRead known (offset + sizeofTlvHeader + length)
    | _, _ => none
  else some (offset = reader.data.length)
  termination_by reader.data.length - offset
  decreasing_by
    simp only [sizeofTlvHeader] at *
    omega

def onlyKnownRead (known : Nat → Bool) : Option Bool := reader.onlyKnownFromRead known 0

end TlvReader

/-- The calls of `append` one after the other. -/
def TlvWriter.appendAll (capacity : Nat) : Bytes → List Tlv → Option Bytes
  | written, [] => some written
  | written, item :: items =>
    (TlvWriter.append written capacity item.1 item.2).bind fun written => appendAll capacity written items

/-- The reader has passed these items and sees the rest of a row, which may be anything. -/
structure Scanned (reader : TlvReader) (offset : Nat) (before : List Tlv) (rest : Bytes) : Prop where
  data : reader.data = tlvBytes before ++ rest
  offset : offset = (tlvBytes before).length
  representable : Representable before

namespace Scanned

variable {reader : TlvReader} {offset : Nat} {before after : List Tlv} {rest : Bytes} {item : Tlv}

theorem start (reader : TlvReader) : Scanned reader 0 [] reader.data := ⟨rfl, rfl, nofun⟩

theorem drop_offset (h : Scanned reader offset before rest) : reader.data.drop offset = rest := by
  rw [h.data, h.offset, List.drop_left]

theorem length_eq (h : Scanned reader offset before rest) : reader.data.length = offset + rest.length := by
  rw [h.data, h.offset, List.length_append]

theorem typeAt (h : Scanned reader offset before rest) : reader.typeAt offset = leNat (rest.take 2) := by
  rw [TlvReader.typeAt, h.drop_offset]

theorem lengthAt (h : Scanned reader offset before rest) :
    reader.lengthAt offset = leNat ((rest.drop 2).take 2) := by
  rw [TlvReader.lengthAt, ← List.drop_drop, h.drop_offset]

theorem next (h : Scanned reader offset before (tlvBytes [item] ++ rest))
    (representable : item.1 < 2 ^ 16 ∧ item.2.length < 2 ^ 16) :
    Scanned reader (reader.nextOffset offset) (before ++ [item]) rest := by
  refine ⟨?_, ?_, ?_⟩
  · rw [h.data, tlvBytes_append, List.append_assoc]
  · rw [TlvReader.nextOffset, h.lengthAt, tlvBytes_item_size representable, tlvBytes_append,
      List.length_append, tlvBytes_length_cons, h.offset, tlvBytes_nil, List.length_nil, sizeofTlvHeader]
    omega
  · intro found hfound
    rcases List.mem_append.mp hfound with hfound | hfound
    · exact h.representable found hfound
    · rw [List.mem_singleton.mp hfound]
      exact representable

/-- The reader at an earlier item. -/
theorem earlier (h : Scanned reader offset (before ++ after) rest) :
    Scanned reader (tlvBytes before).length before (tlvBytes after ++ rest) :=
  ⟨by rw [h.data, tlvBytes_append, List.append_assoc], rfl,
    fun found hfound => h.representable found (List.mem_append_left after hfound)⟩

theorem typeRead (h : Scanned reader offset before rest) (header : 4 ≤ rest.length) :
    reader.typeRead offset = some (reader.typeAt offset) := by
  have hlength := h.length_eq
  exact if_pos (by omega)

theorem lengthRead (h : Scanned reader offset before rest) (header : 4 ≤ rest.length) :
    reader.lengthRead offset = some (reader.lengthAt offset) := by
  have hlength := h.length_eq
  exact if_pos (by rw [sizeofTlvHeader]; omega)

end Scanned

section scan

variable {reader : TlvReader} {offset prior : Nat} {before after : List Tlv} {rest : Bytes} {item : Tlv}

/-- The scan for an earlier item looks at the types of the items before, and stays among them. -/
theorem seenBefore_scanned (type : Nat) (h : Scanned reader offset (before ++ after) rest)
    (hprior : prior = (tlvBytes before).length) :
    reader.seenBefore type offset prior = decide (type ∈ after.map Prod.fst) ∧
      reader.seenBeforeRead type offset prior = some (reader.seenBefore type offset prior) := by
  have hoffset := h.offset
  rw [tlvBytes_append, List.length_append, ← hprior] at hoffset
  induction after generalizing before prior with
  | nil =>
    rw [tlvBytes_nil, List.length_nil] at hoffset
    rw [TlvReader.seenBefore, TlvReader.seenBeforeRead, if_neg (by omega), if_neg (by omega)]
    exact ⟨rfl, rfl⟩
  | cons item after ih =>
    have hitem := h.representable item (by simp)
    have hlength := tlvBytes_length_cons item after
    have hhere : Scanned reader prior before (tlvBytes [item] ++ (tlvBytes after ++ rest)) := by
      have hearlier := h.earlier
      rw [← hprior, ← List.singleton_append, tlvBytes_append, List.append_assoc] at hearlier
      exact hearlier
    have hheader : 4 ≤ (tlvBytes [item] ++ (tlvBytes after ++ rest)).length := by
      rw [tlvBytes_item_length]
      omega
    have htype : reader.typeAt prior = item.1 := hhere.typeAt.trans (tlvBytes_item_type hitem _)
    have hsplit : before ++ item :: after = before ++ [item] ++ after := by simp
    have hnext := hhere.next hitem
    have hlater := ih (hsplit ▸ h) hnext.offset (by
      rw [hnext.offset, tlvBytes_append, List.length_append, ← hprior, hoffset, tlvBytes_length_cons,
        tlvBytes_length_cons, tlvBytes_nil, List.length_nil]
      omega)
    have hlt : prior < offset := by omega
    rw [TlvReader.seenBefore, TlvReader.seenBeforeRead, if_pos hlt, if_pos hlt, hhere.typeRead hheader,
      hhere.lengthRead hheader, htype]
    dsimp only
    by_cases heq : item.1 = type
    · rw [if_pos heq, if_pos heq]
      exact ⟨by simp [heq], rfl⟩
    · rw [if_neg heq, if_neg heq]
      refine ⟨?_, hlater.2⟩
      rw [hlater.1]
      simp [Ne.symm heq]

/-- The validator accepts the rows that parse into items of different types, and reads nothing
outside of the row. -/
theorem validFrom_scanned (h : Scanned reader offset before rest) (nodup : (before.map Prod.fst).Nodup) :
    reader.validFrom offset =
        (parseTlvs rest).any (fun after => decide ((before ++ after).map Prod.fst).Nodup) ∧
      reader.validFromRead offset = some (reader.validFrom offset) := by
  induction hn : rest.length using Nat.strongRecOn generalizing offset before rest with
  | ind n ih =>
    have hlength := h.length_eq
    rw [TlvReader.validFrom, TlvReader.validFromRead]
    by_cases hnil : rest = []
    · rw [hnil, List.length_nil] at hlength
      rw [if_neg (by omega), if_neg (by omega), parseTlvs, if_pos hnil]
      refine ⟨?_, rfl⟩
      simp [hlength, nodup]
    · have hpos := List.length_pos_iff.mpr hnil
      have hmore : offset < reader.data.length := by omega
      have hroom : reader.data.length - offset < sizeofTlvHeader ↔ rest.length < 4 := by
        rw [sizeofTlvHeader]
        omega
      rw [if_pos hmore, if_pos hmore]
      by_cases hshort : rest.length < 4
      · rw [if_pos (hroom.mpr hshort), if_pos (hroom.mpr hshort), parseTlvs, if_neg hnil, if_pos hshort]
        exact ⟨rfl, rfl⟩
      · have hheader : 4 ≤ rest.length := Nat.le_of_not_lt hshort
        have hscan := @seenBefore_scanned reader offset 0 [] before rest (leNat (rest.take 2)) h rfl
        rw [if_neg (mt hroom.mp hshort), if_neg (mt hroom.mp hshort),
          h.typeRead hheader, h.lengthRead hheader, h.typeAt]
        dsimp only
        rw [hscan.2, hscan.1]
        by_cases hlong : leNat ((rest.drop 2).take 2) > (rest.drop 4).length
        · -- the row ends in the middle of an item, and is refused whether or not its type was seen
          have hnone : parseTlvs rest = none := by
            rw [parseTlvs, if_neg hnil, if_neg hshort]
            exact if_pos hlong
          have hrefused : reader.lengthAt offset > reader.data.length - (offset + sizeofTlvHeader) := by
            rw [List.length_drop] at hlong
            rw [h.lengthAt, sizeofTlvHeader]
            omega
          rw [hnone, if_pos hrefused, if_pos hrefused]
          cases decide (leNat (rest.take 2) ∈ before.map Prod.fst) <;> exact ⟨rfl, rfl⟩
        · rw [List.length_drop] at hlong
          obtain ⟨item, tail, hrest, htype, hsize, hless⟩ := exists_item hheader (Nat.le_of_not_lt hlong)
          have hitem := And.intro htype hsize
          have hfits : ¬reader.lengthAt offset > reader.data.length - (offset + sizeofTlvHeader) := by
            rw [h.lengthAt, sizeofTlvHeader]
            omega
          rw [if_neg hfits, if_neg hfits, hrest, tlvBytes_item_type hitem, parseTlvs_item hitem]
          rw [hrest] at h
          by_cases hmem : item.1 ∈ before.map Prod.fst
          · have hdup : ∀ after, ¬((before ++ item :: after).map Prod.fst).Nodup := by
              intro after hn
              rw [List.map_append, List.nodup_append] at hn
              exact hn.2.2 _ hmem _ (by simp) rfl
            rw [decide_eq_true hmem]
            refine ⟨?_, rfl⟩
            cases parseTlvs tail with
            | none => rfl
            | some after => exact (decide_eq_false (hdup after)).symm
          · have hnext : ((before ++ [item]).map Prod.fst).Nodup := by
              rw [List.map_append, List.nodup_append]
              refine ⟨nodup, by simp, fun a ha b hb => ?_⟩
              rw [List.map_singleton, List.mem_singleton] at hb
              exact fun he => hmem (hb ▸ he ▸ ha)
            have hlater := ih tail.length (hn ▸ hless) (h.next hitem) hnext rfl
            rw [decide_eq_false hmem]
            refine ⟨?_, hlater.2⟩
            rw [if_neg Bool.false_ne_true, hlater.1]
            cases parseTlvs tail with
            | none => rfl
            | some after => simp

theorem valid_eq (data : Bytes) : (TlvReader.mk data).valid =
    (parseTlvs data).any fun items => decide (items.map Prod.fst).Nodup :=
  (validFrom_scanned (Scanned.start ⟨data⟩) List.nodup_nil).1

end scan

section reads

variable (reader : TlvReader)

theorem validRead_eq : reader.validRead = some reader.valid :=
  (validFrom_scanned (Scanned.start reader) List.nodup_nil).2

variable {reader} {offset : Nat}

theorem headerRead (h : offset + sizeofTlvHeader ≤ reader.data.length) :
    reader.typeRead offset = some (reader.typeAt offset) ∧
      reader.lengthRead offset = some (reader.lengthAt offset) := by
  refine ⟨if_pos ?_, if_pos h⟩
  rw [sizeofTlvHeader] at h
  omega

theorem findFromRead_eq (type : Nat) (value : Option Bytes) :
    reader.findFromRead type offset value = some (reader.findFrom type offset value) := by
  induction hn : reader.data.length - offset using Nat.strongRecOn generalizing offset value with
  | ind n ih =>
    rw [TlvReader.findFromRead, TlvReader.findFrom]
    by_cases hheader : offset + sizeofTlvHeader ≤ reader.data.length
    · obtain ⟨htype, hlength⟩ := headerRead hheader
      have hless : reader.data.length - (offset + sizeofTlvHeader + reader.lengthAt offset) < n := by
        rw [sizeofTlvHeader] at hheader ⊢
        omega
      rw [if_pos hheader, if_pos hheader, htype, hlength]
      dsimp only
      by_cases hlong : reader.lengthAt offset > reader.data.length - (offset + sizeofTlvHeader)
      · rw [if_pos hlong, if_pos hlong]
      · rw [if_neg hlong, if_neg hlong]
        have hvalue : reader.valueRead (offset + sizeofTlvHeader) (reader.lengthAt offset) =
            some (reader.valueAt offset) := if_pos (by omega)
        split
        next =>
          split
          next => rfl
          next =>
            rw [hvalue]
            exact ih _ hless _ rfl
        next => exact ih _ hless _ rfl
    · rw [if_neg hheader, if_neg hheader]

theorem onlyKnownFromRead_eq (known : Nat → Bool) :
    reader.onlyKnownFromRead known offset = some (reader.onlyKnownFrom known offset) := by
  induction hn : reader.data.length - offset using Nat.strongRecOn generalizing offset with
  | ind n ih =>
    rw [TlvReader.onlyKnownFromRead, TlvReader.onlyKnownFrom]
    by_cases hheader : offset + sizeofTlvHeader ≤ reader.data.length
    · obtain ⟨htype, hlength⟩ := headerRead hheader
      have hless : reader.data.length - (offset + sizeofTlvHeader + reader.lengthAt offset) < n := by
        rw [sizeofTlvHeader] at hheader ⊢
        omega
      rw [if_pos hheader, if_pos hheader, htype, hlength]
      dsimp only
      split
      next => rfl
      next => exact ih _ hless rfl
    · rw [if_neg hheader, if_neg hheader]

end reads

section writer

variable {capacity : Nat} {items : List Tlv} {written bytes : Bytes}

theorem appendAll_eq (h : TlvWriter.appendAll capacity written items = some bytes)
    (room : written.length ≤ capacity) : bytes = written ++ tlvBytes items ∧ bytes.length ≤ capacity := by
  induction items generalizing written with
  | nil =>
    cases Option.some.inj h
    exact ⟨(List.append_nil _).symm, room⟩
  | cons item items ih =>
    obtain ⟨next, hnext, hrest⟩ := Option.bind_eq_some_iff.mp h
    rw [TlvWriter.append] at hnext
    split at hnext
    next => cases hnext
    next hfits =>
      cases Option.some.inj hnext
      have hlength : (written ++ leBytes 2 item.1 ++ leBytes 2 item.2.length ++ item.2).length ≤ capacity := by
        simp only [List.length_append, leBytes_length, sizeofTlvHeader] at hfits ⊢
        omega
      obtain ⟨hbytes, hle⟩ := ih hrest hlength
      refine ⟨?_, hle⟩
      rw [hbytes, tlvBytes_cons]
      simp only [List.append_assoc]

end writer

end JLinkMcp.Firmware

namespace JLinkMcp.Host

open Codec

theorem decodeTlvsFrom_iff {allowed : Option (List Nat)} {result items : List Tlv} {payload : Bytes}
    (nodup : (result.map Prod.fst).Nodup) :
    decodeTlvsFrom allowed result payload = .ok items ↔
      ∃ after, parseTlvs payload = some after ∧ items = result ++ after ∧
        ((result ++ after).map Prod.fst).Nodup ∧
        ∀ item ∈ after, ∀ types, allowed = some types → item.1 ∈ types := by
  induction hn : payload.length using Nat.strongRecOn generalizing payload result with
  | ind n ih =>
    rw [decodeTlvsFrom]
    by_cases hnil : payload = []
    · rw [if_pos hnil, hnil, parseTlvs, if_pos rfl]
      constructor
      · intro h
        cases h
        refine ⟨[], rfl, (List.append_nil _).symm, ?_, List.forall_mem_nil _⟩
        rw [List.append_nil]
        exact nodup
      · rintro ⟨after, hafter, hitems, -⟩
        cases hafter
        rw [hitems, List.append_nil]
    · rw [if_neg hnil]
      by_cases hshort : payload.length < 4
      · rw [if_pos hshort, parseTlvs, if_neg hnil, if_pos hshort]
        refine iff_of_false ?_ ?_
        · intro h
          cases h
        · rintro ⟨after, hafter, -⟩
          cases hafter
      · rw [if_neg hshort]
        dsimp only
        by_cases hlong : leNat ((payload.drop 2).take 2) > (payload.drop 4).length
        · have hnone : parseTlvs payload = none := by
            rw [parseTlvs, if_neg hnil, if_neg hshort]
            exact if_pos hlong
          rw [if_pos hlong, hnone]
          refine iff_of_false ?_ ?_
          · intro h
            cases h
          · rintro ⟨after, hafter, -⟩
            cases hafter
        · rw [if_neg hlong]
          rw [List.length_drop] at hlong
          obtain ⟨item, rest, hpayload, htype, hsize, hless⟩ :=
            exists_item (Nat.le_of_not_lt hshort) (Nat.le_of_not_lt hlong)
          have hitem := And.intro htype hsize
          rw [hpayload, tlvBytes_item_type hitem, tlvBytes_item_size hitem, tlvBytes_item_rest,
            List.take_left, List.drop_left, parseTlvs_item hitem]
          have hsplit : ∀ after, result ++ item :: after = result ++ [item] ++ after := by simp
          by_cases hmem : item.1 ∈ result.map Prod.fst
          · rw [if_pos hmem]
            refine iff_of_false ?_ ?_
            · intro h
              cases h
            rintro ⟨after, hafter, -, hn, -⟩
            obtain ⟨tail, _, rfl⟩ := Option.map_eq_some_iff.mp hafter
            rw [List.map_append, List.nodup_append] at hn
            exact absurd rfl (hn.2.2 _ hmem _ (by simp))
          · rw [if_neg hmem]
            by_cases hunknown : (allowed.any fun allowed => item.1 ∉ allowed) = true
            · rw [if_pos hunknown]
              obtain ⟨types, htypes, hnot⟩ := (Option.any_eq_true _ _).mp hunknown
              refine iff_of_false ?_ ?_
              · intro h
                cases h
              rintro ⟨after, hafter, -, -, hknown⟩
              obtain ⟨tail, _, rfl⟩ := Option.map_eq_some_iff.mp hafter
              exact absurd (hknown item List.mem_cons_self types htypes) (of_decide_eq_true hnot)
            · rw [if_neg hunknown]
              have hnodup : ((result ++ [item]).map Prod.fst).Nodup := by
                rw [List.map_append, List.nodup_append]
                refine ⟨nodup, by simp, fun a ha b hb => ?_⟩
                rw [List.map_singleton, List.mem_singleton] at hb
                exact fun he => hmem (hb ▸ he ▸ ha)
              have hallowed : ∀ types, allowed = some types → item.1 ∈ types := by
                intro types htypes
                rw [htypes, Option.any_some, decide_eq_true_iff] at hunknown
                exact Decidable.not_not.mp hunknown
              rw [ih rest.length (hn ▸ hless) hnodup rfl]
              constructor
              · rintro ⟨tail, htail, hitems, hn, hknown⟩
                rw [← hsplit] at hitems hn
                refine ⟨item :: tail, by rw [htail]; rfl, hitems, hn, ?_⟩
                intro found hfound
                rcases List.mem_cons.mp hfound with rfl | hfound
                · exact hallowed
                · exact hknown found hfound
              · rintro ⟨after, hafter, hitems, hn, hknown⟩
                obtain ⟨tail, htail, rfl⟩ := Option.map_eq_some_iff.mp hafter
                rw [hsplit] at hitems hn
                exact ⟨tail, htail, hitems, hn, fun found hfound =>
                  hknown found (List.mem_cons_of_mem item hfound)⟩

/-- The decoder accepts the rows that parse into allowed items of different types. -/
theorem decodeTlvs_iff {allowed : Option (List Nat)} {items : List Tlv} {payload : Bytes} :
    decodeTlvs payload allowed = .ok items ↔ parseTlvs payload = some items ∧ (items.map Prod.fst).Nodup ∧
      ∀ item ∈ items, ∀ types, allowed = some types → item.1 ∈ types := by
  have hnil : (([] : List Tlv).map Prod.fst).Nodup := List.nodup_nil
  rw [decodeTlvs, decodeTlvsFrom_iff hnil]
  constructor
  · rintro ⟨after, hafter, rfl, hn, hknown⟩
    exact ⟨hafter, hn, hknown⟩
  · rintro ⟨hafter, hn, hknown⟩
    exact ⟨items, hafter, rfl, hn, hknown⟩

end JLinkMcp.Host

namespace JLinkMcp

open Codec Firmware

/-- The host's two functions undo each other, and the firmware reads and writes the same rows, without
a read outside of them. The firmware's writers have the capacity of `response_body`. -/
theorem tlvCodecs_agree :
    (∀ items bytes allowed, Host.encodeTlvs items = .ok bytes →
      (∀ item ∈ items, ∀ types, allowed = some types → item.1 ∈ types) →
      Host.decodeTlvs bytes allowed = .ok items) ∧
    (∀ bytes items allowed, bytes.length ≤ 65536 → Host.decodeTlvs bytes allowed = .ok items →
      Host.encodeTlvs items = .ok bytes) ∧
    (∀ bytes, bytes.length ≤ 65536 →
      ((TlvReader.mk bytes).valid = true ↔ ∃ items, Host.decodeTlvs bytes none = .ok items) ∧
      (∀ items, Host.decodeTlvs bytes none = .ok items → ∀ type,
        (TlvReader.mk bytes).find type = ((lookupTlv type items).isSome, lookupTlv type items)) ∧
      (TlvReader.mk bytes).validRead = some (TlvReader.mk bytes).valid ∧
      (∀ type, (TlvReader.mk bytes).findRead type = some ((TlvReader.mk bytes).find type)) ∧
      ∀ known, (TlvReader.mk bytes).onlyKnownRead known = some ((TlvReader.mk bytes).onlyKnown known)) ∧
    ∀ capacity items bytes, capacity ≤ kMaxMessage → Representable items → (items.map Prod.fst).Nodup →
      TlvWriter.appendAll capacity [] items = some bytes → Host.encodeTlvs items = .ok bytes := by
  refine ⟨?_, ?_, fun bytes _ => ⟨?_, ?_, validRead_eq _, fun type => findFromRead_eq type none,
    fun known => onlyKnownFromRead_eq known⟩, ?_⟩
  · intro items bytes allowed hencode hknown
    obtain ⟨hrep, hnodup, _, hbytes⟩ := Host.encodeTlvsFrom_ok hencode
    rw [hbytes, List.nil_append, Host.decodeTlvs_iff]
    exact ⟨parseTlvs_tlvBytes hrep, hnodup, hknown⟩
  · intro bytes items allowed hlength hdecode
    obtain ⟨hparse, hnodup, _⟩ := Host.decodeTlvs_iff.mp hdecode
    obtain ⟨hbytes, hrep⟩ := tlvBytes_of_parseTlvs hparse
    rw [← hbytes] at hlength ⊢
    exact Host.encodeTlvs_eq hrep hnodup hlength
  · rw [valid_eq, Option.any_eq_true]
    constructor
    · rintro ⟨items, hparse, hnodup⟩
      exact ⟨items, Host.decodeTlvs_iff.mpr ⟨hparse, of_decide_eq_true hnodup, nofun⟩⟩
    · rintro ⟨items, hdecode⟩
      obtain ⟨hparse, hnodup, _⟩ := Host.decodeTlvs_iff.mp hdecode
      exact ⟨items, hparse, decide_eq_true hnodup⟩
  · intro items hdecode type
    obtain ⟨hparse, hnodup, _⟩ := Host.decodeTlvs_iff.mp hdecode
    obtain ⟨hbytes, hrep⟩ := tlvBytes_of_parseTlvs hparse
    rw [← hbytes]
    exact find_tlvBytes hrep hnodup type
  · intro capacity items bytes hcapacity hrep hnodup happend
    obtain ⟨hbytes, hlength⟩ := appendAll_eq happend (Nat.zero_le _)
    rw [List.nil_append] at hbytes
    rw [hbytes] at hlength ⊢
    exact Host.encodeTlvs_eq hrep hnodup (Nat.le_trans hlength hcapacity)

end JLinkMcp
