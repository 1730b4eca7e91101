import JLinkMcp.CodecBytes

namespace Codec

/-- A type and its value. -/
abbrev Tlv := Nat × List UInt8

/-- Type and length, both of two bytes, then the value. -/
def tlvBytes (items : List Tlv) : List UInt8 :=
  items.flatMap fun item => leBytes 2 item.1 ++ leBytes 2 item.2.length ++ item.2

/-- The items of a row that ends with its last item. -/
def parseTlvs (bytes : List UInt8) : Option (List Tlv) :=
  if bytes = [] then some []
  else if bytes.length < 4 then none
  else
    let length := leNat ((bytes.drop 2).take 2)
    let rest := bytes.drop 4
    if length > rest.length then none
    else (parseTlvs (rest.drop length)).map ((leNat (bytes.take 2), rest.take length) :: ·)
  termination_by bytes.length
  decreasing_by
    simp only [List.length_drop]
    omega

/-- The value of the first item of the type. -/
def lookupTlv (type : Nat) : List Tlv → Option (List UInt8)
  | [] => none
  | item :: items => if item.1 = type then some item.2 else lookupTlv type items

/-- Types and lengths fit their two bytes. -/
def Representable (items : List Tlv) : Prop :=
  ∀ item ∈ items, item.1 < 2 ^ 16 ∧ item.2.length < 2 ^ 16

@[simp] theorem tlvBytes_nil : tlvBytes [] = [] := rfl

@[simp] theorem tlvBytes_cons (item : Tlv) (items : List Tlv) :
    tlvBytes (item :: items) =
      leBytes 2 item.1 ++ leBytes 2 item.2.length ++ item.2 ++ tlvBytes items := by
  simp [tlvBytes]

@[simp] theorem tlvBytes_append (xs ys : List Tlv) :
    tlvBytes (xs ++ ys) = tlvBytes xs ++ tlvBytes ys := by
  simp [tlvBytes]

theorem tlvBytes_length_cons (item : Tlv) (items : List Tlv) :
    (tlvBytes (item :: items)).length = 4 + item.2.length + (tlvBytes items).length := by
  rw [tlvBytes_cons]
  simp only [List.length_append, leBytes_length]

theorem length_le_tlvBytes {item : Tlv} {items : List Tlv} (h : item ∈ items) :
    item.2.length ≤ (tlvBytes items).length - 4 := by
  obtain ⟨before, after, rfl⟩ := List.append_of_mem h
  rw [tlvBytes_append, List.length_append, tlvBytes_length_cons]
  omega

section cons

variable {item : Tlv} (representable : item.1 < 2 ^ 16 ∧ item.2.length < 2 ^ 16) (items : List Tlv)

include representable

theorem tlvBytes_cons_type : leNat ((tlvBytes (item :: items)).take 2) = item.1 := by
  rw [tlvBytes_cons, List.append_assoc, List.append_assoc, List.take_left' (leBytes_length 2 _),
    leNat_leBytes_of_lt representable.1]

theorem tlvBytes_cons_size :
    leNat (((tlvBytes (item :: items)).drop 2).take 2) = item.2.length := by
  rw [tlvBytes_cons, List.append_assoc, List.append_assoc, List.drop_left' (leBytes_length 2 _),
    List.take_left' (leBytes_length 2 _), leNat_leBytes_of_lt representable.2]

omit representable in
theorem tlvBytes_cons_rest : (tlvBytes (item :: items)).drop 4 = item.2 ++ tlvBytes items := by
  rw [tlvBytes_cons, List.append_assoc, List.drop_left' (by simp)]

end cons

section front

variable {item : Tlv} (representable : item.1 < 2 ^ 16 ∧ item.2.length < 2 ^ 16) (rest : List UInt8)

omit representable in
theorem tlvBytes_item_length : (tlvBytes [item] ++ rest).length = 4 + item.2.length + rest.length := by
  rw [List.length_append, tlvBytes_length_cons, tlvBytes_nil, List.length_nil, Nat.add_zero]

include representable

theorem tlvBytes_item_type : leNat ((tlvBytes [item] ++ rest).take 2) = item.1 := by
  have h := tlvBytes_length_cons item []
  rw [List.take_append_of_le_length (by omega)]
  exact tlvBytes_cons_type representable []

theorem tlvBytes_item_size : leNat (((tlvBytes [item] ++ rest).drop 2).take 2) = item.2.length := by
  have h := tlvBytes_length_cons item []
  rw [List.drop_append_of_le_length (by omega), List.take_append_of_le_length (by
    rw [List.length_drop]; omega)]
  exact tlvBytes_cons_size representable []

omit representable in
theorem tlvBytes_item_rest : (tlvBytes [item] ++ rest).drop 4 = item.2 ++ rest := by
  have h := tlvBytes_length_cons item []
  rw [List.drop_append_of_le_length (by omega), tlvBytes_cons_rest, tlvBytes_nil, List.append_nil]

/-- The parser takes the item in front. -/
theorem parseTlvs_item : parseTlvs (tlvBytes [item] ++ rest) = (parseTlvs rest).map (item :: ·) := by
  have hlen := @tlvBytes_item_length item rest
  have hne : tlvBytes [item] ++ rest ≠ [] := List.ne_nil_of_length_pos (by omega)
  rw [parseTlvs, if_neg hne, if_neg (by omega)]
  simp only [tlvBytes_item_type representable, tlvBytes_item_size representable, tlvBytes_item_rest]
  rw [if_neg (by rw [List.length_append]; omega), List.drop_left, List.take_left]

end front

theorem parseTlvs_tlvBytes {items : List Tlv} (representable : Representable items) :
    parseTlvs (tlvBytes items) = some items := by
  induction items with
  | nil =>
    rw [parseTlvs]
    rfl
  | cons item items ih =>
    have hitem := representable item List.mem_cons_self
    have hlen := tlvBytes_length_cons item items
    have hne : tlvBytes (item :: items) ≠ [] := List.ne_nil_of_length_pos (by omega)
    have hrest := @tlvBytes_cons_rest item items
    have ih := ih fun i hi => representable i (List.mem_cons_of_mem item hi)
    rw [parseTlvs, if_neg hne, if_neg (by omega)]
    simp only [tlvBytes_cons_type hitem, tlvBytes_cons_size hitem, hrest]
    rw [if_neg (by rw [List.length_append]; omega), List.drop_left, List.take_left, ih]
    rfl

/-- A row that does not end in the middle of an item starts with one. -/
theorem exists_item {bytes : List UInt8} (header : 4 ≤ bytes.length)
    (value : leNat ((bytes.drop 2).take 2) ≤ bytes.length - 4) :
    ∃ item rest, bytes = tlvBytes [item] ++ rest ∧ item.1 < 2 ^ 16 ∧ item.2.length < 2 ^ 16 ∧
      rest.length < bytes.length := by
  have htype := leNat_take_lt 2 bytes
  have hsize := leNat_take_lt 2 (bytes.drop 2)
  have hlength : ((bytes.drop 4).take (leNat ((bytes.drop 2).take 2))).length =
      leNat ((bytes.drop 2).take 2) := by
    rw [List.length_take, List.length_drop]
    omega
  refine ⟨(leNat (bytes.take 2), (bytes.drop 4).take (leNat ((bytes.drop 2).take 2))),
    (bytes.drop 4).drop (leNat ((bytes.drop 2).take 2)), ?_, htype, ?_, ?_⟩
  · have h2 : (bytes.take 2).length = 2 := by rw [List.length_take]; omega
    have h4 : ((bytes.drop 2).take 2).length = 2 := by rw [List.length_take, List.length_drop]; omega
    have hbytes : bytes = bytes.take 2 ++ ((bytes.drop 2).take 2 ++ bytes.drop 4) := by
      have hdrop : bytes.drop 4 = (bytes.drop 2).drop 2 := by rw [List.drop_drop]
      rw [hdrop, List.take_append_drop, List.take_append_drop]
    have htypeBytes := leBytes_leNat (bytes.take 2)
    have hsizeBytes := leBytes_leNat ((bytes.drop 2).take 2)
    rw [h2] at htypeBytes
    rw [h4] at hsizeBytes
    rw [tlvBytes_cons, tlvBytes_nil, List.append_nil]
    dsimp only
    rw [hlength, htypeBytes, hsizeBytes, List.append_assoc, List.append_assoc, List.take_append_drop]
    exact hbytes
  · rw [hlength]
    exact hsize
  · rw [List.length_drop, List.length_drop]
    omega

/-- What is parsed is what the row is made of. -/
theorem tlvBytes_of_parseTlvs {bytes : List UInt8} {items : List Tlv} (h : parseTlvs bytes = some items) :
    tlvBytes items = bytes ∧ Representable items := by
  induction hn : bytes.length using Nat.strongRecOn generalizing bytes items with
  | ind n ih =>
    by_cases hnil : bytes = []
    · rw [parseTlvs, if_pos hnil] at h
      cases h
      exact ⟨hnil.symm, nofun⟩
    · by_cases hshort : bytes.length < 4
      · rw [parseTlvs, if_neg hnil, if_pos hshort] at h
        cases h
      · by_cases hlong : leNat ((bytes.drop 2).take 2) > (bytes.drop 4).length
        · rw [parseTlvs, if_neg hnil, if_neg hshort] at h
          dsimp only at h
          rw [if_pos hlong] at h
          cases h
        · rw [List.length_drop] at hlong
          obtain ⟨item, rest, hbytes, htype, hsize, hless⟩ := exists_item (by omega) (Nat.le_of_not_lt hlong)
          rw [hbytes, parseTlvs_item ⟨htype, hsize⟩] at h
          obtain ⟨after, hafter, rfl⟩ := Option.map_eq_some_iff.mp h
          obtain ⟨hrest, hrep⟩ := ih _ (hn ▸ hless) hafter rfl
          refine ⟨?_, ?_⟩
          · rw [hbytes, ← hrest, ← tlvBytes_append, List.singleton_append]
          · intro found hfound
            rcases List.mem_cons.mp hfound with rfl | hfound
            · exact ⟨htype, hsize⟩
            · exact hrep found hfound

end Codec
