import JLinkMcp.HostDumps

namespace JLinkMcp.Host

/-- Wherever it may end, the scanner reads the text as the value. -/
structure ReadsAs (depth : Nat) (text : PyStr) (value : PyJson) : Prop where
  starts : StartsValue text
  scans : ∀ rest, Delimited rest → scanOnce depth (text ++ rest) = .ok (value, rest)

/-- A member of an object: its name, the text of its value, and the value. -/
structure JsonMember where
  name : PyStr
  text : PyStr
  value : PyJson

/-- `"name":text` -/
def JsonMember.written (member : JsonMember) : PyStr := dumpsStr member.name ++ 58 :: member.text

def JsonMember.item (member : JsonMember) : PyStr × PyJson := (member.name, member.value)

/-- The text of a list of these texts. -/
def listText (texts : List PyStr) : PyStr := 91 :: (commas texts ++ [93])

/-- The text of an object of these members. -/
def objectText (members : List JsonMember) : PyStr := 123 :: (commas (members.map JsonMember.written) ++ [125])

section texts

variable {depth : Nat} {text : PyStr} {value : PyJson}

/-- `json.loads(text)` -/
theorem ReadsAs.loads (reads : ReadsAs depth text value) : loads depth text = .ok value := by
  have hscan := reads.scans [] nofun
  have hskip := skipWhitespace_start reads.starts []
  obtain ⟨c, more, htext, hc⟩ := reads.starts
  rw [List.append_nil] at hscan hskip
  have hmark : ¬text.head? = some 0xFEFF := by
    rw [htext]
    intro h
    rw [Option.some.inj h] at hc
    cases hc
  rw [Host.loads, if_neg hmark, hskip, hscan]
  rfl

theorem readsAs_dumps (dumpable : Dumpable depth value) : ReadsAs depth (dumps value) value.sorted :=
  ⟨startsValue_dumps dumpable, scans_dumps depth value dumpable⟩

theorem readsAs_int {n : Int} (short : (Nat.toDigits 10 n.natAbs).length ≤ 4300) :
    ReadsAs depth (dumpsInt n) (.int n) := by
  have dumpable : Dumpable depth (.int n) := by
    cases depth <;> exact short
  exact readsAs_dumps dumpable

/-- The items of a list, up to its bracket. -/
theorem scanItems_texts {items : List (PyStr × PyJson)} (ne : items ≠ [])
    (reads : ∀ item ∈ items, ReadsAs depth item.1 item.2) {rounds : Nat} (enough : items.length ≤ rounds)
    (rest : PyStr) :
    scanItems (scanOnce depth) rounds (commas (items.map Prod.fst) ++ 93 :: rest) =
      .ok (items.map Prod.snd, rest) := by
  induction items generalizing rounds with
  | nil => exact absurd rfl ne
  | cons item items ih =>
    obtain ⟨rounds, rfl⟩ : ∃ n, rounds = n + 1 := Nat.exists_eq_succ_of_ne_zero (by
      rw [List.length_cons] at enough
      omega)
    have hread := reads item List.mem_cons_self
    cases items with
    | nil =>
      have hitem := hread.scans _ (delimited_bracket rest)
      change (scanOnce depth (item.1 ++ 93 :: rest) >>= _) = _
      rw [hitem]
      rfl
    | cons next items =>
      have hitem := hread.scans _ (delimited_comma (commas ((next :: items).map Prod.fst) ++ 93 :: rest))
      have hnext := reads next (List.mem_cons_of_mem _ List.mem_cons_self)
      have hrest := ih (List.cons_ne_nil next items) (fun other hother => reads other (List.mem_cons_of_mem _ hother))
        (Nat.le_of_succ_le_succ enough)
      have hskip := skipWhitespace_start (@startsValue_commas _ (items.map Prod.fst) hnext.starts) (93 :: rest)
      rw [List.map_cons, List.map_cons, commas_cons, List.append_assoc]
      change (scanOnce depth (item.1 ++ 44 :: (commas ((next :: items).map Prod.fst) ++ 93 :: rest)) >>= _) = _
      rw [hitem]
      change (scanItems (scanOnce depth) rounds
        (skipWhitespace (commas ((next :: items).map Prod.fst) ++ 93 :: rest)) >>= _) = _
      rw [List.map_cons, hskip]
      rw [List.map_cons] at hrest
      rw [hrest]
      rfl

/-- A list is read item by item. -/
theorem readsAs_list {items : List (PyStr × PyJson)} (reads : ∀ item ∈ items, ReadsAs depth item.1 item.2) :
    ReadsAs (depth + 1) (listText (items.map Prod.fst)) (.list (items.map Prod.snd)) := by
  refine ⟨⟨91, _, rfl, rfl⟩, fun rest _ => ?_⟩
  have htext : listText (items.map Prod.fst) ++ rest = 91 :: (commas (items.map Prod.fst) ++ 93 :: rest) := by
    rw [listText, List.cons_append, List.append_assoc]
    rfl
  rw [htext]
  change scanList (scanOnce depth) (commas (items.map Prod.fst) ++ 93 :: rest) = _
  cases items with
  | nil => rfl
  | cons item items =>
    have hstarts := @startsValue_commas _ (items.map Prod.fst) (reads item List.mem_cons_self).starts
    have hskip := skipWhitespace_start hstarts (93 :: rest)
    obtain ⟨c, more, hc, hstart⟩ := hstarts
    have hitems := @scanItems_texts _ (item :: items) (List.cons_ne_nil item items) reads
      (commas ((item :: items).map Prod.fst) ++ 93 :: rest).length (enough_rounds (by rw [List.length_map])) rest
    unfold scanList
    rw [List.map_cons, hskip]
    rw [List.map_cons] at hitems
    rw [hc] at hitems ⊢
    dsimp only [List.cons_append] at hitems ⊢
    rw [if_neg (start_ne hstart rfl (by decide)), hitems]
    rfl

/-- The member can be read. -/
def JsonMember.Read (depth : Nat) (member : JsonMember) : Prop :=
  member.name.all isScalar = true ∧ ReadsAs depth member.text member.value

theorem startsValue_written (member : JsonMember) : StartsValue member.written := ⟨34, _, rfl, rfl⟩

theorem scanPair_written {member : JsonMember} (read : member.Read depth) {rest : PyStr} (delimited : Delimited rest) :
    scanPair (scanOnce depth) (member.written ++ rest) = .ok (member.item, rest) := by
  have hname := scanString_dumpsStr read.1 (58 :: (member.text ++ rest))
  have htext : member.written ++ rest =
      34 :: (member.name.flatMap escapeChar ++ 34 :: 58 :: (member.text ++ rest)) := by
    simp [JsonMember.written, dumpsStr]
  rw [htext]
  change (scanString _ _ >>= _) = _
  rw [hname]
  change (scanOnce depth (skipWhitespace (member.text ++ rest)) >>= _) = _
  rw [skipWhitespace_start read.2.starts, read.2.scans rest delimited]
  rfl

/-- The members of an object, up to its brace. -/
theorem scanPairs_written {members : List JsonMember} {seen : List (PyStr × PyJson)} (ne : members ≠ [])
    (nodup : (seen.map Prod.fst ++ members.map JsonMember.name).Nodup) (read : ∀ member ∈ members, member.Read depth)
    {rounds : Nat} (enough : members.length ≤ rounds) (rest : PyStr) :
    scanPairs (scanOnce depth) rounds seen (commas (members.map JsonMember.written) ++ 125 :: rest) =
      .ok (seen ++ members.map JsonMember.item, rest) := by
  induction members generalizing rounds seen with
  | nil => exact absurd rfl ne
  | cons member members ih =>
    obtain ⟨rounds, rfl⟩ : ∃ n, rounds = n + 1 := Nat.exists_eq_succ_of_ne_zero (by
      rw [List.length_cons] at enough
      omega)
    have hmember := read member List.mem_cons_self
    have hfresh : member.item.1 ∉ seen.map Prod.fst := fun hmem =>
      (List.nodup_append.mp nodup).2.2 _ hmem _ List.mem_cons_self rfl
    have hset := setPair_of_notMem hfresh
    cases members with
    | nil =>
      have hpair := scanPair_written hmember (delimited_brace rest)
      change (scanPair (scanOnce depth) (member.written ++ 125 :: rest) >>= _) = _
      rw [hpair]
      change Except.ok (setPair seen member.item, rest) = _
      rw [hset]
      rfl
    | cons next members =>
      have hpair := scanPair_written hmember
        (delimited_comma (commas ((next :: members).map JsonMember.written) ++ 125 :: rest))
      have hskip := skipWhitespace_start
        (@startsValue_commas _ (members.map JsonMember.written) (startsValue_written next)) (125 :: rest)
      have hnodup : ((seen ++ [member.item]).map Prod.fst ++ (next :: members).map JsonMember.name).Nodup := by
        rw [List.map_append, List.append_assoc]
        exact nodup
      have hrest := ih (List.cons_ne_nil next members) hnodup
        (fun other hother => read other (List.mem_cons_of_mem _ hother)) (Nat.le_of_succ_le_succ enough)
      rw [List.map_cons, List.map_cons, commas_cons, List.append_assoc]
      change (scanPair (scanOnce depth)
        (member.written ++ 44 :: (commas ((next :: members).map JsonMember.written) ++ 125 :: rest)) >>= _) = _
      rw [hpair]
      change scanPairs (scanOnce depth) rounds (setPair seen member.item)
        (skipWhitespace (commas ((next :: members).map JsonMember.written) ++ 125 :: rest)) = _
      rw [hset, List.map_cons, hskip]
      rw [List.map_cons] at hrest
      rw [hrest, List.append_assoc]
      rfl

/-- An object is read member by member. -/
theorem readsAs_object {members : List JsonMember} (nodup : (members.map JsonMember.name).Nodup)
    (read : ∀ member ∈ members, member.Read depth) :
    ReadsAs (depth + 1) (objectText members) (.dict (members.map JsonMember.item)) := by
  refine ⟨⟨123, _, rfl, rfl⟩, fun rest _ => ?_⟩
  have htext : objectText members ++ rest = 123 :: (commas (members.map JsonMember.written) ++ 125 :: rest) := by
    rw [objectText, List.cons_append, List.append_assoc]
    rfl
  rw [htext]
  change scanObject (scanOnce depth) (commas (members.map JsonMember.written) ++ 125 :: rest) = _
  cases members with
  | nil => rfl
  | cons member members =>
    have hstarts := @startsValue_commas _ (members.map JsonMember.written) (startsValue_written member)
    have hskip := skipWhitespace_start hstarts (125 :: rest)
    obtain ⟨c, more, hc, hstart⟩ := hstarts
    have hpairs := @scanPairs_written _ (member :: members) [] (List.cons_ne_nil member members) nodup read
      (commas ((member :: members).map JsonMember.written) ++ 125 :: rest).length
      (enough_rounds (by rw [List.length_map])) rest
    unfold scanObject
    rw [List.map_cons, hskip]
    rw [List.map_cons] at hpairs
    rw [hc] at hpairs ⊢
    dsimp only [List.cons_append] at hpairs ⊢
    rw [if_neg (start_ne hstart rfl (by decide)), hpairs]
    rfl

end texts

end JLinkMcp.Host
