import JLinkMcp.AuditStore

namespace JLinkMcp.Audit

open HashChain Host

/-- The texts that the loop of `verify_chain` hashes before it returns. -/
def hashedRows (sha256 : PyStr → PyStr) : PyStr → List OperationRow → List PyStr
  | _, [] => []
  | previousHash, row :: rows =>
    if row.previousHash ≠ previousHash then []
    else
      let expected := entryHash sha256 previousHash row.payloadJson
      (previousHash ++ row.payloadJson) ::
        if row.entryHash ≠ expected then [] else hashedRows sha256 expected rows

def hashedTexts (sha256 : PyStr → PyStr) (rows : List OperationRow) : List PyStr :=
  hashedRows sha256 genesisHash rows

/-- On these texts the digests differ, have the width of the genesis hash and are never that hash. -/
structure CollisionFree (sha256 : PyStr → PyStr) (texts : List PyStr) : Prop where
  width : ∀ text ∈ texts, (sha256 text).length = 64
  injective : ∀ a ∈ texts, ∀ b ∈ texts, sha256 a = sha256 b → a = b
  fresh : ∀ text ∈ texts, sha256 text ≠ genesisHash

section evidence

variable {sha256 : PyStr → PyStr} {rows rows' : List OperationRow}

/-- All rows of a verified table are hashed. -/
theorem hashedRows_of_verified {head : PyStr} (verified : verifyRows sha256 head rows = (true, none)) :
    hashedRows sha256 head rows = rows.map fun row => row.previousHash ++ row.payloadJson := by
  induction rows generalizing head with
  | nil => rfl
  | cons row rows ih =>
    obtain ⟨hprevious, hdigest, hrest⟩ := verifyRows_iff.mp verified
    have hprevious : row.previousHash = head := hprevious
    have hdigest : row.entryHash = entryHash sha256 head row.payloadJson := hdigest
    have hrows := ih (verifyRows_iff.mpr hrest)
    rw [hashedRows, if_neg (not_not.mpr hprevious)]
    dsimp only
    rw [if_neg (not_not.mpr hdigest), ← hdigest, List.map_cons, hprevious]
    exact congrArg _ hrows

theorem hashedTexts_of_verified (verified : verifyChain sha256 rows = (true, none)) :
    hashedTexts sha256 rows = rows.map fun row => row.previousHash ++ row.payloadJson :=
  hashedRows_of_verified verified

/-- A row of a verified table follows the genesis hash or a digest. -/
theorem length_previousHash (width : ∀ row ∈ rows, (sha256 (row.previousHash ++ row.payloadJson)).length = 64)
    (verified : verifyChain sha256 rows = (true, none)) :
    ∀ row ∈ rows, row.previousHash.length = 64 := by
  induction rows using List.reverseRecOn with
  | nil => exact nofun
  | append_singleton rows row ih =>
    obtain ⟨hrows, hprevious, -⟩ := verifyChain_concat.mp verified
    intro found hfound
    rcases List.mem_append.mp hfound with h | h
    · exact ih (fun row hrow => width row (List.mem_append_left _ hrow)) hrows found h
    · rw [List.mem_singleton.mp h, hprevious]
      rcases List.eq_nil_or_concat rows with rfl | ⟨earlier, last, rfl⟩
      · rfl
      · -- the last entry hash is a digest
        rw [List.concat_eq_append] at hrows width ⊢
        rw [lastEntryHash, List.getLast?_concat, Option.map_some, Option.getD_some,
          (verifyChain_concat.mp hrows).2.2]
        exact width last (by simp)

/-- The width of the previous hash tells where the payload begins. -/
theorem binding_links
    (collisionFree : CollisionFree sha256 (hashedTexts sha256 rows ++ hashedTexts sha256 rows'))
    (hrows : verifyChain sha256 rows = (true, none)) (hrows' : verifyChain sha256 rows' = (true, none)) :
    Binding (entryHash sha256) genesisHash
      (rows.map OperationRow.link ++ rows'.map OperationRow.link) := by
  rw [hashedTexts_of_verified hrows, hashedTexts_of_verified hrows', ← List.map_append] at collisionFree
  have hhashed : ∀ row ∈ rows ++ rows', row.previousHash ++ row.payloadJson ∈
      (rows ++ rows').map fun row => row.previousHash ++ row.payloadJson :=
    fun row hrow => List.mem_map_of_mem hrow
  have hwidth := fun row hrow => collisionFree.width _ (hhashed row hrow)
  have hlength : ∀ row ∈ rows ++ rows', row.previousHash.length = 64 := fun row hrow => by
    rcases List.mem_append.mp hrow with h | h
    · exact length_previousHash (fun row hrow => hwidth row (List.mem_append_left _ hrow)) hrows row h
    · exact length_previousHash (fun row hrow => hwidth row (List.mem_append_right _ hrow)) hrows' row h
  rw [← List.map_append]
  constructor
  · intro a ha b hb hsame
    obtain ⟨row, hrow, rfl⟩ := List.mem_map.mp ha
    obtain ⟨row', hrow', rfl⟩ := List.mem_map.mp hb
    have htext := collisionFree.injective _ (hhashed row hrow) _ (hhashed row' hrow') hsame
    exact List.append_inj htext ((hlength row hrow).trans (hlength row' hrow').symm)
  · intro a ha
    obtain ⟨row, hrow, rfl⟩ := List.mem_map.mp ha
    exact collisionFree.fresh _ (hhashed row hrow)

theorem verifyRows_cases (head : PyStr) : verifyRows sha256 head rows = (true, none) ∨
    ∃ message, verifyRows sha256 head rows = (false, some message) := by
  induction rows generalizing head with
  | nil => exact .inl rfl
  | cons row rows ih =>
    rw [verifyRows]
    split
    next => exact .inr ⟨_, rfl⟩
    next =>
      dsimp only
      split
      next => exact .inr ⟨_, rfl⟩
      next => exact ih _

theorem payloads_of_verified
    (collisionFree : CollisionFree sha256 (hashedTexts sha256 rows ++ hashedTexts sha256 rows'))
    (hrows : verifyChain sha256 rows = (true, none)) (hrows' : verifyChain sha256 rows' = (true, none))
    (hlast : lastEntryHash rows = lastEntryHash rows') :
    rows.map OperationRow.payloadJson = rows'.map OperationRow.payloadJson := by
  have hpayloads := payloads_eq (binding_links collisionFree hrows hrows')
    (verifyChain_iff.mp hrows) (verifyChain_iff.mp hrows')
    (by rw [← lastEntryHash_eq, ← lastEntryHash_eq, hlast])
  rw [List.map_map, List.map_map] at hpayloads
  exact hpayloads

/-- The last entry hash of a verified table fixes its payloads: a table with other payloads and the
same last hash is reported. -/
theorem verifyChain_tamper_evident (hrows : verifyChain sha256 rows = (true, none))
    (collisionFree : CollisionFree sha256 (hashedTexts sha256 rows ++ hashedTexts sha256 rows'))
    (hlast : lastEntryHash rows = lastEntryHash rows') :
    (verifyChain sha256 rows' = (true, none) →
      rows.map OperationRow.payloadJson = rows'.map OperationRow.payloadJson) ∧
    (rows.map OperationRow.payloadJson ≠ rows'.map OperationRow.payloadJson →
      ∃ message, verifyChain sha256 rows' = (false, some message)) := by
  constructor
  · intro hrows'
    exact payloads_of_verified collisionFree hrows hrows' hlast
  · intro hne
    rcases verifyRows_cases genesisHash with hrows' | hreported
    · exact absurd (payloads_of_verified collisionFree hrows hrows' hlast) hne
    · exact hreported

end evidence

/-- Two rows with their digests; the name of the second action is no part of what is hashed. -/
def twoRows (action : String) : List OperationRow :=
  let first := PyStr.ofString "5508d2b710e64bc470079e1b211d9c58e21011e59d0559e422345dc19d659a75"
  let second := PyStr.ofString "2a1cbe89db7eb01351dcf953c37aa40d678d3eff7513ff2bbd0f42928dbe4c43"
  [⟨1, PyStr.ofString "a", [], none, PyStr.ofString "connect", 0, PyStr.ofString "{}", genesisHash, first⟩,
   ⟨2, PyStr.ofString "b", [], none, PyStr.ofString action, 0, PyStr.ofString "[]", first, second⟩]

def twoDigests : PyStr → PyStr :=
  digestOf ((twoRows "flash").map fun row => (row.previousHash ++ row.payloadJson, row.entryHash))

theorem verifyChain_tamper_evident_two :
    (verifyChain twoDigests (twoRows "erase") = (true, none) →
      (twoRows "flash").map OperationRow.payloadJson = (twoRows "erase").map OperationRow.payloadJson) ∧
    ((twoRows "flash").map OperationRow.payloadJson ≠ (twoRows "erase").map OperationRow.payloadJson →
      ∃ message, verifyChain twoDigests (twoRows "erase") = (false, some message)) :=
  verifyChain_tamper_evident (by decide)
    ⟨by decide, by decide, by decide⟩ (by decide)

end JLinkMcp.Audit
