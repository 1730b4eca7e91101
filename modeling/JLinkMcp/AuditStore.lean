import JLinkMcp.HashChain
import JLinkMcp.HostJson

namespace JLinkMcp.Audit

open HashChain Host

/-- A row of the table `operations`. The texts of SQLite are valid UTF-8, so that `encode` never
fails for them. -/
structure OperationRow where
  sequence : Nat
  operationId : PyStr
  createdAt : PyStr
  probeSerial : Option PyStr
  action : PyStr
  destructive : Int
  payloadJson : PyStr
  previousHash : PyStr
  entryHash : PyStr
  deriving DecidableEq

/-- `"0" * 64` -/
def genesisHash : PyStr := List.replicate 64 48

/-- `SELECT entry_hash FROM operations ORDER BY sequence DESC LIMIT 1`, or what stands for no row.
The rows of a table are in the order of their sequence. -/
def lastEntryHash (rows : List OperationRow) : PyStr :=
  (rows.getLast?.map OperationRow.entryHash).getD genesisHash

section hash

-- `hashlib.sha256(text.encode("utf-8")).hexdigest()`
variable (sha256 : PyStr → PyStr)

def entryHash (previousHash payloadJson : PyStr) : PyStr := sha256 (previousHash ++ payloadJson)

/-- The loop of `verify_chain`. -/
def verifyRows : PyStr → List OperationRow → Bool × Option PyStr
  | _, [] => (true, none)
  | previousHash, row :: rows =>
    if row.previousHash ≠ previousHash then
      (false, some (PyStr.ofString s!"chain link mismatch at sequence {row.sequence}"))
    else
      let expected := entryHash sha256 previousHash row.payloadJson
      if row.entryHash ≠ expected then
        (false, some (PyStr.ofString s!"entry hash mismatch at sequence {row.sequence}"))
      else verifyRows expected rows

def verifyChain (rows : List OperationRow) : Bool × Option PyStr := verifyRows sha256 genesisHash rows

end hash

/-- A hash function given by the digests of a few texts. -/
def digestOf (digests : List (PyStr × PyStr)) (text : PyStr) : PyStr :=
  match digests.find? fun item => item.1 = text with
  | some item => item.2
  | none => List.replicate 64 102

/-- What the chain covers of a row. -/
def OperationRow.link (row : OperationRow) : Link PyStr PyStr :=
  ⟨row.previousHash, row.payloadJson, row.entryHash⟩

section verify

variable {sha256 : PyStr → PyStr} {rows : List OperationRow}

theorem verifyRows_iff {head : PyStr} : verifyRows sha256 head rows = (true, none) ↔
    Chained (entryHash sha256) head (rows.map OperationRow.link) := by
  induction rows generalizing head with
  | nil => exact ⟨fun _ => trivial, fun _ => rfl⟩
  | cons row rows ih =>
    rw [verifyRows]
    constructor
    · intro h
      split at h
      next => cases h
      next hprevious =>
        dsimp only at h
        split at h
        next => cases h
        next hdigest =>
          have hdigest := not_not.mp hdigest
          rw [← hdigest] at h
          exact ⟨not_not.mp hprevious, hdigest, ih.mp h⟩
    · rintro ⟨hprevious, hdigest, hrest⟩
      have hprevious : row.previousHash = head := hprevious
      have hdigest : row.entryHash = entryHash sha256 head row.payloadJson := hdigest
      rw [if_neg (not_not.mpr hprevious)]
      dsimp only
      rw [if_neg (not_not.mpr hdigest), ← hdigest]
      exact ih.mpr hrest

/-- `verify_chain` accepts the chains, and nothing else. -/
theorem verifyChain_iff : verifyChain sha256 rows = (true, none) ↔
    Chained (entryHash sha256) genesisHash (rows.map OperationRow.link) := verifyRows_iff

theorem lastEntryHash_eq : lastEntryHash rows = last genesisHash (rows.map OperationRow.link) := by
  rcases List.eq_nil_or_concat rows with rfl | ⟨rows, row, rfl⟩
  · rfl
  · rw [List.concat_eq_append, List.map_append, List.map_singleton, last_concat, lastEntryHash,
      List.getLast?_concat]
    rfl

/-- A row may follow where it holds the last hash and its own. -/
theorem verifyChain_concat {row : OperationRow} : verifyChain sha256 (rows ++ [row]) = (true, none) ↔
    verifyChain sha256 rows = (true, none) ∧ row.previousHash = lastEntryHash rows ∧
      row.entryHash = entryHash sha256 row.previousHash row.payloadJson := by
  rw [verifyChain_iff, verifyChain_iff, List.map_append, List.map_singleton, chained_concat,
    lastEntryHash_eq]
  rfl

end verify

end JLinkMcp.Audit
