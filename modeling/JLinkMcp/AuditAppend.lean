import JLinkMcp.AuditResult
import JLinkMcp.StepRuns
import Mathlib.Data.List.FinRange
import Mathlib.Logic.Function.Basic

namespace JLinkMcp.Audit

open Host StepRuns

/-- Where a call of `append_operation` stands. -/
inductive Phase where
  | waiting
  | locked
  | selected (previousHash : PyStr)
  | inserted (row : OperationRow)
  | committed (entryHash : PyStr)
  | returned (entryHash : PyStr)
  | raised
  deriving DecidableEq

/-- The call is inside of `with self._lock`. -/
def Phase.holdsLock : Phase → Bool
  | locked | selected _ | inserted _ | committed _ => true
  | _ => false

/-- The connection of the call is in a transaction that writes. -/
def Phase.isInserted : Phase → Bool
  | inserted _ => true
  | _ => false

def Phase.isSelected : Phase → Bool
  | selected _ => true
  | _ => false

def Phase.isReturned : Phase → Bool
  | returned _ => true
  | _ => false

/-- The row of the call is in the table. -/
def Phase.isStored : Phase → Bool
  | committed _ | returned _ => true
  | _ => false

/-- What the calls do one after the other, each in its own thread and on the connection that it opened;
`insert` is given the time it reads. -/
inductive Statement where
  | lock
  | select
  | insert (createdAt : PyStr)
  | commit
  | unlock
  | raise
  deriving DecidableEq

/-- The committed rows of the database file, the last number of `sqlite_sequence` and the calls. -/
structure Database (n : Nat) where
  rows : List OperationRow
  sequence : Nat
  phase : Fin n → Phase

variable {n : Nat}

/-- A database file on which no call has begun. -/
def Database.opened (rows : List OperationRow) (sequence : Nat) : Database n :=
  ⟨rows, sequence, fun _ => .waiting⟩

def Database.enter (s : Database n) (i : Fin n) (phase : Phase) : Database n :=
  { s with phase := Function.update s.phase i phase }

/-- The row becomes visible to every connection. -/
def Database.store (s : Database n) (i : Fin n) (row : OperationRow) : Database n :=
  ⟨s.rows ++ [row], row.sequence, Function.update s.phase i (.committed row.entryHash)⟩

/-- `UNIQUE` of `operation_id` and `entry_hash` -/
def Database.admits (s : Database n) (row : OperationRow) : Bool :=
  s.rows.all fun found => found.operationId ≠ row.operationId && found.entryHash ≠ row.entryHash

section calls

variable (sha256 : PyStr → PyStr) (calls : Fin n → AppendCall)

/-- One statement of the call `i`. The lock belongs to a store; the `SELECT` sees what is committed and
begins no transaction; the `INSERT` begins one and waits for every other writer; an exception rolls
back and leaves the lock. -/
def appendStep (s : Database n) (event : Fin n × Statement) : Option (Database n) :=
  let i := event.1
  match event.2, s.phase i with
  | .lock, .waiting =>
    if ∀ j, (calls j).store = (calls i).store → (s.phase j).holdsLock = false then
      some (s.enter i .locked)
    else none
  | .select, .locked => some (s.enter i (.selected (lastEntryHash s.rows)))
  | .insert createdAt, .selected previousHash =>
    if ∀ j, (s.phase j).isInserted = false then
      let row := (calls i).row sha256 (s.sequence + 1) createdAt previousHash
      some (s.enter i (if s.admits row then .inserted row else .raised))
    else none
  | .commit, .inserted row => some (s.store i row)
  | .unlock, .committed entryHash => some (s.enter i (.returned entryHash))
  | .raise, .waiting | .raise, .locked | .raise, .selected _ | .raise, .inserted _ =>
    some (s.enter i .raised)
  | _, _ => none

/-- What a statement of the call `i` can do. -/
inductive Moves (s : Database n) (i : Fin n) : Statement → Database n → Prop
  | lock (phase : s.phase i = .waiting)
      (free : ∀ j, (calls j).store = (calls i).store → (s.phase j).holdsLock = false) :
      Moves s i .lock (s.enter i .locked)
  | select (phase : s.phase i = .locked) : Moves s i .select (s.enter i (.selected (lastEntryHash s.rows)))
  | insert (createdAt previousHash : PyStr) (phase : s.phase i = .selected previousHash)
      (alone : ∀ j, (s.phase j).isInserted = false) :
      Moves s i (.insert createdAt)
        (s.enter i (.inserted ((calls i).row sha256 (s.sequence + 1) createdAt previousHash)))
  | commit (row : OperationRow) (phase : s.phase i = .inserted row) :
      Moves s i .commit (s.store i row)
  | unlock (entryHash : PyStr) (phase : s.phase i = .committed entryHash) :
      Moves s i .unlock (s.enter i (.returned entryHash))
  | raise (statement : Statement) (phase : (s.phase i).isStored = false) :
      Moves s i statement (s.enter i .raised)

theorem moves_of_appendStep {s s' : Database n} {i : Fin n} {statement : Statement}
    (h : appendStep sha256 calls s (i, statement) = some s') : Moves sha256 calls s i statement s' := by
  unfold appendStep at h
  dsimp only at h
  split at h
  next hphase =>
    split at h
    next hfree =>
      cases Option.some.inj h
      exact .lock hphase hfree
    next => cases h
  next hphase =>
    cases Option.some.inj h
    exact .select hphase
  next createdAt previousHash hphase =>
    split at h
    next halone =>
      cases Option.some.inj h
      split
      next => exact .insert createdAt previousHash hphase halone
      next => exact .raise _ (by rw [hphase]; rfl)
    next => cases h
  next row hphase =>
    cases Option.some.inj h
    exact .commit row hphase
  next entryHash hphase =>
    cases Option.some.inj h
    exact .unlock entryHash hphase
  next hphase =>
    cases Option.some.inj h
    exact .raise _ (by rw [hphase]; rfl)
  next hphase =>
    cases Option.some.inj h
    exact .raise _ (by rw [hphase]; rfl)
  next hphase =>
    cases Option.some.inj h
    exact .raise _ (by rw [hphase]; rfl)
  next hphase =>
    cases Option.some.inj h
    exact .raise _ (by rw [hphase]; rfl)
  next => cases h

end calls

/-- Nothing is committed while another call holds a last hash that it has read. -/
def commitsApart (s : Database n) (event : Fin n × Statement) : Prop :=
  event.2 = .commit → ∀ j, j ≠ event.1 → (s.phase j).isSelected = false

section kept

variable {sha256 : PyStr → PyStr} {calls : Fin n → AppendCall} {rows : List OperationRow}
  {s s' : Database n} {i : Fin n} {statement : Statement} {phase : Phase} {row : OperationRow}

theorem phase_enter_self : (s.enter i phase).phase i = phase := Function.update_self ..

theorem phase_enter_of_ne {j : Fin n} (ne : j ≠ i) : (s.enter i phase).phase j = s.phase j :=
  Function.update_of_ne ne ..

theorem rows_store : (s.store i row).rows = s.rows ++ [row] := rfl

theorem phase_store_self : (s.store i row).phase i = .committed row.entryHash := Function.update_self ..

theorem phase_store_of_ne {j : Fin n} (ne : j ≠ i) : (s.store i row).phase j = s.phase j :=
  Function.update_of_ne ne ..

/-- The row that the call writes, at the end of the chain. -/
def Follows (sha256 : PyStr → PyStr) (call : AppendCall) (rows : List OperationRow) (row : OperationRow) :
    Prop :=
  row.previousHash = lastEntryHash rows ∧ row.entryHash = entryHash sha256 row.previousHash row.payloadJson ∧
    row.payloadJson = call.payloadJson

/-- The table holds the rows it had and one for each of these calls. -/
structure Stores (calls : Fin n → AppendCall) (rows : List OperationRow) (s : Database n)
    (order : List (Fin n)) : Prop where
  nodup : order.Nodup
  mem : ∀ i, i ∈ order ↔ (s.phase i).isStored = true
  payloads : s.rows.map OperationRow.payloadJson =
    rows.map OperationRow.payloadJson ++ order.map fun i => (calls i).payloadJson

/-- The chain verifies, and what the calls have read and written fits its end. -/
structure ChainKept (sha256 : PyStr → PyStr) (calls : Fin n → AppendCall) (rows : List OperationRow)
    (s : Database n) : Prop where
  verified : verifyChain sha256 s.rows = (true, none)
  selected : ∀ i previousHash, s.phase i = .selected previousHash → previousHash = lastEntryHash s.rows
  inserted : ∀ i row, s.phase i = .inserted row → Follows sha256 (calls i) s.rows row
  alone : ∀ i j, (s.phase i).isInserted = true → (s.phase j).isInserted = true → i = j
  stored : ∃ order, Stores calls rows s order

theorem chainKept_opened {sequence : Nat} (verified : verifyChain sha256 rows = (true, none)) :
    ChainKept sha256 calls rows (.opened rows sequence) where
  verified := verified
  selected i previousHash h := by cases h
  inserted i row h := by cases h
  alone i j h := by cases h
  stored := by
    refine ⟨[], List.nodup_nil, fun i => iff_of_false List.not_mem_nil ?_, (List.append_nil _).symm⟩
    exact Bool.false_ne_true

/-- A call goes on without a change of the table. -/
theorem ChainKept.enter (kept : ChainKept sha256 calls rows s)
    (same : phase.isStored = (s.phase i).isStored)
    (hselected : ∀ previousHash, phase = .selected previousHash → previousHash = lastEntryHash s.rows)
    (hinserted : ∀ row, phase = .inserted row →
      Follows sha256 (calls i) s.rows row ∧ ∀ j, (s.phase j).isInserted = false) :
    ChainKept sha256 calls rows (s.enter i phase) where
  verified := kept.verified
  selected j previousHash h := by
    by_cases hj : j = i
    · rw [hj, phase_enter_self] at h
      exact hselected previousHash h
    · rw [phase_enter_of_ne hj] at h
      exact kept.selected j previousHash h
  inserted j row h := by
    by_cases hj : j = i
    · rw [hj, phase_enter_self] at h
      exact hj ▸ (hinserted row h).1
    · rw [phase_enter_of_ne hj] at h
      exact kept.inserted j row h
  alone j k hj hk := by
    have hother : ∀ l, l ≠ i → ((s.enter i phase).phase l).isInserted = true →
        (s.phase l).isInserted = true := by
      intro l hl h
      rwa [phase_enter_of_ne hl] at h
    have hnone : ((s.enter i phase).phase i).isInserted = true → ∀ l, (s.phase l).isInserted = false := by
      intro h
      rw [phase_enter_self] at h
      cases phase with
      | inserted row => exact (hinserted row rfl).2
      | _ => cases h
    by_cases hji : j = i
    · by_cases hki : k = i
      · rw [hji, hki]
      · have hno := hnone (hji ▸ hj) k
        rw [hother k hki hk] at hno
        cases hno
    · by_cases hki : k = i
      · have hno := hnone (hki ▸ hk) j
        rw [hother j hji hj] at hno
        cases hno
      · exact kept.alone j k (hother j hji hj) (hother k hki hk)
  stored := by
    obtain ⟨order, hnodup, hmem, hpayloads⟩ := kept.stored
    refine ⟨order, hnodup, fun j => ?_, hpayloads⟩
    by_cases hj : j = i
    · rw [hj, phase_enter_self, same]
      exact hmem i
    · rw [phase_enter_of_ne hj]
      exact hmem j

/-- A commit that no other call has read past puts the row at the end of the chain. -/
theorem ChainKept.commit (kept : ChainKept sha256 calls rows s) (phase : s.phase i = .inserted row)
    (apart : ∀ j, j ≠ i → (s.phase j).isSelected = false) :
    ChainKept sha256 calls rows (s.store i row) := by
  obtain ⟨hprevious, hentry, hpayload⟩ := kept.inserted i row phase
  have halone : ∀ j, j ≠ i → (s.phase j).isInserted = false := fun j hj => by
    rw [Bool.eq_false_iff]
    intro hinserted
    exact hj (kept.alone j i hinserted (by rw [phase]; rfl))
  constructor
  · exact verifyChain_concat.mpr ⟨kept.verified, hprevious, hentry⟩
  · intro j previousHash h
    have hj : j ≠ i := fun hj => by rw [hj, phase_store_self] at h; cases h
    rw [phase_store_of_ne hj] at h
    have hnone := apart j hj
    rw [h] at hnone
    cases hnone
  · intro j found h
    have hj : j ≠ i := fun hj => by rw [hj, phase_store_self] at h; cases h
    rw [phase_store_of_ne hj] at h
    have hnone := halone j hj
    rw [h] at hnone
    cases hnone
  · intro j k hj hk
    have hne : j ≠ i := fun hji => by rw [hji, phase_store_self] at hj; cases hj
    rw [phase_store_of_ne hne, halone j hne] at hj
    cases hj
  · obtain ⟨order, hnodup, hmem, hpayloads⟩ := kept.stored
    have hnot : i ∉ order := fun h => by
      have hstored := (hmem i).mp h
      rw [phase] at hstored
      cases hstored
    refine ⟨order ++ [i], List.nodup_append.mpr ⟨hnodup, List.nodup_singleton i, ?_⟩, fun j => ?_, ?_⟩
    · intro j hj k hk hjk
      rw [List.mem_singleton] at hk
      exact hnot (hk ▸ hjk ▸ hj)
    · rw [List.mem_append, List.mem_singleton]
      by_cases hj : j = i
      · rw [hj, phase_store_self]
        exact iff_of_true (.inr rfl) rfl
      · rw [phase_store_of_ne hj, or_iff_left hj]
        exact hmem j
    · rw [rows_store, List.map_append, List.map_append, hpayloads, List.append_assoc, List.map_singleton,
        List.map_singleton, hpayload]

theorem ChainKept.moves (kept : ChainKept sha256 calls rows s) (apart : commitsApart s (i, statement))
    (moves : Moves sha256 calls s i statement s') : ChainKept sha256 calls rows s' := by
  cases moves with
  | lock phase free => exact kept.enter (by rw [phase]; rfl) nofun nofun
  | select phase =>
    refine kept.enter (by rw [phase]; rfl) (fun previousHash h => ?_) nofun
    cases h
    rfl
  | insert createdAt previousHash phase alone =>
    refine kept.enter (by rw [phase]; rfl) nofun (fun row h => ?_)
    cases h
    exact ⟨⟨kept.selected i previousHash phase, rfl, rfl⟩, alone⟩
  | commit row phase => exact kept.commit phase (apart rfl)
  | unlock entryHash phase => exact kept.enter (by rw [phase]; rfl) nofun nofun
  | raise statement phase => exact kept.enter (by rw [phase]; rfl) nofun nofun

theorem chainKept_of_reached {sequence : Nat} (verified : verifyChain sha256 rows = (true, none))
    (reached : Reached (appendStep sha256 calls) commitsApart (.opened rows sequence) s) :
    ChainKept sha256 calls rows s :=
  reached.invariant (chainKept_opened verified)
    fun _ _ _ kept apart h => kept.moves apart (moves_of_appendStep sha256 calls h)

theorem isStored_of_isReturned (h : phase.isReturned = true) : phase.isStored = true := by
  cases phase with
  | returned entryHash => rfl
  | _ => cases h

/-- All calls have returned. -/
def Database.allReturned (s : Database n) : Prop := ∀ i, (s.phase i).isReturned = true

/-- The table holds what it held before and every payload of the calls exactly once. -/
def HoldsPayloads (calls : Fin n → AppendCall) (rows rows' : List OperationRow) : Prop :=
  ∃ order : List (Fin n), order.Perm (List.finRange n) ∧ rows'.map OperationRow.payloadJson =
    rows.map OperationRow.payloadJson ++ order.map fun i => (calls i).payloadJson

/-- Where calls commit apart from the reads of the others, every table on the way verifies, and the
last one holds every payload. -/
theorem verifyChain_of_commitsApart {sequence : Nat} (verified : verifyChain sha256 rows = (true, none))
    (reached : Reached (appendStep sha256 calls) commitsApart (.opened rows sequence) s) :
    verifyChain sha256 s.rows = (true, none) ∧ (s.allReturned → HoldsPayloads calls rows s.rows) := by
  have kept := chainKept_of_reached verified reached
  refine ⟨kept.verified, fun returned => ?_⟩
  obtain ⟨order, hnodup, hmem, hpayloads⟩ := kept.stored
  refine ⟨order, (List.perm_ext_iff_of_nodup hnodup (List.nodup_finRange n)).mpr fun i => ?_, hpayloads⟩
  exact iff_of_true ((hmem i).mpr (isStored_of_isReturned (returned i))) (List.mem_finRange i)

/-- Two calls on one store are never both inside of its lock. -/
def LocksKept (calls : Fin n → AppendCall) (s : Database n) : Prop :=
  ∀ i j, (calls i).store = (calls j).store →
    (s.phase i).holdsLock = true → (s.phase j).holdsLock = true → i = j

theorem LocksKept.of_phases (kept : LocksKept calls s)
    (hother : ∀ j, j ≠ i → s'.phase j = s.phase j)
    (hself : (s'.phase i).holdsLock = true → (s.phase i).holdsLock = true ∨
      ∀ j, (calls j).store = (calls i).store → (s.phase j).holdsLock = false) : LocksKept calls s' := by
  have hfree : ∀ j, j ≠ i → (calls j).store = (calls i).store → (s'.phase i).holdsLock = true →
      (s'.phase j).holdsLock = true → False := by
    intro j hj hstore hi hlock
    rw [hother j hj] at hlock
    rcases hself hi with hheld | hfree
    · exact hj (kept j i hstore hlock hheld)
    · rw [hfree j hstore] at hlock
      cases hlock
  intro j k hstore hj hk
  by_cases hji : j = i
  · by_cases hki : k = i
    · rw [hji, hki]
    · exact (hfree k hki (hji ▸ hstore.symm) (hji ▸ hj) hk).elim
  · by_cases hki : k = i
    · exact (hfree j hji (hki ▸ hstore) (hki ▸ hk) hj).elim
    · rw [hother j hji] at hj
      rw [hother k hki] at hk
      exact kept j k hstore hj hk

theorem LocksKept.moves (kept : LocksKept calls s) (moves : Moves sha256 calls s i statement s') :
    LocksKept calls s' := by
  cases moves with
  | lock phase free => exact kept.of_phases (fun j hj => phase_enter_of_ne hj) fun _ => .inr free
  | select phase => exact kept.of_phases (fun j hj => phase_enter_of_ne hj) fun _ => .inl (by rw [phase]; rfl)
  | insert createdAt previousHash phase alone =>
    exact kept.of_phases (fun j hj => phase_enter_of_ne hj) fun _ => .inl (by rw [phase]; rfl)
  | commit row phase =>
    exact kept.of_phases (fun j hj => phase_store_of_ne hj) fun _ => .inl (by rw [phase]; rfl)
  | unlock entryHash phase =>
    exact kept.of_phases (fun j hj => phase_enter_of_ne hj) fun _ => .inl (by rw [phase]; rfl)
  | raise statement phase =>
    refine kept.of_phases (fun j hj => phase_enter_of_ne hj) fun h => ?_
    rw [phase_enter_self] at h
    cases h

theorem inserted_of_commit (h : appendStep sha256 calls s (i, .commit) = some s') :
    ∃ row, s.phase i = .inserted row := by
  cases hphase : s.phase i with
  | inserted row => exact ⟨row, rfl⟩
  | _ => simp [appendStep, hphase] at h

/-- The lock of one store keeps its calls apart. -/
theorem commitsApart_of_oneStore {sequence : Nat} (oneStore : ∀ i j, (calls i).store = (calls j).store)
    (reached : Reached (appendStep sha256 calls) anyStep (.opened rows sequence) s) :
    Reached (appendStep sha256 calls) commitsApart (.opened rows sequence) s := by
  have hopened : LocksKept calls (.opened rows sequence) := by
    intro i j _ h
    cases h
  refine reached.allowed_of_invariant hopened ?_ ?_
  · exact fun s event s' kept _ h => kept.moves (moves_of_appendStep sha256 calls h)
  · rintro s ⟨i, statement⟩ s' kept - h hcommit j hj
    rw [Bool.eq_false_iff]
    intro hselected
    have hlock : (s.phase j).holdsLock = true := by
      cases hphase : s.phase j with
      | selected previousHash => rfl
      | _ => rw [hphase] at hselected; cases hselected
    have hcommit : statement = .commit := hcommit
    rw [hcommit] at h
    obtain ⟨row, hrow⟩ := inserted_of_commit h
    have hheld : (s.phase i).holdsLock = true := by rw [hrow]; rfl
    exact hj (kept j i (oneStore j i) hlock hheld)

end kept

instance (s : Database n) (event : Fin n × Statement) : Decidable (commitsApart s event) :=
  inferInstanceAs (Decidable (event.2 = .commit → ∀ j, j ≠ event.1 → (s.phase j).isSelected = false))

instance (s : Database n) : Decidable s.allReturned :=
  inferInstanceAs (Decidable (∀ i, (s.phase i).isReturned = true))

/-- Two calls on the empty file that write an operation each, every one on its own store. -/
def twoCalls (i : Fin 2) : AppendCall where
  store := i.val
  result :=
    { operationId := PyStr.ofString (if i = 0 then "a" else "b")
      backend := PyStr.ofString "session"
      command := [PyStr.ofString "disconnect"]
      startedAt := PyStr.ofString "2026-01-01T00:00:00Z"
      finishedAt := PyStr.ofString "2026-01-01T00:00:00Z"
      durationMs := 0
      returnCode := some 0 }
  action := PyStr.ofString "disconnect"
  probeSerial := some (PyStr.ofString "123")
  destructive := false

def twoCallsHash : PyStr → PyStr :=
  let first := PyStr.ofString "2411c20305ccb9fcb94358c996b6aa030c67139582a0b7cc2ae180cdb7d43456"
  digestOf
    [(genesisHash ++ (twoCalls 0).payloadJson, first),
     (genesisHash ++ (twoCalls 1).payloadJson,
      PyStr.ofString "1a7e023694e8d954a05f223ce962bdc5f133c8c275dd4f918c45f5dd03098ddc"),
     (first ++ (twoCalls 1).payloadJson,
      PyStr.ofString "1504c06875b3aac1bdbed9a67e15f9baa0cec4b103dd36f14ef8744b9f67d9ba")]

def appendStatements (i : Fin 2) : List (Fin 2 × Statement) :=
  [(i, .lock), (i, .select), (i, .insert []), (i, .commit), (i, .unlock)]

/-- The same two calls on one store. -/
def sharedCalls (i : Fin 2) : AppendCall := { twoCalls i with store := 0 }

theorem verifyChain_of_commitsApart_two :
    ∃ s : Database 2, s.allReturned ∧ verifyChain twoCallsHash s.rows = (true, none) ∧
      (s.allReturned → HoldsPayloads sharedCalls [] s.rows) := by
  have hrun : (run (appendStep twoCallsHash sharedCalls) anyStep (.opened [] 0)
      (appendStatements 0 ++ appendStatements 1)).any (fun s => decide s.allReturned) = true := by
    decide +kernel
  obtain ⟨s, reached, hreturned⟩ := exists_reached_of_run hrun
  exact ⟨s, of_decide_eq_true hreturned,
    verifyChain_of_commitsApart rfl (commitsApart_of_oneStore (fun _ _ => rfl) reached)⟩

/-- Both calls read the last hash before either of them writes. -/
def bothSelect : List (Fin 2 × Statement) :=
  [(0, .lock), (0, .select), (1, .lock), (1, .select), (0, .insert []), (0, .commit), (0, .unlock),
   (1, .insert []), (1, .commit), (1, .unlock)]

/-- Both calls return normally, and the chain has a fork. -/
theorem verifyChain_fails_of_twoStores :
    ∃ s, Reached (appendStep twoCallsHash twoCalls) anyStep (.opened [] 0) s ∧ s.allReturned ∧
      verifyChain twoCallsHash s.rows ≠ (true, none) := by
  have hrun : (run (appendStep twoCallsHash twoCalls) anyStep (.opened [] 0) bothSelect).any (fun s =>
      decide (s.allReturned ∧ verifyChain twoCallsHash s.rows ≠ (true, none))) = true := by decide +kernel
  obtain ⟨s, reached, hforked⟩ := exists_reached_of_run hrun
  exact ⟨s, reached, of_decide_eq_true hforked⟩

end JLinkMcp.Audit
