import JLinkMcp.AuditEvidence
import JLinkMcp.AuditResult
import Mathlib.Data.List.Forall2

namespace JLinkMcp.Audit

open Host

/-- One dictionary of what `list_operations` returns. -/
structure ListedOperation where
  sequence : Nat
  operationId : PyStr
  createdAt : PyStr
  probeSerial : Option PyStr
  action : PyStr
  destructive : Bool
  payloadJson : PyStr
  previousHash : PyStr
  entryHash : PyStr
  payload : PyJson

def OperationRow.listed (row : OperationRow) (payload : PyJson) : ListedOperation where
  sequence := row.sequence
  operationId := row.operationId
  createdAt := row.createdAt
  probeSerial := row.probeSerial
  action := row.action
  destructive := row.destructive != 0
  payloadJson := row.payloadJson
  previousHash := row.previousHash
  entryHash := row.entryHash
  payload := payload

/-- `list_operations(limit=limit)` -/
def listOperations (depth : Nat) (rows : List OperationRow) (limit : Int) :
    Except PyError (List ListedOperation) :=
  if 1 ≤ limit ∧ limit ≤ 1000 then
    (rows.reverse.take limit.toNat).mapM fun row => do
      return row.listed (← loads depth row.payloadJson)
  else .error (.valueError "limit must be between 1 and 1000")

/-- What the row reports is what its payload holds. -/
structure ListedOperation.ColumnsAgree (operation : ListedOperation) : Prop where
  operationId : (operation.payload.get? "result").bind (fun result => result.get? "operation_id") =
    some (.str operation.operationId)
  probeSerial : operation.payload.get? "probe_serial" = some (textOrNull operation.probeSerial)
  action : operation.payload.get? "action" = some (.str operation.action)
  destructive : operation.payload.get? "destructive" = some (.bool operation.destructive)

/-- A call of `append_operation` wrote the columns and the payload of the row, and its payload is one
that JSON carries at this depth. -/
def OperationRow.Appended (depth : Nat) (row : OperationRow) : Prop :=
  ∃ call : AppendCall, ∃ sha256 : PyStr → PyStr, Dumpable depth call.payload ∧
    row = call.row sha256 row.sequence row.createdAt row.previousHash

section listing

variable {sha256 : PyStr → PyStr} {depth : Nat} {rows : List OperationRow} {operations : List ListedOperation}

theorem listOperations_single {row : OperationRow} {payload : PyJson}
    (h : loads depth row.payloadJson = .ok payload) :
    listOperations depth [row] 100 = .ok [row.listed payload] := by
  rw [listOperations, if_pos (by decide)]
  change [row].mapM _ = _
  rw [List.mapM_cons, h]
  rfl

/-- Rows that calls wrote are all read. -/
theorem listOperations_of_appended (appended : ∀ row ∈ rows, row.Appended depth) {limit : Int}
    (within : 1 ≤ limit ∧ limit ≤ 1000) : ∃ operations, listOperations depth rows limit = .ok operations ∧
      operations.length = min limit.toNat rows.length := by
  have hread : ∀ row ∈ rows.reverse.take limit.toNat, ∃ payload, loads depth row.payloadJson = .ok payload := by
    intro row hrow
    obtain ⟨call, _, dumpable, hcall⟩ := appended row (List.mem_reverse.mp (List.mem_of_mem_take hrow))
    have htext : row.payloadJson = dumps call.payload := congrArg OperationRow.payloadJson hcall
    rw [htext]
    exact ⟨_, loads_dumps dumpable⟩
  have : Nonempty PyJson := ⟨.null⟩
  choose! payload hpayload using hread
  refine ⟨(rows.reverse.take limit.toNat).map fun row => row.listed (payload row), ?_, ?_⟩
  · rw [listOperations, if_pos within]
    refine Except.mapM_ok fun row hrow => ?_
    rw [hpayload row hrow]
    rfl
  · rw [List.length_map, List.length_take, List.length_reverse]

/-- A row that is listed stands in the table, and its payload is the JSON that it holds. -/
theorem listed_of_mem {limit : Int} (listed : listOperations depth rows limit = .ok operations) :
    ∀ operation ∈ operations, ∃ row ∈ rows, ∃ payload, loads depth row.payloadJson = .ok payload ∧
      operation = row.listed payload := by
  intro operation hoperation
  rw [listOperations] at listed
  split at listed
  next =>
    obtain ⟨row, hrow, hlisted⟩ := Except.mem_of_mapM_ok listed operation hoperation
    cases hpayload : loads depth row.payloadJson with
    | error e => rw [hpayload] at hlisted; cases hlisted
    | ok payload =>
      rw [hpayload] at hlisted
      cases hlisted
      exact ⟨row, List.mem_reverse.mp (List.mem_of_mem_take hrow), payload, hpayload, rfl⟩
  next => cases listed

theorem nodup_modelDump (result : CommandResult) : (result.dumpedFields.map Prod.fst).Nodup := by
  have hnames : result.dumpedFields.map Prod.fst =
      ["operation_id", "session_id", "backend", "command", "started_at", "finished_at", "duration_ms",
       "return_code", "timed_out", "stdout", "stderr", "parsed", "warnings", "target_state_before",
       "target_state_after", "artifact_hashes", "evidence_paths", "probe_identity", "target_identity",
       "ok"].map PyStr.ofString := rfl
  rw [hnames]
  decide +kernel

theorem nodup_payload (call : AppendCall) : (call.payloadFields.map Prod.fst).Nodup := by
  have hnames : call.payloadFields.map Prod.fst =
      ["action", "probe_serial", "destructive", "request", "result"].map PyStr.ofString := rfl
  rw [hnames]
  decide +kernel

theorem modelDump_get? {result : CommandResult} {name : String} {value : PyJson} (i : Nat)
    (h : result.dumpedFields[i]? = some (field name value)) :
    result.modelDump.sorted.get? name = some value.sorted :=
  get?_sorted (nodup_modelDump result) (List.mem_of_getElem? h)

theorem payload_get? {call : AppendCall} {name : String} {value : PyJson} (i : Nat)
    (h : call.payloadFields[i]? = some (field name value)) :
    call.payload.sorted.get? name = some value.sorted :=
  get?_sorted (nodup_payload call) (List.mem_of_getElem? h)

theorem sorted_textOrNull (text : Option PyStr) : (textOrNull text).sorted = textOrNull text := by
  cases text <;> rfl

theorem columnsAgree_of_appended {row : OperationRow} {payload : PyJson} (appended : row.Appended depth)
    (hpayload : loads depth row.payloadJson = .ok payload) : (row.listed payload).ColumnsAgree := by
  obtain ⟨call, sha256, dumpable, hrow⟩ := appended
  have hloads := loads_dumps dumpable
  rw [hrow, show (call.row sha256 _ _ _).payloadJson = dumps call.payload from rfl, hloads] at hpayload
  cases hpayload
  rw [hrow]
  have hresult : call.payload.sorted.get? "result" = some call.result.modelDump.sorted := payload_get? 4 rfl
  have hoperation : call.result.modelDump.sorted.get? "operation_id" = some (.str call.result.operationId) :=
    modelDump_get? 0 rfl
  have hprobe : call.payload.sorted.get? "probe_serial" = some (textOrNull call.probeSerial).sorted :=
    payload_get? 1 rfl
  have haction : call.payload.sorted.get? "action" = some (.str call.action) := payload_get? 0 rfl
  have hdestructive : call.payload.sorted.get? "destructive" = some (.bool call.destructive) :=
    payload_get? 2 rfl
  rw [sorted_textOrNull] at hprobe
  generalize call.payload.sorted = payload at hresult hprobe haction hdestructive ⊢
  constructor
  · change (payload.get? "result").bind _ = _
    rw [hresult, Option.bind_some, hoperation]
    rfl
  · exact hprobe
  · exact haction
  · refine hdestructive.trans ?_
    cases hd : call.destructive <;> simp [OperationRow.listed, AppendCall.row, hd]

/-- What `verify_chain` reads is the same in both rows. -/
def SameLink (row row' : OperationRow) : Prop := row'.sequence = row.sequence ∧ row'.link = row.link

/-- The verifier reads nothing but the sequence and what is linked. -/
theorem verifyRows_sameLink {rows' : List OperationRow} (same : List.Forall₂ SameLink rows rows')
    (head : PyStr) : verifyRows sha256 head rows' = verifyRows sha256 head rows := by
  induction same generalizing head with
  | nil => rfl
  | @cons row row' rows rows' hrow hrows ih =>
    obtain ⟨hsequence, hlink⟩ := hrow
    have hprevious : row'.previousHash = row.previousHash := congrArg HashChain.Link.previous hlink
    have hpayload : row'.payloadJson = row.payloadJson := congrArg HashChain.Link.payload hlink
    have hentry : row'.entryHash = row.entryHash := congrArg HashChain.Link.digest hlink
    simp only [verifyRows, hsequence, hprevious, hpayload, hentry, ih]

/-- Of a listed row the chain covers the payload and the hashes: the payload is the JSON of the text
that is hashed, and the columns agree with it where they are still those that were appended. An
edit of the columns alone is not seen. -/
theorem listOperations_covered {limit : Int} (verified : verifyChain sha256 rows = (true, none))
    (listed : listOperations depth rows limit = .ok operations) :
    (∀ operation ∈ operations, ∃ row ∈ rows, operation = row.listed operation.payload ∧
      loads depth operation.payloadJson = .ok operation.payload ∧
      operation.entryHash = entryHash sha256 operation.previousHash operation.payloadJson ∧
      (row.Appended depth → operation.ColumnsAgree)) ∧
    ∀ edited, List.Forall₂ SameLink rows edited → verifyChain sha256 edited = (true, none) := by
  refine ⟨fun operation hoperation => ?_, fun edited same =>
    (verifyRows_sameLink same genesisHash).trans verified⟩
  obtain ⟨row, hrow, payload, hpayload, rfl⟩ := listed_of_mem listed operation hoperation
  have hentry := HashChain.digest_of_mem (verifyChain_iff.mp verified) (List.mem_map_of_mem hrow)
  exact ⟨row, hrow, rfl, hpayload, hentry, fun appended => columnsAgree_of_appended appended hpayload⟩

end listing

/-- A call that writes an operation of this action. -/
def listedCall (operationId action : String) (destructive : Bool) : AppendCall where
  store := 0
  result :=
    { operationId := PyStr.ofString operationId
      backend := PyStr.ofString "commander"
      command := [PyStr.ofString "JLinkExe"]
      startedAt := PyStr.ofString "2026-01-01T00:00:00Z"
      finishedAt := PyStr.ofString "2026-01-01T00:00:00Z"
      durationMs := 0
      returnCode := some 0 }
  action := PyStr.ofString action
  probeSerial := some (PyStr.ofString "123")
  destructive := destructive

/-- The rows that two calls wrote one after the other. -/
def listedRows : List OperationRow :=
  let first := (listedCall "a" "connect" false).row twoDigests 1 (PyStr.ofString "2026-01-01T00:00:00Z") genesisHash
  let second := (listedCall "b" "flash" true).row twoDigests 2 (PyStr.ofString "2026-01-01T00:00:01Z") first.entryHash
  [first, second]

theorem listedRows_appended : ∀ row ∈ listedRows, row.Appended 10 := by
  intro row hrow
  rcases List.mem_pair.mp hrow with rfl | rfl
  · exact ⟨listedCall "a" "connect" false, twoDigests, dumpable_of_isDumpable (by decide +kernel), rfl⟩
  · exact ⟨listedCall "b" "flash" true, twoDigests, dumpable_of_isDumpable (by decide +kernel), rfl⟩

/-- Both rows are listed, with columns that agree with their payloads. -/
theorem listOperations_covered_two : ∃ operations, listOperations 10 listedRows 100 = .ok operations ∧
    operations.length = 2 ∧ ∀ operation ∈ operations, operation.ColumnsAgree := by
  obtain ⟨operations, listed, hlength⟩ := listOperations_of_appended listedRows_appended (show 1 ≤ (100 : Int) ∧ (100 : Int) ≤ 1000 by decide)
  have verified : verifyChain twoDigests listedRows = (true, none) :=
    verifyChain_iff.mpr ⟨rfl, rfl, rfl, rfl, trivial⟩
  refine ⟨operations, listed, hlength, fun operation hoperation => ?_⟩
  obtain ⟨row, hrow, -, -, -, agree⟩ := (listOperations_covered verified listed).1 operation hoperation
  exact agree (listedRows_appended row hrow)

/-- The row of a `connect` after its action was changed to `flash`. -/
def editedRow : OperationRow where
  sequence := 1
  operationId := PyStr.ofString "a"
  createdAt := PyStr.ofString "2026-01-01T00:00:00+00:00"
  probeSerial := some (PyStr.ofString "123")
  action := PyStr.ofString "flash"
  destructive := 0
  payloadJson := PyStr.ofString "\x7b\"action\":\"connect\",\"destructive\":false," ++
    PyStr.ofString "\"probe_serial\":\"123\",\"request\":\x7b\x7d," ++
    PyStr.ofString "\"result\":\x7b\"operation_id\":\"a\"\x7d\x7d"
  previousHash := genesisHash
  entryHash := PyStr.ofString "05f9b0bd6da47cb498e755ec1dc1b0820cb57a6b3f8a3c2b45fc9abf33830926"

def editedDigest : PyStr → PyStr :=
  digestOf [(genesisHash ++ editedRow.payloadJson, editedRow.entryHash)]

theorem listOperations_reports_edit :
    verifyChain editedDigest [editedRow] = (true, none) ∧
      ∃ operations, listOperations 10 [editedRow] 100 = .ok operations ∧
        ∃ operation ∈ operations, ¬operation.ColumnsAgree := by
  have haction : (loads 10 editedRow.payloadJson).toOption.bind (fun payload =>
      (payload.get? "action").bind fun | .str text => some text | _ => none) =
        some (PyStr.ofString "connect") := by decide +kernel
  obtain ⟨payload, hpayload, haction⟩ := Option.bind_eq_some_iff.mp haction
  obtain ⟨value, hvalue, htext⟩ := Option.bind_eq_some_iff.mp haction
  have hloads : loads 10 editedRow.payloadJson = .ok payload := by
    cases hcase : loads 10 editedRow.payloadJson with
    | error e => rw [hcase] at hpayload; cases hpayload
    | ok found => rw [hcase] at hpayload; cases hpayload; rfl
  refine ⟨by decide +kernel, [editedRow.listed payload], ?_, _, List.mem_singleton_self _, fun agree => ?_⟩
  · exact listOperations_single hloads
  · have hflash := hvalue.symm.trans agree.action
    cases Option.some.inj hflash
    have hne : PyStr.ofString "flash" ≠ PyStr.ofString "connect" := by decide
    exact hne (Option.some.inj htext)

end JLinkMcp.Audit
