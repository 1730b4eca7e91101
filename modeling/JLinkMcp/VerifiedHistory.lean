import JLinkMcp.GateRuns
import JLinkMcp.SelectorResolution

namespace JLinkMcp.Service

open Host Audit TaskProgram

/-- `items.get(name)` of an object that was dumped with sorted keys and loaded again. -/
def shownIn (items : JsonDict) (name : String) : PyJson := ((PyJson.dict items).sorted.get? name).getD .null

theorem shownIn_of_notMem {items : JsonDict} {name : String} (h : ∀ item ∈ items, item.1 ≠ PyStr.ofString name) :
    shownIn items name = .null := by
  have hnone : (PyJson.dict items).sorted.get? name = none := by
    rw [sorted_dict]
    refine Option.map_eq_none_iff.mpr (List.find?_eq_none.mpr fun pair hpair => ?_)
    obtain ⟨item, hitem, rfl⟩ := List.mem_map.mp hpair
    rw [decide_eq_true_iff]
    exact h item (mem_sortKeys.mp hitem)
  rw [shownIn, hnone]
  rfl

theorem shownIn_of_mem {items : JsonDict} {name : String} {value : PyJson} (nodup : (items.map Prod.fst).Nodup)
    (h : field name value ∈ items) : shownIn items name = value.sorted := by
  rw [shownIn, get?_sorted nodup h]
  rfl

theorem getOr_sorted {items : JsonDict} {name : String} {value default : PyJson}
    (h : (PyJson.dict items).sorted.get? name = some value) :
    getOr default (PyJson.dict items).sorted name = .ok value := by
  rw [sorted_dict] at h ⊢
  rw [getOr, h]
  rfl

theorem getOr_shownIn (items : JsonDict) (name : String) :
    getOr .null (PyJson.dict items).sorted name = .ok (shownIn items name) := by
  rw [shownIn, sorted_dict]
  rfl

section pairing

variable (floatTruth : PyStr → Bool)

/-- What `has_verified_target` looks for in a result. -/
def provesPair (boardSerial probeSerial : PyStr) (result : CommandResult) : Bool :=
  isText boardSerial (shownIn result.targetIdentity "board_serial") &&
    isText probeSerial (shownIn result.probeIdentity "serial") &&
    isTruthy floatTruth (shownIn result.targetIdentity "cpuid") &&
    isTruthy floatTruth (shownIn result.targetIdentity "dpidr")

variable {floatTruth} {depth : Nat} {boardSerial probeSerial : PyStr} {entry : AppendCall} {row : OperationRow}
  {result : CommandResult} {resolved : Resolved} {observed : Observed}

/-- One round of `has_verified_target` on a row whose payload is loaded. -/
theorem provesPairing_loaded {payload shown : PyJson} {target probe : JsonDict}
    (hpayload : loads depth row.payloadJson = .ok payload) (hresult : getOr (.dict []) payload "result" = .ok shown)
    (htarget : getOr (.dict []) shown "target_identity" = .ok (PyJson.dict target).sorted)
    (hprobe : getOr (.dict []) shown "probe_identity" = .ok (PyJson.dict probe).sorted) :
    provesPairing floatTruth depth boardSerial probeSerial row =
      .ok (isText boardSerial (shownIn target "board_serial") && isText probeSerial (shownIn probe "serial") &&
        isTruthy floatTruth (shownIn target "cpuid") && isTruthy floatTruth (shownIn target "dpidr")) := by
  have hbind : ∀ {α β : Type} (value : α) (next : α → Except PyError β), (Except.ok value >>= next) = next value :=
    fun _ _ => rfl
  simp only [provesPairing, hpayload, hresult, htarget, hprobe, getOr_shownIn, hbind]
  cases isText boardSerial (shownIn target "board_serial") with
  | false => rfl
  | true =>
    cases isText probeSerial (shownIn probe "serial") with
    | false => rfl
    | true =>
      cases isTruthy floatTruth (shownIn target "cpuid") with
      | false => rfl
      | true => rfl

/-- A row that was appended is read as it was written. -/
theorem provesPairing_row (hrow : row.payloadJson = entry.payloadJson) (dumpable : Dumpable depth entry.payload) :
    provesPairing floatTruth depth boardSerial probeSerial row =
      .ok (provesPair floatTruth boardSerial probeSerial entry.result) := by
  have hloads : loads depth row.payloadJson = .ok entry.payload.sorted := by
    rw [hrow]
    exact loads_dumps dumpable
  have hresult : entry.payload.sorted.get? "result" = some entry.result.modelDump.sorted := payload_get? 4 rfl
  have hprobe : entry.result.modelDump.sorted.get? "probe_identity" =
      some (PyJson.dict entry.result.probeIdentity).sorted := modelDump_get? 17 rfl
  have htarget : entry.result.modelDump.sorted.get? "target_identity" =
      some (PyJson.dict entry.result.targetIdentity).sorted := modelDump_get? 18 rfl
  exact provesPairing_loaded hloads (getOr_sorted hresult) (getOr_sorted htarget) (getOr_sorted hprobe)

theorem isText_textOrNull (text : PyStr) (value : Option PyStr) :
    isText text (textOrNull value) = decide (value = some text) := by
  cases value with
  | none => rfl
  | some value =>
    refine Bool.eq_iff_iff.mpr ?_
    rw [decide_eq_true_iff, Option.some_inj]
    exact beq_iff_eq

theorem isTruthy_hexText (hex : Option HexText) : isTruthy floatTruth (HexText.json hex) = hex.isSome := by
  cases hex <;> rfl

/-- The registers that a result which carries an identity shows. -/
theorem provesPair_of_carries (carries : Carries result resolved observed) :
    provesPair floatTruth boardSerial probeSerial result =
      (decide (resolved.boardSerial = some boardSerial) && decide (some resolved.probeSerial = some probeSerial) &&
        observed.cpuid.isSome && observed.dpidr.isSome) := by
  have target : ((attachedTarget resolved observed).map Prod.fst).Nodup :=
    (by decide +kernel : (["board_serial", "target_profile", "core", "observed_core", "cpuid", "dpidr",
      "target_voltage"].map PyStr.ofString).Nodup)
  have probe : ((attachedProbe resolved observed).map Prod.fst).Nodup :=
    (by decide +kernel : (["serial", "observed_serial", "firmware", "hardware_version", "licenses"].map
      PyStr.ofString).Nodup)
  have hboard : shownIn result.targetIdentity "board_serial" = textOrNull resolved.boardSerial := by
    rw [carries.target, shownIn_of_mem target (List.mem_of_getElem? (i := 0) rfl)]
    exact sorted_textOrNull _
  have hserial : shownIn result.probeIdentity "serial" = textOrNull (some resolved.probeSerial) := by
    rw [carries.probe, shownIn_of_mem probe (List.mem_of_getElem? (i := 0) rfl)]
    exact sorted_textOrNull (some resolved.probeSerial)
  have hcpuid : shownIn result.targetIdentity "cpuid" = HexText.json observed.cpuid := by
    rw [carries.target, shownIn_of_mem target (List.mem_of_getElem? (i := 4) rfl)]
    exact sorted_textOrNull _
  have hdpidr : shownIn result.targetIdentity "dpidr" = HexText.json observed.dpidr := by
    rw [carries.target, shownIn_of_mem target (List.mem_of_getElem? (i := 5) rfl)]
    exact sorted_textOrNull _
  rw [provesPair, hboard, hserial, hcpuid, hdpidr, isText_textOrNull, isText_textOrNull, isTruthy_hexText,
    isTruthy_hexText]

theorem provesPair_of_blank (blank : CommandResult.blank result = true) :
    provesPair floatTruth boardSerial probeSerial result = false := by
  have hcpuid : shownIn result.targetIdentity "cpuid" = .null :=
    shownIn_of_notMem fun item hitem => of_decide_eq_true (List.all_eq_true.mp blank item hitem)
  rw [provesPair, hcpuid]
  exact (congrArg (· && _) (Bool.and_false _)).trans (Bool.false_and _)

end pairing

/-- The one of the last items that give something. -/
theorem mem_take_reverse_filterMap {α β : Type} {give : α → Option β} {items : List α} {given : β} {n : Nat} :
    given ∈ (items.filterMap give).reverse.take n ↔ ∃ before item later, items = before ++ item :: later ∧
      give item = some given ∧ (later.filterMap give).length < n := by
  induction items using List.reverseRecOn generalizing n with
  | nil =>
    refine iff_of_false (by rw [List.filterMap_nil, List.reverse_nil, List.take_nil]; exact List.not_mem_nil) ?_
    rintro ⟨before, item, later, h, -⟩
    exact List.append_ne_nil_of_right_ne_nil before (List.cons_ne_nil item later) h.symm
  | append_singleton items last ih =>
    rw [List.filterMap_append]
    cases hlast : give last with
    | none =>
      rw [List.filterMap_cons_none hlast, List.filterMap_nil, List.append_nil, ih]
      constructor
      · rintro ⟨before, item, later, rfl, hitem, hlength⟩
        refine ⟨before, item, later ++ [last], by rw [List.append_assoc, List.cons_append], hitem, ?_⟩
        rw [List.filterMap_append, List.filterMap_cons_none hlast, List.filterMap_nil, List.append_nil]
        exact hlength
      · rintro ⟨before, item, later, h, hitem, hlength⟩
        rcases List.eq_nil_or_concat later with rfl | ⟨earlier, other, rfl⟩
        · obtain ⟨-, hsame⟩ := List.append_inj' h rfl
          cases (List.cons.inj hsame).1
          exact absurd (hlast.symm.trans hitem) (Option.some_ne_none _).symm
        · rw [List.concat_eq_append] at h hlength
          rw [← List.cons_append, ← List.append_assoc] at h
          obtain ⟨hitems, hsame⟩ := List.append_inj' h rfl
          cases (List.cons.inj hsame).1
          rw [List.filterMap_append, List.filterMap_cons_none hlast, List.filterMap_nil, List.append_nil] at hlength
          exact ⟨before, item, earlier, hitems, hitem, hlength⟩
    | some value =>
      rw [List.filterMap_cons_some hlast, List.filterMap_nil, List.reverse_append, List.reverse_singleton,
        List.singleton_append]
      cases n with
      | zero =>
        refine iff_of_false (by rw [List.take_zero]; exact List.not_mem_nil) ?_
        rintro ⟨_, _, _, -, -, hlength⟩
        exact Nat.not_lt_zero _ hlength
      | succ n =>
        rw [List.take_succ_cons, List.mem_cons, ih]
        constructor
        · rintro (rfl | ⟨before, item, later, rfl, hitem, hlength⟩)
          · exact ⟨items, last, [], rfl, hlast, Nat.succ_pos n⟩
          · refine ⟨before, item, later ++ [last], by rw [List.append_assoc, List.cons_append], hitem, ?_⟩
            rw [List.filterMap_append, List.filterMap_cons_some hlast, List.filterMap_nil, List.length_append]
            exact Nat.succ_lt_succ hlength
        · rintro ⟨before, item, later, h, hitem, hlength⟩
          rcases List.eq_nil_or_concat later with rfl | ⟨earlier, other, rfl⟩
          · obtain ⟨-, hsame⟩ := List.append_inj' h rfl
            cases (List.cons.inj hsame).1
            exact Or.inl (Option.some.inj (hitem.symm.trans hlast))
          · rw [List.concat_eq_append] at h hlength
            rw [← List.cons_append, ← List.append_assoc] at h
            obtain ⟨hitems, hsame⟩ := List.append_inj' h rfl
            cases (List.cons.inj hsame).1
            rw [List.filterMap_append, List.filterMap_cons_some hlast, List.filterMap_nil, List.length_append] at hlength
            exact Or.inr ⟨before, item, earlier, hitems, hitem, Nat.lt_of_succ_lt_succ hlength⟩

section rows

variable (sha256 : PyStr → PyStr) (createdAt : Nat → PyStr)

/-- The rows of the table after these calls of `append_operation`, the last of them written at this time. -/
def rowsOf (entries : List AppendCall) : List OperationRow :=
  entries.foldl (fun rows entry =>
    rows ++ [entry.row sha256 (rows.length + 1) (createdAt rows.length) (lastEntryHash rows)]) []

variable {sha256 createdAt} {floatTruth : PyStr → Bool} {depth : Nat} {boardSerial probeSerial : PyStr}

theorem rowsOf_concat (entries : List AppendCall) (entry : AppendCall) :
    rowsOf sha256 createdAt (entries ++ [entry]) = rowsOf sha256 createdAt entries ++
      [entry.row sha256 ((rowsOf sha256 createdAt entries).length + 1)
        (createdAt (rowsOf sha256 createdAt entries).length) (lastEntryHash (rowsOf sha256 createdAt entries))] := by
  rw [rowsOf, List.foldl_append]
  rfl

theorem payloads_rowsOf (entries : List AppendCall) :
    (rowsOf sha256 createdAt entries).map OperationRow.payloadJson = entries.map AppendCall.payloadJson := by
  induction entries using List.reverseRecOn with
  | nil => rfl
  | append_singleton entries entry ih =>
    rw [rowsOf_concat, List.map_append, List.map_append, ih]
    rfl

/-- The rows of some entries are asked one after the other. -/
theorem anyProves_eq {rows : List OperationRow} {entries : List AppendCall}
    (same : rows.map OperationRow.payloadJson = entries.map AppendCall.payloadJson)
    (dumpable : ∀ entry ∈ entries, Dumpable depth entry.payload) :
    anyProves floatTruth depth boardSerial probeSerial rows =
      .ok (entries.any fun entry => provesPair floatTruth boardSerial probeSerial entry.result) := by
  induction rows generalizing entries with
  | nil =>
    rw [List.map_nil, eq_comm, List.map_eq_nil_iff] at same
    rw [same]
    rfl
  | cons row rows ih =>
    obtain ⟨entry, later, rfl, hrow, hrows⟩ := List.map_eq_cons_iff.mp same.symm
    rw [anyProves, provesPairing_row hrow.symm (dumpable entry List.mem_cons_self), List.any_cons]
    cases provesPair floatTruth boardSerial probeSerial entry.result with
    | true => rfl
    | false => exact ih hrows.symm fun other hother => dumpable other (List.mem_cons_of_mem _ hother)

/-- `has_verified_target` asks the last 2000 entries. -/
theorem hasVerifiedTarget_iff {entries : List AppendCall}
    (dumpable : ∀ entry ∈ entries, Dumpable depth entry.payload) :
    hasVerifiedTarget floatTruth depth (rowsOf sha256 createdAt entries) boardSerial probeSerial = .ok true ↔
      ∃ entry ∈ entries.reverse.take 2000, provesPair floatTruth boardSerial probeSerial entry.result = true := by
  have same : ((rowsOf sha256 createdAt entries).reverse.take 2000).map OperationRow.payloadJson =
      (entries.reverse.take 2000).map AppendCall.payloadJson := by
    rw [List.map_take, List.map_take, List.map_reverse, List.map_reverse, payloads_rowsOf]
  rw [hasVerifiedTarget, anyProves_eq same fun entry hentry =>
    dumpable entry (List.mem_reverse.mp (List.mem_of_mem_take hentry))]
  refine Iff.trans ⟨fun h => Except.ok.inj h, congrArg _⟩ ?_
  rw [List.any_eq_true]

end rows

/-- The entry that a turn appends. -/
def appendedBy : (call : Call) → Reply call → Option AppendCall
  | .append entry, .ok _ => some entry
  | _, _ => none

/-- What the operations recorded, in its order. -/
def entriesOf (log : ServiceLog) : List AppendCall :=
  log.filterMap fun event => appendedBy event.turn.call event.turn.reply

namespace Identification

/-- The identity result shows a CPUID and an SW-DP ID. -/
def shows (identification : Identification) : Bool :=
  identification.executed.observed.cpuid.isSome && identification.executed.observed.dpidr.isSome

/-- The identity was read for this board at this probe. -/
def IsOf (boardSerial probeSerial : PyStr) (identification : Identification) : Prop :=
  identification.selector.boardSerial = some boardSerial ∧ identification.selector.probeSerial = probeSerial

end Identification

section provenance

variable (registry : TargetRegistry) (task : Nat → Nat) (log : ServiceLog)

/-- An identity result that an operation has for a selector: it has read it, or it has found the session that was
opened with it. -/
inductive Has (owner : Nat) : Resolved → Identification → Prop
  | read {identification : Identification} (mem : identification.turn ∈ turnsOf owner log) :
      Has owner identification.selector identification
  | found {earlier later : ServiceLog} {resolved : Resolved} {id : Nat} {session : GdbEntry}
      {identification : Identification}
      (split : log = earlier ++
        ⟨owner, ⟨.matchingGdb resolved, some (id, identification.executed.observed)⟩⟩ :: later)
      (mem : session ∈ (stateOf task earlier).gdb) (isFor : session.isFor resolved = true)
      (opened : OpenedWith earlier session identification) : Has owner resolved identification

/-- The turn records an identity result that its operation has. -/
def RecordsIdentity (event : OwnedTurn Call Reply) (identification : Identification) : Prop :=
  ∃ entry ∈ appendedBy event.turn.call event.turn.reply, ∃ resolved,
    Has task log event.owner resolved identification ∧
      Carries entry.result resolved identification.executed.observed

/-- An operation was recorded for an identity result of this board and this probe that passes. -/
def Proven (boardSerial probeSerial : PyStr) : Prop :=
  ∃ before event later identification, log = before ++ event :: later ∧ RecordsIdentity task before event identification ∧
    identification.IsOf boardSerial probeSerial ∧ identification.passes registry = true

/-- One of the last 2000 entries was recorded for an identity result of this board and this probe that shows both
registers. -/
def ShownLately (boardSerial probeSerial : PyStr) : Prop :=
  ∃ before event later identification, log = before ++ event :: later ∧ RecordsIdentity task before event identification ∧
    identification.IsOf boardSerial probeSerial ∧ identification.shows = true ∧ (entriesOf later).length < 2000

/-- What a turn has to keep to. An identity result that it records and that shows both registers passes, or
another one of its pairing that passes was recorded; one that passes shows both, or another one of the last 2000
entries does; and no pairing loses the last entry that shows both. -/
structure Faithful (event : OwnedTurn Call Reply) : Prop where
  sound : ∀ identification, RecordsIdentity task log event identification → identification.shows = true →
    ∀ boardSerial probeSerial, identification.IsOf boardSerial probeSerial →
      Proven registry task (log ++ [event]) boardSerial probeSerial
  complete : ∀ identification, RecordsIdentity task log event identification → identification.passes registry = true →
    ∀ boardSerial probeSerial, identification.IsOf boardSerial probeSerial →
      ShownLately task (log ++ [event]) boardSerial probeSerial
  kept : ∀ boardSerial probeSerial, ShownLately task log boardSerial probeSerial →
    ShownLately task (log ++ [event]) boardSerial probeSerial

end provenance

section provenance_lemmas

variable {registry : TargetRegistry} {operations : Nat → ServiceOperation} {task : Nat → Nat} {log before : ServiceLog}
  {event : OwnedTurn Call Reply} {owner : Nat} {resolved : Resolved} {identification : Identification}
  {boardSerial probeSerial : PyStr} {entry : AppendCall}

/-- A selector and the identity that an operation has for it name one board and one probe. -/
theorem Has.same (has : Has task log owner resolved identification) :
    resolved.boardSerial = identification.selector.boardSerial ∧
      resolved.probeSerial = identification.selector.probeSerial := by
  cases has with
  | read mem => exact ⟨rfl, rfl⟩
  | found split mem isFor opened =>
    rw [GdbEntry.isFor, Bool.and_eq_true, Bool.and_eq_true] at isFor
    rw [opened.1]
    exact ⟨(of_decide_eq_true isFor.1.2).symm, (of_decide_eq_true isFor.1.1).symm⟩

/-- An identity result that an operation has was read in this history. -/
theorem Has.mem (has : Has task log owner resolved identification) :
    ∃ reader, ⟨reader, identification.turn⟩ ∈ log := by
  cases has with
  | read mem => exact ⟨owner, mem_turnsOf.mp mem⟩
  | found split mem isFor opened =>
    obtain ⟨-, -, reader, read⟩ := opened
    rw [split]
    exact ⟨reader, List.mem_append_left _ (mem_turnsOf.mp read.mem)⟩

theorem appendedBy_eq {call : Call} {reply : Reply call} (h : appendedBy call reply = some entry) :
    call = .append entry := by
  cases call with
  | append recorded =>
    cases reply with
    | ok _ => exact congrArg Call.append (Option.some.inj h)
    | error error => cases h
  | _ => cases h

/-- What is recorded in a run shows no target, or it is recorded for an identity result. -/
theorem recorded_of_run (run : ServiceRun registry operations task (before ++ event :: log))
    (h : appendedBy event.turn.call event.turn.reply = some entry) :
    CommandResult.blank entry.result = true ∨ ∃ resolved identification,
      Has task before event.owner resolved identification ∧
        Carries entry.result resolved identification.executed.observed := by
  obtain ⟨⟨rest, stands⟩, -⟩ := run.admitted
  have run := run.of_append
  have may := may_of_stands run stands
  rw [appendedBy_eq h] at may
  rcases may with blank | ⟨resolved, identity, reading, carries⟩
  · exact Or.inl blank
  refine Or.inr ?_
  rcases reading with ⟨executed, rfl, hmem⟩ | ⟨id, hmem⟩
  · exact ⟨resolved, ⟨resolved, executed⟩, Has.read hmem, carries⟩
  · -- the session stood in the table when the operation found it
    obtain ⟨earlier, later, rfl⟩ := List.append_of_mem (mem_turnsOf.mp hmem)
    obtain ⟨given, hanswer⟩ := run.admitted.2
    obtain ⟨session, hsession, hfound⟩ := Option.map_eq_some_iff.mp (Option.some.inj hanswer)
    cases hfound
    have hgdb := List.mem_of_find?_eq_some hsession
    have isFor := List.find?_some hsession
    obtain ⟨identification, opened, -⟩ := (sessionsKept_of_run run.of_append).opened session hgdb
    have hidentity := opened.2.1
    rw [← hidentity] at carries
    exact ⟨resolved, identification, Has.found (by rw [hidentity]) hgdb isFor opened, carries⟩

theorem RecordsIdentity.proves {floatTruth : PyStr → Bool}
    (records : RecordsIdentity task log event identification) :
    ∃ entry, appendedBy event.turn.call event.turn.reply = some entry ∧
      ∀ boardSerial probeSerial, provesPair floatTruth boardSerial probeSerial entry.result = true ↔
        identification.IsOf boardSerial probeSerial ∧ identification.shows = true := by
  obtain ⟨entry, hentry, resolved, has, carries⟩ := records
  refine ⟨entry, hentry, fun boardSerial probeSerial => ?_⟩
  obtain ⟨hboard, hprobe⟩ := has.same
  rw [provesPair_of_carries carries, Identification.IsOf, Identification.shows, hboard, hprobe]
  simp only [Bool.and_eq_true, decide_eq_true_eq, Option.some_inj, and_assoc]

/-- What the last 2000 entries of a run show. -/
theorem exists_provesPair_iff {floatTruth : PyStr → Bool} (run : ServiceRun registry operations task log) :
    (∃ entry ∈ (entriesOf log).reverse.take 2000,
        provesPair floatTruth boardSerial probeSerial entry.result = true) ↔
      ShownLately task log boardSerial probeSerial := by
  constructor
  · rintro ⟨entry, hmem, proves⟩
    obtain ⟨before, event, later, rfl, hentry, hlength⟩ := mem_take_reverse_filterMap.mp hmem
    rcases recorded_of_run run hentry with blank | ⟨resolved, identification, has, carries⟩
    · exact absurd ((provesPair_of_blank blank).symm.trans proves) Bool.false_ne_true
    · have records : RecordsIdentity task before event identification := ⟨entry, hentry, resolved, has, carries⟩
      obtain ⟨recorded, hrecorded, hproves⟩ := @RecordsIdentity.proves _ _ _ _ floatTruth records
      cases Option.some.inj (hentry.symm.trans hrecorded)
      obtain ⟨isOf, shows⟩ := (hproves boardSerial probeSerial).mp proves
      exact ⟨before, event, later, identification, rfl, records, isOf, shows, hlength⟩
  · rintro ⟨before, event, later, identification, rfl, records, isOf, shows, hlength⟩
    obtain ⟨entry, hentry, hproves⟩ := @RecordsIdentity.proves _ _ _ _ floatTruth records
    exact ⟨entry, mem_take_reverse_filterMap.mpr ⟨before, event, later, rfl, hentry, hlength⟩,
      (hproves boardSerial probeSerial).mpr ⟨isOf, shows⟩⟩

/-- What one turn more leaves of the history. -/
theorem append_singleton_split {α : Type} {items before later : List α} {last item : α}
    (h : items ++ [last] = before ++ item :: later) :
    (before = items ∧ item = last ∧ later = []) ∨ ∃ earlier, items = before ++ item :: earlier ∧
      later = earlier ++ [last] := by
  rcases List.eq_nil_or_concat later with rfl | ⟨earlier, other, rfl⟩
  · obtain ⟨hbefore, hlast⟩ := List.append_inj' h rfl
    exact Or.inl ⟨hbefore.symm, (List.cons.inj hlast).1.symm, rfl⟩
  · rw [List.concat_eq_append, ← List.cons_append, ← List.append_assoc] at h
    obtain ⟨hitems, hlast⟩ := List.append_inj' h rfl
    exact Or.inr ⟨earlier, hitems, by rw [List.concat_eq_append, (List.cons.inj hlast).1]⟩

theorem Proven.concat (proven : Proven registry task log boardSerial probeSerial) (event : OwnedTurn Call Reply) :
    Proven registry task (log ++ [event]) boardSerial probeSerial := by
  obtain ⟨before, earlier, later, identification, rfl, records⟩ := proven
  exact ⟨before, earlier, later ++ [event], identification, by rw [List.append_assoc, List.cons_append], records⟩

theorem proven_concat_cases (proven : Proven registry task (log ++ [event]) boardSerial probeSerial) :
    Proven registry task log boardSerial probeSerial ∨ ∃ identification, RecordsIdentity task log event identification ∧
      identification.IsOf boardSerial probeSerial ∧ identification.passes registry = true := by
  obtain ⟨before, recorded, later, identification, hlog, records, isOf, passes⟩ := proven
  rcases append_singleton_split hlog with ⟨rfl, rfl, -⟩ | ⟨earlier, rfl, -⟩
  · exact Or.inr ⟨identification, records, isOf, passes⟩
  · exact Or.inl ⟨before, recorded, earlier, identification, rfl, records, isOf, passes⟩

theorem shownLately_concat_cases (shown : ShownLately task (log ++ [event]) boardSerial probeSerial) :
    ShownLately task log boardSerial probeSerial ∨ ∃ identification, RecordsIdentity task log event identification ∧
      identification.IsOf boardSerial probeSerial ∧ identification.shows = true := by
  obtain ⟨before, recorded, later, identification, hlog, records, isOf, shows, hlength⟩ := shown
  rcases append_singleton_split hlog with ⟨rfl, rfl, -⟩ | ⟨earlier, rfl, rfl⟩
  · exact Or.inr ⟨identification, records, isOf, shows⟩
  · refine Or.inl ⟨before, recorded, earlier, identification, rfl, records, isOf, shows, ?_⟩
    rw [entriesOf, List.filterMap_append, List.length_append] at hlength
    exact Nat.lt_of_le_of_lt (Nat.le_add_right _ _) hlength

/-- Before anything was done, nothing is proven and nothing shown. -/
theorem shownLately_iff_proven_nil :
    ShownLately task [] boardSerial probeSerial ↔ Proven registry task [] boardSerial probeSerial := by
  refine iff_of_false ?_ ?_ <;>
    · rintro ⟨before, event, later, -, h, -⟩
      exact List.append_ne_nil_of_right_ne_nil before (List.cons_ne_nil event later) h.symm

/-- A turn that is faithful keeps that what is shown is what is proven. -/
theorem Faithful.keeps (faithful : Faithful registry task log event)
    (same : ∀ boardSerial probeSerial, ShownLately task log boardSerial probeSerial ↔
      Proven registry task log boardSerial probeSerial) :
    ShownLately task (log ++ [event]) boardSerial probeSerial ↔
      Proven registry task (log ++ [event]) boardSerial probeSerial := by
  constructor
  · intro shown
    rcases shownLately_concat_cases shown with shown | ⟨identification, records, isOf, shows⟩
    · exact ((same _ _).mp shown).concat event
    · exact faithful.sound identification records shows _ _ isOf
  · intro proven
    rcases proven_concat_cases proven with proven | ⟨identification, records, isOf, passes⟩
    · exact faithful.kept _ _ ((same _ _).mpr proven)
    · exact faithful.complete identification records passes _ _ isOf

/-- A turn is faithful where what is shown is what is proven, before it and after it. -/
theorem faithful_of_same
    (same : ∀ boardSerial probeSerial, ShownLately task log boardSerial probeSerial ↔
      Proven registry task log boardSerial probeSerial)
    (after : ∀ boardSerial probeSerial, ShownLately task (log ++ [event]) boardSerial probeSerial ↔
      Proven registry task (log ++ [event]) boardSerial probeSerial) : Faithful registry task log event where
  sound identification records shows _ _ isOf :=
    (after _ _).mp ⟨log, event, [], identification, rfl, records, isOf, shows, Nat.succ_pos _⟩
  complete identification records passes _ _ isOf :=
    (after _ _).mpr ⟨log, event, [], identification, rfl, records, isOf, passes⟩
  kept _ _ shown := (after _ _).mpr (((same _ _).mp shown).concat event)

/-- What is shown is what is proven all along, exactly where every turn is faithful. -/
theorem faithful_iff_same :
    (∀ before event later, log = before ++ event :: later → Faithful registry task before event) ↔
      ∀ before later, log = before ++ later → ∀ boardSerial probeSerial,
        ShownLately task before boardSerial probeSerial ↔ Proven registry task before boardSerial probeSerial := by
  constructor
  · intro faithful before
    induction before using List.reverseRecOn with
    | nil => exact fun _ _ _ _ => shownLately_iff_proven_nil
    | append_singleton before event ih =>
      intro later hlog boardSerial probeSerial
      rw [List.append_assoc, List.singleton_append] at hlog
      exact (faithful before event later hlog).keeps (ih _ hlog)
  · intro same before event later hlog
    refine faithful_of_same (same before _ hlog) (same (before ++ [event]) later ?_)
    rw [hlog, List.append_assoc, List.singleton_append]

end provenance_lemmas

section verified

variable {registry : TargetRegistry} {operations : Nat → ServiceOperation} {task : Nat → Nat} {log : ServiceLog}
  {sha256 : PyStr → PyStr} {createdAt : Nat → PyStr} {floatTruth : PyStr → Bool} {depth : Nat}

/-- In every run `has_verified_target` answers for what was shown among the last 2000 entries. -/
theorem hasVerifiedTarget_iff_shownLately (run : ServiceRun registry operations task log)
    (dumpable : ∀ entry ∈ entriesOf log, Dumpable depth entry.payload) (boardSerial probeSerial : PyStr) :
    hasVerifiedTarget floatTruth depth (rowsOf sha256 createdAt (entriesOf log)) boardSerial probeSerial =
      .ok true ↔ ShownLately task log boardSerial probeSerial := by
  rw [hasVerifiedTarget_iff dumpable, exists_provesPair_iff run]

/-- In a run, `has_verified_target` answers all along for what was proven exactly where every turn is faithful. -/
theorem verified_iff_faithful (run : ServiceRun registry operations task log)
    (dumpable : ∀ entry ∈ entriesOf log, Dumpable depth entry.payload) :
    (∀ before event later, log = before ++ event :: later → Faithful registry task before event) ↔
      ∀ before later, log = before ++ later → ∀ boardSerial probeSerial,
        hasVerifiedTarget floatTruth depth (rowsOf sha256 createdAt (entriesOf before)) boardSerial probeSerial =
          .ok true ↔ Proven registry task before boardSerial probeSerial := by
  rw [faithful_iff_same]
  refine forall_congr' fun before => forall_congr' fun later => forall_congr' fun hlog => ?_
  have hrun : ServiceRun registry operations task before := by
    rw [hlog] at run
    exact run.of_append
  have hdumpable : ∀ entry ∈ entriesOf before, Dumpable depth entry.payload := by
    intro entry hentry
    refine dumpable entry ?_
    rw [hlog, entriesOf, List.filterMap_append]
    exact List.mem_append_left _ hentry
  refine forall_congr' fun boardSerial => forall_congr' fun probeSerial => ?_
  rw [hasVerifiedTarget_iff hdumpable, exists_provesPair_iff hrun]

end verified

section unverified

/-- The turn reads no identity result that passes. -/
def readsNoPassing (registry : TargetRegistry) : (call : Call) → Reply call → Bool
  | .commander _ resolved, .finished executed => !passesIdentity registry executed resolved
  | _, _ => true

theorem not_proven_of_readsNoPassing {registry : TargetRegistry} {task : Nat → Nat} {log : ServiceLog}
    (none : ∀ event ∈ log, readsNoPassing registry event.turn.call event.turn.reply = true)
    (boardSerial probeSerial : PyStr) : ¬Proven registry task log boardSerial probeSerial := by
  rintro ⟨before, event, later, identification, rfl, ⟨entry, -, resolved, has, -⟩, -, passes⟩
  obtain ⟨reader, hmem⟩ := has.mem
  have hnone := none _ (List.mem_append_left _ hmem)
  change (!identification.passes registry) = true at hnone
  rw [passes] at hnone
  cases hnone

/-- A bench on which the supply of the board is off, so that its voltage is not shown. -/
def unpowered (count : Nat) : (call : Call) → Reply call
  | .commander _ resolved =>
    .finished ⟨Giga.succeeded [], { Giga.benchObserved resolved count with targetVoltage := none }⟩
  | call => Giga.bench count call

/-- A call of `connect`. -/
def connectOperation : ServiceOperation :=
  .perform (.hardware (.commanderCommands identityCommands {} "connect" false) fun _ => rfl)

/-- The history proves the pairing of the bench, though no identity result passes. -/
def provesUnverified (log : ServiceLog) : Bool :=
  (entriesOf log).all (fun entry => isDumpable 12 entry.payload) &&
    ((entriesOf log).reverse.take 2000).any (fun entry =>
      provesPair (fun _ => true) (PyStr.ofString "b") (PyStr.ofString "1") entry.result) &&
    log.all fun event => readsNoPassing [Giga.gigaR1] event.turn.call event.turn.reply

theorem exists_provesUnverified : ∃ log, ServiceRun [Giga.gigaR1] (fun _ => connectOperation) id log ∧
    provesUnverified log = true := by
  have shown : (serveBench [Giga.gigaR1] (fun _ => connectOperation) unpowered (List.replicate 5 0)).any
      (fun standing => provesUnverified standing.log) = true := by decide +kernel
  obtain ⟨standing, hserve, hshown⟩ := (Option.any_eq_true _ _).mp shown
  exact ⟨standing.log, (of_serveBench hserve).run, hshown⟩

/-- A pairing of which no identity result passed is shown. -/
theorem connect_shownLately : ∃ log, ServiceRun [Giga.gigaR1] (fun _ => connectOperation) id log ∧
    ShownLately id log (PyStr.ofString "b") (PyStr.ofString "1") := by
  obtain ⟨log, run, hshown⟩ := exists_provesUnverified
  rw [provesUnverified, Bool.and_eq_true, Bool.and_eq_true, List.all_eq_true, List.any_eq_true] at hshown
  obtain ⟨⟨dumpable, proves⟩, -⟩ := hshown
  have dumpable := fun entry hentry => dumpable_of_isDumpable (dumpable entry hentry)
  refine ⟨log, run, ?_⟩
  exact (@hasVerifiedTarget_iff_shownLately _ _ _ _ id (fun _ => []) (fun _ => true) _ run dumpable _ _).mp
    ((hasVerifiedTarget_iff dumpable).mpr proves)

/-- The turn that records it is not faithful. -/
theorem connect_unfaithful : ∃ log, ServiceRun [Giga.gigaR1] (fun _ => connectOperation) id log ∧
    ¬∀ before event later, log = before ++ event :: later → Faithful [Giga.gigaR1] id before event := by
  obtain ⟨log, run, hshown⟩ := exists_provesUnverified
  rw [provesUnverified, Bool.and_eq_true, Bool.and_eq_true, List.all_eq_true, List.any_eq_true,
    List.all_eq_true] at hshown
  obtain ⟨⟨dumpable, proves⟩, none⟩ := hshown
  have dumpable := fun entry hentry => dumpable_of_isDumpable (dumpable entry hentry)
  have unproven : ¬Proven [Giga.gigaR1] id log (PyStr.ofString "b") (PyStr.ofString "1") :=
    not_proven_of_readsNoPassing none _ _
  refine ⟨log, run, fun faithful => unproven ?_⟩
  have answers := (@verified_iff_faithful _ _ _ _ id (fun _ => []) (fun _ => true) _ run dumpable).mp faithful
  exact (answers log [] (List.append_nil log).symm _ _).mp ((hasVerifiedTarget_iff dumpable).mpr proves)

end unverified

end JLinkMcp.Service
