import JLinkMcp.Obligations
import JLinkMcp.ServiceBench
import JLinkMcp.ServiceRules
import Mathlib.Data.Set.Insert

namespace JLinkMcp.Service

open Host Audit Obligations TaskProgram

/-- What was started on the hardware: it ended with a result, or was cut off. -/
inductive Started where
  | ended (result : CommandResult)
  | cutOff

/-- The Commander command files, the SEGGER applications and the serial exchanges that were started. -/
def startedBy : (call : Call) → Reply call → Option Started
  | .commander _ _, .finished executed => some (.ended executed.result)
  | .application _ _, .finished result => some (.ended result)
  | .exchange _ _, .finished result => some (.ended result)
  | .commander _ _, .broken _ => some .cutOff
  | .application _ _, .broken _ => some .cutOff
  | .exchange _ _, .broken _ => some .cutOff
  | _, _ => none

/-- The result with what the service adds to it: the parsed data, the session and the identities. -/
def Records (recorded result : CommandResult) : Prop :=
  ∃ parsed sessionId probeIdentity targetIdentity,
    recorded = { result with parsed, sessionId, probeIdentity, targetIdentity }

/-- The recorded result lists the attempt that ended so. -/
def ListsAttempt (recorded result : CommandResult) : Prop :=
  ∃ evidence attempt, field "application_attempts" (.list evidence) ∈ recorded.parsed ∧
    attemptEvidence attempt result ∈ evidence

/-- What was cut off has no result, so that any entry may tell of it. -/
def Started.CoveredBy (entry : AppendCall) : Started → Prop
  | .ended result => Records entry.result result ∨ ListsAttempt entry.result result
  | .cutOff => True

/-- The call appends an entry that tells of what was started. -/
def Covers : (call : Call) → Reply call → Started → Prop
  | .append entry, .ok _, started => started.CoveredBy entry
  | _, _, _ => False

/-- What is started has to be covered by an entry that is appended later. -/
def auditAccount : Account (Turn Call Reply) Started where
  incurs turn := startedBy turn.call turn.reply
  settles turn := Covers turn.call turn.reply

def AuditComplete (history : History) : Prop := auditAccount.Settled history

/-- Whether something was started since the last entry that was appended. -/
def pendingAfter (pending : Bool) : (call : Call) → Reply call → Bool
  | .append _, .ok _ => false
  | call, reply => pending || (startedBy call reply).isSome

/-- Nothing raises after something was started and before the next entry is appended. -/
def undisturbed : Discipline Call Reply Bool where
  may _ _ := True
  replied pending call reply := raises call reply = true → pendingAfter pending call reply = false
  next := pendingAfter

/-- `ProcessRunner.run` parses nothing of what an application printed. -/
def ParsesNothing : (call : Call) → Reply call → Prop
  | .application _ _, .finished result => result.parsed = []
  | _, _ => True

/-- Exactly these are owed to the audit, and nothing has disturbed the operation. -/
structure Owing (debts : Set Started) (history : History) : Prop where
  owed : ∀ started, auditAccount.Owed history started ↔ started ∈ debts
  pending : undisturbed.after false history = true ↔ debts.Nonempty
  expected : undisturbed.Expected false history

/-- Something raised while the audit was owed something, and it still is. -/
structure Upset (history : History) : Prop where
  owed : ∃ started, auditAccount.Owed history started
  disturbed : ¬undisturbed.Expected false history

/-- How an operation may end: the audit is owed nothing, or something raised in between. -/
def Ended (history : History) : Prop := Owing ∅ history ∨ Upset history

theorem auditComplete_iff_of_ended {history : History} (h : Ended history) :
    AuditComplete history ↔ undisturbed.Expected false history := by
  rcases h with owing | upset
  · refine iff_of_true (Account.settled_iff.mpr fun started owed => ?_) owing.expected
    exact (owing.owed started).mp owed
  · refine iff_of_false (fun settled => ?_) upset.disturbed
    obtain ⟨started, owed⟩ := upset.owed
    exact Account.settled_iff.mp settled started owed

/-- A call that starts nothing on the hardware and appends nothing. -/
def Call.quiet : Call → Bool
  | .commander _ _ | .application _ _ | .exchange _ _ | .append _ => false
  | _ => true

section turns

variable {debts : Set Started} {history : History} {call : Call} {reply : Reply call} {started : Started}

theorem startedBy_of_quiet (quiet : call.quiet = true) : startedBy call reply = none := by
  cases call <;> first | rfl | cases quiet

theorem not_covers_of_quiet (quiet : call.quiet = true) : ¬Covers call reply started := by
  cases call <;> first | exact id | cases quiet

theorem pendingAfter_of_quiet (quiet : call.quiet = true) (pending : Bool) :
    pendingAfter pending call reply = pending := by
  have hnone : (startedBy call reply).isSome = false := by rw [startedBy_of_quiet quiet]; rfl
  cases call <;> first | exact (congrArg (pending || ·) hnone).trans (Bool.or_false pending) | cases quiet

theorem not_covers_of_raises (raised : raises call reply = true) : ¬Covers call reply started := by
  cases call with
  | append entry =>
    cases reply with
    | ok _ => cases raised
    | error _ => exact id
  | _ => exact id

theorem pendingAfter_of_raises (raised : raises call reply = true) (pending : Bool) :
    pendingAfter pending call reply = (pending || (startedBy call reply).isSome) := by
  cases call with
  | append entry =>
    cases reply with
    | ok _ => cases raised
    | error _ => rfl
  | _ => rfl

theorem not_covers_of_startedBy (h : startedBy call reply = some started) {other : Started} :
    ¬Covers call reply other := by
  cases call with
  | append entry => cases h
  | _ => exact id

theorem pendingAfter_of_startedBy (h : startedBy call reply = some started) (pending : Bool) :
    pendingAfter pending call reply = true := by
  have hsome : (startedBy call reply).isSome = true := by rw [h]; rfl
  cases call with
  | append entry => cases h
  | _ => exact (congrArg (pending || ·) hsome).trans (Bool.or_true pending)

/-- Before anything is started nothing is owed. -/
theorem owing_nil : Owing ∅ [] where
  owed _ := iff_of_false Account.not_owed_nil (Set.notMem_empty _)
  pending := iff_of_false Bool.false_ne_true Set.not_nonempty_empty
  expected := trivial

theorem Owing.pending_false (h : Owing ∅ history) : undisturbed.after false history = false :=
  Bool.eq_false_iff.mpr fun pending => Set.not_nonempty_empty (h.pending.mp pending)

/-- A quiet call may raise where nothing is owed. -/
theorem Owing.quiet (h : Owing debts history) (quiet : call.quiet = true)
    (calm : raises call reply = true → debts = ∅) : Owing debts (history ++ [⟨call, reply⟩]) where
  owed started := by
    rw [Account.owed_concat]
    constructor
    · rintro (incurs | ⟨owed, -⟩)
      · exact absurd ((startedBy_of_quiet quiet).symm.trans incurs) (Option.some_ne_none _).symm
      · exact (h.owed started).mp owed
    · exact fun hstarted => Or.inr ⟨(h.owed started).mpr hstarted, not_covers_of_quiet quiet⟩
  pending := by
    rw [Discipline.after_concat]
    have hsame : undisturbed.next (undisturbed.after false history) call reply =
        undisturbed.after false history := pendingAfter_of_quiet quiet _
    rw [hsame]
    exact h.pending
  expected := by
    refine Discipline.expected_concat.mpr ⟨h.expected, fun raised => ?_⟩
    obtain rfl := calm raised
    exact (pendingAfter_of_quiet quiet _).trans h.pending_false

/-- What is started is owed from then on. -/
theorem Owing.begun (h : Owing debts history) (hstarted : startedBy call reply = some started)
    (calm : raises call reply = false) : Owing (insert started debts) (history ++ [⟨call, reply⟩]) where
  owed other := by
    rw [Account.owed_concat, Set.mem_insert_iff]
    have hincurs : auditAccount.incurs (⟨call, reply⟩ : Turn Call Reply) = some other ↔ other = started := by
      refine Iff.trans ?_ eq_comm
      exact (congrArg (· = some other) hstarted).to_iff.trans Option.some_inj
    rw [hincurs, h.owed other]
    refine or_congr_right (and_iff_left ?_)
    exact not_covers_of_startedBy hstarted
  pending := by
    rw [Discipline.after_concat]
    exact iff_of_true (pendingAfter_of_startedBy hstarted _) (Set.insert_nonempty _ _)
  expected := by
    refine Discipline.expected_concat.mpr ⟨h.expected, fun raised => ?_⟩
    exact absurd raised (Bool.eq_false_iff.mp calm)

/-- An entry that covers all that is owed. -/
theorem Owing.appended {entry : AppendCall} (h : Owing debts history)
    (covered : ∀ started ∈ debts, started.CoveredBy entry) :
    Owing ∅ (history ++ [⟨.append entry, .ok ()⟩]) where
  owed started := by
    refine iff_of_false (fun owed => ?_) (Set.notMem_empty _)
    rcases Account.owed_concat.mp owed with incurs | ⟨owed, uncovered⟩
    · cases incurs
    · exact uncovered (covered started ((h.owed started).mp owed))
  pending := by
    rw [Discipline.after_concat]
    exact iff_of_false Bool.false_ne_true Set.not_nonempty_empty
  expected := by
    refine Discipline.expected_concat.mpr ⟨h.expected, fun raised => ?_⟩
    cases raised

/-- A call that raises leaves what is owed; where that is something, the operation is disturbed. -/
theorem Owing.raised (h : Owing debts history) (raised : raises call reply = true) :
    Ended (history ++ [⟨call, reply⟩]) := by
  have uncovered : ∀ started, ¬auditAccount.settles (⟨call, reply⟩ : Turn Call Reply) started := fun _ =>
    not_covers_of_raises raised
  cases hpending : pendingAfter (undisturbed.after false history) call reply with
  | true =>
    refine Or.inr ⟨?_, fun expected => ?_⟩
    · rw [pendingAfter_of_raises raised, Bool.or_eq_true] at hpending
      rcases hpending with hpending | hstarted
      · obtain ⟨started, hmem⟩ := h.pending.mp hpending
        exact ⟨started, ((h.owed started).mpr hmem).concat (uncovered started)⟩
      · obtain ⟨started, hstarted⟩ := Option.isSome_iff_exists.mp hstarted
        exact ⟨started, Account.owed_concat.mpr (Or.inl hstarted)⟩
    · have calm := (Discipline.expected_concat.mp expected).2 raised
      exact Bool.false_ne_true (calm.symm.trans hpending)
  | false =>
    have hboth := hpending
    rw [pendingAfter_of_raises raised, Bool.or_eq_false_iff] at hboth
    have hempty : debts = ∅ := by
      by_contra nonempty
      have hafter := h.pending.mpr (Set.nonempty_iff_ne_empty.mpr nonempty)
      exact Bool.false_ne_true (hboth.1.symm.trans hafter)
    subst hempty
    refine Or.inl ⟨fun started => ?_, ?_, Discipline.expected_concat.mpr ⟨h.expected, fun _ => hpending⟩⟩
    · refine iff_of_false (fun owed => ?_) (Set.notMem_empty _)
      rcases Account.owed_concat.mp owed with incurs | ⟨owed, -⟩
      · have hnone : startedBy call reply = none := Option.not_isSome_iff_eq_none.mp (Bool.eq_false_iff.mp hboth.2)
        exact Option.some_ne_none _ (incurs.symm.trans hnone)
      · exact (h.owed started).mp owed
    · rw [Discipline.after_concat]
      refine iff_of_false (fun pending => ?_) Set.not_nonempty_empty
      exact Bool.false_ne_true (hpending.symm.trans pending)

/-- A quiet call that does not raise changes nothing of how the operation ends. -/
theorem Ended.quiet (h : Ended history) (quiet : call.quiet = true) (calm : raises call reply = false) :
    Ended (history ++ [⟨call, reply⟩]) := by
  rcases h with owing | upset
  · exact Or.inl (owing.quiet quiet fun raised => absurd raised (Bool.eq_false_iff.mp calm))
  · obtain ⟨started, owed⟩ := upset.owed
    refine Or.inr ⟨⟨started, owed.concat (not_covers_of_quiet quiet)⟩, fun expected => ?_⟩
    exact upset.disturbed (Discipline.expected_concat.mp expected).1

end turns

/-- What the operations know of their history. -/
abbrev auditing : Discipline Call Reply History := recording (fun _ _ => True) ParsesNothing

/-- Where a value is returned, the audit is owed what the condition allows. -/
def endsOwing {α : Type} (left : α → Set Started → Prop) : Except ServiceError α → History → Prop
  | .ok value, history => ∃ debts, left value debts ∧ Owing debts history
  | .error _, history => Ended history

/-- What a coroutine owes to the audit, where so much was owed before it. -/
def Audits {α : Type} (debts : Set Started) (program : Coroutine α) (left : α → Set Started → Prop) : Prop :=
  ∀ history, Owing debts history → Follows auditing history program.run (endsOwing left)

/-- A coroutine that starts nothing and records nothing. -/
abbrev Idle {α : Type} (program : Coroutine α) : Prop := Maintains auditing (Owing ∅) program

section rules

variable {α β : Type} {debts : Set Started} {left : α → Set Started → Prop}

theorem follows_quiet (call : Call) (quiet : call.quiet = true) {history : History} (h : Owing debts history) :
    Follows auditing history (.call call) fun reply after => (raises call reply = false → Owing debts after) ∧
      (raises call reply = true → Ended after) :=
  follows_call trivial fun _ _ =>
    ⟨fun calm => h.quiet quiet fun raised => absurd raised (Bool.eq_false_iff.mp calm), h.raised⟩

/-- A quiet call may raise where nothing is owed. -/
theorem keeps_quiet {call : Call} (quiet : call.quiet = true) : auditing.Keeps (Owing ∅) call := fun _ h =>
  ⟨trivial, fun _ _ => h.quiet quiet fun _ => rfl⟩

theorem idle_throw {error : ServiceError} : Idle (throw error : Coroutine α) := maintains_throw error

theorem Idle.audits {program : Coroutine α} (h : Idle program) :
    Audits ∅ program fun _ debts => debts = ∅ := fun history owing =>
  (h history owing).mono fun result after hafter => by
    cases result with
    | ok value => exact ⟨∅, rfl, hafter⟩
    | error error => exact Or.inl hafter

theorem audits_pure {value : α} (h : left value debts) : Audits debts (pure value) left :=
  fun _ owing => ⟨debts, h, owing⟩

theorem audits_then {program : Coroutine α} {next : α → Coroutine β} {last : β → Set Started → Prop}
    (first : Audits debts program left) (rest : ∀ value debts, left value debts → Audits debts (next value) last) :
    Audits debts (program >>= next) last := by
  intro history owing
  refine follows_then (first history owing) (fun value after hafter => ?_) fun _ _ hafter => hafter
  obtain ⟨middle, hleft, howing⟩ := hafter
  exact rest value middle hleft after howing

/-- A value that is there, or an error where nothing is owed. -/
theorem audits_orRaise {result : Except ServiceError α} :
    Audits ∅ (orRaise result) fun value debts => result = .ok value ∧ debts = ∅ := by
  intro history owing
  cases result with
  | ok value => exact ⟨∅, ⟨rfl, rfl⟩, owing⟩
  | error error => exact Or.inl owing

theorem audits_orRaise_ok {result : Except ServiceError α} {value : α} (h : result = .ok value) :
    Audits debts (orRaise result) fun _ after => after = debts := by
  rw [h]
  exact fun _ owing => ⟨debts, rfl, owing⟩

theorem audits_discard {program : Coroutine α} (h : Audits debts program fun _ after => after = ∅) :
    Audits debts (discard program) fun _ after => after = ∅ := by
  intro history owing
  refine follows_bind (h history owing) fun result after hafter => ?_
  cases result with
  | ok value => exact follows_done hafter
  | error error => exact follows_done hafter

theorem audits_append {entry : AppendCall} (covered : ∀ started ∈ debts, started.CoveredBy entry) :
    Audits debts (append entry) fun _ after => after = ∅ := by
  intro history owing
  refine follows_call trivial fun reply _ => ?_
  cases reply with
  | ok _ => exact ⟨∅, rfl, owing.appended covered⟩
  | error _ => exact owing.raised rfl

theorem audits_sleep : Audits debts sleep fun _ after => after = debts := by
  intro history owing
  refine (follows_quiet Call.sleep rfl owing).mono fun reply after hafter => ?_
  cases reply with
  | ok _ => exact ⟨debts, rfl, hafter.1 rfl⟩
  | error _ => exact hafter.2 rfl

/-- A call that starts something on the hardware. -/
theorem audits_started {program : Task Call Reply (Outcome α)}
    (h : ∀ history, Owing debts history →
      Follows auditing history program fun outcome after => endsOwing left outcome.result after) :
    Audits debts (started program) left := fun history owing =>
  follows_bind (h history owing) fun _ _ hafter => follows_done hafter

theorem audits_execute (commands : List PyStr) (resolved : Resolved) : Audits debts (execute commands resolved)
    fun executed after => after = insert (.ended executed.result) debts := by
  refine audits_started fun history owing => follows_call trivial fun reply _ => ?_
  cases reply with
  | finished executed => exact ⟨_, rfl, owing.begun rfl rfl⟩
  | refused error => exact owing.raised rfl
  | broken error => exact owing.raised rfl

theorem audits_executeApplication (request : ApplicationRequest) : Audits debts (executeApplication request)
    fun result after => result.parsed = [] ∧ after = insert (.ended result) debts := by
  refine audits_started fun history owing => follows_call trivial fun reply promised => ?_
  cases reply with
  | finished result => exact ⟨_, ⟨promised, rfl⟩, owing.begun rfl rfl⟩
  | refused error => exact owing.raised rfl
  | broken error => exact owing.raised rfl

theorem audits_exchange (port : PyStr) (use : SerialUse) :
    Audits debts (started (.call (Call.exchange port use)))
      fun result after => after = insert (.ended result) debts := by
  refine audits_started fun history owing => follows_call trivial fun reply _ => ?_
  cases reply with
  | finished result => exact ⟨_, rfl, owing.begun rfl rfl⟩
  | refused error => exact owing.raised rfl
  | broken error => exact owing.raised rfl

theorem audits_withLease {probeSerial owner : PyStr} {body : Nat → Coroutine α}
    (h : ∀ leaseId, Audits ∅ (body leaseId) left) : Audits ∅ (withLease probeSerial owner body) left := by
  intro history owing
  refine ⟨trivial, fun reply _ => ?_⟩
  cases reply with
  | error error => exact owing.raised rfl
  | ok leaseId =>
    have entered : Owing ∅ (history ++ [⟨.enter probeSerial owner, .ok leaseId⟩]) := owing.quiet rfl fun _ => rfl
    refine follows_ensuring (h leaseId _ entered) fun result after hafter => ⟨trivial, fun _ _ => ?_⟩
    cases result with
    | ok value =>
      obtain ⟨debts, hleft, howing⟩ := hafter
      exact ⟨debts, hleft, howing.quiet rfl fun raised => by cases raised⟩
    | error error => exact Ended.quiet hafter rfl rfl

end rules

section operations

variable {registry : TargetRegistry} {debts : Set Started}

theorem covered_single {started : Started} {entry : AppendCall} (h : started.CoveredBy entry) :
    ∀ other ∈ insert started (∅ : Set Started), other.CoveredBy entry := by
  intro other hother
  rcases hother with rfl | hnone
  · exact h
  · exact absurd hnone (Set.notMem_empty other)

/-- What the service adds to a result leaves a record of it. -/
theorem records_attachIdentities {result : CommandResult} {parsed : JsonDict} {sessionId : Option PyStr}
    {selector : Resolved} {identity : Observed} :
    Records (attachIdentities { result with parsed, sessionId } selector identity) result := ⟨_, _, _, _, rfl⟩

theorem idle_resolveSelectorWait (selector : DeviceSelector) : Idle (resolveSelectorWait registry selector) :=
  maintains_resolveSelectorWait (keeps_quiet rfl) (keeps_quiet rfl) (keeps_quiet rfl) selector

/-- What follows the resolution of a selector begins with nothing owed. -/
theorem audits_resolve_then {α : Type} {selector : DeviceSelector} {next : Resolved → Coroutine α}
    {left : α → Set Started → Prop} (rest : ∀ resolved, Audits ∅ (next resolved) left) :
    Audits ∅ (resolveSelectorWait registry selector >>= next) left := by
  refine audits_then (idle_resolveSelectorWait selector).audits fun resolved debts hdebts => ?_
  rw [hdebts]
  exact rest resolved

theorem audits_identityPreflight (resolved : Resolved) (leaseId : Nat) :
    Audits ∅ (identityPreflight registry resolved leaseId) fun identity debts =>
      validateIdentity registry identity resolved = .ok () ∧ debts = ∅ := by
  refine audits_then (audits_execute _ resolved) fun identity debts hdebts => ?_
  rw [hdebts]
  refine audits_then (audits_append (covered_single (Or.inl records_attachIdentities))) fun _ debts hdebts => ?_
  rw [hdebts]
  refine audits_then audits_orRaise fun _ debts hvalid => ?_
  exact audits_pure hvalid

theorem audits_commanderCommands (commands : List PyStr) (selector : DeviceSelector) (action : String)
    (destructive : Bool) :
    Audits ∅ (commanderCommands registry commands selector action destructive) fun _ debts => debts = ∅ := by
  refine audits_resolve_then fun resolved => ?_
  split
  next =>
    refine audits_withLease fun leaseId => audits_then (audits_execute commands resolved) fun executed debts h => ?_
    rw [h]
    refine audits_then (audits_append (covered_single (Or.inl records_attachIdentities))) fun _ debts h => ?_
    rw [h]
    exact audits_then audits_orRaise fun _ debts h => audits_pure h.2
  next =>
    have leased : Audits ∅ (withLease resolved.probeSerial (PyStr.ofString action) fun leaseId => do
        let identity ← identityPreflight registry resolved leaseId
        let executed ← execute commands resolved
        orRaise (validateIdentity registry identity resolved)
        return preflightedResult resolved leaseId identity executed) fun result debts =>
          ∃ executed, Records result executed ∧ debts = insert (.ended executed) ∅ := by
      refine audits_withLease fun leaseId => ?_
      refine audits_then (audits_identityPreflight resolved leaseId) fun identity debts h => ?_
      rw [h.2]
      refine audits_then (audits_execute commands resolved) fun executed debts hdebts => ?_
      refine audits_then (audits_orRaise_ok h.1) fun _ after hafter => ?_
      exact audits_pure ⟨executed.result, records_attachIdentities, hafter.trans hdebts⟩
    refine audits_then leased fun result debts h => ?_
    obtain ⟨executed, records, hdebts⟩ := h
    rw [hdebts]
    refine audits_then (audits_append (covered_single (Or.inl records))) fun _ debts h => ?_
    exact audits_pure h

theorem audits_resumeAfterIdentityPreflight (resolved : Resolved) (leaseId : Nat) (identity : CommanderResult)
    (action : PyStr) :
    Audits ∅ (resumeAfterIdentityPreflight resolved leaseId identity action) fun _ debts => debts = ∅ := by
  refine audits_then (audits_execute _ resolved) fun executed debts hdebts => ?_
  rw [hdebts]
  refine audits_then (audits_append (covered_single (Or.inl records_attachIdentities))) fun _ debts hdebts => ?_
  split
  next => exact audits_pure hdebts
  next =>
    rw [hdebts]
    exact idle_throw.audits

theorem audits_pause (milliseconds : Nat) : Audits debts (pause milliseconds) fun _ after => after = debts := by
  rw [pause]
  split
  next => exact audits_sleep
  next => exact audits_pure rfl

/-- The evidence tells of every attempt that is owed. -/
def Evident (evidence : List PyJson) (debts : Set Started) : Prop :=
  ∀ started ∈ debts, ∃ result attempt, started = .ended result ∧ attemptEvidence attempt result ∈ evidence

theorem Evident.insert {evidence : List PyJson} (h : Evident evidence debts) (attempt : Nat)
    (result : CommandResult) :
    Evident (evidence ++ [attemptEvidence attempt result]) (insert (.ended result) debts) := by
  intro started hstarted
  rcases hstarted with rfl | hstarted
  · exact ⟨result, attempt, rfl, List.mem_append_right _ (List.mem_singleton.mpr rfl)⟩
  · obtain ⟨earlier, number, hearlier, hmem⟩ := h started hstarted
    exact ⟨earlier, number, hearlier, List.mem_append_left _ hmem⟩

/-- However many attempts are made, the evidence tells of all of them. -/
theorem audits_applicationAttempts (request : ApplicationRequest) {evidence : List PyJson}
    (h : Evident evidence debts) (left : Nat) :
    Audits debts (applicationAttempts request evidence left) fun ended after =>
      ended.1.parsed = [] ∧ Evident ended.2 after := by
  induction left generalizing evidence debts with
  | zero =>
    refine audits_then (audits_executeApplication request) fun result after hafter => ?_
    rw [hafter.2]
    exact audits_pure ⟨hafter.1, h.insert _ result⟩
  | succ left ih =>
    refine audits_then (audits_executeApplication request) fun result after hafter => ?_
    rw [hafter.2]
    have evident := h.insert (evidence.length + 1) result
    split
    next => exact audits_pure ⟨hafter.1, evident⟩
    next =>
      refine audits_then (audits_pause _) fun _ after hafter => ?_
      rw [hafter]
      exact ih evident

theorem audits_resumeApplication (request : ApplicationRequest) (resolved : Resolved) (leaseId : Nat)
    (identity : CommanderResult) :
    Audits ∅ (resumeApplication request resolved leaseId identity) fun _ debts => debts = ∅ := by
  rw [resumeApplication]
  split
  next =>
    refine audits_then (audits_discard (audits_resumeAfterIdentityPreflight resolved leaseId identity _))
      fun _ debts hdebts => ?_
    rw [hdebts]
    exact audits_pause _
  next => exact audits_pure rfl

/-- What `run_application` returns from under the lease lists every attempt that is owed. -/
theorem audits_applicationUnderLease (request : ApplicationRequest) (resolved : Resolved) (leaseId : Nat) :
    Audits ∅ (applicationUnderLease registry request resolved leaseId) fun result debts =>
      ∃ evidence, field "application_attempts" (.list evidence) ∈ result.parsed ∧ Evident evidence debts := by
  refine audits_then (audits_identityPreflight resolved leaseId) fun identity debts h => ?_
  rw [h.2]
  refine audits_then (audits_resumeApplication request resolved leaseId identity) fun _ debts hdebts => ?_
  rw [hdebts]
  have none : Evident [] ∅ := fun started hstarted => absurd hstarted (Set.notMem_empty started)
  refine audits_then (audits_applicationAttempts request none _) fun ended debts h => ?_
  refine audits_pure ⟨ended.2, ?_, h.2⟩
  change field "application_attempts" (.list ended.2) ∈ setDefault ended.1.parsed "application_attempts" _
  rw [h.1]
  exact List.mem_singleton.mpr rfl

theorem audits_runApplication (request : ApplicationRequest) :
    Audits ∅ (runApplication registry request) fun _ debts => debts = ∅ := by
  rw [runApplication]
  split
  next => exact idle_throw.audits
  next =>
    split
    next =>
      refine audits_resolve_then fun resolved => ?_
      refine audits_then (audits_withLease fun leaseId => audits_applicationUnderLease request resolved leaseId)
        fun result debts h => ?_
      obtain ⟨evidence, listed, evident⟩ := h
      refine audits_then (audits_append fun started hstarted => ?_) fun _ debts h => audits_pure h
      obtain ⟨attempted, attempt, rfl, hmem⟩ := evident started hstarted
      exact Or.inr ⟨evidence, attempt, listed, hmem⟩
    next =>
      refine audits_then (audits_executeApplication request) fun result debts h => ?_
      rw [h.2]
      refine audits_then (audits_append (covered_single (Or.inl ⟨_, _, _, _, rfl⟩))) fun _ debts h => ?_
      exact audits_pure h

/-- The result of a serial operation records the exchange that is owed. -/
abbrev OwesExchange (result : CommandResult) (debts : Set Started) : Prop :=
  ∃ exchanged, Records result exchanged ∧ debts = insert (.ended exchanged) ∅

theorem audits_useSerialPort (request : SerialRequest) (resolved : Resolved) (sessionId : Nat) :
    Audits ∅ (useSerialPort request resolved sessionId) OwesExchange := by
  have deadline : Idle (ask .deadline) := maintains_ask (keeps_quiet rfl)
  refine audits_then deadline.audits fun rounds debts hdebts => ?_
  rw [hdebts]
  have waits : Idle (waitForSerialBoard resolved rounds) :=
    maintains_waitForSerialBoard (keeps_quiet rfl) (keeps_quiet rfl) resolved rounds
  refine audits_then waits.audits fun port debts hdebts => ?_
  rw [hdebts]
  refine audits_then (audits_exchange port request.use) fun result debts hdebts => ?_
  exact audits_pure ⟨result, ⟨_, _, _, _, rfl⟩, hdebts⟩

theorem audits_serialUnderGate (request : SerialRequest) (resolved : Resolved) :
    Audits ∅ (serialUnderGate registry request resolved) fun used debts => OwesExchange used.result debts := by
  have asks : Idle (ask (.matchingGdb resolved)) := maintains_ask (keeps_quiet rfl)
  refine audits_then asks.audits fun matching debts hdebts => ?_
  rw [hdebts]
  split
  next =>
    refine audits_then (audits_useSerialPort request resolved _) fun result debts h => ?_
    exact audits_pure h
  next =>
    refine audits_withLease fun leaseId => ?_
    refine audits_then (audits_identityPreflight resolved leaseId) fun identity debts h => ?_
    rw [h.2]
    refine audits_then (audits_resumeAfterIdentityPreflight resolved leaseId identity _) fun resume debts h => ?_
    rw [h]
    refine audits_then (audits_useSerialPort request resolved leaseId) fun result debts h => ?_
    exact audits_pure h

theorem records_serialResult {resolved : Resolved} {used : SerialUsed} {exchanged : CommandResult}
    (h : Records used.result exchanged) : Records (serialResult resolved used) exchanged := by
  obtain ⟨parsed, sessionId, probeIdentity, targetIdentity, hrecorded⟩ := h
  rw [serialResult, hrecorded]
  exact ⟨_, _, _, _, rfl⟩

theorem audits_serialOperation (request : SerialRequest) :
    Audits ∅ (serialOperation registry request) fun _ debts => debts = ∅ := by
  refine audits_resolve_then fun resolved => ?_
  refine audits_then (audits_serialUnderGate request resolved) fun used debts h => ?_
  obtain ⟨exchanged, records, hdebts⟩ := h
  rw [hdebts]
  refine audits_then (audits_append (covered_single (Or.inl (records_serialResult records)))) fun _ debts h => ?_
  exact audits_pure h

theorem audits_program (operation : HardwareOperation) :
    Audits ∅ (operation.program registry) fun _ debts => debts = ∅ := by
  cases operation with
  | commanderCommands commands selector action destructive =>
    exact audits_commanderCommands commands selector action destructive
  | runApplication request => exact audits_runApplication request
  | serialExchange selector write untilText duration => exact audits_serialOperation _
  | auditedSerialOperation selector action destructive request => exact audits_serialOperation _

/-- Every run of an operation ends with nothing owed, or was disturbed. -/
theorem ended_of_path {operation : HardwareOperation} {history : History}
    {result : Except ServiceError CommandResult}
    (path : Path (operation.program registry).run history (.done result))
    (promised : ∀ turn ∈ history, ParsesNothing turn.call turn.reply) : Ended history := by
  have ends := (@audits_program registry operation [] owing_nil).of_history path promised
  cases result with
  | ok value =>
    obtain ⟨debts, hdebts, owing⟩ := ends
    rw [hdebts] at owing
    exact Or.inl owing
  | error error => exact ends

/-- Every Commander file, application run and serial exchange of a run is covered by an entry exactly where
nothing raised between a start and the next entry. -/
theorem audit_complete_iff {operation : HardwareOperation} {history : History}
    {result : Except ServiceError CommandResult}
    (path : Path (operation.program registry).run history (.done result))
    (promised : ∀ turn ∈ history, ParsesNothing turn.call turn.reply) :
    AuditComplete history ↔ undisturbed.Expected false history :=
  auditComplete_iff_of_ended (ended_of_path path promised)

end operations

section retry

/-- A run of the RTT logger that is tried twice, a second apart. -/
def loggerRetry : ApplicationRequest where
  application := PyStr.ofString "JLinkRTTLoggerExe"
  arguments := ["-Device", "STM32H747XI_M7"].map PyStr.ofString
  attempts := 2
  retryDelay := 1000

/-- A bench on which the application fails, and how the pause between two attempts ends. -/
def failingBench (pause : Except ServiceError Unit) (count : Nat) : (call : Call) → Reply call
  | .application _ _ => .finished { Giga.succeeded [] with returnCode := some 1 }
  | .sleep => pause
  | call => Giga.bench count call

def noCall (_ : Call) : Bool := false

/-- The run of the retry on the bench. -/
def retryRun (pause : Except ServiceError Unit) :
    History × Task Call Reply (Except ServiceError CommandResult) :=
  turnsTo (failingBench pause) noCall 0
    ((HardwareOperation.runApplication loggerRetry).program [Giga.gigaR1]).run

theorem retryRun_promised (pause : Except ServiceError Unit) :
    ∀ turn ∈ (retryRun pause).1, ParsesNothing turn.call turn.reply := by
  intro turn hturn
  obtain ⟨count, hreply⟩ := replies_turnsTo (failingBench pause) noCall 0 _ turn hturn
  rw [hreply]
  cases turn.call with
  | application name arguments => rfl
  | _ => trivial

def isCancelled : Task Call Reply (Except ServiceError CommandResult) → Bool
  | .done (.error .cancelled) => true
  | _ => false

def isReturned : Task Call Reply (Except ServiceError CommandResult) → Bool
  | .done (.ok _) => true
  | _ => false

/-- Whether a run was undisturbed can be decided. -/
instance undisturbedDecidable (history : History) : Decidable (undisturbed.Expected false history) :=
  undisturbed.decidableExpected
    (fun pending call reply => inferInstanceAs (Decidable (raises call reply = true →
      pendingAfter pending call reply = false))) false history

/-- Where both attempts fail and nothing raises, the run is covered. -/
theorem audit_complete_retry : ∃ history result,
    Path ((HardwareOperation.runApplication loggerRetry).program [Giga.gigaR1]).run history
      (.done (.ok result)) ∧ AuditComplete history := by
  have path : Path _ (retryRun (.ok ())).1 (retryRun (.ok ())).2 := path_turnsTo _ _ _ _
  have returned : isReturned (retryRun (.ok ())).2 = true := by decide +kernel
  have calm : undisturbed.Expected false (retryRun (.ok ())).1 := by decide +kernel
  cases hlast : (retryRun (.ok ())).2 with
  | ask call rest =>
    rw [hlast] at returned
    cases returned
  | done outcome =>
    rw [hlast] at returned path
    cases outcome with
    | error error => cases returned
    | ok result => exact ⟨_, result, path, (audit_complete_iff path (retryRun_promised _)).mpr calm⟩

/-- Where the task is cancelled in the pause, the attempt that was made is in no entry. -/
theorem retry_unaudited : ∃ history,
    Path ((HardwareOperation.runApplication loggerRetry).program [Giga.gigaR1]).run history
      (.done (.error .cancelled)) ∧ (∀ turn ∈ history, ParsesNothing turn.call turn.reply) ∧
      ¬AuditComplete history := by
  have path : Path _ (retryRun (.error .cancelled)).1 (retryRun (.error .cancelled)).2 := path_turnsTo _ _ _ _
  have cancelled : isCancelled (retryRun (.error .cancelled)).2 = true := by decide +kernel
  have disturbed : ¬undisturbed.Expected false (retryRun (.error .cancelled)).1 := by decide +kernel
  cases hlast : (retryRun (.error .cancelled)).2 with
  | ask call rest =>
    rw [hlast] at cancelled
    cases cancelled
  | done outcome =>
    rw [hlast] at cancelled path
    have ended := ended_of_path path (retryRun_promised _)
    have uncovered : ¬AuditComplete (retryRun (.error .cancelled)).1 := fun complete =>
      disturbed ((auditComplete_iff_of_ended ended).mp complete)
    cases outcome with
    | ok result => cases cancelled
    | error error =>
      cases error with
      | cancelled => exact ⟨_, path, retryRun_promised _, uncovered⟩
      | _ => cases cancelled

end retry

end JLinkMcp.Service
