import JLinkMcp.GatedOperations
import JLinkMcp.ServiceBench

namespace JLinkMcp.Service

open Host Audit TaskProgram

/-- The calls that change a target: other command files than the identity commands, applications that do not only
inform, uses of the serial port, and what starts a GDB server or a GUI. -/
def ServiceOperation.changes (operation : ServiceOperation) : Call → Bool
  | .commander commands _ => commands ≠ identityCommands
  | .application _ _ => !operation.asked.informs
  | .exchange _ _ | .spawnServer _ _ | .spawnGui _ _ => true
  | _ => false

/-- The selector that the call names. -/
def Call.named : Call → Option Resolved
  | .commander _ resolved | .spawnServer resolved _ => some resolved
  | _ => none

section property

variable (registry : TargetRegistry) (operations : Nat → ServiceOperation) (task : Nat → Nat) (log : ServiceLog)
  (owner : Nat)

/-- The identity was read by the operation under its lease, or it is that of the session that the operation has
found, read under the lease of the session. -/
def ObtainedUnder (identification : Identification) (lease : Nat) : Prop :=
  ((stateOf task log).matched owner = none ∧
      leaseOf (turnsOf owner log) = some (lease, identification.selector.probeSerial) ∧
      ReadUnder (turnsOf owner log) identification lease) ∨
    ∃ session, (stateOf task log).matched owner = some session ∧ session.lease = lease ∧
      OpenedWith log session identification

/-- An identity that passes for the probe, the target profile and the core that the operation has resolved was
obtained under a lease that is held. -/
def Gated (call : Call) : Prop :=
  ∃ resolved identification lease, resolvedOf registry (operations owner).asked (turnsOf owner log) = some resolved ∧
    (∀ selector ∈ call.named, selector = resolved) ∧ identification.passes registry = true ∧
    identification.selector.probeSerial = resolved.probeSerial ∧
    identification.selector.targetProfile = resolved.targetProfile ∧
    identification.selector.core = resolved.core ∧ ObtainedUnder task log owner identification lease ∧
    ∃ held ∈ (stateOf task log).leases, held.id = lease ∧ held.probeSerial = resolved.probeSerial

/-- The lease under which the operation works was not released, and a session that it goes through is for the
target profile that it has resolved. -/
structure Covered : Prop where
  own : (stateOf task log).matched owner = none → ∀ lease ∈ leaseOf (turnsOf owner log),
    (stateOf task log).holds lease.1 = true
  session : ∀ session ∈ (stateOf task log).matched owner, (stateOf task log).holds session.lease = true ∧
    ∀ resolved ∈ resolvedOf registry (operations owner).asked (turnsOf owner log),
      session.selector.targetProfile = resolved.targetProfile

end property

/-- The lease that a turn gives to its operation. -/
def grantOf : (call : Call) → Reply call → Option (Nat × PyStr)
  | .enter probeSerial _, .ok lease | .acquire probeSerial _, .ok lease => some (lease, probeSerial)
  | _, _ => none

section turns

variable {registry : TargetRegistry} {operations : Nat → ServiceOperation} {task : Nat → Nat} {log : ServiceLog}
  {owner : Nat} {asked : Asked} {history : History} {call : Call} {reply : Reply call} {state : ServiceState}

/-- What changes a target is done by an operation that knows it or goes through a session. -/
theorem acts_of_may (changes : (operations owner).changes call = true)
    (may : mayAct registry (operations owner).asked history call) :
    ∃ resolved, (∀ selector ∈ call.named, selector = resolved) ∧
      (Acts registry (operations owner).asked history resolved ∨
        Joins registry (operations owner).asked history resolved) := by
  cases call with
  | commander commands resolved =>
    exact ⟨resolved, fun _ h => (Option.some.inj h).symm, Or.inl (may.resolve_left (of_decide_eq_true changes))⟩
  | application name arguments =>
    have changes : (!(operations owner).asked.informs) = true := changes
    rw [Bool.not_eq_true'] at changes
    obtain ⟨resolved, acts⟩ := may.resolve_left fun informs => Bool.false_ne_true (changes.symm.trans informs.1)
    exact ⟨resolved, fun _ h => absurd h.symm (Option.some_ne_none _), Or.inl acts⟩
  | exchange port use =>
    obtain ⟨resolved, acts⟩ := may
    exact ⟨resolved, fun _ h => absurd h.symm (Option.some_ne_none _), acts⟩
  | spawnServer resolved ports => exact ⟨resolved, fun _ h => (Option.some.inj h).symm, Or.inl may⟩
  | spawnGui application arguments =>
    obtain ⟨resolved, acts⟩ := may
    exact ⟨resolved, fun _ h => absurd h.symm (Option.some_ne_none _), Or.inl acts⟩
  | _ => cases changes

theorem showsNoTarget_of_replies (log : ServiceLog) (event : OwnedTurn Call Reply) (h : Replies task log event) :
    ShowsNoTarget event.turn.call event.turn.reply := by
  obtain ⟨owner, call, reply⟩ := event
  obtain ⟨given, h⟩ := h
  cases call with
  | application name arguments =>
    cases given with
    | finished result =>
      obtain ⟨blank, hreply⟩ := Option.ite_none_right_eq_some.mp h
      cases hreply
      exact blank
    | refused error | broken error =>
      cases Option.some.inj h
      trivial
  | captureChannel sessionId channel =>
    cases given with
    | ok result =>
      obtain ⟨blank, hreply⟩ := Option.ite_none_right_eq_some.mp h
      cases hreply
      exact blank
    | error error =>
      cases Option.some.inj h
      trivial
  | _ => trivial

/-- A lease that a turn gives was not issued before, or it is held for the probe and entered again. -/
theorem grant_cases {given : Reply call} {lease : Nat} {probeSerial : PyStr}
    (issued : ∀ held ∈ state.leases, held.id ∈ state.issued)
    (h : state.answer task owner call given = some reply) (grants : grantOf call reply = some (lease, probeSerial)) :
    ((∃ held ∈ state.leases, held.id = lease ∧ held.probeSerial = probeSerial) ∧
        state.after task owner call reply = state) ∨
      lease ∉ state.issued ∧ ∃ enteredBy, state.after task owner call reply =
        state.grant ⟨lease, probeSerial, task owner, enteredBy⟩ := by
  cases call with
  | enter probe requester =>
    cases reply with
    | error error => cases grants
    | ok granted =>
      cases grants
      cases given with
      | error error => cases Option.some.inj h
      | ok number =>
        rw [ServiceState.answer] at h
        split at h
        next held hfound =>
          obtain ⟨-, hreply⟩ := Option.ite_none_right_eq_some.mp h
          cases hreply
          have hmem := List.mem_of_find?_eq_some hfound
          have hprobe := List.find?_some hfound
          have holds : state.holds held.id = true := List.any_eq_true.mpr ⟨held, hmem, decide_eq_true rfl⟩
          exact Or.inl ⟨⟨held, hmem, rfl, of_decide_eq_true hprobe⟩, if_pos holds⟩
        next =>
          obtain ⟨hfresh, hreply⟩ := Option.ite_none_left_eq_some.mp h
          cases hreply
          have fresh : lease ∉ state.issued := fun hmem => hfresh (List.contains_iff_mem.mpr hmem)
          have unheld : ¬state.holds lease = true := fun holds => by
            obtain ⟨held, hmem, hid⟩ := List.any_eq_true.mp holds
            exact fresh (of_decide_eq_true hid ▸ issued held hmem)
          exact Or.inr ⟨fresh, some owner, if_neg unheld⟩
  | acquire probe requester =>
    cases reply with
    | error error => cases grants
    | ok granted =>
      cases grants
      cases given with
      | error error => cases Option.some.inj h
      | ok number =>
        obtain ⟨hfresh, hreply⟩ := Option.ite_none_left_eq_some.mp h
        cases hreply
        refine Or.inr ⟨fun hmem => hfresh ?_, none, rfl⟩
        exact Bool.or_eq_true_iff.mpr (Or.inr (List.contains_iff_mem.mpr hmem))
  | _ => cases grants

/-- Every other turn gives no lease. -/
theorem leases_after (h : grantOf call reply = none) :
    (∀ held ∈ (state.after task owner call reply).leases, held ∈ state.leases) ∧
      (state.after task owner call reply).issued = state.issued := by
  cases call with
  | enter _ _ | acquire _ _ =>
    cases reply with
    | ok lease => cases h
    | error error => exact ⟨fun _ h => h, rfl⟩
  | leave _ | release _ => exact ⟨fun _ h => (List.mem_filter.mp h).1, rfl⟩
  | _ => exact ⟨fun _ h => h, rfl⟩

theorem grantOf_of_leaseAfter {lease : Option (Nat × PyStr)} {pair : Nat × PyStr}
    (h : leaseAfter lease call reply = some pair) : grantOf call reply = some pair ∨ lease = some pair := by
  cases call with
  | enter _ _ | acquire _ _ =>
    cases reply with
    | ok granted => exact Or.inl h
    | error error => exact Or.inr h
  | leave _ | release _ | openGdb _ _ _ | openGui _ _ _ => cases h
  | _ => exact Or.inr h

/-- A lease of an operation was given to it. -/
theorem granted_of_leaseOf {pair : Nat × PyStr} (h : leaseOf history = some pair) :
    ∃ turn ∈ history, grantOf turn.call turn.reply = some pair := by
  induction history using List.reverseRecOn with
  | nil => cases h
  | append_singleton history turn ih =>
    rw [leaseOf_concat] at h
    rcases grantOf_of_leaseAfter h with grants | earlier
    · exact ⟨turn, List.mem_append_right _ List.mem_cons_self, grants⟩
    · obtain ⟨found, hmem, grants⟩ := ih earlier
      exact ⟨found, List.mem_append_left _ hmem, grants⟩

/-- A new entry of a session is that of a session that was opened. -/
theorem gdb_after {entry : GdbEntry} (h : entry ∈ (state.after task owner call reply).gdb) :
    entry ∈ state.gdb ∨ ∃ session, call = .openGdb session entry.lease entry.identity ∧
      session.selector = entry.selector := by
  cases call with
  | openGdb session lease identity =>
    rcases List.mem_append.mp h with h | h
    · exact Or.inl h
    · cases List.mem_singleton.mp h
      exact Or.inr ⟨session, rfl, rfl⟩
  | forgetGdb id => exact Or.inl (List.mem_filter.mp h).1
  | enter _ _ =>
    cases reply with
    | ok lease =>
      rw [ServiceState.after] at h
      split at h
      next => exact Or.inl h
      next => exact Or.inl h
    | error error => exact Or.inl h
  | acquire _ _ => cases reply <;> exact Or.inl h
  | _ => exact Or.inl h

theorem matched_after_of_ne {other : Nat} (h : owner ≠ other) :
    (state.after task owner call reply).matched other = state.matched other := by
  cases call with
  | matchingGdb resolved => exact Function.update_of_ne (Ne.symm h) _ _
  | enter _ _ =>
    cases reply with
    | ok lease =>
      rw [ServiceState.after]
      split
      next => rfl
      next => rfl
    | error error => rfl
  | acquire _ _ => cases reply <;> rfl
  | _ => rfl

/-- Only `matching_gdb` finds a session. -/
theorem matched_after (h : ∀ resolved, call ≠ .matchingGdb resolved) (matched : Option Resolved) :
    (state.after task owner call reply).matched = state.matched ∧ matchAfter matched call reply = matched := by
  cases call with
  | matchingGdb resolved => exact absurd rfl (h resolved)
  | enter _ _ =>
    cases reply with
    | ok lease =>
      rw [ServiceState.after]
      split
      next => exact ⟨rfl, rfl⟩
      next => exact ⟨rfl, rfl⟩
    | error error => exact ⟨rfl, rfl⟩
  | acquire _ _ => cases reply <;> exact ⟨rfl, rfl⟩
  | _ => exact ⟨rfl, rfl⟩

end turns

/-- What is known of the leases: those that are held were issued, and each id was given for one probe. -/
structure LeasesKept (task : Nat → Nat) (log : ServiceLog) : Prop where
  issued : ∀ held ∈ (stateOf task log).leases, held.id ∈ (stateOf task log).issued
  given : ∀ held ∈ (stateOf task log).leases, ∃ event ∈ log,
    grantOf event.turn.call event.turn.reply = some (held.id, held.probeSerial)
  once : ∀ event ∈ log, ∀ lease probeSerial,
    grantOf event.turn.call event.turn.reply = some (lease, probeSerial) → lease ∈ (stateOf task log).issued ∧
      ∀ held ∈ (stateOf task log).leases, held.id = lease → held.probeSerial = probeSerial

/-- What is known of the sessions: each was opened with an identity that passed, and an operation goes through
one that is for the selector that it has resolved. -/
structure SessionsKept (registry : TargetRegistry) (task : Nat → Nat) (log : ServiceLog) : Prop where
  opened : ∀ entry ∈ (stateOf task log).gdb, ∃ identification, OpenedWith log entry identification ∧
    identification.passes registry = true
  joined : ∀ owner session, (stateOf task log).matched owner = some session →
    (∃ identification, OpenedWith log session identification ∧ identification.passes registry = true) ∧
      ∃ resolved, matchOf (turnsOf owner log) = some resolved ∧ session.isFor resolved = true
  alone : ∀ owner, (stateOf task log).matched owner = none → matchOf (turnsOf owner log) = none

section runs

variable {registry : TargetRegistry} {operations : Nat → ServiceOperation} {task : Nat → Nat} {log : ServiceLog}
  {owner : Nat} {event : OwnedTurn Call Reply}

theorem LeasesKept.concat (kept : LeasesKept task log) (h : Replies task log event) :
    LeasesKept task (log ++ [event]) := by
  obtain ⟨given, hanswer⟩ := h
  cases hgrant : grantOf event.turn.call event.turn.reply with
  | none =>
    obtain ⟨sub, hissued⟩ := @leases_after task event.owner _ _ (stateOf task log) hgrant
    refine ⟨?_, ?_, ?_⟩ <;> rw [stateOf_concat]
    · rw [hissued]
      exact fun held hheld => kept.issued held (sub held hheld)
    · intro held hheld
      obtain ⟨found, hfound, grants⟩ := kept.given held (sub held hheld)
      exact ⟨found, List.mem_append_left _ hfound, grants⟩
    · rw [hissued]
      intro found hfound lease probeSerial grants
      rcases List.mem_append.mp hfound with hfound | hfound
      · obtain ⟨hmem, hprobe⟩ := kept.once found hfound lease probeSerial grants
        exact ⟨hmem, fun held hheld => hprobe held (sub held hheld)⟩
      · rw [List.mem_singleton.mp hfound, hgrant] at grants
        cases grants
  | some pair =>
    obtain ⟨lease, probeSerial⟩ := pair
    rcases grant_cases kept.issued hanswer hgrant with ⟨⟨held, hheld, rfl, rfl⟩, hafter⟩ | ⟨fresh, enteredBy, hafter⟩
    · -- the lease is entered again
      refine ⟨?_, ?_, ?_⟩ <;> rw [stateOf_concat, hafter]
      · exact kept.issued
      · intro held hheld
        obtain ⟨found, hfound, grants⟩ := kept.given held hheld
        exact ⟨found, List.mem_append_left _ hfound, grants⟩
      · intro found hfound other probe grants
        rcases List.mem_append.mp hfound with hfound | hfound
        · exact kept.once found hfound other probe grants
        · rw [List.mem_singleton.mp hfound, hgrant] at grants
          cases grants
          obtain ⟨first, hfirst, firstGrants⟩ := kept.given held hheld
          exact kept.once first hfirst _ _ firstGrants
    · refine ⟨?_, ?_, ?_⟩ <;> rw [stateOf_concat, hafter]
      · intro held hheld
        rcases List.mem_cons.mp hheld with rfl | hheld
        · exact List.mem_cons_self
        · exact List.mem_cons_of_mem _ (kept.issued held hheld)
      · intro held hheld
        rcases List.mem_cons.mp hheld with rfl | hheld
        · exact ⟨event, List.mem_append_right _ List.mem_cons_self, hgrant⟩
        · obtain ⟨found, hfound, grants⟩ := kept.given held hheld
          exact ⟨found, List.mem_append_left _ hfound, grants⟩
      · intro found hfound other probe grants
        rcases List.mem_append.mp hfound with hfound | hfound
        · obtain ⟨hmem, hprobe⟩ := kept.once found hfound other probe grants
          refine ⟨List.mem_cons_of_mem _ hmem, fun held hheld hid => ?_⟩
          rcases List.mem_cons.mp hheld with rfl | hheld
          · have hid : lease = other := hid
            rw [← hid] at hmem
            exact absurd hmem fresh
          · exact hprobe held hheld hid
        · rw [List.mem_singleton.mp hfound, hgrant] at grants
          cases grants
          refine ⟨List.mem_cons_self, fun held hheld hid => ?_⟩
          rcases List.mem_cons.mp hheld with rfl | hheld
          · rfl
          · exact absurd (hid ▸ kept.issued held hheld) fresh

theorem leasesKept_of_run (run : ServiceRun registry operations task log) : LeasesKept task log := by
  induction run with
  | start => exact ⟨List.forall_mem_nil _, List.forall_mem_nil _, List.forall_mem_nil _⟩
  | turn _ _ admitted ih => exact ih.concat admitted

/-- A lease that an operation was given is held for the probe for which it was given. -/
theorem LeasesKept.heldFor (kept : LeasesKept task log) {lease : Nat} {probeSerial : PyStr} {history : History}
    (within : ∀ turn ∈ history, turn ∈ turnsOf owner log) (h : leaseOf history = some (lease, probeSerial))
    (holds : (stateOf task log).holds lease = true) :
    ∃ held ∈ (stateOf task log).leases, held.id = lease ∧ held.probeSerial = probeSerial := by
  obtain ⟨turn, hturn, grants⟩ := granted_of_leaseOf h
  obtain ⟨held, hheld, hid⟩ := List.any_eq_true.mp holds
  have hid := of_decide_eq_true hid
  exact ⟨held, hheld, hid, (kept.once _ (mem_turnsOf.mp (within turn hturn)) _ _ grants).2 held hheld hid⟩

/-- What an operation has to know for a call, it knows where it asks for it. -/
theorem may_of_stands (run : ServiceRun registry operations task log) {call : Call}
    {rest : Reply call → Task Call Reply Unit}
    (stands : Path ((operations owner).program registry) (turnsOf owner log) (.ask call rest)) :
    mayAct registry (operations owner).asked (turnsOf owner log) call :=
  run.may_of_stands showsNoTarget_of_replies (follows_serviceOperation _) stands

/-- A turn leaves the session that an operation has found, or finds one in the table. -/
theorem matched_cases (h : Replies task log event) (owner : Nat) :
    ((stateOf task (log ++ [event])).matched owner = (stateOf task log).matched owner ∧
        matchOf (turnsOf owner (log ++ [event])) = matchOf (turnsOf owner log)) ∨
      ∃ resolved, (stateOf task (log ++ [event])).matched owner =
          (stateOf task log).gdb.find? (GdbEntry.isFor resolved) ∧
        matchOf (turnsOf owner (log ++ [event])) =
          ((stateOf task log).gdb.find? (GdbEntry.isFor resolved)).map fun _ => resolved := by
  rw [stateOf_concat]
  by_cases howner : event.owner = owner
  · subst howner
    rw [turnsOf_concat_self, matchOf_concat]
    obtain ⟨owner, call, reply⟩ := event
    by_cases hcall : ∃ resolved, call = .matchingGdb resolved
    · obtain ⟨resolved, rfl⟩ := hcall
      obtain ⟨given, hanswer⟩ := h
      cases Option.some.inj hanswer
      refine Or.inr ⟨resolved, Function.update_self .., ?_⟩
      exact Option.map_map ..
    · obtain ⟨hmatched, hmatch⟩ := @matched_after task owner call reply (stateOf task log)
        (fun resolved heq => hcall ⟨resolved, heq⟩) (matchOf (turnsOf owner log))
      exact Or.inl ⟨congrFun hmatched owner, hmatch⟩
  · rw [turnsOf_concat_of_ne howner]
    exact Or.inl ⟨matched_after_of_ne howner, rfl⟩

theorem SessionsKept.concat (kept : SessionsKept registry task log) (h : Replies task log event)
    (may : mayAct registry (operations event.owner).asked (turnsOf event.owner log) event.turn.call) :
    SessionsKept registry task (log ++ [event]) := by
  have later : ∀ {session}, (∃ identification, OpenedWith log session identification ∧
      identification.passes registry = true) → ∃ identification, OpenedWith (log ++ [event]) session identification ∧
        identification.passes registry = true := fun ⟨identification, opened, passes⟩ =>
    ⟨identification, opened.concat event, passes⟩
  refine ⟨fun entry hentry => ?_, fun owner session hmatched => ?_, fun owner hmatched => ?_⟩
  · rw [stateOf_concat] at hentry
    rcases gdb_after hentry with hentry | ⟨session, hcall, hselector⟩
    · exact later (kept.opened entry hentry)
    · rw [hcall] at may
      obtain ⟨executed, hidentity, knows⟩ := may
      rw [hselector] at knows
      refine later ⟨⟨entry.selector, executed⟩, ⟨rfl, hidentity, event.owner, knows.read⟩, knows.passes⟩
  · rcases matched_cases h owner with ⟨hsame, hmatch⟩ | ⟨resolved, hfound, hmatch⟩
    · rw [hsame] at hmatched
      obtain ⟨opened, resolved, hresolved, isFor⟩ := kept.joined owner session hmatched
      exact ⟨later opened, resolved, hmatch.trans hresolved, isFor⟩
    · rw [hfound] at hmatched
      rw [hmatched] at hmatch
      have isFor := List.find?_some hmatched
      exact ⟨later (kept.opened session (List.mem_of_find?_eq_some hmatched)), resolved, hmatch, isFor⟩
  · rcases matched_cases h owner with ⟨hsame, hmatch⟩ | ⟨resolved, hfound, hmatch⟩
    · rw [hsame] at hmatched
      exact hmatch.trans (kept.alone owner hmatched)
    · rw [hfound] at hmatched
      rw [hmatch, hmatched]
      rfl

theorem sessionsKept_of_run (run : ServiceRun registry operations task log) :
    SessionsKept registry task log := by
  induction run with
  | start =>
    refine ⟨List.forall_mem_nil _, fun owner session h => ?_, fun _ _ => rfl⟩
    cases h
  | turn run stands admitted ih => exact ih.concat admitted (may_of_stands run stands)

/-- What is gated is covered, in whatever log. -/
theorem covered_of_gated {call : Call} (gated : Gated registry operations task log owner call) :
    Covered registry operations task log owner := by
  obtain ⟨resolved, identification, lease, hresolved, -, -, -, hprofile, -, obtained, held, hheld, hid, -⟩ := gated
  have holds : (stateOf task log).holds lease = true :=
    List.any_eq_true.mpr ⟨held, hheld, decide_eq_true hid⟩
  rcases obtained with ⟨halone, hlease, -⟩ | ⟨session, hmatched, rfl, opened⟩
  · refine ⟨fun _ own hown => ?_, fun session hmatched => ?_⟩
    · cases Option.some.inj (hlease.symm.trans hown)
      exact holds
    · exact absurd (halone.symm.trans hmatched) (Option.some_ne_none _).symm
  · refine ⟨fun halone => ?_, fun other hother => ?_⟩
    · exact absurd (halone.symm.trans hmatched) (Option.some_ne_none _).symm
    · cases Option.some.inj (hmatched.symm.trans hother)
      refine ⟨holds, fun other hother => ?_⟩
      cases Option.some.inj (hresolved.symm.trans hother)
      rw [← opened.1]
      exact hprofile

variable {call : Call} {rest : Reply call → Task Call Reply Unit}

theorem gated_of_covered (run : ServiceRun registry operations task log)
    (stands : Path ((operations owner).program registry) (turnsOf owner log) (.ask call rest))
    (changes : (operations owner).changes call = true) (covered : Covered registry operations task log owner) :
    Gated registry operations task log owner call := by
  have leases := leasesKept_of_run run
  have sessions := sessionsKept_of_run run
  obtain ⟨resolved, named, acts | joins⟩ := acts_of_may changes (may_of_stands run stands)
  · obtain ⟨lease, identity, knows⟩ := acts
    have halone : (stateOf task log).matched owner = none := by
      by_contra hmatched
      obtain ⟨session, hsession⟩ := Option.ne_none_iff_exists'.mp hmatched
      obtain ⟨-, other, hother, -⟩ := sessions.joined owner session hsession
      exact Option.some_ne_none _ (hother.symm.trans knows.holds.matched)
    have holds := covered.own halone _ knows.holds.lease
    refine ⟨resolved, ⟨resolved, identity⟩, lease, knows.holds.resolved, named, knows.passes, rfl, rfl, rfl,
      Or.inl ⟨halone, knows.holds.lease, knows.read⟩, ?_⟩
    exact leases.heldFor (fun _ h => h) knows.holds.lease holds
  · have hfound : (stateOf task log).matched owner ≠ none := fun halone =>
      Option.some_ne_none _ (joins.matched.symm.trans (sessions.alone owner halone))
    obtain ⟨session, hsession⟩ := Option.ne_none_iff_exists'.mp hfound
    obtain ⟨⟨identification, opened, passes⟩, other, hother, isFor⟩ := sessions.joined owner session hsession
    cases Option.some.inj (hother.symm.trans joins.matched)
    obtain ⟨holds, profile⟩ := covered.session session hsession
    rw [GdbEntry.isFor, Bool.and_eq_true, Bool.and_eq_true] at isFor
    have hprobe : identification.selector.probeSerial = resolved.probeSerial := by
      rw [opened.1]
      exact of_decide_eq_true isFor.1.1
    obtain ⟨opener, earlier, after, hhistory, hlease⟩ := opened.2.2
    obtain ⟨held, hheld, hid, hheldFor⟩ := leases.heldFor
      (fun turn hturn => hhistory ▸ List.mem_append_left _ hturn) hlease holds
    refine ⟨resolved, identification, session.lease, joins.resolved, named, passes, hprobe, ?_, ?_,
      Or.inr ⟨session, hsession, rfl, opened⟩, held, hheld, hid, hheldFor.trans hprobe⟩
    · rw [opened.1]
      exact profile resolved joins.resolved
    · rw [opened.1]
      exact of_decide_eq_true isFor.2

/-- In every run, whatever changes a target is gated exactly where it is covered. -/
theorem gated_iff (run : ServiceRun registry operations task log)
    (stands : Path ((operations owner).program registry) (turnsOf owner log) (.ask call rest))
    (changes : (operations owner).changes call = true) :
    Gated registry operations task log owner call ↔ Covered registry operations task log owner :=
  ⟨covered_of_gated, gated_of_covered run stands changes⟩

end runs

section benches

/-- The program is about to make such a call. -/
def asksFor (sought : Call → Bool) : Task Call Reply Unit → Bool
  | .ask call _ => sought call
  | .done _ => false

theorem exists_of_asksFor {sought : Call → Bool} {program : Task Call Reply Unit}
    (h : asksFor sought program = true) : ∃ call rest, program = .ask call rest ∧ sought call = true := by
  cases program with
  | done value => cases h
  | ask call rest => exact ⟨call, rest, rfl, h⟩

/-- The operations, each in a task of its own, take turns as the schedule says on a bench that replies so. -/
def serveBench (registry : TargetRegistry) (operations : Nat → ServiceOperation)
    (bench : Nat → (call : Call) → Reply call) (schedule : List Nat) : Option (Standing Call Reply Unit) :=
  Standing.serve (fun log owner call => (stateOf id log).answer id owner call (bench log.length call)) schedule
    ⟨[], fun owner => (operations owner).program registry⟩

theorem of_serveBench {registry : TargetRegistry} {operations : Nat → ServiceOperation}
    {bench : Nat → (call : Call) → Reply call} {schedule : List Nat} {standing : Standing Call Reply Unit}
    (h : serveBench registry operations bench schedule = some standing) :
    Standing.Of (fun owner => (operations owner).program registry) (Replies id) standing :=
  Standing.of_start.serve (fun _ _ _ _ hanswer => ⟨_, hanswer⟩) h

/-- A call of `go`. -/
def goOperation : ServiceOperation :=
  .perform (.hardware (.commanderCommands [PyStr.ofString "Go"] {} "go" true) fun h => absurd h (by decide))

/-- The operation is about to change the target, under a lease of its own that is held. -/
def ownLeaseHeld (standing : Standing Call Reply Unit) : Bool :=
  asksFor goOperation.changes (standing.programs 0) && ((stateOf id standing.log).matched 0).isNone &&
    (leaseOf (turnsOf 0 standing.log)).all fun lease => (stateOf id standing.log).holds lease.1

/-- The command file of `go` is run after the identity was read under the lease. -/
theorem go_gated : ∃ log call rest, ServiceRun [Giga.gigaR1] (fun _ => goOperation) id log ∧
    Path (goOperation.program [Giga.gigaR1]) (turnsOf 0 log) (.ask call rest) ∧ goOperation.changes call = true ∧
      Gated [Giga.gigaR1] (fun _ => goOperation) id log 0 call := by
  have shown : (serveBench [Giga.gigaR1] (fun _ => goOperation) Giga.bench (List.replicate 5 0)).any
      ownLeaseHeld = true := by decide +kernel
  obtain ⟨standing, hserve, hshown⟩ := (Option.any_eq_true _ _).mp shown
  have of := of_serveBench hserve
  obtain ⟨hboth, hheld⟩ := Bool.and_eq_true_iff.mp hshown
  obtain ⟨hasks, halone⟩ := Bool.and_eq_true_iff.mp hboth
  obtain ⟨call, rest, hprogram, changes⟩ := exists_of_asksFor hasks
  have stands := of.stands 0
  rw [hprogram] at stands
  have halone := Option.isNone_iff_eq_none.mp halone
  have covered : Covered [Giga.gigaR1] (fun _ => goOperation) id standing.log 0 := by
    refine ⟨fun _ lease hlease => ?_, fun session hsession => ?_⟩
    · exact (Option.all_eq_true _ _).mp hheld lease hlease
    · exact absurd (halone.symm.trans hsession) (Option.some_ne_none _).symm
  exact ⟨standing.log, call, rest, of.run, stands, changes, (gated_iff of.run stands changes).mpr covered⟩

/-- A board whose core has the same name, and another debug port. -/
def nucleoF767 : TargetProfile where
  id := PyStr.ofString "nucleo_f767"
  cores := [(PyStr.ofString "m7", ⟨PyStr.ofString "Cortex-M7", 0x411FC270⟩)]
  defaultCore := PyStr.ofString "m7"
  expectedDpidr := 0x5BA02477
  minimumTargetVoltage := 3
  defaultInterface := PyStr.ofString "SWD"
  defaultSpeedKhz := 4000

/-- A bench with a board of each profile, neither of which tells its serial number. -/
def twoBoards (count : Nat) : (call : Call) → Reply call
  | .discover => .ok ⟨⟨[PyStr.ofString "1"],
      [⟨none, some nucleoF767.id, some (PyStr.ofString "/dev/ttyACM0")⟩,
       ⟨none, some Giga.gigaR1.id, some (PyStr.ofString "/dev/ttyACM1")⟩],
      ["/dev/ttyACM0", "/dev/ttyACM1"].map PyStr.ofString⟩, fun _ _ => .ok false⟩
  | call => Giga.bench count call

/-- A GDB session on the one board, and an exchange with the other one. -/
def sessionAndExchange : Nat → ServiceOperation
  | 0 => .session (.startGdb { targetProfile := some Giga.gigaR1.id } none)
  | _ => .perform (.hardware (.serialExchange { targetProfile := some nucleoF767.id }
      (some (PyStr.ofString "x")) none (PyStr.ofString "2.0")) trivial)

/-- The exchange is about to use the port through a session for another profile than its own. -/
def joinsOther (standing : Standing Call Reply Unit) : Bool :=
  asksFor (sessionAndExchange 1).changes (standing.programs 1) &&
    ((stateOf id standing.log).matched 1).any fun session =>
      (resolvedOf [Giga.gigaR1, nucleoF767] (sessionAndExchange 1).asked (turnsOf 1 standing.log)).any fun resolved =>
        session.selector.targetProfile ≠ resolved.targetProfile

/-- The exchange with the second board is made with the identity of the first one. -/
theorem exchange_ungated : ∃ log call rest, ServiceRun [Giga.gigaR1, nucleoF767] sessionAndExchange id log ∧
    Path ((sessionAndExchange 1).program [Giga.gigaR1, nucleoF767]) (turnsOf 1 log) (.ask call rest) ∧
      (sessionAndExchange 1).changes call = true ∧
      ¬Gated [Giga.gigaR1, nucleoF767] sessionAndExchange id log 1 call := by
  have shown : (serveBench [Giga.gigaR1, nucleoF767] sessionAndExchange twoBoards
      (List.replicate 16 0 ++ List.replicate 5 1)).any joinsOther = true := by decide +kernel
  obtain ⟨standing, hserve, hshown⟩ := (Option.any_eq_true _ _).mp shown
  have of := of_serveBench hserve
  obtain ⟨hasks, hjoins⟩ := Bool.and_eq_true_iff.mp hshown
  obtain ⟨call, rest, hprogram, changes⟩ := exists_of_asksFor hasks
  have stands := of.stands 1
  rw [hprogram] at stands
  refine ⟨standing.log, call, rest, of.run, stands, changes, fun gated => ?_⟩
  obtain ⟨session, hsession, hany⟩ := (Option.any_eq_true _ _).mp hjoins
  obtain ⟨resolved, hresolved, hother⟩ := (Option.any_eq_true _ _).mp hany
  have hsame := ((covered_of_gated gated).session session hsession).2 resolved hresolved
  exact of_decide_eq_true hother hsame

end benches

end JLinkMcp.Service
