import JLinkMcp.ServiceSessions

namespace JLinkMcp.Service

open Host Audit TaskProgram

/-! The parts of the operations that only make calls that keep what a discipline knows. -/

section maintains

variable {Ghost α : Type} {discipline : Discipline Call Reply Ghost} {holds : Ghost → Prop}
  {registry : TargetRegistry}

theorem maintains_ask {call : Call} (keeps : discipline.Keeps holds call) :
    Maintains discipline holds (ask call) := fun ghost h =>
  ⟨(keeps ghost h).1, (keeps ghost h).2⟩

/-- A call whose outcome tells whether something was started. -/
theorem maintains_started {program : Task Call Reply (Outcome α)}
    (h : ∀ ghost, holds ghost → Follows discipline ghost program fun _ after => holds after) :
    Maintains discipline holds (started program) := fun ghost hghost =>
  follows_bind (h ghost hghost) fun _ _ hafter => follows_done hafter

theorem maintains_sleep (keeps : discipline.Keeps holds .sleep) : Maintains discipline holds sleep :=
  maintains_mk fun _ h => follows_keeps keeps h

theorem maintains_discover (keeps : discipline.Keeps holds .discover) : Maintains discipline holds discover :=
  maintains_mk fun _ h => follows_keeps keeps h

theorem maintains_append {entry : AppendCall} (keeps : discipline.Keeps holds (.append entry)) :
    Maintains discipline holds (append entry) := maintains_mk fun _ h => follows_keeps keeps h

theorem maintains_files {work : FileWork} (keeps : discipline.Keeps holds (.files work)) :
    Maintains discipline holds (files work) := maintains_mk fun _ h => follows_keeps keeps h

theorem maintains_execute {commands : List PyStr} {resolved : Resolved}
    (keeps : discipline.Keeps holds (.commander commands resolved)) :
    Maintains discipline holds (execute commands resolved) :=
  maintains_started fun _ h => follows_keeps keeps h

theorem maintains_resolveRounds (discovers : discipline.Keeps holds .discover)
    (sleeps : discipline.Keeps holds .sleep) (selector : DeviceSelector) (rounds : Nat) :
    Maintains discipline holds (resolveRounds registry selector rounds) := by
  have once : Maintains discipline holds (do
      let discovery ← discover
      orRaise (resolveSelector registry discovery.manifest discovery.verified selector)) :=
    maintains_then (maintains_discover discovers) fun _ => maintains_done _
  induction rounds with
  | zero => exact once
  | succ rounds ih =>
    exact maintains_catching once fun _ => maintains_then (maintains_sleep sleeps) fun _ => ih

theorem maintains_resolveSelectorWait (discovers : discipline.Keeps holds .discover)
    (sleeps : discipline.Keeps holds .sleep) (deadline : discipline.Keeps holds .deadline)
    (selector : DeviceSelector) : Maintains discipline holds (resolveSelectorWait registry selector) :=
  maintains_then (maintains_ask deadline) fun rounds => maintains_resolveRounds discovers sleeps selector rounds

theorem maintains_waitForSerialBoard (discovers : discipline.Keeps holds .discover)
    (sleeps : discipline.Keeps holds .sleep) (resolved : Resolved) (rounds : Nat) :
    Maintains discipline holds (waitForSerialBoard resolved rounds) := by
  induction rounds with
  | zero => exact maintains_throw _
  | succ rounds ih =>
    refine maintains_then (maintains_discover discovers) fun discovery => ?_
    split
    next => exact maintains_pure _
    next => exact maintains_then (maintains_sleep sleeps) fun _ => ih

theorem maintains_identityPreflight {resolved : Resolved}
    (commander : discipline.Keeps holds (.commander identityCommands resolved))
    (appends : ∀ entry, discipline.Keeps holds (.append entry)) (leaseId : Nat) :
    Maintains discipline holds (identityPreflight registry resolved leaseId) := by
  refine maintains_then (maintains_execute commander) fun identity => ?_
  refine maintains_then (maintains_append (appends _)) fun _ => ?_
  exact maintains_then (maintains_done _) fun _ => maintains_pure identity

theorem maintains_allowedPath? (works : ∀ work, discipline.Keeps holds (.files work)) (path : Option PyStr) :
    Maintains discipline holds (allowedPath? path) := by
  cases path with
  | none => exact maintains_pure none
  | some path => exact maintains_then (maintains_files (works _)) fun path => maintains_pure (some path)

end maintains

end JLinkMcp.Service
