import JLinkMcp.TidyWorkflows

namespace JLinkMcp.Giga

open Host Audit Service TaskProgram

section implement

variable (registry : TargetRegistry) (profile : TargetProfile)

/-- `_response` and what `status` checks of the result. -/
def statusOf (result : CommandResult) : Except ServiceError BridgeStatus :=
  if result.ok then
    match (PyJson.dict result.parsed).get? "bridge" with
    | some (.dict response) =>
      let metadata := ((PyJson.dict response).get? "metadata").getD (.dict [])
      match metadata.get? "wire_version", metadata.get? "firmware_version", metadata.get? "source_sha256" with
      | some (.int 1), some (.str firmwareVersion), some (.str sourceSha256) =>
        .ok ⟨firmwareVersion, 1, sourceSha256, result⟩
      | some (.int 1), _, _ => .error .raised
      | _, _, _ => .error (.runtimeError (pyText "protocol bridge wire-version handshake failed"))
    | _ => .error (.runtimeError (pyText "protocol bridge returned no structured response"))
  else
    .error (.runtimeError (if result.stderr = [] then pyText "protocol bridge request failed" else result.stderr))

/-- `status` of the bridge service. -/
def bridgeStatus (selector : DeviceSelector) : Coroutine BridgeStatus := do
  let resolved ← resolveSelectorWait registry selector
  if resolved.targetProfile ≠ profile.id ∨ resolved.core ≠ profile.defaultCore then
    raiseValue "the protocol bridge control plane requires the GIGA primary core"
  else
    let request := [field "operation" (Bridge.text "get_status"), field "request" (.dict []),
      field "secret_profile_fields" (.list [])]
    let result ← auditedSerialOperation registry (again resolved) (pyText "protocol_bridge_status") false request
    orRaise (statusOf result)

/-- What every step of a transaction does. -/
def implement : (step : Step) → Task Call Service.Reply step.Reply
  | .resolve selector => (resolveSelectorWait registry selector).run
  | .bridgeRelease => (files .bridgeRelease).run
  | .enter probeSerial owner => .call (Call.enter probeSerial owner)
  | .leave probeSerial => .call (Call.leave probeSerial)
  | .hardwarePreflight selector prepareDualCore => (hardwarePreflight registry selector prepareDualCore).run
  | .backupFlash address size selector => (backupFlash registry address size selector).run
  | .flashAndVerify artifactPath selector => (flashAndVerify registry artifactPath selector).run
  | .registerFirmware path => (do
      let artifact : Artifact ← files (.artifact path (pyText "protocol-bridge-release-hex"))
      files (.registerArtifact artifact)
      return artifact : Coroutine Artifact).run
  | .bridgeStatus selector => (bridgeStatus registry profile selector).run
  | .dualCoreDeploy selector m7Sketch m4Sketch =>
    (dualCoreDeploy registry selector m7Sketch m4Sketch (pyText "75_25")).run
  | .bootAndObserve selector m7ElfPath m4ElfPath =>
    (bootAndObserve registry selector (some m7ElfPath) (some m4ElfPath)).run
  | .debugFixture elfPath selector => (debugFixture registry elfPath selector).run
  | .crashCapture elfPath selector => (crashCapture registry elfPath selector).run
  | .restoreBackup backupPath address expectedSha256 selector =>
    (restoreBackup registry backupPath address expectedSha256 selector).run
  | .generateValidationReport title => (files (.validationReport title)).run

end implement

section progress

/-- The probe of a step that programs or erases flash. -/
def Step.probe? : Step → Option PyStr
  | .flashAndVerify _ selector | .dualCoreDeploy selector _ _ | .restoreBackup _ _ _ selector =>
    selector.probeSerial
  | _ => none

/-- How far a transaction has come: the release that it deploys, the leases that it holds, the backups of the
whole flash that succeeded before flash was changed, each with its probe, whether a step that changes flash
was started, and whether the last such step is a call of `restore_backup` that restores a backup. -/
structure Progress where
  release : Option BridgeRelease := none
  held : List PyStr := []
  backups : List (PyStr × Artifact) := []
  flashing : Bool := false
  restoring : Bool := false

/-- The step restores one of the backups to its own probe, the lease of which is held: with the path of the
backup, the address `0x08000000` and the hash of the backup. -/
def Progress.restores (progress : Progress) : Step → Bool
  | .restoreBackup path address sha256 selector =>
    progress.backups.any fun backup =>
      selector.probeSerial = some backup.1 && progress.held.contains backup.1 && path = backup.2.path &&
        address = 0x08000000 && sha256 = backup.2.sha256
  | _ => false

/-- The release after a step. -/
def releaseAfter (release : Option BridgeRelease) : (step : Step) → step.Reply → Option BridgeRelease
  | .bridgeRelease, .ok read => some read
  | _, _ => release

/-- The leases that are held after a step. -/
def heldAfter (held : List PyStr) : (step : Step) → step.Reply → List PyStr
  | .enter probeSerial _, .ok _ => probeSerial :: held
  | .leave probeSerial, _ => held.erase probeSerial
  | _, _ => held

/-- The backups of the whole flash, from `0x08000000` and of `0x200000` bytes, that have succeeded after a
step. -/
def backupsAfter (backups : List (PyStr × Artifact)) : (step : Step) → step.Reply → List (PyStr × Artifact)
  | .backupFlash address size selector, .ok (result, some backup) =>
    match selector.probeSerial with
    | some probeSerial =>
      if address = 0x08000000 ∧ size = 0x200000 ∧ result.ok then (probeSerial, backup) :: backups else backups
    | none => backups
  | _, _ => backups

def Progress.next (progress : Progress) (step : Step) (reply : step.Reply) : Progress where
  release := releaseAfter progress.release step reply
  held := heldAfter progress.held step reply
  -- what is read once flash was changed is no backup of the original
  backups := if progress.flashing then progress.backups else backupsAfter progress.backups step reply
  flashing := progress.flashing || step.changesFlash
  -- a step that changes flash undoes a restoration before it
  restoring := if step.changesFlash then progress.restores step else progress.restoring

/-- The flash that the step would change has a backup. -/
def Progress.covers (progress : Progress) (step : Step) : Prop :=
  ∃ backup ∈ progress.backups, step.probe? = some backup.1

/-- No step changes the flash of a probe before there is a backup of it; every reply is possible. -/
def transacting : Discipline Step Step.Reply Progress where
  may progress step := step.changesFlash = true → progress.covers step
  replied _ _ _ := True
  next := Progress.next

/-- How far a path of a transaction has come. -/
def progressOf (turns : List (Turn Step Step.Reply)) : Progress := transacting.after {} turns

/-- Where flash was changed, the transaction ends verified, or the last step that changed it was the call for
the restoration. -/
def EndsRestored {α : Type} (verified : Option BridgeRelease → α → Prop) (result : Except ServiceError α)
    (progress : Progress) : Prop :=
  progress.flashing = true →
    (∃ value, result = .ok value ∧ verified progress.release value) ∨ progress.restoring = true

/-- On every path of the transaction: no step that changes the flash of a probe is asked for before a backup
of the whole flash of that probe has succeeded, and where one was asked for, the transaction ends verified or
the last of them called for the restoration of such a backup under the lease. -/
structure RestoresFlash {α : Type} (transaction : Transaction α)
    (verified : Option BridgeRelease → α → Prop) : Prop where
  backup_first : ∀ turns step rest, Path transaction.run turns (.ask step rest) → step.changesFlash = true →
    (progressOf turns).covers step
  restored : ∀ turns result, Path transaction.run turns (.done result) →
    EndsRestored verified result (progressOf turns)

variable {α β : Type} {verified : Option BridgeRelease → α → Prop} {progress : Progress}

theorem restoresFlash_of_follows {transaction : Transaction α}
    (h : Follows transacting {} transaction.run (EndsRestored verified)) : RestoresFlash transaction verified := by
  have expected := fun turns => transacting.expected_of_any (fun _ _ _ => trivial) {} turns
  constructor
  · intro turns step rest path hflash
    exact h.may_of_path path (expected turns) hflash
  · intro turns result path
    exact h.post_of_path path (expected turns)

theorem endsRestored_of_quiet {result : Except ServiceError α} (quiet : progress.flashing = false) :
    EndsRestored verified result progress := fun h => by rw [quiet] at h; cases h

/-- A step that changes no flash, before anything else. -/
theorem follows_step (step : Step) (harmless : step.changesFlash = false)
    {post : step.Reply → Progress → Prop} (h : ∀ reply, post reply (progress.next step reply)) :
    Follows transacting progress (.call step) post := by
  refine follows_call (fun hflash => ?_) fun reply _ => h reply
  rw [harmless] at hflash
  cases hflash

/-- What is known after a step that changes no flash. -/
theorem next_of_harmless (step : Step) (reply : step.Reply) (harmless : step.changesFlash = false) :
    (progress.next step reply).flashing = progress.flashing := by
  rw [Progress.next, harmless, Bool.or_false]

/-- The body under a lease, from a state in which no flash was changed. -/
theorem follows_underLease {probeSerial owner : PyStr} {body : Transaction α} (quiet : progress.flashing = false)
    (h : ∀ inside : Progress, inside.release = progress.release → inside.held = probeSerial :: progress.held →
      inside.flashing = false → Follows transacting inside body.run (EndsRestored verified)) :
    Follows transacting progress (underLease probeSerial owner body).run (EndsRestored verified) := by
  have entering : Follows transacting progress (.call (Step.enter probeSerial owner)) fun reply after =>
      after.release = progress.release ∧ after.flashing = false ∧
        ∀ leaseId, reply = .ok leaseId → after.held = probeSerial :: progress.held := by
    refine follows_step (Step.enter probeSerial owner) rfl fun reply => ⟨rfl, ?_, ?_⟩
    · exact (next_of_harmless (.enter probeSerial owner) reply rfl).trans quiet
    · intro leaseId hreply
      rw [hreply]
      rfl
  refine follows_then entering (fun leaseId inside hinside => ?_) fun error after hafter => ?_
  · obtain ⟨hrelease, hquiet, hheld⟩ := hinside
    refine follows_ensuring (h inside hrelease (hheld leaseId rfl) hquiet) fun result after hafter => ?_
    -- the end of the lease changes nothing that the end of the transaction is judged by
    refine ⟨fun hflash => (nomatch hflash), fun reply _ => ?_⟩
    intro hflash
    have hended := hafter ((next_of_harmless (.leave probeSerial) reply rfl).symm.trans hflash)
    exact hended
  · exact endsRestored_of_quiet hafter.2.1

theorem follows_caught {body : Transaction α} {post : Except ServiceError α → Progress → Prop}
    (h : Follows transacting progress body.run post) :
    Follows transacting progress (caught body).run fun result after => ∃ value, result = .ok value ∧
      post value after :=
  follows_bind h fun value _ hpost => follows_done ⟨value, rfl, hpost⟩

/-- The restoration of a backup that succeeded, under the lease of its probe. -/
theorem follows_restoreFrom {backup : Artifact} {selector : DeviceSelector} {probeSerial : PyStr}
    (hbackup : (probeSerial, backup) ∈ progress.backups) (hselector : selector.probeSerial = some probeSerial)
    (hheld : probeSerial ∈ progress.held) :
    Follows transacting progress (restoreFrom backup selector).run fun _ after => after.restoring = true := by
  refine follows_call (fun _ => ⟨(probeSerial, backup), hbackup, hselector⟩) fun reply _ => ?_
  have hcontains : progress.held.contains probeSerial = true := List.contains_iff_mem.mpr hheld
  have hrestores : progress.restores (.restoreBackup backup.path flashStart backup.sha256 selector) = true := by
    rw [Progress.restores, hselector, List.any_eq_true]
    refine ⟨(probeSerial, backup), hbackup, ?_⟩
    simp only [flashStart, hcontains, decide_true, Bool.and_self]
  exact hrestores

/-- A restoration that was called for stays the last step that changed flash. -/
theorem restoring_next {step : Step} {reply : step.Reply} (harmless : step.changesFlash = false)
    (h : progress.restoring = true) : (progress.next step reply).restoring = true := by
  rw [Progress.next, harmless]
  exact h

/-- The progress has this release, holds these leases and has these backups. -/
structure Carries (release : Option BridgeRelease) (held : List PyStr) (backups : List (PyStr × Artifact))
    (progress : Progress) : Prop where
  release : progress.release = release
  held : progress.held = held
  backups : progress.backups = backups

variable {release : Option BridgeRelease} {held : List PyStr} {backups : List (PyStr × Artifact)}

/-- A step that reads no release, takes or leaves no lease and makes no backup. -/
def stays : Step → Bool
  | .bridgeRelease | .enter _ _ | .leave _ | .backupFlash _ _ _ => false
  | _ => true

theorem Carries.next (h : Carries release held backups progress) {step : Step} (reply : step.Reply)
    (hstays : stays step = true) : Carries release held backups (progress.next step reply) := by
  obtain ⟨rfl, rfl, rfl⟩ := h
  cases step <;> first | exact ⟨rfl, rfl, ite_self _⟩ | cases hstays

theorem Carries.follows (h : Carries release held backups progress) (step : Step) (hstays : stays step = true)
    (hbackups : step.changesFlash = true → ∃ backup ∈ backups, step.probe? = some backup.1) :
    Follows transacting progress (.call step) fun _ after => Carries release held backups after := by
  refine follows_call (fun hflash => ?_) fun reply _ => h.next reply hstays
  rw [Progress.covers, h.backups]
  exact hbackups hflash

theorem backups_next {step : Step} {reply : step.Reply} (quiet : progress.flashing = false) :
    (progress.next step reply).backups = backupsAfter progress.backups step reply := by
  rw [Progress.next, quiet]
  rfl

theorem backupsAfter_whole {selector : DeviceSelector} {probeSerial : PyStr} {result : CommandResult}
    {backup : Artifact} (hselector : selector.probeSerial = some probeSerial) (hok : result.ok = true) :
    backupsAfter backups (.backupFlash flashStart flashSize selector) (.ok (result, some backup)) =
      (probeSerial, backup) :: backups := by
  cases selector
  cases hselector
  exact if_pos ⟨rfl, rfl, hok⟩

/-- A backup of the whole flash, where no flash was changed. -/
theorem follows_wholeBackup {selector : DeviceSelector} {probeSerial : PyStr}
    (hselector : selector.probeSerial = some probeSerial) (quiet : progress.flashing = false) :
    Follows transacting progress (wholeBackup selector).run fun reply after =>
      after.flashing = false ∧ ∀ backup value, reply = .ok value → usableBackup value = some backup →
        Carries progress.release progress.held ((probeSerial, backup) :: progress.backups) after := by
  refine follows_step (.backupFlash flashStart flashSize selector) rfl fun reply => ⟨?_, ?_⟩
  · exact (next_of_harmless (.backupFlash flashStart flashSize selector) reply rfl).trans quiet
  · rintro backup ⟨result, artifact⟩ rfl husable
    rw [usableBackup] at husable
    split at husable
    next hok =>
      cases husable
      exact ⟨rfl, rfl, (backups_next quiet).trans (backupsAfter_whole hselector hok)⟩
    next => cases husable

section deploy

/-- The `try` block of `deploy_protocol_bridge`, from the backup on. -/
theorem follows_flashBridge {read : BridgeRelease} {preflight : Preflight} {backup : Artifact}
    {selector : DeviceSelector} {probeSerial : PyStr} (h : Carries release held backups progress)
    (hbackup : (probeSerial, backup) ∈ backups) (hselector : selector.probeSerial = some probeSerial) :
    Follows transacting progress (flashBridge read preflight backup selector).run fun result after =>
      Carries release held backups after ∧
        ∀ value, result = .ok value → matchesRelease read value.handshake = true := by
  have flashes := h.follows (.flashAndVerify read.stagedHex selector) rfl fun _ =>
    ⟨(probeSerial, backup), hbackup, hselector⟩
  refine follows_then flashes (fun flash flashed hflashed => ?_) fun error after hafter =>
    ⟨hafter, fun _ h => (nomatch h)⟩
  split
  next =>
    have registers := hflashed.follows (.registerFirmware read.stagedHex) rfl nofun
    refine follows_then registers (fun firmware registered hregistered => ?_)
      fun error after hafter => ⟨hafter, fun _ h => (nomatch h)⟩
    have answers := hregistered.follows (.bridgeStatus selector) rfl nofun
    refine follows_then answers (fun handshake answered hanswered => ?_) fun error after hafter =>
      ⟨hafter, fun _ h => (nomatch h)⟩
    split
    next hmatches =>
      refine follows_done ⟨hanswered, fun value hvalue => ?_⟩
      cases hvalue
      exact hmatches
    next => exact follows_done ⟨hanswered, fun _ h => (nomatch h)⟩
  next => exact follows_done ⟨hflashed, fun _ h => (nomatch h)⟩

/-- What a deployment has verified. -/
def verifiedDeployment (release : Option BridgeRelease) (deployed : Deployed) : Prop :=
  ∃ read, release = some read ∧ matchesRelease read deployed.handshake = true

theorem follows_deployLocked {read : BridgeRelease} {preflight : Preflight} {selector : DeviceSelector}
    {probeSerial : PyStr} (hrelease : progress.release = some read) (quiet : progress.flashing = false)
    (hselector : selector.probeSerial = some probeSerial) (hheld : probeSerial ∈ progress.held) :
    Follows transacting progress (deployLocked read preflight selector).run (EndsRestored verifiedDeployment) := by
  refine follows_then (follows_wholeBackup hselector quiet) (fun value after hafter => ?_) fun error after hafter =>
    endsRestored_of_quiet hafter.1
  split
  next => exact follows_done (endsRestored_of_quiet hafter.1)
  next backup husable =>
    have hcarries := hafter.2 backup value rfl husable
    rw [hrelease] at hcarries
    refine follows_catching (follows_flashBridge hcarries List.mem_cons_self hselector)
      (fun deployed after hafter => ?_) (fun error after hafter _ => ?_)
      fun error after hafter hclause => nomatch hclause
    · exact fun _ => Or.inl ⟨deployed, rfl, read, hafter.1.release, hafter.2 deployed rfl⟩
    · have hbackup : (probeSerial, backup) ∈ after.backups := by
        rw [hafter.1.backups]
        exact List.mem_cons_self
      have hlease : probeSerial ∈ after.held := by
        rw [hafter.1.held]
        exact hheld
      -- whatever the restoration gives or raises, it was called for
      refine follows_then (follows_caught (follows_restoreFrom hbackup hselector hlease))
        (fun restored after hafter => ?_)
        fun error after hafter => ?_
      · obtain ⟨_, _, hrestoring⟩ := hafter
        exact follows_done fun _ => Or.inr hrestoring
      · obtain ⟨_, herror, _⟩ := hafter
        cases herror

theorem follows_deployProtocolBridge (profile : TargetProfile) (selector : DeviceSelector) :
    Follows transacting {} (deployProtocolBridge profile selector).run (EndsRestored verifiedDeployment) := by
  have start : Carries none [] [] {} := ⟨rfl, rfl, rfl⟩
  have resolves : Follows transacting {} (.call (Step.resolve selector)) fun _ after => after.flashing = false :=
    follows_step (Step.resolve selector) rfl fun _ => rfl
  refine follows_then resolves (fun resolved after hquiet => ?_) fun _ _ hquiet => endsRestored_of_quiet hquiet
  split
  next => exact follows_done (endsRestored_of_quiet hquiet)
  next =>
    have reads : Follows transacting after (.call Step.bridgeRelease) fun reply later =>
        later.flashing = false ∧ ∀ read, reply = .ok read → later.release = some read := by
      refine follows_step Step.bridgeRelease rfl fun reply => ⟨?_, ?_⟩
      · exact (next_of_harmless .bridgeRelease reply rfl).trans hquiet
      · rintro read rfl
        rfl
    refine follows_then reads (fun read after hafter => ?_) fun _ _ hafter => endsRestored_of_quiet hafter.1
    have hrelease : after.release = some read := hafter.2 read rfl
    have preflights : Follows transacting after (.call (Step.hardwarePreflight (again resolved) true))
        fun _ later => later.flashing = false ∧ later.release = some read := by
      refine follows_step (.hardwarePreflight (again resolved) true) rfl fun reply => ⟨?_, hrelease⟩
      exact (next_of_harmless (.hardwarePreflight (again resolved) true) reply rfl).trans hafter.1
    refine follows_then preflights (fun preflight later hlater => ?_) fun _ _ hlater =>
      endsRestored_of_quiet hlater.1
    split
    next =>
      refine follows_underLease hlater.1 fun inside hread hheld hquiet => ?_
      have hlease : resolved.probeSerial ∈ inside.held := by
        rw [hheld]
        exact List.mem_cons_self
      exact follows_deployLocked (hread.trans hlater.2) hquiet rfl hlease
    next => exact follows_done (endsRestored_of_quiet hlater.1)

end deploy

section validate

/-- The `try` block of `_validate_fixture_locked` keeps the lease and the backup. -/
theorem follows_exerciseFixture {resolved : Resolved} {m7Sketch m4Sketch : PyStr} {noted : Validated}
    {backup : Artifact} (h : Carries release held backups progress)
    (hbackup : (resolved.probeSerial, backup) ∈ backups) :
    Follows transacting progress (exerciseFixture resolved m7Sketch m4Sketch noted) fun _ after =>
      Carries release held backups after := by
  have stage : ∀ {α : Type} {progress : Progress} {noted : Validated} {body : Transaction α}
      {next : α → Task Step Step.Reply Validated},
      Follows transacting progress body.run (fun _ after => Carries release held backups after) →
      (∀ value after, Carries release held backups after →
        Follows transacting after (next value) fun _ after => Carries release held backups after) →
      Follows transacting progress (noting noted body next) fun _ after => Carries release held backups after := by
    intro α progress noted body next first rest
    refine follows_bind first fun result after hafter => ?_
    cases result with
    | ok value => exact rest value after hafter
    | error error => exact follows_done hafter
  have finds : ∀ {progress : Progress} (artifacts : List Artifact) (part : String),
      Carries release held backups progress → Follows transacting progress (elfPath artifacts part).run
        fun _ after => Carries release held backups after := by
    intro progress artifacts part hcarries
    rw [elfPath]
    split
    next => exact follows_done hcarries
    next => exact follows_done hcarries
  refine stage (h.follows (.dualCoreDeploy _ _ _) rfl fun _ => ⟨_, hbackup, rfl⟩) fun deploy after hafter => ?_
  refine stage (finds _ _ hafter) fun m7Elf after hafter => ?_
  refine stage (finds _ _ hafter) fun m4Elf after hafter => ?_
  refine stage (hafter.follows (.bootAndObserve _ _ _) rfl (fun h => nomatch h)) fun observe after hafter => ?_
  refine stage (hafter.follows (.debugFixture _ _) rfl (fun h => nomatch h)) fun debug after hafter => ?_
  refine stage (hafter.follows (.crashCapture _ _) rfl (fun h => nomatch h)) fun crash after hafter => ?_
  exact follows_done hafter

/-- Nothing verifies a validation: it restores whatever its steps gave. -/
def neverVerified (_ : Option BridgeRelease) (_ : ValidationReport) : Prop := False

theorem follows_validateAndRestore {resolved : Resolved} {m7Sketch m4Sketch : PyStr} {backup : Artifact}
    {steps : List ValidationStep} (hbackup : (resolved.probeSerial, backup) ∈ progress.backups)
    (hheld : resolved.probeSerial ∈ progress.held) :
    Follows transacting progress (validateAndRestore resolved m7Sketch m4Sketch backup steps).run
      (EndsRestored neverVerified) := by
  have carries : Carries progress.release progress.held progress.backups progress := ⟨rfl, rfl, rfl⟩
  have exercises : Follows transacting progress
      (ExceptT.lift (exerciseFixture resolved m7Sketch m4Sketch ⟨steps, [backup], none⟩) :
        Transaction Validated).run
      fun result after => (∃ value, result = .ok value) ∧
        Carries progress.release progress.held progress.backups after :=
    follows_bind (follows_exerciseFixture carries hbackup) fun value _ hafter =>
      follows_done ⟨⟨value, rfl⟩, hafter⟩
  refine follows_then exercises (fun validated after hafter => ?_) fun error after hafter => ?_
  · have restores : Follows transacting after (restoreFrom backup (onCore resolved "m7")).run
        fun _ after => after.restoring = true := by
      rw [← hafter.2.backups] at hbackup
      rw [← hafter.2.held] at hheld
      exact follows_restoreFrom hbackup rfl hheld
    refine follows_then (follows_caught restores) (fun restored after hafter => ?_) fun error after hafter => ?_
    · obtain ⟨_, _, hrestoring⟩ := hafter
      have ended : ∀ result, EndsRestored neverVerified result after := fun _ _ => Or.inr hrestoring
      split
      next => exact follows_done (ended _)
      next => exact follows_done (ended _)
      next =>
        have reports : Follows transacting after (.call (Step.generateValidationReport
            (pyText "GIGA fixture validation"))) fun _ later => later.restoring = true := by
          refine follows_step (.generateValidationReport (pyText "GIGA fixture validation")) rfl fun reply => ?_
          exact restoring_next rfl hrestoring
        exact follows_then reports (fun report later hlater => follows_done fun _ => Or.inr hlater)
          fun error later hlater => fun _ => Or.inr hlater
    · obtain ⟨_, herror, _⟩ := hafter
      cases herror
  · obtain ⟨⟨_, herror⟩, _⟩ := hafter
    cases herror

theorem follows_validateFixtureLocked {resolved : Resolved} {m7Sketch m4Sketch : PyStr}
    (quiet : progress.flashing = false) (hheld : resolved.probeSerial ∈ progress.held) :
    Follows transacting progress (validateFixtureLocked resolved m7Sketch m4Sketch).run
      (EndsRestored neverVerified) := by
  rw [validateFixtureLocked]
  split
  next => exact follows_done (endsRestored_of_quiet quiet)
  next =>
    have preflights : Follows transacting progress (.call (Step.hardwarePreflight (again resolved) false))
        fun _ later => later.flashing = false ∧ later.held = progress.held := by
      refine follows_step (.hardwarePreflight (again resolved) false) rfl fun reply => ⟨?_, rfl⟩
      exact (next_of_harmless (.hardwarePreflight (again resolved) false) reply rfl).trans quiet
    refine follows_then preflights (fun preflight later hlater => ?_) fun _ _ hlater =>
      endsRestored_of_quiet hlater.1
    split
    next =>
      refine follows_then (follows_wholeBackup rfl hlater.1) (fun value last hlast => ?_) fun _ _ hlast =>
        endsRestored_of_quiet hlast.1
      split
      next => exact follows_done (endsRestored_of_quiet hlast.1)
      next backup husable =>
        have hcarries := hlast.2 backup value rfl husable
        refine follows_validateAndRestore ?_ ?_
        · rw [hcarries.backups]
          exact List.mem_cons_self
        · rw [hcarries.held, hlater.2]
          exact hheld
    next => exact follows_done (endsRestored_of_quiet hlater.1)

theorem follows_validateFixture (selector : DeviceSelector) (m7Sketch m4Sketch : PyStr) :
    Follows transacting {} (validateFixture selector m7Sketch m4Sketch).run (EndsRestored neverVerified) := by
  have resolves : Follows transacting {} (.call (Step.resolve selector)) fun _ after => after.flashing = false :=
    follows_step (Step.resolve selector) rfl fun _ => rfl
  refine follows_then resolves (fun resolved after hquiet => ?_) fun _ _ hquiet => endsRestored_of_quiet hquiet
  refine follows_underLease hquiet fun inside _ hheld hquiet => follows_validateFixtureLocked hquiet ?_
  rw [hheld]
  exact List.mem_cons_self

end validate

end progress

section implementation

variable {allowed : Call → Prop} (registry : TargetRegistry) (profile : TargetProfile)

theorem tidy_bridgeStatus (permits : Permits allowed) (selector : DeviceSelector) :
    Tidy allowed (bridgeStatus registry profile selector) := by
  refine tidy_then (tidy_resolveSelectorWait permits.plain selector) fun resolved => ?_
  split
  next => exact tidy_throw _
  next => exact tidy_then (tidy_auditedSerialOperation permits _ _ _ _) fun result => tidy_orRaise _

/-- What a step does enters and leaves the leases that the step stands for, and changes flash only where the
step does. -/
theorem follows_implement (permits : Permits allowed) (step : Step)
    (acquires : ∀ selector resolved owner, step.session? = some selector → Selects selector resolved →
      allowed (.acquire resolved.probeSerial owner))
    (flashes : step.changesFlash = true → ∀ commands resolved, allowed (.commander commands resolved))
    {entered : List PyStr} (leaves : ∀ probeSerial, step = .leave probeSerial → probeSerial ∈ entered) :
    Follows (making allowed) entered (implement registry profile step) fun reply after =>
      after = heldAfter entered step reply := by
  cases step with
  | resolve selector => exact tidy_resolveSelectorWait permits.plain selector entered
  | bridgeRelease => exact tidy_files permits.plain .bridgeRelease entered
  | enter probeSerial owner =>
    refine follows_call ⟨permits.enter probeSerial owner, fun _ h => (nomatch h)⟩ fun reply _ => ?_
    cases reply with
    | ok leaseId => rfl
    | error error => rfl
  | leave probeSerial =>
    exact follows_call ⟨permits.leave probeSerial, fun _ h => leaves _ (by cases h; rfl)⟩ fun _ _ => rfl
  | hardwarePreflight selector prepareDualCore =>
    exact tidy_hardwarePreflight permits selector prepareDualCore entered
  | backupFlash address size selector => exact tidy_backupFlash permits address size selector entered
  | flashAndVerify artifactPath selector =>
    exact tidy_flashAndVerify permits (flashes rfl) artifactPath selector entered
  | registerFirmware path =>
    exact tidy_then (tidy_files permits.plain _) (fun artifact => tidy_then (tidy_files permits.plain _) fun _ =>
      tidy_pure artifact) entered
  | bridgeStatus selector => exact tidy_bridgeStatus registry profile permits selector entered
  | dualCoreDeploy selector m7Sketch m4Sketch =>
    exact tidy_dualCoreDeploy permits (flashes rfl) selector m7Sketch m4Sketch _ entered
  | bootAndObserve selector m7ElfPath m4ElfPath =>
    exact tidy_bootAndObserve permits selector (some m7ElfPath) (some m4ElfPath) entered
  | debugFixture elfPath selector =>
    exact tidy_debugFixture permits (fun resolved owner h => acquires selector resolved owner rfl h) elfPath entered
  | crashCapture elfPath selector =>
    exact tidy_crashCapture permits (fun resolved owner h => acquires selector resolved owner rfl h) elfPath entered
  | restoreBackup backupPath address expectedSha256 selector =>
    exact tidy_restoreBackup permits (flashes rfl) backupPath address expectedSha256 selector entered
  | generateValidationReport title => exact tidy_files permits.plain (.validationReport title) entered

/-- Everything but what changes flash. -/
theorem permits_noFlash : Permits fun call => call.changesFlash = false where
  plain call hplain := by
    cases call <;> first | rfl | cases hplain
  enter _ _ := rfl
  leave _ := rfl
  commander commands resolved h := by
    rw [Call.changesFlash, List.any_eq_false]
    intro command hcommand
    rw [h command hcommand]
    exact Bool.false_ne_true

/-- Both flash transactions back up the whole flash of a probe before they change it, and where they changed it
the last step that does is the call for the restoration of that backup under their lease, unless a deployment
ends with a verified handshake. The steps that are not said to change flash run no command that does, and
what a step does enters and leaves the leases that the step stands for, and no others. -/
theorem transactions_restore_flash (registry : TargetRegistry) (profile : TargetProfile) :
    (∀ selector, RestoresFlash (deployProtocolBridge profile selector) verifiedDeployment) ∧
      (∀ selector m7Sketch m4Sketch, RestoresFlash (validateFixture selector m7Sketch m4Sketch) neverVerified) ∧
      (∀ step turns call rest, step.changesFlash = false →
        Path (implement registry profile step) turns (.ask call rest) → call.changesFlash = false) ∧
      ∀ step turns reply entered, Path (implement registry profile step) turns (.done reply) →
        turns.foldl (fun entered turn => enteredAfter entered turn.call turn.reply) entered =
          heldAfter entered step reply := by
  refine ⟨fun selector => restoresFlash_of_follows (follows_deployProtocolBridge profile selector),
    fun selector m7Sketch m4Sketch => restoresFlash_of_follows (follows_validateFixture selector m7Sketch m4Sketch),
    fun step turns call rest hflash path => ?_, fun step turns reply entered path => ?_⟩
  · obtain ⟨entered, leaves⟩ : ∃ entered, ∀ probeSerial, step = .leave probeSerial → probeSerial ∈ entered := by
      cases step with
      | leave probeSerial => exact ⟨[probeSerial], fun _ h => by cases h; exact List.mem_cons_self⟩
      | _ => exact ⟨[], fun _ h => (nomatch h)⟩
    have expected := (making fun call => call.changesFlash = false).expected_of_any (fun _ _ _ => trivial)
        entered turns
    have follows := follows_implement registry profile permits_noFlash step (fun _ _ _ _ _ => rfl)
      (fun h => by rw [hflash] at h; cases h) leaves
    exact (follows.may_of_path path expected).1
  · have anything : Permits fun _ => True := ⟨fun _ _ => trivial, fun _ _ => trivial, fun _ => trivial,
      fun _ _ _ => trivial⟩
    have expected := (making fun _ => True).expected_of_any (fun _ _ _ => trivial) entered turns
    by_cases hleave : ∃ probeSerial, step = .leave probeSerial
    · obtain ⟨probeSerial, rfl⟩ := hleave
      cases path with
      | turn path =>
        cases path
        rfl
    · have leaves : ∀ probeSerial, step = .leave probeSerial → probeSerial ∈ entered := fun probeSerial h =>
        absurd ⟨probeSerial, h⟩ hleave
      have follows := follows_implement registry profile anything step (fun _ _ _ _ _ => trivial)
        (fun _ _ _ => trivial) leaves
      exact follows.post_of_path path expected

end implementation

end JLinkMcp.Giga
