import JLinkMcp.AuditListing
import JLinkMcp.SecurityText
import JLinkMcp.ServiceIdentity
import Mathlib.Data.List.Dedup

namespace JLinkMcp.Service

open Host Audit Security

section validators

variable (isalnum : CodePoint → Bool)

/-- `text.replace("-", "").replace("_", "").isalnum()` -/
def isIdentifier (text : PyStr) : Bool :=
  let letters := text.filter fun c => !(c.is '-' || c.is '_')
  !letters.isEmpty && letters.all isalnum

def validateSerial : Option PyStr → Except PyError (Option PyStr)
  | none => .ok none
  | some value =>
    let value := strip value
    if value.isEmpty || !isIdentifier isalnum value then
      .error (.valueError "serial identifiers must be non-empty alphanumerics")
    else .ok (some value)

/-- `normalize_selector_identifier` of a string -/
def normalizeSelectorIdentifier (value : PyStr) : Except PyError PyStr :=
  let normalized := strip value
  if normalized.isEmpty || 128 < normalized.length || !isIdentifier isalnum normalized then
    .error (.valueError "target profile and core identifiers must be non-empty alphanumerics with '-' or '_'")
  else .ok normalized

def validateIdentifier : Option PyStr → Except PyError (Option PyStr)
  | none => .ok none
  | some value => (normalizeSelectorIdentifier isalnum value).map some

/-- The selector that pydantic makes of the given fields, and `none` where it refuses them. -/
def DeviceSelector.validate? (given : DeviceSelector) : Option DeviceSelector := do
  let probeSerial ← (validateSerial isalnum given.probeSerial).toOption
  let boardSerial ← (validateSerial isalnum given.boardSerial).toOption
  let targetProfile ← (validateIdentifier isalnum given.targetProfile).toOption
  let core ← (validateIdentifier isalnum given.core).toOption
  guard (given.speedKhz.all fun speed => 5 ≤ speed && speed ≤ 50000)
  return { given with probeSerial, boardSerial, targetProfile, core }

/-- `_require_canonical_identifier` -/
def requireCanonicalIdentifier (value : PyStr) (kind : String) : Except PyError Unit := do
  let normalized ← normalizeSelectorIdentifier isalnum value
  if normalized ≠ value then
    throw (.valueError (kind ++ " must use the canonical selector identifier format"))

/-- `TargetProfile.__post_init__`. The id of a core profile is its key in `cores`. -/
def TargetProfile.postInit (profile : TargetProfile) : Except PyError Unit := do
  requireCanonicalIdentifier isalnum profile.id "target profile id"
  if profile.cores.isEmpty then throw (.valueError "target profile must declare at least one core")
  if (profile.core? profile.defaultCore).isNone then
    throw (.valueError "target profile default_core is not registered")
  if profile.minimumTargetVoltage ≤ 0 then
    throw (.valueError "target profile minimum_target_voltage must be finite and positive")
  if (strip profile.defaultInterface).isEmpty then
    throw (.valueError "target profile default_interface must not be empty")
  if profile.defaultSpeedKhz < 5 ∨ 50000 < profile.defaultSpeedKhz then
    throw (.valueError "target profile default_speed_khz must be between 5 and 50000")
  profile.cores.forM fun core => requireCanonicalIdentifier isalnum core.1 "target profile core key"

variable {isalnum} {value normalized : PyStr} {profile : TargetProfile}

theorem ne_nil_of_validateSerial {given : Option PyStr}
    (h : validateSerial isalnum given = .ok (some value)) :
    value ≠ [] := by
  cases given with
  | none => cases h
  | some text =>
    rw [validateSerial] at h
    split at h
    next => cases h
    next hvalid =>
      obtain rfl := Option.some.inj (Except.ok.inj h)
      intro hempty
      simp [hempty] at hvalid

theorem ne_nil_of_normalize (h : normalizeSelectorIdentifier isalnum value = .ok normalized) :
    normalized ≠ [] := by
  rw [normalizeSelectorIdentifier] at h
  split at h
  next => cases h
  next hvalid =>
    obtain rfl := Except.ok.inj h
    intro hempty
    simp [hempty] at hvalid

theorem ne_nil_of_validateIdentifier {given : Option PyStr}
    (h : validateIdentifier isalnum given = .ok (some value)) : value ≠ [] := by
  cases given with
  | none => cases h
  | some text =>
    rw [validateIdentifier] at h
    cases hnormalized : normalizeSelectorIdentifier isalnum text with
    | error e => rw [hnormalized] at h; cases h
    | ok normalized =>
      rw [hnormalized] at h
      obtain rfl := Option.some.inj (Except.ok.inj h)
      exact ne_nil_of_normalize hnormalized

theorem ne_nil_of_canonical {kind : String} (h : requireCanonicalIdentifier isalnum value kind = .ok ()) :
    value ≠ [] := by
  obtain ⟨normalized, hnormalized, h⟩ := Except.then_ok h
  split at h
  next => cases h
  next heq =>
    rw [not_not] at heq
    exact heq ▸ ne_nil_of_normalize hnormalized

theorem Except.passed {α ε : Type} {refused : Prop} [Decidable refused] {e : ε} {next : Unit → Except ε α}
    {a : α}
    (h : (if refused then (throw e : Except ε Unit) >>= next else next ()) = .ok a) :
    ¬refused ∧ next () = .ok a := by
  split at h
  next => cases h
  next hpassed => exact ⟨hpassed, h⟩

theorem forM_ok {α ε : Type} {check : α → Except ε Unit} {items : List α} (h : items.forM check = .ok ()) :
    ∀ item ∈ items, check item = .ok () := by
  induction items with
  | nil => simp
  | cons item items ih =>
    rw [List.forM_eq_forM, List.forM_cons] at h
    obtain ⟨u, hitem, h⟩ := Except.then_ok h
    intro other hother
    rcases List.mem_cons.mp hother with rfl | hother
    · exact hitem
    · exact ih h other hother

/-- What the selection relies on in a profile. -/
structure TargetProfile.Usable (profile : TargetProfile) : Prop where
  defaultCore : (profile.core? profile.defaultCore).isSome = true
  named : ∀ core ∈ profile.cores, core.1 ≠ []

theorem usable_of_postInit (h : profile.postInit isalnum = .ok ()) : profile.Usable := by
  obtain ⟨_, -, h⟩ := Except.then_ok h
  dsimp only at h
  obtain ⟨-, h⟩ := Except.passed h
  obtain ⟨hdefault, h⟩ := Except.passed h
  obtain ⟨-, h⟩ := Except.passed h
  obtain ⟨-, h⟩ := Except.passed h
  obtain ⟨-, h⟩ := Except.passed h
  exact ⟨by simpa [Option.isSome_iff_ne_none] using hdefault, fun core hcore =>
    ne_nil_of_canonical (forM_ok h core hcore)⟩

theorem TargetProfile.Usable.ne_nil (usable : profile.Usable) {core : PyStr}
    (h : (profile.core? core).isSome = true) : core ≠ [] := by
  rw [TargetProfile.core?, Option.isSome_map] at h
  obtain ⟨item, hitem⟩ := Option.isSome_iff_exists.mp h
  have hname : item.1 = core := by simpa using List.find?_some hitem
  exact hname ▸ usable.named item (List.mem_of_find?_eq_some hitem)

/-- The texts that the validators let through are not empty. -/
structure DeviceSelector.Named (selector : DeviceSelector) : Prop where
  boardSerial : ∀ serial, selector.boardSerial = some serial → serial ≠ []
  core : ∀ core, selector.core = some core → core ≠ []

theorem ok_of_toOption {α ε : Type} {x : Except ε α} {a : α} (h : x.toOption = some a) : x = .ok a := by
  cases x with
  | error e => cases h
  | ok b => rw [Option.some.inj h]

theorem named_of_validate {given selector : DeviceSelector} (h : given.validate? isalnum = some selector) :
    selector.Named := by
  rw [DeviceSelector.validate?] at h
  obtain ⟨probeSerial, hprobe, h⟩ := Option.bind_eq_some_iff.mp h
  obtain ⟨boardSerial, hboard, h⟩ := Option.bind_eq_some_iff.mp h
  obtain ⟨targetProfile, hprofile, h⟩ := Option.bind_eq_some_iff.mp h
  obtain ⟨core, hcore, h⟩ := Option.bind_eq_some_iff.mp h
  obtain ⟨u, -, h⟩ := Option.bind_eq_some_iff.mp h
  obtain rfl := Option.some.inj h
  refine ⟨fun serial hserial => ?_, fun name hname => ?_⟩
  · rw [show boardSerial = some serial from hserial] at hboard
    exact ne_nil_of_validateSerial (ok_of_toOption hboard)
  · rw [show core = some name from hname] at hcore
    exact ne_nil_of_validateIdentifier (ok_of_toOption hcore)

end validators

section audited

variable (floatTruth : PyStr → Bool)

/-- `bool(value)`; `floatTruth` is that of a float. -/
def isTruthy : PyJson → Bool
  | .null => false
  | .bool b => b
  | .int n => n != 0
  | .float literal => floatTruth literal
  | .str text => !text.isEmpty
  | .list items => !items.isEmpty
  | .dict items => !items.isEmpty

/-- `value.get(name, default)` -/
def getOr (default value : PyJson) (name : String) : Except PyError PyJson :=
  match value with
  | .dict _ => .ok ((value.get? name).getD default)
  | _ => .error (.attributeError "get")

def isText (text : PyStr) : PyJson → Bool
  | .str other => other == text
  | _ => false

/-- One round of `has_verified_target`. -/
def provesPairing (depth : Nat) (boardSerial probeSerial : PyStr) (row : OperationRow) :
    Except PyError Bool := do
  let payload ← loads depth row.payloadJson
  let result ← getOr (.dict []) payload "result"
  let target ← getOr (.dict []) result "target_identity"
  let probe ← getOr (.dict []) result "probe_identity"
  if !isText boardSerial (← getOr .null target "board_serial") then return false
  if !isText probeSerial (← getOr .null probe "serial") then return false
  if !isTruthy floatTruth (← getOr .null target "cpuid") then return false
  return isTruthy floatTruth (← getOr .null target "dpidr")

def anyProves (depth : Nat) (boardSerial probeSerial : PyStr) : List OperationRow → Except PyError Bool
  | [] => .ok false
  | row :: rows => do
    if ← provesPairing floatTruth depth boardSerial probeSerial row then return true
    anyProves depth boardSerial probeSerial rows

def hasVerifiedTarget (depth : Nat) (rows : List OperationRow) (boardSerial probeSerial : PyStr) :
    Except PyError Bool :=
  anyProves floatTruth depth boardSerial probeSerial (rows.reverse.take 2000)

/-- What `resolve_selector` asks the store. -/
def auditVerified (depth : Nat) (rows : List OperationRow) (boardSerial probeSerial : PyStr) :
    Except ServiceError Bool :=
  (hasVerifiedTarget floatTruth depth rows boardSerial probeSerial).mapError fun _ => .raised

end audited

section resolution

/-- The resolved selector as one that a caller gives. -/
def Resolved.selector (resolved : Resolved) : DeviceSelector where
  probeSerial := some resolved.probeSerial
  boardSerial := resolved.boardSerial
  targetProfile := some resolved.targetProfile
  core := some resolved.core
  interface := some resolved.interface
  speedKhz := some resolved.speedKhz

/-- The boards that the selection of a profile looks at. -/
def boardsOf (manifest : CapabilityManifest) (profileId : PyStr) : List BoardCapabilities :=
  manifest.boards.filter fun board => board.targetProfile == some profileId

/-- A board that is attached speaks for the profile. -/
def Suggests (manifest : CapabilityManifest) (boardSerial : Option PyStr) (profileId : PyStr) : Prop :=
  ∃ board ∈ manifest.boards, board.targetProfile = some profileId ∧ profileId ≠ [] ∧
    (boardSerial = none ∨ board.serial = boardSerial)

/-- The board serial is of an attached board of the profile, or proved where no board is attached. -/
def BoardAccepted (manifest : CapabilityManifest) (profileId : PyStr)
    (verified : PyStr → Except ServiceError Bool)
    (serial : PyStr) : Prop :=
  (∃ board ∈ manifest.boards, board.targetProfile = some profileId ∧ board.serial = some serial) ∨
    manifest.boards = [] ∧ verified serial = .ok true

variable {registry : TargetRegistry} {manifest : CapabilityManifest} {selector : DeviceSelector}
    {profileId : PyStr}

theorem mem_boardsOf {board : BoardCapabilities} : board ∈ boardsOf manifest profileId ↔
    board ∈ manifest.boards ∧ board.targetProfile = some profileId := by
  simp [boardsOf]

theorem mem_matchingProfileIds {boardSerial : Option PyStr} :
    profileId ∈ matchingProfileIds manifest boardSerial ↔ Suggests manifest boardSerial profileId := by
  rw [matchingProfileIds, List.mem_dedup, List.mem_filterMap]
  constructor
  · rintro ⟨board, hboard, hprofile⟩
    obtain ⟨hattached, hmatches⟩ := List.mem_filter.mp hboard
    simp only [hprofile, Option.any_some, Bool.and_eq_true, Bool.not_eq_true', List.isEmpty_eq_false_iff,
      Bool.or_eq_true, Option.isNone_iff_eq_none, beq_iff_eq] at hmatches
    exact ⟨board, hattached, hprofile, hmatches.1, hmatches.2⟩
  · rintro ⟨board, hattached, hprofile, hnonempty, hserial⟩
    refine ⟨board, List.mem_filter.mpr ⟨hattached, ?_⟩, hprofile⟩
    simp [hprofile, hnonempty, hserial]

theorem selectProfileId_ok (h : selectProfileId registry manifest selector = .ok profileId) :
    selector.targetProfile = some profileId ∨ selector.targetProfile = none ∧
      (matchingProfileIds manifest selector.boardSerial = [profileId] ∨
        ∃ profile, registry = [profile] ∧ profile.id = profileId) := by
  unfold selectProfileId at h
  cases hgiven : selector.targetProfile with
  | some given =>
    rw [hgiven] at h
    exact Or.inl (congrArg some (Except.ok.inj h))
  | none =>
    rw [hgiven] at h
    refine Or.inr ⟨rfl, ?_⟩
    rcases hids : matchingProfileIds manifest selector.boardSerial with _ | ⟨id, _ | ⟨other, ids⟩⟩
    all_goals rw [hids] at h
    · rcases registry with _ | ⟨profile, _ | ⟨next, rest⟩⟩
      · cases h
      · exact Or.inr ⟨profile, rfl, Except.ok.inj h⟩
      · cases h
    · exact Or.inl (congrArg (fun id => [id]) (Except.ok.inj h))
    · rcases registry with _ | ⟨profile, _ | ⟨next, rest⟩⟩
      · cases h
      · exact Or.inr ⟨profile, rfl, Except.ok.inj h⟩
      · cases h

theorem selectProbe_ok {serial : PyStr} (h : selectProbe manifest selector = .ok serial) :
    selector.probeSerial = some serial ∧ serial ∈ manifest.probes ∨
      selector.probeSerial = none ∧ manifest.probes = [serial] := by
  unfold selectProbe at h
  cases hgiven : selector.probeSerial with
  | some given =>
    rw [hgiven] at h
    dsimp only at h
    split at h
    next hmem =>
      obtain rfl := Except.ok.inj h
      exact Or.inl ⟨rfl, hmem⟩
    next => cases h
  | none =>
    rw [hgiven] at h
    rcases hprobes : manifest.probes with _ | ⟨probe, _ | ⟨other, probes⟩⟩
    all_goals rw [hprobes] at h
    case cons.nil => exact Or.inr ⟨rfl, congrArg (fun probe => [probe]) (Except.ok.inj h)⟩
    all_goals cases h

theorem selectProbe_given {serial : PyStr} (hgiven : selector.probeSerial = some serial)
    (hmem : serial ∈ manifest.probes) : selectProbe manifest selector = .ok serial := by
  rw [selectProbe, hgiven]
  exact if_pos hmem

section board

variable {verified : PyStr → Except ServiceError Bool} {boardSerial : Option PyStr} {serial : PyStr}

theorem selectBoard_open (hgiven : selector.boardSerial = none) :
    selectBoard manifest profileId verified selector = .ok boardSerial ↔
      (∃ board, boardsOf manifest profileId = [board] ∧ board.serial = boardSerial) ∨
        boardsOf manifest profileId = [] ∧ boardSerial = none := by
  unfold selectBoard
  rw [hgiven]
  change _ ↔ (∃ board, manifest.boards.filter _ = [board] ∧ _) ∨ manifest.boards.filter _ = [] ∧ _
  rcases manifest.boards.filter _ with _ | ⟨board, _ | ⟨other, boards⟩⟩
  · simp [eq_comm]
  · simp
  · simp

theorem selectBoard_named (hgiven : selector.boardSerial = some serial) (nonempty : serial ≠ []) :
    selectBoard manifest profileId verified selector = .ok boardSerial ↔
      boardSerial = some serial ∧ BoardAccepted manifest profileId verified serial := by
  unfold selectBoard
  rw [hgiven]
  dsimp only
  have hempty : serial.isEmpty = false := List.isEmpty_eq_false_iff.mpr nonempty
  split
  next hmem =>
    have hattached : ∃ board ∈ manifest.boards, board.targetProfile = some profileId ∧
        board.serial = some serial := by
      simpa [hempty, and_assoc] using hmem
    simp [BoardAccepted, hattached, eq_comm]
  next hmem =>
    have hdetached : ¬∃ board ∈ manifest.boards, board.targetProfile = some profileId ∧
        board.serial = some serial := by
      simpa [hempty, and_assoc] using hmem
    rw [BoardAccepted, or_iff_right hdetached]
    cases hboards : manifest.boards with
    | cons board boards => simp
    | nil =>
      cases hverified : verified serial with
      | error e =>
        simp only [reduceCtorEq, and_false, iff_false]
        intro hcase
        cases hcase
      | ok holds =>
        cases holds with
        | false =>
          simp only [Except.ok.injEq, Bool.false_eq_true, and_false, iff_false]
          intro hcase
          cases hcase
        | true =>
          change Except.ok (some serial) = Except.ok boardSerial ↔ _
          simp [eq_comm]

/-- The board that is selected is selected again. -/
theorem selectBoard_again {again : DeviceSelector} (named : selector.Named)
    (h : selectBoard manifest profileId verified selector = .ok boardSerial)
    (hagain : again.boardSerial = boardSerial) :
    selectBoard manifest profileId verified again = .ok boardSerial := by
  cases hgiven : selector.boardSerial with
  | some serial =>
    have hnonempty := named.boardSerial serial hgiven
    obtain ⟨hsame, haccepted⟩ := (selectBoard_named hgiven hnonempty).mp h
    rw [selectBoard_named (hagain.trans hsame) hnonempty]
    exact ⟨hsame, haccepted⟩
  | none =>
    have hselected := (selectBoard_open hgiven).mp h
    cases boardSerial with
    | none => exact (selectBoard_open hagain).mpr hselected
    | some serial =>
      obtain ⟨board, hsingle, hserial⟩ | ⟨-, habsent⟩ := hselected
      · -- a serial that is empty is taken as it is
        rcases List.eq_nil_or_concat serial with rfl | ⟨_, _, rfl⟩
        · unfold selectBoard
          rw [hagain]
          rfl
        · have hmem : board ∈ boardsOf manifest profileId := by
            rw [hsingle]
            exact List.mem_singleton_self board
          obtain ⟨hattached, hprofile⟩ := mem_boardsOf.mp hmem
          rw [selectBoard_named hagain (by simp)]
          exact ⟨rfl, Or.inl ⟨board, hattached, hprofile, hserial⟩⟩
      · cases habsent

end board

/-- What the profile gives to the fields that the selector leaves open. -/
structure DeviceSelector.Completed (selector : DeviceSelector) (profile : TargetProfile)
    (resolved : Resolved) : Prop where
  core : resolved.core = (selector.core.filter fun core => !core.isEmpty).getD profile.defaultCore
  registered : (profile.core? resolved.core).isSome = true
  interface : resolved.interface = selector.interface.getD profile.defaultInterface
  speedKhz : resolved.speedKhz = selector.speedKhz.getD profile.defaultSpeedKhz

theorem ok_of_mapError {α ε ε' : Type} {x : Except ε α} {f : ε → ε'} {a : α} (h : x.mapError f = .ok a) :
    x = .ok a := by
  cases x with
  | error e => cases h
  | ok b => rw [Except.ok.inj h]

theorem resolveSelector_eq_ok_iff {verified : PyStr → PyStr → Except ServiceError Bool}
    {resolved : Resolved} :
    resolveSelector registry manifest verified selector = .ok resolved ↔
      registry ≠ [] ∧ selectProfileId registry manifest selector = .ok resolved.targetProfile ∧
        (∃ profile, registry.profile? resolved.targetProfile = some profile ∧
          selector.Completed profile resolved) ∧
        selectProbe manifest selector = .ok resolved.probeSerial ∧
        selectBoard manifest resolved.targetProfile (fun board => verified board resolved.probeSerial)
          selector =
          .ok resolved.boardSerial := by
  constructor
  · intro h
    unfold resolveSelector at h
    dsimp only at h
    obtain ⟨hregistry, h⟩ := Except.passed h
    obtain ⟨profileId, hprofileId, h⟩ := Except.then_ok h
    cases hprofile : registry.profile? profileId with
    | none =>
      rw [hprofile] at h
      cases h
    | some profile =>
      rw [hprofile] at h
      obtain ⟨hcore, h⟩ := Except.passed h
      obtain ⟨probeSerial, hprobe, h⟩ := Except.then_ok h
      obtain ⟨boardSerial, hboard, h⟩ := Except.then_ok h
      obtain rfl := Except.ok.inj h
      refine ⟨by simpa using hregistry, ok_of_mapError hprofileId, ⟨profile, hprofile, rfl, ?_, rfl, rfl⟩,
        ok_of_mapError hprobe, hboard⟩
      simpa [Option.isSome_iff_ne_none] using hcore
  · rintro ⟨hregistry, hprofileId, ⟨profile, hprofile, completed⟩, hprobe, hboard⟩
    have hcore := completed.registered
    rw [completed.core] at hcore
    unfold resolveSelector
    dsimp only
    rw [if_neg (by simpa using hregistry), hprofileId]
    dsimp only [Except.mapError, bind, Except.bind]
    rw [hprofile]
    dsimp only
    rw [if_neg (by simpa [Option.isSome_iff_ne_none] using hcore), hprobe]
    change ((selectBoard manifest resolved.targetProfile _ selector) >>= _) = _
    rw [hboard, ← completed.core, ← completed.interface, ← completed.speedKhz]
    rfl

/-- Every field that the selector sets stays. -/
structure DeviceSelector.Kept (selector : DeviceSelector) (resolved : Resolved) : Prop where
  probeSerial : ∀ serial, selector.probeSerial = some serial → resolved.probeSerial = serial
  boardSerial : ∀ serial, selector.boardSerial = some serial → resolved.boardSerial = some serial
  targetProfile : ∀ profileId, selector.targetProfile = some profileId → resolved.targetProfile = profileId
  core : ∀ core, selector.core = some core → resolved.core = core
  interface : ∀ interface, selector.interface = some interface → resolved.interface = interface
  speedKhz : ∀ speed, selector.speedKhz = some speed → resolved.speedKhz = speed

/-- What the resolved selector names is registered and attached. -/
structure Resolved.Sound (registry : TargetRegistry) (manifest : CapabilityManifest)
    (verified : PyStr → PyStr → Except ServiceError Bool) (resolved : Resolved) : Prop where
  target : ∃ profile, registry.profile? resolved.targetProfile = some profile ∧
    (profile.core? resolved.core).isSome = true
  probe : resolved.probeSerial ∈ manifest.probes
  board : ∀ serial, resolved.boardSerial = some serial →
    BoardAccepted manifest resolved.targetProfile (fun board => verified board resolved.probeSerial) serial

/-- What the selector leaves open had one choice. -/
structure DeviceSelector.Unique (registry : TargetRegistry) (manifest : CapabilityManifest)
    (selector : DeviceSelector) (resolved : Resolved) : Prop where
  probe : selector.probeSerial = none → manifest.probes = [resolved.probeSerial]
  board : selector.boardSerial = none →
    (∃ board, boardsOf manifest resolved.targetProfile = [board] ∧ board.serial = resolved.boardSerial) ∨
      boardsOf manifest resolved.targetProfile = [] ∧ resolved.boardSerial = none
  profile : selector.targetProfile = none →
    (∀ profileId, Suggests manifest selector.boardSerial profileId ↔ profileId = resolved.targetProfile) ∨
      ∃ profile, registry = [profile] ∧ profile.id = resolved.targetProfile
  defaults : ∀ profile, registry.profile? resolved.targetProfile = some profile →
    (selector.core = none → resolved.core = profile.defaultCore) ∧
      (selector.interface = none → resolved.interface = profile.defaultInterface) ∧
      (selector.speedKhz = none → resolved.speedKhz = profile.defaultSpeedKhz)

section resolved

variable {verified : PyStr → PyStr → Except ServiceError Bool} {resolved : Resolved}

theorem getD_filter_of_named {core : Option PyStr} {name : PyStr}
    (named : ∀ core', core = some core' → core' ≠ []) :
    (core.filter fun core => !core.isEmpty).getD name = core.getD name := by
  cases core with
  | none => rfl
  | some core =>
    have hempty : core.isEmpty = false := List.isEmpty_eq_false_iff.mpr (named core rfl)
    simp [Option.filter, hempty]

theorem resolved_kept (named : selector.Named)
    (h : resolveSelector registry manifest verified selector = .ok resolved) : selector.Kept resolved := by
  obtain ⟨-, hprofileId, ⟨profile, -, completed⟩, hprobe, hboard⟩ := resolveSelector_eq_ok_iff.mp h
  have hcore := completed.core
  rw [getD_filter_of_named named.core] at hcore
  constructor
  · intro serial hserial
    obtain ⟨hgiven, -⟩ | ⟨hopen, -⟩ := selectProbe_ok hprobe
    · exact Option.some.inj (hgiven.symm.trans hserial)
    · rw [hopen] at hserial
      cases hserial
  · intro serial hserial
    exact ((selectBoard_named hserial (named.boardSerial serial hserial)).mp hboard).1
  · intro profileId hgiven
    obtain hsame | ⟨hopen, -⟩ := selectProfileId_ok hprofileId
    · exact Option.some.inj (hsame.symm.trans hgiven)
    · rw [hopen] at hgiven
      cases hgiven
  · intro core hgiven
    rw [hcore, hgiven]
    rfl
  · intro interface hgiven
    rw [completed.interface, hgiven]
    rfl
  · intro speed hgiven
    rw [completed.speedKhz, hgiven]
    rfl

theorem resolved_sound (named : selector.Named)
    (h : resolveSelector registry manifest verified selector = .ok resolved) :
    resolved.Sound registry manifest verified := by
  obtain ⟨-, -, ⟨profile, hprofile, completed⟩, hprobe, hboard⟩ := resolveSelector_eq_ok_iff.mp h
  constructor
  · exact ⟨profile, hprofile, completed.registered⟩
  · obtain ⟨-, hmem⟩ | ⟨-, hsingle⟩ := selectProbe_ok hprobe
    · exact hmem
    · rw [hsingle]
      exact List.mem_singleton_self _
  · intro serial hserial
    rw [hserial] at hboard
    cases hgiven : selector.boardSerial with
    | some given =>
      obtain ⟨hsame, haccepted⟩ := (selectBoard_named hgiven (named.boardSerial given hgiven)).mp hboard
      rw [Option.some.inj hsame]
      exact haccepted
    | none =>
      obtain ⟨board, hsingle, hboardSerial⟩ | ⟨-, habsent⟩ := (selectBoard_open hgiven).mp hboard
      · have hmem : board ∈ boardsOf manifest resolved.targetProfile := by
          rw [hsingle]
          exact List.mem_singleton_self board
        obtain ⟨hattached, htarget⟩ := mem_boardsOf.mp hmem
        exact Or.inl ⟨board, hattached, htarget, hboardSerial⟩
      · cases habsent

theorem resolved_unique (h : resolveSelector registry manifest verified selector = .ok resolved) :
    selector.Unique registry manifest resolved := by
  obtain ⟨-, hprofileId, ⟨profile, hprofile, completed⟩, hprobe, hboard⟩ := resolveSelector_eq_ok_iff.mp h
  constructor
  · intro hopen
    obtain ⟨hgiven, -⟩ | ⟨-, hsingle⟩ := selectProbe_ok hprobe
    · rw [hopen] at hgiven
      cases hgiven
    · exact hsingle
  · intro hopen
    exact (selectBoard_open hopen).mp hboard
  · intro hopen
    obtain hgiven | ⟨-, hids | hsole⟩ := selectProfileId_ok hprofileId
    · rw [hopen] at hgiven
      cases hgiven
    · left
      intro profileId
      rw [← mem_matchingProfileIds, hids, List.mem_singleton]
    · exact Or.inr hsole
  · intro other hother
    obtain rfl := Option.some.inj (hprofile.symm.trans hother)
    refine ⟨fun hopen => ?_, fun hopen => ?_, fun hopen => ?_⟩
    · rw [completed.core, hopen]
      rfl
    · rw [completed.interface, hopen]
      rfl
    · rw [completed.speedKhz, hopen]
      rfl

/-- A resolved selector resolves to itself. -/
theorem resolved_again (usable : ∀ profile ∈ registry, profile.Usable) (named : selector.Named)
    (h : resolveSelector registry manifest verified selector = .ok resolved) :
    resolveSelector registry manifest verified resolved.selector = .ok resolved := by
  have hsound := resolved_sound named h
  obtain ⟨hregistry, -, ⟨profile, hprofile, completed⟩, -, hboard⟩ := resolveSelector_eq_ok_iff.mp h
  have husable := usable profile (List.mem_of_find?_eq_some hprofile)
  have hcore : ∀ core, some resolved.core = some core → core ≠ [] := by
    rintro core ⟨⟩
    exact husable.ne_nil completed.registered
  rw [resolveSelector_eq_ok_iff]
  refine ⟨hregistry, rfl, ⟨profile, hprofile, ?_, completed.registered, rfl, rfl⟩, ?_, ?_⟩
  · exact (getD_filter_of_named hcore).symm
  · exact selectProbe_given rfl hsound.probe
  · exact selectBoard_again named hboard rfl

/-- What `resolve_selector` returns keeps the given fields, names what is registered and attached, is
the only choice where the selector leaves one, and resolves to itself. -/
theorem resolveSelector_resolves {isalnum : CodePoint → Bool} {floatTruth : PyStr → Bool} {depth : Nat}
    {rows : List OperationRow} {given : DeviceSelector}
    (checked : ∀ profile ∈ registry, profile.postInit isalnum = .ok ())
    (validated : given.validate? isalnum = some selector)
    (h : resolveSelector registry manifest (auditVerified floatTruth depth rows) selector = .ok resolved) :
    selector.Kept resolved ∧ resolved.Sound registry manifest (auditVerified floatTruth depth rows) ∧
      selector.Unique registry manifest resolved ∧
      resolveSelector registry manifest (auditVerified floatTruth depth rows) resolved.selector =
        .ok resolved := by
  have hnamed := named_of_validate validated
  have husable : ∀ profile ∈ registry, profile.Usable :=
    fun profile hprofile => usable_of_postInit (checked profile hprofile)
  exact ⟨resolved_kept hnamed h, resolved_sound hnamed h, resolved_unique h, resolved_again husable hnamed h⟩

/-- A profile with one core. -/
def sampleProfile : TargetProfile where
  id := PyStr.ofString "giga"
  cores := [(PyStr.ofString "cm7",
    { expectedCore := PyStr.ofString "Cortex-M7", expectedCpuid := 0x411FC271 })]
  defaultCore := PyStr.ofString "cm7"
  expectedDpidr := 0x6BA02477
  minimumTargetVoltage := 1
  defaultInterface := PyStr.ofString "SWD"
  defaultSpeedKhz := 4000

def sampleBoard : BoardCapabilities where
  serial := some (PyStr.ofString "B1")
  targetProfile := some (PyStr.ofString "giga")
  serialPort := none

def sampleManifest : CapabilityManifest where
  probes := [PyStr.ofString "801000001"]
  boards := [sampleBoard]

def sampleResolved : Resolved where
  probeSerial := PyStr.ofString "801000001"
  boardSerial := some (PyStr.ofString "B1")
  targetProfile := PyStr.ofString "giga"
  core := PyStr.ofString "cm7"
  interface := PyStr.ofString "JTAG"
  speedKhz := 4000

theorem resolveSelector_resolves_sample :
    DeviceSelector.Kept { core := some (PyStr.ofString "cm7"), interface := some (PyStr.ofString "JTAG") }
      sampleResolved ∧
      sampleResolved.Sound [sampleProfile] sampleManifest (auditVerified (fun _ => true) 9 []) ∧
      DeviceSelector.Unique [sampleProfile] sampleManifest
        { core := some (PyStr.ofString "cm7"), interface := some (PyStr.ofString "JTAG") } sampleResolved ∧
      resolveSelector [sampleProfile] sampleManifest (auditVerified (fun _ => true) 9 [])
        sampleResolved.selector =
        .ok sampleResolved := by
  have checked : ∀ profile ∈ [sampleProfile],
      profile.postInit (fun c => isLetter c || isDigit c) = .ok () := by
    simp only [List.mem_singleton, forall_eq]
    rfl
  have validated : DeviceSelector.validate? (fun c => isLetter c || isDigit c)
      { core := some (PyStr.ofString " cm7"), interface := some (PyStr.ofString "JTAG") } =
        some { core := some (PyStr.ofString "cm7"), interface := some (PyStr.ofString "JTAG") } := rfl
  exact resolveSelector_resolves checked validated rfl

end resolved

end resolution

end JLinkMcp.Service
