import JLinkMcp.HostDumps
import JLinkMcp.HostEncoding
import JLinkMcp.SecurityText
import Mathlib.Data.List.AList

namespace JLinkMcp.Host

/-- `_PIN_RE.fullmatch(label)` -/
def isPinLabel : PyStr → Bool
  | [d, low] => d.is 'D' && Security.isDigit low
  | [d, high, low] => d.is 'D' && Security.isDigit high && !high.is '0' && Security.isDigit low
  | [d, one, zero, low] => d.is 'D' && one.is '1' && zero.is '0' && (low.is '0' || low.is '1' || low.is '2')
  | _ => false

inductive ResourceError where
  | valueError (message : String)
  | resourceConflict (message : PyStr)

/-- `_owners`: the owner of every pin that has one. -/
abbrev Owners := AList fun _ : SafePin => PyStr

structure ResourceClaim where
  owner : PyStr
  pins : List SafePin

section resources

variable (upper : CodePoint → PyStr)

/-- `value.strip().upper()`, where `upper` is the table of the upper cases. -/
def upperLabel (value : PyStr) : PyStr := (Security.strip value).flatMap upper

def validateSafePin (value : PyStr) : Except ResourceError SafePin :=
  if h : isPinLabel (upperLabel upper value) = true ∧ upperLabel upper value ∈ safeGpioPins then
    .ok ⟨upperLabel upper value, h.2⟩
  else .error (.valueError "pin is protected, internal, bus-owned, or not an exposed safe Arduino label")

def conflictMessage (pin : SafePin) (current : PyStr) : PyStr :=
  pin.val ++ PyStr.ofString " is already owned by " ++ current

/-- The conflicts that `claim` lists. -/
def claimConflicts (owners : Owners) (owner : PyStr) (labels : List SafePin) : List PyStr :=
  labels.filterMap fun pin =>
    ((owners.lookup pin).filter fun current => current ≠ owner).map (conflictMessage pin)

/-- `if not owner or len(owner) > 64` does not hold. -/
def BoundedOwner (owner : PyStr) : Prop := owner ≠ [] ∧ owner.length ≤ 64

instance (owner : PyStr) : Decidable (BoundedOwner owner) := inferInstanceAs (Decidable (_ ∧ _))

/-- The checks of `claim`, all of them before its loop. -/
def claimCheck (owners : Owners) (owner : PyStr) (pins : List PyStr) : Except ResourceError (List SafePin) :=
  if ¬BoundedOwner owner then .error (.valueError "resource owner must be a bounded non-empty name")
  else
    (pins.mapM (validateSafePin upper)).bind fun labels =>
      if labels = [] then .error (.valueError "a resource claim needs at least one pin")
      else if ¬labels.Nodup then .error (.valueError "a resource claim cannot repeat a pin")
      else if claimConflicts owners owner labels ≠ [] then
        .error (.resourceConflict
          (List.intercalate (PyStr.ofString "; ") (claimConflicts owners owner labels)))
      else .ok labels

/-- The loop of `claim`. -/
def claimPins (owner : PyStr) (labels : List SafePin) (owners : Owners) : Owners :=
  labels.foldl (fun owners pin => owners.insert pin owner) owners

/-- `claim`; what an exception leaves behind is the state beside it. -/
def claim (owner : PyStr) (pins : List PyStr) : ExceptT ResourceError (StateM Owners) ResourceClaim := do
  let owners ← get
  let labels ← liftExcept (claimCheck upper owners owner pins)
  modify (claimPins owner labels)
  return ⟨owner, labels⟩

/-- The pins of an owner. -/
def ownedPins (owner : PyStr) (owners : Owners) : List SafePin :=
  (owners.entries.filter fun entry => entry.2 = owner).map Sigma.fst

def release (owner : PyStr) (owners : Owners) : Owners :=
  (ownedPins owner owners).foldl (fun owners pin => owners.erase pin) owners

end resources

section claims

variable {upper : CodePoint → PyStr} {owners : Owners} {owner : PyStr} {pins : List PyStr}
  {labels : List SafePin}

theorem isPinLabel_of_safe : ∀ label ∈ safeGpioPins, isPinLabel label = true := by decide

theorem validateSafePin_eq_ok {value : PyStr} {pin : SafePin} :
    validateSafePin upper value = .ok pin ↔ upperLabel upper value = pin.val := by
  unfold validateSafePin
  constructor
  · intro h
    split at h
    next => exact congrArg Subtype.val (Except.ok.inj h)
    next => cases h
  · intro h
    have hmatches := isPinLabel_of_safe pin.val pin.property
    rw [dif_pos ⟨h ▸ hmatches, h ▸ pin.property⟩]
    exact congrArg Except.ok (Subtype.ext h)

/-- No other owner has a pin of the claim. -/
def Unowned (owners : Owners) (owner : PyStr) (labels : List SafePin) : Prop :=
  ∀ pin ∈ labels, ∀ current, owners.lookup pin = some current → current = owner

theorem claimConflicts_eq_nil : claimConflicts owners owner labels = [] ↔ Unowned owners owner labels := by
  rw [claimConflicts, List.filterMap_eq_nil_iff]
  constructor
  · intro h pin hpin current hcurrent
    by_contra hne
    have hnone := h pin hpin
    rw [hcurrent, Option.filter_some, if_pos (decide_eq_true hne)] at hnone
    cases hnone
  · intro h pin hpin
    cases hcurrent : owners.lookup pin with
    | none => rfl
    | some current =>
      have heq := h pin hpin current hcurrent
      rw [Option.filter_some, if_neg (by simpa using heq)]
      rfl

theorem claimCheck_eq_ok : claimCheck upper owners owner pins = .ok labels ↔
    BoundedOwner owner ∧ pins.mapM (validateSafePin upper) = .ok labels ∧ labels ≠ [] ∧ labels.Nodup ∧
      Unowned owners owner labels := by
  rw [← claimConflicts_eq_nil]
  constructor
  · intro h
    rw [claimCheck] at h
    split at h
    next => cases h
    next hbounded =>
      cases hlabels : pins.mapM (validateSafePin upper) with
      | error error =>
        rw [hlabels] at h
        cases h
      | ok pins' =>
        rw [hlabels, Except.ok_bind] at h
        split_ifs at h with hempty hnodup hconflicts
        cases h
        exact ⟨not_not.mp hbounded, rfl, hempty, hnodup, not_not.mp hconflicts⟩
  · rintro ⟨hbounded, hlabels, hempty, hnodup, hconflicts⟩
    rw [claimCheck, if_neg (not_not.mpr hbounded), hlabels, Except.ok_bind, if_neg hempty,
      if_neg (not_not.mpr hnodup), if_neg (not_not.mpr hconflicts)]

/-- The claim from the owners that it reads. -/
theorem claim_run : claim upper owner pins owners =
    (do
      let labels ← liftExcept (claimCheck upper owners owner pins)
      modify (claimPins owner labels)
      return ⟨owner, labels⟩ : ExceptT ResourceError (StateM Owners) ResourceClaim) owners := rfl

theorem claim_ok (h : claimCheck upper owners owner pins = .ok labels) :
    claim upper owner pins owners = (.ok ⟨owner, labels⟩, claimPins owner labels owners) := by
  rw [claim_run, h]
  rfl

/-- A claim whose check raises leaves every owner as it is. -/
theorem claim_error {error : ResourceError} (h : claimCheck upper owners owner pins = .error error) :
    claim upper owner pins owners = (.error error, owners) := by
  rw [claim_run, h]
  rfl

/-- The loop behind the check cannot fail, so a claim that raises has changed nothing. -/
theorem claim_atomic {error : ResourceError} (h : (claim upper owner pins owners).1 = .error error) :
    (claim upper owner pins owners).2 = owners := by
  cases hcheck : claimCheck upper owners owner pins with
  | error error => rw [claim_error hcheck]
  | ok labels =>
    rw [claim_ok hcheck] at h
    cases h

theorem lookup_claimPins {pin : SafePin} : (claimPins owner labels owners).lookup pin =
    if pin ∈ labels then some owner else owners.lookup pin := by
  unfold claimPins
  induction labels generalizing owners with
  | nil => rfl
  | cons label labels ih =>
    rw [List.foldl_cons, ih]
    by_cases hpin : pin = label
    · subst hpin
      simp
    · simp [hpin, AList.lookup_insert_ne hpin]

theorem lookup_eraseAll {pin : SafePin} : (labels.foldl (fun owners pin => owners.erase pin) owners).lookup pin =
    if pin ∈ labels then none else owners.lookup pin := by
  induction labels generalizing owners with
  | nil => rfl
  | cons label labels ih =>
    rw [List.foldl_cons, ih]
    by_cases hpin : pin = label
    · subst hpin
      simp
    · simp [hpin, AList.lookup_erase_ne hpin]

theorem mem_ownedPins {pin : SafePin} : pin ∈ ownedPins owner owners ↔ owners.lookup pin = some owner := by
  rw [← Option.mem_def, AList.mem_lookup_iff]
  simp only [ownedPins, List.mem_map, List.mem_filter, decide_eq_true_eq]
  constructor
  · rintro ⟨⟨label, current⟩, ⟨hentry, rfl⟩, rfl⟩
    exact hentry
  · intro hentry
    exact ⟨⟨pin, owner⟩, ⟨hentry, rfl⟩, rfl⟩

/-- A release frees the pins of its owner and no other. -/
theorem lookup_release {pin : SafePin} : (release owner owners).lookup pin =
    if owners.lookup pin = some owner then none else owners.lookup pin := by
  rw [release, lookup_eraseAll]
  simp only [mem_ownedPins]

end claims

end JLinkMcp.Host
