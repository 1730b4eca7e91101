import JLinkMcp.FirmwareResources
import JLinkMcp.HostResources
import Mathlib.Data.Set.Function

namespace JLinkMcp

open Firmware (PinResources safeDynamicPin)
open Host

namespace Firmware.PinResources

/-- `sizeof(owners_)` -/
def pinCount : Nat := 103

def releaseOwner (resources : PinResources) (owner : Nat) : PinResources :=
  ⟨fun pin => if pin < pinCount ∧ resources.owners pin = owner then 0 else resources.owners pin⟩

section claims

variable {resources : PinResources} {pin first second owner : Nat}

/-- The owner holds the pin or nobody does. -/
def Free (resources : PinResources) (pin owner : Nat) : Prop :=
  resources.owners pin = 0 ∨ resources.owners pin = owner

theorem claim_of_free (safe : safeDynamicPin pin = true) (nonzero : owner ≠ 0) (free : resources.Free pin owner) :
    resources.claim pin owner = some (resources.setOwner pin owner) := by
  rw [claim, takenFrom_eq_false.mpr free, safe]
  simp [nonzero]

theorem claimPair_of_free (safe : safeDynamicPin first = true ∧ safeDynamicPin second = true)
    (nonzero : owner ≠ 0) (free : resources.Free first owner ∧ resources.Free second owner) :
    resources.claimPair first second owner =
      some ((resources.setOwner first owner).setOwner second owner) := by
  rw [claimPair, takenFrom_eq_false.mpr free.1, takenFrom_eq_false.mpr free.2, safe.1, safe.2]
  simp [nonzero]

theorem owners_setOwner {p : Nat} :
    (resources.setOwner pin owner).owners p = if p = pin then owner else resources.owners p := rfl

end claims

end Firmware.PinResources

section labels

theorem decimal_injective {n m : Nat} (h : decimal n = decimal m) : n = m := by
  have hn := Host.decimalText_value n
  have hm := Host.decimalText_value m
  have htext : decimalText n = decimalText m := h
  rw [htext] at hn
  omega

theorem pinLabel_injective : Function.Injective pinLabel := by
  intro n m h
  exact decimal_injective (List.tail_eq_of_cons_eq h)

/-- The labels of the host are those of the firmware's safe pins. -/
theorem safe_iff {n : Nat} : pinLabel n ∈ safeGpioPins ↔ safeDynamicPin n = true := by
  rw [safeGpioPins, List.mem_map_of_injective pinLabel_injective, List.mem_append, List.mem_range'_1,
    List.mem_range'_1]
  simp only [safeDynamicPin, Bool.or_eq_true, Bool.and_eq_true, decide_eq_true_eq]
  omega

end labels

/-- The owner that the host knows for a pin of the firmware. -/
def ownerAt (owners : Owners) (pin : Nat) : Option PyStr :=
  if safe : pinLabel pin ∈ safeGpioPins then owners.lookup ⟨pinLabel pin, safe⟩ else none

/-- Both sides name the same owner for every pin. -/
def Mirrors (number : PyStr → Nat) (owners : Owners) (resources : PinResources) : Prop :=
  ∀ pin, resources.owners pin = (ownerAt owners pin).elim 0 number

/-- A text that names a pin of the firmware once the host has read it. -/
structure PinText (upper : CodePoint → PyStr) where
  text : PyStr
  pin : Nat
  denotes : upperLabel upper text = pinLabel pin

/-- A call that both sides have. -/
inductive MirrorCall (upper : CodePoint → PyStr) where
  | claim (owner : PyStr) (pin : PinText upper)
  | claimPair (owner : PyStr) (first second : PinText upper) (distinct : first.pin ≠ second.pin)
  | release (owner : PyStr)

namespace MirrorCall

variable {upper : CodePoint → PyStr}

def owner : MirrorCall upper → PyStr
  | claim owner _ | claimPair owner _ _ _ | release owner => owner

/-- The host's call: whether it returns, and the owners behind it. -/
def host : MirrorCall upper → Owners → Bool × Owners
  | claim owner pin, owners =>
    ((Host.claim upper owner [pin.text] owners).1.isOk, (Host.claim upper owner [pin.text] owners).2)
  | claimPair owner first second _, owners =>
    ((Host.claim upper owner [first.text, second.text] owners).1.isOk,
      (Host.claim upper owner [first.text, second.text] owners).2)
  | release owner, owners => (true, Host.release owner owners)

/-- A name that the host refuses has the number of nobody, which the firmware refuses. -/
def ownerNumber (number : PyStr → Nat) (owner : PyStr) : Nat := if BoundedOwner owner then number owner else 0

def firmware (number : PyStr → Nat) : MirrorCall upper → PinResources → Bool × PinResources
  | claim owner pin, resources =>
    match resources.claim pin.pin (ownerNumber number owner) with
    | some pins => (true, pins)
    | none => (false, resources)
  | claimPair owner first second _, resources =>
    match resources.claimPair first.pin second.pin (ownerNumber number owner) with
    | some pins => (true, pins)
    | none => (false, resources)
  | release owner, resources => (true, resources.releaseOwner (ownerNumber number owner))

end MirrorCall

section host

variable {upper : CodePoint → PyStr} {owners : Owners} {owner : PyStr} {pins : List (PinText upper)}
  {labels : List SafePin}

theorem mapM_pinTexts : (pins.map PinText.text).mapM (validateSafePin upper) = .ok labels ↔
    labels.map Subtype.val = pins.map fun pin => pinLabel pin.pin := by
  induction pins generalizing labels with
  | nil =>
    constructor
    · intro h
      cases h
      rfl
    · intro h
      rw [List.map_eq_nil_iff.mp h]
      rfl
  | cons pin pins ih =>
    rw [List.map_cons, List.map_cons, List.mapM_cons, ← pin.denotes]
    constructor
    · intro h
      cases hpin : validateSafePin upper pin.text with
      | error error => rw [hpin] at h; cases h
      | ok label =>
        cases hrest : (pins.map PinText.text).mapM (validateSafePin upper) with
        | error error => rw [hpin, hrest] at h; cases h
        | ok others =>
          rw [hpin, hrest] at h
          cases h
          rw [List.map_cons, validateSafePin_eq_ok.mp hpin, ih.mp hrest]
    · intro h
      cases labels with
      | nil => cases h
      | cons label others =>
        obtain ⟨hlabel, hothers⟩ := List.cons.inj h
        rw [validateSafePin_eq_ok.mpr hlabel.symm, ih.mpr hothers]
        rfl

/-- The conditions under which a claim of these pins returns. -/
structure Claimable (owners : Owners) (owner : PyStr) (pins : List Nat) : Prop where
  bounded : BoundedOwner owner
  ne_nil : pins ≠ []
  nodup : pins.Nodup
  safe : ∀ pin ∈ pins, safeDynamicPin pin = true
  unowned : ∀ pin ∈ pins, ∀ current, ownerAt owners pin = some current → current = owner

theorem ownerAt_label (pin : SafePin) {n : Nat} (h : pin.val = pinLabel n) :
    ownerAt owners n = owners.lookup pin := by
  have hsafe : pinLabel n ∈ safeGpioPins := h ▸ pin.property
  rw [ownerAt, dif_pos hsafe]
  congr 1
  exact Subtype.ext h.symm

theorem claimCheck_iff_claimable (h : labels.map Subtype.val = pins.map fun pin => pinLabel pin.pin) :
    claimCheck upper owners owner (pins.map PinText.text) = .ok labels ↔
      Claimable owners owner (pins.map PinText.pin) := by
  have hlabels : labels.map Subtype.val = (pins.map PinText.pin).map pinLabel := by rw [h, List.map_map]; rfl
  have hnil : labels = [] ↔ pins.map PinText.pin = [] := by
    rw [← List.map_eq_nil_iff (f := Subtype.val), hlabels, List.map_eq_nil_iff]
  have hnodup : labels.Nodup ↔ (pins.map PinText.pin).Nodup := by
    rw [← List.nodup_map_iff Subtype.val_injective, hlabels, List.nodup_map_iff pinLabel_injective]
  rw [claimCheck_eq_ok]
  constructor
  · rintro ⟨hbounded, -, hempty, hdistinct, hunowned⟩
    have hmem : ∀ n ∈ pins.map PinText.pin, ∃ label ∈ labels, label.val = pinLabel n := by
      intro n hn
      have hlabel : pinLabel n ∈ labels.map Subtype.val := hlabels ▸ List.mem_map_of_mem hn
      exact List.mem_map.mp hlabel
    refine ⟨hbounded, fun hpins => hempty (hnil.mpr hpins), hnodup.mp hdistinct, ?_, ?_⟩
    · intro n hn
      obtain ⟨label, -, hval⟩ := hmem n hn
      exact safe_iff.mp (hval ▸ label.property)
    · intro n hn current hcurrent
      obtain ⟨label, hlabel, hval⟩ := hmem n hn
      rw [ownerAt_label label hval] at hcurrent
      exact hunowned label hlabel current hcurrent
  · rintro ⟨hbounded, hempty, hdistinct, -, hunowned⟩
    refine ⟨hbounded, mapM_pinTexts.mpr h, fun hpins => hempty (hnil.mp hpins), hnodup.mpr hdistinct, ?_⟩
    intro label hlabel current hcurrent
    have hval : label.val ∈ (pins.map PinText.pin).map pinLabel := hlabels ▸ List.mem_map_of_mem hlabel
    obtain ⟨n, hn, hval⟩ := List.mem_map.mp hval
    rw [← ownerAt_label label hval.symm] at hcurrent
    exact hunowned n hn current hcurrent

/-- The safe pins of a list have their labels. -/
theorem labels_of_safe (safe : ∀ pin ∈ pins.map PinText.pin, safeDynamicPin pin = true) :
    ∃ labels : List SafePin, labels.map Subtype.val = pins.map fun pin => pinLabel pin.pin := by
  induction pins with
  | nil => exact ⟨[], rfl⟩
  | cons pin pins ih =>
    rw [List.map_cons, List.forall_mem_cons] at safe
    obtain ⟨labels, hlabels⟩ := ih safe.2
    exact ⟨⟨_, safe_iff.mpr safe.1⟩ :: labels, by rw [List.map_cons, List.map_cons, hlabels]⟩

theorem ownerAt_claimPins (h : labels.map Subtype.val = pins.map fun pin => pinLabel pin.pin) (n : Nat) :
    ownerAt (claimPins owner labels owners) n =
      if n ∈ pins.map PinText.pin then some owner else ownerAt owners n := by
  have hlabels : labels.map Subtype.val = (pins.map PinText.pin).map pinLabel := by rw [h, List.map_map]; rfl
  have hmem : n ∈ pins.map PinText.pin ↔ pinLabel n ∈ labels.map Subtype.val := by
    rw [hlabels, List.mem_map_of_injective pinLabel_injective]
  unfold ownerAt
  split
  next hsafe =>
    have hlabel : n ∈ pins.map PinText.pin ↔ (⟨pinLabel n, hsafe⟩ : SafePin) ∈ labels := by
      rw [hmem, ← List.mem_map_of_injective Subtype.val_injective]
    rw [lookup_claimPins]
    simp only [hlabel]
  next hunsafe =>
    have hnot : n ∉ pins.map PinText.pin := by
      intro hn
      obtain ⟨label, -, hval⟩ := List.mem_map.mp (hmem.mp hn)
      exact hunsafe (hval ▸ label.property)
    rw [if_neg hnot]

/-- A claim that returns gives all of its pins to the owner. -/
theorem claim_of_claimable (claimable : Claimable owners owner (pins.map PinText.pin)) :
    (Host.claim upper owner (pins.map PinText.text) owners).1.isOk = true ∧
      ∀ n, ownerAt (Host.claim upper owner (pins.map PinText.text) owners).2 n =
        if n ∈ pins.map PinText.pin then some owner else ownerAt owners n := by
  obtain ⟨labels, hlabels⟩ := labels_of_safe claimable.safe
  rw [claim_ok ((claimCheck_iff_claimable hlabels).mpr claimable)]
  exact ⟨rfl, ownerAt_claimPins hlabels⟩

theorem claim_of_not_claimable (refused : ¬Claimable owners owner (pins.map PinText.pin)) :
    (Host.claim upper owner (pins.map PinText.text) owners).1.isOk = false ∧
      (Host.claim upper owner (pins.map PinText.text) owners).2 = owners := by
  cases hcheck : claimCheck upper owners owner (pins.map PinText.text) with
  | error error =>
    rw [claim_error hcheck]
    exact ⟨rfl, rfl⟩
  | ok labels =>
    have hlabels := mapM_pinTexts.mp (claimCheck_eq_ok.mp hcheck).2.1
    exact absurd ((claimCheck_iff_claimable hlabels).mp hcheck) refused

theorem ownerAt_release {n : Nat} : ownerAt (Host.release owner owners) n =
    if ownerAt owners n = some owner then none else ownerAt owners n := by
  unfold ownerAt
  split
  next => exact lookup_release
  next => rfl

end host

/-- Owners have numbers of their own, none of them nobody's. -/
structure Numbered (number : PyStr → Nat) (names : Set PyStr) : Prop where
  injective : Set.InjOn number names
  nonzero : ∀ owner ∈ names, number owner ≠ 0

/-- The two sides between calls. -/
structure InStep (number : PyStr → Nat) (names : Set PyStr) (owners : Owners) (resources : PinResources) :
    Prop where
  mirrors : Mirrors number owners resources
  known : ∀ pin current, ownerAt owners pin = some current → current ∈ names ∧ BoundedOwner current

section step

variable {upper : CodePoint → PyStr} {number : PyStr → Nat} {names : Set PyStr} {owners : Owners}
  {resources : PinResources} {owner : PyStr} {pin : Nat}

theorem inStep_init : InStep number names ∅ PinResources.init := by
  have hnone : ∀ pin, ownerAt ∅ pin = none := by
    intro pin
    unfold ownerAt
    split
    next => exact AList.lookup_empty _
    next => rfl
  constructor
  · intro pin
    rw [hnone]
    rfl
  · intro pin current h
    rw [hnone] at h
    cases h

theorem free_iff (numbered : Numbered number names) (inStep : InStep number names owners resources)
    (named : owner ∈ names) : resources.Free pin (number owner) ↔
      ∀ current, ownerAt owners pin = some current → current = owner := by
  rw [PinResources.Free, inStep.mirrors pin]
  cases hcurrent : ownerAt owners pin with
  | none => exact iff_of_true (Or.inl rfl) nofun
  | some current =>
    have hknown := (inStep.known pin current hcurrent).1
    constructor
    · rintro (hzero | heq)
      · exact absurd hzero (numbered.nonzero current hknown)
      · intro other hother
        obtain rfl := Option.some.inj hother
        exact numbered.injective hknown named heq
    · intro h
      right
      rw [h current rfl]
      rfl

/-- Owners that change at the same pins to the same owner stay mirrored. -/
theorem InStep.claimed (inStep : InStep number names owners resources) (named : owner ∈ names ∧ BoundedOwner owner)
    {owners' : Owners} {resources' : PinResources} {pins : List Nat}
    (howners : ∀ n, ownerAt owners' n = if n ∈ pins then some owner else ownerAt owners n)
    (hresources : ∀ n, resources'.owners n = if n ∈ pins then number owner else resources.owners n) :
    InStep number names owners' resources' := by
  constructor
  · intro n
    rw [howners, hresources]
    split
    next => rfl
    next => exact inStep.mirrors n
  · intro n current hcurrent
    rw [howners] at hcurrent
    split at hcurrent
    next =>
      obtain rfl := Option.some.inj hcurrent
      exact named
    next => exact inStep.known n current hcurrent

/-- A release frees the same pins on both sides: the firmware's array has all the safe ones. -/
theorem InStep.released (numbered : Numbered number names) (inStep : InStep number names owners resources)
    (named : owner ∈ names) :
    InStep number names (Host.release owner owners) (resources.releaseOwner (number owner)) := by
  constructor
  · intro n
    rw [ownerAt_release, PinResources.releaseOwner]
    dsimp only
    have hmirrors := inStep.mirrors n
    cases hcurrent : ownerAt owners n with
    | none =>
      rw [hcurrent] at hmirrors
      have hzero : resources.owners n = 0 := hmirrors
      rw [hzero, ite_self, ite_self]
      rfl
    | some current =>
      rw [hcurrent] at hmirrors
      have hnumber : resources.owners n = number current := hmirrors
      have hknown := (inStep.known n current hcurrent).1
      have hsmall : n < PinResources.pinCount := by
        have hsafe : pinLabel n ∈ safeGpioPins := by
          by_contra hunsafe
          rw [ownerAt, dif_neg hunsafe] at hcurrent
          cases hcurrent
        have hbound := safe_iff.mp hsafe
        simp only [safeDynamicPin, Bool.or_eq_true, Bool.and_eq_true, decide_eq_true_eq] at hbound
        rw [PinResources.pinCount]
        omega
      rw [hnumber]
      by_cases heq : current = owner
      · subst heq
        rw [if_pos ⟨hsmall, rfl⟩, if_pos rfl]
        rfl
      · have hne : number current ≠ number owner := fun h => heq (numbered.injective hknown named h)
        rw [if_neg fun h => hne h.2, if_neg fun h => heq (Option.some.inj h)]
        rfl
  · intro n current hcurrent
    rw [ownerAt_release] at hcurrent
    split at hcurrent
    next => cases hcurrent
    next => exact inStep.known n current hcurrent

theorem ownerNumber_of_bounded (h : BoundedOwner owner) : MirrorCall.ownerNumber number owner = number owner :=
  if_pos h

/-- The firmware's claims of one pin and of two have the conditions of the host's. -/
theorem claimable_iff (numbered : Numbered number names) (inStep : InStep number names owners resources)
    (named : BoundedOwner owner → owner ∈ names) {pins : List Nat} (ne_nil : pins ≠ []) (nodup : pins.Nodup) :
    Claimable owners owner pins ↔ MirrorCall.ownerNumber number owner ≠ 0 ∧
      ∀ n ∈ pins, safeDynamicPin n = true ∧ resources.Free n (MirrorCall.ownerNumber number owner) := by
  by_cases hbounded : BoundedOwner owner
  · have hnamed := named hbounded
    rw [ownerNumber_of_bounded hbounded]
    constructor
    · intro h
      refine ⟨numbered.nonzero owner hnamed, fun n hn => ⟨h.safe n hn, ?_⟩⟩
      exact (free_iff numbered inStep hnamed).mpr (h.unowned n hn)
    · rintro ⟨-, hpins⟩
      refine ⟨hbounded, ne_nil, nodup, fun n hn => (hpins n hn).1, fun n hn => ?_⟩
      exact (free_iff numbered inStep hnamed).mp (hpins n hn).2
  · refine iff_of_false (fun h => hbounded h.bounded) ?_
    rintro ⟨hnonzero, -⟩
    exact hnonzero (if_neg hbounded)

/-- A claim on both sides: the firmware's `claims` is `claim` or `claimPair`. -/
theorem claim_step (numbered : Numbered number names) (inStep : InStep number names owners resources)
    (named : BoundedOwner owner → owner ∈ names) {pins : List (PinText upper)} {claims : Option PinResources}
    (ne_nil : pins ≠ []) (nodup : (pins.map PinText.pin).Nodup)
    (claimed : (MirrorCall.ownerNumber number owner ≠ 0 ∧ ∀ n ∈ pins.map PinText.pin,
      safeDynamicPin n = true ∧ resources.Free n (MirrorCall.ownerNumber number owner)) →
        ∃ resources', claims = some resources' ∧ ∀ n, resources'.owners n =
          if n ∈ pins.map PinText.pin then MirrorCall.ownerNumber number owner else resources.owners n)
    (refused : claims.isSome → MirrorCall.ownerNumber number owner ≠ 0 ∧ ∀ n ∈ pins.map PinText.pin,
      safeDynamicPin n = true ∧ resources.Free n (MirrorCall.ownerNumber number owner)) :
    (Host.claim upper owner (pins.map PinText.text) owners).1.isOk = claims.isSome ∧
      InStep number names (Host.claim upper owner (pins.map PinText.text) owners).2 (claims.getD resources) := by
  have hiff := claimable_iff numbered inStep named (fun h => ne_nil (List.map_eq_nil_iff.mp h)) nodup
  by_cases hclaimable : Claimable owners owner (pins.map PinText.pin)
  · obtain ⟨hok, howners⟩ := claim_of_claimable hclaimable
    obtain ⟨resources', rfl, hresources⟩ := claimed (hiff.mp hclaimable)
    rw [ownerNumber_of_bounded hclaimable.bounded] at hresources
    exact ⟨hok, inStep.claimed ⟨named hclaimable.bounded, hclaimable.bounded⟩ howners hresources⟩
  · obtain ⟨herror, howners⟩ := claim_of_not_claimable hclaimable
    cases claims with
    | none =>
      rw [howners]
      exact ⟨herror, inStep⟩
    | some resources' => exact absurd (hiff.mpr (refused rfl)) hclaimable

theorem mirrorCall_step (numbered : Numbered number names) (inStep : InStep number names owners resources)
    (call : MirrorCall upper) (named : BoundedOwner call.owner → call.owner ∈ names) :
    (call.host owners).1 = (call.firmware number resources).1 ∧
      InStep number names (call.host owners).2 (call.firmware number resources).2 := by
  cases call with
  | claim owner pin =>
    have hstep := @claim_step upper number names owners resources owner numbered inStep named [pin]
      (resources.claim pin.pin (MirrorCall.ownerNumber number owner)) (List.cons_ne_nil _ _)
      (List.nodup_singleton _) ?_ ?_
    · simp only [MirrorCall.host, MirrorCall.firmware]
      cases hclaim : resources.claim pin.pin (MirrorCall.ownerNumber number owner) <;> rwa [hclaim] at hstep
    · rintro ⟨hnonzero, hpins⟩
      obtain ⟨hsafe, hfree⟩ := hpins pin.pin (List.mem_singleton_self _)
      refine ⟨_, PinResources.claim_of_free hsafe hnonzero hfree, fun n => ?_⟩
      rw [PinResources.owners_setOwner]
      simp only [List.map_cons, List.map_nil, List.mem_singleton]
    · intro hsome
      obtain ⟨resources', hclaim⟩ := Option.isSome_iff_exists.mp hsome
      obtain ⟨hsafe, hnonzero, hfree, -⟩ := PinResources.claim_eq_some hclaim
      refine ⟨hnonzero, fun n hn => ?_⟩
      obtain rfl := List.mem_singleton.mp hn
      exact ⟨hsafe, hfree⟩
  | claimPair owner first second distinct =>
    have hstep := @claim_step upper number names owners resources owner numbered inStep named [first, second]
      (resources.claimPair first.pin second.pin (MirrorCall.ownerNumber number owner)) (List.cons_ne_nil _ _)
      (by simpa using distinct) ?_ ?_
    · simp only [MirrorCall.host, MirrorCall.firmware]
      cases hclaim : resources.claimPair first.pin second.pin (MirrorCall.ownerNumber number owner) <;>
        rwa [hclaim] at hstep
    · rintro ⟨hnonzero, hpins⟩
      have hfirst := hpins first.pin List.mem_cons_self
      have hsecond := hpins second.pin (List.mem_cons_of_mem _ (List.mem_singleton_self _))
      refine ⟨_, PinResources.claimPair_of_free ⟨hfirst.1, hsecond.1⟩ hnonzero ⟨hfirst.2, hsecond.2⟩,
        fun n => ?_⟩
      rw [PinResources.owners_setOwner, PinResources.owners_setOwner]
      simp only [List.map_cons, List.map_nil, List.mem_pair]
      by_cases hn : n = second.pin <;> simp [hn]
    · intro hsome
      obtain ⟨resources', hclaim⟩ := Option.isSome_iff_exists.mp hsome
      obtain ⟨hfirst, hsecond, hnonzero, hfree, hfree', -⟩ := PinResources.claimPair_eq_some hclaim
      refine ⟨hnonzero, fun n hn => ?_⟩
      rcases List.mem_pair.mp hn with rfl | rfl
      · exact ⟨hfirst, hfree⟩
      · exact ⟨hsecond, hfree'⟩
  | release owner =>
    refine ⟨rfl, ?_⟩
    by_cases hbounded : BoundedOwner owner
    · have hreleased : InStep number names (Host.release owner owners)
          (resources.releaseOwner (number owner)) := inStep.released numbered (named hbounded)
      have hnumber : MirrorCall.ownerNumber number owner = number owner := ownerNumber_of_bounded hbounded
      rwa [← hnumber] at hreleased
    · -- Nobody has this name, on either side.
      have hnumber : MirrorCall.ownerNumber number owner = 0 := if_neg hbounded
      have howners : ∀ n, ownerAt (Host.release owner owners) n = ownerAt owners n := by
        intro n
        rw [ownerAt_release, if_neg]
        exact fun h => hbounded (inStep.known n owner h).2
      have hresources : ∀ n, (resources.releaseOwner 0).owners n = resources.owners n := by
        intro n
        simp only [PinResources.releaseOwner]
        split
        next h => exact h.2.symm
        next => rfl
      simp only [MirrorCall.host, MirrorCall.firmware, hnumber]
      constructor
      · intro n
        rw [howners, hresources]
        exact inStep.mirrors n
      · intro n current hcurrent
        rw [howners] at hcurrent
        exact inStep.known n current hcurrent

/-- The calls of both sides one after the other, with whether each of them succeeds. -/
def runCalls {State Call : Type} (step : Call → State → Bool × State) : List Call → State → List Bool × State
  | [], state => ([], state)
  | call :: calls, state =>
    let after := step call state
    let rest := runCalls step calls after.2
    (after.1 :: rest.1, rest.2)

theorem mirrorCalls_run (numbered : Numbered number names) {calls : List (MirrorCall upper)}
    (named : ∀ call ∈ calls, BoundedOwner call.owner → call.owner ∈ names)
    (inStep : InStep number names owners resources) :
    (runCalls MirrorCall.host calls owners).1 = (runCalls (MirrorCall.firmware number) calls resources).1 ∧
      InStep number names (runCalls MirrorCall.host calls owners).2
        (runCalls (MirrorCall.firmware number) calls resources).2 := by
  induction calls generalizing owners resources with
  | nil => exact ⟨rfl, inStep⟩
  | cons call calls ih =>
    rw [List.forall_mem_cons] at named
    obtain ⟨hanswer, hnext⟩ := mirrorCall_step numbered inStep call named.1
    obtain ⟨hanswers, hlast⟩ := ih named.2 hnext
    exact ⟨List.cons_eq_cons.mpr ⟨hanswer, hanswers⟩, hlast⟩

end step

/-- A call of the manager. -/
inductive ResourceCall where
  | claim (owner : PyStr) (pins : List PyStr)
  | release (owner : PyStr)

def ResourceCall.run (upper : CodePoint → PyStr) (owners : Owners) : ResourceCall → Owners
  | claim owner pins => (Host.claim upper owner pins owners).2
  | release owner => Host.release owner owners

/-- The owners of a manager that has had these calls, whatever they raised. -/
def ownersAfter (upper : CodePoint → PyStr) (calls : List ResourceCall) : Owners :=
  calls.foldl (ResourceCall.run upper) ∅

/-- After any calls a claim is atomic, a pin has one owner and a release frees what is its owner's; and the
calls that the firmware has too are refused by both sides or by neither and leave the same owners. -/
theorem resourceManager_mirrors {upper : CodePoint → PyStr} {number : PyStr → Nat} {names : Set PyStr}
    (numbered : Numbered number names) (calls : List ResourceCall) {steps : List (MirrorCall upper)}
    (named : ∀ step ∈ steps, BoundedOwner step.owner → step.owner ∈ names) :
    (∀ owner pins error, (Host.claim upper owner pins (ownersAfter upper calls)).1 = .error error →
      (Host.claim upper owner pins (ownersAfter upper calls)).2 = ownersAfter upper calls) ∧
    (ownersAfter upper calls).keys.Nodup ∧
    (∀ owner pin, (Host.release owner (ownersAfter upper calls)).lookup pin =
      if (ownersAfter upper calls).lookup pin = some owner then none
      else (ownersAfter upper calls).lookup pin) ∧
    (runCalls MirrorCall.host steps ∅).1 = (runCalls (MirrorCall.firmware number) steps PinResources.init).1 ∧
    Mirrors number (runCalls MirrorCall.host steps ∅).2
      (runCalls (MirrorCall.firmware number) steps PinResources.init).2 := by
  obtain ⟨hanswers, hlast⟩ := mirrorCalls_run numbered named inStep_init
  refine ⟨?_, AList.keys_nodup _, ?_, hanswers, hlast.mirrors⟩
  · intro owner pins error h
    exact claim_atomic h
  · intro owner pin
    exact lookup_release

/-- The upper case of a letter of ASCII. -/
def upperAscii (c : CodePoint) : PyStr :=
  [if 97 ≤ c.val ∧ c.val ≤ 122 then Fin.ofNat 0x110000 (c.val - 32) else c]

def sampleNumber (owner : PyStr) : Nat := if owner = PyStr.ofString "spi0" then 1 else 2

/-- Two owners that want the same pin one after the other. -/
def sampleSteps : List (MirrorCall upperAscii) :=
  let first : PinText upperAscii := ⟨PyStr.ofString " d22", 22, by decide⟩
  let second : PinText upperAscii := ⟨PyStr.ofString "D23", 23, by decide⟩
  [.claim (PyStr.ofString "spi0") first, .claimPair (PyStr.ofString "gpio") first second (by decide),
    .release (PyStr.ofString "spi0"), .claimPair (PyStr.ofString "gpio") first second (by decide)]

theorem resourceManager_mirrors_sample :
    (runCalls MirrorCall.host sampleSteps ∅).1 = [true, false, true, true] := by
  have numbered : Numbered sampleNumber {PyStr.ofString "spi0", PyStr.ofString "gpio"} := by
    constructor
    · rintro _ (rfl | rfl) _ (rfl | rfl) h
      · rfl
      · exact absurd h (by decide)
      · exact absurd h (by decide)
      · rfl
    · intro owner _
      unfold sampleNumber
      split <;> decide
  have hmirrors := (@resourceManager_mirrors _ _ _ numbered [] sampleSteps ?_).2.2.2.1
  · rw [hmirrors]
    decide
  · intro step hstep _
    simp only [sampleSteps, List.mem_cons, List.not_mem_nil, or_false] at hstep
    rcases hstep with rfl | rfl | rfl | rfl
    · exact Or.inl rfl
    · exact Or.inr rfl
    · exact Or.inl rfl
    · exact Or.inr rfl

end JLinkMcp
