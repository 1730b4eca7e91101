import JLinkMcp.ConfigPaths
import JLinkMcp.HostJson

namespace JLinkMcp.Extensions

open Host

section runs

/-- What an override sets: the name of its variable, the path and the value. -/
structure Override (Leaf ε : Type) where
  name : PyStr
  path : List PyStr
  value : Except ε (ConfigValue Leaf)

variable {Leaf ε : Type}

/-- One override. -/
def Override.apply (override : Override Leaf ε) (config : Config Leaf) :
    Except (OverrideError ε) (Config Leaf) :=
  if override.path = [] then .error (.invalid override.name)
  else setPath (.conflicts override.name) (override.value.mapError .value) config override.path

def applyAll (config : Config Leaf) (overrides : List (Override Leaf ε)) :
    Except (OverrideError ε) (Config Leaf) :=
  overrides.foldlM (fun config override => override.apply config) config

/-- The override has a path, and no leaf is in its way. -/
def Reaches (config : Config Leaf) (override : Override Leaf ε) : Prop :=
  override.path ≠ [] ∧ Fits config override.path

/-- Behind the first override no leaf of its value is in the way of the second. -/
def Admits (first second : Override Leaf ε) : Prop :=
  ∀ value, first.value = .ok value → ∀ q, first.path <+: q → q <+: second.path → q ≠ second.path →
    ∀ leaf, look value (q.drop first.path.length) ≠ some (some leaf)

/-- What the second override sets below the first one is what the first one sets there. -/
def Agrees (first second : Override Leaf ε) : Prop :=
  ∀ value value', first.value = .ok value → second.value = .ok value' → ∀ rest,
    second.path = first.path ++ rest →
    ∀ t, look value (rest ++ t) = look value' t

variable {config config' : Config Leaf} {first second override : Override Leaf ε}
    {overrides : List (Override Leaf ε)}

theorem apply_invalid (h : override.path = []) :
    override.apply config = .error (.invalid override.name) := if_pos h

theorem apply_conflict (nonempty : override.path ≠ []) (blocked : ¬Fits config override.path) :
    override.apply config = .error (.conflicts override.name) :=
  (if_neg nonempty).trans (setPath_conflict nonempty blocked)

theorem apply_value {e : ε} (reaches : Reaches config override) (h : override.value = .error e) :
    override.apply config = .error (.value e) := by
  rw [Override.apply, if_neg reaches.1, h]
  exact setPath_error reaches.1 reaches.2

theorem apply_ok {value : ConfigValue Leaf} (reaches : Reaches config override)
    (h : override.value = .ok value) :
    ∃ config', override.apply config = .ok config' ∧ ∀ q, look (.table config') q =
      if override.path <+: q then look value (q.drop override.path.length)
      else if q <+: override.path then some none else look (.table config) q := by
  rw [Override.apply, if_neg reaches.1, h]
  exact setPath_ok reaches.1 reaches.2

/-- What an override that is applied tells. -/
theorem of_apply_ok (h : override.apply config = .ok config') : Reaches config override ∧
    ∃ value, override.value = .ok value ∧ ∀ q, look (.table config') q =
      if override.path <+: q then look value (q.drop override.path.length)
      else if q <+: override.path then some none else look (.table config) q := by
  by_cases hpath : override.path = []
  · rw [apply_invalid hpath] at h
    cases h
  · by_cases hfits : Fits config override.path
    · cases hvalue : override.value with
      | error e =>
        rw [apply_value ⟨hpath, hfits⟩ hvalue] at h
        cases h
      | ok value =>
        obtain ⟨applied, happlied, hlook⟩ := apply_ok ⟨hpath, hfits⟩ hvalue
        obtain rfl := Except.ok.inj (happlied.symm.trans h)
        exact ⟨⟨hpath, hfits⟩, value, rfl, hlook⟩
    · rw [apply_conflict hpath hfits] at h
      cases h

/-- A path that fits goes on to fit where the applied override admits it. -/
theorem fits_of_admits (h : first.apply config = .ok config') (admits : Admits first second)
    (fits : Fits config second.path) : Fits config' second.path := by
  obtain ⟨-, value, hvalue, hlook⟩ := of_apply_ok h
  intro q hq hbegins hne leaf
  rw [hlook q]
  split
  next habove => exact admits value hvalue q habove hbegins hne leaf
  next =>
    split
    next => exact nofun
    next => exact fits q hq hbegins hne leaf

/-- Overrides that admit one another are all applied. -/
theorem applyAll_ok (reaches : ∀ override ∈ overrides, Reaches config override)
    (values : ∀ override ∈ overrides, ∃ value, override.value = .ok value)
      (admits : overrides.Pairwise Admits) :
    ∃ config', applyAll config overrides = .ok config' := by
  induction overrides generalizing config with
  | nil => exact ⟨config, rfl⟩
  | cons first rest ih =>
    obtain ⟨hfirst, hrest⟩ := List.forall_mem_cons.mp reaches
    obtain ⟨⟨value, hvalue⟩, hvalues⟩ := List.forall_mem_cons.mp values
    obtain ⟨hadmits, hpairs⟩ := List.pairwise_cons.mp admits
    obtain ⟨config', happlied, -⟩ := apply_ok hfirst hvalue
    have hreaches : ∀ second ∈ rest, Reaches config' second := fun second hsecond =>
      ⟨(hrest second hsecond).1, fits_of_admits happlied (hadmits second hsecond) (hrest second hsecond).2⟩
    rw [applyAll, List.foldlM_cons, happlied]
    exact ih hreaches hvalues hpairs

theorem admits_self : Admits first first := by
  intro value _ q habove hbelow hne
  exact absurd (hbelow.eq_of_length (le_antisymm hbelow.length_le habove.length_le)) hne

theorem agrees_self : Agrees first first := by
  intro value value' hvalue hvalue' rest hrest t
  obtain rfl := Except.ok.inj (hvalue.symm.trans hvalue')
  rw [List.self_eq_append_right.mp hrest]
  rfl

/-- Overrides that agree find the same at the end of a path that goes on behind both. -/
theorem Agrees.look_eq {value value' : ConfigValue Leaf} {q : List PyStr} (agrees : Agrees first second)
    (agrees' : Agrees second first) (hvalue : first.value = .ok value) (hvalue' : second.value = .ok value')
    (hfirst : first.path <+: q) (hsecond : second.path <+: q) :
    look value (q.drop first.path.length) = look value' (q.drop second.path.length) := by
  rcases List.prefix_or_prefix_of_prefix hfirst hsecond with ⟨rest, hrest⟩ | ⟨rest, hrest⟩
  · obtain ⟨t, rfl⟩ := hsecond
    have h := agrees value value' hvalue hvalue' rest hrest.symm t
    rw [List.drop_left, ← h, ← hrest, List.append_assoc, List.drop_left]
  · obtain ⟨t, rfl⟩ := hfirst
    have h := agrees' value' value hvalue' hvalue rest hrest.symm t
    rw [List.drop_left, ← h, ← hrest, List.append_assoc, List.drop_left]

theorem Agrees.look_between {value : ConfigValue Leaf} {q : List PyStr} (agrees : Agrees first second)
    (hvalue : first.value = .ok value) (ok : ∃ value', second.value = .ok value') (habove : first.path <+: q)
    (hbelow : q <+: second.path) (hne : q ≠ second.path) :
    look value (q.drop first.path.length) = some none := by
  obtain ⟨value', hvalue'⟩ := ok
  obtain ⟨s, rfl⟩ := habove
  obtain ⟨u, hu⟩ := hbelow
  have hnonempty : u ≠ [] := by
    rintro rfl
    exact hne (by rw [← hu, List.append_nil])
  have h := agrees value value' hvalue hvalue' (s ++ u) (by rw [← hu, List.append_assoc]) []
  rw [List.append_nil] at h
  rw [List.drop_left]
  apply look_of_append hnonempty
  rw [h]
  cases value' with
  | leaf leaf => exact nofun
  | table fields => exact nofun

theorem Agrees.admits (agrees : Agrees first second) (ok : ∃ value, second.value = .ok value) :
    Admits first second := by
  intro value hvalue q habove hbelow hne leaf
  rw [agrees.look_between hvalue ok habove hbelow hne]
  exact nofun

/-- What overrides that agree leave does not depend on their order. -/
structure Merged (config config' : Config Leaf) (overrides : List (Override Leaf ε)) (q : List PyStr) :
    Prop where
  below : ∀ override ∈ overrides, ∀ value, override.value = .ok value → override.path <+: q →
    look (.table config') q = look value (q.drop override.path.length)
  above : (∀ override ∈ overrides, ¬override.path <+: q) → (∃ override ∈ overrides, q <+: override.path) →
    look (.table config') q = some none
  apart : (∀ override ∈ overrides, ¬override.path <+: q) → (∀ override ∈ overrides, ¬q <+: override.path) →
    look (.table config') q = look (.table config) q

theorem merged_applyAll (agrees : ∀ first ∈ overrides, ∀ second ∈ overrides, Agrees first second)
    (h : applyAll config overrides = .ok config') (q : List PyStr) : Merged config config' overrides q := by
  induction overrides using List.reverseRecOn generalizing config' with
  | nil =>
    obtain rfl := Except.ok.inj h
    exact ⟨by simp, by simp, by simp⟩
  | append_singleton overrides last ih =>
    rw [applyAll, List.foldlM_append] at h
    obtain ⟨before, hbefore, h⟩ := Except.then_ok h
    rw [List.foldlM_cons] at h
    obtain ⟨after, hafter, h⟩ := Except.then_ok h
    obtain rfl := Except.ok.inj h
    obtain ⟨-, value, hvalue, hlook⟩ := of_apply_ok hafter
    have hagrees : ∀ first ∈ overrides ++ [last], Agrees first last ∧ Agrees last first := fun first hfirst =>
      ⟨agrees first hfirst last (by simp), agrees last (by simp) first hfirst⟩
    have hmerged : Merged config before overrides q :=
      ih (fun first hfirst second hsecond => agrees first (by simp [hfirst]) second (by simp [hsecond]))
        hbefore
    have hq := hlook q
    constructor
    · intro override hoverride value' hvalue' hbegins
      by_cases hlast : last.path <+: q
      · rw [hq, if_pos hlast]
        exact ((hagrees override hoverride).2.look_eq (hagrees override hoverride).1 hvalue hvalue' hlast
          hbegins)
      · have hmem : override ∈ overrides := by
          rcases List.mem_append.mp hoverride with hmem | hmem
          · exact hmem
          · rw [List.mem_singleton.mp hmem] at hbegins
            exact absurd hbegins hlast
        rw [hq, if_neg hlast]
        split
        next hbelow =>
          have hne : q ≠ last.path := fun heq => hlast (heq ▸ List.prefix_refl _)
          exact ((hagrees override hoverride).1.look_between hvalue' ⟨value, hvalue⟩ hbegins hbelow hne).symm
        next => exact hmerged.below override hmem value' hvalue' hbegins
    · intro hnone ⟨override, hoverride, hbelow⟩
      rw [hq, if_neg (hnone last (by simp))]
      split
      next => rfl
      next hnot =>
        have hmem : override ∈ overrides := by
          rcases List.mem_append.mp hoverride with hmem | hmem
          · exact hmem
          · rw [List.mem_singleton.mp hmem] at hbelow
            exact absurd hbelow hnot
        exact hmerged.above (fun override hmem => hnone override (by simp [hmem])) ⟨override, hmem, hbelow⟩
    · intro hnone hnot
      rw [hq, if_neg (hnone last (by simp)), if_neg (hnot last (by simp))]
      exact hmerged.apart (fun override hmem => hnone override (by simp [hmem]))
        (fun override hmem => hnot override (by simp [hmem]))

/-- Both raise the same, or return equal dictionaries. -/
def SameOutcome : Except (OverrideError ε) (Config Leaf) → Except (OverrideError ε) (Config Leaf) → Prop
  | .ok config, .ok config' => config.Same config'
  | .error e, .error e' => e = e'
  | _, _ => False

/-- All overrides are applied, and where one stands below another both set the same. -/
structure Merges (config : Config Leaf) (overrides : List (Override Leaf ε)) : Prop where
  reaches : ∀ override ∈ overrides, Reaches config override
  values : ∀ override ∈ overrides, ∃ value, override.value = .ok value
  agrees : ∀ first ∈ overrides, ∀ second ∈ overrides, Agrees first second

/-- One override is always refused for its path, and no other one ever. -/
structure Refuses (config : Config Leaf) (overrides : List (Override Leaf ε))
    (refused : Override Leaf ε) : Prop where
  mem : refused ∈ overrides
  blocked : refused.path = [] ∨ ¬Fits config refused.path
  reaches : ∀ override ∈ overrides, override ≠ refused → Reaches config override
  values : ∀ override ∈ overrides, override ≠ refused → ∃ value, override.value = .ok value
  admits : ∀ first ∈ overrides, ∀ second ∈ overrides, first ≠ refused → second ≠ refused → Admits first second
  never : ∀ override ∈ overrides, override ≠ refused → override.path <+: refused.path →
    override.path ≠ refused.path → ¬Admits override refused

/-- No path is refused, and all the values that raise raise the same. -/
structure Raises (config : Config Leaf) (overrides : List (Override Leaf ε)) (e : ε) : Prop where
  some : ∃ override ∈ overrides, override.value = .error e
  reaches : ∀ override ∈ overrides, Reaches config override
  only : ∀ override ∈ overrides, ∀ e', override.value = .error e' → e' = e
  admits : ∀ first ∈ overrides, ∀ second ∈ overrides, Admits first second

/-- What makes the order of the overrides indifferent. -/
def Settled (config : Config Leaf) (overrides : List (Override Leaf ε)) : Prop :=
  Merges config overrides ∨ (∃ refused, Refuses config overrides refused) ∨ ∃ e, Raises config overrides e

theorem same_of_merges {order : List (Override Leaf ε)} (merges : Merges config overrides)
    (perm : order.Perm overrides) : SameOutcome (applyAll config overrides) (applyAll config order) := by
  have hadmits : ∀ first ∈ overrides, ∀ second ∈ overrides, Admits first second := by
    intro first hfirst second hsecond
    exact (merges.agrees first hfirst second hsecond).admits (merges.values second hsecond)
  have hpairwise : ∀ order : List (Override Leaf ε), order.Perm overrides → order.Pairwise Admits := by
    intro order perm
    exact List.pairwise_of_forall_mem_list fun first hfirst second hsecond =>
      hadmits first (perm.mem_iff.mp hfirst) second (perm.mem_iff.mp hsecond)
  obtain ⟨merged, hmerged⟩ := applyAll_ok merges.reaches merges.values
      (hpairwise overrides (List.Perm.refl _))
  obtain ⟨merged', hmerged'⟩ :=
      applyAll_ok (fun override hmem => merges.reaches override (perm.mem_iff.mp hmem))
    (fun override hmem => merges.values override (perm.mem_iff.mp hmem)) (hpairwise order perm)
  rw [hmerged, hmerged']
  intro q
  have hleft := merged_applyAll merges.agrees hmerged q
  have hright := merged_applyAll (fun first hfirst second hsecond =>
    merges.agrees first (perm.mem_iff.mp hfirst) second (perm.mem_iff.mp hsecond)) hmerged' q
  by_cases hbelow : ∃ override ∈ overrides, override.path <+: q
  · obtain ⟨override, hmem, hbegins⟩ := hbelow
    obtain ⟨value, hvalue⟩ := merges.values override hmem
    rw [hleft.below override hmem value hvalue hbegins,
      hright.below override (perm.mem_iff.mpr hmem) value hvalue hbegins]
  · have hnone : ∀ override ∈ overrides, ¬override.path <+: q := fun override hmem hbegins =>
      hbelow ⟨override, hmem, hbegins⟩
    have hnone' : ∀ override ∈ order, ¬override.path <+: q := fun override hmem =>
      hnone override (perm.mem_iff.mp hmem)
    by_cases habove : ∃ override ∈ overrides, q <+: override.path
    · obtain ⟨override, hmem, hbegins⟩ := habove
      rw [hleft.above hnone ⟨override, hmem, hbegins⟩,
        hright.above hnone' ⟨override, perm.mem_iff.mpr hmem, hbegins⟩]
    · have hnot : ∀ override ∈ overrides, ¬q <+: override.path := fun override hmem hbegins =>
        habove ⟨override, hmem, hbegins⟩
      rw [hleft.apart hnone hnot, hright.apart hnone' fun override hmem =>
        hnot override (perm.mem_iff.mp hmem)]

/-- A leaf in the way of an override stays, where nothing that is set makes room. -/
theorem blocked_of_apply (h : first.apply config = .ok config') (blocked : ¬Fits config second.path)
    (never : first.path <+: second.path → first.path ≠ second.path → ¬Admits first second) :
    ¬Fits config' second.path := by
  obtain ⟨⟨hnonempty, hfits⟩, value, hvalue, hlook⟩ := of_apply_ok h
  simp only [Fits, not_forall, not_not] at blocked
  obtain ⟨q, hq, hbegins, hne, leaf, hleaf⟩ := blocked
  intro fits
  have hlookq := hlook q
  split at hlookq
  next habove =>
    have hproper : first.path ≠ second.path := by
      intro heq
      rw [heq] at habove
      exact hne (hbegins.eq_of_length (le_antisymm hbegins.length_le habove.length_le))
    refine never (habove.trans hbegins) hproper fun value' hvalue' q' habove' hbelow' hne' leaf' hleaf' => ?_
    obtain rfl := Except.ok.inj (hvalue.symm.trans hvalue')
    have hq' : q' ≠ [] := by
      rintro rfl
      exact hnonempty (List.prefix_nil.mp habove')
    refine fits q' hq' hbelow' hne' leaf' ?_
    rw [hlook q', if_pos habove', hleaf']
  next habove =>
    split at hlookq
    next hbelow => exact hfits q hq hbelow (fun heq => habove (heq ▸ List.prefix_refl _)) leaf hleaf
    next => exact fits q hq hbegins hne leaf (hlookq.trans hleaf)

/-- The error of an override that is refused for its path. -/
def Override.refusal (override : Override Leaf ε) : OverrideError ε :=
  if override.path = [] then .invalid override.name else .conflicts override.name

theorem apply_refusal (h : override.path = [] ∨ ¬Fits config override.path) :
    override.apply config = .error override.refusal := by
  rw [Override.refusal]
  split
  next hpath => exact apply_invalid hpath
  next hpath => exact apply_conflict hpath (h.resolve_left hpath)

theorem applyAll_refuses {refused : Override Leaf ε} (refuses : Refuses config overrides refused) :
    applyAll config overrides = .error refused.refusal := by
  induction overrides generalizing config with
  | nil => exact absurd refuses.mem List.not_mem_nil
  | cons first rest ih =>
    rw [applyAll, List.foldlM_cons]
    by_cases hfirst : first = refused
    · rw [hfirst, apply_refusal refuses.blocked]
      rfl
    · obtain ⟨value, hvalue⟩ := refuses.values first List.mem_cons_self hfirst
      obtain ⟨config', happlied, -⟩ := apply_ok (refuses.reaches first List.mem_cons_self hfirst) hvalue
      rw [happlied]
      refine ih ⟨?_, ?_, ?_, ?_, ?_, ?_⟩
      · exact (List.mem_cons.mp refuses.mem).resolve_left fun heq => hfirst heq.symm
      · refine refuses.blocked.imp_right fun hblocked => ?_
        exact blocked_of_apply happlied hblocked (refuses.never first List.mem_cons_self hfirst)
      · intro override hmem hne
        obtain ⟨hpath, hfits⟩ := refuses.reaches override (List.mem_cons_of_mem _ hmem) hne
        exact ⟨hpath, fits_of_admits happlied
          (refuses.admits first List.mem_cons_self override (List.mem_cons_of_mem _ hmem) hfirst hne) hfits⟩
      · exact fun override hmem => refuses.values override (List.mem_cons_of_mem _ hmem)
      · exact fun first hmem second hmem' =>
          refuses.admits first (List.mem_cons_of_mem _ hmem) second (List.mem_cons_of_mem _ hmem')
      · exact fun override hmem => refuses.never override (List.mem_cons_of_mem _ hmem)

theorem applyAll_raises {e : ε} (raises : Raises config overrides e) :
    applyAll config overrides = .error (.value e) := by
  induction overrides generalizing config with
  | nil =>
    obtain ⟨override, hmem, -⟩ := raises.some
    exact absurd hmem List.not_mem_nil
  | cons first rest ih =>
    rw [applyAll, List.foldlM_cons]
    have hfirst := raises.reaches first List.mem_cons_self
    cases hvalue : first.value with
    | error e' =>
      rw [apply_value hfirst hvalue, raises.only first List.mem_cons_self e' hvalue]
      rfl
    | ok value =>
      obtain ⟨config', happlied, -⟩ := apply_ok hfirst hvalue
      rw [happlied]
      refine ih ⟨?_, ?_, ?_, ?_⟩
      · obtain ⟨override, hmem, hraises⟩ := raises.some
        rcases List.mem_cons.mp hmem with rfl | hmem
        · rw [hvalue] at hraises
          cases hraises
        · exact ⟨override, hmem, hraises⟩
      · intro override hmem
        obtain ⟨hpath, hfits⟩ := raises.reaches override (List.mem_cons_of_mem _ hmem)
        exact ⟨hpath, fits_of_admits happlied
          (raises.admits first List.mem_cons_self override (List.mem_cons_of_mem _ hmem)) hfits⟩
      · exact fun override hmem => raises.only override (List.mem_cons_of_mem _ hmem)
      · exact fun first hmem second hmem' =>
          raises.admits first (List.mem_cons_of_mem _ hmem) second (List.mem_cons_of_mem _ hmem')

theorem same_of_settled {order : List (Override Leaf ε)} (settled : Settled config overrides)
    (perm : order.Perm overrides) : SameOutcome (applyAll config overrides) (applyAll config order) := by
  rcases settled with merges | ⟨refused, refuses⟩ | ⟨e, raises⟩
  · exact same_of_merges merges perm
  · have refuses' : Refuses config order refused :=
      ⟨perm.mem_iff.mpr refuses.mem, refuses.blocked, fun override hmem =>
        refuses.reaches override (perm.mem_iff.mp hmem),
        fun override hmem => refuses.values override (perm.mem_iff.mp hmem),
        fun first hmem second hmem' => refuses.admits first (perm.mem_iff.mp hmem) second
          (perm.mem_iff.mp hmem'),
        fun override hmem => refuses.never override (perm.mem_iff.mp hmem)⟩
    rw [applyAll_refuses refuses, applyAll_refuses refuses']
    rfl
  · have raises' : Raises config order e := by
      obtain ⟨override, hmem, hraises⟩ := raises.some
      exact ⟨⟨override, perm.mem_iff.mpr hmem, hraises⟩,
        fun override hmem => raises.reaches override (perm.mem_iff.mp hmem),
        fun override hmem => raises.only override (perm.mem_iff.mp hmem),
        fun first hmem second hmem' => raises.admits first (perm.mem_iff.mp hmem) second
          (perm.mem_iff.mp hmem')⟩
    rw [applyAll_raises raises, applyAll_raises raises']
    rfl

/-- Every order of the overrides has the same outcome. -/
def OrderFree (config : Config Leaf) (overrides : List (Override Leaf ε)) : Prop :=
  ∀ order : List (Override Leaf ε), order.Perm overrides →
    SameOutcome (applyAll config overrides) (applyAll config order)

theorem exists_first (h : first ∈ overrides) : ∃ rest, (first :: rest).Perm overrides := by
  obtain ⟨front, back, rfl⟩ := List.append_of_mem h
  exact ⟨front ++ back, List.perm_middle.symm⟩

theorem exists_first_two (hfirst : first ∈ overrides) (hsecond : second ∈ overrides) (hne : first ≠ second) :
    ∃ rest, (first :: second :: rest).Perm overrides := by
  obtain ⟨rest, hrest⟩ := exists_first hfirst
  have hmem : second ∈ rest :=
    (List.mem_cons.mp (hrest.mem_iff.mpr hsecond)).resolve_left fun heq => hne heq.symm
  obtain ⟨rest', hrest'⟩ := exists_first hmem
  exact ⟨rest', (hrest'.cons first).trans hrest⟩

/-- The first of the overrides is applied where all of them are. -/
theorem applyAll_cons_ok (h : applyAll config (first :: overrides) = .ok config') :
    ∃ applied, first.apply config = .ok applied ∧ applyAll applied overrides = .ok config' := by
  rw [applyAll, List.foldlM_cons] at h
  exact Except.then_ok h

theorem applyAll_append_ok {more : List (Override Leaf ε)}
    (h : applyAll config (overrides ++ more) = .ok config') :
    ∃ applied, applyAll config overrides = .ok applied ∧ applyAll applied more = .ok config' := by
  rw [applyAll, List.foldlM_append] at h
  exact Except.then_ok h

theorem admits_of_fits (h : first.apply config = .ok config') (fits : Fits config' second.path) :
    Admits first second := by
  obtain ⟨⟨hnonempty, -⟩, value, hvalue, hlook⟩ := of_apply_ok h
  intro value' hvalue' q habove hbelow hne leaf hleaf
  obtain rfl := Except.ok.inj (hvalue.symm.trans hvalue')
  have hq : q ≠ [] := by
    rintro rfl
    exact hnonempty (List.prefix_nil.mp habove)
  refine fits q hq hbelow hne leaf ?_
  rw [hlook q, if_pos habove, hleaf]

/-- An override that is applied last leaves its value. -/
theorem look_of_last {value : ConfigValue Leaf}
    (h : applyAll config (overrides ++ [first, second]) = .ok config')
    (hvalue : second.value = .ok value) {q : List PyStr} (hbegins : second.path <+: q) :
    look (.table config') q = look value (q.drop second.path.length) := by
  obtain ⟨before, -, h⟩ := applyAll_append_ok h
  obtain ⟨middle, -, h⟩ := applyAll_cons_ok h
  obtain ⟨after, hafter, h⟩ := applyAll_cons_ok h
  obtain rfl := Except.ok.inj h
  obtain ⟨-, value', hvalue', hlook⟩ := of_apply_ok hafter
  obtain rfl := Except.ok.inj (hvalue.symm.trans hvalue')
  rw [hlook q, if_pos hbegins]

theorem merges_of_orderFree (orderFree : OrderFree config overrides)
    (h : applyAll config overrides = .ok config') :
    Merges config overrides := by
  have hok : ∀ order : List (Override Leaf ε), order.Perm overrides → ∃ merged,
      applyAll config order = .ok merged ∧
      Config.Same config' merged := by
    intro order perm
    have hsame := orderFree order perm
    rw [h] at hsame
    cases horder : applyAll config order with
    | error e =>
      rw [horder] at hsame
      exact hsame.elim
    | ok merged =>
      rw [horder] at hsame
      exact ⟨merged, rfl, hsame⟩
  have hfirst : ∀ override ∈ overrides, Reaches config override ∧ ∃ value, override.value = .ok value := by
    intro override hmem
    obtain ⟨rest, hperm⟩ := exists_first hmem
    obtain ⟨merged, hmerged, -⟩ := hok _ hperm
    obtain ⟨applied, happlied, -⟩ := applyAll_cons_ok hmerged
    obtain ⟨hreaches, value, hvalue, -⟩ := of_apply_ok happlied
    exact ⟨hreaches, value, hvalue⟩
  refine ⟨fun override hmem => (hfirst override hmem).1, fun override hmem => (hfirst override hmem).2, ?_⟩
  intro first hmem second hmem'
  by_cases heq : first = second
  · rw [heq]
    exact agrees_self
  · intro value value' hvalue hvalue' rest hrest t
    obtain ⟨others, hperm⟩ := exists_first_two hmem hmem' heq
    have hperm' : (others ++ [first, second]).Perm overrides := by
      have hcomm : (others ++ [first, second]).Perm ([first, second] ++ others) := List.perm_append_comm
      exact hcomm.trans hperm
    have hperm'' : (others ++ [second, first]).Perm overrides :=
      ((List.Perm.swap first second []).append_left others).trans hperm'
    obtain ⟨merged, hmerged, hsame⟩ := hok _ hperm'
    obtain ⟨merged', hmerged', hsame'⟩ := hok _ hperm''
    have hbelow : second.path <+: second.path ++ t := List.prefix_append _ _
    have habove : first.path <+: second.path ++ t := by
      rw [hrest, List.append_assoc]
      exact List.prefix_append _ _
    have hlast := look_of_last hmerged hvalue' hbelow
    have hlast' := look_of_last hmerged' hvalue habove
    rw [List.drop_left] at hlast
    rw [hrest, List.append_assoc, List.drop_left] at hlast'
    rw [← hlast', ← List.append_assoc, ← hrest, ← hsame', hsame, hlast]

/-- The override that raised, and that those before it were applied. -/
theorem exists_refused {e : OverrideError ε} (h : applyAll config overrides = .error e) :
    ∃ front refused back applied, overrides = front ++ refused :: back ∧ applyAll config front = .ok applied ∧
      refused.apply applied = .error e := by
  induction overrides generalizing config with
  | nil => cases h
  | cons first rest ih =>
    rw [applyAll, List.foldlM_cons] at h
    cases hfirst : first.apply config with
    | error e' =>
      rw [hfirst] at h
      exact ⟨[], first, rest, config, rfl, rfl, hfirst.trans (congrArg _ (Except.error.inj h))⟩
    | ok applied =>
      rw [hfirst] at h
      obtain ⟨front, refused, back, applied', rfl, hfront, hrefused⟩ := ih h
      refine ⟨first :: front, refused, back, applied', rfl, ?_, hrefused⟩
      rw [applyAll, List.foldlM_cons, hfirst]
      exact hfront

/-- Why an override raises. -/
theorem of_apply_error {e : OverrideError ε} (h : override.apply config = .error e) :
    ((override.path = [] ∨ ¬Fits config override.path) ∧ e = override.refusal) ∨
      Reaches config override ∧ ∃ e', override.value = .error e' ∧ e = .value e' := by
  by_cases hblocked : override.path = [] ∨ ¬Fits config override.path
  · exact Or.inl ⟨hblocked, (Except.error.inj ((apply_refusal hblocked).symm.trans h)).symm⟩
  · rw [not_or, not_not] at hblocked
    cases hvalue : override.value with
    | error e' =>
      exact Or.inr ⟨hblocked, e', rfl, (Except.error.inj ((apply_value hblocked hvalue).symm.trans h)).symm⟩
    | ok value =>
      obtain ⟨applied, happlied, -⟩ := apply_ok hblocked hvalue
      rw [happlied] at h
      cases h

theorem raises_of_orderFree {e : ε} (orderFree : OrderFree config overrides)
    (h : applyAll config overrides = .error (.value e)) : Raises config overrides e := by
  have herror : ∀ order : List (Override Leaf ε), order.Perm overrides →
      applyAll config order = .error (.value e) := by
    intro order perm
    have hsame := orderFree order perm
    rw [h] at hsame
    cases horder : applyAll config order with
    | error e' =>
      rw [horder] at hsame
      exact congrArg _ hsame.symm
    | ok merged =>
      rw [horder] at hsame
      exact hsame.elim
  -- an override is applied in a state where the values that raise are still to come, or raises itself
  have hstep : ∀ {config : Config Leaf} {override : Override Leaf ε} {rest : List (Override Leaf ε)},
      applyAll config (override :: rest) = .error (.value e) → Reaches config override ∧
        ((override.value = .error e ∧ override.apply config = .error (.value e)) ∨ ∃ applied,
          override.apply config = .ok applied ∧ applyAll applied rest = .error (.value e)) := by
    intro config override rest h
    rw [applyAll, List.foldlM_cons] at h
    cases happly : override.apply config with
    | ok applied =>
      rw [happly] at h
      exact ⟨(of_apply_ok happly).1, Or.inr ⟨applied, rfl, h⟩⟩
    | error e' =>
      rw [happly] at h
      obtain rfl := Except.error.inj h
      rcases of_apply_error happly with ⟨-, hrefusal⟩ | ⟨hreaches, e'', hvalue, he⟩
      · rw [Override.refusal] at hrefusal
        split at hrefusal
        next => cases hrefusal
        next => cases hrefusal
      · rw [OverrideError.value.inj he]
        exact ⟨hreaches, Or.inl ⟨hvalue, rfl⟩⟩
  refine ⟨?_, ?_, ?_, ?_⟩
  · obtain ⟨front, refused, back, applied, rfl, -, hrefused⟩ := exists_refused h
    rcases of_apply_error hrefused with ⟨-, hrefusal⟩ | ⟨-, e', hvalue, he⟩
    · rw [Override.refusal] at hrefusal
      split at hrefusal
      next => cases hrefusal
      next => cases hrefusal
    · exact ⟨refused, by simp, hvalue.trans (congrArg _ (OverrideError.value.inj he).symm)⟩
  · intro override hmem
    obtain ⟨rest, hperm⟩ := exists_first hmem
    exact (hstep (herror _ hperm)).1
  · intro override hmem e' hvalue
    obtain ⟨rest, hperm⟩ := exists_first hmem
    obtain ⟨hreaches, ⟨hraises, -⟩ | ⟨applied, happlied, -⟩⟩ := hstep (herror _ hperm)
    · exact Except.error.inj (hvalue.symm.trans hraises)
    · rw [apply_value hreaches hvalue] at happlied
      cases happlied
  · intro first hmem second hmem'
    by_cases heq : first = second
    · rw [heq]
      exact admits_self
    · obtain ⟨rest, hperm⟩ := exists_first_two hmem hmem' heq
      obtain ⟨-, ⟨hraises, -⟩ | ⟨applied, happlied, hrest⟩⟩ := hstep (herror _ hperm)
      · intro value hvalue
        rw [hraises] at hvalue
        cases hvalue
      · exact admits_of_fits happlied (hstep hrest).1.2

theorem eq_of_refusal (names : (overrides.map Override.name).Nodup) (hfirst : first ∈ overrides)
    (hsecond : second ∈ overrides) (h : first.refusal = second.refusal) : first = second := by
  refine List.inj_on_of_nodup_map names hfirst hsecond ?_
  rw [Override.refusal, Override.refusal] at h
  split at h
  next =>
    split at h
    next => exact OverrideError.invalid.inj h
    next => cases h
  next =>
    split at h
    next => cases h
    next => exact OverrideError.conflicts.inj h

theorem refuses_of_orderFree {refused : Override Leaf ε} (names : (overrides.map Override.name).Nodup)
    (orderFree : OrderFree config overrides) (hmem : refused ∈ overrides)
    (h : applyAll config overrides = .error refused.refusal) : Refuses config overrides refused := by
  have hnot : ∀ e, refused.refusal ≠ OverrideError.value e := by
    intro e
    rw [Override.refusal]
    split
    next => exact nofun
    next => exact nofun
  have herror : ∀ order : List (Override Leaf ε), order.Perm overrides →
      applyAll config order = .error refused.refusal := by
    intro order perm
    have hsame := orderFree order perm
    rw [h] at hsame
    cases horder : applyAll config order with
    | error e' =>
      rw [horder] at hsame
      exact congrArg _ hsame.symm
    | ok merged =>
      rw [horder] at hsame
      exact hsame.elim
  -- in every order the refused one raises, and those before it are applied
  have hsplit : ∀ front back : List (Override Leaf ε), (front ++ refused :: back).Perm overrides →
      ∃ applied, applyAll config front = .ok applied ∧ refused.apply applied = .error refused.refusal := by
    intro front back perm
    obtain ⟨front', refused', back', applied, hlist, hfront, hrefused⟩ := exists_refused (herror _ perm)
    have hmem' : refused' ∈ overrides := by
      rw [← perm.mem_iff, hlist]
      simp
    have hsame : refused = refused' := by
      rcases of_apply_error hrefused with ⟨-, hrefusal⟩ | ⟨-, e', -, hvalue⟩
      · exact eq_of_refusal names hmem hmem' hrefusal
      · exact absurd hvalue (hnot e')
    have hnodup : (front ++ refused :: back).Nodup := perm.nodup_iff.mpr (List.Nodup.of_map _ names)
    subst hsame
    have hfree : refused ∉ front ++ back := (List.nodup_cons.mp (List.nodup_middle.mp hnodup)).1
    rw [List.mem_append, not_or] at hfree
    have hfronts : front = front' := ((List.append_cons_inj_of_notMem hfree.1 hfree.2).mp hlist).1
    rw [hfronts]
    exact ⟨applied, hfront, hrefused⟩
  have hfirst : ∀ override ∈ overrides, override ≠ refused → ∃ applied, override.apply config = .ok applied ∧
      refused.apply applied = .error refused.refusal := by
    intro override hoverride hne
    obtain ⟨rest, hperm⟩ := exists_first_two hoverride hmem hne
    obtain ⟨applied, happlied, hrefused⟩ := hsplit [override] rest hperm
    obtain ⟨applied', happlied', hnil⟩ := applyAll_cons_ok happlied
    obtain rfl := Except.ok.inj hnil
    exact ⟨applied', happlied', hrefused⟩
  refine ⟨hmem, ?_, ?_, ?_, ?_, ?_⟩
  · obtain ⟨rest, hperm⟩ := exists_first hmem
    obtain ⟨applied, hnil, hrefused⟩ := hsplit [] rest hperm
    obtain rfl := Except.ok.inj hnil
    rcases of_apply_error hrefused with ⟨hblocked, -⟩ | ⟨-, e', -, hvalue⟩
    · exact hblocked
    · exact absurd hvalue (hnot e')
  · intro override hoverride hne
    obtain ⟨applied, happlied, -⟩ := hfirst override hoverride hne
    exact (of_apply_ok happlied).1
  · intro override hoverride hne
    obtain ⟨applied, happlied, -⟩ := hfirst override hoverride hne
    obtain ⟨-, value, hvalue, -⟩ := of_apply_ok happlied
    exact ⟨value, hvalue⟩
  · intro first hfirst' second hsecond' hne hne'
    by_cases heq : first = second
    · rw [heq]
      exact admits_self
    · obtain ⟨rest, hperm⟩ := exists_first_two hfirst' hsecond' heq
      have hin : refused ∈ rest := by
        have hcons := hperm.mem_iff.mpr hmem
        simpa [hne.symm, hne'.symm] using hcons
      obtain ⟨front, back, rfl⟩ := List.append_of_mem hin
      obtain ⟨applied, happlied, -⟩ := hsplit (first :: second :: front) back hperm
      obtain ⟨config₁, hfirst₁, happlied⟩ := applyAll_cons_ok happlied
      obtain ⟨config₂, hsecond₂, -⟩ := applyAll_cons_ok happlied
      exact admits_of_fits hfirst₁ (of_apply_ok hsecond₂).1.2
  · intro override hoverride hne hbegins hproper admits
    obtain ⟨applied, happlied, hrefused⟩ := hfirst override hoverride hne
    obtain ⟨⟨hnonempty, -⟩, value, hvalue, hlook⟩ := of_apply_ok happlied
    rcases of_apply_error hrefused with ⟨hpath | hblocked, -⟩ | ⟨-, e', -, he⟩
    · rw [hpath] at hbegins
      exact hnonempty (List.prefix_nil.mp hbegins)
    · refine hblocked fun q hq hbelow hne leaf => ?_
      rw [hlook q]
      split
      next habove => exact admits value hvalue q habove hbelow hne leaf
      next habove =>
        rcases List.prefix_or_prefix_of_prefix hbegins hbelow with hbegins | hbegins
        · exact absurd hbegins habove
        · rw [if_pos hbegins]
          exact nofun
    · exact absurd he (hnot e')

theorem orderFree_iff (names : (overrides.map Override.name).Nodup) :
    OrderFree config overrides ↔ Settled config overrides := by
  refine ⟨fun orderFree => ?_, fun settled order perm => same_of_settled settled perm⟩
  cases h : applyAll config overrides with
  | ok config' => exact Or.inl (merges_of_orderFree orderFree h)
  | error e =>
    obtain ⟨front, refused, back, applied, hlist, -, hrefused⟩ := exists_refused h
    rcases of_apply_error hrefused with ⟨-, rfl⟩ | ⟨-, e', -, rfl⟩
    · have hmem : refused ∈ overrides := by simp [hlist]
      exact Or.inr (Or.inl ⟨refused, refuses_of_orderFree names orderFree hmem h⟩)
    · exact Or.inr (Or.inr ⟨e', raises_of_orderFree orderFree h⟩)

end runs

section environment

variable {Leaf ε : Type}

/-- The overrides that an extension finds in the environment. -/
def overridesOf (methods : TextMethods) (parse : PyStr → Except ε (ConfigValue Leaf)) (extensionId : PyStr)
    (environ : List (PyStr × PyStr)) : List (Override Leaf ε) :=
  (environ.filter fun setting => appliesOverride methods extensionId setting.1).map fun setting =>
    { name := setting.1, path := overridePath methods extensionId setting.1, value := parse setting.2 }

variable {methods : TextMethods} {parse : PyStr → Except ε (ConfigValue Leaf)} {extensionId : PyStr}
  {config : Config Leaf} {environ : List (PyStr × PyStr)}

theorem applyEnvironmentOverrides_eq :
    applyEnvironmentOverrides methods parse extensionId config environ =
      applyAll config (overridesOf methods parse extensionId environ) := by
  induction environ generalizing config with
  | nil => rfl
  | cons setting environ ih =>
    rw [applyEnvironmentOverrides, List.foldlM_cons, applyOverride, overridesOf]
    split
    next happlies =>
      rw [List.filter_cons, if_pos happlies, List.map_cons, applyAll, List.foldlM_cons]
      exact congrArg _ (funext fun config => ih)
    next hnot =>
      rw [List.filter_cons, if_neg hnot]
      exact ih

/-- A permutation of the images is the image of a permutation. -/
theorem exists_perm_map {α β : Type} {f : α → β} {order images : List β} (h : order.Perm images) :
    ∀ items : List α, items.map f = images → ∃ items' : List α, items'.Perm items ∧ items'.map f = order := by
  induction h with
  | nil =>
    intro items hitems
    exact ⟨items, List.Perm.refl _, hitems⟩
  | cons b _ ih =>
    intro items hitems
    obtain ⟨item, rest, rfl, rfl, hrest⟩ := List.map_eq_cons_iff.mp hitems
    obtain ⟨rest', hperm, hmap⟩ := ih rest hrest
    exact ⟨item :: rest', hperm.cons item, by rw [List.map_cons, hmap]⟩
  | swap b c _ =>
    intro items hitems
    obtain ⟨item, rest, rfl, rfl, hrest⟩ := List.map_eq_cons_iff.mp hitems
    obtain ⟨next, rest', rfl, rfl, rfl⟩ := List.map_eq_cons_iff.mp hrest
    exact ⟨next :: item :: rest', List.Perm.swap item next rest', rfl⟩
  | trans _ _ ih ih' =>
    intro items hitems
    obtain ⟨middle, hmiddle, hmap⟩ := ih' items hitems
    obtain ⟨first, hfirst, hmap'⟩ := ih middle hmap
    exact ⟨first, hfirst.trans hmiddle, hmap'⟩

theorem exists_environ {order : List (Override Leaf ε)}
    (perm : order.Perm (overridesOf methods parse extensionId environ)) :
    ∃ environ' : List (PyStr × PyStr), environ'.Perm environ ∧
      overridesOf methods parse extensionId environ' = order := by
  obtain ⟨settings, hsettings, hmap⟩ := exists_perm_map perm _ rfl
  have happlied : settings.filter (fun setting => appliesOverride methods extensionId setting.1) =
      settings := by
    rw [List.filter_eq_self]
    intro setting hsetting
    exact (List.mem_filter.mp (hsettings.mem_iff.mp hsetting)).2
  refine ⟨settings ++ environ.filter (fun setting => !appliesOverride methods extensionId setting.1), ?_, ?_⟩
  · exact (hsettings.append_right _).trans (List.filter_append_perm _ environ)
  · rw [overridesOf, List.filter_append, happlied, List.filter_filter]
    simpa using hmap

/-- The order of the environment makes no difference exactly where the overrides are settled. -/
theorem overrides_orderFree_iff (names : (environ.map Prod.fst).Nodup) :
    (∀ environ' : List (PyStr × PyStr), environ'.Perm environ →
        SameOutcome (applyEnvironmentOverrides methods parse extensionId config environ)
          (applyEnvironmentOverrides methods parse extensionId config environ')) ↔
      Settled config (overridesOf methods parse extensionId environ) := by
  have hnames : ((overridesOf methods parse extensionId environ).map Override.name).Nodup := by
    rw [overridesOf, List.map_map]
    exact names.sublist (List.filter_sublist.map Prod.fst)
  rw [← orderFree_iff hnames]
  constructor
  · intro h order perm
    obtain ⟨environ', hperm, rfl⟩ := exists_environ perm
    rw [← applyEnvironmentOverrides_eq, ← applyEnvironmentOverrides_eq]
    exact h environ' hperm
  · intro orderFree environ' perm
    rw [applyEnvironmentOverrides_eq, applyEnvironmentOverrides_eq]
    exact orderFree _ ((perm.filter _).map _)

mutual

/-- A JSON value in a configuration. -/
def configValue : PyJson → ConfigValue PyJson
  | .dict items => .table (configFields items)
  | value => .leaf value

def configFields : List (PyStr × PyJson) → Config PyJson
  | [] => []
  | (name, value) :: items => (name, configValue value) :: configFields items

end

/-- `_parse_environment_value` -/
def parseEnvironmentValue (depth : Nat) (raw : PyStr) : Except PyError (ConfigValue PyJson) :=
  match loads depth raw with
  | .ok value => .ok (configValue value)
  | .error .jsonDecodeError => .ok (.leaf (.str raw))
  | .error error => .error error

/-- One variable sets a field and the other one a field below it: only in one order is there a table for it. -/
def nestedVariables : List (PyStr × PyStr) :=
  [(PyStr.ofString "JLINK_MCP_EXT_A__B", PyStr.ofString "1"),
    (PyStr.ofString "JLINK_MCP_EXT_A__B__C", PyStr.ofString "2")]

theorem overrides_order_matters : (nestedVariables.map Prod.fst).Nodup ∧
    nestedVariables.reverse.Perm nestedVariables ∧
    ¬SameOutcome
      (applyEnvironmentOverrides asciiMethods (parseEnvironmentValue 9) (PyStr.ofString "a") []
        nestedVariables)
      (applyEnvironmentOverrides asciiMethods (parseEnvironmentValue 9) (PyStr.ofString "a") []
        nestedVariables.reverse) := by
  refine ⟨by decide, List.reverse_perm _, ?_⟩
  have hconflict : applyEnvironmentOverrides asciiMethods (parseEnvironmentValue 9) (PyStr.ofString "a") []
      nestedVariables = .error (.conflicts (PyStr.ofString "JLINK_MCP_EXT_A__B__C")) := rfl
  have hset : applyEnvironmentOverrides asciiMethods (parseEnvironmentValue 9) (PyStr.ofString "a") []
      nestedVariables.reverse = .ok [(PyStr.ofString "b", .leaf (.int 1))] := rfl
  rw [hconflict, hset]
  exact id

theorem overrides_orderFree_iff_nested :
    (∀ environ' : List (PyStr × PyStr), environ'.Perm nestedVariables →
        SameOutcome
          (applyEnvironmentOverrides asciiMethods (parseEnvironmentValue 9) (PyStr.ofString "a") []
            nestedVariables)
          (applyEnvironmentOverrides asciiMethods (parseEnvironmentValue 9) (PyStr.ofString "a") []
            environ')) ↔
      Settled [] (overridesOf asciiMethods (parseEnvironmentValue 9) (PyStr.ofString "a") nestedVariables) :=
  overrides_orderFree_iff (by decide)

end environment

end JLinkMcp.Extensions
