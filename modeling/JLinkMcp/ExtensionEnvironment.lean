import JLinkMcp.HostText
import Mathlib.Data.List.Nodup

namespace JLinkMcp.Extensions

open Host

/-- The methods of Python's texts, whose tables are those of Unicode. -/
structure TextMethods where
  strip : PyStr → PyStr
  isalnum : CodePoint → Bool
  upper : CodePoint → PyStr
  lower : PyStr → PyStr

/-- A value of a configuration: a table, or one that is no table. -/
inductive ConfigValue (Leaf : Type) where
  | leaf (value : Leaf)
  | table (fields : List (PyStr × ConfigValue Leaf))

abbrev Config (Leaf : Type) := List (PyStr × ConfigValue Leaf)

section enabled

variable (methods : TextMethods)

/-- `_environment_namespace` -/
def environmentNamespace (extensionId : PyStr) : PyStr :=
  let normalized := extensionId.flatMap fun character =>
    if methods.isalnum character then methods.upper character else PyStr.ofString "_"
  PyStr.ofString "JLINK_MCP_EXT_" ++ normalized ++ PyStr.ofString "__"

/-- The loop of `_validate_enabled`; `environment_namespaces` has the namespaces of the result. -/
def validateEnabledFrom : List PyStr → List PyStr → Except PyStr (List PyStr)
  | result, [] => .ok result
  | result, raw :: rest =>
    let extensionId := methods.strip raw
    if extensionId = [] then validateEnabledFrom result rest
    else if extensionId ∈ result then .error (PyStr.ofString "duplicate enabled extension: " ++ extensionId)
    else
      let ns := environmentNamespace methods extensionId
      match result.find? fun owner => environmentNamespace methods owner = ns with
      | some owner => .error (PyStr.ofString "extension environment namespace collision: " ++ owner ++
          PyStr.ofString " and " ++ extensionId ++ PyStr.ofString " both map to " ++ ns)
      | none => validateEnabledFrom (result ++ [extensionId]) rest

/-- `_validate_enabled` -/
def validateEnabled (enabled : List PyStr) : Except PyStr (List PyStr) := validateEnabledFrom methods [] enabled

end enabled

/-- Why an override is refused: its name leaves no path, its path leads through a field that is no table, or
its value raises. -/
inductive OverrideError (ε : Type) where
  | invalid (name : PyStr)
  | conflicts (name : PyStr)
  | value (error : ε)

section overrides

variable {Leaf ε : Type} (methods : TextMethods) (parse : PyStr → Except ε (ConfigValue Leaf))

/-- `text.split("__")` -/
def splitPath : PyStr → List PyStr
  | [] => [[]]
  | [c] => [[c]]
  | c :: d :: rest =>
    if c.val = 95 ∧ d.val = 95 then [] :: splitPath rest
    else
      match splitPath (d :: rest) with
      | [] => [[c]]
      | first :: others => (c :: first) :: others

/-- `target[name] = value` -/
def setField (fields : Config Leaf) (name : PyStr) (value : ConfigValue Leaf) : Config Leaf :=
  if fields.any fun field => field.1 = name then
    fields.map fun field => if field.1 = name then (name, value) else field
  else fields ++ [(name, value)]

/-- The way through the tables of a configuration, which makes those that are missing. The value is read at its
end. -/
def setPath {Refusal : Type} (conflict : Refusal) (value : Except Refusal (ConfigValue Leaf)) :
    Config Leaf → List PyStr → Except Refusal (Config Leaf)
  | fields, [] => .ok fields
  | fields, [last] => do return setField fields last (← value)
  | fields, part :: rest => do
    let child ← match fields.find? fun field => field.1 = part with
      | none => pure []
      | some (_, .table child) => pure child
      | some (_, .leaf _) => throw conflict
    let changed ← setPath conflict value child rest
    return setField fields part (.table changed)

/-- The variable is one that the extension applies. -/
def appliesOverride (extensionId name : PyStr) : Bool := (environmentNamespace methods extensionId).isPrefixOf name

/-- The path of a variable below the configuration of the extension. -/
def overridePath (extensionId name : PyStr) : List PyStr :=
  let rest := name.drop (environmentNamespace methods extensionId).length
  ((splitPath rest).filter fun item => item ≠ []).map methods.lower

/-- One round of the loop of `_apply_environment_overrides`. -/
def applyOverride (extensionId : PyStr) (config : Config Leaf) (setting : PyStr × PyStr) :
    Except (OverrideError ε) (Config Leaf) :=
  if appliesOverride methods extensionId setting.1 then
    let path := overridePath methods extensionId setting.1
    if path = [] then .error (.invalid setting.1)
    else setPath (.conflicts setting.1) ((parse setting.2).mapError .value) config path
  else .ok config

/-- `_apply_environment_overrides`; `parse` is `_parse_environment_value`. -/
def applyEnvironmentOverrides (extensionId : PyStr) (config : Config Leaf) (environ : List (PyStr × PyStr)) :
    Except (OverrideError ε) (Config Leaf) := environ.foldlM (applyOverride methods parse extensionId) config

end overrides

section namespaces

variable {methods : TextMethods} {enabled accepted : List PyStr} {first second : PyStr}

/-- What `_validate_enabled` has seen to when it accepts a list: no two extensions have one namespace. -/
theorem separate_of_validateEnabledFrom {result : List PyStr}
    (separate : (result.map (environmentNamespace methods)).Nodup)
    (h : validateEnabledFrom methods result enabled = .ok accepted) :
    (accepted.map (environmentNamespace methods)).Nodup := by
  induction enabled generalizing result with
  | nil =>
    cases h
    exact separate
  | cons raw rest ih =>
    rw [validateEnabledFrom] at h
    dsimp only at h
    split at h
    next => exact ih separate h
    next =>
      split at h
      next => cases h
      next =>
        split at h
        next => cases h
        next hnone =>
          refine ih ?_ h
          rw [List.map_append, List.nodup_append]
          refine ⟨separate, List.nodup_cons.mpr ⟨List.not_mem_nil, List.nodup_nil⟩, fun a ha b hb hab => ?_⟩
          obtain ⟨owner, howner, rfl⟩ := List.mem_map.mp ha
          rw [List.map_cons, List.map_nil, List.mem_singleton] at hb
          exact List.find?_eq_none.mp hnone owner howner (decide_eq_true (hab.trans hb))

theorem eq_of_namespace (h : validateEnabled methods enabled = .ok accepted) (hfirst : first ∈ accepted)
    (hsecond : second ∈ accepted)
      (same : environmentNamespace methods first = environmentNamespace methods second) :
    first = second := by
  have none_yet : (([] : List PyStr).map (environmentNamespace methods)).Nodup := List.nodup_nil
  have separate := separate_of_validateEnabledFrom none_yet h
  exact List.inj_on_of_nodup_map separate hfirst hsecond same

theorem appliesOverride_iff {extensionId name : PyStr} :
    appliesOverride methods extensionId name = true ↔ environmentNamespace methods extensionId <+: name :=
  List.isPrefixOf_iff_prefix

/-- Variables that an extension does not apply make no difference to it. -/
theorem applyEnvironmentOverrides_filter {Leaf ε : Type} {parse : PyStr → Except ε (ConfigValue Leaf)}
    {extensionId : PyStr} {kept : PyStr × PyStr → Bool} (config : Config Leaf) (environ : List (PyStr × PyStr))
    (hkept : ∀ setting ∈ environ, appliesOverride methods extensionId setting.1 = true → kept setting = true) :
    applyEnvironmentOverrides methods parse extensionId config environ =
      applyEnvironmentOverrides methods parse extensionId config (environ.filter kept) := by
  rw [applyEnvironmentOverrides, applyEnvironmentOverrides]
  induction environ generalizing config with
  | nil => rfl
  | cons setting rest ih =>
    have hrest := fun config => ih config fun other hother => hkept other (List.mem_cons_of_mem _ hother)
    rw [List.filter_cons]
    split
    next =>
      rw [List.foldlM_cons, List.foldlM_cons]
      exact congrArg _ (funext hrest)
    next hdropped =>
      have hnot : appliesOverride methods extensionId setting.1 ≠ true := fun happlies =>
        hdropped (hkept setting List.mem_cons_self happlies)
      rw [List.foldlM_cons, applyOverride, if_neg hnot]
      exact hrest config

/-- No namespace of an extension goes on where that of another one ends. -/
def Unextended (methods : TextMethods) (accepted : List PyStr) : Prop :=
  ∀ first ∈ accepted, ∀ second ∈ accepted,
    environmentNamespace methods first <+: environmentNamespace methods second →
      environmentNamespace methods first = environmentNamespace methods second

theorem eq_of_applied (h : validateEnabled methods enabled = .ok accepted)
    (unextended : Unextended methods accepted)
    (hfirst : first ∈ accepted) (hsecond : second ∈ accepted) {name : PyStr}
    (happlied : appliesOverride methods first name = true)
      (happlied' : appliesOverride methods second name = true) :
    first = second := by
  rcases List.prefix_or_prefix_of_prefix (appliesOverride_iff.mp happlied) (appliesOverride_iff.mp happlied')
    with hbegins | hbegins
  · exact eq_of_namespace h hfirst hsecond (unextended first hfirst second hsecond hbegins)
  · exact (eq_of_namespace h hsecond hfirst (unextended second hsecond first hfirst hbegins)).symm

/-- In an accepted list every environment variable is applied by one extension at most exactly where no namespace
of an extension goes on where that of another one ends; then the variables of an extension make no difference to
the configuration of any other. -/
theorem overrides_disjoint_iff (h : validateEnabled methods enabled = .ok accepted) :
    ((∀ name, ∀ first ∈ accepted, ∀ second ∈ accepted, appliesOverride methods first name = true →
        appliesOverride methods second name = true → first = second) ↔ Unextended methods accepted) ∧
      (Unextended methods accepted → ∀ first ∈ accepted, ∀ second ∈ accepted, first ≠ second →
        ∀ (Leaf : Type) (parse : PyStr → Except PyStr (ConfigValue Leaf)) config environ,
          applyEnvironmentOverrides methods parse first config environ =
            applyEnvironmentOverrides methods parse first config
              (environ.filter fun setting => !appliesOverride methods second setting.1)) := by
  refine ⟨⟨fun once first hfirst second hsecond hbegins => ?_,
    fun unextended name first hfirst second hsecond => eq_of_applied h unextended hfirst hsecond⟩,
    fun unextended first hfirst second hsecond hne Leaf parse config environ => ?_⟩
  · -- the namespace of the second one is itself the name of a variable
    have hsame := once (environmentNamespace methods second) first hfirst second hsecond
      (appliesOverride_iff.mpr hbegins) (appliesOverride_iff.mpr (List.prefix_refl _))
    rw [hsame]
  · refine applyEnvironmentOverrides_filter config environ fun setting _ happlies => ?_
    rw [Bool.not_eq_true']
    by_contra hother
    rw [Bool.not_eq_false] at hother
    exact hne (eq_of_applied h unextended hfirst hsecond happlies hother)

/-- The methods on texts of ASCII. -/
def asciiMethods : TextMethods where
  strip text := ((text.dropWhile fun c => c.val = 32).reverse.dropWhile fun c => c.val = 32).reverse
  isalnum c := (48 ≤ c.val && c.val ≤ 57) || (65 ≤ c.val && c.val ≤ 90) || (97 ≤ c.val && c.val ≤ 122)
  upper c := [if 97 ≤ c.val ∧ c.val ≤ 122 then Fin.ofNat 0x110000 (c.val - 32) else c]
  lower text := text.map fun c => if 65 ≤ c.val ∧ c.val ≤ 90 then Fin.ofNat 0x110000 (c.val + 32) else c

/-- `a__b` is accepted beside `a`, and one variable is applied by both and changes what both are configured
with. -/
theorem overrides_not_disjoint :
    let ids := ["a", "a__b"].map PyStr.ofString
    let name := PyStr.ofString "JLINK_MCP_EXT_A__B__X"
    let parse : PyStr → Except PyStr (ConfigValue PyStr) := fun raw => .ok (.leaf raw)
    validateEnabled asciiMethods ids = .ok ids ∧
      (∀ extensionId ∈ ids, appliesOverride asciiMethods extensionId name = true) ∧
      applyEnvironmentOverrides asciiMethods parse (PyStr.ofString "a") [] [(name, PyStr.ofString "1")] =
        .ok [(PyStr.ofString "b", .table [(PyStr.ofString "x", .leaf (PyStr.ofString "1"))])] ∧
      applyEnvironmentOverrides asciiMethods parse (PyStr.ofString "a__b") [] [(name, PyStr.ofString "1")] =
        .ok [(PyStr.ofString "x", .leaf (PyStr.ofString "1"))] := by
  refine ⟨?_, ?_, ?_, ?_⟩
  · decide
  · decide
  · rfl
  · rfl

/-- Two extensions whose namespaces are apart. -/
theorem overrides_disjoint_iff_apart :
    let ids := ["a", "b"].map PyStr.ofString
    ((∀ name, ∀ first ∈ ids, ∀ second ∈ ids, appliesOverride asciiMethods first name = true →
        appliesOverride asciiMethods second name = true → first = second) ↔ Unextended asciiMethods ids) := by
  have accepted : validateEnabled asciiMethods (["a", "b"].map PyStr.ofString) =
      .ok (["a", "b"].map PyStr.ofString) := by decide
  exact (overrides_disjoint_iff accepted).1

end namespaces

end JLinkMcp.Extensions
