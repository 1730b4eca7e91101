import JLinkMcp.DependencyOrder
import JLinkMcp.ExtensionManager

namespace JLinkMcp.Extensions

open DependencyOrder Host

variable {Object : Type}

/-- The first extension depends on the second one. -/
def DependsOn (extensions : List (Extension Object)) (first second : PyStr) : Prop :=
  ∃ extension ∈ extensions, extension.id = first ∧ second ∈ extension.dependencies

/-- Some extension depends on one that is not enabled. -/
def Disabled (extensions : List (Extension Object)) : Prop :=
  ∃ extension ∈ extensions, ∃ dependency ∈ extension.dependencies, dependency ∉ extensions.map Extension.id

/-- Some extension depends on itself, by one step or by many. -/
def Cyclic (extensions : List (Extension Object)) : Prop :=
  ∃ extensionId, Relation.TransGen (DependsOn extensions) extensionId extensionId

/-- The text of an `ExtensionError` of `_topological_order`; that of a `RecursionError` is another one. -/
def isOrderError (text : PyStr) : Bool := (PyStr.ofString "extension ").isPrefixOf text

section visit

variable {extensions : List (Extension Object)} {depth : Nat} {visiting order order' : List PyStr}
  {extensionId : PyStr}

/-- The dependencies that `visit` goes through. -/
def dependenciesOf (extensions : List (Extension Object)) (extensionId : PyStr) : List PyStr :=
  (extensions.find? fun extension => extension.id = extensionId).elim [] Extension.dependencies

theorem mem_dependenciesOf (nodup : (extensions.map Extension.id).Nodup) {dependency : PyStr} :
    dependency ∈ dependenciesOf extensions extensionId ↔ DependsOn extensions extensionId dependency := by
  rw [dependenciesOf]
  constructor
  · intro h
    cases hfind : extensions.find? fun extension => extension.id = extensionId with
    | none =>
      rw [hfind] at h
      cases h
    | some extension =>
      rw [hfind] at h
      have hcheck := List.find?_some hfind
      exact ⟨extension, List.mem_of_find?_eq_some hfind, of_decide_eq_true hcheck, h⟩
  · rintro ⟨extension, hmem, rfl, hdependency⟩
    cases hfind : extensions.find? fun other => other.id = extension.id with
    | none =>
      have hnone := List.find?_eq_none.mp hfind extension hmem
      exact absurd (decide_eq_true rfl) hnone
    | some other =>
      have hcheck := List.find?_some hfind
      have hsame : other = extension :=
        List.inj_on_of_nodup_map nodup (List.mem_of_find?_eq_some hfind) hmem (of_decide_eq_true hcheck)
      rw [hsame]
      exact hdependency

/-- What a visit adds to an order that is in order. -/
structure Extends (extensions : List (Extension Object)) (order order' : List PyStr) : Prop where
  inOrder : InOrder (DependsOn extensions) order'
  keeps : ∀ other ∈ order, other ∈ order'
  enabled : (∀ other ∈ order, other ∈ extensions.map Extension.id) →
    ∀ other ∈ order', other ∈ extensions.map Extension.id

/-- A row of visits is as each of them is. -/
theorem extends_foldlM {ids : List PyStr} (enabled : ∀ id ∈ ids, id ∈ extensions.map Extension.id)
    (step : ∀ order extensionId order', InOrder (DependsOn extensions) order →
      extensionId ∈ extensions.map Extension.id →
      visit extensions depth visiting order extensionId = .ok order' →
      Extends extensions order order' ∧ extensionId ∈ order')
    (inOrder : InOrder (DependsOn extensions) order)
    (h : ids.foldlM (visit extensions depth visiting) order = .ok order') :
    Extends extensions order order' ∧ ∀ id ∈ ids, id ∈ order' := by
  induction ids generalizing order with
  | nil =>
    cases h
    exact ⟨⟨inOrder, fun _ h => h, fun h => h⟩, fun _ h => (nomatch h)⟩
  | cons first rest ih =>
    rw [List.foldlM_cons] at h
    cases hfirst : visit extensions depth visiting order first with
    | error text =>
      rw [hfirst] at h
      cases h
    | ok middle =>
      rw [hfirst] at h
      obtain ⟨hextends, hvisited⟩ := step order first middle inOrder (enabled first List.mem_cons_self) hfirst
      obtain ⟨hextends', hvisited'⟩ := ih (fun id hid => enabled id (List.mem_cons_of_mem _ hid)) hextends.inOrder h
      refine ⟨⟨hextends'.inOrder, fun other hother => hextends'.keeps other (hextends.keeps other hother),
        fun hall => hextends'.enabled (hextends.enabled hall)⟩, fun id hid => ?_⟩
      rcases List.mem_cons.mp hid with rfl | hid
      · exact hextends'.keeps id hvisited
      · exact hvisited' id hid

variable (nodup : (extensions.map Extension.id).Nodup) (complete : ¬Disabled extensions)
include nodup complete

omit nodup in
theorem mem_of_dependsOn {first second : PyStr} (h : DependsOn extensions first second) :
    second ∈ extensions.map Extension.id := by
  obtain ⟨extension, hmem, -, hdependency⟩ := h
  by_contra hmissing
  exact complete ⟨extension, hmem, second, hdependency, hmissing⟩

/-- A visit that returns has put the extension behind all that it depends on. -/
theorem extends_visit (inOrder : InOrder (DependsOn extensions) order)
    (hid : extensionId ∈ extensions.map Extension.id)
    (h : visit extensions depth visiting order extensionId = .ok order') :
    Extends extensions order order' ∧ extensionId ∈ order' := by
  induction depth generalizing visiting order extensionId order' with
  | zero => cases h
  | succ depth ih =>
    have hvisits := visits_visit inOrder.nodup h
    rw [visit] at h
    split at h
    next hmem =>
      cases h
      exact ⟨⟨inOrder, fun _ h => h, fun h => h⟩, hmem⟩
    next hnew =>
      split at h
      next => cases h
      next hfree =>
        cases hrest : (dependenciesOf extensions extensionId).foldlM
            (visit extensions depth (visiting ++ [extensionId])) order with
        | error text =>
          rw [dependenciesOf] at hrest
          dsimp only at h
          rw [hrest] at h
          cases h
        | ok visited =>
          have hrest' := hrest
          rw [dependenciesOf] at hrest'
          dsimp only at h
          rw [hrest'] at h
          cases h
          have henabled : ∀ id ∈ dependenciesOf extensions extensionId, id ∈ extensions.map Extension.id :=
            fun id hdependency => mem_of_dependsOn complete ((mem_dependenciesOf nodup).mp hdependency)
          obtain ⟨hextends, hready⟩ := extends_foldlM henabled
            (fun order id order' hinOrder hid h => ih hinOrder hid h) inOrder hrest
          have hfresh : extensionId ∉ visited := by
            intro hmem
            have hlast := List.nodup_append.mp hvisits.1
            exact hlast.2.2 extensionId hmem extensionId (List.mem_singleton_self _) rfl
          refine ⟨⟨.append hextends.inOrder (fun other hother => ?_) hfresh, fun other hother => ?_,
            fun hall other hother => ?_⟩, List.mem_append_right _ (List.mem_singleton_self _)⟩
          · exact hready other ((mem_dependenciesOf nodup).mpr hother)
          · exact List.mem_append_left _ (hextends.keeps other hother)
          · rcases List.mem_append.mp hother with hother | hother
            · exact hextends.enabled hall other hother
            · rw [List.mem_singleton.mp hother]
              exact hid

omit nodup complete in
/-- A row of visits fails where one of them does. -/
theorem error_foldlM {ids : List PyStr} {text : PyStr}
    (h : ids.foldlM (visit extensions depth visiting) order = .error text) :
    ∃ order, ∃ id ∈ ids, visit extensions depth visiting order id = .error text := by
  induction ids generalizing order with
  | nil => cases h
  | cons first rest ih =>
    rw [List.foldlM_cons] at h
    cases hfirst : visit extensions depth visiting order first with
    | error other =>
      rw [hfirst] at h
      cases h
      exact ⟨order, first, List.mem_cons_self, hfirst⟩
    | ok middle =>
      rw [hfirst] at h
      obtain ⟨order, id, hid, herror⟩ := ih h
      exact ⟨order, id, List.mem_cons_of_mem _ hid, herror⟩

omit complete in
/-- A visit that raises an `ExtensionError` has come back to what it is visiting. -/
theorem cyclic_of_visit {text : PyStr} (chain : List.IsChain (DependsOn extensions) (visiting ++ [extensionId]))
    (h : visit extensions depth visiting order extensionId = .error text) (herror : isOrderError text = true) :
    Cyclic extensions := by
  induction depth generalizing visiting order extensionId with
  | zero =>
    cases h
    exact absurd herror (by decide)
  | succ depth ih =>
    rw [visit] at h
    split at h
    next => cases h
    next =>
      split at h
      next hmem => exact ⟨extensionId, cycle_of_isChain chain hmem⟩
      next =>
        cases hrest : (dependenciesOf extensions extensionId).foldlM
            (visit extensions depth (visiting ++ [extensionId])) order with
        | ok visited =>
          rw [dependenciesOf] at hrest
          dsimp only at h
          rw [hrest] at h
          cases h
        | error other =>
          obtain ⟨order', id, hid, hvisit⟩ := error_foldlM hrest
          rw [dependenciesOf] at hrest
          dsimp only at h
          rw [hrest] at h
          cases h
          refine ih ?_ hvisit
          rw [List.isChain_append]
          refine ⟨chain, List.isChain_singleton _, fun last hlast first hfirst => ?_⟩
          rw [List.getLast?_concat, Option.mem_some_iff] at hlast
          cases hlast
          cases hfirst
          exact (mem_dependenciesOf nodup).mp hid

/-- Where Python may recurse more deeply than there are extensions, a visit raises nothing else. -/
theorem isOrderError_of_visit {text : PyStr} (hvisiting : visiting.Nodup)
    (enabled : ∀ other ∈ visiting, other ∈ extensions.map Extension.id)
    (hid : extensionId ∈ extensions.map Extension.id) (deep : extensions.length < visiting.length + depth)
    (h : visit extensions depth visiting order extensionId = .error text) : isOrderError text = true := by
  induction depth generalizing visiting order extensionId with
  | zero =>
    have hlength := (List.subperm_of_subset hvisiting enabled).length_le
    rw [List.length_map] at hlength
    omega
  | succ depth ih =>
    rw [visit] at h
    split at h
    next => cases h
    next =>
      split at h
      next =>
        cases h
        exact List.isPrefixOf_iff_prefix.mpr ⟨_, rfl⟩
      next hfree =>
        cases hrest : (dependenciesOf extensions extensionId).foldlM
            (visit extensions depth (visiting ++ [extensionId])) order with
        | ok visited =>
          rw [dependenciesOf] at hrest
          dsimp only at h
          rw [hrest] at h
          cases h
        | error other =>
          obtain ⟨order', id, hdependency, hvisit⟩ := error_foldlM hrest
          rw [dependenciesOf] at hrest
          dsimp only at h
          rw [hrest] at h
          cases h
          refine ih ?_ ?_ (mem_of_dependsOn complete ((mem_dependenciesOf nodup).mp hdependency)) ?_ hvisit
          · refine List.nodup_append.mpr ⟨hvisiting, List.nodup_cons.mpr ⟨List.not_mem_nil, List.nodup_nil⟩,
              fun a ha b hb hab => ?_⟩
            rw [hab, List.mem_singleton.mp hb] at ha
            exact hfree ha
          · intro other hother
            rcases List.mem_append.mp hother with hother | hother
            · exact enabled other hother
            · rw [List.mem_singleton.mp hother]
              exact hid
          · rw [List.length_append, List.length_singleton]
            omega

end visit

section order

variable {extensions : List (Extension Object)} {enabled : List PyStr} {recursionLimit : Nat}

/-- The check of an extension before the first visit. -/
def checkDependencies (enabled : List PyStr) (extension : Extension Object) : Except PyStr Unit :=
  match extension.dependencies.filter fun item => item ∉ enabled with
  | [] => pure ()
  | missing => .error (PyStr.ofString "extension " ++ extension.id ++
      PyStr.ofString " has disabled or missing dependencies: " ++ joinWith ", " missing)

theorem topologicalOrder_eq : topologicalOrder extensions enabled recursionLimit =
    (extensions.forM (checkDependencies (extensions.map Extension.id))).bind fun _ =>
      enabled.foldlM (visit extensions recursionLimit []) [] := rfl

theorem checkDependencies_ok {all : List PyStr} {extension : Extension Object}
    (h : ∀ dependency ∈ extension.dependencies, dependency ∈ all) : checkDependencies all extension = .ok () := by
  have hnone : extension.dependencies.filter (fun item => item ∉ all) = [] := by
    rw [List.filter_eq_nil_iff]
    exact fun dependency hmem hnot => of_decide_eq_true hnot (h dependency hmem)
  rw [checkDependencies, hnone]
  rfl

theorem checkDependencies_error {all : List PyStr} {extension : Extension Object} {dependency : PyStr}
    (hmem : dependency ∈ extension.dependencies) (hnot : dependency ∉ all) :
    ∃ text, checkDependencies all extension = .error text ∧ isOrderError text = true := by
  have hfilter : dependency ∈ extension.dependencies.filter fun item => item ∉ all :=
    List.mem_filter.mpr ⟨hmem, decide_eq_true hnot⟩
  rw [checkDependencies]
  split
  next hnone =>
    rw [hnone] at hfilter
    cases hfilter
  next missing _ =>
    refine ⟨_, rfl, List.isPrefixOf_iff_prefix.mpr ?_⟩
    rw [List.append_assoc, List.append_assoc]
    exact ⟨_, rfl⟩

theorem checks_ok {all : List PyStr} {checked : List (Extension Object)}
    (h : ∀ extension ∈ checked, ∀ dependency ∈ extension.dependencies, dependency ∈ all) :
    checked.forM (checkDependencies all) = .ok () := by
  induction checked with
  | nil => rfl
  | cons first rest ih =>
    have hcons : (first :: rest).forM (checkDependencies all) =
        (checkDependencies all first).bind fun _ => rest.forM (checkDependencies all) := rfl
    rw [hcons, checkDependencies_ok (h first List.mem_cons_self)]
    exact ih fun extension hmem => h extension (List.mem_cons_of_mem _ hmem)

theorem checks_error {all : List PyStr} {checked : List (Extension Object)} {extension : Extension Object}
    {dependency : PyStr} (hmem : extension ∈ checked) (hdependency : dependency ∈ extension.dependencies)
    (hnot : dependency ∉ all) :
    ∃ text, checked.forM (checkDependencies all) = .error text ∧ isOrderError text = true := by
  induction checked with
  | nil => cases hmem
  | cons first rest ih =>
    have hcons : (first :: rest).forM (checkDependencies all) =
        (checkDependencies all first).bind fun _ => rest.forM (checkDependencies all) := rfl
    rw [hcons]
    by_cases hfirst : ∀ dependency ∈ first.dependencies, dependency ∈ all
    · rw [checkDependencies_ok hfirst]
      rcases List.mem_cons.mp hmem with rfl | hmem
      · exact absurd (hfirst dependency hdependency) hnot
      · exact ih hmem
    · obtain ⟨other, hother, hmissing⟩ : ∃ other ∈ first.dependencies, other ∉ all := by
        by_contra hnone
        exact hfirst fun other hother => by_contra fun hmissing => hnone ⟨other, hother, hmissing⟩
      obtain ⟨text, htext, herror⟩ := checkDependencies_error hother hmissing
      rw [htext]
      exact ⟨text, rfl, herror⟩

variable (nodup : (extensions.map Extension.id).Nodup) (same : enabled.Perm (extensions.map Extension.id))
include nodup same

/-- What is returned holds every enabled extension once, behind all that it depends on; so there was no
extension that is not enabled, and no cycle. -/
theorem order_of_ok {order : List PyStr} (h : topologicalOrder extensions enabled recursionLimit = .ok order) :
    ¬Disabled extensions ∧ ¬Cyclic extensions ∧ order.Perm enabled ∧
      ∀ before extensionId after, order = before ++ extensionId :: after →
        ∀ dependency, DependsOn extensions extensionId dependency → dependency ∈ before := by
  have complete : ¬Disabled extensions := by
    rintro ⟨extension, hmem, dependency, hdependency, hnot⟩
    obtain ⟨text, htext, -⟩ := checks_error hmem hdependency hnot
    rw [topologicalOrder_eq, htext] at h
    cases h
  have hchecks : extensions.forM (checkDependencies (extensions.map Extension.id)) = .ok () := by
    refine checks_ok fun extension hmem dependency hdependency => ?_
    by_contra hnot
    exact complete ⟨extension, hmem, dependency, hdependency, hnot⟩
  rw [topologicalOrder_eq, hchecks] at h
  have henabled : ∀ id ∈ enabled, id ∈ extensions.map Extension.id := fun id hid => same.mem_iff.mp hid
  obtain ⟨hextends, hall⟩ := extends_foldlM henabled
    (fun order id order' hinOrder hid h => extends_visit nodup complete hinOrder hid h) .nil h
  have hmem : ∀ id, id ∈ order ↔ id ∈ enabled := by
    refine fun id => ⟨fun hid => ?_, hall id⟩
    exact same.mem_iff.mpr (hextends.enabled (fun _ h => (nomatch h)) id hid)
  refine ⟨complete, ?_, ?_, fun before extensionId after horder dependency hdependency => ?_⟩
  · rintro ⟨extensionId, cycle⟩
    obtain ⟨dependency, ⟨extension, hextension, rfl, -⟩, -⟩ := Relation.TransGen.head'_iff.mp cycle
    have horder : extension.id ∈ order :=
      (hmem _).mpr (same.mem_iff.mpr (List.mem_map_of_mem hextension))
    exact hextends.inOrder.acyclic horder cycle
  · exact (List.perm_ext_iff_of_nodup hextends.inOrder.nodup (same.nodup_iff.mpr nodup)).mpr hmem
  · exact hextends.inOrder.precedes horder hdependency

omit same in
/-- An `ExtensionError` says truly that an extension is not enabled, or that there is a cycle. -/
theorem disabled_or_cyclic_of_error {text : PyStr}
    (h : topologicalOrder extensions enabled recursionLimit = .error text) (herror : isOrderError text = true) :
    Disabled extensions ∨ Cyclic extensions := by
  by_cases complete : Disabled extensions
  · exact Or.inl complete
  · refine Or.inr ?_
    have hchecks : extensions.forM (checkDependencies (extensions.map Extension.id)) = .ok () := by
      refine checks_ok fun extension hmem dependency hdependency => ?_
      by_contra hnot
      exact complete ⟨extension, hmem, dependency, hdependency, hnot⟩
    rw [topologicalOrder_eq, hchecks] at h
    obtain ⟨order, id, hid, hvisit⟩ := error_foldlM h
    exact cyclic_of_visit nodup (List.isChain_singleton id) hvisit herror

/-- Where Python may recurse more deeply than there are extensions, the order is returned or an
`ExtensionError` is raised. -/
theorem ok_or_isOrderError (deep : extensions.length < recursionLimit) :
    (∃ order, topologicalOrder extensions enabled recursionLimit = .ok order) ∨
      ∃ text, topologicalOrder extensions enabled recursionLimit = .error text ∧ isOrderError text = true := by
  by_cases complete : Disabled extensions
  · obtain ⟨extension, hmem, dependency, hdependency, hnot⟩ := complete
    obtain ⟨text, htext, herror⟩ := checks_error hmem hdependency hnot
    exact Or.inr ⟨text, by rw [topologicalOrder_eq, htext]; rfl, herror⟩
  · have hchecks : extensions.forM (checkDependencies (extensions.map Extension.id)) = .ok () := by
      refine checks_ok fun extension hmem dependency hdependency => ?_
      by_contra hnot
      exact complete ⟨extension, hmem, dependency, hdependency, hnot⟩
    cases hresult : topologicalOrder extensions enabled recursionLimit with
    | ok order => exact Or.inl ⟨order, rfl⟩
    | error text =>
      refine Or.inr ⟨text, rfl, ?_⟩
      rw [topologicalOrder_eq, hchecks] at hresult
      obtain ⟨order, id, hid, hvisit⟩ := error_foldlM hresult
      refine isOrderError_of_visit nodup complete List.nodup_nil (fun _ h => (nomatch h))
        (same.mem_iff.mp hid) ?_ hvisit
      rw [List.length_nil, Nat.zero_add]
      exact deep

/-- `_topological_order` returns: it raises an `ExtensionError` exactly where an extension depends on one that
is not enabled or there is a cycle of dependencies, and otherwise it returns the enabled extensions in an order
in which each of them comes after all that it depends on. -/
theorem topologicalOrder_spec (deep : extensions.length < recursionLimit) :
    ((∃ text, topologicalOrder extensions enabled recursionLimit = .error text ∧ isOrderError text = true) ↔
      Disabled extensions ∨ Cyclic extensions) ∧
      (¬(Disabled extensions ∨ Cyclic extensions) → ∃ order,
        topologicalOrder extensions enabled recursionLimit = .ok order ∧ order.Perm enabled ∧
          ∀ before extensionId after, order = before ++ extensionId :: after →
            ∀ dependency, DependsOn extensions extensionId dependency → dependency ∈ before) := by
  refine ⟨⟨fun ⟨text, htext, herror⟩ => disabled_or_cyclic_of_error nodup htext herror, fun hbad => ?_⟩,
    fun hgood => ?_⟩
  · rcases ok_or_isOrderError nodup same deep with ⟨order, horder⟩ | herror
    · obtain ⟨complete, acyclic, -⟩ := order_of_ok nodup same horder
      exact (hbad.elim complete acyclic).elim
    · exact herror
  · rcases ok_or_isOrderError nodup same deep with ⟨order, horder⟩ | ⟨text, htext, herror⟩
    · obtain ⟨-, -, hperm, hprecedes⟩ := order_of_ok nodup same horder
      exact ⟨order, horder, hperm, hprecedes⟩
    · exact absurd (disabled_or_cyclic_of_error nodup htext herror) hgood

end order

/-- An extension that takes part in nothing but the order. -/
def dependent (id : String) (dependencies : List String) : Extension Unit where
  id := PyStr.ofString id
  version := []
  apiVersion := EXTENSION_API_VERSION
  dependencies := dependencies.map PyStr.ofString
  configured := .valid
  register := .done none
  capability := none
  shutdown := none

/-- Two extensions that share a dependency, enabled before it. -/
theorem topologicalOrder_spec_shared :
    let extensions := [dependent "a" ["c"], dependent "b" ["a", "c"], dependent "c" []]
    let enabled := ["b", "a", "c"].map PyStr.ofString
    ((∃ text, topologicalOrder extensions enabled 1000 = .error text ∧ isOrderError text = true) ↔
      Disabled extensions ∨ Cyclic extensions) ∧
      (¬(Disabled extensions ∨ Cyclic extensions) → ∃ order,
        topologicalOrder extensions enabled 1000 = .ok order ∧ order.Perm enabled ∧
          ∀ before extensionId after, order = before ++ extensionId :: after →
            ∀ dependency, DependsOn extensions extensionId dependency → dependency ∈ before) :=
  topologicalOrder_spec (by decide) (by decide) (by decide)

end JLinkMcp.Extensions
