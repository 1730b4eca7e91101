import JLinkMcp.ExtensionContext

namespace JLinkMcp.Extensions

open Host TaskProgram UndoLog

/-- What code raises: an `Exception` with its text, or another `BaseException` with its type. -/
inductive Raised where
  | exception (text : PyStr)
  | base (typeName text : PyStr)
  deriving DecidableEq

/-- What becomes of the configuration of an extension: it is valid, pydantic refuses it, or an
environment override raises. -/
inductive Configured where
  | valid
  | invalid (text : PyStr)
  | raised (raised : Raised)

/-- A registration by a hook, on one of the contexts that were made so far. -/
structure HookCall (Object : Type) where
  context : Nat
  registration : Registration Object

/-- A `register` hook: what it registers may depend on what was returned or raised before, and it ends
by itself or raises. -/
abbrev Hook (Object : Type) : Type :=
  Task (HookCall Object) (fun _ => Except PyStr (Option Object)) (Option Raised)

/-- An extension, with what its hooks do and with what the construction of its `ExtensionCapability`
raises. -/
structure Extension (Object : Type) where
  id : PyStr
  version : PyStr
  apiVersion : Int
  dependencies : List PyStr
  configured : Configured
  register : Hook Object
  capability : Option Raised
  shutdown : Option Raised

/-- What an entry point gives, with the attributes that the contract asks for where they have the type
it asks for, and with the texts that `!r` has for them. -/
structure Contract (Object : Type) where
  id : Option PyStr
  idRepr : PyStr
  apiVersion : Option Int
  apiVersionRepr : PyStr
  version : Option PyStr
  dependencies : Option (List PyStr)
  register : Option (Hook Object)
  shutdown : Option (Option Raised)
  configured : Configured
  capability : Option Raised

structure EntryPoint (Object : Type) where
  name : PyStr
  load : Except PyStr (Contract Object)

structure ExtensionManager (Object : Type) where
  enabled : List PyStr
  entryPoints : List (EntryPoint Object)
  loaded : List (Extension Object)

/-- What surrounds a call of `load`: the MCP server, the configuration file, the check of the
contributions, whether an event loop runs, and how deep Python may recurse. -/
structure Setup (Object : Type) where
  server : McpServer Object
  configFile : Except PyStr Unit
  validate : World Object → Option Raised
  runningLoop : Bool
  recursionLimit : Nat

/-- The variables of `load`. -/
structure Loading (Object : Type) where
  world : World Object
  loaded : List (Extension Object)
  contexts : List (ExtensionContext Object)
  started : List (Extension Object)

/-- What `load` leaves, with the extensions whose `register` was entered and the calls of `shutdown`. -/
structure Loaded (Object : Type) where
  world : World Object
  loaded : List (Extension Object)
  started : List PyStr
  shutDown : List PyStr
  raised : Option Raised

variable {Object : Type}

def EXTENSION_API_VERSION : Int := 1

/-- `_validate_contract` -/
def validateContract (extensionId : PyStr) (contract : Contract Object) : Except PyStr (Extension Object) :=
  if contract.id ≠ some extensionId then
    .error (PyStr.ofString "entry point " ++ extensionId ++ PyStr.ofString " returned extension id " ++
      contract.idRepr)
  else if contract.apiVersion ≠ some EXTENSION_API_VERSION then
    .error (PyStr.ofString "unsupported extension API version for " ++ extensionId ++ PyStr.ofString ": " ++
      contract.apiVersionRepr)
  else
    match contract.version, contract.dependencies, contract.register, contract.shutdown with
    | none, _, _, _ =>
      .error (PyStr.ofString "extension " ++ extensionId ++ PyStr.ofString " has no string version")
    | some _, none, _, _ =>
      .error (PyStr.ofString "extension " ++ extensionId ++
        PyStr.ofString " dependencies must be a sequence")
    | some _, some _, none, _ =>
      .error (PyStr.ofString "extension " ++ extensionId ++ PyStr.ofString " has no register method")
    | some _, some _, some _, none =>
      .error (PyStr.ofString "extension " ++ extensionId ++ PyStr.ofString " has no shutdown method")
    | some version, some dependencies, some register, some shutdown =>
      .ok ⟨extensionId, version, EXTENSION_API_VERSION, dependencies, contract.configured, register,
        contract.capability, shutdown⟩

/-- The one entry point of an enabled extension, imported and checked. -/
def importExtension (entryPoints : List (EntryPoint Object)) (extensionId : PyStr) :
    Except PyStr (Extension Object) :=
  match entryPoints.filter fun point => point.name = extensionId with
  | [] => .error (PyStr.ofString "enabled extension is not installed: " ++ extensionId)
  | [point] =>
    match point.load with
    | .error text => .error (PyStr.ofString "could not import extension " ++ extensionId ++
        PyStr.ofString ": " ++ text)
    | .ok contract => validateContract extensionId contract
  | _ => .error (PyStr.ofString "duplicate extension id: " ++ extensionId)

def joinWith (separator : String) (texts : List PyStr) : PyStr :=
  (texts.intersperse (PyStr.ofString separator)).flatten

/-- `visit` of `_topological_order`, which returns the order so far; its members are also `visited`. -/
def visit (extensions : List (Extension Object)) :
    Nat → List PyStr → List PyStr → PyStr → Except PyStr (List PyStr)
  | 0, _, _, _ => .error (PyStr.ofString "maximum recursion depth exceeded")
  | depth + 1, visiting, order, extensionId =>
    if extensionId ∈ order then .ok order
    else if extensionId ∈ visiting then
      let cycle := visiting.dropWhile (fun other => other ≠ extensionId) ++ [extensionId]
      .error (PyStr.ofString "extension dependency cycle: " ++ joinWith " -> " cycle)
    else
      let dependencies := (extensions.find? fun extension => extension.id = extensionId).elim []
        Extension.dependencies
      (dependencies.foldlM (visit extensions depth (visiting ++ [extensionId])) order).map (· ++ [extensionId])

/-- `_topological_order` -/
def topologicalOrder (extensions : List (Extension Object)) (enabled : List PyStr) (recursionLimit : Nat) :
    Except PyStr (List PyStr) := do
  extensions.forM fun extension =>
    match extension.dependencies.filter fun item => item ∉ extensions.map Extension.id with
    | [] => pure ()
    | missing => .error (PyStr.ofString "extension " ++ extension.id ++
        PyStr.ofString " has disabled or missing dependencies: " ++ joinWith ", " missing)
  enabled.foldlM (visit extensions recursionLimit []) []

namespace ExtensionManager

variable (manager : ExtensionManager Object) (setup : Setup Object)

/-- What `load` does before it registers anything: the extensions in the order of their dependencies. -/
def order : Except PyStr (List (Extension Object)) := do
  let extensions ← manager.enabled.mapM (importExtension manager.entryPoints)
  let order ← topologicalOrder extensions manager.enabled setup.recursionLimit
  setup.configFile
  return order.filterMap fun extensionId => extensions.find? fun extension => extension.id = extensionId

end ExtensionManager

namespace Loading

/-- A hook, until it ends or raises. -/
def runHook (server : McpServer Object) : Hook Object → Loading Object → Loading Object × Option Raised
  | .done raised, loading => (loading, raised)
  | .ask call rest, loading =>
    match loading.contexts[call.context]? with
    | none => runHook server (rest (.error (PyStr.ofString "no such context"))) loading
    | some context =>
      match context.register server loading.world call.registration with
      | (world, none, reply) => runHook server (rest reply) { loading with world }
      | (world, some action, reply) =>
        runHook server (rest reply)
          { loading with world, contexts := loading.contexts.set call.context (context.record action) }

/-- The context of an extension whose `register` is about to be entered. -/
def enter (loading : Loading Object) (extension : Extension Object) : Loading Object :=
  { loading with
    contexts := loading.contexts ++
      [{ extensionId := extension.id, dependencies := extension.dependencies : ExtensionContext Object }]
    started := loading.started ++ [extension] }

def addLoaded (loading : Loading Object) (extension : Extension Object) : Loading Object :=
  { loading with loaded := loading.loaded ++ [extension] }

def addInfo (loading : Loading Object) (extension : Extension Object) : Loading Object :=
  let info : ExtensionCapability := ⟨extension.id, extension.version, extension.apiVersion,
    extension.dependencies⟩
  { loading with world := loading.world.setRegistry { loading.world.registry with
      extensionInfos := loading.world.registry.extensionInfos ++ [info] } }

/-- The loop of `load`. -/
def register (server : McpServer Object) :
    List (Extension Object) → Loading Object → Loading Object × Option Raised
  | [], loading => (loading, none)
  | extension :: rest, loading =>
    match extension.configured with
    | .invalid text => (loading, some (.exception
        (PyStr.ofString "invalid configuration for extension " ++ extension.id ++ PyStr.ofString ": " ++ text)))
    | .raised raised => (loading, some raised)
    | .valid =>
      match runHook server extension.register (loading.enter extension) with
      | (loading, some (.exception text)) => (loading, some (.exception
          (PyStr.ofString "initialization failed for extension " ++ extension.id ++ PyStr.ofString ": " ++ text)))
      | (loading, some (.base typeName text)) => (loading, some (.base typeName text))
      | (loading, none) =>
        match extension.capability with
        | some raised => (loading.addLoaded extension, some raised)
        | none => register server rest ((loading.addLoaded extension).addInfo extension)

end Loading

/-- The calls of `shutdown`, and the texts of what they raise; a `BaseException` ends them. -/
def shutDownAll : List (Extension Object) → List PyStr × Except (PyStr × PyStr) (List PyStr)
  | [] => ([], .ok [])
  | extension :: rest =>
    match extension.shutdown with
    | some (.base typeName text) => ([extension.id], .error (typeName, text))
    | some (.exception text) =>
      let (called, errors) := shutDownAll rest
      (extension.id :: called, errors.map ((extension.id ++ PyStr.ofString ": " ++ text) :: ·))
    | none =>
      let (called, errors) := shutDownAll rest
      (extension.id :: called, errors)

/-- `_shutdown_after_failed_load`: a thread of its own only where an event loop runs. -/
def shutdownAfterFailedLoad (runningLoop : Bool) (started : List (Extension Object)) :
    List PyStr × Except (PyStr × PyStr) (List PyStr) :=
  match runningLoop, shutDownAll started.reverse with
  | true, (called, .error (typeName, text)) =>
    (called, .ok [PyStr.ofString "shutdown runner failed: " ++ typeName ++ PyStr.ofString ": " ++ text])
  | _, result => result

namespace ExtensionManager

variable (manager : ExtensionManager Object) (setup : Setup Object)

/-- The `try` block of `load`. -/
def attempt (order : List (Extension Object)) (world : World Object) : Loading Object × Option Raised :=
  match Loading.register setup.server order ⟨world, manager.loaded, [], []⟩ with
  | (loading, some raised) => (loading, some raised)
  | (loading, none) =>
    match setup.validate loading.world with
    | none => (loading, none)
    | some (.exception text) => (loading, some (.exception
        (PyStr.ofString "extension contribution validation failed: " ++ text)))
    | some (.base typeName text) => (loading, some (.base typeName text))

variable [DecidableEq Object]

/-- The `except` block of `load`. -/
def recover (infoCount : Nat) (loading : Loading Object) (text : PyStr) : Loaded Object :=
  let started := loading.started.map Extension.id
  match shutdownAfterFailedLoad setup.runningLoop loading.started with
  | (called, .error (typeName, text)) =>
    ⟨loading.world, loading.loaded, started, called, some (.base typeName text)⟩
  | (called, .ok shutdownErrors) =>
    let actions := loading.contexts.reverse.flatMap fun context => context.rollbackActions.reverse
    let (world, errors) := World.undoAll setup.server loading.world actions
    let world := world.setRegistry { world.registry with
      extensionInfos := world.registry.extensionInfos.take infoCount }
    let suffix := match shutdownErrors ++ errors with
      | [] => []
      | errors => PyStr.ofString "; rollback errors: " ++ joinWith "; " errors
    ⟨world, [], started, called, some (.exception (text ++ suffix))⟩

/-- `ExtensionManager.load` -/
def load (world : World Object) : Loaded Object :=
  if manager.enabled = [] then ⟨world, manager.loaded, [], [], none⟩
  else
    match manager.order setup with
    | .error text => ⟨world, manager.loaded, [], [], some (.exception text)⟩
    | .ok order =>
      match manager.attempt setup order world with
      | (loading, none) => ⟨loading.world, loading.loaded, loading.started.map Extension.id, [], none⟩
      | (loading, some (.base typeName text)) =>
        ⟨loading.world, loading.loaded, loading.started.map Extension.id, [], some (.base typeName text)⟩
      | (loading, some (.exception text)) =>
        recover setup world.registry.extensionInfos.length loading text

end ExtensionManager

section order

variable {extensions : List (Extension Object)} {depth : Nat} {visiting order order' : List PyStr}
  {extensionId : PyStr}

/-- What is being visited is not added to the order, and nothing is added twice. -/
def Visits (visiting order order' : List PyStr) : Prop :=
  order'.Nodup ∧ ∀ other ∈ visiting, other ∈ order' → other ∈ order

theorem visits_foldlM {ids : List PyStr}
    (step : ∀ order extensionId order', order.Nodup →
      visit extensions depth visiting order extensionId = .ok order' → Visits visiting order order')
    (nodup : order.Nodup) (h : ids.foldlM (visit extensions depth visiting) order = .ok order') :
    Visits visiting order order' := by
  induction ids generalizing order with
  | nil =>
    cases h
    exact ⟨nodup, fun _ _ hother => hother⟩
  | cons first rest ih =>
    rw [List.foldlM_cons] at h
    cases hfirst : visit extensions depth visiting order first with
    | error text =>
      rw [hfirst] at h
      cases h
    | ok middle =>
      rw [hfirst] at h
      obtain ⟨hnodup, hkept⟩ := step order first middle nodup hfirst
      obtain ⟨hnodup', hkept'⟩ := ih hnodup h
      exact ⟨hnodup', fun other hother hmem => hkept other hother (hkept' other hother hmem)⟩

theorem visits_visit (nodup : order.Nodup)
    (h : visit extensions depth visiting order extensionId = .ok order') : Visits visiting order order' := by
  induction depth generalizing visiting order extensionId order' with
  | zero => cases h
  | succ depth ih =>
    rw [visit] at h
    split at h
    next =>
      cases h
      exact ⟨nodup, fun _ _ hother => hother⟩
    next hnew =>
      split at h
      next => cases h
      next hfree =>
        cases hrest : ((extensions.find? fun extension => extension.id = extensionId).elim []
            Extension.dependencies).foldlM (visit extensions depth (visiting ++ [extensionId])) order with
        | error text =>
          dsimp only at h
          rw [hrest] at h
          cases h
        | ok visited =>
          dsimp only at h
          rw [hrest] at h
          cases h
          obtain ⟨hnodup, hkept⟩ := visits_foldlM (fun _ _ _ hnodup h => ih hnodup h) nodup hrest
          have hself : extensionId ∉ visited := fun hmem =>
            hnew (hkept extensionId (List.mem_append_right _ (List.mem_singleton_self _)) hmem)
          constructor
          · rw [List.nodup_append]
            refine ⟨hnodup, List.nodup_singleton _, fun a ha b hb hab => ?_⟩
            rw [hab, List.mem_singleton.mp hb] at ha
            exact hself ha
          · intro other hother hmem
            rcases List.mem_append.mp hmem with hmem | hmem
            · exact hkept other (List.mem_append_left _ hother) hmem
            · rw [List.mem_singleton.mp hmem] at hother
              exact absurd hother hfree

theorem nodup_of_topologicalOrder {enabled : List PyStr} {recursionLimit : Nat}
    (h : topologicalOrder extensions enabled recursionLimit = .ok order) : order.Nodup := by
  rw [topologicalOrder] at h
  cases hmissing : extensions.forM (fun extension =>
      match extension.dependencies.filter fun item => item ∉ extensions.map Extension.id with
      | [] => (pure () : Except PyStr Unit)
      | missing => .error (PyStr.ofString "extension " ++ extension.id ++
          PyStr.ofString " has disabled or missing dependencies: " ++ joinWith ", " missing)) with
  | error text =>
    rw [hmissing] at h
    cases h
  | ok _ =>
    rw [hmissing] at h
    exact (visits_foldlM (fun _ _ _ hnodup h => visits_visit hnodup h) List.nodup_nil h).1

theorem found_sublist (ids : List PyStr) : ((ids.filterMap fun extensionId =>
    extensions.find? fun extension => extension.id = extensionId).map Extension.id).Sublist ids := by
  induction ids with
  | nil => exact List.Sublist.refl _
  | cons first rest ih =>
    rw [List.filterMap_cons]
    split
    next => exact ih.cons first
    next extension hfound =>
      have hcheck := List.find?_some hfound
      have hid : extension.id = first := of_decide_eq_true hcheck
      rw [List.map_cons, hid]
      exact ih.cons_cons first

/-- The extensions are registered in an order in which none comes twice. -/
theorem nodup_of_order {manager : ExtensionManager Object} {setup : Setup Object}
    {ordered : List (Extension Object)} (h : manager.order setup = .ok ordered) :
    (ordered.map Extension.id).Nodup := by
  rw [ExtensionManager.order] at h
  cases himport : manager.enabled.mapM (importExtension manager.entryPoints) with
  | error text =>
    rw [himport] at h
    cases h
  | ok extensions =>
    rw [himport] at h
    cases horder : topologicalOrder extensions manager.enabled setup.recursionLimit with
    | error text =>
      dsimp only [bind, Except.bind] at h
      rw [horder] at h
      cases h
    | ok ids =>
      dsimp only [bind, Except.bind] at h
      rw [horder] at h
      cases hconfig : setup.configFile with
      | error text =>
        rw [hconfig] at h
        cases h
      | ok _ =>
        rw [hconfig] at h
        cases h
        exact (nodup_of_topologicalOrder horder).sublist (found_sublist ids)

end order

/-- A `shutdown` hook raises a `BaseException` that `except Exception` lets through. -/
def Extension.escapes (extension : Extension Object) : Bool :=
  match extension.shutdown with
  | some (.base _ _) => true
  | _ => false

section shutdown

variable {extensions : List (Extension Object)}

/-- Every hook is called where only the last one escapes, if any does. -/
theorem called_shutDownAll (extensions : List (Extension Object)) :
    (shutDownAll extensions).1 = extensions.map Extension.id ↔
      ∀ extension ∈ extensions.dropLast, extension.escapes = false := by
  induction extensions with
  | nil => exact ⟨nofun, fun _ => rfl⟩
  | cons first rest ih =>
    have hquiet : first.escapes = false → (shutDownAll (first :: rest)).1 = first.id :: (shutDownAll rest).1 := by
      intro hfirst
      rw [Extension.escapes] at hfirst
      rw [shutDownAll]
      split
      next hraised =>
        rw [hraised] at hfirst
        cases hfirst
      next => rfl
      next => rfl
    have hescapes : first.escapes = true → (shutDownAll (first :: rest)).1 = [first.id] := by
      intro hfirst
      rw [Extension.escapes] at hfirst
      split at hfirst
      next hraised =>
        rw [shutDownAll, hraised]
      next => cases hfirst
    cases rest with
    | nil =>
      refine ⟨fun _ _ h => (nomatch h), fun _ => ?_⟩
      cases hfirst : first.escapes with
      | true => exact hescapes hfirst
      | false => exact hquiet hfirst
    | cons second rest =>
      rw [List.dropLast_cons_cons, List.forall_mem_cons, ← ih]
      cases hfirst : first.escapes with
      | true =>
        rw [hescapes hfirst]
        exact ⟨fun h => (nomatch (List.cons.inj h).2), fun h => (nomatch h.1)⟩
      | false =>
        rw [hquiet hfirst, List.map_cons, List.cons.injEq]
        exact ⟨fun h => ⟨rfl, h.2⟩, fun h => ⟨rfl, h.2⟩⟩

theorem errors_shutDownAll (extensions : List (Extension Object)) :
    (∃ errors, (shutDownAll extensions).2 = .ok errors) ↔
      ∀ extension ∈ extensions, extension.escapes = false := by
  induction extensions with
  | nil => exact ⟨nofun, fun _ => ⟨[], rfl⟩⟩
  | cons first rest ih =>
    rw [List.forall_mem_cons, ← ih, shutDownAll, Extension.escapes]
    cases first.shutdown with
    | none => exact ⟨fun h => ⟨rfl, h⟩, fun h => h.2⟩
    | some raised =>
      cases raised with
      | base typeName text => exact ⟨nofun, nofun⟩
      | exception text =>
        cases hrest : (shutDownAll rest).2 with
        | error escaped =>
          dsimp only
          rw [hrest]
          exact ⟨nofun, nofun⟩
        | ok errors =>
          dsimp only
          rw [hrest]
          exact ⟨fun _ => ⟨rfl, errors, rfl⟩, fun _ => ⟨_, rfl⟩⟩

end shutdown

/-- The world has grown by what the contexts have recorded, and by the infos of extensions whose hooks
ended by themselves. -/
structure Loading.Grown (before : World Object) (loaded : List (Extension Object)) (loading : Loading Object) :
    Prop where
  registrations : ∃ actions, Grows before loading.world actions ∧
    (loading.contexts.flatMap ExtensionContext.rollbackActions).Perm actions
  infos : ∃ infos done, loading.world.registry.extensionInfos = before.registry.extensionInfos ++ infos ∧
    loading.loaded = loaded ++ done ∧ infos.length ≤ done.length

section growing

variable {server : McpServer Object} {before : World Object} {loaded : List (Extension Object)}
  {loading : Loading Object}

theorem actions_set {contexts : List (ExtensionContext Object)} {index : Nat}
    {context : ExtensionContext Object} (h : contexts[index]? = some context) (action : RollbackAction Object) :
    ((contexts.set index (context.record action)).flatMap ExtensionContext.rollbackActions).Perm
      (contexts.flatMap ExtensionContext.rollbackActions ++ [action]) := by
  induction contexts generalizing index with
  | nil => cases h
  | cons first rest ih =>
    cases index with
    | zero =>
      cases h
      rw [List.set_cons_zero, List.flatMap_cons, List.flatMap_cons, ExtensionContext.record, List.append_assoc,
        List.append_assoc]
      exact (List.perm_append_comm).append_left _
    | succ index =>
      rw [List.set_cons_succ, List.flatMap_cons, List.flatMap_cons, List.append_assoc]
      exact (ih h).append_left _

theorem infos_effect {world world' : World Object} {recorded : Option (RollbackAction Object)}
    (h : Effect world world' recorded) : world'.registry.extensionInfos = world.registry.extensionInfos := by
  cases h with
  | cell _ _ _ _ _ _ _ _ _ _ infos => exact infos
  | _ => rfl

theorem grown_runHook (documented : server.Documented) (listed : before.Listed) (hook : Hook Object)
    (grown : loading.Grown before loaded) : (loading.runHook server hook).1.Grown before loaded := by
  induction hook generalizing loading with
  | done raised => exact grown
  | ask call rest ih =>
    rw [Loading.runHook]
    split
    next => exact ih _ grown
    next context hcontext =>
      obtain ⟨⟨actions, grows, perm⟩, infos⟩ := grown
      have heffect := effect_register documented (grows.listed listed) context call.registration
      split
      next world reply hregister =>
        rw [hregister] at heffect
        have hgrows := grows.effect heffect
        have hinfos := infos_effect heffect
        rw [Option.toList_none, List.append_nil] at hgrows
        refine ih reply ⟨⟨actions, hgrows, perm⟩, ?_⟩
        rw [← hinfos] at infos
        exact infos
      next world action reply hregister =>
        rw [hregister] at heffect
        have hinfos := infos_effect heffect
        refine ih reply ⟨⟨_, grows.effect heffect, ?_⟩, ?_⟩
        · exact (actions_set hcontext action).trans (perm.append_right [action])
        · rw [← hinfos] at infos
          exact infos

theorem started_runHook (hook : Hook Object) (loading : Loading Object) :
    (loading.runHook server hook).1.started = loading.started := by
  induction hook generalizing loading with
  | done raised => rfl
  | ask call rest ih =>
    rw [Loading.runHook]
    split
    next => exact ih _ loading
    next context hcontext =>
      split
      next world reply hregister => exact ih reply _
      next world action reply hregister => exact ih reply _

theorem grown_enter (grown : loading.Grown before loaded) (extension : Extension Object) :
    (loading.enter extension).Grown before loaded := by
  obtain ⟨⟨actions, grows, perm⟩, infos⟩ := grown
  refine ⟨⟨actions, grows, ?_⟩, infos⟩
  rw [Loading.enter, List.flatMap_append]
  exact (List.append_nil _).symm ▸ perm

theorem grown_addLoaded (grown : loading.Grown before loaded) (extension : Extension Object) :
    (loading.addLoaded extension).Grown before loaded := by
  obtain ⟨registrations, infos, done, hinfos, hdone, hle⟩ := grown
  refine ⟨registrations, infos, done ++ [extension], hinfos, ?_, ?_⟩
  · rw [Loading.addLoaded, hdone, List.append_assoc]
  · rw [List.length_append]
    omega

/-- An info is added for an extension that has just been put into the loaded ones. -/
theorem grown_addInfo (grown : loading.Grown before loaded) (extension : Extension Object) :
    ((loading.addLoaded extension).addInfo extension).Grown before loaded := by
  obtain ⟨⟨actions, grows, perm⟩, infos, done, hinfos, hdone, hle⟩ := grown
  refine ⟨⟨actions, ⟨grows.cells, grows.tables, grows.capabilityProviders, grows.dependencyProviders⟩, perm⟩,
    infos ++ [⟨extension.id, extension.version, extension.apiVersion, extension.dependencies⟩],
    done ++ [extension], ?_, ?_, ?_⟩
  · rw [← List.append_assoc, ← hinfos]
    rfl
  · rw [← List.append_assoc, ← hdone]
    rfl
  · rw [List.length_append, List.length_append]
    exact Nat.add_le_add_right hle 1

theorem grown_register (documented : server.Documented) (listed : before.Listed)
    (extensions : List (Extension Object)) (grown : loading.Grown before loaded) :
    (loading.register server extensions).1.Grown before loaded ∧
      ∃ started, started.Sublist extensions ∧
        (loading.register server extensions).1.started = loading.started ++ started := by
  induction extensions generalizing loading with
  | nil => exact ⟨grown, [], List.Sublist.refl _, (List.append_nil _).symm⟩
  | cons extension rest ih =>
    have hnone : ([] : List (Extension Object)).Sublist (extension :: rest) := List.nil_sublist _
    have hone : [extension].Sublist (extension :: rest) := (List.nil_sublist rest).cons_cons extension
    have hhook := grown_runHook documented listed extension.register (grown_enter grown extension)
    have hstarted : ((loading.enter extension).runHook server extension.register).1.started =
        (loading.enter extension).started := started_runHook extension.register (loading.enter extension)
    rw [Loading.register]
    split
    next => exact ⟨grown, [], hnone, (List.append_nil _).symm⟩
    next => exact ⟨grown, [], hnone, (List.append_nil _).symm⟩
    next =>
      split
      next loading' text hrun =>
        rw [hrun] at hhook hstarted
        exact ⟨hhook, [extension], hone, hstarted⟩
      next loading' typeName text hrun =>
        rw [hrun] at hhook hstarted
        exact ⟨hhook, [extension], hone, hstarted⟩
      next loading' hrun =>
        rw [hrun] at hhook hstarted
        split
        next raised hraised => exact ⟨grown_addLoaded hhook extension, [extension], hone, hstarted⟩
        next =>
          obtain ⟨hrest, started, hsublist, hstarted'⟩ := ih (grown_addInfo hhook extension)
          refine ⟨hrest, extension :: started, hsublist.cons_cons extension, hstarted'.trans ?_⟩
          have hboth : ((loading'.addLoaded extension).addInfo extension).started =
              loading.started ++ [extension] := hstarted
          rw [hboth, List.append_assoc]
          rfl

end growing

/-- What a failed `load` is to leave: everything as before, and one `shutdown` for each extension whose
`register` was entered, in reverse order. -/
structure RolledBack (before : World Object) (manager : ExtensionManager Object) (after : Loaded Object) :
    Prop where
  world : after.world = before
  loaded : after.loaded = manager.loaded
  shutDown : after.shutDown = after.started.reverse
  once : after.started.Nodup
  raised : after.raised ≠ none

/-- The loaded extensions and the providers can be given back, and the `shutdown` hooks let `load` go on:
none but the last one to be called raises more than an `Exception`. That one may in an event loop, and
else where its extension is the only one and has registered nothing. -/
def Recoverable [DecidableEq Object] (before : World Object) (manager : ExtensionManager Object)
    (runningLoop : Bool) (failed : Loading Object) : Prop :=
  (∀ extension ∈ failed.started.tail, extension.escapes = false) ∧
    if runningLoop = false ∧ failed.started.head?.any Extension.escapes = true then
      failed.loaded = manager.loaded ∧ ∀ context ∈ failed.contexts, context.rollbackActions = []
    else
      manager.loaded = [] ∧
        Removable before.registry.capabilityProviders failed.world.registry.capabilityProviders ∧
        Removable before.registry.dependencyProviders failed.world.registry.dependencyProviders

section load

variable {before : World Object} {manager : ExtensionManager Object} {setup : Setup Object}
  {failed : Loading Object} {text : PyStr}

theorem grown_attempt (documented : setup.server.Documented) (listed : before.Listed)
    {ordered : List (Extension Object)} {raised : Raised} (nodup : (ordered.map Extension.id).Nodup)
    (h : manager.attempt setup ordered before = (failed, some raised)) :
    failed.Grown before manager.loaded ∧ (failed.started.map Extension.id).Nodup := by
  have hnothing : Loading.Grown before manager.loaded ⟨before, manager.loaded, [], []⟩ :=
    ⟨⟨[], grows_nothing before, List.Perm.refl _⟩, [], [], (List.append_nil _).symm,
      (List.append_nil _).symm, Nat.le_refl 0⟩
  obtain ⟨hgrown, started, hsublist, hstarted⟩ := grown_register documented listed ordered hnothing
  have hids : ((Loading.register setup.server ordered ⟨before, manager.loaded, [], []⟩).1.started.map
      Extension.id).Nodup := by
    rw [hstarted, List.nil_append]
    exact nodup.sublist (hsublist.map _)
  rw [ExtensionManager.attempt] at h
  split at h
  next loading raised' hregister =>
    rw [hregister] at hgrown hids
    cases h
    exact ⟨hgrown, hids⟩
  next loading hregister =>
    rw [hregister] at hgrown hids
    split at h
    next => cases h
    next =>
      cases h
      exact ⟨hgrown, hids⟩
    next =>
      cases h
      exact ⟨hgrown, hids⟩

/-- A failed attempt that recorded nothing and loaded nothing has changed nothing. -/
theorem unchanged_iff (grown : failed.Grown before manager.loaded) :
    failed.world = before ∧ failed.loaded = manager.loaded ↔
      failed.loaded = manager.loaded ∧ ∀ context ∈ failed.contexts, context.rollbackActions = [] := by
  obtain ⟨⟨actions, grows, perm⟩, infos, done, hinfos, hdone, hle⟩ := grown
  have hflat : (∀ context ∈ failed.contexts, context.rollbackActions = []) ↔ actions = [] := by
    rw [← List.flatMap_eq_nil_iff]
    constructor
    · intro h
      rw [h] at perm
      exact perm.nil_eq.symm
    · intro h
      rw [h] at perm
      exact perm.eq_nil
  rw [hflat]
  constructor
  · rintro ⟨hworld, hloaded⟩
    refine ⟨hloaded, ?_⟩
    rw [hworld] at grows
    have hcells := grows.cells.eq_nil rfl
    have hcapabilities := List.self_eq_append_right.mp grows.capabilityProviders
    have hdependencies := List.self_eq_append_right.mp grows.dependencyProviders
    cases actions with
    | nil => rfl
    | cons action rest =>
      exfalso
      cases action with
      | removeCapability entry => cases hcapabilities
      | removeDependency entry => cases hdependencies
      | _ => cases hcells
  · rintro ⟨hloaded, rfl⟩
    refine ⟨?_, hloaded⟩
    have hdone : done = [] := by
      rw [hdone] at hloaded
      exact List.append_right_eq_self.mp hloaded
    have hnone : infos = [] := by
      rw [hdone] at hle
      exact List.length_eq_zero_iff.mp (Nat.le_zero.mp hle)
    rw [hnone, List.append_nil] at hinfos
    have hcapabilities := grows.capabilityProviders
    have hdependencies := grows.dependencyProviders
    rw [List.filterMap_nil, List.append_nil] at hcapabilities hdependencies
    have hregistry := registry_ext grows.cells.eq_before hcapabilities hdependencies hinfos
    have htables := tables_ext fun cell => grows.tables cell nofun
    cases hworld : failed.world with
    | mk registry tables =>
      rw [hworld] at hregistry htables
      cases hregistry
      cases htables
      rfl

theorem called_all_iff (started : List (Extension Object)) :
    (shutDownAll started.reverse).1 = (started.map Extension.id).reverse ↔
      ∀ extension ∈ started.tail, extension.escapes = false := by
  rw [← List.map_reverse, called_shutDownAll, List.dropLast_reverse]
  exact ⟨fun h extension hmem => h extension (List.mem_reverse.mpr hmem),
    fun h extension hmem => h extension (List.mem_reverse.mp hmem)⟩

theorem escapes_head {started : List (Extension Object)}
    (tail : ∀ extension ∈ started.tail, extension.escapes = false)
    (some : ¬∀ extension ∈ started, extension.escapes = false) :
    started.head?.any Extension.escapes = true := by
  cases started with
  | nil => exact absurd nofun some
  | cons first rest =>
    cases hfirst : first.escapes with
    | true => exact hfirst
    | false =>
      exact absurd (fun extension hmem => (List.mem_cons.mp hmem).elim (fun h => h ▸ hfirst) (tail extension)) some

variable [DecidableEq Object]

/-- The world after the rollback of the contexts and of the infos. -/
theorem rolledBack_world (documented : setup.server.Documented) (listed : before.Listed)
    (grown : failed.Grown before manager.loaded) {undone : World Object}
    (h : (World.undoAll setup.server failed.world
      (failed.contexts.reverse.flatMap fun context => context.rollbackActions.reverse)).1 = undone) :
    undone.setRegistry { undone.registry with
        extensionInfos := undone.registry.extensionInfos.take before.registry.extensionInfos.length } = before ↔
      Removable before.registry.capabilityProviders failed.world.registry.capabilityProviders ∧
        Removable before.registry.dependencyProviders failed.world.registry.dependencyProviders := by
  obtain ⟨⟨actions, grows, perm⟩, infos, done, hinfos, _, _⟩ := grown
  have hperm : (failed.contexts.reverse.flatMap fun context => context.rollbackActions.reverse).Perm actions := by
    have hreverse : (failed.contexts.flatMap ExtensionContext.rollbackActions).reverse =
        failed.contexts.reverse.flatMap (List.reverse ∘ ExtensionContext.rollbackActions) :=
      List.reverse_flatMap
    exact (List.Perm.of_eq hreverse.symm).trans ((List.reverse_perm _).trans perm)
  obtain ⟨cells, tables, capabilities, dependencies, hundone⟩ :=
    undoAll_of_grows documented grows listed hperm
  rw [h] at cells tables capabilities dependencies hundone
  rw [← capabilities, ← dependencies]
  have htake : undone.registry.extensionInfos.take before.registry.extensionInfos.length =
      before.registry.extensionInfos := by
    rw [hundone, hinfos, List.take_left]
  rw [htake]
  constructor
  · intro hworld
    have hregistry := congrArg World.registry hworld
    have hcapabilities := congrArg Registry.capabilityProviders hregistry
    have hdependencies := congrArg Registry.dependencyProviders hregistry
    exact ⟨hcapabilities, hdependencies⟩
  · rintro ⟨hcapabilities, hdependencies⟩
    have hregistry : ({ undone.registry with extensionInfos := before.registry.extensionInfos } :
        Registry Object) = before.registry := registry_ext cells hcapabilities hdependencies rfl
    rw [World.setRegistry, hregistry, tables]

theorem recover_iff (documented : setup.server.Documented) (listed : before.Listed)
    (grown : failed.Grown before manager.loaded) (nodup : (failed.started.map Extension.id).Nodup) :
    RolledBack before manager
        (ExtensionManager.recover setup before.registry.extensionInfos.length failed text) ↔
      Recoverable before manager setup.runningLoop failed := by
  have hcalled := called_all_iff failed.started
  have herrors := errors_shutDownAll failed.started.reverse
  rw [ExtensionManager.recover, Recoverable]
  dsimp only
  cases hall : shutDownAll failed.started.reverse with
  | mk called result =>
    rw [hall] at hcalled herrors
    dsimp only at hcalled herrors
    -- a first extension that escapes ends the calls only where no event loop runs
    by_cases hescaped : setup.runningLoop = false ∧ ∃ escaped, result = .error escaped
    · obtain ⟨hloop, escaped, rfl⟩ := hescaped
      have hraises : shutdownAfterFailedLoad setup.runningLoop failed.started = (called, .error escaped) := by
        rw [hloop]
        exact hall
      rw [hraises, hloop]
      dsimp only
      constructor
      · rintro ⟨hworld, hloaded, hshut, _, _⟩
        have htail := hcalled.mp hshut
        refine ⟨htail, ?_⟩
        have hhead := escapes_head htail fun hquiet => by
          obtain ⟨errors, h⟩ := herrors.mpr fun extension hmem =>
            hquiet extension (List.mem_reverse.mp hmem)
          cases h
        rw [if_pos ⟨rfl, hhead⟩]
        exact (unchanged_iff grown).mp ⟨hworld, hloaded⟩
      · rintro ⟨htail, hrest⟩
        have hhead := escapes_head htail fun hquiet => by
          obtain ⟨errors, h⟩ := herrors.mpr fun extension hmem =>
            hquiet extension (List.mem_reverse.mp hmem)
          cases h
        rw [if_pos ⟨rfl, hhead⟩] at hrest
        obtain ⟨hworld, hloaded⟩ := (unchanged_iff grown).mpr hrest
        exact ⟨hworld, hloaded, hcalled.mpr htail, nodup, nofun⟩
    · have hreturns : ∃ errors, shutdownAfterFailedLoad setup.runningLoop failed.started =
      (called, .ok errors) := by
        cases result with
        | ok errors =>
          refine ⟨errors, ?_⟩
          unfold shutdownAfterFailedLoad
          rw [hall]
          cases setup.runningLoop <;> rfl
        | error escaped =>
          cases hloop : setup.runningLoop with
          | true =>
            unfold shutdownAfterFailedLoad
            rw [hall]
            exact ⟨_, rfl⟩
          | false => exact absurd ⟨hloop, escaped, rfl⟩ hescaped
      obtain ⟨errors, hreturns⟩ := hreturns
      have hcondition : ¬(setup.runningLoop = false ∧ failed.started.head?.any Extension.escapes = true) := by
        rintro ⟨hloop, hhead⟩
        refine hescaped ⟨hloop, ?_⟩
        cases result with
        | error escaped => exact ⟨escaped, rfl⟩
        | ok quiet =>
          obtain ⟨first, hfirst, hescapes⟩ := (Option.any_eq_true _ _).mp hhead
          have hquiet := herrors.mp ⟨quiet, rfl⟩ first (List.mem_reverse.mpr (List.mem_of_head? hfirst))
          rw [hquiet] at hescapes
          cases hescapes
      rw [hreturns, if_neg hcondition]
      dsimp only
      have hworld := rolledBack_world documented listed grown rfl
      constructor
      · rintro ⟨hrestored, hloaded, hshut, _, _⟩
        exact ⟨hcalled.mp hshut, hloaded.symm, hworld.mp hrestored⟩
      · rintro ⟨htail, hloaded, hremovable⟩
        exact ⟨hworld.mpr hremovable, hloaded.symm, hcalled.mpr htail, nodup, nofun⟩

/-- A `load` in which a configuration, a `register` hook or the validation raises an `Exception` is
rolled back if and only if it is recoverable. -/
theorem load_rolledBack_iff (documented : setup.server.Documented) (listed : before.Listed)
    {ordered : List (Extension Object)} (enabled : manager.enabled ≠ [])
    (horder : manager.order setup = .ok ordered)
    (hfailed : manager.attempt setup ordered before = (failed, some (.exception text))) :
    RolledBack before manager (manager.load setup before) ↔
      Recoverable before manager setup.runningLoop failed := by
  obtain ⟨grown, nodup⟩ := grown_attempt documented listed (nodup_of_order horder) hfailed
  rw [ExtensionManager.load, if_neg enabled, horder]
  dsimp only
  rw [hfailed]
  exact recover_iff documented listed grown nodup

end load

/-- A server with dictionaries for the tools and the resources. -/
def dictServer : McpServer Nat where
  tool tables name function :=
    ({ tables with tools := Function.update tables.tools name (some function) }, none)
  removeTool tables name := ({ tables with tools := Function.update tables.tools name none }, none)
  resource tables uri function :=
    ({ tables with resources := Function.update tables.resources uri (some function) }, none)

theorem dictServer_documented : dictServer.Documented where
  tool _ _ function := ⟨some function, rfl⟩
  removeTool _ _ := rfl
  resource tables uri function := ⟨some function, tables.templates uri, by
    rw [Function.update_eq_self]
    rfl⟩

def emptyWorld : World Nat :=
  ⟨⟨fun _ => none, fun _ => none, [], fun _ => false, fun _ => false, [], [], fun _ => none⟩,
    ⟨fun _ => none, fun _ => none, fun _ => none⟩⟩

/-- An extension that registers a provider and a tool and then raises, with what its `shutdown` raises. -/
def failingExtension (shutdown : Option Raised) : Extension Nat where
  id := PyStr.ofString "failing"
  version := []
  apiVersion := 1
  dependencies := []
  configured := .valid
  register := .ask ⟨0, .capabilityProvider 7⟩ fun _ =>
    .ask ⟨0, .tool none ⟨.ok (PyStr.ofString "partial_tool"), 8⟩⟩ fun _ =>
      .done (some (.exception (PyStr.ofString "boom")))
  capability := none
  shutdown := shutdown

def failingManager (shutdown : Option Raised) : ExtensionManager Nat where
  enabled := [PyStr.ofString "failing"]
  entryPoints :=
    let extension := failingExtension shutdown
    [⟨extension.id, .ok ⟨some extension.id, [], some 1, [], some [], some [], some extension.register,
      some shutdown, .valid, none⟩⟩]
  loaded := []

def plainSetup : Setup Nat := ⟨dictServer, .ok (), fun _ => none, false, 1000⟩

theorem failing_order (shutdown : Option Raised) :
    (failingManager shutdown).order plainSetup = .ok [failingExtension shutdown] := rfl

theorem failing_attempt (shutdown : Option Raised) : (failingManager shutdown).attempt plainSetup
    [failingExtension shutdown] emptyWorld =
      (((failingManager shutdown).attempt plainSetup [failingExtension shutdown] emptyWorld).1,
        some (.exception (PyStr.ofString "initialization failed for extension failing: boom"))) := rfl

theorem emptyWorld_listed : emptyWorld.Listed := by
  intro cell _
  cases cell <;> rfl

/-- A hook that registers a provider and a tool and then raises, with a `shutdown` that returns. -/
theorem load_rolledBack_iff_failing : RolledBack emptyWorld (failingManager none)
    ((failingManager none).load plainSetup emptyWorld) := by
  refine (load_rolledBack_iff dictServer_documented emptyWorld_listed (List.cons_ne_nil _ _)
    (failing_order none) (failing_attempt none)).mpr ⟨nofun, ?_⟩
  have hquiet : ¬(plainSetup.runningLoop = false ∧ ((failingManager none).attempt plainSetup
      [failingExtension none] emptyWorld).1.started.head?.any Extension.escapes = true) := by
    rintro ⟨_, hescapes⟩
    cases hescapes
  rw [if_neg hquiet]
  exact ⟨rfl, removable_of_new nofun, removable_of_new nofun⟩

/-- The same hook with a `shutdown` that raises `CancelledError`: nothing is taken back. -/
theorem load_escaped : ¬∀ (manager : ExtensionManager Nat) (setup : Setup Nat) (before : World Nat)
    (ordered : List (Extension Nat)) (failed : Loading Nat) (text : PyStr), setup.server.Documented →
    before.Listed → manager.enabled ≠ [] → manager.order setup = .ok ordered →
    manager.attempt setup ordered before = (failed, some (.exception text)) →
    RolledBack before manager (manager.load setup before) := by
  intro claim
  have hrolled := claim (failingManager (some (.base (PyStr.ofString "CancelledError") []))) plainSetup emptyWorld
    _ _ _ dictServer_documented emptyWorld_listed (List.cons_ne_nil _ _) (failing_order _) (failing_attempt _)
  have hproviders := congrArg (fun world : World Nat => world.registry.capabilityProviders) hrolled.world
  have hleft : ((failingManager (some (.base (PyStr.ofString "CancelledError") []))).load plainSetup
      emptyWorld).world.registry.capabilityProviders = [(PyStr.ofString "failing", 7)] := rfl
  rw [hleft] at hproviders
  cases hproviders

end JLinkMcp.Extensions
