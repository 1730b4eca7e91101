import JLinkMcp.ServiceIdentity
import JLinkMcp.TaskProgram
import JLinkMcp.UndoLog

namespace JLinkMcp.Extensions

open Host Service TaskProgram UndoLog

/-- An entry of `extension_infos`. -/
structure ExtensionCapability where
  id : PyStr
  version : PyStr
  apiVersion : Int
  dependencies : List PyStr
  deriving DecidableEq

/-- `ExtensionRegistry` with its `TargetRegistry`. Detectors, providers, services and functions are
objects that it only keeps. -/
structure Registry (Object : Type) where
  profiles : PyStr → Option TargetProfile
  detectors : PyStr → Option Object
  extensionInfos : List ExtensionCapability
  toolNames : PyStr → Bool
  resourceUris : PyStr → Bool
  capabilityProviders : List (PyStr × Object)
  dependencyProviders : List (PyStr × Object)
  services : PyStr × PyStr → Option Object

/-- What the MCP server has under names and URIs. -/
structure McpTables (Object : Type) where
  tools : PyStr → Option Object
  resources : PyStr → Option Object
  templates : PyStr → Option Object

/-- The calls of the MCP server, which may raise an exception with a text. -/
structure McpServer (Object : Type) where
  tool : McpTables Object → PyStr → Object → McpTables Object × Option PyStr
  removeTool : McpTables Object → PyStr → McpTables Object × Option PyStr
  resource : McpTables Object → PyStr → Object → McpTables Object × Option PyStr

/-- The server keeps a tool under its name and a resource under its URI, and removes a tool by name. -/
structure McpServer.Documented {Object : Type} (server : McpServer Object) : Prop where
  tool : ∀ tables name function, ∃ kept, (server.tool tables name function).1 =
    { tables with tools := Function.update tables.tools name kept }
  removeTool : ∀ tables name, (server.removeTool tables name).1 =
    { tables with tools := Function.update tables.tools name none }
  resource : ∀ tables uri function, ∃ resource template, (server.resource tables uri function).1 =
    { tables with resources := Function.update tables.resources uri resource
                  templates := Function.update tables.templates uri template }

structure World (Object : Type) where
  registry : Registry Object
  tables : McpTables Object

/-- An inverse action of a context. -/
inductive RollbackAction (Object : Type) where
  | unregisterProfile (profileId : PyStr)
  | unregisterBoardDetector (detectorId : PyStr)
  | removeCapability (entry : PyStr × Object)
  | removeDependency (entry : PyStr × Object)
  | popService (key : PyStr × PyStr)
  | removeTool (name : PyStr)
  | removeResource (uri : PyStr)

/-- `ExtensionContext` -/
structure ExtensionContext (Object : Type) where
  extensionId : PyStr
  dependencies : List PyStr
  rollbackActions : List (RollbackAction Object) := []

/-- A function as `register_tool` takes it, with its `__name__` or the text of the exception that
reading it raises. -/
structure Candidate (Object : Type) where
  name : Except PyStr PyStr
  function : Object

/-- A call of a context. -/
inductive Registration (Object : Type) where
  | targetProfile (profile : TargetProfile)
  | boardDetector (detectorId : PyStr) (detector : Object)
  | capabilityProvider (provider : Object)
  | dependencyProvider (provider : Object)
  | publishService (name : PyStr) (service : Object)
  | requireExtensionService (extensionId name : PyStr)
  | tool (name : Option PyStr) (candidate : Candidate Object)
  | resource (uri : PyStr) (function : Object)

variable {Object : Type} (server : McpServer Object)

namespace World

variable (world : World Object)

def setRegistry (registry : Registry Object) : World Object := { world with registry }

/-- `_remove_tool` -/
def removeTool (name : PyStr) : World Object × Option PyStr :=
  let (tables, failure) := server.removeTool world.tables name
  (⟨{ world.registry with toolNames := Function.update world.registry.toolNames name false }, tables⟩,
    failure.map (PyStr.ofString "ToolError: " ++ ·))

/-- `_remove_resource` -/
def removeResource (uri : PyStr) : World Object where
  registry := { world.registry with resourceUris := Function.update world.registry.resourceUris uri false }
  tables := { world.tables with
    resources := Function.update world.tables.resources uri none
    templates := Function.update world.tables.templates uri none }

/-- One inverse action, with the text of what it raises. -/
def undo [DecidableEq Object] : RollbackAction Object → World Object × Option PyStr
  | .unregisterProfile profileId =>
    (world.setRegistry
      { world.registry with profiles := Function.update world.registry.profiles profileId none }, none)
  | .unregisterBoardDetector detectorId =>
    (world.setRegistry
      { world.registry with detectors := Function.update world.registry.detectors detectorId none }, none)
  | .removeCapability entry =>
    if entry ∈ world.registry.capabilityProviders then
      (world.setRegistry { world.registry with
        capabilityProviders := world.registry.capabilityProviders.erase entry }, none)
    else (world, some (PyStr.ofString "ValueError: list.remove(x): x not in list"))
  | .removeDependency entry =>
    if entry ∈ world.registry.dependencyProviders then
      (world.setRegistry { world.registry with
        dependencyProviders := world.registry.dependencyProviders.erase entry }, none)
    else (world, some (PyStr.ofString "ValueError: list.remove(x): x not in list"))
  | .popService key =>
    (world.setRegistry { world.registry with services := Function.update world.registry.services key none }, none)
  | .removeTool name => world.removeTool server name
  | .removeResource uri => (world.removeResource uri, none)

/-- `_rollback_registration`, for the actions in the order in which they are run. -/
def undoAll [DecidableEq Object] : World Object → List (RollbackAction Object) → World Object × List PyStr
  | world, [] => (world, [])
  | world, action :: rest =>
    let (undone, failure) := world.undo server action
    let (undone, failures) := undoAll undone rest
    (undone, failure.toList ++ failures)

end World

namespace ExtensionContext

variable (context : ExtensionContext Object)

def record (action : RollbackAction Object) : ExtensionContext Object :=
  { context with rollbackActions := context.rollbackActions ++ [action] }

/-- What a registration does: the world, the inverse action that it records and what it returns. -/
abbrev Registered (Object : Type) : Type :=
  World Object × Option (RollbackAction Object) × Except PyStr (Option Object)

def registerTargetProfile (world : World Object) (profile : TargetProfile) : Registered Object :=
  if (world.registry.profiles profile.id).isSome then
    (world, none, .error (PyStr.ofString "duplicate target profile: " ++ profile.id))
  else
    (world.setRegistry { world.registry with
        profiles := Function.update world.registry.profiles profile.id (some profile) },
      some (.unregisterProfile profile.id), .ok none)

def registerBoardDetector (world : World Object) (detectorId : PyStr) (detector : Object) : Registered Object :=
  let namespaced := context.extensionId ++ PyStr.ofString ":" ++ detectorId
  if (world.registry.detectors namespaced).isSome then
    (world, none, .error (PyStr.ofString "duplicate board detector: " ++ namespaced))
  else
    (world.setRegistry { world.registry with
        detectors := Function.update world.registry.detectors namespaced (some detector) },
      some (.unregisterBoardDetector namespaced), .ok none)

def registerCapabilityProvider (world : World Object) (provider : Object) : Registered Object :=
  let entry := (context.extensionId, provider)
  (world.setRegistry { world.registry with
      capabilityProviders := world.registry.capabilityProviders ++ [entry] },
    some (.removeCapability entry), .ok none)

def registerDependencyProvider (world : World Object) (provider : Object) : Registered Object :=
  let entry := (context.extensionId, provider)
  (world.setRegistry { world.registry with
      dependencyProviders := world.registry.dependencyProviders ++ [entry] },
    some (.removeDependency entry), .ok none)

def publishService (world : World Object) (name : PyStr) (service : Object) : Registered Object :=
  let key := (context.extensionId, name)
  if (world.registry.services key).isSome then
    (world, none, .error
      (PyStr.ofString "duplicate extension service: " ++ context.extensionId ++ PyStr.ofString ":" ++ name))
  else
    (world.setRegistry { world.registry with
        services := Function.update world.registry.services key (some service) },
      some (.popService key), .ok none)

def requireExtensionService (world : World Object) (extensionId name : PyStr) : Except PyStr (Option Object) :=
  if extensionId ≠ context.extensionId ∧ extensionId ∉ context.dependencies then
    .error (PyStr.ofString "extension service access requires a declared dependency: " ++
      context.extensionId ++ PyStr.ofString " -> " ++ extensionId)
  else
    match world.registry.services (extensionId, name) with
    | some service => .ok (some service)
    | none => .error
      (PyStr.ofString "required extension service is unavailable: " ++ extensionId ++ PyStr.ofString ":" ++ name)

/-- `name or candidate.__name__` -/
def toolName (name : Option PyStr) (candidate : Candidate Object) : Except PyStr PyStr :=
  match name with
  | some (c :: rest) => .ok (c :: rest)
  | _ => candidate.name

/-- `register_tool`; what `_remove_tool` raises takes the place of what the server raised. -/
def registerTool (world : World Object) (name : Option PyStr) (candidate : Candidate Object) :
    Registered Object :=
  match toolName name candidate with
  | .error failure => (world, none, .error failure)
  | .ok toolName =>
    if world.registry.toolNames toolName then
      (world, none, .error (PyStr.ofString "duplicate MCP tool: " ++ toolName))
    else
      let registry := { world.registry with
        toolNames := Function.update world.registry.toolNames toolName true }
      match server.tool world.tables toolName candidate.function with
      | (tables, none) => (⟨registry, tables⟩, some (.removeTool toolName), .ok (some candidate.function))
      | (tables, some failure) =>
        let (removed, second) := World.removeTool server ⟨registry, tables⟩ toolName
        (removed, none, .error (second.getD failure))

def registerResource (world : World Object) (uri : PyStr) (function : Object) : Registered Object :=
  if world.registry.resourceUris uri then
    (world, none, .error (PyStr.ofString "duplicate MCP resource: " ++ uri))
  else
    let registry := { world.registry with
      resourceUris := Function.update world.registry.resourceUris uri true }
    match server.resource world.tables uri function with
    | (tables, none) => (⟨registry, tables⟩, some (.removeResource uri), .ok (some function))
    | (tables, some failure) => (World.removeResource ⟨registry, tables⟩ uri, none, .error failure)

def register (world : World Object) : Registration Object → Registered Object
  | .targetProfile profile => registerTargetProfile world profile
  | .boardDetector detectorId detector => context.registerBoardDetector world detectorId detector
  | .capabilityProvider provider => context.registerCapabilityProvider world provider
  | .dependencyProvider provider => context.registerDependencyProvider world provider
  | .publishService name service => context.publishService world name service
  | .requireExtensionService extensionId name =>
    (world, none, context.requireExtensionService world extensionId name)
  | .tool name candidate => registerTool server world name candidate
  | .resource uri function => registerResource server world uri function

end ExtensionContext

/-- A place in the dictionaries and the sets of the registry. -/
inductive Cell where
  | profile (profileId : PyStr)
  | detector (detectorId : PyStr)
  | service (key : PyStr × PyStr)
  | toolName (name : PyStr)
  | resourceUri (uri : PyStr)
  deriving DecidableEq

inductive Content (Object : Type) where
  | profile (profile : TargetProfile)
  | object (object : Object)
  | listed

/-- The dictionaries and the sets of the registry as one table. -/
def Registry.cells (registry : Registry Object) : Cell → Option (Content Object)
  | .profile profileId => (registry.profiles profileId).map .profile
  | .detector detectorId => (registry.detectors detectorId).map .object
  | .service key => (registry.services key).map .object
  | .toolName name => if registry.toolNames name then some .listed else none
  | .resourceUri uri => if registry.resourceUris uri then some .listed else none

/-- What the server has for a tool name or a resource URI. -/
def McpTables.under (tables : McpTables Object) : Cell → Option Object × Option Object
  | .toolName name => (tables.tools name, none)
  | .resourceUri uri => (tables.resources uri, tables.templates uri)
  | _ => (none, none)

/-- The names and the URIs of the registry list everything that the server has. -/
def World.Listed (world : World Object) : Prop :=
  ∀ cell, world.registry.cells cell = none → world.tables.under cell = (none, none)

namespace RollbackAction

def cell? : RollbackAction Object → Option Cell
  | .unregisterProfile profileId => some (.profile profileId)
  | .unregisterBoardDetector detectorId => some (.detector detectorId)
  | .popService key => some (.service key)
  | .removeTool name => some (.toolName name)
  | .removeResource uri => some (.resourceUri uri)
  | _ => none

def capability? : RollbackAction Object → Option (PyStr × Object)
  | .removeCapability entry => some entry
  | _ => none

def dependency? : RollbackAction Object → Option (PyStr × Object)
  | .removeDependency entry => some entry
  | _ => none

end RollbackAction

/-- The world has grown by the registrations that these inverse actions are for. -/
structure Grows (before now : World Object) (actions : List (RollbackAction Object)) : Prop where
  cells : Filled none before.registry.cells now.registry.cells (actions.filterMap RollbackAction.cell?)
  tables : ∀ cell, cell ∉ actions.filterMap RollbackAction.cell? →
    now.tables.under cell = before.tables.under cell
  capabilityProviders : now.registry.capabilityProviders =
    before.registry.capabilityProviders ++ actions.filterMap RollbackAction.capability?
  dependencyProviders : now.registry.dependencyProviders =
    before.registry.dependencyProviders ++ actions.filterMap RollbackAction.dependency?

section views

variable {world world' : World Object}

theorem tables_ext {tables tables' : McpTables Object} (h : ∀ cell, tables.under cell = tables'.under cell) :
    tables = tables' := by
  obtain ⟨tools, resources, templates⟩ := tables
  obtain ⟨tools', resources', templates'⟩ := tables'
  have htools : tools = tools' := funext fun name => congrArg Prod.fst (h (.toolName name))
  have hresources : resources = resources' := funext fun uri => congrArg Prod.fst (h (.resourceUri uri))
  have htemplates : templates = templates' := funext fun uri => congrArg Prod.snd (h (.resourceUri uri))
  rw [htools, hresources, htemplates]

theorem bool_of_listed {a b : Bool}
    (h : (if a then some (.listed : Content Object) else none) = if b then some .listed else none) :
    a = b := by
  cases a <;> cases b <;> trivial

theorem registry_ext {registry registry' : Registry Object} (cells : registry.cells = registry'.cells)
    (capabilities : registry.capabilityProviders = registry'.capabilityProviders)
    (dependencies : registry.dependencyProviders = registry'.dependencyProviders)
    (infos : registry.extensionInfos = registry'.extensionInfos) : registry = registry' := by
  obtain ⟨profiles, detectors, extensionInfos, toolNames, resourceUris, _, _, services⟩ := registry
  obtain ⟨profiles', detectors', extensionInfos', toolNames', resourceUris', _, _, services'⟩ := registry'
  cases capabilities
  cases dependencies
  cases infos
  have object : Function.Injective (@Content.object Object) := fun _ _ h => Content.object.inj h
  have profile : Function.Injective (@Content.profile Object) := fun _ _ h => Content.profile.inj h
  have hprofiles : profiles = profiles' := funext fun profileId =>
    Option.map_injective profile (congrFun cells (.profile profileId))
  have hdetectors : detectors = detectors' := funext fun detectorId =>
    Option.map_injective object (congrFun cells (.detector detectorId))
  have hservices : services = services' := funext fun key =>
    Option.map_injective object (congrFun cells (.service key))
  have htools : toolNames = toolNames' := funext fun name => bool_of_listed (congrFun cells (.toolName name))
  have huris : resourceUris = resourceUris' := funext fun uri =>
    bool_of_listed (congrFun cells (.resourceUri uri))
  rw [hprofiles, hdetectors, hservices, htools, huris]

theorem cells_profile (registry : Registry Object) (profileId : PyStr) (value : Option TargetProfile) :
    ({ registry with profiles := Function.update registry.profiles profileId value } : Registry Object).cells =
      Function.update registry.cells (.profile profileId) (value.map .profile) := by
  funext cell
  cases cell with
  | profile other => by_cases h : other = profileId <;> simp [Registry.cells, h]
  | _ => simp [Registry.cells]

theorem cells_detector (registry : Registry Object) (detectorId : PyStr) (value : Option Object) :
    ({ registry with detectors := Function.update registry.detectors detectorId value } : Registry Object).cells =
      Function.update registry.cells (.detector detectorId) (value.map .object) := by
  funext cell
  cases cell with
  | detector other => by_cases h : other = detectorId <;> simp [Registry.cells, h]
  | _ => simp [Registry.cells]

theorem cells_service (registry : Registry Object) (key : PyStr × PyStr) (value : Option Object) :
    ({ registry with services := Function.update registry.services key value } : Registry Object).cells =
      Function.update registry.cells (.service key) (value.map .object) := by
  funext cell
  cases cell with
  | service other => by_cases h : other = key <;> simp [Registry.cells, h]
  | _ => simp [Registry.cells]

theorem cells_toolName (registry : Registry Object) (name : PyStr) (value : Bool) :
    ({ registry with toolNames := Function.update registry.toolNames name value } : Registry Object).cells =
      Function.update registry.cells (.toolName name) (if value then some .listed else none) := by
  funext cell
  cases cell with
  | toolName other => by_cases h : other = name <;> simp [Registry.cells, h]
  | _ => simp [Registry.cells]

theorem cells_resourceUri (registry : Registry Object) (uri : PyStr) (value : Bool) :
    ({ registry with resourceUris := Function.update registry.resourceUris uri value } : Registry Object).cells =
      Function.update registry.cells (.resourceUri uri) (if value then some .listed else none) := by
  funext cell
  cases cell with
  | resourceUri other => by_cases h : other = uri <;> simp [Registry.cells, h]
  | _ => simp [Registry.cells]

/-- Only what is under one name or URI is changed. -/
def Untouched (tables tables' : McpTables Object) (cell : Cell) : Prop :=
  ∀ other, other ≠ cell → tables'.under other = tables.under other

theorem untouched_tool (tables : McpTables Object) (name : PyStr) (value : Option Object) :
    Untouched tables { tables with tools := Function.update tables.tools name value } (.toolName name) := by
  intro other hother
  cases other with
  | toolName otherName =>
    have hname : otherName ≠ name := fun h => hother (congrArg Cell.toolName h)
    exact congrArg (·, none) (Function.update_of_ne hname _ _)
  | _ => rfl

theorem untouched_resource (tables : McpTables Object) (uri : PyStr) (resource template : Option Object) :
    Untouched tables { tables with resources := Function.update tables.resources uri resource
                                   templates := Function.update tables.templates uri template }
      (.resourceUri uri) := by
  intro other hother
  cases other with
  | resourceUri otherUri =>
    have huri : otherUri ≠ uri := fun h => hother (congrArg Cell.resourceUri h)
    exact congrArg₂ Prod.mk (Function.update_of_ne huri _ _) (Function.update_of_ne huri _ _)
  | _ => rfl

end views

/-- What a registration can do: nothing, fill a cell that was empty, or add a provider. -/
inductive Effect (world : World Object) : World Object → Option (RollbackAction Object) → Prop where
  | nothing : Effect world world none
  | cell (world' : World Object) (action : RollbackAction Object) (cell : Cell) (content : Content Object)
      (undone : action.cell? = some cell) (free : world.registry.cells cell = none)
      (cells : world'.registry.cells = Function.update world.registry.cells cell (some content))
      (tables : Untouched world.tables world'.tables cell)
      (capabilities : world'.registry.capabilityProviders = world.registry.capabilityProviders)
      (dependencies : world'.registry.dependencyProviders = world.registry.dependencyProviders)
      (infos : world'.registry.extensionInfos = world.registry.extensionInfos) :
      Effect world world' (some action)
  | capability (entry : PyStr × Object) : Effect world
      (world.setRegistry { world.registry with
        capabilityProviders := world.registry.capabilityProviders ++ [entry] }) (some (.removeCapability entry))
  | dependency (entry : PyStr × Object) : Effect world
      (world.setRegistry { world.registry with
        dependencyProviders := world.registry.dependencyProviders ++ [entry] }) (some (.removeDependency entry))

section registering

variable {server : McpServer Object} {world : World Object}

theorem effect_tool (documented : server.Documented) (listed : world.Listed) (name : Option PyStr)
    (candidate : Candidate Object) :
    Effect world (ExtensionContext.registerTool server world name candidate).1
      (ExtensionContext.registerTool server world name candidate).2.1 := by
  rw [ExtensionContext.registerTool]
  split
  next => exact .nothing
  next toolName hname =>
    split
    next => exact .nothing
    next hfree =>
      have hfree : world.registry.toolNames toolName = false := Bool.not_eq_true _ ▸ hfree
      have hempty : world.registry.cells (.toolName toolName) = none := by
        rw [Registry.cells, hfree]
        rfl
      obtain ⟨kept, htool⟩ := documented.tool world.tables toolName candidate.function
      split
      next tables hserver =>
        rw [hserver] at htool
        cases htool
        refine .cell _ _ (.toolName toolName) .listed rfl hempty ?_ ?_ rfl rfl rfl
        · exact cells_toolName world.registry toolName true
        · exact untouched_tool world.tables toolName kept
      next tables failure hserver =>
        rw [hserver] at htool
        cases htool
        -- what the server may have kept under the name is removed again, and there was nothing before
        have htable : world.tables.tools toolName = none := congrArg Prod.fst (listed _ hempty)
        have hremoved := documented.removeTool
          { world.tables with tools := Function.update world.tables.tools toolName kept } toolName
        have hworld : (World.removeTool server ⟨{ world.registry with
            toolNames := Function.update world.registry.toolNames toolName true },
            { world.tables with tools := Function.update world.tables.tools toolName kept }⟩ toolName).1 =
            world := by
          rw [World.removeTool]
          dsimp only
          rw [hremoved]
          dsimp only
          rw [Function.update_idem, Function.update_idem, ← hfree, Function.update_eq_self, ← htable,
            Function.update_eq_self]
        dsimp only
        rw [hworld]
        exact .nothing

theorem effect_resource (documented : server.Documented) (listed : world.Listed) (uri : PyStr)
    (function : Object) : Effect world (ExtensionContext.registerResource server world uri function).1
      (ExtensionContext.registerResource server world uri function).2.1 := by
  rw [ExtensionContext.registerResource]
  split
  next => exact .nothing
  next hfree =>
    have hfree : world.registry.resourceUris uri = false := Bool.not_eq_true _ ▸ hfree
    have hempty : world.registry.cells (.resourceUri uri) = none := by
      rw [Registry.cells, hfree]
      rfl
    obtain ⟨resource, template, hresource⟩ := documented.resource world.tables uri function
    split
    next tables hserver =>
      rw [hserver] at hresource
      cases hresource
      refine .cell _ _ (.resourceUri uri) .listed rfl hempty ?_ ?_ rfl rfl rfl
      · exact cells_resourceUri world.registry uri true
      · exact untouched_resource world.tables uri resource template
    next tables failure hserver =>
      rw [hserver] at hresource
      cases hresource
      have htable : world.tables.resources uri = none := congrArg Prod.fst (listed _ hempty)
      have htemplate : world.tables.templates uri = none := congrArg Prod.snd (listed _ hempty)
      have hworld : World.removeResource ⟨{ world.registry with
          resourceUris := Function.update world.registry.resourceUris uri true },
          { world.tables with resources := Function.update world.tables.resources uri resource
                              templates := Function.update world.tables.templates uri template }⟩ uri =
          world := by
        rw [World.removeResource]
        dsimp only
        rw [Function.update_idem, Function.update_idem, Function.update_idem, ← hfree,
          Function.update_eq_self]
        have hresources := Function.update_eq_self uri world.tables.resources
        have htemplates := Function.update_eq_self uri world.tables.templates
        rw [htable] at hresources
        rw [htemplate] at htemplates
        rw [hresources, htemplates]
      dsimp only
      rw [hworld]
      exact .nothing

/-- Registrations that only put an object into a dictionary of the registry. -/
theorem effect_object {registry : Registry Object} {cell : Cell} {content : Content Object}
    {action : RollbackAction Object} (undone : action.cell? = some cell)
    (free : world.registry.cells cell = none)
    (cells : registry.cells = Function.update world.registry.cells cell (some content))
    (capabilities : registry.capabilityProviders = world.registry.capabilityProviders)
    (dependencies : registry.dependencyProviders = world.registry.dependencyProviders)
    (infos : registry.extensionInfos = world.registry.extensionInfos) :
    Effect world (world.setRegistry registry) (some action) :=
  .cell _ action cell content undone free cells (fun _ _ => rfl) capabilities dependencies infos

theorem map_eq_none_of_not_isSome {α β : Type} {value : Option α} {f : α → β} (h : ¬value.isSome = true) :
    value.map f = none := by
  cases value with
  | none => rfl
  | some a => exact absurd rfl h

theorem effect_register (documented : server.Documented) (listed : world.Listed)
    (context : ExtensionContext Object) (registration : Registration Object) :
    Effect world (context.register server world registration).1
      (context.register server world registration).2.1 := by
  cases registration with
  | targetProfile profile =>
    rw [ExtensionContext.register, ExtensionContext.registerTargetProfile]
    split
    next => exact .nothing
    next hfree =>
      exact effect_object rfl (map_eq_none_of_not_isSome hfree)
        (cells_profile world.registry profile.id (some profile)) rfl rfl rfl
  | boardDetector detectorId detector =>
    rw [ExtensionContext.register, ExtensionContext.registerBoardDetector]
    dsimp only
    split
    next => exact .nothing
    next hfree =>
      exact effect_object rfl (map_eq_none_of_not_isSome hfree)
        (cells_detector world.registry _ (some detector)) rfl rfl rfl
  | capabilityProvider provider => exact .capability _
  | dependencyProvider provider => exact .dependency _
  | publishService name service =>
    rw [ExtensionContext.register, ExtensionContext.publishService]
    dsimp only
    split
    next => exact .nothing
    next hfree =>
      exact effect_object rfl (map_eq_none_of_not_isSome hfree)
        (cells_service world.registry _ (some service)) rfl rfl rfl
  | requireExtensionService extensionId name => exact .nothing
  | tool name candidate => exact effect_tool documented listed name candidate
  | resource uri function => exact effect_resource documented listed uri function

end registering

section growth

variable {server : McpServer Object} {before world world' : World Object}
  {actions : List (RollbackAction Object)} {recorded : Option (RollbackAction Object)}

theorem grows_nothing (world : World Object) : Grows world world [] :=
  ⟨filled_nothing _, fun _ _ => rfl, (List.append_nil _).symm, (List.append_nil _).symm⟩

theorem cell_kinds {action : RollbackAction Object} {cell : Cell} (h : action.cell? = some cell) :
    action.capability? = none ∧ action.dependency? = none := by
  cases action with
  | removeCapability entry => cases h
  | removeDependency entry => cases h
  | _ => exact ⟨rfl, rfl⟩

/-- Under a name that is not listed the server still has nothing. -/
theorem Grows.listed (grows : Grows before world actions) (listed : before.Listed) : world.Listed := by
  intro cell hcell
  have hnew : cell ∉ actions.filterMap RollbackAction.cell? := fun hmem => grows.cells.is_filled cell hmem hcell
  rw [grows.tables cell hnew]
  rw [grows.cells.others cell hnew] at hcell
  exact listed cell hcell

theorem Grows.effect (grows : Grows before world actions) (h : Effect world world' recorded) :
    Grows before world' (actions ++ recorded.toList) := by
  cases h with
  | nothing =>
    rw [Option.toList_none, List.append_nil]
    exact grows
  | cell _ action cell content undone free cells tables capabilities dependencies infos =>
    obtain ⟨hcapability, hdependency⟩ := cell_kinds undone
    have hkeys : (actions ++ [action]).filterMap RollbackAction.cell? =
        actions.filterMap RollbackAction.cell? ++ [cell] := by
      rw [List.filterMap_append, List.filterMap_cons_some undone]
      rfl
    constructor
    · rw [Option.toList_some, hkeys, cells]
      exact grows.cells.fill free nofun
    · rw [Option.toList_some, hkeys]
      intro other hother
      have hcell : other ≠ cell := fun hcell =>
        hother (List.mem_append_right _ (List.mem_singleton.mpr hcell))
      rw [tables other hcell]
      exact grows.tables other fun hmem => hother (List.mem_append_left _ hmem)
    · rw [Option.toList_some, List.filterMap_append, List.filterMap_cons_none hcapability, capabilities,
        List.filterMap_nil, List.append_nil]
      exact grows.capabilityProviders
    · rw [Option.toList_some, List.filterMap_append, List.filterMap_cons_none hdependency, dependencies,
        List.filterMap_nil, List.append_nil]
      exact grows.dependencyProviders
  | capability entry =>
    have hkeys : (actions ++ [RollbackAction.removeCapability entry]).filterMap RollbackAction.cell? =
        actions.filterMap RollbackAction.cell? := by
      rw [List.filterMap_append]
      exact List.append_nil _
    constructor
    · rw [Option.toList_some, hkeys]
      exact grows.cells
    · rw [Option.toList_some, hkeys]
      exact grows.tables
    · rw [Option.toList_some, List.filterMap_append, World.setRegistry]
      dsimp only
      rw [grows.capabilityProviders, List.append_assoc]
      rfl
    · rw [Option.toList_some, List.filterMap_append, World.setRegistry]
      dsimp only
      rw [grows.dependencyProviders]
      exact congrArg _ (List.append_nil _).symm
  | dependency entry =>
    have hkeys : (actions ++ [RollbackAction.removeDependency entry]).filterMap RollbackAction.cell? =
        actions.filterMap RollbackAction.cell? := by
      rw [List.filterMap_append]
      exact List.append_nil _
    constructor
    · rw [Option.toList_some, hkeys]
      exact grows.cells
    · rw [Option.toList_some, hkeys]
      exact grows.tables
    · rw [Option.toList_some, List.filterMap_append, World.setRegistry]
      dsimp only
      rw [grows.capabilityProviders]
      exact congrArg _ (List.append_nil _).symm
    · rw [Option.toList_some, List.filterMap_append, World.setRegistry]
      dsimp only
      rw [grows.dependencyProviders, List.append_assoc]
      rfl

end growth

section undoing

variable [DecidableEq Object] {server : McpServer Object} {before world : World Object}
  {actions undone : List (RollbackAction Object)}

/-- What an inverse action does to each view of the world. -/
theorem undo_spec (documented : server.Documented) (world : World Object) (action : RollbackAction Object) :
    (world.undo server action).1.registry.cells = clearAll none world.registry.cells action.cell?.toList ∧
      (∀ cell, (world.undo server action).1.tables.under cell =
        if cell ∈ action.cell?.toList then (none, none) else world.tables.under cell) ∧
      (world.undo server action).1.registry.capabilityProviders =
        action.capability?.toList.foldl List.erase world.registry.capabilityProviders ∧
      (world.undo server action).1.registry.dependencyProviders =
        action.dependency?.toList.foldl List.erase world.registry.dependencyProviders ∧
      (world.undo server action).1.registry.extensionInfos = world.registry.extensionInfos := by
  cases action with
  | unregisterProfile profileId =>
    refine ⟨cells_profile world.registry profileId none, fun cell => ?_, rfl, rfl, rfl⟩
    cases cell <;> simp [World.undo, World.setRegistry, RollbackAction.cell?, McpTables.under]
  | unregisterBoardDetector detectorId =>
    refine ⟨cells_detector world.registry detectorId none, fun cell => ?_, rfl, rfl, rfl⟩
    cases cell <;> simp [World.undo, World.setRegistry, RollbackAction.cell?, McpTables.under]
  | popService key =>
    refine ⟨cells_service world.registry key none, fun cell => ?_, rfl, rfl, rfl⟩
    cases cell <;> simp [World.undo, World.setRegistry, RollbackAction.cell?, McpTables.under]
  | removeCapability entry =>
    rw [World.undo]
    split
    next => exact ⟨rfl, fun _ => rfl, rfl, rfl, rfl⟩
    next hnot => exact ⟨rfl, fun _ => rfl, (List.erase_of_not_mem hnot).symm, rfl, rfl⟩
  | removeDependency entry =>
    rw [World.undo]
    split
    next => exact ⟨rfl, fun _ => rfl, rfl, rfl, rfl⟩
    next hnot => exact ⟨rfl, fun _ => rfl, rfl, (List.erase_of_not_mem hnot).symm, rfl⟩
  | removeTool name =>
    refine ⟨cells_toolName world.registry name false, fun cell => ?_, rfl, rfl, rfl⟩
    have hremoved := documented.removeTool world.tables name
    rw [World.undo, World.removeTool]
    dsimp only
    rw [hremoved]
    by_cases hcell : cell = .toolName name
    · have hmem : cell ∈ (.removeTool name : RollbackAction Object).cell?.toList :=
        List.mem_singleton.mpr hcell
      rw [if_pos hmem, hcell]
      exact congrArg (·, none) (Function.update_self _ _ _)
    · have hmem : cell ∉ (.removeTool name : RollbackAction Object).cell?.toList := fun hmem =>
        hcell (List.mem_singleton.mp hmem)
      rw [if_neg hmem]
      exact untouched_tool world.tables name none cell hcell
  | removeResource uri =>
    refine ⟨cells_resourceUri world.registry uri false, fun cell => ?_, rfl, rfl, rfl⟩
    rw [World.undo, World.removeResource]
    by_cases hcell : cell = .resourceUri uri
    · have hmem : cell ∈ (.removeResource uri : RollbackAction Object).cell?.toList :=
        List.mem_singleton.mpr hcell
      rw [if_pos hmem, hcell]
      exact congrArg₂ Prod.mk (Function.update_self _ _ _) (Function.update_self _ _ _)
    · have hmem : cell ∉ (.removeResource uri : RollbackAction Object).cell?.toList := fun hmem =>
        hcell (List.mem_singleton.mp hmem)
      rw [if_neg hmem]
      exact untouched_resource world.tables uri none none cell hcell

theorem undoAll_spec (documented : server.Documented) (world : World Object)
    (undone : List (RollbackAction Object)) :
    (World.undoAll server world undone).1.registry.cells =
        clearAll none world.registry.cells (undone.filterMap RollbackAction.cell?) ∧
      (∀ cell, (World.undoAll server world undone).1.tables.under cell =
        if cell ∈ undone.filterMap RollbackAction.cell? then (none, none) else world.tables.under cell) ∧
      (World.undoAll server world undone).1.registry.capabilityProviders =
        (undone.filterMap RollbackAction.capability?).foldl List.erase world.registry.capabilityProviders ∧
      (World.undoAll server world undone).1.registry.dependencyProviders =
        (undone.filterMap RollbackAction.dependency?).foldl List.erase world.registry.dependencyProviders ∧
      (World.undoAll server world undone).1.registry.extensionInfos = world.registry.extensionInfos := by
  induction undone generalizing world with
  | nil => exact ⟨rfl, fun _ => rfl, rfl, rfl, rfl⟩
  | cons action rest ih =>
    obtain ⟨cells, tables, capabilities, dependencies, infos⟩ := undo_spec documented world action
    obtain ⟨restCells, restTables, restCapabilities, restDependencies, restInfos⟩ :=
      ih (world.undo server action).1
    have hstep : (World.undoAll server world (action :: rest)).1 =
        (World.undoAll server (world.undo server action).1 rest).1 := rfl
    have hkeys : ∀ {β : Type} (f : RollbackAction Object → Option β), (action :: rest).filterMap f =
        (f action).toList ++ rest.filterMap f := fun f => by
      rw [List.filterMap_cons]
      cases f action <;> rfl
    rw [hstep, hkeys, hkeys, hkeys, restCells, restCapabilities, restDependencies, restInfos, cells,
      capabilities, dependencies, infos]
    refine ⟨List.foldl_append.symm, fun cell => ?_, List.foldl_append.symm, List.foldl_append.symm, rfl⟩
    rw [restTables, tables]
    by_cases hrest : cell ∈ rest.filterMap RollbackAction.cell?
    · rw [if_pos hrest, if_pos (List.mem_append_right _ hrest)]
    · rw [if_neg hrest]
      exact if_congr ⟨fun h => List.mem_append_left _ h, fun h => (List.mem_append.mp h).resolve_right hrest⟩
        rfl rfl

/-- Running the recorded actions in whatever order gives everything back but the providers, and these
too where the entries that were added can be told from the older ones. -/
theorem undoAll_of_grows (documented : server.Documented) (grows : Grows before world actions)
    (listed : before.Listed) (perm : undone.Perm actions) :
    (World.undoAll server world undone).1.registry.cells = before.registry.cells ∧
      (World.undoAll server world undone).1.tables = before.tables ∧
      ((World.undoAll server world undone).1.registry.capabilityProviders =
          before.registry.capabilityProviders ↔
        Removable before.registry.capabilityProviders world.registry.capabilityProviders) ∧
      ((World.undoAll server world undone).1.registry.dependencyProviders =
          before.registry.dependencyProviders ↔
        Removable before.registry.dependencyProviders world.registry.dependencyProviders) ∧
      (World.undoAll server world undone).1.registry.extensionInfos = world.registry.extensionInfos := by
  obtain ⟨cells, tables, capabilities, dependencies, infos⟩ := undoAll_spec documented world undone
  have hcells := perm.filterMap RollbackAction.cell?
  refine ⟨?_, tables_ext fun cell => ?_, ?_, ?_, infos⟩
  · rw [cells]
    exact grows.cells.clearAll hcells
  · rw [tables]
    by_cases hcell : cell ∈ undone.filterMap RollbackAction.cell?
    · rw [if_pos hcell]
      exact (listed cell (grows.cells.was_empty cell (hcells.subset hcell))).symm
    · rw [if_neg hcell]
      exact grows.tables cell fun hmem => hcell (hcells.symm.subset hmem)
  · rw [capabilities, grows.capabilityProviders]
    exact removable_iff (perm.filterMap RollbackAction.capability?)
  · rw [dependencies, grows.dependencyProviders]
    exact removable_iff (perm.filterMap RollbackAction.dependency?)

end undoing

end JLinkMcp.Extensions
