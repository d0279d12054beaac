import MatterJs.Protocol.MessageCodec
import MatterJs.Protocol.ServerSubscription
import MatterJs.Types.ElementIds

/-! The attributes and commands of a node by their paths, which of them a path of a request
stands for, and what a request is handled with besides. -/

namespace MatterJs.Protocol

open General MatterJs.Types

/-- The bits of `WildcardPathFlagsBitmap` that are looked at. -/
structure WildcardPathFlags where
  skipRootNode : Bool
  skipGlobalAttributes : Bool
  skipAttributeList : Bool
  skipCommandLists : Bool
  skipCustomElements : Bool
  skipFixedAttributes : Bool
  skipChangesOmittedAttributes : Bool
  skipDiagnosticsClusters : Bool
  deriving DecidableEq

/-- The path of a request. What it leaves open matches everything. -/
structure RequestPath where
  endpointId : Option Nat
  clusterId : Option Nat
  elementId : Option Nat
  deriving DecidableEq

namespace RequestPath

def concrete (path : RequestPath) : Option ElementPathId := do
  let endpointId ← path.endpointId
  let clusterId ← path.clusterId
  let elementId ← path.elementId
  return { endpointId, clusterId, elementId }

def isConcrete (path : RequestPath) : Bool := path.concrete.isSome

def covers (path : RequestPath) (element : ElementPathId) : Bool :=
  path.endpointId.all (· = element.endpointId) && path.clusterId.all (· = element.clusterId) &&
    path.elementId.all (· = element.elementId)

end RequestPath

/-- What the standard data model, which is not modelled here, says of its elements. -/
structure MatterModel where
  isFixed : ElementPathId → Bool
  changesOmitted : ElementPathId → Bool
  isDiagnosticsCluster : (clusterId : Nat) → Bool
  isFabricScopedCommand : (clusterId commandId : Nat) → Bool

/-- `genericElementPathToId` writes no two of the paths alike, so that they are the keys. -/
structure InteractionEndpointStructure (Attribute Command : Type) where
  /-- The endpoints with the ids of their clusters. -/
  endpoints : OrderedMap Nat (List Nat)
  attributes : OrderedMap ElementPathId Attribute
  attributePaths : List ElementPathId
  commands : OrderedMap ElementPathId Command
  commandPaths : List ElementPathId

namespace InteractionEndpointStructure

variable {Attribute Command : Type} (model : MatterModel)
  (endpointStructure : InteractionEndpointStructure Attribute Command)

def hasEndpoint (endpointId : Nat) : Bool := endpointStructure.endpoints.has endpointId

def hasClusterServer (endpointId clusterId : Nat) : Bool :=
  (endpointStructure.endpoints.get endpointId).any (clusterId ∈ ·)

def GLOBAL_COMMANDLIST_IDS : List Nat := [0xfff8, 0xfff9]
def ATTRIBUTE_LIST_ID : Nat := 0xfffb
def GLOBAL_ATTRIBUTES_LIST : List Nat := GLOBAL_COMMANDLIST_IDS ++ [ATTRIBUTE_LIST_ID]

def attributePathMatchesWildcardPathFlags (path : ElementPathId) :
    Option WildcardPathFlags → Bool
  | none => false
  | some flags =>
    let isGlobal := 0xfff8 ≤ path.elementId && path.elementId ≤ 0xfffb
    flags.skipRootNode && path.endpointId = 0 ||
    isGlobal && flags.skipGlobalAttributes && path.elementId ∈ GLOBAL_ATTRIBUTES_LIST ||
    isGlobal && flags.skipAttributeList && path.elementId = ATTRIBUTE_LIST_ID ||
    isGlobal && flags.skipCommandLists && path.elementId ∈ GLOBAL_COMMANDLIST_IDS ||
    flags.skipCustomElements &&
      (Mei.hasCustomMeiPrefix path.clusterId || Mei.hasCustomMeiPrefix path.elementId) ||
    flags.skipFixedAttributes && model.isFixed path ||
    flags.skipChangesOmittedAttributes && model.changesOmitted path ||
    flags.skipDiagnosticsClusters && model.isDiagnosticsCluster path.clusterId

/-- The check of the ids that are there; `checkElement` is that of the last one. -/
def validateAnyPathDataTypes (checkElement : Nat → Except MatterError Nat) (path : RequestPath) :
    Except MatterError Unit := do
  let _ ← path.endpointId.mapM EndpointNumber
  let _ ← path.clusterId.mapM ClusterId
  let _ ← path.elementId.mapM checkElement

def select {Element : Type} (elements : OrderedMap ElementPathId Element)
    (paths : List ElementPathId) (path : RequestPath)
    (keep : ElementPathId → Element → Bool) : List (ElementPathId × Element) :=
  (path.concrete.elim (paths.filter path.covers) ([·])).filterMap fun element =>
    ((elements.get element).filter (keep element)).map (element, ·)

/-- For one path, with `onlyWritable` and the flags of the path. They count for a wildcard. -/
def getAttributes (isWritable : Attribute → Bool) (path : RequestPath)
    (wildcardPathFlags : Option WildcardPathFlags) (onlyWritable : Bool) :
    Except MatterError (List (ElementPathId × Attribute)) := do
  validateAnyPathDataTypes AttributeId path
  let flags := if path.isConcrete then none else wildcardPathFlags
  return select endpointStructure.attributes endpointStructure.attributePaths path
    fun element server => !(onlyWritable && !isWritable server) &&
      !attributePathMatchesWildcardPathFlags model element flags

def getCommands (path : RequestPath) : Except MatterError (List (ElementPathId × Command)) := do
  validateAnyPathDataTypes CommandId path
  return select endpointStructure.commands endpointStructure.commandPaths path fun _ _ => true

/-- What `validateConcreteAttributePath` and `validateConcreteCommandPath` throw; `none` where
they return. -/
def validateConcretePath (hasElement : Bool) (name : String) (unsupported : StatusCode)
    (path : ElementPathId) : Option MatterError :=
  if ¬endpointStructure.hasEndpoint path.endpointId then
    some (.statusResponseError s!"Endpoint {path.endpointId} does not exist." .unsupportedEndpoint)
  else if ¬endpointStructure.hasClusterServer path.endpointId path.clusterId then
    some (.statusResponseError s!"Cluster {path.clusterId} does not exist." .unsupportedCluster)
  else if hasElement then none
  else some (.statusResponseError s!"{name} {path.elementId} does not exist" unsupported)

def validateConcreteAttributePath (path : ElementPathId) : Option MatterError :=
  endpointStructure.validateConcretePath (endpointStructure.attributes.has path) "Attribute"
    .unsupportedAttribute path

def validateConcreteCommandPath (path : ElementPathId) : Option MatterError :=
  endpointStructure.validateConcretePath (endpointStructure.commands.has path) "Command"
    .unsupportedCommand path

variable {endpointStructure} {model}

theorem length_select_le {Element : Type} {elements : OrderedMap ElementPathId Element}
    {paths : List ElementPathId} {path : RequestPath} {keep : ElementPathId → Element → Bool}
    (isConcrete : path.isConcrete) : (select elements paths path keep).length ≤ 1 := by
  rcases Option.isSome_iff_exists.mp isConcrete with ⟨element, concrete⟩
  rw [select, concrete]
  exact List.length_filterMap_le _ _

theorem select_of_concrete {Element : Type} {elements : OrderedMap ElementPathId Element}
    {paths : List ElementPathId} {path : RequestPath} {element : ElementPathId}
    {keep : ElementPathId → Element → Bool} (concrete : path.concrete = some element) :
    select elements paths path keep = [] ∨
      ∃ found, select elements paths path keep = [(element, found)] := by
  rw [select, concrete]
  show List.filterMap _ [element] = [] ∨ ∃ found, List.filterMap _ [element] = [(element, found)]
  rw [List.filterMap_cons]
  cases (elements.get element).filter (keep element) with
  | none => exact .inl rfl
  | some found => exact .inr ⟨found, rfl⟩

theorem getAttributes_of_concrete {path : RequestPath} {element : ElementPathId}
    {isWritable : Attribute → Bool} {flags : Option WildcardPathFlags} {onlyWritable : Bool}
    {attributes : List (ElementPathId × Attribute)} (concrete : path.concrete = some element)
    (found : endpointStructure.getAttributes model isWritable path flags onlyWritable =
      .ok attributes) :
    attributes = [] ∨ ∃ server, attributes = [(element, server)] := by
  rw [getAttributes] at found
  rcases bind_eq_ok_iff.mp found with ⟨_, _, selected⟩
  cases selected
  exact select_of_concrete concrete

theorem length_getCommands_le {path : RequestPath} {commands : List (ElementPathId × Command)}
    (isConcrete : path.isConcrete)
    (found : endpointStructure.getCommands path = .ok commands) : commands.length ≤ 1 := by
  rw [getCommands] at found
  rcases bind_eq_ok_iff.mp found with ⟨_, _, selected⟩
  cases selected
  exact length_select_le isConcrete

end InteractionEndpointStructure

inductive TimedInteraction where
  | active
  | expired
  deriving DecidableEq

structure RequestExchange where
  timedInteraction : Option TimedInteraction
  sessionType : SessionType
  /-- The session is secure and has a fabric. -/
  hasFabric : Bool

def RequestExchange.receivedWithinTimedInteraction (exchange : RequestExchange) : Bool :=
  exchange.timedInteraction = some .active

end MatterJs.Protocol
