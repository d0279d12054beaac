import MatterJs.Protocol.ServerSubscription

/-! Fabric scoped attributes, and what a subscription queues of their changes. -/

namespace MatterJs.Protocol

open General

universe u

inductive AttributeValue (Element : Type u) where
  | array (elements : List Element)
  | other (element : Element)
  deriving DecidableEq

structure FabricScopedAttributeServer (Element : Type u) where
  name : String
  /-- The indices of `datasource.fabrics`. -/
  fabrics : List Nat
  scopedClusterData : Nat → Option (AttributeValue Element)
  defaultValue : AttributeValue Element
  value : Option (AttributeValue Element)

inductive FabricScopedChange (Element : Type u) where
  | setLocalForFabric (value : AttributeValue Element) (fabric : Nat)
  /-- The write of a value that has the fabric index injected. -/
  | setRemote (value : AttributeValue Element) (fabric : Nat)
  | updated (fabric : Option Nat)
  | updatedLocalForFabric (fabric : Nat)

namespace FabricScopedAttributeServer

variable {Element : Type u}

def getLocalForFabric (server : FabricScopedAttributeServer Element) (fabric : Nat) :
    AttributeValue Element :=
  (server.scopedClusterData fabric).getD server.defaultValue

/-- The values of some fabrics, one behind the other. -/
def getForFabrics (server : FabricScopedAttributeServer Element) :
    List Nat → Except MatterError (List Element)
  | [] => .ok []
  | fabric :: fabrics =>
    match server.getLocalForFabric fabric with
    | .other _ => .error (.fabricScopeError (s!"Fabric scoped attribute \"{server.name}\" " ++
        "can only be read for all fabrics if they are arrays."))
    | .array elements => do
      let values ← server.getForFabrics fabrics
      return elements ++ values

def getter (server : FabricScopedAttributeServer Element) (fabric : Option Nat)
    (isFabricFiltered : Bool) : Except MatterError (AttributeValue Element) :=
  if isFabricFiltered then
    match fabric with
    | none => .error (.noAssociatedFabricError
        "Session needs to have an associated Fabric for fabric sensitive data handling.")
    | some fabric => .ok (server.getLocalForFabric fabric)
  else do
    let values ← server.getForFabrics server.fabrics
    return .array values

def setScopedClusterDataValue (server : FabricScopedAttributeServer Element) (fabric : Nat)
    (value : AttributeValue Element) : FabricScopedAttributeServer Element :=
  { server with
    scopedClusterData := fun other =>
      if other = fabric then some value else server.scopedClusterData other }

variable [DecidableEq Element]

def change (server : FabricScopedAttributeServer Element) :
    FabricScopedChange Element →
      Except MatterError (FabricScopedAttributeServer Element × Option (AttributeValue Element))
  | .setLocalForFabric value fabric =>
    if value = server.getLocalForFabric fabric then .ok (server, none)
    else .ok (server.setScopedClusterDataValue fabric value, some value)
  | .setRemote value fabric =>
    -- the old value is read for all fabrics, whichever the session has
    match server.getter (some fabric) false with
    | .error error => .error error
    | .ok _ =>
      if value = server.getLocalForFabric fabric then
        .ok ({ server with value := some value }, none)
      else .ok ({ server.setScopedClusterDataValue fabric value with value := some value },
        some value)
  | .updated fabric =>
    match server.getter fabric false with
    | .error error => .error error
    | .ok value => .ok ({ server with value := some value }, some value)
  | .updatedLocalForFabric fabric =>
    let value := server.getLocalForFabric fabric
    .ok ({ server with value := some value }, some value)

end FabricScopedAttributeServer

namespace ServerSubscription

section Reports

variable {Value : Type u}

/-- The value that is queued for a path after its attribute server has handed one over, where
`read` is what the subscriber reads. -/
def reportedValue (subscription : ServerSubscription Value) (read : Except MatterError Value)
    (path : ElementPath) (version : Nat) (handed : Value) (change now : Nat) : Option Value :=
  match subscription.attributeChangeHandler read path version handed change now with
  | .error _ => none
  | .ok after =>
    (after.outstandingAttributeUpdates.get (genericElementPathToId path)).map
      AttributePathWithValueVersion.value

variable {subscription : ServerSubscription Value} {path : ElementPath}
  {attributeServer : SubscribedAttribute}

theorem outstandingAttributeUpdates_prepareDataUpdate (now : Nat)
    (subscription : ServerSubscription Value) :
    (subscription.prepareDataUpdate now).outstandingAttributeUpdates =
      subscription.outstandingAttributeUpdates := by
  rw [prepareDataUpdate]
  split
  · rfl
  · split
    · rfl
    · split <;> rfl

theorem reportedValue_eq_handed
    (listens : subscription.attributeListeners.get (genericElementPathToId path) =
      some attributeServer)
    (isScoped : attributeServer.isFabricScoped) (own : Value) (version : Nat) (handed : Value)
    (change now : Nat) :
    subscription.reportedValue (.ok own) path version handed change now = some handed := by
  rw [reportedValue, attributeChangeHandler, listens]
  simp only [isScoped, if_true, outstandingAttributeUpdates_prepareDataUpdate, queueAttribute]
  rw [show AttributePathWithValueVersion.pathId
    { path, attributeServer, version, value := handed, change } =
      genericElementPathToId path from rfl, OrderedMap.get_set_self]
  rfl

end Reports

variable {Element : Type u}

def readFabricScoped (subscription : ServerSubscription (AttributeValue Element))
    (server : FabricScopedAttributeServer Element) : Except MatterError (AttributeValue Element) :=
  server.getter subscription.fabricIndex subscription.isFabricFiltered

variable {subscription : ServerSubscription (AttributeValue Element)} {path : ElementPath}
  {attributeServer : SubscribedAttribute}

variable [DecidableEq Element]

def exampleScopedPath : ElementPath :=
  { nodeId := none, endpointId := 0, clusterId := 31, elementId := 0 }

def exampleSubscription : ServerSubscription (AttributeValue Nat) :=
  establish (some 1) true 0
    (OrderedMap.empty.set (genericElementPathToId exampleScopedPath)
      { isFabricScoped := true, hasFabricSensitiveData := true }) {} 0

def exampleServer (own others : List Nat) : FabricScopedAttributeServer Nat where
  name := "acl"
  fabrics := [1, 2]
  scopedClusterData := fun fabric => some (.array (if fabric = 1 then own else others))
  defaultValue := .array []
  value := none

end ServerSubscription

end MatterJs.Protocol
