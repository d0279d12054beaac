import MatterJs.Broker.Aggregation

/-! The broker's proxy endpoints: their creation for a commissioned node, and the
`attributeChanged` callback with its update of the proxy.

The keys of the broker's maps are objects, and a map finds an entry only under the
object it was set with. An object is its reference together with its fields. -/

namespace MatterJs.Broker

open General

/-- An endpoint of a commissioned node, with the names of the clusters it has clients
for and the number of its parent. -/
structure ExternalEndpoint where
  number : Nat
  clusters : List String
  parent : Option Nat
  deriving DecidableEq

def ExternalEndpoint.hasClusterClient (endpoint : ExternalEndpoint) (cluster : String) :
    Bool :=
  endpoint.clusters.contains cluster

/-- A node's endpoints are a tree: they have different numbers, and the root endpoint
is nobody's child. -/
structure CommissionedNode where
  nodeId : Nat
  advertisedName : String
  endpoints : List ExternalEndpoint
  distinctNumbers : (endpoints.map ExternalEndpoint.number).Nodup
  rootParent : ∀ endpoint ∈ endpoints, endpoint.number = 0 → endpoint.parent = none

namespace CommissionedNode

variable (node : CommissionedNode)

def getChildEndpoints (number : Nat) : List ExternalEndpoint :=
  node.endpoints.filter (·.parent = some number)

def getRootEndpoint : Option ExternalEndpoint :=
  node.endpoints.find? (·.number = 0)

/-- `rootEndpoint?.getChildEndpoints() ?? []` -/
def rootChildren : List ExternalEndpoint :=
  node.getRootEndpoint.elim [] fun root => node.getChildEndpoints root.number

end CommissionedNode

/-! ## The broker -/

structure NodeEndpointKey where
  reference : Nat
  nodeId : Nat
  endpointId : Nat
  deriving DecidableEq

structure BridgedDeviceBasicInformation where
  nodeLabel : String
  productName : String
  productLabel : String
  serialNumber : String
  reachable : Bool
  deriving DecidableEq

structure ProxyEndpoint where
  id : String
  bridgedDeviceBasicInformation : BridgedDeviceBasicInformation
  /-- The attributes by the names of their cluster and their own. -/
  attributes : String → String → Option Rat
  /-- The node and the endpoint it was created for, which the endpoint itself does
  not know. -/
  createdFor : Nat × Nat

def ProxyEndpoint.set (proxy : ProxyEndpoint) (clusterNameProperty attributeName : String)
    (value : Rat) : ProxyEndpoint :=
  { proxy with
    attributes := Function.update proxy.attributes clusterNameProperty
      (Function.update (proxy.attributes clusterNameProperty) attributeName (some value)) }

structure VirtualMatterBrokerNode where
  /-- The unique id of the north node. -/
  uniqueId : String
  /-- The attributes of a new proxy endpoint. -/
  initialAttributes : String → String → Option Rat
  commissionedNodes : List CommissionedNode
  /-- The endpoints of the northbound aggregator. -/
  parts : List ProxyEndpoint
  aggregation : Aggregation
  /-- The ids of the proxy endpoints that were registered. -/
  proxiedEndpoints : OrderedMap NodeEndpointKey String
  southboundEndpoints : OrderedMap NodeEndpointKey ExternalEndpoint
  /-- How many objects were created. -/
  references : Nat

namespace VirtualMatterBrokerNode

def start (uniqueId : String) (initialAttributes : String → String → Option Rat)
    (firedAt : AggregateInterval → Int) : VirtualMatterBrokerNode where
  uniqueId := uniqueId
  initialAttributes := initialAttributes
  commissionedNodes := []
  parts := []
  aggregation := Aggregation.start firedAt
  proxiedEndpoints := ∅
  southboundEndpoints := ∅
  references := 0

variable (broker : VirtualMatterBrokerNode)

/-- `{ nodeId, endpointId }`: a new object at each evaluation. -/
def newKey (nodeId endpointId : Nat) : NodeEndpointKey × VirtualMatterBrokerNode :=
  ({ reference := broker.references, nodeId := nodeId, endpointId := endpointId },
    { broker with references := broker.references + 1 })

/-- `this.#aggregator.add(...)`: the ids of an endpoint's parts are different. -/
def addPart (proxy : ProxyEndpoint) : Except MatterError VirtualMatterBrokerNode :=
  if broker.parts.any (·.id = proxy.id) then
    let uniqueId := broker.uniqueId
    let id := proxy.id
    .error (.identityConflictError (s!"{uniqueId}.aggregator.{id} is already defined; " ++
      "endpoint IDs must be unique within parent"))
  else
    .ok { broker with parts := broker.parts ++ [proxy] }

/-! ### Proxies of a commissioned node -/

def nestedProxy (initialAttributes : String → String → Option Rat)
    (detailsForNode : CommissionedNode) (nestedChild : ExternalEndpoint) : ProxyEndpoint :=
  let nodeId := detailsForNode.nodeId
  let number := nestedChild.number
  { id := s!"ple-{nodeId}-{number}"
    bridgedDeviceBasicInformation := {
      nodeLabel := detailsForNode.advertisedName
      productName := detailsForNode.advertisedName
      productLabel := detailsForNode.advertisedName
      serialNumber := s!"{nodeId}-{number}"
      reachable := true }
    attributes := initialAttributes
    createdFor := (nodeId, number) }

/-- The proxy of a temperature sensor directly below the root endpoint. -/
def directProxy (initialAttributes : String → String → Option Rat)
    (detailsForNode : CommissionedNode) (child : ExternalEndpoint) : ProxyEndpoint :=
  let nodeId := detailsForNode.nodeId
  { id := s!"ple-{nodeId}"
    bridgedDeviceBasicInformation := {
      nodeLabel := detailsForNode.advertisedName
      productName := detailsForNode.advertisedName
      productLabel := detailsForNode.advertisedName
      serialNumber := s!"node-matter-{nodeId}"
      reachable := true }
    attributes := initialAttributes
    createdFor := (nodeId, child.number) }

/-- The callback of `forEach` for a nested endpoint. When it fails, only its own
promise is rejected. -/
def proxyNestedChild (detailsForNode : CommissionedNode)
    (broker : VirtualMatterBrokerNode) (nestedChild : ExternalEndpoint) :
    VirtualMatterBrokerNode :=
  let proxy := nestedProxy broker.initialAttributes detailsForNode nestedChild
  let (key, broker) := broker.newKey detailsForNode.nodeId nestedChild.number
  let broker := { broker with
    southboundEndpoints := broker.southboundEndpoints.set key nestedChild }
  match broker.addPart proxy with
  | .ok added => added
  | .error _ => broker

def proxyAggregatedChildren (detailsForNode : CommissionedNode)
    (broker : VirtualMatterBrokerNode) (child : ExternalEndpoint) :
    VirtualMatterBrokerNode :=
  let aggregatedChildEndpoints := detailsForNode.getChildEndpoints child.number
  let (key, broker) := broker.newKey detailsForNode.nodeId child.number
  let broker := { broker with
    southboundEndpoints := broker.southboundEndpoints.set key child }
  aggregatedChildEndpoints.foldl (proxyNestedChild detailsForNode) broker

/-- The loop over the children of the root endpoint, which ends with the first proxy
of a temperature sensor that cannot be added. -/
def proxyChildren (detailsForNode : CommissionedNode) :
    VirtualMatterBrokerNode → List ExternalEndpoint → VirtualMatterBrokerNode × Option MatterError
  | broker, [] => (broker, none)
  | broker, child :: children =>
    let broker :=
      if child.hasClusterClient "AggregatedStats" then
        proxyAggregatedChildren detailsForNode broker child
      else broker
    if child.hasClusterClient "TemperatureMeasurement" then
      match broker.addPart (directProxy broker.initialAttributes detailsForNode child) with
      | .ok added => proxyChildren detailsForNode added children
      | .error error => (broker, some error)
    else
      proxyChildren detailsForNode broker children

def onNodeCommission (nodeId : Nat) : VirtualMatterBrokerNode × Option MatterError :=
  match broker.commissionedNodes.find? (·.nodeId = nodeId) with
  | none => (broker, some (.error "Node not found in commissioned nodes details"))
  | some detailsForNode =>
    proxyChildren detailsForNode broker detailsForNode.rootChildren

/-- The controller commissions a node, and `onNodeCommission` runs on its own. -/
def pairNode (node : CommissionedNode) : VirtualMatterBrokerNode :=
  let broker := { broker with commissionedNodes := broker.commissionedNodes ++ [node] }
  (broker.onNodeCommission node.nodeId).1

structure Callback where
  nodeId : Nat
  change : Aggregation.AttributeChange
  timestamp : Int
  deriving DecidableEq

def attributeChanged (registry : Nat → Option String) (broker : VirtualMatterBrokerNode)
    (callback : Callback) : Except MatterError VirtualMatterBrokerNode := do
  let change := callback.change
  let clusterName ← Aggregation.clusterName registry change.clusterId
  let clusterNameProperty := clusterName.decapitalize
  let aggregation ← broker.aggregation.attributeChanged registry change callback.timestamp
  let (key, broker) :=
    { broker with aggregation := aggregation }.newKey callback.nodeId change.endpointId
  match broker.proxiedEndpoints.get key with
  | none => return broker
  | some id =>
    if clusterName ∈ proxiedClusters then
      return { broker with
        parts := broker.parts.map fun proxy =>
          if proxy.id = id then
            proxy.set clusterNameProperty change.attributeName change.value
          else proxy }
    else
      return broker

def step (registry : Nat → Option String) (broker : VirtualMatterBrokerNode)
    (callback : Callback) : VirtualMatterBrokerNode :=
  match broker.attributeChanged registry callback with
  | .ok changed => changed
  | .error _ => broker

end VirtualMatterBrokerNode

end MatterJs.Broker
