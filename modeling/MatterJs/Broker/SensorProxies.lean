import MatterJs.Broker.VirtualMatterBrokerNode
import MatterJs.Foundation.DecimalNames
import MatterJs.Foundation.Execution

/-! Whether every temperature sensor has its proxy endpoint, and the proxy its
sensor's values. -/

namespace MatterJs.Broker

open Execution

/-- The nodes that the broker pairs with. The controller gives them different ids. -/
structure CommissionedNodes where
  nodes : List CommissionedNode
  distinctIds : (nodes.map CommissionedNode.nodeId).Nodup

namespace CommissionedNode

variable (node : CommissionedNode)

def sensors : List ExternalEndpoint :=
  node.endpoints.filter (·.hasClusterClient "TemperatureMeasurement")

/-- An endpoint is directly below the root endpoint, or directly below a child of the
root endpoint that has aggregated stats. -/
def Reached (endpoint : ExternalEndpoint) : Prop :=
  endpoint ∈ node.rootChildren ∨
    ∃ child ∈ node.rootChildren, child.hasClusterClient "AggregatedStats" ∧
      endpoint ∈ node.getChildEndpoints child.number

end CommissionedNode

namespace VirtualMatterBrokerNode

def pairNodes (broker : VirtualMatterBrokerNode) (nodes : List CommissionedNode) :
    VirtualMatterBrokerNode :=
  nodes.foldl pairNode broker

def lastValue (registry : Nat → Option String) (callbacks : List Callback)
    (pair : Nat × Nat) (clusterName attributeName : String) : Option Rat :=
  (callbacks.filter fun callback =>
    (callback.nodeId, callback.change.endpointId) = pair ∧
      registry callback.change.clusterId = some clusterName ∧
        callback.change.attributeName = attributeName).getLast?.map (·.change.value)

section Statements

variable (registry : Nat → Option String) (broker : VirtualMatterBrokerNode)
  (commissioned : CommissionedNodes) (callbacks : List Callback)

def afterCallbacks : VirtualMatterBrokerNode :=
  run (step registry) (broker.pairNodes commissioned.nodes) callbacks

/-- Every sensor has one proxy, different endpoints have different ones, and a proxy
has the last values delivered for its sensor. -/
structure ForwardsSensors : Prop where
  onePerSensor : ∀ node ∈ commissioned.nodes, ∀ sensor ∈ node.sensors,
    ((afterCallbacks registry broker commissioned callbacks).parts.filter
      (·.createdFor = (node.nodeId, sensor.number))).length = 1
  distinctIds : ∀ first ∈ (afterCallbacks registry broker commissioned callbacks).parts,
    ∀ second ∈ (afterCallbacks registry broker commissioned callbacks).parts,
      first.createdFor ≠ second.createdFor → first.id ≠ second.id
  lastValues : ∀ node ∈ commissioned.nodes, ∀ sensor ∈ node.sensors,
    ∀ proxy ∈ (afterCallbacks registry broker commissioned callbacks).parts,
      proxy.createdFor = (node.nodeId, sensor.number) →
        ∀ clusterName ∈ proxiedClusters, ∀ attributeName, ∀ value ∈ lastValue registry
            callbacks (node.nodeId, sensor.number) clusterName attributeName,
          proxy.attributes clusterName.decapitalize attributeName = some value

/-- Every sensor is where the broker looks for it, no node has two of them directly
below its root endpoint, and the last values delivered are the initial ones of a proxy. -/
structure Forwardable (initialAttributes : String → String → Option Rat) : Prop where
  reached : ∀ node ∈ commissioned.nodes, ∀ sensor ∈ node.sensors, node.Reached sensor
  oneDirect : ∀ node ∈ commissioned.nodes, ∀ first ∈ node.rootChildren,
    ∀ second ∈ node.rootChildren, first.hasClusterClient "TemperatureMeasurement" →
      second.hasClusterClient "TemperatureMeasurement" → first = second
  unchanged : ∀ node ∈ commissioned.nodes, ∀ sensor ∈ node.sensors,
    ∀ clusterName ∈ proxiedClusters, ∀ attributeName, ∀ value ∈ lastValue registry callbacks
        (node.nodeId, sensor.number) clusterName attributeName,
      initialAttributes clusterName.decapitalize attributeName = some value

end Statements

section Ids

variable {initialAttributes : String → String → Option Rat}
  {node other : CommissionedNode} {endpoint otherEndpoint : ExternalEndpoint}

/-- What stands in an id: the node, and the number of a nested endpoint. -/
def idOf : Nat × Option Nat → String
  | (nodeId, none) => s!"ple-{nodeId}"
  | (nodeId, some number) => s!"ple-{nodeId}-{number}"

theorem toList_idOf_none (nodeId : Nat) :
    (idOf (nodeId, none)).toList = "ple-".toList ++ (toString nodeId).toList := by
  rw [idOf, String.toList_append]
  rfl

theorem toList_idOf_some (nodeId number : Nat) :
    (idOf (nodeId, some number)).toList =
      "ple-".toList ++ ((toString nodeId).toList ++ '-' :: (toString number).toList) := by
  rw [idOf, String.toList_append, String.toList_append, String.toList_append,
    List.append_assoc, List.append_assoc]
  rfl

theorem idOf_injective : Function.Injective idOf := by
  intro first second same
  rcases first with ⟨nodeId, number⟩
  rcases second with ⟨otherNodeId, otherNumber⟩
  have sameText := congrArg String.toList same
  have noDash := DecimalNames.dash_not_mem_toString
  cases number with
  | none =>
    cases otherNumber with
    | none =>
      rw [toList_idOf_none, toList_idOf_none] at sameText
      rw [DecimalNames.toString_injective (List.append_cancel_left sameText)]
    | some otherNumber =>
      rw [toList_idOf_none, toList_idOf_some] at sameText
      have dash : '-' ∈ (toString nodeId).toList := by
        rw [List.append_cancel_left sameText]
        simp
      exact absurd dash (noDash nodeId)
  | some number =>
    cases otherNumber with
    | none =>
      rw [toList_idOf_some, toList_idOf_none] at sameText
      have dash : '-' ∈ (toString otherNodeId).toList := by
        rw [← List.append_cancel_left sameText]
        simp
      exact absurd dash (noDash otherNodeId)
    | some otherNumber =>
      rw [toList_idOf_some, toList_idOf_some] at sameText
      rcases DecimalNames.append_separator_inj (noDash nodeId) (noDash otherNodeId)
        (List.append_cancel_left sameText) with ⟨sameNode, sameNumber⟩
      rw [DecimalNames.toString_injective sameNode, DecimalNames.toString_injective sameNumber]

end Ids

section Planned

variable (initialAttributes : String → String → Option Rat) (node : CommissionedNode)

def plannedFor (child : ExternalEndpoint) : List ProxyEndpoint :=
  (if child.hasClusterClient "AggregatedStats" then
    (node.getChildEndpoints child.number).map (nestedProxy initialAttributes node)
  else []) ++
  if child.hasClusterClient "TemperatureMeasurement" then
    [directProxy initialAttributes node child]
  else []

def planned : List ProxyEndpoint :=
  node.rootChildren.flatMap (plannedFor initialAttributes node)

variable {initialAttributes node}

theorem mem_plannedFor_iff (child : ExternalEndpoint) (proxy : ProxyEndpoint) :
    proxy ∈ plannedFor initialAttributes node child ↔
      (child.hasClusterClient "AggregatedStats" ∧
        ∃ nested ∈ node.getChildEndpoints child.number,
          nestedProxy initialAttributes node nested = proxy) ∨
      (child.hasClusterClient "TemperatureMeasurement" ∧
        directProxy initialAttributes node child = proxy) := by
  rw [plannedFor, List.mem_append]
  apply or_congr
  · by_cases aggregated : child.hasClusterClient "AggregatedStats" = true
    · simp
    · simp
  · by_cases measured : child.hasClusterClient "TemperatureMeasurement" = true
    · simp [measured, eq_comm]
    · simp [measured]

theorem mem_planned_iff (proxy : ProxyEndpoint) :
    proxy ∈ planned initialAttributes node ↔
      ∃ child ∈ node.rootChildren, proxy ∈ plannedFor initialAttributes node child := by
  rw [planned, List.mem_flatMap]

end Planned

/-! ## Adding proxies -/

/-- What adding proxies one after the other comes to: no id is there twice, nothing
else is added, and they are all added when no ids collide. -/
structure Adds (broker after : VirtualMatterBrokerNode) (proxies : List ProxyEndpoint) :
    Prop where
  initialAttributes : after.initialAttributes = broker.initialAttributes
  commissionedNodes : after.commissionedNodes = broker.commissionedNodes
  proxiedEndpoints : after.proxiedEndpoints = broker.proxiedEndpoints
  references : broker.references ≤ after.references
  distinctIds : (broker.parts.map ProxyEndpoint.id).Nodup → (after.parts.map ProxyEndpoint.id).Nodup
  onlyProxies : ∀ proxy ∈ after.parts, proxy ∈ broker.parts ∨ proxy ∈ proxies
  all : ((broker.parts ++ proxies).map ProxyEndpoint.id).Nodup →
    after.parts = broker.parts ++ proxies

theorem not_nodup_of_same_id {parts proxies : List ProxyEndpoint}
    {part proxy : ProxyEndpoint} (inParts : part ∈ parts) (inProxies : proxy ∈ proxies)
    (same : part.id = proxy.id) : ¬((parts ++ proxies).map ProxyEndpoint.id).Nodup := by
  intro distinct
  rw [List.map_append, List.nodup_append] at distinct
  exact distinct.2.2 _ (List.mem_map_of_mem inParts) _ (List.mem_map_of_mem inProxies) same

namespace Adds

variable {broker middle after : VirtualMatterBrokerNode} {proxies more : List ProxyEndpoint}

theorem none (broker : VirtualMatterBrokerNode) : Adds broker broker [] where
  initialAttributes := rfl
  commissionedNodes := rfl
  proxiedEndpoints := rfl
  references := Nat.le_refl _
  distinctIds := id
  onlyProxies := fun _ member => Or.inl member
  all := fun _ => (List.append_nil _).symm

theorem append (first : Adds broker middle proxies) (second : Adds middle after more) :
    Adds broker after (proxies ++ more) where
  initialAttributes := second.initialAttributes.trans first.initialAttributes
  commissionedNodes := second.commissionedNodes.trans first.commissionedNodes
  proxiedEndpoints := second.proxiedEndpoints.trans first.proxiedEndpoints
  references := first.references.trans second.references
  distinctIds := fun distinct => second.distinctIds (first.distinctIds distinct)
  onlyProxies := by
    intro proxy member
    rcases second.onlyProxies proxy member with inMiddle | new
    · rcases first.onlyProxies proxy inMiddle with old | new
      · exact Or.inl old
      · exact Or.inr (List.mem_append_left _ new)
    · exact Or.inr (List.mem_append_right _ new)
  all := by
    intro distinct
    rw [← List.append_assoc] at distinct ⊢
    have distinctFirst : ((broker.parts ++ proxies).map ProxyEndpoint.id).Nodup := by
      rw [List.map_append] at distinct
      exact distinct.of_append_left
    have parts := first.all distinctFirst
    rw [← parts] at distinct ⊢
    exact second.all distinct

theorem stopped (first : Adds broker middle proxies) {part proxy : ProxyEndpoint}
    (inParts : part ∈ middle.parts) (next : proxy ∈ more) (same : part.id = proxy.id) :
    Adds broker middle (proxies ++ more) where
  initialAttributes := first.initialAttributes
  commissionedNodes := first.commissionedNodes
  proxiedEndpoints := first.proxiedEndpoints
  references := first.references
  distinctIds := first.distinctIds
  onlyProxies := by
    intro proxy member
    rcases first.onlyProxies proxy member with old | new
    · exact Or.inl old
    · exact Or.inr (List.mem_append_left _ new)
  all := by
    intro distinct
    rw [← List.append_assoc] at distinct
    have distinctFirst : ((broker.parts ++ proxies).map ProxyEndpoint.id).Nodup := by
      rw [List.map_append] at distinct
      exact distinct.of_append_left
    rw [← first.all distinctFirst] at distinct
    exact absurd distinct (not_nodup_of_same_id inParts next same)

end Adds

section Adding

variable {broker : VirtualMatterBrokerNode}

theorem addPart_cases (broker : VirtualMatterBrokerNode) (proxy : ProxyEndpoint) :
    (∃ part ∈ broker.parts, part.id = proxy.id ∧ ∃ error, broker.addPart proxy = .error error) ∨
      ∃ added, broker.addPart proxy = .ok added ∧ Adds broker added [proxy] := by
  by_cases taken : broker.parts.any (·.id = proxy.id) = true
  · apply Or.inl
    rcases List.any_eq_true.mp taken with ⟨part, member, same⟩
    exact ⟨part, member, of_decide_eq_true same, _, by rw [addPart, if_pos taken]⟩
  · apply Or.inr
    refine ⟨_, by rw [addPart, if_neg taken], ?_⟩
    exact {
      initialAttributes := rfl
      commissionedNodes := rfl
      proxiedEndpoints := rfl
      references := Nat.le_refl _
      distinctIds := by
        intro distinct
        rw [List.map_append, List.map_singleton, ← List.concat_eq_append]
        apply distinct.concat
        intro isThere
        rcases List.mem_map.mp isThere with ⟨part, member, same⟩
        exact taken (List.any_eq_true.mpr ⟨part, member, decide_eq_true same⟩)
      onlyProxies := fun _ member => List.mem_append.mp member
      all := fun _ => rfl }

variable (node : CommissionedNode)

theorem adds_nestedChild (broker : VirtualMatterBrokerNode) (nested : ExternalEndpoint) :
    Adds broker (proxyNestedChild node broker nested)
      [nestedProxy broker.initialAttributes node nested] := by
  let registered := { (broker.newKey node.nodeId nested.number).2 with
    southboundEndpoints := broker.southboundEndpoints.set
      (broker.newKey node.nodeId nested.number).1 nested }
  rcases addPart_cases registered (nestedProxy broker.initialAttributes node nested) with
    collides | succeeds
  · rcases collides with ⟨part, member, same, error, failed⟩
    have unchanged : proxyNestedChild node broker nested = registered := by
      dsimp only [proxyNestedChild]
      split
      · next found => cases found.symm.trans failed
      · rfl
    rw [unchanged]
    exact { Adds.none broker with
      references := Nat.le_succ _
      onlyProxies := fun _ member => Or.inl member
      all := fun distinct =>
        absurd distinct (not_nodup_of_same_id member (List.mem_singleton_self _) same) }
  · rcases succeeds with ⟨added, succeeded, adds⟩
    have changed : proxyNestedChild node broker nested = added := by
      dsimp only [proxyNestedChild]
      split
      · next found => exact Except.ok.inj (found.symm.trans succeeded)
      · next found => cases found.symm.trans succeeded
    rw [changed]
    exact { adds with references := (Nat.le_succ _).trans adds.references }

theorem adds_nestedChildren (broker : VirtualMatterBrokerNode) (children : List ExternalEndpoint) :
    Adds broker (children.foldl (proxyNestedChild node) broker)
      (children.map (nestedProxy broker.initialAttributes node)) := by
  induction children generalizing broker with
  | nil => exact Adds.none broker
  | cons nested children induction =>
    have first := adds_nestedChild node broker nested
    have rest := induction (proxyNestedChild node broker nested)
    rw [first.initialAttributes] at rest
    exact first.append rest

theorem adds_aggregatedChildren (broker : VirtualMatterBrokerNode) (child : ExternalEndpoint) :
    Adds broker (proxyAggregatedChildren node broker child)
      ((node.getChildEndpoints child.number).map
        (nestedProxy broker.initialAttributes node)) := by
  have adds := adds_nestedChildren node
    { (broker.newKey node.nodeId child.number).2 with
      southboundEndpoints := broker.southboundEndpoints.set
        (broker.newKey node.nodeId child.number).1 child }
    (node.getChildEndpoints child.number)
  exact { adds with references := (Nat.le_succ _).trans adds.references }

theorem adds_children (broker : VirtualMatterBrokerNode) (children : List ExternalEndpoint) :
    Adds broker (proxyChildren node broker children).1
      (children.flatMap (plannedFor broker.initialAttributes node)) := by
  induction children generalizing broker with
  | nil => exact Adds.none broker
  | cons child children induction =>
    let nestedProxies : List ProxyEndpoint :=
      if child.hasClusterClient "AggregatedStats" then
        (node.getChildEndpoints child.number).map (nestedProxy broker.initialAttributes node)
      else []
    let afterNested : VirtualMatterBrokerNode :=
      if child.hasClusterClient "AggregatedStats" then
        proxyAggregatedChildren node broker child
      else broker
    have nested : Adds broker afterNested nestedProxies := by
      by_cases aggregated : child.hasClusterClient "AggregatedStats" = true
      · simp only [afterNested, nestedProxies, if_pos aggregated]
        exact adds_aggregatedChildren node broker child
      · simp only [afterNested, nestedProxies, if_neg aggregated]
        exact Adds.none broker
    rw [List.flatMap_cons, plannedFor, proxyChildren, List.append_assoc]
    by_cases measured : child.hasClusterClient "TemperatureMeasurement" = true
    · rw [if_pos measured, if_pos measured, nested.initialAttributes]
      rcases addPart_cases afterNested (directProxy broker.initialAttributes node child) with
        collides | succeeds
      · rcases collides with ⟨part, member, same, error, failed⟩
        rw [failed]
        exact nested.stopped member (List.mem_cons_self ..) same
      · rcases succeeds with ⟨added, succeeded, adds⟩
        rw [succeeded]
        have rest := induction added
        rw [adds.initialAttributes, nested.initialAttributes] at rest
        exact nested.append (adds.append rest)
    · rw [if_neg measured, if_neg measured]
      have rest := induction afterNested
      rw [nested.initialAttributes] at rest
      exact nested.append rest

theorem adds_pairNode {node : CommissionedNode}
    (isNew : ∀ earlier ∈ broker.commissionedNodes, earlier.nodeId ≠ node.nodeId) :
    Adds { broker with commissionedNodes := broker.commissionedNodes ++ [node] }
      (broker.pairNode node) (planned broker.initialAttributes node) := by
  have found : (broker.commissionedNodes ++ [node]).find? (·.nodeId = node.nodeId) =
      some node := by
    have notEarlier : broker.commissionedNodes.find? (·.nodeId = node.nodeId) = none := by
      rw [List.find?_eq_none]
      intro earlier member
      simpa using isNew earlier member
    rw [List.find?_append, notEarlier]
    simp
  rw [pairNode, onNodeCommission]
  simp only [found]
  exact adds_children node _ node.rootChildren

theorem adds_pairNodes (broker : VirtualMatterBrokerNode) (nodes : List CommissionedNode)
    (distinct : ((broker.commissionedNodes ++ nodes).map CommissionedNode.nodeId).Nodup) :
    Adds { broker with commissionedNodes := broker.commissionedNodes ++ nodes }
      (broker.pairNodes nodes) (nodes.flatMap (planned broker.initialAttributes)) := by
  induction nodes generalizing broker with
  | nil => exact { Adds.none broker with
      commissionedNodes := (List.append_nil _).symm }
  | cons node nodes induction =>
    have isNew : ∀ earlier ∈ broker.commissionedNodes, earlier.nodeId ≠ node.nodeId := by
      intro earlier member
      rw [List.map_append, List.nodup_append] at distinct
      exact distinct.2.2 _ (List.mem_map_of_mem member) _
        (List.mem_map_of_mem (List.mem_cons_self ..))
    have first := adds_pairNode isNew
    have rest := induction (broker.pairNode node)
    change Adds _ ((broker.pairNode node).pairNodes nodes) _
    generalize broker.pairNode node = paired at first rest ⊢
    have commissioned : paired.commissionedNodes = broker.commissionedNodes ++ [node] :=
      first.commissionedNodes
    have initialAttributes : paired.initialAttributes = broker.initialAttributes :=
      first.initialAttributes
    rw [commissioned, List.append_assoc] at rest
    have widened : Adds
        { broker with commissionedNodes := broker.commissionedNodes ++ node :: nodes }
        { paired with commissionedNodes := broker.commissionedNodes ++ ([node] ++ nodes) }
        (planned broker.initialAttributes node) :=
      { first with commissionedNodes := rfl }
    rw [← initialAttributes] at widened ⊢
    exact widened.append (rest distinct)

end Adding

section Callbacks

variable {registry : Nat → Option String} {broker : VirtualMatterBrokerNode}

def KeysExist (broker : VirtualMatterBrokerNode) : Prop :=
  ∀ key ∈ broker.proxiedEndpoints.keys, key.reference < broker.references

/-- Under a new object nothing is found, whatever has been registered. -/
theorem get_newKey (keysExist : broker.KeysExist) (nodeId endpointId : Nat) :
    broker.proxiedEndpoints.get (broker.newKey nodeId endpointId).1 = none := by
  cases found : broker.proxiedEndpoints.get (broker.newKey nodeId endpointId).1 with
  | none => rfl
  | some id =>
    have older := keysExist _ ((OrderedMap.mem_keys_iff _ _).mpr ⟨id, found⟩)
    exact absurd older (Nat.lt_irrefl _)

theorem step_parts (keysExist : broker.KeysExist) (callback : Callback) :
    (broker.step registry callback).parts = broker.parts ∧
      (broker.step registry callback).KeysExist := by
  rw [step, attributeChanged]
  cases Aggregation.clusterName registry callback.change.clusterId with
  | error error => exact ⟨rfl, keysExist⟩
  | ok clusterName =>
    cases broker.aggregation.attributeChanged registry callback.change callback.timestamp with
    | error error => exact ⟨rfl, keysExist⟩
    | ok aggregation =>
      let updated := { broker with aggregation := aggregation }
      have found :
          (updated.newKey callback.nodeId callback.change.endpointId).2.proxiedEndpoints.get
            (updated.newKey callback.nodeId callback.change.endpointId).1 = none :=
        @get_newKey updated keysExist _ _
      simp only [bind, Except.bind]
      rw [found]
      exact ⟨rfl, fun key member => (keysExist key member).trans (Nat.lt_succ_self _)⟩

theorem run_parts (keysExist : broker.KeysExist) (callbacks : List Callback) :
    (run (step registry) broker callbacks).parts = broker.parts := by
  let unchanged (after : VirtualMatterBrokerNode) : Prop :=
    after.parts = broker.parts ∧ after.KeysExist
  have kept : unchanged (run (step registry) broker callbacks) := by
    apply run_invariant _ unchanged
    · intro after callback same
      rcases @step_parts registry after same.2 callback with ⟨parts, keysExist⟩
      exact ⟨parts.trans same.1, keysExist⟩
    · exact ⟨rfl, keysExist⟩
  exact kept.1

end Callbacks

/-! ## Where the ids are different -/

section DistinctIds

variable {initialAttributes : String → String → Option Rat} {node : CommissionedNode}

theorem mem_endpoints_of_child {number : Nat} {endpoint : ExternalEndpoint}
    (child : endpoint ∈ node.getChildEndpoints number) :
    endpoint ∈ node.endpoints ∧ endpoint.parent = some number := by
  rw [CommissionedNode.getChildEndpoints, List.mem_filter] at child
  exact ⟨child.1, of_decide_eq_true child.2⟩

theorem rootChildren_cases (node : CommissionedNode) :
    node.rootChildren = [] ∨ node.rootChildren = node.getChildEndpoints 0 := by
  rw [CommissionedNode.rootChildren]
  cases found : node.getRootEndpoint with
  | none => exact Or.inl rfl
  | some root =>
    have isRoot := List.find?_some found
    rw [decide_eq_true_eq] at isRoot
    rw [Option.elim_some, isRoot]
    exact Or.inr rfl

theorem mem_endpoints_of_rootChild {endpoint : ExternalEndpoint}
    (child : endpoint ∈ node.rootChildren) :
    endpoint ∈ node.endpoints ∧ endpoint.parent = some 0 := by
  rcases rootChildren_cases node with none | children
  · rw [none] at child
    cases child
  · rw [children] at child
    exact mem_endpoints_of_child child

theorem endpoint_eq {first second : ExternalEndpoint} (inNode : first ∈ node.endpoints)
    (otherInNode : second ∈ node.endpoints) (same : first.number = second.number) :
    first = second :=
  List.inj_on_of_nodup_map node.distinctNumbers inNode otherInNode same

theorem not_nested_of_rootChild {direct child nested : ExternalEndpoint}
    (isDirect : direct ∈ node.rootChildren) (isChild : child ∈ node.rootChildren)
    (isNested : nested ∈ node.getChildEndpoints child.number) :
    nested.number ≠ direct.number := by
  intro same
  rcases mem_endpoints_of_rootChild isDirect with ⟨inNode, directParent⟩
  rcases mem_endpoints_of_rootChild isChild with ⟨childInNode, childParent⟩
  rcases mem_endpoints_of_child isNested with ⟨nestedInNode, nestedParent⟩
  rw [endpoint_eq nestedInNode inNode same, directParent] at nestedParent
  have noParent := node.rootParent child childInNode (Option.some.inj nestedParent).symm
  rw [childParent] at noParent
  cases noParent

theorem id_nestedProxy (nested : ExternalEndpoint) :
    (nestedProxy initialAttributes node nested).id = idOf (node.nodeId, some nested.number) :=
  rfl

theorem id_of_planned {proxy : ProxyEndpoint} (isPlanned : proxy ∈ planned initialAttributes node) :
    ∃ number, proxy.id = idOf (node.nodeId, number) := by
  rcases (mem_planned_iff proxy).mp isPlanned with ⟨child, _, plannedFor⟩
  rcases (mem_plannedFor_iff child proxy).mp plannedFor with ⟨_, nested, _, rfl⟩ | ⟨_, rfl⟩
  · exact ⟨some nested.number, rfl⟩
  · exact ⟨none, rfl⟩

def idNumbers (node : CommissionedNode) (child : ExternalEndpoint) : List (Option Nat) :=
  (if child.hasClusterClient "AggregatedStats" then
    (node.getChildEndpoints child.number).map fun nested => some nested.number
  else []) ++
  if child.hasClusterClient "TemperatureMeasurement" then [none] else []

theorem ids_plannedFor (child : ExternalEndpoint) :
    (plannedFor initialAttributes node child).map ProxyEndpoint.id =
      (idNumbers node child).map fun number => idOf (node.nodeId, number) := by
  rw [plannedFor, idNumbers, List.map_append, List.map_append]
  congr 1
  · split
    · rw [List.map_map, List.map_map]
      rfl
    · rfl
  · split <;> rfl

theorem nodup_children (node : CommissionedNode) (number : Nat) :
    ((node.getChildEndpoints number).map ExternalEndpoint.number).Nodup :=
  (List.filter_sublist.map _).nodup node.distinctNumbers

theorem some_mem_idNumbers {child : ExternalEndpoint} {number : Nat}
    (member : some number ∈ idNumbers node child) :
    ∃ nested ∈ node.getChildEndpoints child.number, nested.number = number := by
  rcases List.mem_append.mp member with nested | direct
  · split at nested
    · rcases List.mem_map.mp nested with ⟨endpoint, isNested, same⟩
      exact ⟨endpoint, isNested, Option.some.inj same⟩
    · cases nested
  · split at direct
    · cases List.mem_singleton.mp direct
    · cases direct

theorem none_mem_idNumbers {child : ExternalEndpoint} (member : none ∈ idNumbers node child) :
    child.hasClusterClient "TemperatureMeasurement" = true := by
  rcases List.mem_append.mp member with nested | direct
  · split at nested
    · rcases List.mem_map.mp nested with ⟨endpoint, _, same⟩
      cases same
    · cases nested
  · split at direct
    · assumption
    · cases direct

theorem nodup_idNumbers (node : CommissionedNode) (child : ExternalEndpoint) :
    (idNumbers node child).Nodup := by
  rw [idNumbers, List.nodup_append]
  refine ⟨?_, ?_, ?_⟩
  · split
    · have distinct := (nodup_children node child.number).map (Option.some_injective Nat)
      rw [List.map_map] at distinct
      exact distinct
    · exact List.nodup_nil
  · split
    · exact List.nodup_singleton _
    · exact List.nodup_nil
  · intro number nested other direct same
    have isNone : other = none := by
      split at direct
      · exact List.mem_singleton.mp direct
      · cases direct
    rw [same, isNone] at nested
    split at nested
    · rcases List.mem_map.mp nested with ⟨_, _, isSome⟩
      cases isSome
    · cases nested

theorem nodup_rootChildren (node : CommissionedNode) : node.rootChildren.Nodup := by
  rcases rootChildren_cases node with none | children
  · rw [none]
    exact List.nodup_nil
  · rw [children]
    exact (nodup_children node 0).of_map _

theorem nodup_ids_planned (oneDirect : ∀ first ∈ node.rootChildren, ∀ second ∈ node.rootChildren,
      first.hasClusterClient "TemperatureMeasurement" →
        second.hasClusterClient "TemperatureMeasurement" → first = second) :
    ((planned initialAttributes node).map ProxyEndpoint.id).Nodup := by
  have ids : (planned initialAttributes node).map ProxyEndpoint.id =
      (node.rootChildren.flatMap (idNumbers node)).map
        fun number => idOf (node.nodeId, number) := by
    rw [planned, List.map_flatMap, List.map_flatMap]
    simp [ids_plannedFor]
  rw [ids]
  apply List.Nodup.map
  · intro first second same
    exact (Prod.mk.inj (idOf_injective same)).2
  · rw [List.nodup_flatMap]
    apply And.intro fun child _ => nodup_idNumbers node child
    apply (nodup_rootChildren node).pairwise_of_forall_ne
    intro first isChild second isOtherChild different number inFirst inSecond
    cases number with
    | none =>
      exact different (oneDirect first isChild second isOtherChild
        (none_mem_idNumbers inFirst) (none_mem_idNumbers inSecond))
    | some number =>
      rcases some_mem_idNumbers inFirst with ⟨nested, isNested, sameNumber⟩
      rcases some_mem_idNumbers inSecond with ⟨other, isOther, otherNumber⟩
      rcases mem_endpoints_of_child isNested with ⟨inNode, parent⟩
      rcases mem_endpoints_of_child isOther with ⟨otherInNode, otherParent⟩
      rw [endpoint_eq inNode otherInNode (sameNumber.trans otherNumber.symm), otherParent] at parent
      apply different
      exact endpoint_eq (mem_endpoints_of_rootChild isChild).1
        (mem_endpoints_of_rootChild isOtherChild).1 (Option.some.inj parent).symm

theorem nodup_ids_of_oneDirect {nodes : List CommissionedNode}
    (distinctNodes : (nodes.map CommissionedNode.nodeId).Nodup)
    (oneDirect : ∀ node ∈ nodes, ∀ first ∈ node.rootChildren,
      ∀ second ∈ node.rootChildren, first.hasClusterClient "TemperatureMeasurement" →
        second.hasClusterClient "TemperatureMeasurement" → first = second) :
    ((nodes.flatMap (planned initialAttributes)).map ProxyEndpoint.id).Nodup := by
  rw [List.map_flatMap, List.nodup_flatMap]
  apply And.intro fun node member => nodup_ids_planned (oneDirect node member)
  have differentNodes : nodes.Pairwise fun first second => first.nodeId ≠ second.nodeId :=
    List.pairwise_map.mp distinctNodes
  apply differentNodes.imp
  intro first second different id inFirst inSecond
  rcases List.mem_map.mp inFirst with ⟨proxy, isPlanned, rfl⟩
  rcases List.mem_map.mp inSecond with ⟨other, otherPlanned, same⟩
  rcases id_of_planned isPlanned with ⟨number, id⟩
  rcases id_of_planned otherPlanned with ⟨otherNumber, otherId⟩
  rw [id, otherId] at same
  exact different (Prod.mk.inj (idOf_injective same)).1.symm

end DistinctIds

/-! ## Which endpoint a proxy was created for -/

section CreatedFor

variable {initialAttributes : String → String → Option Rat} {node : CommissionedNode}

theorem createdFor_of_planned {proxy : ProxyEndpoint}
    (isPlanned : proxy ∈ planned initialAttributes node) :
    proxy.attributes = initialAttributes ∧
      ∃ endpoint ∈ node.endpoints, node.Reached endpoint ∧
        proxy.createdFor = (node.nodeId, endpoint.number) := by
  rcases (mem_planned_iff proxy).mp isPlanned with ⟨child, isChild, plannedFor⟩
  rcases (mem_plannedFor_iff child proxy).mp plannedFor with
    ⟨aggregated, nested, isNested, rfl⟩ | ⟨_, rfl⟩
  · exact ⟨rfl, nested, (mem_endpoints_of_child isNested).1,
      Or.inr ⟨child, isChild, aggregated, isNested⟩, rfl⟩
  · exact ⟨rfl, child, (mem_endpoints_of_rootChild isChild).1, Or.inl isChild, rfl⟩

theorem planned_of_reached {sensor : ExternalEndpoint} (isSensor : sensor ∈ node.sensors)
    (reached : node.Reached sensor) :
    ∃ proxy ∈ planned initialAttributes node,
      proxy.createdFor = (node.nodeId, sensor.number) := by
  have measured := (List.mem_filter.mp isSensor).2
  rcases reached with direct | nested
  · refine ⟨directProxy initialAttributes node sensor, ?_, rfl⟩
    apply (mem_planned_iff _).mpr
    exact ⟨sensor, direct, (mem_plannedFor_iff _ _).mpr (Or.inr ⟨measured, rfl⟩)⟩
  · rcases nested with ⟨child, isChild, aggregated, isNested⟩
    refine ⟨nestedProxy initialAttributes node sensor, ?_, rfl⟩
    apply (mem_planned_iff _).mpr
    exact ⟨child, isChild,
      (mem_plannedFor_iff _ _).mpr (Or.inl ⟨aggregated, sensor, isNested, rfl⟩)⟩

theorem id_of_createdFor_rootChild {proxy : ProxyEndpoint}
    (isPlanned : proxy ∈ planned initialAttributes node) {direct : ExternalEndpoint}
    (isDirect : direct ∈ node.rootChildren)
    (createdFor : proxy.createdFor = (node.nodeId, direct.number)) :
    proxy.id = idOf (node.nodeId, none) := by
  rcases (mem_planned_iff proxy).mp isPlanned with ⟨child, isChild, plannedFor⟩
  rcases (mem_plannedFor_iff child proxy).mp plannedFor with
    ⟨_, nested, isNested, rfl⟩ | ⟨_, rfl⟩
  · have sameNumber : nested.number = direct.number := (Prod.mk.inj createdFor).2
    exact absurd sameNumber (not_nested_of_rootChild isDirect isChild isNested)
  · rfl

theorem id_eq_of_createdFor {first second : ProxyEndpoint}
    (isPlanned : first ∈ planned initialAttributes node)
    (otherPlanned : second ∈ planned initialAttributes node)
    (same : first.createdFor = second.createdFor) : first.id = second.id := by
  rcases (mem_planned_iff first).mp isPlanned with ⟨child, isChild, plannedFor⟩
  rcases (mem_plannedFor_iff child first).mp plannedFor with
    ⟨_, nested, isNested, rfl⟩ | ⟨_, rfl⟩
  · rcases (mem_planned_iff second).mp otherPlanned with ⟨other, isOther, otherPlannedFor⟩
    rcases (mem_plannedFor_iff other second).mp otherPlannedFor with
      ⟨_, otherNested, _, rfl⟩ | ⟨_, rfl⟩
    · have sameNumber : nested.number = otherNested.number := (Prod.mk.inj same).2
      rw [id_nestedProxy, id_nestedProxy, sameNumber]
    · have sameNumber : nested.number = other.number := (Prod.mk.inj same).2
      exact absurd sameNumber (not_nested_of_rootChild isOther isChild isNested)
  · exact (id_of_createdFor_rootChild otherPlanned isChild same.symm).symm

end CreatedFor

/-! ## The proxies after all nodes are paired -/

section Paired

variable (registry : Nat → Option String) (uniqueId : String)
  (initialAttributes : String → String → Option Rat) (firedAt : AggregateInterval → Int)
  (commissioned : CommissionedNodes) (callbacks : List Callback)

theorem adds_commissioned :
    Adds { start uniqueId initialAttributes firedAt with
        commissionedNodes := commissioned.nodes }
      ((start uniqueId initialAttributes firedAt).pairNodes commissioned.nodes)
      (commissioned.nodes.flatMap (planned initialAttributes)) :=
  adds_pairNodes (start uniqueId initialAttributes firedAt) commissioned.nodes
    commissioned.distinctIds

theorem parts_afterCallbacks :
    (afterCallbacks registry (start uniqueId initialAttributes firedAt) commissioned
        callbacks).parts =
      ((start uniqueId initialAttributes firedAt).pairNodes commissioned.nodes).parts := by
  apply run_parts
  intro key member
  rw [(adds_commissioned uniqueId initialAttributes firedAt commissioned).proxiedEndpoints]
    at member
  cases member

/-- The proxies are planned ones with different ids, and all of them where no node has
two sensors directly below its root endpoint. -/
structure ProxiesOf (parts : List ProxyEndpoint) : Prop where
  distinctIds : (parts.map ProxyEndpoint.id).Nodup
  onlyPlanned : ∀ proxy ∈ parts, ∃ node ∈ commissioned.nodes, proxy ∈ planned initialAttributes node
  all : (∀ node ∈ commissioned.nodes, ∀ first ∈ node.rootChildren,
      ∀ second ∈ node.rootChildren, first.hasClusterClient "TemperatureMeasurement" →
        second.hasClusterClient "TemperatureMeasurement" → first = second) →
    ∀ node ∈ commissioned.nodes, ∀ proxy ∈ planned initialAttributes node, proxy ∈ parts

theorem proxiesOf_afterCallbacks :
    ProxiesOf initialAttributes commissioned
      (afterCallbacks registry (start uniqueId initialAttributes firedAt) commissioned
        callbacks).parts := by
  rw [parts_afterCallbacks]
  have adds := adds_commissioned uniqueId initialAttributes firedAt commissioned
  exact {
    distinctIds := adds.distinctIds List.nodup_nil
    onlyPlanned := by
      intro proxy member
      rcases adds.onlyProxies proxy member with earlier | isPlanned
      · cases earlier
      · exact List.mem_flatMap.mp isPlanned
    all := by
      intro oneDirect node member proxy isPlanned
      rw [adds.all (nodup_ids_of_oneDirect commissioned.distinctIds oneDirect)]
      exact List.mem_flatMap.mpr ⟨node, member, isPlanned⟩ }

end Paired

namespace ProxiesOf

variable {initialAttributes : String → String → Option Rat}
  {commissioned : CommissionedNodes} {parts : List ProxyEndpoint}

theorem node_eq {first second : CommissionedNode} (member : first ∈ commissioned.nodes)
    (otherMember : second ∈ commissioned.nodes) (same : first.nodeId = second.nodeId) :
    first = second :=
  List.inj_on_of_nodup_map commissioned.distinctIds member otherMember same

theorem planned_of_createdFor (proxies : ProxiesOf initialAttributes commissioned parts)
    {proxy : ProxyEndpoint} (member : proxy ∈ parts) {node : CommissionedNode}
    (isNode : node ∈ commissioned.nodes) {number : Nat}
    (createdFor : proxy.createdFor = (node.nodeId, number)) :
    proxy ∈ planned initialAttributes node := by
  rcases proxies.onlyPlanned proxy member with ⟨other, isOther, isPlanned⟩
  rcases createdFor_of_planned isPlanned with ⟨_, _, _, _, otherCreatedFor⟩
  rw [createdFor] at otherCreatedFor
  rw [node_eq isNode isOther (Prod.mk.inj otherCreatedFor).1]
  exact isPlanned

theorem proxy_eq (proxies : ProxiesOf initialAttributes commissioned parts)
    {first second : ProxyEndpoint} (member : first ∈ parts) (otherMember : second ∈ parts)
    (same : first.id = second.id) : first = second :=
  List.inj_on_of_nodup_map proxies.distinctIds member otherMember same

theorem eq_of_createdFor (proxies : ProxiesOf initialAttributes commissioned parts)
    {first second : ProxyEndpoint} (member : first ∈ parts) (otherMember : second ∈ parts)
    (same : first.createdFor = second.createdFor) : first = second := by
  rcases proxies.onlyPlanned first member with ⟨node, isNode, isPlanned⟩
  rcases createdFor_of_planned isPlanned with ⟨_, endpoint, _, _, createdFor⟩
  have otherPlanned :=
    proxies.planned_of_createdFor otherMember isNode (same.symm.trans createdFor)
  exact proxies.proxy_eq member otherMember (id_eq_of_createdFor isPlanned otherPlanned same)

theorem one_of_mem (proxies : ProxiesOf initialAttributes commissioned parts)
    {proxy : ProxyEndpoint} (member : proxy ∈ parts) :
    (parts.filter (·.createdFor = proxy.createdFor)).length = 1 := by
  have distinct : (parts.filter (·.createdFor = proxy.createdFor)).Nodup :=
    (proxies.distinctIds.of_map _).filter _
  have isThere : proxy ∈ parts.filter (·.createdFor = proxy.createdFor) :=
    List.mem_filter.mpr ⟨member, decide_eq_true rfl⟩
  have same : ∀ other ∈ parts.filter (·.createdFor = proxy.createdFor), other = proxy := by
    intro other found
    rcases List.mem_filter.mp found with ⟨otherMember, createdFor⟩
    exact proxies.eq_of_createdFor otherMember member (of_decide_eq_true createdFor)
  generalize parts.filter (·.createdFor = proxy.createdFor) = found at distinct isThere same
  cases found with
  | nil => cases isThere
  | cons head tail =>
    cases tail with
    | nil => rfl
    | cons next tail =>
      have twice : head = next :=
        (same head (List.mem_cons_self ..)).trans
          (same next (List.mem_cons_of_mem _ (List.mem_cons_self ..))).symm
      rw [twice] at distinct
      exact absurd (List.mem_cons_self ..) (List.nodup_cons.mp distinct).1

theorem exists_of_one {pair : Nat × Nat} (one : (parts.filter (·.createdFor = pair)).length = 1) :
    ∃ proxy ∈ parts, proxy.createdFor = pair := by
  rcases List.length_eq_one_iff.mp one with ⟨proxy, single⟩
  have found : proxy ∈ parts.filter (·.createdFor = pair) := by
    rw [single]
    exact List.mem_singleton_self proxy
  rcases List.mem_filter.mp found with ⟨member, createdFor⟩
  exact ⟨proxy, member, of_decide_eq_true createdFor⟩

end ProxiesOf

section Forwarding

variable {registry : Nat → Option String} {uniqueId : String}
  {initialAttributes : String → String → Option Rat} {firedAt : AggregateInterval → Int}
  {commissioned : CommissionedNodes} {callbacks : List Callback}

theorem forwardable_of_forwards
    (forwards : ForwardsSensors registry (start uniqueId initialAttributes firedAt)
      commissioned callbacks) :
    Forwardable registry commissioned callbacks initialAttributes := by
  have proxies := proxiesOf_afterCallbacks registry uniqueId initialAttributes firedAt
    commissioned callbacks
  exact {
    reached := by
      intro node isNode sensor isSensor
      rcases ProxiesOf.exists_of_one (forwards.onePerSensor node isNode sensor isSensor) with
        ⟨proxy, member, createdFor⟩
      have isPlanned := proxies.planned_of_createdFor member isNode createdFor
      rcases createdFor_of_planned isPlanned with
        ⟨_, endpoint, inNode, reached, sameEndpoint⟩
      rw [createdFor] at sameEndpoint
      have sameNumber := (Prod.mk.inj sameEndpoint).2
      rw [endpoint_eq (List.mem_filter.mp isSensor).1 inNode sameNumber]
      exact reached
    oneDirect := by
      intro node isNode first isFirst second isSecond firstMeasured secondMeasured
      have inNode := (mem_endpoints_of_rootChild isFirst).1
      have otherInNode := (mem_endpoints_of_rootChild isSecond).1
      rcases ProxiesOf.exists_of_one (forwards.onePerSensor node isNode first
        (List.mem_filter.mpr ⟨inNode, firstMeasured⟩)) with ⟨proxy, member, createdFor⟩
      rcases ProxiesOf.exists_of_one (forwards.onePerSensor node isNode second
        (List.mem_filter.mpr ⟨otherInNode, secondMeasured⟩)) with
        ⟨other, otherMember, otherCreatedFor⟩
      have id := id_of_createdFor_rootChild
        (proxies.planned_of_createdFor member isNode createdFor) isFirst createdFor
      have otherId := id_of_createdFor_rootChild
        (proxies.planned_of_createdFor otherMember isNode otherCreatedFor) isSecond
        otherCreatedFor
      rw [proxies.proxy_eq member otherMember (id.trans otherId.symm), otherCreatedFor]
        at createdFor
      exact endpoint_eq inNode otherInNode (Prod.mk.inj createdFor).2.symm
    unchanged := by
      intro node isNode sensor isSensor clusterName isProxied attributeName value isLast
      rcases ProxiesOf.exists_of_one (forwards.onePerSensor node isNode sensor isSensor) with
        ⟨proxy, member, createdFor⟩
      have isPlanned := proxies.planned_of_createdFor member isNode createdFor
      rw [← (createdFor_of_planned isPlanned).1]
      exact forwards.lastValues node isNode sensor isSensor proxy member createdFor clusterName
        isProxied attributeName value isLast }

theorem forwards_of_forwardable
    (forwardable : Forwardable registry commissioned callbacks initialAttributes) :
    ForwardsSensors registry (start uniqueId initialAttributes firedAt) commissioned
      callbacks := by
  have proxies := proxiesOf_afterCallbacks registry uniqueId initialAttributes firedAt
    commissioned callbacks
  exact {
    onePerSensor := by
      intro node isNode sensor isSensor
      rcases planned_of_reached isSensor (forwardable.reached node isNode sensor isSensor) with
        ⟨proxy, isPlanned, createdFor⟩
      rw [← createdFor]
      exact proxies.one_of_mem (proxies.all forwardable.oneDirect node isNode proxy isPlanned)
    distinctIds := by
      intro first member second otherMember different same
      exact different (congrArg ProxyEndpoint.createdFor (proxies.proxy_eq member otherMember same))
    lastValues := by
      intro node isNode sensor isSensor proxy member createdFor clusterName isProxied
        attributeName value isLast
      have isPlanned := proxies.planned_of_createdFor member isNode createdFor
      rw [(createdFor_of_planned isPlanned).1]
      exact forwardable.unchanged node isNode sensor isSensor clusterName isProxied
        attributeName value isLast }

end Forwarding

/-- The broker forwards its sensors exactly when they are forwardable. -/
theorem forwardsSensors_iff (registry : Nat → Option String) (uniqueId : String)
    (initialAttributes : String → String → Option Rat) (firedAt : AggregateInterval → Int)
    (commissioned : CommissionedNodes) (callbacks : List Callback) :
    ForwardsSensors registry (start uniqueId initialAttributes firedAt) commissioned callbacks ↔
      Forwardable registry commissioned callbacks initialAttributes :=
  ⟨forwardable_of_forwards, forwards_of_forwardable⟩

def oneSensorNode : CommissionedNode where
  nodeId := 1
  advertisedName := "sensor"
  endpoints := [
    { number := 0, clusters := ["Descriptor"], parent := none },
    { number := 1, clusters := ["TemperatureMeasurement"], parent := some 0 }]
  distinctNumbers := by decide
  rootParent := by decide

def oneSensor : CommissionedNodes where
  nodes := [oneSensorNode]
  distinctIds := List.nodup_singleton _

def oneCallback : Callback where
  nodeId := 1
  change := {
    clusterId := 0x402
    endpointId := 1
    attributeName := "measuredValue"
    value := 2000 }
  timestamp := 5000

theorem oneCallback_not_forwarded :
    ¬ForwardsSensors aggregatedClusters (start "vmb" (fun _ _ => none) fun _ => 0) oneSensor
      [oneCallback] := by
  intro forwards
  have initial := (forwardable_of_forwards forwards).unchanged oneSensorNode
    (List.mem_singleton_self _)
    { number := 1, clusters := ["TemperatureMeasurement"], parent := some 0 } (by decide)
    "TemperatureMeasurement" (by decide) "measuredValue" 2000 (by decide)
  cases initial

end VirtualMatterBrokerNode

end MatterJs.Broker
