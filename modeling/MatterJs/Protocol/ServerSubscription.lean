import MatterJs.Foundation.OrderedMap
import MatterJs.General.MatterError

/-! The server side of a subscription: the changes and events that wait to be sent, the
timers that send them, and what becomes of them when sending fails. -/

namespace MatterJs.Protocol

open General

universe u

structure ElementPath where
  nodeId : Option Nat
  endpointId : Nat
  clusterId : Nat
  elementId : Nat
  deriving DecidableEq

/-- The parts that `genericElementPathToId` writes into an id. -/
structure ElementPathId where
  endpointId : Nat
  clusterId : Nat
  elementId : Nat
  deriving DecidableEq

def genericElementPathToId (path : ElementPath) : ElementPathId where
  endpointId := path.endpointId
  clusterId := path.clusterId
  elementId := path.elementId

structure EventPath extends ElementPath where
  isUrgent : Bool
  deriving DecidableEq

structure SubscribedAttribute where
  /-- `attribute instanceof FabricScopedAttributeServer` -/
  isFabricScoped : Bool
  hasFabricSensitiveData : Bool
  deriving DecidableEq

structure SubscribedEvent where
  /-- `event instanceof FabricSensitiveEventServer` -/
  isFabricSensitive : Bool
  deriving DecidableEq

structure NumberedOccurrence (Value : Type u) where
  number : Nat
  /-- The `fabricIndex` of a payload that has one. -/
  fabricIndex : Option Nat
  payload : Value

/-- An attribute value in the queue. `change` is the number of the change it is for. -/
structure AttributePathWithValueVersion (Value : Type u) where
  path : ElementPath
  attributeServer : SubscribedAttribute
  version : Nat
  value : Value
  change : Nat

/-- An event in the queue. `change` is the number of its trigger. -/
structure EventPathWithEventData (Value : Type u) where
  path : EventPath
  eventServer : SubscribedEvent
  data : NumberedOccurrence Value
  change : Nat

namespace AttributePathWithValueVersion

variable {Value : Type u}

def pathId (update : AttributePathWithValueVersion Value) : ElementPathId :=
  genericElementPathToId update.path

def clusterId (update : AttributePathWithValueVersion Value) : Option Nat × Nat × Nat :=
  (update.path.nodeId, update.path.endpointId, update.path.clusterId)

end AttributePathWithValueVersion

/-- Where `#currentUpdatePromise` stands. -/
inductive CurrentUpdate (Value : Type u) where
  | none
  | sending (attributes : List (AttributePathWithValueVersion Value))
      (events : List (EventPathWithEventData Value))
  /-- The update is over, and its promise has not been taken away yet. -/
  | ended
  /-- The update closes the subscription, which waits for the update. -/
  | waitsForItself

structure ServerSubscription (Value : Type u) where
  fabricIndex : Option Nat
  isFabricFiltered : Bool
  minIntervalFloorMs : Nat
  attributeListeners : OrderedMap ElementPathId SubscribedAttribute
  eventListeners : OrderedMap ElementPathId SubscribedEvent
  outstandingAttributeUpdates : OrderedMap ElementPathId (AttributePathWithValueVersion Value)
  outstandingEventUpdates : List (EventPathWithEventData Value)
  lastUpdateTimeMs : Nat
  updateTimerRunning : Bool
  sendDelayTimerRunning : Bool
  sendUpdatesActivated : Bool
  sendNextUpdateImmediately : Bool
  sendUpdateErrorCounter : Nat
  currentUpdate : CurrentUpdate Value
  isClosed : Bool
  isCanceledByPeer : Bool

inductive SendOutcome where
  | acknowledged
  /-- A `StatusResponseError`, with whether its code is `InvalidSubscription` or `Failure`. -/
  | statusResponse (isCanceled : Bool)
  /-- A `NoResponseTimeoutError`, `NetworkError` or `NoChannelError`. -/
  | networkError
  | otherError
  deriving DecidableEq

namespace ServerSubscription

variable {Value : Type u}

def establish (fabricIndex : Option Nat) (isFabricFiltered : Bool) (minIntervalFloorMs : Nat)
    (attributeListeners : OrderedMap ElementPathId SubscribedAttribute)
    (eventListeners : OrderedMap ElementPathId SubscribedEvent) (now : Nat) :
    ServerSubscription Value where
  fabricIndex := fabricIndex
  isFabricFiltered := isFabricFiltered
  minIntervalFloorMs := minIntervalFloorMs
  attributeListeners := attributeListeners
  eventListeners := eventListeners
  outstandingAttributeUpdates := {}
  outstandingEventUpdates := []
  lastUpdateTimeMs := now
  updateTimerRunning := false
  sendDelayTimerRunning := false
  sendUpdatesActivated := false
  sendNextUpdateImmediately := false
  sendUpdateErrorCounter := 0
  currentUpdate := .none
  isClosed := false
  isCanceledByPeer := false

variable (now : Nat) (subscription : ServerSubscription Value)

/-- `#prepareDataUpdate`: where the update timer is started again, for the rest of the
minimum interval or for the send interval. -/
def prepareDataUpdate : ServerSubscription Value :=
  if subscription.sendDelayTimerRunning || subscription.isClosed then subscription
  else if !subscription.sendUpdatesActivated then subscription
  else if now < subscription.lastUpdateTimeMs + subscription.minIntervalFloorMs then
    { subscription with updateTimerRunning := true }
  else { subscription with sendDelayTimerRunning := true, updateTimerRunning := true }

def queueAttribute (update : AttributePathWithValueVersion Value) : ServerSubscription Value :=
  { subscription with
    outstandingAttributeUpdates :=
      subscription.outstandingAttributeUpdates.set update.pathId update }

/-- `attributeChangeHandler`. `read` is what `context.readAttribute` gives at this moment. -/
def attributeChangeHandler (read : Except MatterError Value) (path : ElementPath) (version : Nat)
    (value : Value) (change now : Nat) : Except MatterError (ServerSubscription Value) :=
  match subscription.attributeListeners.get (genericElementPathToId path) with
  | none => .ok subscription
  | some attributeServer =>
    let update (value : Value) : AttributePathWithValueVersion Value :=
      { path, attributeServer, version, value, change }
    let queue (subscription : ServerSubscription Value) (value : Value) :=
      (subscription.queueAttribute (update value)).prepareDataUpdate now
    -- the value that was read is queued, and then the one that was passed all the same
    if attributeServer.isFabricScoped then
      match read with
      | .error error => .error error
      | .ok readValue => .ok (queue (queue subscription readValue) value)
    else .ok (queue subscription value)

def isOfOtherFabric (eventServer : SubscribedEvent) (newEvent : NumberedOccurrence Value) : Bool :=
  eventServer.isFabricSensitive && newEvent.fabricIndex.isSome &&
    newEvent.fabricIndex ≠ subscription.fabricIndex

def eventChangeListener (path : EventPath) (newEvent : NumberedOccurrence Value) (change now : Nat) :
    ServerSubscription Value :=
  match subscription.eventListeners.get (genericElementPathToId path.toElementPath) with
  | none => subscription
  | some eventServer =>
    if subscription.isOfOtherFabric eventServer newEvent then subscription
    else
      let queued := { subscription with
        outstandingEventUpdates := subscription.outstandingEventUpdates ++
          [{ path, eventServer, data := newEvent, change }] }
      if path.isUrgent then queued.prepareDataUpdate now else queued

def groupByCluster (updates : List (AttributePathWithValueVersion Value)) :
    OrderedMap (Option Nat × Nat × Nat) (List (AttributePathWithValueVersion Value)) :=
  updates.foldl (fun groups update =>
    groups.set update.clusterId ((groups.get update.clusterId).getD [] ++ [update])) {}

def attributeUpdatesToSend : List (AttributePathWithValueVersion Value) :=
  (groupByCluster subscription.outstandingAttributeUpdates.values).values.flatMap fun data =>
    data.mergeSort fun first second => first.version ≤ second.version

/-- The start of `#sendUpdate`, up to where the message is sent. -/
def sendUpdate (onlyWithData : Bool) (subscription : ServerSubscription Value) :
    ServerSubscription Value :=
  let attributes := subscription.attributeUpdatesToSend
  let events := subscription.outstandingEventUpdates
  let cleared := { subscription with
    outstandingAttributeUpdates := {}
    outstandingEventUpdates := [] }
  if onlyWithData && attributes.isEmpty && events.isEmpty then
    { cleared with currentUpdate := .ended }
  else
    { cleared with lastUpdateTimeMs := now, currentUpdate := .sending attributes events }

def triggerSendUpdate : ServerSubscription Value :=
  match subscription.currentUpdate with
  | .none => subscription.sendUpdate now false
  | _ => { subscription with sendNextUpdateImmediately := true }

def destroy : ServerSubscription Value :=
  { subscription with
    sendUpdatesActivated := false
    attributeListeners := {}
    eventListeners := {}
    updateTimerRunning := false
    sendDelayTimerRunning := false
    isClosed := true }

/-- The end of `#sendUpdate`: a delayed update is sent at once. -/
def sendDelayedUpdate : ServerSubscription Value :=
  if subscription.sendNextUpdateImmediately then
    { subscription with sendNextUpdateImmediately := false }.sendUpdate now true
  else { subscription with currentUpdate := .ended }

/-- Fills what was not sent back in the queue, before what is new there. -/
def refill (attributes : List (AttributePathWithValueVersion Value))
    (events : List (EventPathWithEventData Value)) : ServerSubscription Value :=
  { subscription with
    outstandingAttributeUpdates :=
      (attributes ++ subscription.outstandingAttributeUpdates.values).foldl
        (fun updates update => updates.set update.pathId update) {}
    outstandingEventUpdates := events ++ subscription.outstandingEventUpdates }

/-- The `catch` of `#sendUpdate`. -/
def sendFailed (isNetworkError : Bool) (attributes : List (AttributePathWithValueVersion Value))
    (events : List (EventPathWithEventData Value)) (subscription : ServerSubscription Value) :
    ServerSubscription Value :=
  if subscription.isClosed then { subscription with currentUpdate := .ended }
  else
    let failed := { subscription with
      sendUpdateErrorCounter := subscription.sendUpdateErrorCounter + 1 }
    if failed.sendUpdateErrorCounter ≤ 2 then
      (failed.refill attributes events).sendDelayedUpdate now
    else
      let canceled := { failed with
        sendNextUpdateImmediately := false
        currentUpdate := .ended }
      if isNetworkError then { canceled with isCanceledByPeer := true }.destroy
      else canceled

/-- Where sending the message was successful, or an error did not come through. -/
def sendSucceeded : ServerSubscription Value :=
  { subscription with sendUpdateErrorCounter := 0 }.sendDelayedUpdate now

/-- `#sendUpdate` after its message, when one is being sent. -/
def sendEnds (outcome : SendOutcome) (subscription : ServerSubscription Value) :
    ServerSubscription Value :=
  match subscription.currentUpdate with
  | .sending attributes events =>
    match outcome with
    | .acknowledged => subscription.sendSucceeded now
    | .statusResponse isCanceled =>
      let canceled := { subscription with
        isCanceledByPeer := subscription.isCanceledByPeer || isCanceled }
      if subscription.isClosed then canceled.sendSucceeded now
      else { canceled.destroy with currentUpdate := .waitsForItself }
    | .networkError => subscription.sendFailed now true attributes events
    | .otherError => subscription.sendFailed now false attributes events
  | _ => subscription

def hasOutstanding : Bool :=
  !subscription.outstandingAttributeUpdates.values.isEmpty ||
    !subscription.outstandingEventUpdates.isEmpty

def activate : ServerSubscription Value :=
  let activated := { subscription with sendUpdatesActivated := true }
  let triggered :=
    if activated.hasOutstanding then activated.triggerSendUpdate now else activated
  { triggered with updateTimerRunning := true }

/-- `#flush`, up to where it waits. -/
def flush : ServerSubscription Value :=
  let stopped := { subscription with sendDelayTimerRunning := false }
  if stopped.hasOutstanding then stopped.triggerSendUpdate now else stopped

def close (graceful cancelledByPeer : Bool) (subscription : ServerSubscription Value) :
    ServerSubscription Value :=
  if subscription.isClosed then subscription
  else
    let destroyed := { subscription with
      isCanceledByPeer := subscription.isCanceledByPeer || cancelledByPeer }.destroy
    if graceful then destroyed.flush now else destroyed

inductive Event (Value : Type u) where
  | activate (now : Nat)
  /-- An attribute server calls its listener; `read` is what the subscriber would read. -/
  | attributeChange (path : ElementPath) (version : Nat) (value : Value)
      (read : Except MatterError Value) (now : Nat)
  | eventTriggered (path : EventPath) (newEvent : NumberedOccurrence Value) (now : Nat)
  | updateTimerFires (now : Nat)
  | sendDelayTimerFires (now : Nat)
  | sendEnds (outcome : SendOutcome) (now : Nat)
  /-- `#currentUpdatePromise` is taken away. -/
  | updateSettles
  | close (graceful cancelledByPeer : Bool) (now : Nat)

/-- The step of an event, which is the `change`th one. -/
def next (change : Nat) (subscription : ServerSubscription Value) :
    Event Value → ServerSubscription Value
  | .activate now => subscription.activate now
  | .attributeChange path version value read now =>
    match subscription.attributeChangeHandler read path version value change now with
    | .ok after => after
    | .error _ => subscription
  | .eventTriggered path newEvent now =>
    subscription.eventChangeListener path newEvent change now
  | .updateTimerFires now =>
    if subscription.updateTimerRunning then
      { subscription with updateTimerRunning := false }.prepareDataUpdate now
    else subscription
  | .sendDelayTimerFires now =>
    if subscription.sendDelayTimerRunning then
      { subscription with sendDelayTimerRunning := false }.triggerSendUpdate now
    else subscription
  | .sendEnds outcome now => subscription.sendEnds now outcome
  | .updateSettles =>
    match subscription.currentUpdate with
    | .ended => { subscription with currentUpdate := .none }
    | _ => subscription
  | .close graceful cancelledByPeer now => subscription.close now graceful cancelledByPeer

end ServerSubscription

end MatterJs.Protocol
