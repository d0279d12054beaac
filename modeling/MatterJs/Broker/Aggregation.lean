import Mathlib.Algebra.Order.Field.Rat
import MatterJs.Foundation.OrderedMap
import MatterJs.General.MatterError

/-! The running sums of the virtual matter broker: what an `attributeChanged`
callback adds to them, and how `recalculateAggregatesFor` publishes and resets
them.

`recalculateAggregatesFor` suspends at every `await this.#aggregator.set(...)`, so
that callbacks and other recalculations run between its parts. Values are
rationals, times are milliseconds. -/

namespace MatterJs.Broker

open General

inductive AggregateInterval where
  | tenSeconds
  | sixtySeconds
  deriving DecidableEq

def AggregateInterval.seconds : AggregateInterval → Nat
  | tenSeconds => 10
  | sixtySeconds => 60

def aggregateIntervals : List AggregateInterval := [.tenSeconds, .sixtySeconds]

def attributeList : List String := ["MeasuredValue"]

def proxiedClusters : List String := ["AggregatedStats", "TemperatureMeasurement"]

/-- The registry's entries for the proxied clusters. -/
def aggregatedClusters : Nat → Option String
  | 0x402 => some "TemperatureMeasurement"
  | 0x1337 => some "AggregatedStats"
  | _ => none

def aggregatedAttributes : List String :=
  proxiedClusters.flatMap fun cluster =>
    attributeList.map fun attributeName =>
      let attributeNameProperty := attributeName.decapitalize
      s!"{cluster}.{attributeNameProperty}"

structure Datapoint where
  value : Rat
  timestamp : Int
  deriving DecidableEq

structure RiemannData where
  sum : Rat
  deriving DecidableEq

structure MoreDatapoint where
  riemann : AggregateInterval → Option RiemannData
  latest : Datapoint

namespace MoreDatapoint

/-- `datapoint[length]?.sum || 0` -/
def sum (datapoint : MoreDatapoint) (length : AggregateInterval) : Rat :=
  (datapoint.riemann length).elim 0 RiemannData.sum

/-- `{ ...datapoint, latest }`, where the datapoint may be missing. -/
def withLatest (datapoint : Option MoreDatapoint) (latest : Datapoint) :
    MoreDatapoint where
  riemann := datapoint.elim (fun _ => none) MoreDatapoint.riemann
  latest := latest

def setSum (datapoint : MoreDatapoint) (length : AggregateInterval) (sum : Rat) :
    MoreDatapoint :=
  { datapoint with
    riemann := Function.update datapoint.riemann length (some { sum := sum }) }

end MoreDatapoint

/-- By cluster and attribute (`Cluster.attribute`), then by endpoint id. -/
abbrev EndpointDataRecord := OrderedMap String (OrderedMap Nat MoreDatapoint)

/-- `value * ((timestamp - lastIntervalFired) / 1000)` -/
def area (value : Rat) (timestamp lastIntervalFired : Int) : Rat :=
  value * (((timestamp - lastIntervalFired : Int) : Rat) / 1000)

structure EndpointSum where
  sum : Rat
  endpointId : String
  deriving DecidableEq

/-- A suspended `recalculateAggregatesFor`: the entries of `dataFilteredByInterval`
the loop is not through with, the first of which is being written, and whether
that write took effect. -/
structure Recalculation where
  intervalSec : AggregateInterval
  attributeName : String
  endpoints : List EndpointSum
  remaining : List (String × List EndpointSum)
  written : Bool
  deriving DecidableEq

structure Aggregation where
  lastIntervalFired : AggregateInterval → Int
  aggregatorData : EndpointDataRecord
  recalculations : List Recalculation
  /-- The attributes of the northbound aggregator's `aggregatedStats`. -/
  aggregatedStats : OrderedMap String Rat

namespace Aggregation

def start (firedAt : AggregateInterval → Int) : Aggregation where
  lastIntervalFired := firedAt
  aggregatorData := ∅
  recalculations := []
  aggregatedStats := ∅

structure AttributeChange where
  clusterId : Nat
  endpointId : Nat
  attributeName : String
  value : Rat
  deriving DecidableEq

/-- The entry of an endpoint after a value arrived: the latest value, and for each
length the area added to its sum. -/
def addValue (lastIntervalFired : AggregateInterval → Int)
    (datapoint : Option MoreDatapoint) (value : Rat) (timestamp : Int) : MoreDatapoint :=
  aggregateIntervals.foldl
    (fun datapoint length =>
      let previousArea := datapoint.sum length
      datapoint.setSum length (previousArea + area value timestamp (lastIntervalFired length)))
    (MoreDatapoint.withLatest datapoint { value := value, timestamp := timestamp })

variable (aggregation : Aggregation) (data : EndpointDataRecord) (intervalSec : AggregateInterval)

def track (clusterPlusAttribute : String) (endpointId : Nat) (value : Rat) (timestamp : Int) :
    Aggregation :=
  let endpoints := (aggregation.aggregatorData.get clusterPlusAttribute).getD ∅
  let datapoint :=
    addValue aggregation.lastIntervalFired (endpoints.get endpointId) value timestamp
  { aggregation with
    aggregatorData := aggregation.aggregatorData.set clusterPlusAttribute
      (endpoints.set endpointId datapoint) }

def clusterName (registry : Nat → Option String) (clusterId : Nat) :
    Except MatterError String :=
  match registry clusterId with
  | none => .error (.error s!"No such clusterID '{clusterId}'")
  | some clusterName => .ok clusterName

/-- `${cluster.name}.${attributeName}` -/
def clusterPlusAttribute (registry : Nat → Option String) (change : AttributeChange) :
    Except MatterError String := do
  let clusterName ← clusterName registry change.clusterId
  let attributeName := change.attributeName
  return s!"{clusterName}.{attributeName}"

/-- The callback up to the update of the proxy endpoint. -/
def attributeChanged (registry : Nat → Option String) (aggregation : Aggregation)
    (change : AttributeChange) (timestamp : Int) : Except MatterError Aggregation := do
  let clusterPlusAttribute ← clusterPlusAttribute registry change
  if clusterPlusAttribute ∈ aggregatedAttributes then
    return aggregation.track clusterPlusAttribute change.endpointId change.value timestamp
  else
    return aggregation

/-! ## recalculateAggregatesFor -/

/-- `key.split(".")[1]`. Every key of the data holds a dot. -/
def rawAttribute (key : String) : String :=
  (key.toList.splitOn '.')[1]?.elim "" String.ofList

def endpointSums (endpoints : OrderedMap Nat MoreDatapoint) : List EndpointSum :=
  endpoints.entries.map fun entry =>
    { sum := entry.2.sum intervalSec, endpointId := toString entry.1 }

/-- The sums of a key's endpoints join those of the same attribute. -/
def groupEntry (grouped : OrderedMap String (List EndpointSum))
    (entry : String × OrderedMap Nat MoreDatapoint) : OrderedMap String (List EndpointSum) :=
  let attributeName := (rawAttribute entry.1).capitalize
  let sums := (grouped.get attributeName).getD []
  grouped.set attributeName (sums ++ endpointSums intervalSec entry.2)

def groupByAttribute : OrderedMap String (List EndpointSum) :=
  data.entries.foldl (groupEntry intervalSec) ∅

def dataFilteredByInterval : OrderedMap String (List EndpointSum) :=
  let grouped := groupByAttribute data intervalSec
  grouped.set "MeasuredValue"
    ((grouped.get "MeasuredValue").getD [{ sum := 0, endpointId := "unused" }])

def average (endpoints : List EndpointSum) : Rat :=
  let sumOfSums := (endpoints.map EndpointSum.sum).foldl (· + ·) 0
  sumOfSums / endpoints.length / intervalSec.seconds

/-- Back to 0 for every endpoint of every attribute. -/
def resetSums : EndpointDataRecord :=
  data.mapValues fun endpoints =>
    endpoints.mapValues fun datapoint => datapoint.setSum intervalSec 0

def resetInterval (now : Int) : Aggregation :=
  { aggregation with
    lastIntervalFired := Function.update aggregation.lastIntervalFired intervalSec now
    aggregatorData := resetSums aggregation.aggregatorData intervalSec }

/-- The loop that writes the averages, from the entries that are left. It suspends
with the first of them, and resets the interval when there is none. -/
def writeAverages (now : Int) :
    List (String × List EndpointSum) → Aggregation × Option Recalculation
  | [] => (aggregation.resetInterval intervalSec now, none)
  | (attributeName, endpoints) :: remaining =>
    (aggregation, some {
      intervalSec := intervalSec
      attributeName := attributeName
      endpoints := endpoints
      remaining := remaining
      written := false })

/-- Up to the first `await`. -/
def recalculateAggregatesFor (now : Int) : Aggregation :=
  let entries := (dataFilteredByInterval aggregation.aggregatorData intervalSec).entries
  let (aggregation, suspended) := aggregation.writeAverages intervalSec now entries
  { aggregation with
    recalculations := aggregation.recalculations ++ suspended.toList }

def write (recalculation : Recalculation) : Aggregation :=
  let attributeName := recalculation.attributeName
  let seconds := recalculation.intervalSec.seconds
  { aggregation with
    aggregatedStats := aggregation.aggregatedStats.set s!"average{attributeName}{seconds}"
      (average recalculation.intervalSec recalculation.endpoints) }

end Aggregation

/-- What happens to the broker's data, in any order: an `attributeChanged` callback
of a node, the timer of a length, and for the suspended recalculation at an index
that its write takes effect, that it fails, and that it goes on after it. -/
inductive AggregationEvent where
  | attributeChanged (nodeId : Nat) (change : Aggregation.AttributeChange)
      (timestamp : Int)
  | recalculateAggregatesFor (intervalSec : AggregateInterval) (now : Int)
  | write (index : Nat)
  | writeFails (index : Nat)
  | resume (index : Nat) (now : Int)
  deriving DecidableEq

namespace Aggregation

/-- A recalculation goes on behind its `await`. -/
def resume (aggregation : Aggregation) (index : Nat) (recalculation : Recalculation)
    (now : Int) : Aggregation :=
  let others := { aggregation with
    recalculations := aggregation.recalculations.eraseIdx index }
  let (next, suspended) :=
    others.writeAverages recalculation.intervalSec now recalculation.remaining
  { next with
    recalculations := next.recalculations ++ suspended.toList }

def step (registry : Nat → Option String) (aggregation : Aggregation) :
    AggregationEvent → Aggregation
  | .attributeChanged _ change timestamp =>
    match aggregation.attributeChanged registry change timestamp with
    | .ok changed => changed
    | .error _ => aggregation
  | .recalculateAggregatesFor intervalSec now =>
    aggregation.recalculateAggregatesFor intervalSec now
  | .write index =>
    match aggregation.recalculations[index]? with
    | some recalculation =>
      if recalculation.written then aggregation
      else
        { aggregation.write recalculation with
          recalculations :=
            aggregation.recalculations.set index { recalculation with written := true } }
    | none => aggregation
  | .writeFails index =>
    match aggregation.recalculations[index]? with
    | some recalculation =>
      if recalculation.written then aggregation
      else
        { aggregation with
          recalculations := aggregation.recalculations.eraseIdx index }
    | none => aggregation
  | .resume index now =>
    match aggregation.recalculations[index]? with
    | some recalculation =>
      if recalculation.written then aggregation.resume index recalculation now
      else aggregation
    | none => aggregation

end Aggregation

end MatterJs.Broker
