import Mathlib.Tactic.Linarith
import MatterJs.Broker.Aggregation

/-! What the operations do to the sources of an average and to the total of their
running sums. -/

namespace MatterJs.Broker

open General OrderedMap

namespace MoreDatapoint

theorem sum_setSum (datapoint : MoreDatapoint) (length other : AggregateInterval) (sum : Rat) :
    (datapoint.setSum length sum).sum other =
      if other = length then sum else datapoint.sum other := by
  by_cases same : other = length
  · simp [MoreDatapoint.sum, setSum, same]
  · simp [MoreDatapoint.sum, setSum, same]

@[simp] theorem latest_setSum (datapoint : MoreDatapoint) (length : AggregateInterval)
    (sum : Rat) : (datapoint.setSum length sum).latest = datapoint.latest := rfl

theorem sum_withLatest (datapoint : Option MoreDatapoint) (latest : Datapoint)
    (length : AggregateInterval) :
    (withLatest datapoint latest).sum length =
      datapoint.elim 0 fun datapoint => datapoint.sum length := by
  cases datapoint <;> rfl

end MoreDatapoint

namespace EndpointDataRecord

variable (data : EndpointDataRecord)

variable (clusterPlusAttribute : String)

def entry (endpointId : Nat) : Option MoreDatapoint :=
  (data.get clusterPlusAttribute).bind fun endpoints => endpoints.get endpointId

/-- The sources: every endpoint with an entry, under each cluster's attribute. -/
def sources : List (String × Nat) :=
  data.entries.flatMap fun endpoints =>
    endpoints.2.keys.map fun endpointId => (endpoints.1, endpointId)

def total (intervalSec : AggregateInterval) : Rat :=
  (data.values.map fun endpoints =>
    (endpoints.values.map fun datapoint => datapoint.sum intervalSec).sum).sum

/-- Every key is an aggregated attribute. -/
def Tracked : Prop :=
  ∀ clusterPlusAttribute ∈ data.keys, clusterPlusAttribute ∈ aggregatedAttributes

theorem mem_sources_iff (endpointId : Nat) :
    (clusterPlusAttribute, endpointId) ∈ data.sources ↔
      ∃ datapoint, data.entry clusterPlusAttribute endpointId = some datapoint := by
  simp only [sources, List.mem_flatMap, List.mem_map, Prod.mk.injEq, entry, Option.bind_eq_some_iff]
  constructor
  · intro source
    rcases source with ⟨⟨key, endpoints⟩, found, _, member, rfl, rfl⟩
    rcases (endpoints.mem_keys_iff _).mp member with ⟨datapoint, read⟩
    exact ⟨datapoint, endpoints, (data.mem_entries_iff _ _).mp found, read⟩
  · intro read
    rcases read with ⟨datapoint, endpoints, found, read⟩
    exact ⟨(clusterPlusAttribute, endpoints), (data.mem_entries_iff _ _).mpr found,
      endpointId, (endpoints.mem_keys_iff _).mpr ⟨datapoint, read⟩, rfl, rfl⟩

theorem nodup_sources : data.sources.Nodup := by
  rw [sources, List.nodup_flatMap]
  constructor
  · intro endpoints _
    apply endpoints.2.nodupKeys.map
    intro first second same
    exact (Prod.mk.inj same).2
  · have distinctKeys : data.entries.Pairwise fun first second => first.1 ≠ second.1 :=
      List.pairwise_map.mp data.nodupKeys
    apply distinctKeys.imp
    intro first second different source inFirst inSecond
    rcases List.mem_map.mp inFirst with ⟨_, _, rfl⟩
    rcases List.mem_map.mp inSecond with ⟨_, _, same⟩
    exact different (Prod.mk.inj same).1.symm

/-- The weight of an entry that may be missing. -/
theorem total_set (endpoints : OrderedMap Nat MoreDatapoint) (intervalSec : AggregateInterval) :
    total (data.set clusterPlusAttribute endpoints) intervalSec +
        (((data.get clusterPlusAttribute).getD ∅).values.map
          fun datapoint => datapoint.sum intervalSec).sum =
      data.total intervalSec +
        (endpoints.values.map fun datapoint => datapoint.sum intervalSec).sum := by
  have changed := sum_values_set
    (fun endpoints : OrderedMap Nat MoreDatapoint =>
      (endpoints.values.map fun datapoint => datapoint.sum intervalSec).sum)
    data clusterPlusAttribute endpoints
  cases read : data.get clusterPlusAttribute with
  | none => rw [read] at changed; exact changed
  | some old => rw [read] at changed; exact changed

theorem entry_eq_get (endpointId : Nat) :
    ((data.get clusterPlusAttribute).getD ∅).get endpointId =
      data.entry clusterPlusAttribute endpointId := by
  rw [entry]
  cases data.get clusterPlusAttribute <;> rfl

end EndpointDataRecord

open EndpointDataRecord

namespace Aggregation

/-! ## A tracked value -/

section Track

theorem sum_addValue (lastIntervalFired : AggregateInterval → Int)
    (datapoint : Option MoreDatapoint) (value : Rat) (timestamp : Int)
    (length : AggregateInterval) :
    (addValue lastIntervalFired datapoint value timestamp).sum length =
      (datapoint.elim 0 fun datapoint => datapoint.sum length) +
        area value timestamp (lastIntervalFired length) := by
  cases length <;>
    simp [addValue, aggregateIntervals, MoreDatapoint.sum_setSum, MoreDatapoint.sum_withLatest]

theorem latest_addValue (lastIntervalFired : AggregateInterval → Int)
    (datapoint : Option MoreDatapoint) (value : Rat) (timestamp : Int) :
    (addValue lastIntervalFired datapoint value timestamp).latest =
      { value := value, timestamp := timestamp } := rfl

variable (aggregation : Aggregation) (clusterPlusAttribute : String) (endpointId : Nat)
  (value : Rat) (timestamp : Int)

theorem entry_track (otherAttribute : String) (otherEndpoint : Nat) :
    (aggregation.track clusterPlusAttribute endpointId value timestamp).aggregatorData.entry
        otherAttribute otherEndpoint =
      if (otherAttribute, otherEndpoint) = (clusterPlusAttribute, endpointId) then
        some (addValue aggregation.lastIntervalFired
          (aggregation.aggregatorData.entry clusterPlusAttribute endpointId) value timestamp)
      else aggregation.aggregatorData.entry otherAttribute otherEndpoint := by
  rw [track, entry_eq_get, entry, get_set]
  by_cases sameAttribute : otherAttribute = clusterPlusAttribute
  · by_cases sameEndpoint : otherEndpoint = endpointId
    · simp [sameAttribute, sameEndpoint]
    · simp only [sameAttribute, if_true, Prod.mk.injEq, sameEndpoint, and_false, if_false,
        Option.bind_some]
      rw [get_set_of_ne _ _ sameEndpoint, entry_eq_get]
  · simp only [sameAttribute, Prod.mk.injEq]
    rfl

theorem total_track (intervalSec : AggregateInterval) :
    (aggregation.track clusterPlusAttribute endpointId value timestamp).aggregatorData.total
        intervalSec =
      aggregation.aggregatorData.total intervalSec +
        area value timestamp (aggregation.lastIntervalFired intervalSec) := by
  let endpoints := (aggregation.aggregatorData.get clusterPlusAttribute).getD ∅
  let datapoint :=
    addValue aggregation.lastIntervalFired (endpoints.get endpointId) value timestamp
  have outer := total_set aggregation.aggregatorData clusterPlusAttribute
    (endpoints.set endpointId datapoint) intervalSec
  have inner := sum_values_set (fun datapoint => datapoint.sum intervalSec)
    endpoints endpointId datapoint
  have added : datapoint.sum intervalSec =
      ((endpoints.get endpointId).elim 0 fun datapoint => datapoint.sum intervalSec) +
        area value timestamp (aggregation.lastIntervalFired intervalSec) :=
    sum_addValue _ _ value timestamp intervalSec
  change total (aggregation.aggregatorData.set clusterPlusAttribute
    (endpoints.set endpointId datapoint)) intervalSec = _
  linarith only [outer, inner, added]

theorem tracked_track (tracked : aggregation.aggregatorData.Tracked)
    (aggregated : clusterPlusAttribute ∈ aggregatedAttributes) :
    (aggregation.track clusterPlusAttribute endpointId value
      timestamp).aggregatorData.Tracked := by
  intro other member
  rcases (mem_keys_set _ _ _ _).mp member with same | member
  · rw [same]
    exact aggregated
  · exact tracked other member

end Track

section Reset

variable (data : EndpointDataRecord) (intervalSec : AggregateInterval)

theorem entry_resetSums (clusterPlusAttribute : String) (endpointId : Nat) :
    (resetSums data intervalSec).entry clusterPlusAttribute endpointId =
      (data.entry clusterPlusAttribute endpointId).map
        fun datapoint => datapoint.setSum intervalSec 0 := by
  rw [entry, resetSums, get_mapValues, entry]
  cases data.get clusterPlusAttribute with
  | none => rfl
  | some endpoints => exact get_mapValues _ endpoints endpointId

theorem total_resetSums (other : AggregateInterval) :
    (resetSums data intervalSec).total other =
      if other = intervalSec then 0 else data.total other := by
  have weight : (fun datapoint : MoreDatapoint =>
        (datapoint.setSum intervalSec 0).sum other) =
      fun datapoint => if other = intervalSec then 0 else datapoint.sum other := by
    funext datapoint
    exact datapoint.sum_setSum intervalSec other 0
  rw [total, resetSums]
  simp only [values_mapValues, List.map_map, Function.comp_def, weight]
  by_cases same : other = intervalSec
  · simp [same]
  · simp [same, total]

theorem tracked_resetSums (tracked : data.Tracked) :
    (resetSums data intervalSec).Tracked := by
  rw [Tracked, resetSums, keys_mapValues]
  exact tracked

end Reset

/-! ## What a recalculation reads -/

section Recalculate

variable {data : EndpointDataRecord} (intervalSec : AggregateInterval)

theorem capitalize_rawAttribute {clusterPlusAttribute : String}
    (aggregated : clusterPlusAttribute ∈ aggregatedAttributes) :
    (rawAttribute clusterPlusAttribute).capitalize = "MeasuredValue" := by
  have every : ∀ key ∈ aggregatedAttributes,
      (rawAttribute key).capitalize = "MeasuredValue" := by decide
  exact every clusterPlusAttribute aggregated

def allSums (data : EndpointDataRecord) : List EndpointSum :=
  data.entries.flatMap fun endpoints => endpointSums intervalSec endpoints.2

theorem foldl_group_of_tracked {entries : List (String × OrderedMap Nat MoreDatapoint)}
    (tracked : ∀ entry ∈ entries, entry.1 ∈ aggregatedAttributes)
    {grouped : OrderedMap String (List EndpointSum)} {sums : List EndpointSum}
    (started : grouped.entries = [("MeasuredValue", sums)]) :
    (entries.foldl (groupEntry intervalSec) grouped).entries =
      [("MeasuredValue",
        sums ++ entries.flatMap fun endpoints => endpointSums intervalSec endpoints.2)] := by
  induction entries generalizing grouped sums with
  | nil => simpa using started
  | cons entry entries induction =>
    have measured := capitalize_rawAttribute (tracked entry (List.mem_cons_self ..))
    have next : (groupEntry intervalSec grouped entry).entries =
        [("MeasuredValue", sums ++ endpointSums intervalSec entry.2)] := by
      rw [groupEntry, measured, get_of_singleton started]
      exact entries_set_of_singleton started _
    rw [List.foldl_cons,
      induction (fun later member => tracked later (List.mem_cons_of_mem _ member)) next,
      List.flatMap_cons, List.append_assoc]

/-- All sources are grouped under one attribute. -/
theorem entries_dataFilteredByInterval (tracked : data.Tracked) :
    (dataFilteredByInterval data intervalSec).entries =
      [("MeasuredValue",
        if data.entries = [] then [{ sum := 0, endpointId := "unused" }]
        else allSums intervalSec data)] := by
  have trackedEntries : ∀ entry ∈ data.entries, entry.1 ∈ aggregatedAttributes := by
    intro entry member
    exact tracked entry.1 (List.mem_map_of_mem member)
  rw [dataFilteredByInterval, groupByAttribute, allSums]
  cases every : data.entries with
  | nil => rfl
  | cons entry entries =>
    rw [every] at trackedEntries
    have measured := capitalize_rawAttribute (trackedEntries entry (List.mem_cons_self ..))
    have first : (groupEntry intervalSec ∅ entry).entries =
        [("MeasuredValue", endpointSums intervalSec entry.2)] := by
      rw [groupEntry, measured]
      rfl
    have grouped := foldl_group_of_tracked intervalSec
      (fun later member => trackedEntries later (List.mem_cons_of_mem _ member)) first
    rw [List.foldl_cons]
    rw [get_of_singleton grouped]
    exact entries_set_of_singleton grouped _

theorem length_allSums : (allSums intervalSec data).length = data.sources.length := by
  rw [allSums, sources]
  simp [endpointSums, keys]

theorem sum_allSums :
    ((allSums intervalSec data).map EndpointSum.sum).sum = data.total intervalSec := by
  rw [allSums, total, List.flatMap_def]
  simp [endpointSums, values, Function.comp_def]

theorem average_eq (endpoints : List EndpointSum) :
    average intervalSec endpoints =
      (endpoints.map EndpointSum.sum).sum / endpoints.length / intervalSec.seconds := by
  rw [average, List.sum_eq_foldl]

end Recalculate

end Aggregation

end MatterJs.Broker
