import MatterJs.Broker.SourceView
import MatterJs.Foundation.DistinctCounts

/-! Whether the broker keeps its sources apart. The data of a sensor lie under its
attribute and its endpoint id, which leaves out the node. -/

namespace MatterJs.Broker

open Execution

def Report.pair (report : Report) : Nat × Nat :=
  (report.nodeId, report.endpointId)

def reportsOf (registry : Nat → Option String) (events : List AggregationEvent) :
    List Report :=
  events.filterMap (trackedReport registry)

/-- All events but the callbacks of other nodes and endpoints. -/
def AggregationEvent.own (pair : Nat × Nat) : AggregationEvent → Bool
  | .attributeChanged nodeId change _ => (nodeId, change.endpointId) = pair
  | _ => true

section Statements

variable (registry : Nat → Option String) (firedAt : AggregateInterval → Int)
  (events : List AggregationEvent)

def dataAfter : EndpointDataRecord :=
  (run (Aggregation.step registry) (Aggregation.start firedAt) events).aggregatorData

/-- The running data of every sensor that reported depend only on the events of its
own node and endpoint, whatever the other sensors of the run report. -/
def DependsOnOwnEvents : Prop :=
  ∀ report ∈ reportsOf registry events, ∀ other : List AggregationEvent,
    other.filter (AggregationEvent.own report.pair) =
      events.filter (AggregationEvent.own report.pair) →
    (∀ otherReport ∈ reportsOf registry other,
      ∃ sameSensor ∈ reportsOf registry events, sameSensor.sensor = otherReport.sensor) →
    (dataAfter registry firedAt other).entry report.source.1 report.source.2 =
      (dataAfter registry firedAt events).entry report.source.1 report.source.2

def divisor (data : EndpointDataRecord) (intervalSec : AggregateInterval) : Nat :=
  (((Aggregation.dataFilteredByInterval data intervalSec).get "MeasuredValue").getD []).length

/-- Once a sensor has reported, the aggregate is divided by the number of nodes'
endpoints that have. -/
def CountsPairs : Prop :=
  reportsOf registry events ≠ [] → ∀ intervalSec,
    divisor (dataAfter registry firedAt events) intervalSec =
      ((reportsOf registry events).map Report.pair).toFinset.card

def KeepsApart : Prop :=
  DependsOnOwnEvents registry firedAt events ∧ CountsPairs registry firedAt events

/-- Reports with one endpoint id come from the same node exactly when they are for
the same attribute. -/
def Distinguishable : Prop :=
  ∀ report ∈ reportsOf registry events, ∀ other ∈ reportsOf registry events,
    report.endpointId = other.endpointId →
      (report.clusterPlusAttribute = other.clusterPlusAttribute ↔ report.nodeId = other.nodeId)

instance : Decidable (Distinguishable registry events) :=
  inferInstanceAs (Decidable (∀ report ∈ _, ∀ other ∈ _, _ → _))

end Statements

section Runs

variable {registry : Nat → Option String} {firedAt : AggregateInterval → Int}
  {events : List AggregationEvent}

theorem reports_run (registry : Nat → Option String) (history : History)
    (events : List AggregationEvent) :
    (run (History.step registry) history events).reports =
      history.reports ++ reportsOf registry events := by
  induction events generalizing history with
  | nil => simp [reportsOf]
  | cons event events induction =>
    rw [run_cons, induction, History.step_reports, List.append_assoc]
    simp only [reportsOf, List.filterMap_cons]
    cases trackedReport registry event <;> rfl

variable {event : AggregationEvent} {report : Report}

theorem mem_reportsOf (member : event ∈ events)
    (tracked : trackedReport registry event = some report) :
    report ∈ reportsOf registry events :=
  List.mem_filterMap.mpr ⟨event, member, tracked⟩

theorem entry_filter (pair : Nat × Nat) (source : String × Nat)
    (onlyOwn : ∀ report ∈ reportsOf registry events, report.source = source → report.pair = pair) :
    (dataAfter registry firedAt (events.filter (AggregationEvent.own pair))).entry
        source.1 source.2 =
      (dataAfter registry firedAt events).entry source.1 source.2 := by
  have unchanged : ∀ view : SourceView, ∀ event ∈ events,
      AggregationEvent.own pair event = false →
        view.step registry source event = view := by
    intro view event member notOwn
    cases event with
    | attributeChanged nodeId change timestamp =>
      rw [SourceView.step]
      cases tracked : trackedReport registry (.attributeChanged nodeId change timestamp) with
      | none => rfl
      | some report =>
        have elsewhere : report.source ≠ source := by
          intro same
          have own := onlyOwn report (mem_reportsOf member tracked) same
          rcases History.trackedReport_fields tracked with ⟨sameNode, sameEndpoint, _, _⟩
          rw [Report.pair, sameNode, sameEndpoint] at own
          simp [AggregationEvent.own, own] at notOwn
        simp [if_neg elsewhere]
    | recalculateAggregatesFor intervalSec now => cases notOwn
    | write index => cases notOwn
    | writeFails index => cases notOwn
    | resume index now => cases notOwn
  rw [dataAfter, dataAfter, entry_run, entry_run, run_filter _ unchanged]

/-! ## Distinguishable sensors are kept apart -/

theorem dependsOnOwnEvents_of_distinguishable (distinguishable : Distinguishable registry events) :
    DependsOnOwnEvents registry firedAt events := by
  have onlyOwn : ∀ report ∈ reportsOf registry events,
      ∀ other ∈ reportsOf registry events, other.source = report.source →
        other.pair = report.pair := by
    intro report member other otherMember sameSource
    rcases Prod.mk.inj sameSource with ⟨sameAttribute, sameEndpoint⟩
    have sameNode :=
      (distinguishable other otherMember report member sameEndpoint).mp sameAttribute
    rw [Report.pair, Report.pair, sameNode, sameEndpoint]
  intro report member other sameOwn sameSensors
  have otherOnlyOwn : ∀ otherReport ∈ reportsOf registry other,
      otherReport.source = report.source → otherReport.pair = report.pair := by
    intro otherReport otherMember sameSource
    rcases sameSensors otherReport otherMember with ⟨twin, twinMember, sameSensor⟩
    simp only [Report.sensor, Prod.mk.injEq] at sameSensor
    have twinSource : twin.source = report.source := by
      rw [← sameSource, Report.source, Report.source, sameSensor.1, sameSensor.2.2]
    rw [← onlyOwn report member twin twinMember twinSource, Report.pair, Report.pair,
      sameSensor.2.1, sameSensor.2.2]
  rw [← entry_filter report.pair report.source otherOnlyOwn, sameOwn,
    entry_filter report.pair report.source (onlyOwn report member)]

/-- A recalculation divides by the number of entries. -/
theorem divisor_dataAfter (someReport : reportsOf registry events ≠ [])
    (intervalSec : AggregateInterval) :
    divisor (dataAfter registry firedAt events) intervalSec =
      sourceCount (reportsOf registry events) := by
  have faithful := History.faithful_run registry firedAt events
  have reports : (run (History.step registry) (History.start firedAt) events).reports =
      reportsOf registry events := reports_run registry (History.start firedAt) events
  have sources := faithful.length_sources
  have tracked := faithful.tracked
  rw [History.run_aggregation] at sources tracked
  rw [reports] at sources
  have someEntry : (dataAfter registry firedAt events).entries ≠ [] := by
    intro none
    have noSource : (dataAfter registry firedAt events).sources = [] := by
      rw [EndpointDataRecord.sources, none, List.flatMap_nil]
    rw [dataAfter] at noSource
    rw [noSource, List.length_nil, sourceCount, eq_comm, Finset.card_eq_zero,
      List.toFinset_eq_empty_iff, List.map_eq_nil_iff] at sources
    exact someReport sources
  change (dataAfter registry firedAt events).Tracked at tracked
  have entries := Aggregation.entries_dataFilteredByInterval intervalSec tracked
  rw [divisor, OrderedMap.get_of_singleton entries, Option.getD_some, if_neg someEntry,
    Aggregation.length_allSums]
  exact sources

/-! ## Sensors that share an entry are not -/

theorem exists_last (Kind : AggregationEvent → Prop) (occurs : ∃ event ∈ events, Kind event) :
    ∃ earlier event later, events = earlier ++ event :: later ∧ Kind event ∧
      ∀ other ∈ later, ¬Kind other := by
  induction events with
  | nil =>
    rcases occurs with ⟨event, member, _⟩
    cases member
  | cons first events induction =>
    by_cases again : ∃ event ∈ events, Kind event
    · rcases induction again with ⟨earlier, event, later, split, kind, isLast⟩
      exact ⟨first :: earlier, event, later, by rw [split]; rfl, kind, isLast⟩
    · rcases occurs with ⟨event, member, kind⟩
      rcases List.mem_cons.mp member with rfl | member
      · exact ⟨[], event, events, rfl, kind, fun other inLater isKind =>
          again ⟨other, inLater, isKind⟩⟩
      · exact absurd ⟨event, member, kind⟩ again

def AggregationEvent.revalue (value : Rat) : AggregationEvent → AggregationEvent
  | .attributeChanged nodeId change timestamp =>
    .attributeChanged nodeId { change with value := value } timestamp
  | event => event

theorem trackedReport_revalue (tracked : trackedReport registry event = some report) (value : Rat) :
    trackedReport registry (event.revalue value) = some { report with value := value } := by
  cases event with
  | attributeChanged nodeId change timestamp =>
    have samePath : Aggregation.clusterPlusAttribute registry { change with value := value } =
        Aggregation.clusterPlusAttribute registry change := rfl
    rw [trackedReport] at tracked
    rw [AggregationEvent.revalue, trackedReport, samePath]
    cases path : Aggregation.clusterPlusAttribute registry change with
    | error error => rw [path] at tracked; cases tracked
    | ok clusterPlusAttribute =>
      simp only [path, Option.ite_none_right_eq_some, Option.some.injEq] at tracked ⊢
      rcases tracked with ⟨aggregated, rfl⟩
      exact ⟨aggregated, rfl⟩
  | recalculateAggregatesFor intervalSec now => cases tracked
  | write index => cases tracked
  | writeFails index => cases tracked
  | resume index now => cases tracked

theorem own_of_report (tracked : trackedReport registry event = some report) (pair : Nat × Nat) :
    event.own pair = decide (report.pair = pair) := by
  cases event with
  | attributeChanged nodeId change timestamp =>
    rcases History.trackedReport_fields tracked with ⟨sameNode, sameEndpoint, _, _⟩
    rw [AggregationEvent.own, Report.pair, sameNode, sameEndpoint]
  | recalculateAggregatesFor intervalSec now => cases tracked
  | write index => cases tracked
  | writeFails index => cases tracked
  | resume index now => cases tracked

theorem latest_of_last (firedAt : AggregateInterval → Int) (earlier : List AggregationEvent)
    {later : List AggregationEvent} (tracked : trackedReport registry event = some report)
    (isLast : ∀ other ∈ later, ¬∃ otherReport,
      trackedReport registry other = some otherReport ∧ otherReport.source = report.source) :
    ((dataAfter registry firedAt (earlier ++ event :: later)).entry report.source.1
        report.source.2).map MoreDatapoint.latest =
      some { value := report.value, timestamp := report.timestamp } := by
  rw [dataAfter, entry_run, run_append, run_cons]
  change SourceView.latest _ = _
  rw [SourceView.latest_run, SourceView.latest_step_report _ tracked rfl]
  intro other inLater otherReport isReport same
  exact isLast other inLater ⟨otherReport, isReport, same⟩

theorem pair_eq_of_last {earlier later : List AggregationEvent} {last : AggregationEvent}
    {lastReport : Report} (depends : DependsOnOwnEvents registry firedAt (earlier ++ last :: later))
    (lastTracked : trackedReport registry last = some lastReport)
    (isLast : ∀ other ∈ later, ¬∃ otherReport,
      trackedReport registry other = some otherReport ∧ otherReport.source = lastReport.source)
    (member : report ∈ reportsOf registry (earlier ++ last :: later))
    (sameSource : report.source = lastReport.source) : report.pair = lastReport.pair := by
  by_contra different
  let revalued := last.revalue (lastReport.value + 1)
  have revaluedTracked : trackedReport registry revalued =
      some { lastReport with value := lastReport.value + 1 } :=
    trackedReport_revalue lastTracked _
  have notOwn : last.own report.pair = false := by
    rw [own_of_report lastTracked]
    exact decide_eq_false (Ne.symm different)
  have revaluedNotOwn : revalued.own report.pair = false := by
    rw [own_of_report revaluedTracked]
    exact decide_eq_false (Ne.symm different)
  have sameEntry := depends report member (earlier ++ revalued :: later)
    (by simp [notOwn, revaluedNotOwn])
    (by
      intro otherReport otherMember
      simp only [reportsOf, List.filterMap_append, List.filterMap_cons, revaluedTracked,
        lastTracked, List.mem_append, List.mem_cons] at otherMember ⊢
      rcases otherMember with before | rfl | after
      · exact ⟨otherReport, Or.inl before, rfl⟩
      · exact ⟨lastReport, Or.inr (Or.inl rfl), rfl⟩
      · exact ⟨otherReport, Or.inr (Or.inr after), rfl⟩)
  have latest := latest_of_last firedAt earlier lastTracked isLast
  have revaluedLatest := latest_of_last firedAt earlier revaluedTracked isLast
  rw [sameSource] at sameEntry
  change ((dataAfter registry firedAt (earlier ++ revalued :: later)).entry
    lastReport.source.1 lastReport.source.2).map MoreDatapoint.latest = _ at revaluedLatest
  rw [sameEntry, latest] at revaluedLatest
  have sameValue := congrArg Datapoint.value (Option.some.inj revaluedLatest)
  linarith only [sameValue]

theorem samePair_of_dependsOnOwnEvents (depends : DependsOnOwnEvents registry firedAt events) :
    ∀ report ∈ reportsOf registry events, ∀ other ∈ reportsOf registry events,
      report.source = other.source → report.pair = other.pair := by
  intro report member other otherMember sameSource
  rcases List.mem_filterMap.mp member with ⟨event, inEvents, tracked⟩
  rcases exists_last
      (fun event => ∃ found, trackedReport registry event = some found ∧
        found.source = report.source) ⟨event, inEvents, report, tracked, rfl⟩ with
    ⟨earlier, last, later, split, ⟨lastReport, lastTracked, lastSource⟩, isLast⟩
  rw [split] at depends member otherMember
  rw [← lastSource] at isLast
  rw [pair_eq_of_last depends lastTracked isLast member lastSource.symm,
    pair_eq_of_last depends lastTracked isLast otherMember (sameSource.symm.trans lastSource.symm)]

theorem distinguishable_of_keepsApart (keepsApart : KeepsApart registry firedAt events) :
    Distinguishable registry events := by
  have samePair := samePair_of_dependsOnOwnEvents keepsApart.1
  have sameSource : ∀ report ∈ reportsOf registry events,
      ∀ other ∈ reportsOf registry events, report.pair = other.pair →
        report.source = other.source := by
    intro report member
    have counts := keepsApart.2 (List.ne_nil_of_mem member) .tenSeconds
    rw [divisor_dataAfter (List.ne_nil_of_mem member)] at counts
    exact (distinctCounts_eq_iff samePair).mp counts report member
  intro report member other otherMember sameEndpoint
  constructor
  · intro sameAttribute
    have pairs := samePair report member other otherMember
      (by rw [Report.source, Report.source, sameAttribute, sameEndpoint])
    exact (Prod.mk.inj pairs).1
  · intro sameNode
    have sources := sameSource report member other otherMember
      (by rw [Report.pair, Report.pair, sameNode, sameEndpoint])
    exact (Prod.mk.inj sources).1

theorem keepsApart_of_distinguishable (distinguishable : Distinguishable registry events) :
    KeepsApart registry firedAt events := by
  apply And.intro (dependsOnOwnEvents_of_distinguishable distinguishable)
  intro someReport intervalSec
  rw [divisor_dataAfter someReport, sourceCount, distinctCounts_eq_iff]
  · intro report member other otherMember samePair
    rcases Prod.mk.inj samePair with ⟨sameNode, sameEndpoint⟩
    have sameAttribute :=
      (distinguishable report member other otherMember sameEndpoint).mpr sameNode
    rw [Report.source, Report.source, sameAttribute, sameEndpoint]
  · intro report member other otherMember sameSource
    rcases Prod.mk.inj sameSource with ⟨sameAttribute, sameEndpoint⟩
    have sameNode :=
      (distinguishable report member other otherMember sameEndpoint).mp sameAttribute
    rw [Report.pair, Report.pair, sameNode, sameEndpoint]

end Runs

/-- In every run the sources are kept apart exactly when its sensors are
distinguishable. -/
theorem keepsApart_iff (registry : Nat → Option String) (firedAt : AggregateInterval → Int)
    (events : List AggregationEvent) :
    KeepsApart registry firedAt events ↔ Distinguishable registry events :=
  ⟨distinguishable_of_keepsApart, keepsApart_of_distinguishable⟩

def sameEndpointEvents : List AggregationEvent :=
  [temperatureChanged 1 2 2000 5000, temperatureChanged 3 2 2400 6000]

theorem sameEndpoint_not_keepsApart :
    ¬KeepsApart aggregatedClusters (fun _ => 0) sameEndpointEvents := by
  intro keepsApart
  have sameNode := distinguishable_of_keepsApart keepsApart
  revert sameNode
  decide

end MatterJs.Broker
