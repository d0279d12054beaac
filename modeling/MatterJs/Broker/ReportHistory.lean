import Mathlib.Data.Finset.Card
import MatterJs.Broker.RunningSums
import MatterJs.Foundation.Execution
import MatterJs.Foundation.PairedLists

/-! The broker's data together with the reports that went into it. The history says
what the running sums stand for: the reports since the interval's last reset. -/

namespace MatterJs.Broker

open General Execution Aggregation EndpointDataRecord

/-- A callback for an aggregated attribute. -/
structure Report where
  clusterPlusAttribute : String
  nodeId : Nat
  endpointId : Nat
  value : Rat
  timestamp : Int
  deriving DecidableEq

namespace Report

def source (report : Report) : String × Nat :=
  (report.clusterPlusAttribute, report.endpointId)

/-- The sensor's attribute, with the node it belongs to. -/
def sensor (report : Report) : String × Nat × Nat :=
  (report.clusterPlusAttribute, report.nodeId, report.endpointId)

def area (report : Report) (lastIntervalFired : Int) : Rat :=
  Broker.area report.value report.timestamp lastIntervalFired

end Report

/-- The report a callback makes, unless it fails or its attribute is not
aggregated. -/
def trackedReport (registry : Nat → Option String) : AggregationEvent → Option Report
  | .attributeChanged nodeId change timestamp =>
    match clusterPlusAttribute registry change with
    | .ok clusterPlusAttribute =>
      if clusterPlusAttribute ∈ aggregatedAttributes then
        some {
          clusterPlusAttribute := clusterPlusAttribute
          nodeId := nodeId
          endpointId := change.endpointId
          value := change.value
          timestamp := timestamp }
      else none
    | .error _ => none
  | _ => none

def temperatureChanged (nodeId endpointId : Nat) (value : Rat) (timestamp : Int) :
    AggregationEvent :=
  .attributeChanged nodeId {
    clusterId := 0x402
    endpointId := endpointId
    attributeName := "measuredValue"
    value := value } timestamp

def sourceCount (reports : List Report) : Nat :=
  (reports.map Report.source).toFinset.card

/-- What a recalculation has read: the sums of the reports from `first` on, out of
the `count` reports there were. -/
structure Snapshot where
  intervalSec : AggregateInterval
  first : Nat
  count : Nat
  firedAt : Int
  deriving DecidableEq

namespace Snapshot

/-- The reports that made the sums which the recalculation read. -/
def interval (snapshot : Snapshot) (reports : List Report) : List Report :=
  (reports.take snapshot.count).drop snapshot.first

def average (snapshot : Snapshot) (reports : List Report) : Rat :=
  ((snapshot.interval reports).map fun report => report.area snapshot.firedAt).sum /
    sourceCount (reports.take snapshot.count) / snapshot.intervalSec.seconds

end Snapshot

structure Publication where
  snapshot : Snapshot
  attributeName : String
  average : Rat
  deriving DecidableEq

structure History where
  aggregation : Aggregation
  /-- All reports, in the order in which they arrived. -/
  reports : List Report
  /-- How many reports there were at the last reset of each length. -/
  resetAt : AggregateInterval → Nat
  /-- What the suspended recalculations have read, in their order. -/
  snapshots : List Snapshot
  published : List Publication

namespace History

def start (firedAt : AggregateInterval → Int) : History where
  aggregation := Aggregation.start firedAt
  reports := []
  resetAt := fun _ => 0
  snapshots := []
  published := []

def snapshot (history : History) (intervalSec : AggregateInterval) : Snapshot where
  intervalSec := intervalSec
  first := history.resetAt intervalSec
  count := history.reports.length
  firedAt := history.aggregation.lastIntervalFired intervalSec

/-- The broker's step with its bookkeeping. A recalculation has one attribute to
write, so that it resets the interval when it goes on after its write. -/
def step (registry : Nat → Option String) (history : History)
    (event : AggregationEvent) : History :=
  let next := { history with aggregation := history.aggregation.step registry event }
  match event with
  | .attributeChanged _ _ _ =>
    { next with reports := history.reports ++ (trackedReport registry event).toList }
  | .recalculateAggregatesFor intervalSec _ =>
    { next with snapshots := history.snapshots ++ [history.snapshot intervalSec] }
  | .write index =>
    match history.aggregation.recalculations[index]?, history.snapshots[index]? with
    | some recalculation, some snapshot =>
      if recalculation.written then next
      else
        { next with published := history.published ++ [{
            snapshot := snapshot
            attributeName := recalculation.attributeName
            average := average recalculation.intervalSec
              recalculation.endpoints }] }
    | _, _ => next
  | .writeFails index =>
    match history.aggregation.recalculations[index]? with
    | some recalculation =>
      if recalculation.written then next
      else { next with snapshots := history.snapshots.eraseIdx index }
    | none => next
  | .resume index _ =>
    match history.aggregation.recalculations[index]? with
    | some recalculation =>
      if recalculation.written then
        { next with
          snapshots := history.snapshots.eraseIdx index
          resetAt := Function.update history.resetAt recalculation.intervalSec
            history.reports.length }
      else next
    | none => next

variable (registry : Nat → Option String)

theorem step_aggregation (history : History) (event : AggregationEvent) :
    (history.step registry event).aggregation =
      history.aggregation.step registry event := by
  cases event with
  | attributeChanged nodeId change timestamp => rfl
  | recalculateAggregatesFor intervalSec now => rfl
  | write index => rw [step]; split <;> [split; skip] <;> rfl
  | writeFails index => rw [step]; split <;> [split; skip] <;> rfl
  | resume index now => rw [step]; split <;> [split; skip] <;> rfl

theorem step_reports (history : History) (event : AggregationEvent) :
    (history.step registry event).reports =
      history.reports ++ (trackedReport registry event).toList := by
  have unchanged : history.reports = history.reports ++ (none : Option Report).toList :=
    (List.append_nil _).symm
  cases event with
  | attributeChanged nodeId change timestamp => rfl
  | recalculateAggregatesFor intervalSec now => exact unchanged
  | write index => rw [step]; split <;> [split; skip] <;> exact unchanged
  | writeFails index => rw [step]; split <;> [split; skip] <;> exact unchanged
  | resume index now => rw [step]; split <;> [split; skip] <;> exact unchanged

theorem run_aggregation (firedAt : AggregateInterval → Int) (events : List AggregationEvent) :
    (run (step registry) (start firedAt) events).aggregation =
      run (Aggregation.step registry) (Aggregation.start firedAt) events := by
  let related (history : History) (aggregation : Aggregation) : Prop :=
    history.aggregation = aggregation
  have keeps (history : History) (aggregation : Aggregation) (event : AggregationEvent)
      (same : related history aggregation) :
      related (history.step registry event) (aggregation.step registry event) := by
    rw [← same]
    exact step_aggregation registry history event
  have simulated := run_simulation related id keeps
    (rfl : related (start firedAt) (Aggregation.start firedAt)) events
  rw [List.map_id] at simulated
  exact simulated

structure Reads (reports : List Report) (recalculation : Recalculation)
    (snapshot : Snapshot) : Prop where
  intervalSec : recalculation.intervalSec = snapshot.intervalSec
  attributeName : recalculation.attributeName = "MeasuredValue"
  average : average recalculation.intervalSec recalculation.endpoints = snapshot.average reports
  remaining : recalculation.remaining = []
  first_le : snapshot.first ≤ snapshot.count
  count_le : snapshot.count ≤ reports.length

/-- A published average is the one of the reports its recalculation has read. -/
structure Publishes (reports : List Report) (publication : Publication) : Prop where
  attributeName : publication.attributeName = "MeasuredValue"
  average : publication.average = publication.snapshot.average reports
  first_le : publication.snapshot.first ≤ publication.snapshot.count
  count_le : publication.snapshot.count ≤ reports.length

structure Faithful (history : History) : Prop where
  tracked : history.aggregation.aggregatorData.Tracked
  sources : ∀ clusterPlusAttribute endpointId,
    (clusterPlusAttribute, endpointId) ∈ history.aggregation.aggregatorData.sources ↔
      ∃ report ∈ history.reports, report.source = (clusterPlusAttribute, endpointId)
  total : ∀ intervalSec, history.aggregation.aggregatorData.total intervalSec =
    ((history.reports.drop (history.resetAt intervalSec)).map fun report =>
      report.area (history.aggregation.lastIntervalFired intervalSec)).sum
  resetAt_le : ∀ intervalSec, history.resetAt intervalSec ≤ history.reports.length
  recalculations : List.Forall₂ (Reads history.reports)
    history.aggregation.recalculations history.snapshots
  published : ∀ publication ∈ history.published, Publishes history.reports publication

theorem faithful_start (firedAt : AggregateInterval → Int) : (start firedAt).Faithful where
  tracked := by
    intro clusterPlusAttribute member
    cases member
  sources := by
    simp [start, Aggregation.start, sources, EmptyCollection.emptyCollection, OrderedMap.empty]
  total := by
    intro intervalSec
    rfl
  resetAt_le := fun _ => Nat.le_refl 0
  recalculations := List.Forall₂.nil
  published := by
    intro publication member
    cases member

/-! ### A callback -/

section Callback

variable {registry : Nat → Option String} {event : AggregationEvent} {report : Report}

theorem step_of_report (aggregation : Aggregation)
    (tracked : trackedReport registry event = some report) :
    aggregation.step registry event =
      aggregation.track report.clusterPlusAttribute report.endpointId report.value
        report.timestamp ∧
      report.clusterPlusAttribute ∈ aggregatedAttributes := by
  cases event with
  | attributeChanged nodeId change timestamp =>
    rw [trackedReport] at tracked
    cases path : Aggregation.clusterPlusAttribute registry change with
    | error error => rw [path] at tracked; cases tracked
    | ok clusterPlusAttribute =>
      simp only [path, Option.ite_none_right_eq_some, Option.some.injEq] at tracked
      rcases tracked with ⟨aggregated, rfl⟩
      apply And.intro _ aggregated
      simp only [Aggregation.step, Aggregation.attributeChanged, path, bind, Except.bind,
        if_pos aggregated]
      rfl
  | recalculateAggregatesFor intervalSec now => cases tracked
  | write index => cases tracked
  | writeFails index => cases tracked
  | resume index now => cases tracked

theorem trackedReport_fields {nodeId : Nat} {change : Aggregation.AttributeChange} {timestamp : Int}
    (tracked : trackedReport registry (.attributeChanged nodeId change timestamp) = some report) :
    report.nodeId = nodeId ∧ report.endpointId = change.endpointId ∧
      report.value = change.value ∧ report.timestamp = timestamp := by
  rw [trackedReport] at tracked
  cases path : clusterPlusAttribute registry change with
  | error error => rw [path] at tracked; cases tracked
  | ok clusterPlusAttribute =>
    simp only [path, Option.ite_none_right_eq_some, Option.some.injEq] at tracked
    rcases tracked with ⟨_, rfl⟩
    exact ⟨rfl, rfl, rfl, rfl⟩

theorem step_of_no_report (aggregation : Aggregation) {nodeId : Nat}
    {change : Aggregation.AttributeChange} {timestamp : Int}
    (untracked : trackedReport registry (.attributeChanged nodeId change timestamp) = none) :
    aggregation.step registry (.attributeChanged nodeId change timestamp) = aggregation := by
  rw [trackedReport] at untracked
  cases path : Aggregation.clusterPlusAttribute registry change with
  | error error =>
    simp [Aggregation.step, Aggregation.attributeChanged, path, bind, Except.bind]
  | ok clusterPlusAttribute =>
    simp only [path, ite_eq_right_iff] at untracked
    by_cases aggregated : clusterPlusAttribute ∈ aggregatedAttributes
    · cases untracked aggregated
    · simp only [Aggregation.step, Aggregation.attributeChanged, path, bind, Except.bind,
        if_neg aggregated]
      rfl

end Callback

theorem Snapshot.average_append {snapshot : Snapshot} {reports : List Report}
    (count_le : snapshot.count ≤ reports.length) (later : List Report) :
    snapshot.average (reports ++ later) = snapshot.average reports := by
  rw [Snapshot.average, Snapshot.average, Snapshot.interval, Snapshot.interval,
    List.take_append_of_le_length count_le]

theorem Reads.append {reports : List Report} {recalculation : Recalculation}
    {snapshot : Snapshot} (reads : Reads reports recalculation snapshot)
    (later : List Report) : Reads (reports ++ later) recalculation snapshot where
  intervalSec := reads.intervalSec
  attributeName := reads.attributeName
  average := by rw [reads.average, Snapshot.average_append reads.count_le]
  remaining := reads.remaining
  first_le := reads.first_le
  count_le := by
    rw [List.length_append]
    exact Nat.le_add_right_of_le reads.count_le

theorem Publishes.append {reports : List Report} {publication : Publication}
    (publishes : Publishes reports publication) (later : List Report) :
    Publishes (reports ++ later) publication where
  attributeName := publishes.attributeName
  average := by rw [publishes.average, Snapshot.average_append publishes.count_le]
  first_le := publishes.first_le
  count_le := by
    rw [List.length_append]
    exact Nat.le_add_right_of_le publishes.count_le

theorem mem_sources_track (aggregation : Aggregation) (report : Report)
    (clusterPlusAttribute : String) (endpointId : Nat) :
    (clusterPlusAttribute, endpointId) ∈
        (aggregation.track report.clusterPlusAttribute report.endpointId report.value
          report.timestamp).aggregatorData.sources ↔
      (clusterPlusAttribute, endpointId) ∈ aggregation.aggregatorData.sources ∨
        report.source = (clusterPlusAttribute, endpointId) := by
  rw [mem_sources_iff, mem_sources_iff, entry_track, Report.source]
  by_cases same : (clusterPlusAttribute, endpointId) =
      (report.clusterPlusAttribute, report.endpointId)
  · simp [same]
  · simp [same, Ne.symm same]

variable {registry : Nat → Option String} {history : History}

theorem average_unused (intervalSec : AggregateInterval) :
    average intervalSec [{ sum := 0, endpointId := "unused" }] = 0 := by
  simp [average_eq]

theorem writeFails_cases (registry : Nat → Option String) (history : History) (index : Nat) :
    history.step registry (.writeFails index) = history ∨
      ∃ recalculation,
        history.aggregation.recalculations[index]? = some recalculation ∧
        recalculation.written = false ∧
        history.step registry (.writeFails index) = { history with
          aggregation := { history.aggregation with
            recalculations := history.aggregation.recalculations.eraseIdx index }
          snapshots := history.snapshots.eraseIdx index } := by
  cases found : history.aggregation.recalculations[index]? with
  | none =>
    apply Or.inl
    simp [step, Aggregation.step, found]
  | some recalculation =>
    cases written : recalculation.written with
    | true =>
      apply Or.inl
      simp [step, Aggregation.step, found, written]
    | false =>
      apply Or.inr
      simp [step, Aggregation.step, found, written]

theorem step_resume (registry : Nat → Option String) {index : Nat} (now : Int)
    {recalculation : Recalculation} {snapshot : Snapshot}
    (found : history.aggregation.recalculations[index]? = some recalculation)
    (reads : Reads history.reports recalculation snapshot)
    (written : recalculation.written = true) :
    history.step registry (.resume index now) = { history with
      aggregation := { history.aggregation.resetInterval snapshot.intervalSec now with
        recalculations := history.aggregation.recalculations.eraseIdx index }
      snapshots := history.snapshots.eraseIdx index
      resetAt := Function.update history.resetAt snapshot.intervalSec
        history.reports.length } := by
  simp [step, Aggregation.step, found, written, Aggregation.resume, reads.remaining,
    reads.intervalSec, Aggregation.writeAverages, Aggregation.resetInterval]

section

variable (faithful : history.Faithful)

include faithful

/-- A report becomes part of the running sums of every length. -/
theorem Faithful.report {event : AggregationEvent}
    {report : Report} (tracked : trackedReport registry event = some report) :
    Faithful { history with
      aggregation := history.aggregation.step registry event
      reports := history.reports ++ [report] } := by
  rcases step_of_report history.aggregation tracked with ⟨stepped, aggregated⟩
  rw [stepped]
  exact {
    tracked := tracked_track _ _ _ _ _ faithful.tracked aggregated
    sources := by
      intro clusterPlusAttribute endpointId
      rw [mem_sources_track, faithful.sources]
      simp
    total := by
      intro intervalSec
      rw [total_track, faithful.total,
        List.drop_append_of_le_length (faithful.resetAt_le intervalSec), List.map_append,
        List.sum_append]
      simp only [List.map_cons, List.map_nil, List.sum_cons, List.sum_nil, add_zero]
      rfl
    resetAt_le := by
      intro intervalSec
      rw [List.length_append]
      exact Nat.le_add_right_of_le (faithful.resetAt_le intervalSec)
    recalculations :=
      faithful.recalculations.imp fun _ _ reads => reads.append [report]
    published := fun publication member =>
      (faithful.published publication member).append [report] }

theorem Faithful.length_sources :
    history.aggregation.aggregatorData.sources.length = sourceCount history.reports := by
  rw [sourceCount, ← List.toFinset_card_of_nodup (nodup_sources _)]
  congr 1
  ext ⟨clusterPlusAttribute, endpointId⟩
  rw [List.mem_toFinset, List.mem_toFinset, faithful.sources, List.mem_map]

/-! ### A recalculation -/

theorem Faithful.average_read (intervalSec : AggregateInterval) :
    average intervalSec
        (if history.aggregation.aggregatorData.entries = [] then
          [{ sum := 0, endpointId := "unused" }]
        else allSums intervalSec history.aggregation.aggregatorData) =
      (history.snapshot intervalSec).average history.reports := by
  have expected : (history.snapshot intervalSec).average history.reports =
      history.aggregation.aggregatorData.total intervalSec /
        history.aggregation.aggregatorData.sources.length / intervalSec.seconds := by
    rw [Snapshot.average, Snapshot.interval, snapshot, List.take_length,
      faithful.length_sources, faithful.total]
  rw [expected]
  by_cases nothing : history.aggregation.aggregatorData.entries = []
  · rw [if_pos nothing, average_unused]
    simp [EndpointDataRecord.total, OrderedMap.values, nothing]
  · rw [if_neg nothing, average_eq, sum_allSums, length_allSums]

theorem recalculateAggregatesFor_eq (intervalSec : AggregateInterval) (now : Int) :
    history.aggregation.recalculateAggregatesFor intervalSec now =
      { history.aggregation with
        recalculations := history.aggregation.recalculations ++ [{
          intervalSec := intervalSec
          attributeName := "MeasuredValue"
          endpoints := if history.aggregation.aggregatorData.entries = [] then
              [{ sum := 0, endpointId := "unused" }]
            else allSums intervalSec history.aggregation.aggregatorData
          remaining := []
          written := false }] } := by
  rw [recalculateAggregatesFor, entries_dataFilteredByInterval intervalSec faithful.tracked]
  rfl

theorem Faithful.recalculate (intervalSec : AggregateInterval) (now : Int) :
    (history.step registry (.recalculateAggregatesFor intervalSec now)).Faithful := by
  change Faithful { history with
    aggregation := history.aggregation.recalculateAggregatesFor intervalSec now
    snapshots := history.snapshots ++ [history.snapshot intervalSec] }
  rw [recalculateAggregatesFor_eq faithful]
  exact { faithful with
    recalculations := PairedLists.related_append_singleton faithful.recalculations {
      intervalSec := rfl
      attributeName := rfl
      average := faithful.average_read intervalSec
      remaining := rfl
      first_le := faithful.resetAt_le intervalSec
      count_le := Nat.le_refl _ } }

theorem Faithful.write_cases (registry : Nat → Option String) (index : Nat) :
    history.step registry (.write index) = history ∨
      ∃ recalculation snapshot,
        history.aggregation.recalculations[index]? = some recalculation ∧
        history.snapshots[index]? = some snapshot ∧
        Reads history.reports recalculation snapshot ∧
        recalculation.written = false ∧
        history.step registry (.write index) = { history with
          aggregation := { history.aggregation.write recalculation with
            recalculations := history.aggregation.recalculations.set index
              { recalculation with written := true } }
          published := history.published ++ [{
            snapshot := snapshot
            attributeName := recalculation.attributeName
            average := Aggregation.average recalculation.intervalSec
              recalculation.endpoints }] } := by
  cases found : history.aggregation.recalculations[index]? with
  | none =>
    apply Or.inl
    simp [step, Aggregation.step, found]
  | some recalculation =>
    rcases PairedLists.related_getElem? faithful.recalculations found with
      ⟨snapshot, foundSnapshot, reads⟩
    cases written : recalculation.written with
    | true =>
      apply Or.inl
      simp [step, Aggregation.step, found, foundSnapshot, written]
    | false =>
      apply Or.inr
      refine ⟨recalculation, snapshot, rfl, foundSnapshot, reads, written, ?_⟩
      simp [step, Aggregation.step, found, foundSnapshot, written]

theorem Faithful.write (index : Nat) :
    (history.step registry (.write index)).Faithful := by
  rcases faithful.write_cases registry index with unchanged | published
  · rw [unchanged]
    exact faithful
  · rcases published with ⟨recalculation, snapshot, _, found, reads, _, stepped⟩
    rw [stepped]
    exact { faithful with
      recalculations := PairedLists.related_set faithful.recalculations found { reads with }
      published := by
        intro publication member
        rcases List.mem_append.mp member with earlier | new
        · exact faithful.published publication earlier
        · rw [List.mem_singleton.mp new]
          exact {
            attributeName := reads.attributeName
            average := reads.average
            first_le := reads.first_le
            count_le := reads.count_le } }

theorem Faithful.writeFails (index : Nat) :
    (history.step registry (.writeFails index)).Faithful := by
  rcases writeFails_cases registry history index with unchanged | failed
  · rw [unchanged]
    exact faithful
  · rcases failed with ⟨_, _, _, stepped⟩
    rw [stepped]
    exact { faithful with
      recalculations := PairedLists.related_eraseIdx faithful.recalculations index }

/-- The cases of going on after a write: nothing waits there, or the interval is
reset. -/
theorem Faithful.resume_cases (registry : Nat → Option String) (index : Nat) (now : Int) :
    history.step registry (.resume index now) = history ∨
      ∃ recalculation snapshot,
        history.aggregation.recalculations[index]? = some recalculation ∧
        history.snapshots[index]? = some snapshot ∧
        Reads history.reports recalculation snapshot ∧
        recalculation.written = true := by
  cases found : history.aggregation.recalculations[index]? with
  | none =>
    apply Or.inl
    simp [step, Aggregation.step, found]
  | some recalculation =>
    cases written : recalculation.written with
    | false =>
      apply Or.inl
      simp [step, Aggregation.step, found, written]
    | true =>
      rcases PairedLists.related_getElem? faithful.recalculations found with
        ⟨snapshot, foundSnapshot, reads⟩
      exact Or.inr ⟨recalculation, snapshot, rfl, foundSnapshot, reads, written⟩

theorem Faithful.resume (index : Nat) (now : Int) :
    (history.step registry (.resume index now)).Faithful := by
  rcases faithful.resume_cases registry index now with unchanged | reset
  · rw [unchanged]
    exact faithful
  · rcases reset with ⟨_, snapshot, found, _, reads, written⟩
    rw [step_resume registry now found reads written]
    exact {
      tracked := tracked_resetSums _ _ faithful.tracked
      sources := by
        intro clusterPlusAttribute endpointId
        rw [← faithful.sources, mem_sources_iff, mem_sources_iff]
        simp [resetInterval, entry_resetSums]
      total := by
        intro intervalSec
        rw [resetInterval]
        by_cases same : intervalSec = snapshot.intervalSec
        · simp [total_resetSums, same]
        · simp only [total_resetSums, if_neg same, Function.update_of_ne same]
          exact faithful.total intervalSec
      resetAt_le := by
        intro intervalSec
        by_cases same : intervalSec = snapshot.intervalSec
        · simp [same]
        · simp only [Function.update_of_ne same]
          exact faithful.resetAt_le intervalSec
      recalculations := PairedLists.related_eraseIdx faithful.recalculations index
      published := faithful.published }

theorem Faithful.step (event : AggregationEvent) :
    (history.step registry event).Faithful := by
  cases event with
  | attributeChanged nodeId change timestamp =>
    cases tracked : trackedReport registry (.attributeChanged nodeId change timestamp) with
    | none =>
      have unchanged := step_of_no_report history.aggregation tracked
      rw [History.step, unchanged, tracked, Option.toList_none, List.append_nil]
      exact faithful
    | some report =>
      rw [History.step, tracked]
      exact faithful.report tracked
  | recalculateAggregatesFor intervalSec now => exact faithful.recalculate intervalSec now
  | write index => exact faithful.write index
  | writeFails index => exact faithful.writeFails index
  | resume index now => exact faithful.resume index now

end

/-- In every state of every run the sums are those of the reports since the last
reset, and what was published are the averages of what was read. -/
theorem faithful_run (registry : Nat → Option String) (firedAt : AggregateInterval → Int)
    (events : List AggregationEvent) :
    (run (History.step registry) (start firedAt) events).Faithful := by
  apply run_invariant _ Faithful
  · intro history event faithful
    exact faithful.step event
  · exact faithful_start firedAt

end History

end MatterJs.Broker
