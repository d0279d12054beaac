import MatterJs.Broker.ReportHistory

/-! The broker as one entry of its data sees it: a machine that knows the entry, the
times the intervals were last fired, and which recalculations are suspended. The
broker's runs are this machine's runs for every entry. -/

namespace MatterJs.Broker

open General Execution

structure SourceView where
  lastIntervalFired : AggregateInterval → Int
  /-- The lengths of the suspended recalculations, and whether each is written. -/
  suspended : List (AggregateInterval × Bool)
  datapoint : Option MoreDatapoint

namespace SourceView

def start (firedAt : AggregateInterval → Int) : SourceView where
  lastIntervalFired := firedAt
  suspended := []
  datapoint := none

def step (registry : Nat → Option String) (source : String × Nat) (view : SourceView)
    (event : AggregationEvent) : SourceView :=
  match event with
  | .attributeChanged _ _ _ =>
    match trackedReport registry event with
    | some report =>
      if report.source = source then
        { view with datapoint := some (Aggregation.addValue view.lastIntervalFired
            view.datapoint report.value report.timestamp) }
      else view
    | none => view
  | .recalculateAggregatesFor intervalSec _ =>
    { view with suspended := view.suspended ++ [(intervalSec, false)] }
  | .write index =>
    match view.suspended[index]? with
    | some (intervalSec, false) =>
      { view with suspended := view.suspended.set index (intervalSec, true) }
    | _ => view
  | .writeFails index =>
    match view.suspended[index]? with
    | some (_, false) => { view with suspended := view.suspended.eraseIdx index }
    | _ => view
  | .resume index now =>
    match view.suspended[index]? with
    | some (intervalSec, true) =>
      { lastIntervalFired := Function.update view.lastIntervalFired intervalSec now
        suspended := view.suspended.eraseIdx index
        datapoint := view.datapoint.map fun datapoint => datapoint.setSum intervalSec 0 }
    | _ => view

def latest (view : SourceView) : Option Datapoint :=
  view.datapoint.map MoreDatapoint.latest

variable {registry : Nat → Option String} {source : String × Nat}

theorem latest_step (view : SourceView) {event : AggregationEvent}
    (elsewhere : ∀ report ∈ trackedReport registry event, report.source ≠ source) :
    (view.step registry source event).latest = view.latest := by
  cases event with
  | attributeChanged nodeId change timestamp =>
    rw [step]
    cases tracked : trackedReport registry (.attributeChanged nodeId change timestamp) with
    | none => rfl
    | some report => simp [if_neg (elsewhere report tracked)]
  | recalculateAggregatesFor intervalSec now => rfl
  | write index => rw [step]; split <;> rfl
  | writeFails index => rw [step]; split <;> rfl
  | resume index now =>
    rw [step]
    split
    · simp only [latest, Option.map_map]
      rfl
    · rfl

theorem latest_run (view : SourceView) {events : List AggregationEvent}
    (elsewhere : ∀ event ∈ events, ∀ report ∈ trackedReport registry event,
      report.source ≠ source) :
    (run (step registry source) view events).latest = view.latest := by
  induction events generalizing view with
  | nil => rfl
  | cons event events induction =>
    rw [run_cons, induction _ fun later member =>
      elsewhere later (List.mem_cons_of_mem _ member)]
    exact latest_step view (elsewhere event (List.mem_cons_self ..))

theorem latest_step_report (view : SourceView) {event : AggregationEvent} {report : Report}
    (tracked : trackedReport registry event = some report) (own : report.source = source) :
    (view.step registry source event).latest =
      some { value := report.value, timestamp := report.timestamp } := by
  cases event with
  | attributeChanged nodeId change timestamp =>
    simp [step, tracked, if_pos own, latest, Aggregation.latest_addValue]
  | recalculateAggregatesFor intervalSec now => cases tracked
  | write index => cases tracked
  | writeFails index => cases tracked
  | resume index now => cases tracked

end SourceView

namespace History

def view (source : String × Nat) (history : History) : SourceView where
  lastIntervalFired := history.aggregation.lastIntervalFired
  suspended := history.aggregation.recalculations.map fun recalculation =>
    (recalculation.intervalSec, recalculation.written)
  datapoint := history.aggregation.aggregatorData.entry source.1 source.2

variable {registry : Nat → Option String} {history : History} (source : String × Nat)

theorem view_recalculate (faithful : history.Faithful) (intervalSec : AggregateInterval)
    (now : Int) :
    (history.step registry (.recalculateAggregatesFor intervalSec now)).view source =
      (history.view source).step registry source
        (.recalculateAggregatesFor intervalSec now) := by
  rw [view, step_aggregation, Aggregation.step, recalculateAggregatesFor_eq faithful]
  simp only [List.map_append]
  rfl

theorem view_write (history : History) (index : Nat) :
    (history.step registry (.write index)).view source =
      (history.view source).step registry source (.write index) := by
  rw [view, step_aggregation, SourceView.step, view]
  cases found : history.aggregation.recalculations[index]? with
  | none => simp [Aggregation.step, found]
  | some recalculation =>
    cases written : recalculation.written with
    | true =>
      simp [Aggregation.step, found, written]
    | false =>
      simp [Aggregation.step, found, written, Aggregation.write]

theorem view_writeFails (history : History) (index : Nat) :
    (history.step registry (.writeFails index)).view source =
      (history.view source).step registry source (.writeFails index) := by
  rw [view, step_aggregation, SourceView.step, view]
  cases found : history.aggregation.recalculations[index]? with
  | none => simp [Aggregation.step, found]
  | some recalculation =>
    cases written : recalculation.written with
    | true =>
      simp [Aggregation.step, found, written]
    | false =>
      simp [Aggregation.step, found, written, List.eraseIdx_map]

theorem view_resume (faithful : history.Faithful) (index : Nat) (now : Int) :
    (history.step registry (.resume index now)).view source =
      (history.view source).step registry source (.resume index now) := by
  cases found : history.aggregation.recalculations[index]? with
  | none =>
    rw [view, step_aggregation, SourceView.step, view]
    simp [Aggregation.step, found]
  | some recalculation =>
    cases written : recalculation.written with
    | false =>
      rw [view, step_aggregation, SourceView.step, view]
      simp [Aggregation.step, found, written]
    | true =>
      rcases PairedLists.related_getElem? faithful.recalculations found with
        ⟨snapshot, _, reads⟩
      rw [step_resume registry now found reads written, SourceView.step, view, view]
      simp [found, written, Aggregation.resetInterval, Aggregation.entry_resetSums,
        reads.intervalSec, List.eraseIdx_map]

theorem view_attributeChanged (history : History) (nodeId : Nat)
    (change : Aggregation.AttributeChange) (timestamp : Int) :
    (history.step registry (.attributeChanged nodeId change timestamp)).view source =
      (history.view source).step registry source
        (.attributeChanged nodeId change timestamp) := by
  rw [view, step_aggregation, SourceView.step]
  cases tracked : trackedReport registry (.attributeChanged nodeId change timestamp) with
  | none =>
    rw [step_of_no_report _ tracked]
    rfl
  | some report =>
    rw [(step_of_report _ tracked).1, Aggregation.entry_track]
    by_cases own : report.source = source
    · have position : (source.1, source.2) =
          (report.clusterPlusAttribute, report.endpointId) := own.symm
      rw [if_pos position]
      simp only [← own]
      rfl
    · have position : (source.1, source.2) ≠
          (report.clusterPlusAttribute, report.endpointId) := Ne.symm own
      rw [if_neg position]
      simp only [if_neg own]
      rfl

theorem view_step (faithful : history.Faithful) (event : AggregationEvent) :
    (history.step registry event).view source =
      (history.view source).step registry source event := by
  cases event with
  | attributeChanged nodeId change timestamp =>
    exact view_attributeChanged source history nodeId change timestamp
  | recalculateAggregatesFor intervalSec now =>
    exact view_recalculate source faithful intervalSec now
  | write index => exact view_write source history index
  | writeFails index => exact view_writeFails source history index
  | resume index now => exact view_resume source faithful index now

theorem view_run (registry : Nat → Option String) (firedAt : AggregateInterval → Int)
    (events : List AggregationEvent) :
    (run (History.step registry) (start firedAt) events).view source =
      run (SourceView.step registry source) (SourceView.start firedAt) events := by
  let related (history : History) (view : SourceView) : Prop :=
    history.Faithful ∧ history.view source = view
  have keeps (history : History) (view : SourceView) (event : AggregationEvent)
      (same : related history view) :
      related (history.step registry event) (view.step registry source event) := by
    rcases same with ⟨faithful, same⟩
    apply And.intro (faithful.step event)
    rw [view_step source faithful, same]
  have started : related (start firedAt) (SourceView.start firedAt) :=
    ⟨faithful_start firedAt, rfl⟩
  have simulated := run_simulation related id keeps started events
  rw [List.map_id] at simulated
  exact simulated.2

end History

theorem entry_run (registry : Nat → Option String) (firedAt : AggregateInterval → Int)
    (events : List AggregationEvent) (source : String × Nat) :
    (run (Aggregation.step registry) (Aggregation.start firedAt)
        events).aggregatorData.entry source.1 source.2 =
      (run (SourceView.step registry source) (SourceView.start firedAt) events).datapoint := by
  rw [← History.view_run, ← History.run_aggregation]
  rfl

end MatterJs.Broker
