import Mathlib.Algebra.BigOperators.Ring.List
import MatterJs.Broker.ReportHistory
import MatterJs.Foundation.WeightedAverage

/-! When a published average lies between the values that were held. -/

namespace MatterJs.Broker

open Execution

namespace Report

def elapsed (report : Report) (lastIntervalFired : Int) : Rat :=
  (report.timestamp - lastIntervalFired : Int)

theorem area_eq (report : Report) (lastIntervalFired : Int) :
    report.area lastIntervalFired =
      report.value * report.elapsed lastIntervalFired * (1 / 1000) := by
  rw [Report.area, Broker.area, elapsed]
  ring

end Report

/-- The last value of every sensor. -/
def carriedOver : List Report → List Rat
  | [] => []
  | report :: later =>
    if later.any (·.sensor = report.sensor) then carriedOver later
    else report.value :: carriedOver later

namespace Snapshot

variable (snapshot : Snapshot) (reports : List Report)

/-- All values held in the interval: those carried over from before it and those
reported in it. -/
def held : List Rat :=
  carriedOver (reports.take snapshot.first) ++ (snapshot.interval reports).map Report.value

/-- The time that the sum is divided by: the interval's length for every source, in
milliseconds. -/
def sourceTime : Rat :=
  1000 * snapshot.intervalSec.seconds * sourceCount (reports.take snapshot.count)

/-- The time that the sum counts: for every report in the interval the time since the
interval was last fired. -/
def countedTime : Rat :=
  ((snapshot.interval reports).map fun report => report.elapsed snapshot.firedAt).sum

/-- The values come in order, and within the interval's length. -/
def Timely : Prop :=
  (snapshot.interval reports).Pairwise (fun earlier later =>
      earlier.timestamp ≤ later.timestamp) ∧
    ∀ report ∈ snapshot.interval reports, snapshot.firedAt ≤ report.timestamp ∧
      report.timestamp ≤ snapshot.firedAt + 1000 * snapshot.intervalSec.seconds

instance : Decidable (snapshot.Timely reports) :=
  inferInstanceAs (Decidable (_ ∧ _))

/-- The time that is counted too little is made up for by values above the least
one, and the time that is counted twice by values below the greatest one. -/
def Balanced : Prop :=
  ∀ least ∈ (snapshot.held reports).min?, ∀ greatest ∈ (snapshot.held reports).max?,
    least * (snapshot.sourceTime reports - snapshot.countedTime reports) ≤
      weightedSum (snapshot.interval reports) (fun report => report.value - least)
        (fun report => report.elapsed snapshot.firedAt) ∧
    greatest * (snapshot.countedTime reports - snapshot.sourceTime reports) ≤
      weightedSum (snapshot.interval reports) (fun report => greatest - report.value)
        (fun report => report.elapsed snapshot.firedAt)

end Snapshot

namespace Publication

/-- The average lies between the least and the greatest value held. -/
def StaysWithin (publication : Publication) (reports : List Report) : Prop :=
  ∀ least ∈ (publication.snapshot.held reports).min?,
    ∀ greatest ∈ (publication.snapshot.held reports).max?,
      least ≤ publication.average ∧ publication.average ≤ greatest

instance (publication : Publication) (reports : List Report) :
    Decidable (publication.StaysWithin reports) :=
  inferInstanceAs (Decidable (∀ least ∈ (_ : Option Rat), ∀ greatest ∈ (_ : Option Rat), _ ∧ _))

end Publication

/-! ## The average as a weighted sum -/

namespace Snapshot

variable (snapshot : Snapshot) (reports : List Report)

theorem average_eq_weightedSum :
    snapshot.average reports =
      weightedSum (snapshot.interval reports) Report.value
        (fun report => report.elapsed snapshot.firedAt) / snapshot.sourceTime reports := by
  have areas : ((snapshot.interval reports).map
      fun report => report.area snapshot.firedAt).sum =
        weightedSum (snapshot.interval reports) Report.value
          (fun report => report.elapsed snapshot.firedAt) / 1000 := by
    simp only [Report.area_eq, List.sum_map_mul_right, weightedSum]
    ring
  rw [average, areas, sourceTime]
  ring

theorem sourceTime_pos (first_le : snapshot.first ≤ snapshot.count) {value : Rat}
    (held : value ∈ snapshot.held reports) : 0 < snapshot.sourceTime reports := by
  have someReport : reports.take snapshot.count ≠ [] := by
    intro none
    have noneBefore : reports.take snapshot.first = [] := by
      rw [← Nat.min_eq_left first_le, ← List.take_take, none, List.take_nil]
    rw [Snapshot.held, interval, none, noneBefore, List.drop_nil] at held
    cases held
  have sources : 0 < sourceCount (reports.take snapshot.count) := by
    rw [sourceCount, Finset.card_pos, List.toFinset_nonempty_iff, Ne, List.map_eq_nil_iff]
    exact someReport
  have seconds : 0 < snapshot.intervalSec.seconds := by
    cases snapshot.intervalSec <;> decide
  rw [sourceTime]
  positivity

theorem average_staysWithin_iff (first_le : snapshot.first ≤ snapshot.count) :
    (∀ least ∈ (snapshot.held reports).min?, ∀ greatest ∈ (snapshot.held reports).max?,
      least ≤ snapshot.average reports ∧ snapshot.average reports ≤ greatest) ↔
      snapshot.Balanced reports := by
  rw [average_eq_weightedSum]
  apply forall₂_congr
  intro least isLeast
  apply forall₂_congr
  intro greatest isGreatest
  have positive := snapshot.sourceTime_pos reports first_le (List.min?_mem isLeast)
  exact and_congr
    (le_weightedSum_div_iff _ _ _ positive least)
    (weightedSum_div_le_iff _ _ _ positive greatest)

end Snapshot

/-- Every average of a timely interval lies between the values held in it. -/
def History.AveragesStayWithin (history : History) : Prop :=
  ∀ publication ∈ history.published, publication.snapshot.Timely history.reports →
    publication.StaysWithin history.reports

instance (history : History) : Decidable history.AveragesStayWithin :=
  inferInstanceAs (Decidable (∀ publication ∈ _, _ → _))

/-- One value at the end of the interval, which is then counted for all of it. -/
def lateValueEvents : List AggregationEvent :=
  [temperatureChanged 1 2 2000 10000, .recalculateAggregatesFor .tenSeconds 10000, .write 0]

def lateValuePublication : Publication where
  snapshot := { intervalSec := .tenSeconds, first := 0, count := 1, firedAt := 0 }
  attributeName := "MeasuredValue"
  average := 2000

/-- The same value twice: the second one is counted from the start of the interval,
and the average is greater than the value. -/
def sameValueEvents : List AggregationEvent :=
  [temperatureChanged 1 2 2000 6000, temperatureChanged 1 2 2000 9000,
    .recalculateAggregatesFor .tenSeconds 10000, .write 0]

end MatterJs.Broker
