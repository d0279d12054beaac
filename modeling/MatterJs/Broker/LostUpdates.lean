import MatterJs.Broker.ReportHistory

/-! Which reports a published average counts, and which get lost between the
average's computation and the reset behind its write. Reports are named by their
position in the history. -/

namespace MatterJs.Broker.History

open Execution

/-- How many published averages of a length count a report. -/
def timesPublished (history : History) (intervalSec : AggregateInterval)
    (number : Nat) : Nat :=
  history.published.countP fun publication =>
    publication.snapshot.intervalSec = intervalSec ∧
      publication.snapshot.first ≤ number ∧ number < publication.snapshot.count

def InRunningSums (history : History) (intervalSec : AggregateInterval)
    (number : Nat) : Prop :=
  history.resetAt intervalSec ≤ number

instance (history : History) (intervalSec : AggregateInterval) (number : Nat) :
    Decidable (history.InRunningSums intervalSec number) :=
  inferInstanceAs (Decidable (_ ≤ _))

/-- No report is lost: one published average of each length counts it, or it is
still in the running sums. -/
def Accounted (history : History) : Prop :=
  ∀ intervalSec number, number < history.reports.length →
    history.timesPublished intervalSec number = 1 ∨ history.InRunningSums intervalSec number

/-- The state before a step: a recalculation begins only when none of its length is
in progress, and goes on after its write only when no report arrived since it read
the sums. -/
def Undisturbed (history : History) : AggregationEvent → Prop
  | .recalculateAggregatesFor intervalSec _ =>
    ∀ snapshot ∈ history.snapshots, snapshot.intervalSec ≠ intervalSec
  | .resume index _ =>
    ∀ recalculation ∈ history.aggregation.recalculations[index]?,
      ∀ snapshot ∈ history.snapshots[index]?,
        recalculation.written → snapshot.count = history.reports.length
  | _ => True

instance (history : History) (event : AggregationEvent) :
    Decidable (history.Undisturbed event) :=
  match event with
  | .attributeChanged _ _ _ => inferInstanceAs (Decidable True)
  | .recalculateAggregatesFor _ _ => inferInstanceAs (Decidable (∀ snapshot ∈ _, _))
  | .write _ => inferInstanceAs (Decidable True)
  | .writeFails _ => inferInstanceAs (Decidable True)
  | .resume _ _ => inferInstanceAs
      (Decidable (∀ recalculation ∈ _[_]?, ∀ snapshot ∈ _[_]?, _ → _))

/-! ## The reports counted so far -/

def CountsUpTo (history : History) (intervalSec : AggregateInterval) (position : Nat) :
    Prop :=
  ∀ number, history.timesPublished intervalSec number = if number < position then 1 else 0

/-- A recalculation in progress has read everything since the last reset. Once it
is written, the averages count all that it has read. -/
structure InProgress (history : History) (recalculation : Recalculation)
    (snapshot : Snapshot) : Prop where
  first : snapshot.first = history.resetAt snapshot.intervalSec
  counted : recalculation.written = true → history.CountsUpTo snapshot.intervalSec snapshot.count

structure CountedOnce (history : History) : Prop where
  apart : (history.snapshots.map Snapshot.intervalSec).Nodup
  inProgress : ∀ (index : Nat) recalculation snapshot,
    history.aggregation.recalculations[index]? = some recalculation →
      history.snapshots[index]? = some snapshot → history.InProgress recalculation snapshot
  unwritten : ∀ intervalSec,
    (∀ recalculation ∈ history.aggregation.recalculations,
      recalculation.intervalSec = intervalSec → recalculation.written = false) →
    history.CountsUpTo intervalSec (history.resetAt intervalSec)

theorem CountedOnce.accounted {history : History} (counted : history.CountedOnce)
    (faithful : history.Faithful) : history.Accounted := by
  intro intervalSec number _
  rcases Nat.lt_or_ge number (history.resetAt intervalSec) with before | since
  · apply Or.inl
    by_cases written : ∃ recalculation ∈ history.aggregation.recalculations,
        recalculation.intervalSec = intervalSec ∧ recalculation.written = true
    · rcases written with ⟨recalculation, member, sameLength, written⟩
      rcases List.mem_iff_getElem?.mp member with ⟨index, found⟩
      rcases PairedLists.related_getElem? faithful.recalculations found with
        ⟨snapshot, foundSnapshot, reads⟩
      have inProgress := counted.inProgress index recalculation snapshot found foundSnapshot
      have first := inProgress.first
      have firstLe := reads.first_le
      rw [← sameLength, reads.intervalSec] at before ⊢
      rw [inProgress.counted written number, if_pos (by omega)]
    · have noneWritten : ∀ recalculation ∈ history.aggregation.recalculations,
          recalculation.intervalSec = intervalSec → recalculation.written = false := by
        intro recalculation member sameLength
        by_contra isWritten
        exact written ⟨recalculation, member, sameLength, Bool.not_eq_false _ ▸ isWritten⟩
      rw [counted.unwritten intervalSec noneWritten number, if_pos before]
  · exact Or.inr since

theorem CountedOnce.same_index {history : History} (counted : history.CountedOnce)
    {first second : Nat} {snapshot other : Snapshot}
    (found : history.snapshots[first]? = some snapshot)
    (foundOther : history.snapshots[second]? = some other)
    (sameLength : other.intervalSec = snapshot.intervalSec) : second = first := by
  have inBounds : second < (history.snapshots.map Snapshot.intervalSec).length := by
    rw [List.length_map]
    exact (List.getElem?_eq_some_iff.mp foundOther).1
  apply (List.getElem?_inj inBounds counted.apart).mp
  rw [List.getElem?_map, List.getElem?_map, found, foundOther, Option.map_some,
    Option.map_some, sameLength]

variable {registry : Nat → Option String} {history : History}

theorem countedOnce_start (firedAt : AggregateInterval → Int) :
    (start firedAt).CountedOnce where
  apart := List.nodup_nil
  inProgress := by
    intro index recalculation snapshot found
    cases found
  unwritten := by
    intro intervalSec _ number
    rfl

/-- A callback changes neither what is in progress nor what was published. -/
theorem CountedOnce.attributeChanged (counted : history.CountedOnce) {nodeId : Nat}
    {change : Aggregation.AttributeChange} {timestamp : Int} :
    (history.step registry (.attributeChanged nodeId change timestamp)).CountedOnce := by
  have sameRecalculations : (history.aggregation.step registry
      (.attributeChanged nodeId change timestamp)).recalculations =
        history.aggregation.recalculations := by
    cases tracked : trackedReport registry (.attributeChanged nodeId change timestamp) with
    | none => rw [step_of_no_report _ tracked]
    | some report => rw [(step_of_report _ tracked).1]; rfl
  exact {
    apart := counted.apart
    inProgress := by
      intro index recalculation snapshot found foundSnapshot
      change (history.aggregation.step _ _).recalculations[index]? = _ at found
      rw [sameRecalculations] at found
      exact { counted.inProgress index recalculation snapshot found foundSnapshot with }
    unwritten := by
      intro intervalSec noneWritten
      change ∀ recalculation ∈ (history.aggregation.step _ _).recalculations, _ at noneWritten
      rw [sameRecalculations] at noneWritten
      exact counted.unwritten intervalSec noneWritten }

theorem CountedOnce.recalculate (counted : history.CountedOnce)
    (faithful : history.Faithful) {intervalSec : AggregateInterval} {now : Int}
    (alone : ∀ snapshot ∈ history.snapshots, snapshot.intervalSec ≠ intervalSec) :
    (history.step registry (.recalculateAggregatesFor intervalSec now)).CountedOnce := by
  change CountedOnce { history with
    aggregation := history.aggregation.recalculateAggregatesFor intervalSec now
    snapshots := history.snapshots ++ [history.snapshot intervalSec] }
  rw [recalculateAggregatesFor_eq faithful]
  have sameNumber := faithful.recalculations.length_eq
  exact {
    apart := by
      rw [List.map_append, List.nodup_append]
      apply And.intro counted.apart
      apply And.intro (List.nodup_singleton _)
      intro length member other isNew
      rcases List.mem_map.mp member with ⟨snapshot, inProgress, rfl⟩
      rw [List.mem_singleton.mp isNew]
      exact alone snapshot inProgress
    inProgress := by
      intro index recalculation snapshot found foundSnapshot
      rcases PairedLists.getElem?_append_singleton found with earlier | isNew
      · rcases PairedLists.getElem?_append_singleton foundSnapshot with same | atEnd
        · exact { counted.inProgress index recalculation snapshot earlier same with }
        · have bound := (List.getElem?_eq_some_iff.mp earlier).1
          omega
      · rcases PairedLists.getElem?_append_singleton foundSnapshot with earlier | atEnd
        · have bound := (List.getElem?_eq_some_iff.mp earlier).1
          omega
        · rw [isNew.2, atEnd.2]
          exact {
            first := rfl
            counted := fun written => absurd written Bool.false_ne_true }
    unwritten := by
      intro length noneWritten
      apply counted.unwritten length
      intro recalculation member
      exact noneWritten recalculation (List.mem_append_left _ member) }

theorem timesPublished_publish {next : History} {publication : Publication}
    (published : next.published = history.published ++ [publication])
    (intervalSec : AggregateInterval) (number : Nat) :
    next.timesPublished intervalSec number =
      history.timesPublished intervalSec number +
        if publication.snapshot.intervalSec = intervalSec ∧
          publication.snapshot.first ≤ number ∧ number < publication.snapshot.count
        then 1 else 0 := by
  rw [timesPublished, timesPublished, published]
  simp

/-- A write makes the averages of its length count what it has read, and leaves
those of the other lengths. -/
theorem countsUpTo_publish {next : History} {publication : Publication}
    (published : next.published = history.published ++ [publication])
    {intervalSec : AggregateInterval} {position : Nat}
    (counts : history.CountsUpTo intervalSec position)
    (firstLe : publication.snapshot.first ≤ publication.snapshot.count) :
    (publication.snapshot.intervalSec = intervalSec →
      publication.snapshot.first = position →
        next.CountsUpTo intervalSec publication.snapshot.count) ∧
      (publication.snapshot.intervalSec ≠ intervalSec →
        next.CountsUpTo intervalSec position) := by
  constructor
  · intro sameLength first number
    rw [timesPublished_publish published, counts number]
    simp only [sameLength, true_and]
    split <;> split <;> split <;> omega
  · intro otherLength number
    rw [timesPublished_publish published, counts number]
    simp [otherLength]

section

variable (counted : history.CountedOnce)

include counted

theorem CountedOnce.write (faithful : history.Faithful)
    (index : Nat) : (history.step registry (.write index)).CountedOnce := by
  rcases faithful.write_cases registry index with unchanged | published
  · rw [unchanged]
    exact counted
  · rcases published with ⟨recalculation, snapshot, found, foundSnapshot, reads, notYet, stepped⟩
    generalize history.step registry (.write index) = next at stepped ⊢
    have recalculationsAfter : next.aggregation.recalculations =
        history.aggregation.recalculations.set index
          { recalculation with written := true } := by rw [stepped]
    have snapshotsAfter : next.snapshots = history.snapshots := by rw [stepped]
    have resetsAfter : next.resetAt = history.resetAt := by rw [stepped]
    have publishedAfter : next.published = history.published ++ [{
        snapshot := snapshot
        attributeName := recalculation.attributeName
        average := Aggregation.average recalculation.intervalSec
          recalculation.endpoints }] := by rw [stepped]
    have started := counted.inProgress index recalculation snapshot found foundSnapshot
    have noneWritten : ∀ other ∈ history.aggregation.recalculations,
        other.intervalSec = snapshot.intervalSec → other.written = false := by
      intro other member sameLength
      rcases List.mem_iff_getElem?.mp member with ⟨otherIndex, foundOther⟩
      rcases PairedLists.related_getElem? faithful.recalculations foundOther with
        ⟨otherSnapshot, foundOtherSnapshot, otherReads⟩
      rw [otherReads.intervalSec] at sameLength
      have same := counted.same_index foundSnapshot foundOtherSnapshot sameLength
      rw [same, found] at foundOther
      rw [← Option.some.inj foundOther]
      exact notYet
    have countsBefore := counted.unwritten snapshot.intervalSec noneWritten
    have inBounds := (List.getElem?_eq_some_iff.mp found).1
    exact {
      apart := by
        rw [snapshotsAfter]
        exact counted.apart
      inProgress := by
        intro otherIndex other otherSnapshot foundOther foundOtherSnapshot
        rw [snapshotsAfter] at foundOtherSnapshot
        rw [recalculationsAfter] at foundOther
        by_cases same : otherIndex = index
        · rw [same, foundSnapshot] at foundOtherSnapshot
          rw [← Option.some.inj foundOtherSnapshot]
          exact {
            first := by rw [resetsAfter]; exact started.first
            counted := fun _ =>
              (countsUpTo_publish publishedAfter countsBefore reads.first_le).1 rfl
                started.first }
        · rw [List.getElem?_set_ne (Ne.symm same)] at foundOther
          have unaffected := counted.inProgress otherIndex other otherSnapshot foundOther
            foundOtherSnapshot
          have otherLength : snapshot.intervalSec ≠ otherSnapshot.intervalSec := by
            intro sameLength
            exact same (counted.same_index foundSnapshot foundOtherSnapshot sameLength.symm)
          exact {
            first := by rw [resetsAfter]; exact unaffected.first
            counted := fun written =>
              (countsUpTo_publish publishedAfter (unaffected.counted written)
                reads.first_le).2 otherLength }
      unwritten := by
        intro intervalSec noneWrittenAfter
        rw [recalculationsAfter] at noneWrittenAfter
        have written : { recalculation with written := true } ∈
            history.aggregation.recalculations.set index { recalculation with written := true } :=
          List.mem_iff_getElem?.mpr ⟨index, List.getElem?_set_self inBounds⟩
        have otherLength : snapshot.intervalSec ≠ intervalSec := by
          intro sameLength
          rw [← reads.intervalSec] at sameLength
          cases noneWrittenAfter _ written sameLength
        have countsOther : history.CountsUpTo intervalSec (history.resetAt intervalSec) := by
          apply counted.unwritten
          intro other member sameLength
          rcases List.mem_iff_getElem?.mp member with ⟨otherIndex, foundOther⟩
          have notWritten : otherIndex ≠ index := by
            intro same
            rw [same, found] at foundOther
            rw [← Option.some.inj foundOther, reads.intervalSec] at sameLength
            exact otherLength sameLength
          apply noneWrittenAfter other _ sameLength
          apply List.mem_iff_getElem?.mpr
          exact ⟨otherIndex, by rw [List.getElem?_set_ne notWritten.symm, foundOther]⟩
        rw [resetsAfter]
        exact (countsUpTo_publish publishedAfter countsOther reads.first_le).2 otherLength }

theorem CountedOnce.inProgress_eraseIdx {erased index : Nat}
    {recalculation : Recalculation} {snapshot : Snapshot}
    (found : (history.aggregation.recalculations.eraseIdx erased)[index]? = some recalculation)
    (foundSnapshot : (history.snapshots.eraseIdx erased)[index]? = some snapshot) :
    history.InProgress recalculation snapshot ∧
      ∀ left ∈ history.snapshots[erased]?, left.intervalSec ≠ snapshot.intervalSec := by
  rw [PairedLists.getElem?_eraseIdx_eq] at found foundSnapshot
  apply And.intro (counted.inProgress _ recalculation snapshot found foundSnapshot)
  intro left foundLeft sameLength
  exact PairedLists.origin_ne erased index
    (counted.same_index foundLeft foundSnapshot sameLength.symm)

theorem CountedOnce.writeFails (index : Nat) :
    (history.step registry (.writeFails index)).CountedOnce := by
  rcases writeFails_cases registry history index with unchanged | failed
  · rw [unchanged]
    exact counted
  · rcases failed with ⟨recalculation, found, notWritten, stepped⟩
    rw [stepped]
    exact {
      apart := ((List.eraseIdx_sublist ..).map _).nodup counted.apart
      inProgress := fun _ _ _ found foundSnapshot =>
        { (counted.inProgress_eraseIdx found foundSnapshot).1 with }
      unwritten := by
        intro intervalSec noneWritten
        apply counted.unwritten intervalSec
        intro other member sameLength
        rcases List.mem_iff_getElem?.mp member with ⟨otherIndex, foundOther⟩
        by_cases same : otherIndex = index
        · rw [same, found] at foundOther
          rw [← Option.some.inj foundOther]
          exact notWritten
        · exact noneWritten other
            (List.mem_eraseIdx_iff_getElem?.mpr ⟨otherIndex, same, foundOther⟩) sameLength }

/-- The reset behind a write keeps the account when no report came in between. -/
theorem CountedOnce.resume (faithful : history.Faithful)
    {index : Nat} {now : Int} (undisturbed : history.Undisturbed (.resume index now)) :
    (history.step registry (.resume index now)).CountedOnce := by
  rcases faithful.resume_cases registry index now with unchanged | reset
  · rw [unchanged]
    exact counted
  · rcases reset with ⟨recalculation, snapshot, found, foundSnapshot, reads, written⟩
    have readAll : snapshot.count = history.reports.length :=
      undisturbed recalculation found snapshot foundSnapshot written
    have started := counted.inProgress index recalculation snapshot found foundSnapshot
    rw [step_resume registry now found reads written]
    exact {
      apart := ((List.eraseIdx_sublist ..).map _).nodup counted.apart
      inProgress := by
        intro otherIndex other otherSnapshot foundOther foundOtherSnapshot
        rcases counted.inProgress_eraseIdx foundOther foundOtherSnapshot with
          ⟨remains, otherLength⟩
        have lengthsDiffer := Ne.symm (otherLength snapshot foundSnapshot)
        exact {
          first := by
            simp only [Function.update_of_ne lengthsDiffer]
            exact remains.first
          counted := remains.counted }
      unwritten := by
        intro intervalSec noneWritten
        by_cases same : intervalSec = snapshot.intervalSec
        · simp only [same, Function.update_self]
          rw [← readAll]
          exact started.counted written
        · simp only [Function.update_of_ne same]
          apply counted.unwritten intervalSec
          intro other member sameLength
          rcases List.mem_iff_getElem?.mp member with ⟨otherIndex, foundOther⟩
          apply noneWritten other _ sameLength
          apply List.mem_eraseIdx_iff_getElem?.mpr
          refine ⟨otherIndex, ?_, foundOther⟩
          intro sameIndex
          rw [sameIndex, found] at foundOther
          rw [← Option.some.inj foundOther, reads.intervalSec] at sameLength
          exact same sameLength.symm }

theorem CountedOnce.step (faithful : history.Faithful)
    {event : AggregationEvent} (undisturbed : history.Undisturbed event) :
    (history.step registry event).CountedOnce := by
  cases event with
  | attributeChanged nodeId change timestamp => exact counted.attributeChanged
  | recalculateAggregatesFor intervalSec now => exact counted.recalculate faithful undisturbed
  | write index => exact counted.write faithful index
  | writeFails index => exact counted.writeFails index
  | resume index now => exact counted.resume faithful undisturbed

end

theorem countedOnce_run (firedAt : AggregateInterval → Int) {events : List AggregationEvent}
    (undisturbed : Along (step registry) Undisturbed (start firedAt) events) :
    (run (step registry) (start firedAt) events).CountedOnce := by
  have along := undisturbed.and_invariant Faithful
    (fun history event faithful => faithful.step event) (faithful_start firedAt)
  apply run_invariant_along CountedOnce _ (countedOnce_start firedAt) along
  intro history event condition counted
  exact counted.step condition.1 condition.2

/-- A run in which no recalculation is disturbed loses no report. -/
theorem run_accounted (registry : Nat → Option String) (firedAt : AggregateInterval → Int)
    {events earlier : List AggregationEvent}
    (undisturbed : Along (step registry) Undisturbed (start firedAt) events)
    (reached : earlier <+: events) :
    (run (step registry) (start firedAt) earlier).Accounted := by
  rcases reached with ⟨later, rfl⟩
  rw [along_append] at undisturbed
  exact (countedOnce_run firedAt undisturbed.1).accounted (faithful_run registry firedAt earlier)

def undisturbedEvents : List AggregationEvent :=
  [temperatureChanged 1 2 20 5000,
    .recalculateAggregatesFor .tenSeconds 10000,
    .write 0,
    .resume 0 10001,
    temperatureChanged 1 2 21 15000]

theorem undisturbedEvents_accounted :
    (run (step aggregatedClusters) (start fun _ => 0) undisturbedEvents).Accounted := by
  exact run_accounted aggregatedClusters (fun _ => 0) (by decide) (List.prefix_refl _)

/-- The second value arrives while the average of the first is written. -/
def disturbedEvents : List AggregationEvent :=
  [temperatureChanged 1 2 20 5000,
    .recalculateAggregatesFor .tenSeconds 10000,
    .write 0,
    temperatureChanged 1 2 21 10001,
    .resume 0 10002]

theorem disturbedEvents_not_accounted :
    ¬(run (step aggregatedClusters) (start fun _ => 0) disturbedEvents).Accounted := by
  intro accounted
  have second := accounted .tenSeconds 1 (by decide)
  revert second
  decide

end MatterJs.Broker.History
