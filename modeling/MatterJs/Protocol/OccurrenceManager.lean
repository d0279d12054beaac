import Mathlib.Data.List.Infix
import MatterJs.Protocol.VolatileEventStore

/-! The index of the stored events, and how it is culled when there are too many. -/

namespace MatterJs.Protocol

open Execution

structure BufferConfig where
  minEventAllowance : Nat
  maxEventAllowance : Nat
  minPriorityEventAllowance : EventPriority → Nat

/-- How a call that deletes an event goes on. An error of the promise is only logged. -/
inductive DeleteOutcome where
  | done
  | pending
  | throws
  deriving DecidableEq

abbrev OccurrenceIndex := EventPriority → List OccurrenceSummary

/-- `cull` tells whether deletions of an earlier cull are under way. -/
structure OccurrenceManager where
  storedEventCount : Int
  occurrences : OccurrenceIndex
  cull : Bool

namespace OccurrenceManager

def load (index : List OccurrenceSummary) : OccurrenceManager where
  storedEventCount := index.length
  occurrences priority := index.filter (·.priority = priority)
  cull := false

/-- The loop that counts the entries to drop: what is left of `count`, and
`countThisPriority`. -/
def countDropped (length reservation : Nat) : Nat → Nat → Nat × Nat
  | 0, countThisPriority => (0, countThisPriority)
  | count + 1, countThisPriority =>
    if length > reservation then
      countDropped length reservation count (countThisPriority + 1)
    else (count + 1, countThisPriority)

structure Culling where
  occurrences : OccurrenceIndex
  totalCulled : Nat
  /-- The entries whose deletion was called. -/
  deleted : List OccurrenceSummary

/-- The calls of `delete` for the entries that are dropped. One that throws is the last. -/
def deleteAll (delete : OccurrenceSummary → DeleteOutcome) :
    List OccurrenceSummary → List OccurrenceSummary
  | [] => []
  | entry :: entries =>
    if delete entry = .throws then [entry] else entry :: deleteAll delete entries

/-- The loop over the priorities, and whether a call of `delete` has thrown. -/
def dropByPriority (config : BufferConfig) (delete : OccurrenceSummary → DeleteOutcome) :
    List EventPriority → Nat → Culling → Culling × Bool
  | [], _, culling => (culling, false)
  | priority :: priorities, count, culling =>
    let occurrences := culling.occurrences priority
    let reservation := config.minPriorityEventAllowance priority
    let (count, countThisPriority) := countDropped occurrences.length reservation count 0
    let dropped := occurrences.take countThisPriority
    let culling :=
      { occurrences :=
          Function.update culling.occurrences priority (occurrences.drop countThisPriority)
        totalCulled := culling.totalCulled + countThisPriority
        deleted := culling.deleted ++ deleteAll delete dropped }
    if ∃ entry ∈ dropped, delete entry = .throws then (culling, true)
    else if count = 0 then (culling, false)
    else dropByPriority config delete priorities count culling

variable (config : BufferConfig) (delete : OccurrenceSummary → DeleteOutcome)
  (manager : OccurrenceManager)

/-- Also the entries whose deletion was called. -/
def dropOldOccurrences : OccurrenceManager × List OccurrenceSummary :=
  let count := manager.storedEventCount - config.minEventAllowance
  if count ≤ 0 then (manager, [])
  else
    match dropByPriority config delete [.debug, .info, .critical] count.toNat
        { occurrences := manager.occurrences, totalCulled := 0, deleted := [] } with
    | (culling, true) =>
      ({ manager with occurrences := culling.occurrences }, culling.deleted)
    | (culling, false) =>
      ({ storedEventCount := manager.storedEventCount - culling.totalCulled
         occurrences := culling.occurrences
         cull := culling.deleted.any (delete · = .pending) }, culling.deleted)

def startCull : OccurrenceManager × List OccurrenceSummary :=
  if manager.cull then (manager, []) else dropOldOccurrences config delete manager

def push (entry : OccurrenceSummary) : OccurrenceManager :=
  { manager with
    storedEventCount := manager.storedEventCount + 1
    occurrences := Function.update manager.occurrences entry.priority
      (manager.occurrences entry.priority ++ [entry]) }

/-- `add` from the store's answer on. -/
def add (entry : OccurrenceSummary) : OccurrenceManager × List OccurrenceSummary :=
  let manager := manager.push entry
  if manager.storedEventCount > config.maxEventAllowance then startCull config delete manager
  else (manager, [])

end OccurrenceManager

inductive ManagerEvent where
  /-- The store has added an event; how it takes deletions then. -/
  | added (entry : OccurrenceSummary) (delete : OccurrenceSummary → DeleteOutcome)
  /-- The deletions of a cull have ended. -/
  | culled
  /-- The store has been cleared. -/
  | cleared

namespace OccurrenceManager

def step (config : BufferConfig) (manager : OccurrenceManager) :
    ManagerEvent → OccurrenceManager
  | .added entry delete => (manager.add config delete entry).1
  | .culled => { manager with cull := false }
  | .cleared => { manager with storedEventCount := 0, occurrences := fun _ => [] }

variable {config : BufferConfig} {delete : OccurrenceSummary → DeleteOutcome}
  {index : OccurrenceIndex} {manager : OccurrenceManager}

/-! ## The loops -/

theorem countDropped_eq (length reservation count countThisPriority : Nat) :
    countDropped length reservation count countThisPriority =
      if reservation < length then (0, countThisPriority + count)
      else (count, countThisPriority) := by
  induction count generalizing countThisPriority with
  | zero =>
    split <;> rfl
  | succ count induction =>
    rw [countDropped, induction]
    by_cases tooMany : reservation < length
    · rw [if_pos tooMany, if_pos tooMany, if_pos tooMany, Nat.add_assoc, Nat.add_comm 1]
    · rw [if_neg tooMany, if_neg tooMany]

def Over (config : BufferConfig) (index : OccurrenceIndex) (priority : EventPriority) : Prop :=
  config.minPriorityEventAllowance priority < (index priority).length

instance : DecidablePred (Over config index) := fun _ =>
  inferInstanceAs (Decidable (_ < _))

/-- The first of the priorities with more entries than are reserved gives all that is to be
dropped. -/
theorem dropByPriority_eq (priorities : List EventPriority) {count : Nat} (positive : 0 < count)
    (culling : Culling) :
    dropByPriority config delete priorities count culling =
      match priorities.find? (Over config culling.occurrences ·) with
      | none => (culling, false)
      | some priority =>
        let occurrences := culling.occurrences priority
        ({ occurrences :=
             Function.update culling.occurrences priority (occurrences.drop count)
           totalCulled := culling.totalCulled + count
           deleted := culling.deleted ++ deleteAll delete (occurrences.take count) },
          decide (∃ entry ∈ occurrences.take count, delete entry = .throws)) := by
  induction priorities with
  | nil => rfl
  | cons priority priorities induction =>
    rw [dropByPriority, List.find?_cons, countDropped_eq]
    by_cases isOver : Over config culling.occurrences priority
    · have tooMany : config.minPriorityEventAllowance priority <
          (culling.occurrences priority).length := isOver
      rw [if_pos tooMany, decide_eq_true isOver, Nat.zero_add]
      dsimp only
      by_cases thrown : ∃ entry ∈ (culling.occurrences priority).take count, delete entry = .throws
      · rw [if_pos thrown, decide_eq_true thrown]
      · rw [if_neg thrown, if_pos rfl, decide_eq_false thrown]
    · have notTooMany : ¬config.minPriorityEventAllowance priority <
          (culling.occurrences priority).length := isOver
      rw [if_neg notTooMany, decide_eq_false isOver]
      have unchanged : Function.update culling.occurrences priority
          ((culling.occurrences priority).drop 0) = culling.occurrences :=
        Function.update_eq_self priority culling.occurrences
      simp only [List.take_zero, unchanged, deleteAll, List.append_nil, Nat.ne_of_gt positive]
      exact induction

/-! ## What a cull should do -/

def total (index : OccurrenceIndex) : Nat :=
  (index .critical).length + (index .info).length + (index .debug).length

/-- The priorities in the order in which they are dropped. -/
def EventPriority.rank : EventPriority → Nat
  | .debug => 0
  | .info => 1
  | .critical => 2

structure Respects (config : BufferConfig) (before after : OccurrenceIndex) : Prop where
  oldestFirst : ∀ priority, after priority <:+ before priority
  reserved : ∀ priority,
    min (config.minPriorityEventAllowance priority) (before priority).length ≤
      (after priority).length
  lowerFirst : ∀ priority, after priority ≠ before priority →
    ∀ lower, EventPriority.rank lower < EventPriority.rank priority →
      (after lower).length ≤ config.minPriorityEventAllowance lower
  reduced : total after = config.minEventAllowance ∨
    ∀ priority, (after priority).length ≤ config.minPriorityEventAllowance priority

def Counted (manager : OccurrenceManager) : Prop :=
  manager.storedEventCount = total manager.occurrences

def Culls (config : BufferConfig) (manager : OccurrenceManager) (entry : OccurrenceSummary) :
    Prop :=
  (manager.push entry).storedEventCount > config.maxEventAllowance ∧ manager.cull = false ∧
    config.minEventAllowance < (manager.push entry).storedEventCount

instance (entry : OccurrenceSummary) : Decidable (Culls config manager entry) :=
  inferInstanceAs (Decidable (_ ∧ _ ∧ _))

/-- The step keeps the count, and nothing is dropped but by a cull that does what it should. -/
def StepRespects (config : BufferConfig) (manager : OccurrenceManager) (event : ManagerEvent) :
    Prop :=
  (manager.step config event).Counted ∧
    ∀ entry delete, event = .added entry delete →
      if Culls config manager entry then
        Respects config (manager.push entry).occurrences (manager.step config event).occurrences
      else (manager.step config event).occurrences = (manager.push entry).occurrences

/-- The first of the priorities with more entries than are reserved. -/
def firstOver (config : BufferConfig) (index : OccurrenceIndex) : Option EventPriority :=
  [.debug, .info, .critical].find? (Over config index ·)

/-- When a cull starts, the first priority with more entries than are reserved can give all
that is to be dropped, and no deletion throws. -/
def StepFits (config : BufferConfig) (manager : OccurrenceManager) : ManagerEvent → Prop
  | .added entry delete =>
    Culls config manager entry →
      let index := (manager.push entry).occurrences
      let count := total index - config.minEventAllowance
      ∀ priority, firstOver config index = some priority →
        config.minPriorityEventAllowance priority + count ≤ (index priority).length ∧
          ∀ dropped ∈ (index priority).take count, delete dropped ≠ .throws
  | _ => True

theorem total_update (index : OccurrenceIndex) (priority : EventPriority)
    (entries : List OccurrenceSummary) :
    total (Function.update index priority entries) + (index priority).length =
      total index + entries.length := by
  cases priority <;> simp [total] <;> omega

theorem Counted.push (counted : manager.Counted) (entry : OccurrenceSummary) :
    (manager.push entry).Counted := by
  have updated := total_update manager.occurrences entry.priority
    (manager.occurrences entry.priority ++ [entry])
  rw [List.length_append, List.length_singleton] at updated
  have before : manager.storedEventCount = total manager.occurrences := counted
  show manager.storedEventCount + 1 = (total (Function.update _ _ _) : Int)
  omega

theorem total_filter (index : List OccurrenceSummary) :
    total (fun priority => index.filter (·.priority = priority)) = index.length := by
  induction index with
  | nil => rfl
  | cons entry index induction =>
    have ranks : ∀ priority : EventPriority, priority = .critical ∨ priority = .info ∨
        priority = .debug := by
      rintro (_ | _ | _) <;> simp
    rw [List.length_cons, ← induction, total, total]
    rcases ranks entry.priority with isPriority | isPriority | isPriority
    all_goals
      simp [isPriority]
      omega

theorem load_counted (index : List OccurrenceSummary) : (load index).Counted :=
  congrArg Nat.cast (total_filter index).symm

/-! ## What a step does -/

def culled (config : BufferConfig) (delete : OccurrenceSummary → DeleteOutcome)
    (manager : OccurrenceManager) (count : Nat) : OccurrenceManager :=
  match firstOver config manager.occurrences with
  | none => manager
  | some priority =>
    let occurrences := Function.update manager.occurrences priority
      ((manager.occurrences priority).drop count)
    let dropped := (manager.occurrences priority).take count
    if ∃ entry ∈ dropped, delete entry = .throws then { manager with occurrences }
    else
      { storedEventCount := manager.storedEventCount - count
        occurrences
        cull := (deleteAll delete dropped).any (delete · = .pending) }

theorem dropOldOccurrences_eq (idle : manager.cull = false)
    (many : (config.minEventAllowance : Int) < manager.storedEventCount) :
    (dropOldOccurrences config delete manager).1 =
      culled config delete manager
        (manager.storedEventCount - config.minEventAllowance).toNat := by
  rw [dropOldOccurrences, if_neg (by omega), dropByPriority_eq _ (by omega), culled, firstOver]
  cases [EventPriority.debug, .info, .critical].find? (Over config manager.occurrences ·) with
  | none =>
    rcases manager with ⟨storedEventCount, occurrences, cull⟩
    cases idle
    simp
  | some priority =>
    dsimp only
    by_cases thrown : ∃ entry ∈ (manager.occurrences priority).take
        (manager.storedEventCount - config.minEventAllowance).toNat, delete entry = .throws
    · rw [if_pos thrown, decide_eq_true thrown]
    · rw [if_neg thrown, decide_eq_false thrown, Nat.zero_add, List.nil_append]

section

variable {entry : OccurrenceSummary}

theorem step_added_of_not_culls (quiet : ¬Culls config manager entry) :
    manager.step config (.added entry delete) = manager.push entry := by
  rw [step, add]
  by_cases full : (manager.push entry).storedEventCount > config.maxEventAllowance
  · rw [if_pos full, startCull]
    by_cases culling : manager.cull = true
    · rw [if_pos (by exact culling)]
    · rw [if_neg (by exact culling), dropOldOccurrences]
      have few : ¬(config.minEventAllowance : Int) < (manager.push entry).storedEventCount :=
        fun many => quiet ⟨full, (Bool.not_eq_true _).mp culling, many⟩
      rw [if_pos (by omega)]
  · rw [if_neg full]

theorem step_added_of_culls (counted : manager.Counted) (culls : Culls config manager entry) :
    manager.step config (.added entry delete) =
      culled config delete (manager.push entry)
        (total (manager.push entry).occurrences - config.minEventAllowance) := by
  rcases culls with ⟨full, idle, many⟩
  have pushedCounted : (manager.push entry).storedEventCount =
      total (manager.push entry).occurrences := counted.push entry
  have pushedIdle : (manager.push entry).cull = false := idle
  rw [step, add, if_pos full, startCull, if_neg (by rw [pushedIdle]; simp),
    dropOldOccurrences_eq pushedIdle many, pushedCounted]
  congr 1
  omega

theorem firstOver_eq (config : BufferConfig) (index : OccurrenceIndex) :
    firstOver config index =
      if Over config index .debug then some .debug
      else if Over config index .info then some .info
      else if Over config index .critical then some .critical
      else none := by
  rw [firstOver]
  split_ifs <;> simp [*]

theorem not_over_of_firstOver_none (none : firstOver config index = none)
    (priority : EventPriority) :
    (index priority).length ≤ config.minPriorityEventAllowance priority := by
  rw [firstOver_eq] at none
  split_ifs at none with debug info critical
  cases priority with
  | debug => exact Nat.le_of_not_lt debug
  | info => exact Nat.le_of_not_lt info
  | critical => exact Nat.le_of_not_lt critical

theorem firstOver_spec {priority : EventPriority}
    (isFirst : firstOver config index = some priority) :
    Over config index priority ∧
      ∀ lower, EventPriority.rank lower < EventPriority.rank priority →
        (index lower).length ≤ config.minPriorityEventAllowance lower := by
  rw [firstOver_eq] at isFirst
  split_ifs at isFirst with debug info critical
  all_goals cases isFirst
  · exact ⟨debug, fun lower isLower => absurd isLower (Nat.not_lt_zero _)⟩
  · refine ⟨info, fun lower isLower => ?_⟩
    cases lower with
    | debug => exact Nat.le_of_not_lt debug
    | _ => contradiction
  · refine ⟨critical, fun lower isLower => ?_⟩
    cases lower with
    | debug => exact Nat.le_of_not_lt debug
    | info => exact Nat.le_of_not_lt info
    | critical => contradiction

theorem respects_update_iff {priority : EventPriority}
    (isFirst : firstOver config index = some priority)
    (many : config.minEventAllowance < total index) :
    let count := total index - config.minEventAllowance
    let after := Function.update index priority ((index priority).drop count)
    (total index : Int) - count = total after ∧ Respects config index after ↔
      config.minPriorityEventAllowance priority + count ≤ (index priority).length := by
  intro count after
  rcases firstOver_spec isFirst with ⟨isFirstOver, lowerKept⟩
  have updated := total_update index priority ((index priority).drop count)
  rw [List.length_drop] at updated
  have afterTotal : total after = total (Function.update index priority
      ((index priority).drop count)) := rfl
  have changed : after priority = (index priority).drop count := Function.update_self ..
  have same {other : EventPriority} (different : other ≠ priority) : after other = index other :=
    Function.update_of_ne different _ _
  constructor
  · rintro ⟨counts, respects⟩
    have kept := respects.reserved priority
    rw [changed, List.length_drop] at kept
    omega
  · intro enough
    refine ⟨by omega, ?_⟩
    constructor
    · intro other
      by_cases isPriority : other = priority
      · rw [isPriority, changed]
        exact List.drop_suffix _ _
      · rw [same isPriority]
    · intro other
      by_cases isPriority : other = priority
      · rw [isPriority, changed, List.length_drop]
        omega
      · rw [same isPriority]
        exact Nat.min_le_right _ _
    · intro other differs lower isLower
      have isPriority : other = priority := not_not.mp fun different => differs (same different)
      have different : lower ≠ priority := by
        rintro rfl
        rw [isPriority] at isLower
        exact absurd isLower (Nat.lt_irrefl _)
      rw [same different]
      exact lowerKept lower (isPriority ▸ isLower)
    · exact .inl (by omega)

/-- A cull does what it should exactly when the priority it takes from has enough entries and
no deletion throws. -/
theorem respects_culled_iff (counted : manager.Counted)
    (many : config.minEventAllowance < total manager.occurrences) :
    let count := total manager.occurrences - config.minEventAllowance
    let after := culled config delete manager count
    after.Counted ∧ Respects config manager.occurrences after.occurrences ↔
      ∀ priority, firstOver config manager.occurrences = some priority →
        config.minPriorityEventAllowance priority + count ≤ (manager.occurrences priority).length ∧
          ∀ dropped ∈ (manager.occurrences priority).take count, delete dropped ≠ .throws := by
  intro count after
  have counts : manager.storedEventCount = total manager.occurrences := counted
  have after_eq : after = culled config delete manager count := rfl
  rw [culled] at after_eq
  cases isFirst : firstOver config manager.occurrences with
  | none =>
    rw [isFirst] at after_eq
    rw [after_eq]
    have kept := not_over_of_firstOver_none isFirst
    refine iff_of_true ⟨counted, fun _ => List.suffix_rfl, fun _ => Nat.min_le_right _ _, ?_,
      .inr kept⟩ nofun
    exact fun _ differs => absurd rfl differs
  | some priority =>
    rw [isFirst] at after_eq
    dsimp only at after_eq
    have isOver : config.minPriorityEventAllowance priority <
        (manager.occurrences priority).length := (firstOver_spec isFirst).1
    by_cases thrown : ∃ entry ∈ (manager.occurrences priority).take count, delete entry = .throws
    · rw [if_pos thrown] at after_eq
      refine iff_of_false ?_ ?_
      · rintro ⟨afterCounted, _⟩
        have updated := total_update manager.occurrences priority
          ((manager.occurrences priority).drop count)
        rw [List.length_drop] at updated
        rw [after_eq] at afterCounted
        have afterCounts : manager.storedEventCount = total (Function.update
          manager.occurrences priority ((manager.occurrences priority).drop count)) :=
          afterCounted
        omega
      · intro fits
        rcases thrown with ⟨entry, member, throws⟩
        exact (fits priority rfl).2 entry member throws
    · rw [if_neg thrown] at after_eq
      have noThrow : ∀ dropped ∈ (manager.occurrences priority).take count,
          delete dropped ≠ .throws := fun dropped member throws =>
        thrown ⟨dropped, member, throws⟩
      rw [after_eq, Counted, counts]
      refine (respects_update_iff isFirst many).trans ?_
      constructor
      · rintro enough _ ⟨⟩
        exact ⟨enough, noThrow⟩
      · intro fits
        exact (fits priority rfl).1

theorem stepRespects_iff (counted : manager.Counted) (event : ManagerEvent) :
    StepRespects config manager event ↔ StepFits config manager event := by
  cases event with
  | added entry delete =>
    have pushedCounted := counted.push entry
    rw [StepRespects, StepFits]
    by_cases culls : Culls config manager entry
    · have many : config.minEventAllowance < total (manager.push entry).occurrences := by
        have pushedCounts : (manager.push entry).storedEventCount =
            total (manager.push entry).occurrences := pushedCounted
        have := culls.2.2
        omega
      have respects := @respects_culled_iff config delete _ pushedCounted many
      dsimp only at respects
      rw [← step_added_of_culls counted culls] at respects
      constructor
      · rintro ⟨afterCounted, dropped⟩ _
        have dropped := dropped entry delete rfl
        rw [if_pos culls] at dropped
        exact respects.mp ⟨afterCounted, dropped⟩
      · intro fits
        rcases respects.mpr (fits culls) with ⟨afterCounted, dropped⟩
        refine ⟨afterCounted, ?_⟩
        rintro _ _ ⟨⟩
        rw [if_pos culls]
        exact dropped
    · rw [step_added_of_not_culls culls]
      refine iff_of_true ⟨pushedCounted, ?_⟩ fun starts => absurd starts culls
      rintro _ _ ⟨⟩
      rw [if_neg culls]
  | culled => exact iff_of_true ⟨counted, nofun⟩ trivial
  | cleared => exact iff_of_true ⟨rfl, nofun⟩ trivial

/-- In every run, the count is right and every cull does what it should exactly when at every
cull the priority it takes from has enough entries. -/
theorem stepRespects_run_iff (config : BufferConfig) (index : List OccurrenceSummary)
    (events : List ManagerEvent) :
    Along (step config) (StepRespects config) (load index) events ↔
      Along (step config) (StepFits config) (load index) events := by
  apply along_iff_along Counted (load_counted index)
  · intro manager event fits counted
    exact ((stepRespects_iff counted event).mpr fits).1
  · intro manager event counted
    exact stepRespects_iff counted event

end

def oneReserved : BufferConfig where
  minEventAllowance := 3
  maxEventAllowance := 6
  minPriorityEventAllowance _ := 1

def eventAdded (number : Int) (priority : EventPriority) : ManagerEvent :=
  .added { number, priority, endpointId := 0, clusterId := 0, eventId := 0 } fun _ => .done

/-- Two debug events, and then more of another priority than there is room for. -/
def fewDebugEvents : List ManagerEvent :=
  [eventAdded 1 .debug, eventAdded 2 .debug, eventAdded 3 .info, eventAdded 4 .info,
    eventAdded 5 .info, eventAdded 6 .info, eventAdded 7 .info]

/-- Both debug events are dropped, and four are counted. -/
theorem fewDebugEvents_miscounted :
    let manager := run (step oneReserved) (load []) fewDebugEvents
    manager.storedEventCount = 3 ∧ total manager.occurrences = 5 ∧
      (manager.occurrences .debug).length < oneReserved.minPriorityEventAllowance .debug ∧
      ¬Along (step oneReserved) (StepRespects oneReserved) (load []) fewDebugEvents := by
  refine ⟨by decide, by decide, by decide, fun respects => ?_⟩
  rw [along_iff_forall_cut] at respects
  have last := respects (fewDebugEvents.take 6) (eventAdded 7 .info) [] rfl
  exact absurd (show ((run (step oneReserved) (load []) (fewDebugEvents.take 6)).step oneReserved
    (eventAdded 7 .info)).Counted from last.1) (by unfold Counted; decide)

end OccurrenceManager

end MatterJs.Protocol
