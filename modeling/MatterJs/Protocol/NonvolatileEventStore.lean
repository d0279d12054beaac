import Mathlib.Data.List.ReduceOption
import MatterJs.Protocol.OccurrenceManager

namespace MatterJs.Protocol

/-! The event store that keeps its events in the storage, under a manager that culls them: the
event numbers it assigns from one restart to the next. -/

variable {Payload : Type}

/-- What the store finds in its storage, the events under the numbers their keys are written
from. A stored event is `none` where it is no object. -/
structure NonvolatileEventStorage (Payload : Type) where
  /-- The value stored as `lastEventNumber`, `none` within where `BigInt` does not read it. -/
  lastReservedNumber : Option (Option Int)
  events : OrderedMap Int (Option (Occurrence Payload))

namespace NonvolatileEventStorage

/-- What `loadInitialState` reads. -/
def toEventStorage (storage : NonvolatileEventStorage Payload) : EventStorage where
  lastReservedNumber := storage.lastReservedNumber
  eventKeys := storage.events.keys.map some

def nextNumber (storage : NonvolatileEventStorage Payload) : Int :=
  storage.toEventStorage.nextNumber

def index (storage : NonvolatileEventStorage Payload) : List OccurrenceSummary :=
  storage.events.entries.filterMap fun (number, occurrence) =>
    occurrence.map (OccurrenceSummary.of number)

def setEvent (storage : NonvolatileEventStorage Payload) (number : Int)
    (occurrence : Occurrence Payload) : NonvolatileEventStorage Payload :=
  { storage with events := storage.events.set number (some occurrence) }

def deleteEvents (storage : NonvolatileEventStorage Payload)
    (dropped : List OccurrenceSummary) : NonvolatileEventStorage Payload :=
  { storage with
    events := dropped.foldl (fun events entry => events.delete entry.number) storage.events }

end NonvolatileEventStorage

structure NonvolatileEventStore (Payload : Type) where
  storage : NonvolatileEventStorage Payload
  nextNumber : Int
  removeNumberReservation : Bool

namespace NonvolatileEventStore

/-- A new store after `load`. -/
def load (storage : NonvolatileEventStorage Payload) : NonvolatileEventStore Payload where
  storage := storage
  nextNumber := storage.nextNumber
  removeNumberReservation := storage.toEventStorage.reservationEnd.isSome

/-- `add` up to the write of the event. -/
def add (store : NonvolatileEventStore Payload) (occurrence : Occurrence Payload) :
    NonvolatileEventStore Payload :=
  { store with
    storage := store.storage.setEvent store.nextNumber occurrence
    nextNumber := store.nextNumber + 1 }

/-- The callback of the write. -/
def written (store : NonvolatileEventStore Payload) : NonvolatileEventStore Payload :=
  if store.removeNumberReservation then
    { store with
      storage := { store.storage with lastReservedNumber := none }
      removeNumberReservation := false }
  else store

end NonvolatileEventStore

/-! ## Runs with restarts -/

/-- A store and its manager, with every number the store took before and since a restart. -/
structure EventHistory (Payload : Type) where
  store : NonvolatileEventStore Payload
  manager : OccurrenceManager
  /-- The events whose write has yet to call back. -/
  writes : List OccurrenceSummary
  /-- The events that the store has yet to hand to the manager. -/
  added : List OccurrenceSummary
  assigned : List Int

inductive EventHistoryStep (Payload : Type) where
  | add (occurrence : Occurrence Payload)
  | written (index : Nat)
  /-- The store hands an event to the manager; how it takes deletions then. -/
  | added (index : Nat) (delete : OccurrenceSummary → DeleteOutcome)
  /-- The deletions of a cull have ended. -/
  | culled
  /-- The process stops, with its memory, and starts again. -/
  | restart

namespace EventHistory

open Execution

def load (storage : NonvolatileEventStorage Payload) (assigned : List Int) :
    EventHistory Payload where
  store := .load storage
  manager := .load storage.index
  writes := []
  added := []
  assigned := assigned

/-- The storage takes every write and every deletion when it is called. -/
def step (config : BufferConfig) (history : EventHistory Payload) :
    EventHistoryStep Payload → EventHistory Payload
  | .add occurrence =>
    { history with
      store := history.store.add occurrence
      writes := history.writes ++ [OccurrenceSummary.of history.store.nextNumber occurrence]
      assigned := history.assigned ++ [history.store.nextNumber] }
  | .written index =>
    match history.writes[index]? with
    | some entry =>
      { history with
        store := history.store.written
        writes := history.writes.eraseIdx index
        added := history.added ++ [entry] }
    | none => history
  | .added index delete =>
    match history.added[index]? with
    | some entry =>
      let (manager, dropped) := history.manager.add config delete entry
      { history with
        store := { history.store with
          storage := history.store.storage.deleteEvents
            (dropped.filter (delete · ≠ .throws)) }
        manager := manager
        added := history.added.eraseIdx index }
    | none => history
  | .culled => { history with manager := { history.manager with cull := false } }
  | .restart => load history.store.storage history.assigned

/-- A restart from the storage goes on above the number: an event that is not below it is
still stored, or numbers are reserved beyond it. -/
def Covered (storage : NonvolatileEventStorage Payload) (number : Int) : Prop :=
  (∃ stored ∈ storage.events.keys, number ≤ stored) ∨
    (∃ reservationEnd, storage.toEventStorage.reservationEnd = some reservationEnd ∧
      number < reservationEnd) ∨
    (storage.events.keys = [] ∧ storage.toEventStorage.reservationEnd = none ∧ number < 1)

/-- Wherever the process is restarted and takes another event, the storage covers every
number assigned up to there. -/
def RestartsCovered (config : BufferConfig) (history : EventHistory Payload)
    (events : List (EventHistoryStep Payload)) : Prop :=
  ∀ earlier later, events = earlier ++ .restart :: later →
    (∃ occurrence, .add occurrence ∈ later) →
      ∀ number ∈ (run (step config) history earlier).assigned,
        Covered (run (step config) history earlier).store.storage number

def Increasing (history : EventHistory Payload) : Prop := history.assigned.Pairwise (· < ·)

theorem lt_foldl_numberAfter_some (number next : Int) (eventIds : List Int) :
    ∃ after, eventIds.foldl EventStorage.numberAfter (some next) = some after ∧
      (number < after ↔ number < next ∨ ∃ stored ∈ eventIds, number ≤ stored) := by
  induction eventIds generalizing next with
  | nil => exact ⟨next, rfl, by simp⟩
  | cons stored eventIds induction =>
    rw [List.foldl_cons, EventStorage.numberAfter]
    by_cases reached : next ≤ stored
    · rcases induction (stored + 1) with ⟨after, isAfter, below⟩
      rw [if_pos reached]
      refine ⟨after, isAfter, below.trans ?_⟩
      rw [List.exists_mem_cons_iff, ← or_assoc]
      exact or_congr_left (by omega)
    · rcases induction next with ⟨after, isAfter, below⟩
      rw [if_neg reached]
      refine ⟨after, isAfter, below.trans ?_⟩
      rw [List.exists_mem_cons_iff, ← or_assoc]
      exact or_congr_left (by omega)

theorem covered_iff_lt_nextNumber (storage : NonvolatileEventStorage Payload) (number : Int) :
    Covered storage number ↔ number < storage.nextNumber := by
  have eventIds : storage.toEventStorage.eventIds = storage.events.keys := by
    rw [EventStorage.eventIds, NonvolatileEventStorage.toEventStorage, List.reduceOption,
      List.filterMap_map]
    exact List.filterMap_some
  rw [Covered, NonvolatileEventStorage.nextNumber, EventStorage.nextNumber, eventIds]
  cases storage.toEventStorage.reservationEnd with
  | some reservationEnd =>
    rcases lt_foldl_numberAfter_some number reservationEnd storage.events.keys with
      ⟨after, isAfter, below⟩
    rw [isAfter, Option.getD_some, below]
    simp [or_comm]
  | none =>
    cases storage.events.keys with
    | nil => simp
    | cons stored keys =>
      rcases lt_foldl_numberAfter_some number (stored + 1) keys with ⟨after, isAfter, below⟩
      rw [List.foldl_cons, EventStorage.numberAfter, isAfter, Option.getD_some, below,
        Int.lt_add_one_iff]
      simp

variable {config : BufferConfig} {history : EventHistory Payload}

/-- Every number that was taken is below the next one. -/
structure GoesUp (history : EventHistory Payload) : Prop where
  increasing : history.Increasing
  belowNext : ∀ number ∈ history.assigned, number < history.store.nextNumber

theorem goesUp_add (goesUp : history.GoesUp) (occurrence : Occurrence Payload) :
    (history.step config (.add occurrence)).GoesUp where
  increasing := by
    refine List.pairwise_append.mpr ⟨goesUp.increasing, List.pairwise_singleton _ _, ?_⟩
    intro number earlier next isNext
    rw [List.mem_singleton.mp isNext]
    exact goesUp.belowNext number earlier
  belowNext := by
    intro number member
    rcases List.mem_append.mp member with earlier | isNext
    · exact Int.lt_trans (goesUp.belowNext number earlier) (Int.lt_succ _)
    · rw [List.mem_singleton.mp isNext]
      exact Int.lt_succ _

theorem step_keeps (history : EventHistory Payload) {event : EventHistoryStep Payload}
    (running : event ≠ .restart) (noAdd : ∀ occurrence, event ≠ .add occurrence) :
    (history.step config event).assigned = history.assigned ∧
      (history.step config event).store.nextNumber = history.store.nextNumber := by
  cases event with
  | add occurrence => exact absurd rfl (noAdd occurrence)
  | written index =>
    rw [step]
    split
    · refine ⟨rfl, ?_⟩
      rw [NonvolatileEventStore.written]
      split <;> rfl
    · exact ⟨rfl, rfl⟩
  | added index delete =>
    rw [step]
    split <;> exact ⟨rfl, rfl⟩
  | culled => exact ⟨rfl, rfl⟩
  | restart => exact absurd rfl running

theorem goesUp_step (goesUp : history.GoesUp) {event : EventHistoryStep Payload}
    (running : event ≠ .restart) : (history.step config event).GoesUp := by
  by_cases noAdd : ∀ occurrence, event ≠ .add occurrence
  · rcases @step_keeps Payload config history event running noAdd with ⟨assigned, nextNumber⟩
    constructor
    · rw [Increasing, assigned]
      exact goesUp.increasing
    · rw [assigned, nextNumber]
      exact goesUp.belowNext
  · push Not at noAdd
    rcases noAdd with ⟨occurrence, rfl⟩
    exact goesUp_add goesUp occurrence

theorem assigned_prefix_run (history : EventHistory Payload)
    (events : List (EventHistoryStep Payload)) :
    history.assigned <+: (run (step config) history events).assigned := by
  induction events generalizing history with
  | nil => exact List.prefix_refl _
  | cons event events induction =>
    refine List.IsPrefix.trans ?_ (induction (history.step config event))
    cases event with
    | add occurrence => exact List.prefix_append _ _
    | restart => exact List.prefix_refl _
    | written | added | culled =>
      rw [(step_keeps history (by nofun) (by nofun)).1]

theorem assigned_run_of_no_add {events : List (EventHistoryStep Payload)}
    (noAdd : ∀ occurrence, .add occurrence ∉ events) :
    (run (step config) history events).assigned = history.assigned := by
  induction events generalizing history with
  | nil => rfl
  | cons event events induction =>
    rw [run_cons, induction fun occurrence later => noAdd occurrence (.tail event later)]
    cases event with
    | add occurrence => exact absurd List.mem_cons_self (noAdd occurrence)
    | restart => rfl
    | written | added | culled => exact (step_keeps history (by nofun) (by nofun)).1

theorem step_load (storage : NonvolatileEventStorage Payload) (assigned : List Int)
    {event : EventHistoryStep Payload} (noAdd : ∀ occurrence, event ≠ .add occurrence) :
    (load storage assigned).step config event = load storage assigned := by
  cases event with
  | add occurrence => exact absurd rfl (noAdd occurrence)
  | written | added | culled | restart => rfl

theorem not_increasing_of_not_covered {storage : NonvolatileEventStorage Payload}
    {assigned : List Int} {number : Int} (earlier : number ∈ assigned)
    (notCovered : ¬Covered storage number) {events : List (EventHistoryStep Payload)}
    (adds : ∃ occurrence, .add occurrence ∈ events) :
    ¬(run (step config) (load storage assigned) events).Increasing := by
  induction events with
  | nil => exact absurd adds (by simp)
  | cons event events induction =>
    by_cases noAdd : ∀ occurrence, event ≠ .add occurrence
    · rw [run_cons, step_load storage assigned noAdd]
      rcases adds with ⟨occurrence, member⟩
      rcases List.mem_cons.mp member with isFirst | later
      · exact absurd isFirst.symm (noAdd occurrence)
      · exact induction ⟨occurrence, later⟩
    · push Not at noAdd
      rcases noAdd with ⟨occurrence, rfl⟩
      intro increasing
      have kept := @assigned_prefix_run Payload config
        ((load storage assigned).step config (.add occurrence)) events
      have first : (assigned ++ [storage.nextNumber]).Pairwise (· < ·) :=
        increasing.sublist kept.sublist
      apply notCovered
      rw [covered_iff_lt_nextNumber]
      exact (List.pairwise_append.mp first).2.2 number earlier _ List.mem_cons_self

theorem restartsCovered_cons_iff {event : EventHistoryStep Payload} (running : event ≠ .restart)
    (events : List (EventHistoryStep Payload)) :
    RestartsCovered config history (event :: events) ↔
      RestartsCovered config (history.step config event) events := by
  constructor
  · intro covered earlier later split
    exact covered (event :: earlier) later (by rw [split, List.cons_append])
  · intro covered earlier later split
    cases earlier with
    | nil => exact absurd (List.cons.inj split).1 running
    | cons first earlier =>
      rcases List.cons.inj split with ⟨rfl, rest⟩
      exact covered earlier later rest

theorem restartsCovered_restart_iff (events : List (EventHistoryStep Payload)) :
    RestartsCovered config history (.restart :: events) ↔
      ((∃ occurrence, .add occurrence ∈ events) →
        ∀ number ∈ history.assigned, Covered history.store.storage number) ∧
      RestartsCovered config (history.step config .restart) events := by
  constructor
  · intro covered
    refine ⟨covered [] events rfl, ?_⟩
    intro earlier later split
    exact covered (.restart :: earlier) later (by rw [split, List.cons_append])
  · rintro ⟨first, covered⟩ earlier later split
    cases earlier with
    | nil =>
      rcases List.cons.inj split with ⟨_, rfl⟩
      exact first
    | cons _ earlier =>
      rcases List.cons.inj split with ⟨rfl, rest⟩
      exact covered earlier later rest

theorem increasing_run_iff_of_goesUp (goesUp : history.GoesUp)
    (events : List (EventHistoryStep Payload)) :
    (run (step config) history events).Increasing ↔ RestartsCovered config history events := by
  induction events generalizing history with
  | nil => exact iff_of_true goesUp.increasing fun earlier later split => by simp at split
  | cons event events induction =>
    rw [run_cons]
    by_cases running : event ≠ .restart
    · rw [restartsCovered_cons_iff running]
      exact induction (goesUp_step goesUp running)
    · rw [not_not.mp running, restartsCovered_restart_iff]
      by_cases covered : ∀ number ∈ history.assigned, Covered history.store.storage number
      · have reloaded : (history.step config .restart).GoesUp := by
          refine ⟨goesUp.increasing, fun number earlier => ?_⟩
          exact (covered_iff_lt_nextNumber _ _).mp (covered number earlier)
        rw [induction reloaded, and_iff_right fun _ => covered]
      · by_cases adds : ∃ occurrence, .add occurrence ∈ events
        · push Not at covered
          rcases covered with ⟨number, earlier, notCovered⟩
          refine iff_of_false (not_increasing_of_not_covered earlier notCovered adds) ?_
          exact fun both => notCovered (both.1 adds number earlier)
        · have noAdd : ∀ occurrence, .add occurrence ∉ events := not_exists.mp adds
          refine iff_of_true ?_ ⟨fun does => absurd does adds, ?_⟩
          · rw [Increasing, assigned_run_of_no_add noAdd]
            exact goesUp.increasing
          · rintro earlier later rfl ⟨occurrence, member⟩
            exact absurd (List.mem_append_right _ (.tail _ member)) (noAdd occurrence)

/-- In every run, from any storage, the numbers go up exactly when each restart that takes
another event finds the numbers assigned before it covered. -/
theorem increasing_run_iff (config : BufferConfig) (storage : NonvolatileEventStorage Payload)
    (events : List (EventHistoryStep Payload)) :
    (run (step config) (load storage []) events).Increasing ↔
      RestartsCovered config (load storage []) events := by
  have goesUp : (load storage []).GoesUp :=
    ⟨List.Pairwise.nil, fun _ member => nomatch member⟩
  exact increasing_run_iff_of_goesUp goesUp events

def noneReserved : BufferConfig where
  minEventAllowance := 2
  maxEventAllowance := 2
  minPriorityEventAllowance _ := 0

def recorded (priority : EventPriority) : List (EventHistoryStep Unit) :=
  [.add { EventNumbering.startUp with priority := priority }, .written 0, .added 0 fun _ => .done]

/-- The debug event is the newest and the first to be dropped. -/
theorem droppedNumber_reused :
    let events := recorded .info ++ recorded .info ++ recorded .debug ++ [.restart] ++
      recorded .info
    let history := run (step noneReserved) (load ⟨none, .empty⟩ []) events
    history.assigned = [1, 2, 3, 3] ∧ ¬history.Increasing := by
  have assigned : (run (step noneReserved) (load ⟨none, .empty⟩ [])
      (recorded .info ++ recorded .info ++ recorded .debug ++ [.restart] ++
        recorded .info)).assigned = [1, 2, 3, 3] := by decide
  exact ⟨assigned, by rw [Increasing, assigned]; decide⟩

end EventHistory

end MatterJs.Protocol
