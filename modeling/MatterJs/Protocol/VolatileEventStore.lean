import MatterJs.Foundation.Execution
import MatterJs.Foundation.OrderedMap

namespace MatterJs.Protocol

/-! The event store that keeps its events in memory and only the mark its event numbers are
reserved up to in the storage: which event numbers a crash brings back. -/

inductive EventPriority where
  | debug
  | info
  | critical
  deriving DecidableEq

structure Occurrence (Payload : Type) where
  endpointId : Nat
  clusterId : Nat
  eventId : Nat
  epochTimestamp : Nat
  priority : EventPriority
  payload : Payload

structure OccurrenceSummary where
  number : Int
  priority : EventPriority
  endpointId : Nat
  clusterId : Nat
  eventId : Nat
  deriving DecidableEq

variable {Payload : Type}

def OccurrenceSummary.of (number : Int) (occurrence : Occurrence Payload) : OccurrenceSummary where
  number := number
  priority := occurrence.priority
  endpointId := occurrence.endpointId
  clusterId := occurrence.clusterId
  eventId := occurrence.eventId

/-- What the store finds in its storage. Values and keys are as `BigInt` reads them, `none`
where it throws. -/
structure EventStorage where
  /-- The value stored as `lastEventNumber`. -/
  lastReservedNumber : Option (Option Int)
  eventKeys : List (Option Int)
  deriving DecidableEq

namespace EventStorage

def reservationEnd (storage : EventStorage) : Option Int := storage.lastReservedNumber.join

def eventIds (storage : EventStorage) : List Int := storage.eventKeys.reduceOption

/-- `nextNumber` once the event `number` is known. -/
def numberAfter (nextNumber : Option Int) (number : Int) : Option Int :=
  match nextNumber with
  | none => some (number + 1)
  | some next => if next ≤ number then some (number + 1) else some next

def nextNumber (storage : EventStorage) : Int :=
  (storage.eventIds.foldl numberAfter storage.reservationEnd).getD 1

end EventStorage

/-- A write of the reservation mark that is under way, with what its callback refers to. -/
structure ReservationWrite (Payload : Type) where
  reserveTo : Int
  number : Int
  occurrence : Occurrence Payload

/-- The store and its storage. `#reservationWrite` is declared but nothing assigns a promise
to it, so it is left out with the branch of `add` that waits for it. -/
structure VolatileEventStore (Payload : Type) where
  storage : EventStorage
  nextNumber : Int
  numbersReservedTo : Option Int
  numberBlockSize : Int
  events : OrderedMap Int (Occurrence Payload)
  /-- The writes the storage has yet to complete. -/
  writes : List (ReservationWrite Payload)

/-- What the storage makes of a write of the mark. -/
inductive SetOutcome where
  | done
  | pending
  | throws
  deriving DecidableEq

namespace VolatileEventStore

/-- A new store after `load`. -/
def load (storage : EventStorage) (numberBlockSize : Int) : VolatileEventStore Payload where
  storage := if storage.eventIds.length ≠ 0 then { storage with eventKeys := [] } else storage
  nextNumber := storage.nextNumber
  numbersReservedTo := storage.reservationEnd
  numberBlockSize := numberBlockSize
  events := .empty
  writes := []

variable (store : VolatileEventStore Payload)

def reservedTo : Int := store.numbersReservedTo.getD 1

def setEvent (number : Int) (occurrence : Occurrence Payload) : VolatileEventStore Payload :=
  { store with events := store.events.set number occurrence }

def completeWrite (write : ReservationWrite Payload) : VolatileEventStore Payload :=
  { store with
    storage := { store.storage with lastReservedNumber := some (some write.reserveTo) }
    numbersReservedTo := some write.reserveTo
    events := store.events.set write.number write.occurrence }

def allocateNumber : VolatileEventStore Payload :=
  { store with nextNumber := store.nextNumber + 1 }

/-- The summary `add` returns, `none` when the storage throws. -/
def add (occurrence : Occurrence Payload) (set : SetOutcome) :
    Option OccurrenceSummary × VolatileEventStore Payload :=
  let number := store.nextNumber
  let key := OccurrenceSummary.of number occurrence
  let allocated := store.allocateNumber
  if number ≥ store.reservedTo then
    let write :=
      { reserveTo := store.reservedTo + store.numberBlockSize
        number := number
        occurrence := occurrence }
    match set with
    | .done => (some key, (allocated.completeWrite write).setEvent number occurrence)
    | .pending =>
      (some key,
        { allocated.setEvent number occurrence with writes := allocated.writes ++ [write] })
    | .throws => (none, allocated)
  else
    (some key, allocated.setEvent number occurrence)

end VolatileEventStore

/-! ## Runs with crashes -/

/-- A store with every number it took and those of them that `add` returned, in the runs
before and since a restart. -/
structure EventNumbering (Payload : Type) where
  store : VolatileEventStore Payload
  assigned : List Int
  returned : List Int

inductive EventStoreStep (Payload : Type) where
  | add (occurrence : Occurrence Payload) (set : SetOutcome)
  /-- The storage completes one of the writes under way. -/
  | written (index : Nat)
  | writeFailed (index : Nat)
  /-- The process stops, with its memory and its unfinished writes, and starts again. -/
  | restart

namespace EventNumbering

open Execution

def new (storage : EventStorage) (numberBlockSize : Int) : EventNumbering Payload where
  store := .load storage numberBlockSize
  assigned := []
  returned := []

variable (state : EventNumbering Payload)

def step : EventStoreStep Payload → EventNumbering Payload
  | .add occurrence set =>
    let (key, store) := state.store.add occurrence set
    { store := store
      assigned := state.assigned ++ [state.store.nextNumber]
      returned := state.returned ++ (key.map OccurrenceSummary.number).toList }
  | .written index =>
    match state.store.writes[index]? with
    | some write =>
      { state with
        store := { state.store.completeWrite write with
          writes := state.store.writes.eraseIdx index } }
    | none => state
  | .writeFailed index =>
    { state with
      store := { state.store with writes := state.store.writes.eraseIdx index } }
  | .restart =>
    { state with store := .load state.store.storage state.store.numberBlockSize }

def storage (state : EventNumbering Payload) : EventStorage := state.store.storage

/-- The numbers returned up to a crash are all below the numbers the restarted store
assigns, whatever it goes through until it stops in turn. -/
def NeverReused : Prop :=
  ∀ later : List (EventStoreStep Payload), (∀ event ∈ later, event ≠ .restart) →
    ∀ number ∈ (run step (new state.storage state.store.numberBlockSize) later).assigned,
      ∀ earlier ∈ state.returned, earlier < number

/-- The last write that completed, or what was stored before the first, reserves past every
number returned so far. -/
def Covered : Prop :=
  ∀ earlier ∈ state.returned, earlier < state.storage.reservationEnd.getD 1

instance (state : EventNumbering Payload) : Decidable state.Covered :=
  inferInstanceAs (Decidable (∀ earlier ∈ state.returned, earlier < _))

/-- An `add` returns a number below the mark, or the storage takes the new mark at once and
it is past the number. -/
def ReservedFirst : EventStoreStep Payload → Prop
  | .add _ .done =>
    state.store.nextNumber < state.store.reservedTo ∨
      state.store.nextNumber < state.store.reservedTo + state.store.numberBlockSize
  | .add _ .pending => state.store.nextNumber < state.store.reservedTo
  | _ => True

/-! ## What a step keeps -/

structure Loaded (state : EventNumbering Payload) : Prop where
  eventIds : state.storage.eventIds = []
  numbersReservedTo : state.store.numbersReservedTo = state.storage.reservationEnd

theorem Loaded.reservedTo {state : EventNumbering Payload} (loaded : state.Loaded) :
    state.store.reservedTo = state.storage.reservationEnd.getD 1 := by
  rw [VolatileEventStore.reservedTo, loaded.numbersReservedTo]

theorem Loaded.nextNumber {state : EventNumbering Payload} (loaded : state.Loaded) :
    state.storage.nextNumber = state.storage.reservationEnd.getD 1 := by
  rw [EventStorage.nextNumber, loaded.eventIds]
  rfl

theorem loaded_load (storage : EventStorage) (numberBlockSize : Int)
    (assigned returned : List Int) :
    Loaded ({ store := .load storage numberBlockSize, assigned, returned } :
      EventNumbering Payload) := by
  constructor
  · change EventStorage.eventIds (if storage.eventIds.length ≠ 0 then _ else storage) = []
    split
    · rfl
    · rename_i none
      exact List.length_eq_zero_iff.mp (not_not.mp none)
  · change storage.reservationEnd =
      EventStorage.reservationEnd (if storage.eventIds.length ≠ 0 then _ else storage)
    split <;> rfl

theorem loaded_step {state : EventNumbering Payload} (event : EventStoreStep Payload)
    (loaded : state.Loaded) : (state.step event).Loaded := by
  cases event with
  | add occurrence set =>
    by_cases reached : state.store.nextNumber ≥ state.store.reservedTo
    · cases set with
      | done =>
        rw [step, VolatileEventStore.add, if_pos reached]
        exact ⟨loaded.eventIds, rfl⟩
      | pending =>
        rw [step, VolatileEventStore.add, if_pos reached]
        exact ⟨loaded.eventIds, loaded.numbersReservedTo⟩
      | throws =>
        rw [step, VolatileEventStore.add, if_pos reached]
        exact ⟨loaded.eventIds, loaded.numbersReservedTo⟩
    · rw [step, VolatileEventStore.add, if_neg reached]
      exact ⟨loaded.eventIds, loaded.numbersReservedTo⟩
  | written index =>
    rw [step]
    split
    · exact ⟨loaded.eventIds, rfl⟩
    · exact loaded
  | writeFailed index => exact ⟨loaded.eventIds, loaded.numbersReservedTo⟩
  | restart => exact loaded_load _ _ _ _

/-- Since it was loaded with `first` as its next number, the store has only gone up. -/
def StartsFrom (first : Int) (state : EventNumbering Payload) : Prop :=
  first ≤ state.store.nextNumber ∧ ∀ number ∈ state.assigned, first ≤ number

theorem nextNumber_add (store : VolatileEventStore Payload) (occurrence : Occurrence Payload)
    (set : SetOutcome) : (store.add occurrence set).2.nextNumber = store.nextNumber + 1 := by
  rw [VolatileEventStore.add]
  split
  · cases set <;> rfl
  · rfl

theorem startsFrom_step {first : Int} {state : EventNumbering Payload}
    (event : EventStoreStep Payload) (running : event ≠ .restart)
    (starts : StartsFrom first state) : StartsFrom first (state.step event) := by
  cases event with
  | add occurrence set =>
    constructor
    · change first ≤ (state.store.add occurrence set).2.nextNumber
      rw [nextNumber_add]
      exact Int.le_add_one starts.1
    · intro number member
      rcases List.mem_append.mp member with earlier | new
      · exact starts.2 number earlier
      · rw [List.mem_singleton] at new
        rw [new]
        exact starts.1
  | written index =>
    rw [step]
    split <;> exact starts
  | writeFailed index => exact starts
  | restart => exact absurd rfl running

/-! ## Which crashes bring numbers back -/

theorem neverReused_iff_covered [Inhabited Payload] {state : EventNumbering Payload}
    (loaded : state.Loaded) : state.NeverReused ↔ state.Covered := by
  constructor
  · intro neverReused earlier returned
    have first := neverReused
      [.add ⟨0, 0, 0, 0, .info, default⟩ .pending] (by simp)
      state.storage.nextNumber (List.mem_singleton.mpr rfl) earlier returned
    rw [← loaded.nextNumber]
    exact first
  · intro covered later running number assigned earlier returned
    have starts : StartsFrom state.storage.nextNumber
        (run step (new state.storage state.store.numberBlockSize) later) := by
      refine run_invariant_along (StartsFrom state.storage.nextNumber)
        (fun _ event (running : event ≠ .restart) starts => startsFrom_step event running starts)
        ?_ ?_
      · exact ⟨Int.le_refl _, nofun⟩
      · rw [along_iff_forall_cut]
        intro before event after split
        exact running event (by rw [split]; simp)
    have below := covered earlier returned
    rw [← loaded.nextNumber] at below
    exact Int.lt_of_lt_of_le below (starts.2 number assigned)

/-- Nothing is under way, and a crash would bring no number back. -/
structure Settled (state : EventNumbering Payload) : Prop extends state.Loaded where
  writes : state.store.writes = []
  covered : state.Covered

theorem settled_new (storage : EventStorage) (numberBlockSize : Int) :
    (new storage numberBlockSize : EventNumbering Payload).Settled where
  toLoaded := loaded_load _ _ _ _
  writes := rfl
  covered := nofun

/-- An asynchronous write is too late for the number it is made for. -/
theorem covered_step_iff {state : EventNumbering Payload} (settled : state.Settled)
    (event : EventStoreStep Payload) : (state.step event).Covered ↔ state.ReservedFirst event := by
  have covered := settled.covered
  have same := settled.reservedTo
  cases event with
  | add occurrence set =>
    rw [Covered, ← same] at covered
    by_cases reached : state.store.nextNumber ≥ state.store.reservedTo
    · cases set with
      | done =>
        rw [step, VolatileEventStore.add, if_pos reached]
        change (∀ earlier ∈ state.returned ++ [state.store.nextNumber],
          earlier < state.store.reservedTo + state.store.numberBlockSize) ↔ _
        constructor
        · intro below
          exact .inr (below _ (List.mem_append_right _ List.mem_cons_self))
        · rintro (below | reserved) earlier member
          · omega
          · rcases List.mem_append.mp member with before | isNew
            · have := covered earlier before
              omega
            · rw [List.mem_singleton] at isNew
              omega
      | pending =>
        rw [step, VolatileEventStore.add, if_pos reached]
        change (∀ earlier ∈ state.returned ++ [state.store.nextNumber],
          earlier < state.storage.reservationEnd.getD 1) ↔ _
        rw [← same]
        constructor
        · intro below
          exact below _ (List.mem_append_right _ List.mem_cons_self)
        · intro (below : state.store.nextNumber < state.store.reservedTo)
          omega
      | throws =>
        rw [step, VolatileEventStore.add, if_pos reached]
        change (∀ earlier ∈ state.returned ++ [],
          earlier < state.storage.reservationEnd.getD 1) ↔ True
        rw [List.append_nil]
        exact iff_true_intro settled.covered
    · rw [step, VolatileEventStore.add, if_neg reached]
      change (∀ earlier ∈ state.returned ++ [state.store.nextNumber],
        earlier < state.storage.reservationEnd.getD 1) ↔ _
      rw [← same]
      have below : state.store.nextNumber < state.store.reservedTo := by omega
      apply iff_of_true
      · intro earlier member
        rcases List.mem_append.mp member with before | isNew
        · exact covered earlier before
        · rw [List.mem_singleton] at isNew
          omega
      · cases set with
        | done => exact .inl below
        | pending => exact below
        | throws => trivial
  | written index =>
    rw [step, settled.writes]
    exact iff_true_intro covered
  | writeFailed index => exact iff_true_intro covered
  | restart =>
    have kept : (state.step .restart).storage = state.storage :=
      if_neg (by rw [← storage, settled.eventIds]; simp)
    rw [Covered, kept]
    exact iff_true_intro covered

theorem settled_step {state : EventNumbering Payload} {event : EventStoreStep Payload}
    (reserved : state.ReservedFirst event) (settled : state.Settled) :
    (state.step event).Settled where
  toLoaded := loaded_step event settled.toLoaded
  covered := (covered_step_iff settled event).mpr reserved
  writes := by
    cases event with
    | add occurrence set =>
      by_cases reached : state.store.nextNumber ≥ state.store.reservedTo
      · cases set with
        | pending => exact absurd reached (Int.not_le.mpr reserved)
        | done | throws =>
          rw [step, VolatileEventStore.add, if_pos reached]
          exact settled.writes
      · rw [step, VolatileEventStore.add, if_neg reached]
        exact settled.writes
    | written index =>
      rw [step, settled.writes]
      exact settled.writes
    | writeFailed index =>
      change state.store.writes.eraseIdx index = []
      rw [settled.writes, List.eraseIdx_nil]
    | restart => rfl

/-- Of every run, with any storage to start from and any order of its writes: a crash at its
end brings no number back exactly when the write that completed last reserves past every
number returned, and no crash in it does exactly when each `add` that reaches the mark has
the new mark stored before it returns. -/
theorem neverReused_run_iff [Inhabited Payload] (storage : EventStorage) (numberBlockSize : Int)
    (events : List (EventStoreStep Payload)) :
    ((run step (new storage numberBlockSize) events).NeverReused ↔
      (run step (new storage numberBlockSize) events).Covered) ∧
    ((∀ earlier, earlier <+: events →
        (run step (new storage numberBlockSize) earlier).NeverReused) ↔
      Along step ReservedFirst (new storage numberBlockSize) events) := by
  have settled : Settled (new storage numberBlockSize : EventNumbering Payload) :=
    settled_new _ _
  have loaded : ∀ earlier : List (EventStoreStep Payload),
      (run step (new storage numberBlockSize) earlier).Loaded :=
    run_invariant step Loaded (fun _ event => loaded_step event) settled.toLoaded
  refine ⟨neverReused_iff_covered (loaded events), ?_⟩
  calc (∀ earlier, earlier <+: events →
        (run step (new storage numberBlockSize) earlier).NeverReused)
      ↔ ∀ earlier, earlier <+: events →
          (run step (new storage numberBlockSize) earlier).Covered :=
        forall₂_congr fun earlier _ => neverReused_iff_covered (loaded earlier)
    _ ↔ Along step (fun state event => (state.step event).Covered)
          (new storage numberBlockSize) events := (along_after_iff settled.covered).symm
    _ ↔ Along step ReservedFirst (new storage numberBlockSize) events :=
        along_iff_along Settled settled (fun _ _ reserved => settled_step reserved)
          fun _ event holds => covered_step_iff holds event

/-- The first event of a node, endpoint 0 and cluster 40. -/
def startUp : Occurrence Unit where
  endpointId := 0
  clusterId := 40
  eventId := 0
  epochTimestamp := 0
  priority := .critical
  payload := ()

/-- The process stops while the first mark is being written: the event number 1 is assigned
once more. -/
theorem firstNumber_reused :
    ¬(run step (new { lastReservedNumber := none, eventKeys := [] } 1000)
      [.add startUp .pending]).NeverReused := by
  rw [neverReused_iff_covered ⟨rfl, rfl⟩]
  decide

end EventNumbering

end MatterJs.Protocol
