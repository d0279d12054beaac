import MatterJs.Foundation.Execution
import MatterJs.Foundation.OrderedMap

/-! The cache of asynchronously generated values: gets, the expiry of old entries and clears,
in any order in which they take their turns. -/

namespace MatterJs.General

open Execution

/-- A value in a map, with the time at which its key came into the map. The iterators of the
map go by these times. -/
structure Placed (Value : Type*) where
  place : Nat
  value : Value
  deriving DecidableEq

/-- What a generator call has produced: its start, and its value unless that is `undefined`. -/
structure Produced (Value : Type*) where
  startedAt : Nat
  value : Option Value
  deriving DecidableEq

/-- A get that awaits its generator call -/
structure Generation (Key : Type*) where
  startedAt : Nat
  key : Key
  deriving DecidableEq

inductive SweepKind where
  | clear
  | expire (now : Nat)
  deriving DecidableEq

/-- A clear or an expiry that awaits the deletion of an entry -/
structure Sweep (Key : Type*) where
  began : Nat
  kind : SweepKind
  /-- The place of the entry that is being deleted -/
  last : Nat
  /-- The key whose `expireCallback` is awaited. Without one the entry is deleted already. -/
  expiring : Option Key
  deriving DecidableEq

structure Returned where
  calledAt : Nat
  /-- The start of the generator call that produced the value -/
  startedAt : Nat
  deriving DecidableEq

structure Cleared where
  began : Nat
  completed : Nat
  deriving DecidableEq

structure AsyncCache (Key Value : Type*) where
  values : OrderedMap Key (Placed (Produced Value))
  timestamps : OrderedMap Key (Placed Nat)
  knownKeys : List Key
  generating : List (Generation Key)
  sweeps : List (Sweep Key)
  /-- The number of the next step. -/
  clock : Nat
  returned : List Returned
  cleared : List Cleared

namespace AsyncCache

/-- The arguments of the constructor -/
structure Options where
  expirationMs : Nat
  hasExpireCallback : Bool
  deriving DecidableEq

inductive Event (Key Value : Type*) where
  | get (key : Key) (now : Nat)
  /-- The generator call of a get comes to its end. -/
  | generated (startedAt : Nat) (value : Option Value) (now : Nat)
  | generatorFails (startedAt : Nat)
  | clear
  | expire (now : Nat)
  | expireCallbackEnds (began : Nat)
  | expireCallbackFails (began : Nat)
  /-- A clear or an expiry goes on after the deletion of an entry. -/
  | resumes (began : Nat)
  deriving DecidableEq

variable {Key Value : Type*} [DecidableEq Key]

def new : AsyncCache Key Value where
  values := .empty
  timestamps := .empty
  knownKeys := []
  generating := []
  sweeps := []
  clock := 1
  returned := []
  cleared := []

/-- `Map.set`, which leaves a key that is there in its place -/
def setPlaced {Content : Type*} (map : OrderedMap Key (Placed Content)) (clock : Nat) (key : Key)
    (value : Content) : OrderedMap Key (Placed Content) :=
  map.set key ⟨((map.get key).map Placed.place).getD clock, value⟩

variable (options : Options) (cache : AsyncCache Key Value)

def touch (key : Key) (now : Nat) : AsyncCache Key Value :=
  { cache with timestamps := setPlaced cache.timestamps cache.clock key now }

def answer (calledAt startedAt : Nat) : AsyncCache Key Value :=
  { cache with returned := ⟨calledAt, startedAt⟩ :: cache.returned }

/-- `get`, up to the end of the generator call that a miss awaits -/
def get (cache : AsyncCache Key Value) (key : Key) (now : Nat) : AsyncCache Key Value :=
  match cache.values.get key with
  | some ⟨_, ⟨startedAt, some _⟩⟩ => (cache.touch key now).answer cache.clock startedAt
  | _ => { cache with generating := ⟨cache.clock, key⟩ :: cache.generating }

def remember (key : Key) (produced : Produced Value) : AsyncCache Key Value :=
  { cache with
    values := setPlaced cache.values cache.clock key produced
    knownKeys := cache.knownKeys.insert key }

def finish (startedAt : Nat) : AsyncCache Key Value :=
  { cache with generating := cache.generating.filter (·.startedAt ≠ startedAt) }

/-- The rest of a `get` whose generator call has produced a value -/
def generated (startedAt : Nat) (value : Option Value) (now : Nat) : AsyncCache Key Value :=
  match cache.generating.find? (·.startedAt = startedAt) with
  | some generation =>
    (((cache.finish startedAt).remember generation.key ⟨startedAt, value⟩).touch
      generation.key now).answer startedAt startedAt
  | none => cache

def delete (cache : AsyncCache Key Value) (key : Key) : AsyncCache Key Value :=
  { cache with
    values := cache.values.delete key
    timestamps := cache.timestamps.delete key }

def addSweep (sweep : Sweep Key) : AsyncCache Key Value :=
  { cache with sweeps := sweep :: cache.sweeps }

def endSweep (began : Nat) : AsyncCache Key Value :=
  { cache with sweeps := cache.sweeps.filter (·.began ≠ began) }

/-- `deleteEntry`, up to its first `await` -/
def deleteEntry (sweep : Sweep Key) (key : Key) : AsyncCache Key Value :=
  let value := (cache.values.get key).bind fun placed => placed.value.value
  if options.hasExpireCallback && value.isSome then
    cache.addSweep { sweep with expiring := some key }
  else (cache.delete key).addSweep { sweep with expiring := none }

/-- The end of `clear` -/
def complete (began : Nat) : AsyncCache Key Value :=
  { cache with
    values := .empty
    timestamps := .empty
    cleared := ⟨began, cache.clock⟩ :: cache.cleared }

/-- The entry that an iterator comes to next, past those that are passed over -/
def next? {Content : Type*} (map : OrderedMap Key (Placed Content)) (last : Nat)
    (passes : Content → Bool) : Option (Key × Nat) :=
  (map.entries.find? fun entry => decide (last < entry.2.place) && !passes entry.2.value).map
    fun entry => (entry.1, entry.2.place)

/-- The loop of `clear` or `expire`, up to its next `await` or its end -/
def advance (sweep : Sweep Key) : AsyncCache Key Value :=
  match sweep.kind with
  | .clear =>
    match next? cache.values sweep.last fun _ => false with
    | some (key, place) => cache.deleteEntry options { sweep with last := place } key
    | none => cache.complete sweep.began
  | .expire now =>
    match next? cache.timestamps sweep.last fun timestamp =>
      decide ((now : Int) - timestamp < options.expirationMs) with
    | some (key, place) => cache.deleteEntry options { sweep with last := place } key
    | none => cache

def withSweep (began : Nat) (change : Sweep Key → AsyncCache Key Value) : AsyncCache Key Value :=
  match cache.sweeps.find? (·.began = began) with
  | some sweep => change sweep
  | none => cache

def act : Event Key Value → AsyncCache Key Value
  | .get key now => cache.get key now
  | .generated startedAt value now => cache.generated startedAt value now
  | .generatorFails startedAt => cache.finish startedAt
  | .clear => cache.advance options ⟨cache.clock, .clear, 0, none⟩
  | .expire now => cache.advance options ⟨cache.clock, .expire now, 0, none⟩
  | .expireCallbackEnds began =>
    cache.withSweep began fun sweep =>
      match sweep.expiring with
      | some key =>
        ((cache.endSweep began).delete key).addSweep { sweep with expiring := none }
      | none => cache
  | .expireCallbackFails began =>
    cache.withSweep began fun sweep =>
      if sweep.expiring.isSome then cache.endSweep began else cache
  | .resumes began =>
    cache.withSweep began fun sweep =>
      if sweep.expiring.isSome then cache else (cache.endSweep began).advance options sweep

def tick : AsyncCache Key Value :=
  { cache with clock := cache.clock + 1 }

def step (event : Event Key Value) : AsyncCache Key Value := (cache.act options event).tick

/-! ## What a get may return after a clear -/

/-- No get that was called after the end of a clear has returned a value of a generator call
that was started before the clear. -/
def NoStaleValues : Prop :=
  ∀ returned ∈ cache.returned, ∀ cleared ∈ cache.cleared,
    cleared.completed < returned.calledAt → cleared.began ≤ returned.startedAt

/-- A generator call comes to its end only while no clear has come to its end that was begun
since the call was started. -/
def Timely : Event Key Value → Prop
  | .generated startedAt _ _ => ∀ cleared ∈ cache.cleared, cleared.began ≤ startedAt
  | _ => True

/-- What holds in every state of a run with timely generator calls -/
structure Fresh (cache : AsyncCache Key Value) : Prop where
  values : ∀ key placed, cache.values.get key = some placed →
    ∀ cleared ∈ cache.cleared, cleared.began ≤ placed.value.startedAt
  sweeps : ∀ sweep ∈ cache.sweeps, sweep.began ≤ cache.clock
  generating : ∀ generation ∈ cache.generating, generation.startedAt ≤ cache.clock
  returned : ∀ returned ∈ cache.returned, returned.calledAt ≤ cache.clock
  cleared : ∀ cleared ∈ cache.cleared, cleared.began ≤ cleared.completed
  noStaleValues : cache.NoStaleValues

theorem fresh_new : (new : AsyncCache Key Value).Fresh where
  values := nofun
  sweeps := nofun
  generating := nofun
  returned := nofun
  cleared := nofun
  noStaleValues := nofun

namespace Fresh

variable {cache : AsyncCache Key Value}

variable (fresh : cache.Fresh)

include fresh

theorem touch (key : Key) (now : Nat) : (cache.touch key now).Fresh :=
  { fresh with }

theorem answer {calledAt startedAt : Nat} (called : calledAt ≤ cache.clock)
    (noStale : ∀ cleared ∈ cache.cleared, cleared.completed < calledAt →
      cleared.began ≤ startedAt) : (cache.answer calledAt startedAt).Fresh :=
  { fresh with
    returned := List.forall_mem_cons.mpr ⟨called, fresh.returned⟩
    noStaleValues := List.forall_mem_cons.mpr ⟨noStale, fresh.noStaleValues⟩ }

theorem get (key : Key) (now : Nat) : (cache.get key now).Fresh := by
  unfold AsyncCache.get
  split
  · rename_i startedAt _ found
    refine (fresh.touch key now).answer (Nat.le_refl _) fun cleared member _ => ?_
    exact fresh.values key _ found cleared member
  · exact { fresh with
      generating := List.forall_mem_cons.mpr ⟨Nat.le_refl _, fresh.generating⟩ }

theorem remember (key : Key) {produced : Produced Value}
    (timely : ∀ cleared ∈ cache.cleared, cleared.began ≤ produced.startedAt) :
    (cache.remember key produced).Fresh where
  values := by
    intro other placed found
    by_cases same : other = key
    · subst same
      rw [AsyncCache.remember, setPlaced, OrderedMap.get_set_self] at found
      rw [← Option.some.inj found]
      exact timely
    · rw [AsyncCache.remember, setPlaced, OrderedMap.get_set_of_ne _ _ same] at found
      exact fresh.values other placed found
  sweeps := fresh.sweeps
  generating := fresh.generating
  returned := fresh.returned
  cleared := fresh.cleared
  noStaleValues := fresh.noStaleValues

theorem finish (startedAt : Nat) : (cache.finish startedAt).Fresh :=
  { fresh with
    generating := fun generation member =>
      fresh.generating generation (List.mem_of_mem_filter member) }

theorem generated {startedAt : Nat} {value : Option Value} {now : Nat}
    (timely : cache.Timely (.generated startedAt value now)) :
    (cache.generated startedAt value now).Fresh := by
  unfold AsyncCache.generated
  split
  · rename_i generation found
    have started : generation.startedAt = startedAt := by simpa using List.find?_some found
    have called := fresh.generating generation (List.mem_of_find?_eq_some found)
    have remembered := (fresh.finish startedAt).remember generation.key
      (show ∀ cleared ∈ cache.cleared, cleared.began ≤ Produced.startedAt ⟨startedAt, value⟩
        from timely)
    apply (remembered.touch generation.key now).answer
    · rw [← started]
      exact called
    · intro cleared member _
      exact timely cleared member
  · exact fresh

theorem delete (key : Key) : (cache.delete key).Fresh :=
  { fresh with
    values := by
      intro other placed found
      by_cases same : other = key
      · subst same
        rw [AsyncCache.delete, OrderedMap.get_delete_self] at found
        exact nomatch found
      · rw [AsyncCache.delete, OrderedMap.get_delete_of_ne _ same] at found
        exact fresh.values other placed found }

theorem addSweep {sweep : Sweep Key} (began : sweep.began ≤ cache.clock) :
    (cache.addSweep sweep).Fresh :=
  { fresh with sweeps := List.forall_mem_cons.mpr ⟨began, fresh.sweeps⟩ }

theorem endSweep (began : Nat) : (cache.endSweep began).Fresh :=
  { fresh with
    sweeps := fun sweep member => fresh.sweeps sweep (List.mem_of_mem_filter member) }

/-- The gets that have returned so far were called before the clear came to its end. -/
theorem complete {began : Nat} (earlier : began ≤ cache.clock) :
    (cache.complete began).Fresh where
  values := nofun
  sweeps := fresh.sweeps
  generating := fresh.generating
  returned := fresh.returned
  cleared := List.forall_mem_cons.mpr ⟨earlier, fresh.cleared⟩
  noStaleValues := by
    intro returned member
    refine List.forall_mem_cons.mpr ⟨fun later => ?_, fresh.noStaleValues returned member⟩
    exact absurd (fresh.returned returned member) (Nat.not_le.mpr later)

theorem deleteEntry (options : Options) {sweep : Sweep Key}
    (began : sweep.began ≤ cache.clock) (key : Key) :
    (cache.deleteEntry options sweep key).Fresh := by
  unfold AsyncCache.deleteEntry
  dsimp only
  split
  · exact fresh.addSweep began
  · exact (fresh.delete key).addSweep began

theorem advance (options : Options) {sweep : Sweep Key}
    (began : sweep.began ≤ cache.clock) : (cache.advance options sweep).Fresh := by
  unfold AsyncCache.advance
  split
  · split
    · apply fresh.deleteEntry options
      exact began
    · exact fresh.complete began
  · split
    · apply fresh.deleteEntry options
      exact began
    · exact fresh

theorem withSweep {change : Sweep Key → AsyncCache Key Value}
    (keeps : ∀ sweep ∈ cache.sweeps, (change sweep).Fresh) (began : Nat) :
    (cache.withSweep began change).Fresh := by
  unfold AsyncCache.withSweep
  split
  · rename_i sweep found
    exact keeps sweep (List.mem_of_find?_eq_some found)
  · exact fresh

theorem act (options : Options) {event : Event Key Value}
    (timely : cache.Timely event) : (cache.act options event).Fresh := by
  cases event with
  | get key now => exact fresh.get key now
  | generated startedAt value now => exact fresh.generated timely
  | generatorFails startedAt => exact fresh.finish startedAt
  | clear =>
    have began : (⟨cache.clock, .clear, 0, none⟩ : Sweep Key).began ≤ cache.clock :=
      Nat.le_refl _
    exact fresh.advance options began
  | expire now =>
    have began : (⟨cache.clock, .expire now, 0, none⟩ : Sweep Key).began ≤ cache.clock :=
      Nat.le_refl _
    exact fresh.advance options began
  | expireCallbackEnds began =>
    refine fresh.withSweep (fun sweep member => ?_) began
    split
    · exact ((fresh.endSweep began).delete _).addSweep (fresh.sweeps sweep member)
    · exact fresh
  | expireCallbackFails began =>
    refine fresh.withSweep (fun sweep member => ?_) began
    split
    · exact fresh.endSweep began
    · exact fresh
  | resumes began =>
    refine fresh.withSweep (fun sweep member => ?_) began
    split
    · exact fresh
    · exact (fresh.endSweep began).advance options (fresh.sweeps sweep member)

theorem tick : cache.tick.Fresh where
  values := fresh.values
  sweeps := fun sweep member => Nat.le_succ_of_le (fresh.sweeps sweep member)
  generating := fun generation member => Nat.le_succ_of_le (fresh.generating generation member)
  returned := fun returned member => Nat.le_succ_of_le (fresh.returned returned member)
  cleared := fresh.cleared
  noStaleValues := fresh.noStaleValues

end Fresh

/-- In a run whose generator calls are all timely, no get returns a value from before a clear
that it was called after. -/
theorem noStaleValues_of_timely (options : Options) {events : List (Event Key Value)}
    (timely : Along (step options) Timely new events) :
    (run (step options) new events).NoStaleValues := by
  refine (run_invariant_along Fresh ?_ fresh_new timely).noStaleValues
  intro cache event timely fresh
  exact (fresh.act options timely).tick

/-- A get, a clear during its generator call, and two later gets -/
theorem noStaleValues_of_timely_refilled :
    (run (step ⟨1000, true⟩) (new : AsyncCache Nat Nat)
      [.get 7 0, .clear, .generatorFails 1, .get 7 1, .generated 4 (some 5) 2, .get 7 3,
        .clear]).NoStaleValues :=
  noStaleValues_of_timely ⟨1000, true⟩ (by
    refine ⟨trivial, trivial, trivial, trivial, ?_, trivial, trivial, trivial⟩
    change ∀ cleared ∈ _, Cleared.began cleared ≤ 4
    decide +kernel)

/-- The generator call of the first get ends after the clear, and the second get, called after
the clear, returns its value. -/
theorem noStaleValues_false :
    ¬(run (step ⟨1000, true⟩) (new : AsyncCache Nat Nat)
      [.get 7 0, .clear, .generated 1 (some 5) 1, .get 7 2]).NoStaleValues := by
  intro noStale
  have stale := noStale ⟨4, 1⟩ (by decide +kernel) ⟨2, 2⟩ (by decide +kernel) (by decide)
  exact absurd stale (by decide)

end AsyncCache

end MatterJs.General
