import MatterJs.Foundation.Execution

/-! The asynchronous iteration of an observable: its iterators share one observer and a chain of
promises. -/

namespace MatterJs.General

open Execution

universe u

/-- The promises of the shared observer: those that are resolved with values, in order, and the
current one, which is resolved with `undefined` where the iteration is stopped. Then the
callbacks that remove an iterator and stop the iteration are gone as well. -/
structure PromiseChain (Payload : Type u) where
  values : List Payload
  stopped : Bool
  iteratorCount : Nat

inductive IteratorStage where
  | awaiting
  | yielding
  | ended
  deriving DecidableEq

/-- A `for await` iteration, with the number of emissions made before it started -/
structure AsyncIterator (Payload : Type u) where
  startedAt : Nat
  promise : Nat
  yielded : List Payload
  stage : IteratorStage

/-- A `BasicObservable` that is observed by its iterators, with the first elements of the
payloads it has emitted -/
structure IteratedObservable (Payload : Type u) where
  emitted : List Payload
  joinIteration : Option (PromiseChain Payload)
  iterators : List (AsyncIterator Payload)

inductive IterationEvent (Payload : Type u) where
  | iterate
  | emit (payload : Payload)
  /-- The promise that an iterator awaits has settled. -/
  | resume (iterator : Nat)
  /-- The loop asks for the next value. -/
  | request (iterator : Nat)
  /-- The loop is left, which it can be where it has a value. -/
  | abandon (iterator : Nat)
  | dispose

variable {Payload : Type u}

namespace AsyncIterator

def isLive (iterator : AsyncIterator Payload) : Bool := iterator.stage ≠ .ended

/-- The loop of the iterator, when a promise has settled: `undefined` is awaited again. -/
def resume (values : List Payload) (iterator : AsyncIterator Payload) : AsyncIterator Payload :=
  match iterator.stage, values[iterator.promise]? with
  | .awaiting, some value =>
    { iterator with
      promise := iterator.promise + 1
      yielded := iterator.yielded ++ [value]
      stage := .yielding }
  | _, _ => iterator

end AsyncIterator

namespace PromiseChain

/-- The shared observer, which is there until the iteration is stopped -/
def observe (payload : Payload) (chain : PromiseChain Payload) : PromiseChain Payload :=
  if chain.stopped then chain else { chain with values := chain.values ++ [payload] }

def stopIteration (chain : PromiseChain Payload) : PromiseChain Payload :=
  { chain with stopped := true }

def removeIterator (chain : PromiseChain Payload) : PromiseChain Payload :=
  if chain.stopped then chain
  else if chain.iteratorCount = 0 then chain.stopIteration
  else { chain with iteratorCount := chain.iteratorCount - 1 }

end PromiseChain

namespace IteratedObservable

def new : IteratedObservable Payload := ⟨[], none, []⟩

def addIterator (observable : IteratedObservable Payload) : PromiseChain Payload :=
  match observable.joinIteration with
  | none => ⟨[], false, 1⟩
  | some chain => { chain with iteratorCount := chain.iteratorCount + 1 }

def next (observable : IteratedObservable Payload) :
    IterationEvent Payload → IteratedObservable Payload
  | .iterate =>
    { observable with
      joinIteration := some observable.addIterator
      iterators := observable.iterators ++
        [⟨observable.emitted.length, observable.addIterator.values.length, [], .awaiting⟩] }
  | .emit payload =>
    { observable with
      emitted := observable.emitted ++ [payload]
      joinIteration := observable.joinIteration.map (PromiseChain.observe payload) }
  | .resume position =>
    match observable.joinIteration, observable.iterators[position]? with
    | some chain, some iterator =>
      { observable with
        iterators := observable.iterators.set position (iterator.resume chain.values) }
    | _, _ => observable
  | .request position =>
    match observable.iterators[position]? with
    | some iterator =>
      if iterator.stage = .yielding then
        { observable with
          iterators := observable.iterators.set position { iterator with stage := .awaiting } }
      else observable
    | none => observable
  | .abandon position =>
    match observable.iterators[position]? with
    | some iterator =>
      if iterator.stage = .yielding then
        { observable with
          joinIteration := observable.joinIteration.map PromiseChain.removeIterator
          iterators := observable.iterators.set position { iterator with stage := .ended } }
      else observable
    | none => observable
  | .dispose =>
    { observable with
      joinIteration := observable.joinIteration.map PromiseChain.stopIteration }

def queued (chain : PromiseChain Payload) (iterator : AsyncIterator Payload) : List Payload :=
  chain.values.drop iterator.promise

/-- An iterator that goes on has yielded, or has before it, all that was emitted since it started;
one that has ended has yielded a part from the start. -/
def Follows (emitted : List Payload) (chain : PromiseChain Payload)
    (iterator : AsyncIterator Payload) : Prop :=
  if iterator.isLive then
    iterator.yielded ++ queued chain iterator = emitted.drop iterator.startedAt
  else iterator.yielded <+: emitted.drop iterator.startedAt

/-- No iteration misses an emission, and an iteration that has nothing left ends once the
observable is disposed. -/
structure MissesNothing (observable : IteratedObservable Payload) : Prop where
  follows : ∀ iterator ∈ observable.iterators, ∃ chain ∈ observable.joinIteration,
    Follows observable.emitted chain iterator
  ends : ∀ chain ∈ observable.joinIteration, chain.stopped = true →
    ∀ (position : Nat) (iterator : AsyncIterator Payload),
      observable.iterators[position]? = some iterator → iterator.stage = .awaiting →
      queued chain iterator = [] →
      ∃ after, (observable.next (.resume position)).iterators[position]? = some after ∧
        after.stage = .ended

/-- The observable is disposed when all iterations have ended, and after that there are no
more. -/
def Careful (observable : IteratedObservable Payload) : IterationEvent Payload → Prop
  | .iterate => ∀ chain ∈ observable.joinIteration, chain.stopped = false
  | .dispose => ∀ iterator ∈ observable.iterators, iterator.isLive = false
  | _ => True

/-! ## What the iterators share -/

structure Placed (emitted : List Payload) (chain : PromiseChain Payload)
    (iterator : AsyncIterator Payload) : Prop where
  startedAt : iterator.startedAt ≤ emitted.length
  promise : iterator.promise ≤ chain.values.length
  follows : Follows emitted chain iterator
  stopped : chain.stopped = true → iterator.isLive = false

structure Shared (emitted : List Payload) (iterators : List (AsyncIterator Payload))
    (chain : PromiseChain Payload) : Prop where
  placed : ∀ iterator ∈ iterators, Placed emitted chain iterator
  counted : chain.stopped = false → chain.iteratorCount = iterators.countP AsyncIterator.isLive

def Sound (observable : IteratedObservable Payload) : Prop :=
  match observable.joinIteration with
  | none => observable.iterators = []
  | some chain => Shared observable.emitted observable.iterators chain

variable {observable : IteratedObservable Payload} {chain : PromiseChain Payload}
  {iterator : AsyncIterator Payload} {emitted : List Payload}
  {iterators : List (AsyncIterator Payload)}

theorem follows_of_live (live : iterator.isLive = true) :
    Follows emitted chain iterator ↔
      iterator.yielded ++ queued chain iterator = emitted.drop iterator.startedAt := by
  rw [Follows, if_pos live]

theorem follows_of_ended (ended : iterator.isLive = false) :
    Follows emitted chain iterator ↔ iterator.yielded <+: emitted.drop iterator.startedAt := by
  rw [Follows, ended, if_neg Bool.false_ne_true]

theorem Placed.congr {after : PromiseChain Payload} (placed : Placed emitted chain iterator)
    (values : after.values = chain.values)
    (stopped : after.stopped = true → iterator.isLive = false) :
    Placed emitted after iterator := by
  refine ⟨placed.startedAt, values ▸ placed.promise, ?_, stopped⟩
  have follows := placed.follows
  rw [Follows, queued] at *
  rwa [values]

section

variable (placed : Placed emitted chain iterator)

include placed

theorem Placed.goesOn (live : iterator.isLive = true) :
    chain.stopped = false :=
  Bool.eq_false_iff.mpr fun stopped => nomatch (placed.stopped stopped).symm.trans live

theorem Placed.emit (payload : Payload) :
    Placed (emitted ++ [payload]) (chain.observe payload) iterator := by
  rw [PromiseChain.observe]
  have later : (emitted ++ [payload]).drop iterator.startedAt =
      emitted.drop iterator.startedAt ++ [payload] :=
    List.drop_append_of_le_length placed.startedAt
  have startedAt : iterator.startedAt ≤ (emitted ++ [payload]).length := by
    rw [List.length_append]
    exact Nat.le_add_right_of_le placed.startedAt
  have promise : iterator.promise ≤ (chain.values ++ [payload]).length := by
    rw [List.length_append]
    exact Nat.le_add_right_of_le placed.promise
  cases live : iterator.isLive with
  | false =>
    refine ⟨startedAt, ?_, (follows_of_ended live).mpr ?_, fun _ => live⟩
    · split
      · exact placed.promise
      · exact promise
    · rw [later]
      exact ((follows_of_ended live).mp placed.follows).trans (List.prefix_append ..)
  | true =>
    rw [placed.goesOn live, if_neg Bool.false_ne_true]
    refine ⟨startedAt, promise, (follows_of_live live).mpr ?_, nofun⟩
    rw [queued, List.drop_append_of_le_length placed.promise, ← List.append_assoc, later]
    exact congrArg (· ++ [payload]) ((follows_of_live live).mp placed.follows)

theorem Placed.resume :
    Placed emitted chain (iterator.resume chain.values) ∧
      (iterator.resume chain.values).isLive = iterator.isLive := by
  rw [AsyncIterator.resume]
  split
  next value isAwaiting found =>
    have live : iterator.isLive = true := by simp [AsyncIterator.isLive, isAwaiting]
    obtain ⟨inside, isValue⟩ := List.getElem?_eq_some_iff.mp found
    refine ⟨⟨placed.startedAt, inside, (follows_of_live rfl).mpr ?_, fun stopped => ?_⟩, live.symm⟩
    · rw [← (follows_of_live live).mp placed.follows, queued, queued, List.append_assoc,
        List.drop_eq_getElem_cons inside, isValue]
      rfl
    · nomatch (placed.stopped stopped).symm.trans live
  next => exact ⟨placed, rfl⟩

theorem Placed.request (isYielding : iterator.stage = .yielding) :
    Placed emitted chain { iterator with stage := .awaiting } := by
  have live : iterator.isLive = true := by simp [AsyncIterator.isLive, isYielding]
  exact ⟨placed.startedAt, placed.promise,
    (follows_of_live rfl).mpr ((follows_of_live live).mp placed.follows),
    fun stopped => nomatch (placed.stopped stopped).symm.trans live⟩

theorem Placed.abandon
    (live : iterator.isLive = true) : Placed emitted chain { iterator with stage := .ended } := by
  refine ⟨placed.startedAt, placed.promise, (follows_of_ended rfl).mpr ?_, fun _ => rfl⟩
  rw [← (follows_of_live live).mp placed.follows]
  exact List.prefix_append ..

end

theorem Shared.emit (shared : Shared emitted iterators chain) (payload : Payload) :
    Shared (emitted ++ [payload]) iterators (chain.observe payload) := by
  refine ⟨fun iterator member => (shared.placed iterator member).emit payload, ?_⟩
  have counted := shared.counted
  rw [PromiseChain.observe]
  split
  · exact counted
  · exact counted

theorem Shared.iterate (shared : Shared emitted iterators chain) (goesOn : chain.stopped = false) :
    Shared emitted (iterators ++ [⟨emitted.length, chain.values.length, [], .awaiting⟩])
      { chain with iteratorCount := chain.iteratorCount + 1 } := by
  refine ⟨fun iterator member => ?_, fun _ => ?_⟩
  · rcases List.mem_append.mp member with old | isNew
    · exact (shared.placed iterator old).congr rfl (shared.placed iterator old).stopped
    · rw [List.mem_singleton.mp isNew]
      refine ⟨Nat.le_refl _, Nat.le_refl _, (follows_of_live rfl).mpr ?_, fun stopped => ?_⟩
      · rw [queued, List.drop_length, List.drop_length]
        rfl
      · nomatch goesOn.symm.trans stopped
  · rw [List.countP_append, ← shared.counted goesOn]
    rfl

theorem Shared.set {position : Nat} {after : AsyncIterator Payload}
    (shared : Shared emitted iterators chain) (found : iterators[position]? = some iterator)
    (placed : Placed emitted chain after) (same : after.isLive = iterator.isLive) :
    Shared emitted (iterators.set position after) chain where
  placed other member := by
    rcases List.mem_or_eq_of_mem_set member with old | rfl
    · exact shared.placed other old
    · exact placed
  counted goesOn := by
    obtain ⟨inside, isIterator⟩ := List.getElem?_eq_some_iff.mp found
    rw [shared.counted goesOn, List.countP_set inside, isIterator, same]
    split
    next live =>
      have positive := List.countP_pos_iff.mpr ⟨iterator, List.mem_of_getElem? found, live⟩
      omega
    next => rfl

theorem Shared.abandon {position : Nat} (shared : Shared emitted iterators chain)
    (found : iterators[position]? = some iterator) (live : iterator.isLive = true) :
    Shared emitted (iterators.set position { iterator with stage := .ended })
      chain.removeIterator := by
  have member := List.mem_of_getElem? found
  have goesOn := (shared.placed iterator member).goesOn live
  have counted := shared.counted goesOn
  have positive := List.countP_pos_iff.mpr ⟨iterator, member, live⟩
  rw [PromiseChain.removeIterator, goesOn, if_neg Bool.false_ne_true, if_neg (by omega)]
  refine ⟨fun other isOther => ?_, fun _ => ?_⟩
  · rcases List.mem_or_eq_of_mem_set isOther with old | rfl
    · exact (shared.placed other old).congr rfl nofun
    · exact ((shared.placed iterator member).abandon live).congr rfl fun _ => rfl
  · obtain ⟨inside, isIterator⟩ := List.getElem?_eq_some_iff.mp found
    rw [List.countP_set inside, isIterator, if_pos live, counted]
    rfl

theorem sound_iff_of_some (held : observable.joinIteration = some chain) :
    observable.Sound ↔ Shared observable.emitted observable.iterators chain := by
  rw [Sound, held]

theorem sound_iterate (sound : observable.Sound)
    (careful : ∀ chain ∈ observable.joinIteration, chain.stopped = false) :
    (observable.next .iterate).Sound := by
  cases held : observable.joinIteration with
  | none =>
    rw [Sound, held] at sound
    have empty : Shared observable.emitted observable.iterators ⟨[], false, 0⟩ := by
      rw [sound]
      exact ⟨nofun, fun _ => rfl⟩
    rw [next, addIterator, held]
    exact empty.iterate rfl
  | some chain =>
    rw [next, addIterator, held]
    exact ((sound_iff_of_some held).mp sound).iterate (careful chain held)

theorem sound_next (event : IterationEvent Payload) (careful : observable.Careful event)
    (sound : observable.Sound) : (observable.next event).Sound := by
  cases held : observable.joinIteration with
  | none =>
    have empty := sound
    rw [Sound, held] at empty
    cases event with
    | iterate => exact sound_iterate sound careful
    | emit payload => simp [next, Sound, held, empty]
    | resume position => simp [next, Sound, held, empty]
    | request position => simp [next, Sound, held, empty]
    | abandon position => simp [next, Sound, held, empty]
    | dispose => simp [next, Sound, held, empty]
  | some chain =>
    have shared := (sound_iff_of_some held).mp sound
    cases event with
    | iterate => exact sound_iterate sound careful
    | emit payload =>
      rw [next, held]
      exact (sound_iff_of_some rfl).mpr (shared.emit payload)
    | resume position =>
      rw [next, held]
      split
      next iterator isChain found =>
        cases isChain
        have after := (shared.placed iterator (List.mem_of_getElem? found)).resume
        exact (sound_iff_of_some rfl).mpr (shared.set found after.1 after.2)
      next => exact sound
    | request position =>
      rw [next, held]
      split
      next iterator found =>
        split
        next isYielding =>
          refine (sound_iff_of_some rfl).mpr (shared.set found
            ((shared.placed iterator (List.mem_of_getElem? found)).request isYielding) ?_)
          simp [AsyncIterator.isLive, isYielding]
        next => exact sound
      next => exact sound
    | abandon position =>
      rw [next, held]
      split
      next iterator found =>
        split
        next isYielding =>
          exact (sound_iff_of_some rfl).mpr (shared.abandon found
            (by simp [AsyncIterator.isLive, isYielding]))
        next => exact sound
      next => exact sound
    | dispose =>
      rw [next, held]
      refine (sound_iff_of_some rfl).mpr ⟨fun iterator member => ?_, nofun⟩
      exact (shared.placed iterator member).congr rfl fun _ => careful iterator member

/-- What the invariant of the shared state says of every iteration -/
theorem Sound.missesNothing (sound : observable.Sound) : observable.MissesNothing := by
  cases held : observable.joinIteration with
  | none =>
    rw [Sound, held] at sound
    refine ⟨?_, ?_⟩
    · rw [sound]
      exact nofun
    · rw [held]
      exact nofun
  | some chain =>
    have shared := (sound_iff_of_some held).mp sound
    refine ⟨fun iterator member => ⟨chain, held, (shared.placed iterator member).follows⟩, ?_⟩
    intro other isChain stopped position iterator found isAwaiting
    cases held.symm.trans isChain
    have ended := (shared.placed iterator (List.mem_of_getElem? found)).stopped stopped
    rw [AsyncIterator.isLive, isAwaiting] at ended
    nomatch ended

end IteratedObservable

end MatterJs.General
