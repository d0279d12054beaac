import Mathlib.Data.List.Chain
import MatterJs.Foundation.Execution

/-! The observable that emits no more often than its interval allows, over emits from outside
and from its observers, and the firings of its timer. -/

namespace MatterJs.General

open Execution

/-- The configuration. `shouldEmit` filters nothing; where it says "now", an emit is
immediate. -/
structure QuietConfig where
  emitAutomatically : Bool
  suppressionEnabled : Bool
  minimumEmitIntervalMs : Nat
  deriving DecidableEq

/-- A payload that was passed to the observers. Payloads are known by the numbers of the calls of
`emit`. -/
structure Delivery where
  payload : Nat
  time : Nat
  forced : Bool
  deriving DecidableEq

/-- The method in which the observers are called, and which goes on after them -/
inductive EmissionFrame where
  | emit
  | emitNow
  deriving DecidableEq

/-- The observable, with the emissions that are under way, the innermost one first, and what was
delivered, the latest first. Of the timer it holds the time at which it is due. -/
structure QuietObservable where
  deferredPayload : Option Nat
  lastEmitAt : Option Nat
  emitTimer : Option Nat
  now : Nat
  calls : Nat
  frames : List EmissionFrame
  deliveries : List Delivery
  deriving DecidableEq

/-- While an emission is under way, the calls of `emit` are those of its observers. -/
inductive QuietEvent where
  | emit (immediate : Bool)
  | endEmission (throws : Bool)
  | timer
  | wait (ms : Nat)
  deriving DecidableEq

namespace QuietObservable

def new : QuietObservable where
  deferredPayload := none
  lastEmitAt := none
  emitTimer := none
  now := 0
  calls := 0
  frames := []
  deliveries := []

/-- `#emit`, up to the call of the observers -/
def deliver (payload : Nat) (forced : Bool) (frame : EmissionFrame)
    (observable : QuietObservable) : QuietObservable :=
  { observable with
    deferredPayload := none
    lastEmitAt := some observable.now
    emitTimer := none
    frames := frame :: observable.frames
    deliveries := ⟨payload, observable.now, forced⟩ :: observable.deliveries }

/-- `emitNow`, of the timer or of `#start` -/
def emitNow (observable : QuietObservable) : QuietObservable :=
  match observable.deferredPayload with
  | none => { observable with emitTimer := none }
  | some payload => observable.deliver payload false .emitNow

def start (interval : Nat) (observable : QuietObservable) : QuietObservable :=
  if observable.emitTimer.isSome ∨ observable.deferredPayload = none then observable
  else
    let timeout := observable.lastEmitAt.elim 0 fun last => interval - (observable.now - last)
    if timeout = 0 then observable.emitNow
    else { observable with emitTimer := some (observable.now + timeout) }

def emit (config : QuietConfig) (immediate : Bool) (before : QuietObservable) :
    QuietObservable :=
  let observable := { before with calls := before.calls + 1 }
  if !immediate && !config.emitAutomatically then
    { observable with deferredPayload := some observable.calls }
  else if immediate || !config.suppressionEnabled ||
      observable.lastEmitAt.all fun last =>
        last + config.minimumEmitIntervalMs < observable.now then
    observable.deliver observable.calls immediate .emit
  else
    { observable with deferredPayload := some observable.calls }.start config.minimumEmitIntervalMs

def next (config : QuietConfig) (observable : QuietObservable) : QuietEvent → QuietObservable
  | .emit immediate => observable.emit config immediate
  | .endEmission throws =>
    match observable.frames with
    | [] => observable
    | .emit :: frames => { observable with frames }
    | .emitNow :: frames =>
      { observable with
        frames, deferredPayload := if throws then observable.deferredPayload else none }
  | .timer =>
    if observable.frames = [] ∧ ∃ due ∈ observable.emitTimer, due ≤ observable.now then
      observable.emitNow
    else observable
  | .wait ms => { observable with now := observable.now + ms }

/-! ## The latest payload -/

/-- The latest payload was delivered, or it is held with the timer running. -/
def KeepsLatest (observable : QuietObservable) : Prop :=
  observable.calls = 0 ∨ observable.calls ∈ observable.deliveries.map Delivery.payload ∨
    observable.deferredPayload = some observable.calls ∧ observable.emitTimer.isSome

/-- Between deliveries that are not forced there is the interval. -/
def Spaced (interval : Nat) (later earlier : Delivery) : Prop :=
  later.forced = false → earlier.forced = false → earlier.time + interval ≤ later.time

/-- What holds outside of emissions -/
structure Quieted (interval : Nat) (observable : QuietObservable) : Prop where
  latest : observable.KeepsLatest
  spaced : observable.deliveries.IsChain (Spaced interval)

/-- An emission by `emitNow` ends with no payload deferred meanwhile, unless an observer
throws. -/
def Careful (observable : QuietObservable) : QuietEvent → Prop
  | .endEmission false =>
    observable.frames.head? = some .emitNow → observable.deferredPayload = none
  | _ => True

/-- The last delivery is known, and the timer is due an interval after it. -/
structure Timed (interval : Nat) (observable : QuietObservable) : Prop where
  spaced : observable.deliveries.IsChain (Spaced interval)
  last : observable.lastEmitAt = observable.deliveries.head?.map Delivery.time
  due : ∀ due ∈ observable.emitTimer, ∀ last ∈ observable.lastEmitAt, last + interval ≤ due
  past : ∀ last ∈ observable.lastEmitAt, last ≤ observable.now

structure Sound (interval : Nat) (observable : QuietObservable) : Prop extends
    Timed interval observable where
  latest : observable.KeepsLatest
  deferred : ∀ payload ∈ observable.deferredPayload, payload = observable.calls

variable {config : QuietConfig} {interval : Nat} {observable : QuietObservable}

theorem Timed.deliver (timed : observable.Timed interval) {forced : Bool} (frame : EmissionFrame)
    (elapsed : forced = false → ∀ last ∈ observable.lastEmitAt, last + interval ≤ observable.now) :
    (observable.deliver observable.calls forced frame).Sound interval where
  spaced := by
    refine List.isChain_cons.mpr ⟨fun earlier isLast unforced _ => ?_, timed.spaced⟩
    refine elapsed unforced earlier.time ?_
    rw [timed.last, isLast]
    rfl
  last := rfl
  due := nofun
  past last isLast := Nat.le_of_eq (Option.some.inj isLast).symm
  latest := .inr (.inl List.mem_cons_self)
  deferred := nofun

theorem Sound.emitNow (sound : observable.Sound interval)
    (elapsed : ∀ last ∈ observable.lastEmitAt, last + interval ≤ observable.now) :
    observable.emitNow.Sound interval := by
  rw [QuietObservable.emitNow]
  split
  next notDeferred =>
    refine { sound with due := nofun, latest := sound.latest.imp id fun kept => .inl ?_ }
    refine kept.resolve_right fun held => ?_
    nomatch notDeferred.symm.trans held.1
  next payload isDeferred =>
    rw [sound.deferred payload isDeferred]
    exact sound.toTimed.deliver .emitNow fun _ => elapsed

theorem Timed.start (timed : observable.Timed interval)
    (deferred : observable.deferredPayload = some observable.calls) :
    (observable.start interval).Sound interval := by
  have sound (timer : Option Nat) (runs : timer.isSome)
      (due : ∀ due ∈ timer, ∀ last ∈ observable.lastEmitAt, last + interval ≤ due) :
      { observable with emitTimer := timer : QuietObservable }.Sound interval :=
    { timed with
      due
      latest := .inr (.inr ⟨deferred, runs⟩)
      deferred := fun payload isDeferred => Option.some.inj (isDeferred.symm.trans deferred) }
  rw [QuietObservable.start]
  split
  next runs =>
    refine sound observable.emitTimer (runs.resolve_right fun none => ?_) timed.due
    nomatch deferred.symm.trans none
  next =>
    dsimp only
    split
    next isOver =>
      rw [QuietObservable.emitNow, deferred]
      refine timed.deliver .emitNow fun _ last isLast => ?_
      rw [isLast, Option.elim_some] at isOver
      have := timed.past last isLast
      omega
    next =>
      refine sound (some _) rfl fun due isDue last isLast => ?_
      cases isDue
      rw [isLast, Option.elim_some]
      have := timed.past last isLast
      omega

theorem sound_emit (automatic : config.emitAutomatically = true)
    (suppressed : config.suppressionEnabled = true) (immediate : Bool)
    (sound : observable.Sound config.minimumEmitIntervalMs) :
    (observable.emit config immediate).Sound config.minimumEmitIntervalMs := by
  have timed : { observable with calls := observable.calls + 1 : QuietObservable }.Timed
      config.minimumEmitIntervalMs := { sound.toTimed with }
  rw [emit, automatic, suppressed]
  simp only [Bool.not_true, Bool.and_false, Bool.false_eq_true, if_false]
  split
  next isOver =>
    refine timed.deliver .emit fun unforced last isLast => ?_
    rw [unforced, isLast] at isOver
    exact Nat.le_of_lt (of_decide_eq_true isOver)
  next => exact Timed.start { timed with } rfl

theorem sound_next (automatic : config.emitAutomatically = true)
    (suppressed : config.suppressionEnabled = true) (event : QuietEvent)
    (careful : observable.Careful event)
    (sound : observable.Sound config.minimumEmitIntervalMs) :
    (observable.next config event).Sound config.minimumEmitIntervalMs := by
  cases event with
  | emit immediate => exact sound_emit automatic suppressed immediate sound
  | endEmission throws =>
    rw [next]
    split
    · exact sound
    · exact { sound with }
    next frames isEmitNow =>
      have kept : (if throws then observable.deferredPayload else none) =
          observable.deferredPayload := by
        cases throws with
        | true => rfl
        | false => exact (careful (by rw [isEmitNow]; rfl)).symm
      rw [kept]
      exact { sound with }
  | timer =>
    rw [next]
    split
    next fires =>
      obtain ⟨-, due, isDue, isOver⟩ := fires
      exact sound.emitNow fun last isLast => (sound.due due isDue last isLast).trans isOver
    next => exact sound
  | wait ms =>
    exact { sound with
      past := fun last isLast => (sound.past last isLast).trans (Nat.le_add_right ..) }

theorem sound_new (interval : Nat) : new.Sound interval where
  spaced := .nil
  last := rfl
  due := nofun
  past := nofun
  latest := .inl rfl
  deferred := nofun

/-- In every run in which no emission of `emitNow` ends with a payload deferred meanwhile, the
latest payload is kept and deliveries are an interval apart. -/
theorem quieted_run (config : QuietConfig) (automatic : config.emitAutomatically = true)
    (suppressed : config.suppressionEnabled = true) (events : List QuietEvent)
    (careful : Along (next config) Careful new events) :
    Quieted config.minimumEmitIntervalMs (run (next config) new events) := by
  have sound := run_invariant_along (Sound config.minimumEmitIntervalMs)
    (fun _ event careful sound => sound_next automatic suppressed event careful sound)
    (sound_new _) careful
  exact ⟨sound.latest, sound.spaced⟩

def everySecond : QuietConfig := ⟨true, true, 1000⟩

/-- An emit that is deferred, and one by an observer of an emission that is not by `emitNow` -/
theorem quieted_run_deferred : Quieted 1000 (run (next everySecond) new
    [.emit false, .emit false, .endEmission false, .wait 1000, .timer, .endEmission false]) :=
  quieted_run everySecond rfl rfl _ (by simp [Along, Careful]; decide)

/-- The payload of an emit by an observer of the timer's emission is dropped. -/
theorem quieted_run_false : ¬ ∀ events, (run (next everySecond) new events).frames = [] →
    Quieted 1000 (run (next everySecond) new events) := by
  intro quieted
  have latest := (quieted [.emit false, .endEmission false, .emit false, .wait 1000, .timer,
    .emit false, .endEmission false] rfl).latest
  revert latest
  simp only [KeepsLatest]
  decide

/-! ## Every run -/

/-- The time between deliveries; without suppression there need be none. -/
def spacing (config : QuietConfig) : Nat :=
  if config.suppressionEnabled then config.minimumEmitIntervalMs else 0

/-- A delivery is of a later payload than those before it and, if it is not forced, an interval
after them. -/
def Follows (interval : Nat) (later earlier : Delivery) : Prop :=
  earlier.payload < later.payload ∧ (later.forced = false → earlier.time + interval ≤ later.time)

/-- The deliveries that are not forced of a span of time -/
def unforcedWithin (since span : Nat) (deliveries : List Delivery) : List Delivery :=
  deliveries.filter fun delivery =>
    !delivery.forced && since ≤ delivery.time && delivery.time ≤ since + span

/-- A payload that is held is later than all that were delivered. -/
structure Paced (interval : Nat) (observable : QuietObservable) : Prop where
  follows : observable.deliveries.Pairwise (Follows interval)
  before : ∀ delivery ∈ observable.deliveries, delivery.payload ≤ observable.calls ∧
    (∀ payload ∈ observable.deferredPayload, delivery.payload < payload) ∧
    ∃ last ∈ observable.lastEmitAt, delivery.time ≤ last
  deferred : ∀ payload ∈ observable.deferredPayload, payload ≤ observable.calls
  due : ∀ due ∈ observable.emitTimer, ∀ last ∈ observable.lastEmitAt, last + interval ≤ due
  past : ∀ last ∈ observable.lastEmitAt, last ≤ observable.now

section

variable (paced : observable.Paced interval)

include paced

theorem Paced.deliver {payload : Nat} {forced : Bool} (frame : EmissionFrame)
    (isLater : ∀ delivery ∈ observable.deliveries, delivery.payload < payload)
    (emitted : payload ≤ observable.calls)
    (elapsed : forced = false → ∀ last ∈ observable.lastEmitAt, last + interval ≤ observable.now) :
    (observable.deliver payload forced frame).Paced interval where
  follows := by
    refine List.pairwise_cons.mpr ⟨fun earlier delivered => ?_, paced.follows⟩
    refine ⟨isLater earlier delivered, fun unforced => ?_⟩
    obtain ⟨last, isLast, within⟩ := (paced.before earlier delivered).2.2
    have waited := elapsed unforced last isLast
    dsimp only
    omega
  before := by
    refine List.forall_mem_cons.mpr ⟨⟨emitted, by rintro _ ⟨⟩, _, rfl, Nat.le_refl _⟩, ?_⟩
    intro earlier delivered
    have before := paced.before earlier delivered
    obtain ⟨last, isLast, within⟩ := before.2.2
    exact ⟨before.1, by rintro _ ⟨⟩, _, rfl, within.trans (paced.past last isLast)⟩
  deferred := by rintro _ ⟨⟩
  due := by rintro _ ⟨⟩
  past last isLast := Nat.le_of_eq (Option.some.inj isLast).symm

theorem Paced.emitNow (elapsed : ∀ last ∈ observable.lastEmitAt, last + interval ≤ observable.now) :
    observable.emitNow.Paced interval := by
  rw [QuietObservable.emitNow]
  split
  next => exact { paced with due := by rintro _ ⟨⟩ }
  next payload isDeferred =>
    exact paced.deliver .emitNow
      (fun delivery delivered => (paced.before delivery delivered).2.1 payload isDeferred)
      (paced.deferred payload isDeferred) fun _ => elapsed

theorem Paced.start : (observable.start interval).Paced interval := by
  rw [QuietObservable.start]
  split
  next => exact paced
  next =>
    dsimp only
    split
    next isOver =>
      refine paced.emitNow fun last isLast => ?_
      rw [isLast, Option.elim_some] at isOver
      have := paced.past last isLast
      omega
    next =>
      refine { paced with due := fun due isDue last isLast => ?_ }
      cases isDue
      rw [isLast, Option.elim_some]
      have := paced.past last isLast
      omega

/-- A call of `emit` whose payload is held -/
theorem Paced.defer : { observable with
    calls := observable.calls + 1
    deferredPayload := some (observable.calls + 1) : QuietObservable }.Paced interval :=
  { paced with
    before := fun delivery delivered => by
      have before := paced.before delivery delivered
      refine ⟨Nat.le_succ_of_le before.1, ?_, before.2.2⟩
      rintro _ ⟨⟩
      exact Nat.lt_succ_of_le before.1
    deferred := fun payload isDeferred => Nat.le_of_eq (Option.some.inj isDeferred).symm }

end

theorem paced_emit (immediate : Bool) (paced : observable.Paced (spacing config)) :
    (observable.emit config immediate).Paced (spacing config) := by
  rw [emit]
  split
  next => exact paced.defer
  next =>
    split
    next emits =>
      refine paced.defer.deliver .emit (fun delivery delivered => ?_) (Nat.le_refl _) ?_
      · exact Nat.lt_succ_of_le (paced.before delivery delivered).1
      · intro notImmediate last isLast
        have := paced.past last isLast
        rw [notImmediate, isLast] at emits
        grind [spacing]
    next waits =>
      have suppressed : spacing config = config.minimumEmitIntervalMs := by grind [spacing]
      rw [← suppressed]
      exact paced.defer.start

theorem paced_next (event : QuietEvent) (paced : observable.Paced (spacing config)) :
    (observable.next config event).Paced (spacing config) := by
  cases event with
  | emit immediate => exact paced_emit immediate paced
  | endEmission throws =>
    rw [next]
    split
    · exact paced
    · exact { paced with }
    · cases throws with
      | true => exact { paced with }
      | false =>
        exact { paced with
          before := fun delivery delivered =>
            (paced.before delivery delivered).imp id fun before => ⟨by rintro _ ⟨⟩, before.2⟩
          deferred := by rintro _ ⟨⟩ }
  | timer =>
    rw [next]
    split
    next fires =>
      obtain ⟨-, due, isDue, isOver⟩ := fires
      exact paced.emitNow fun last isLast => (paced.due due isDue last isLast).trans isOver
    next => exact paced
  | wait ms =>
    exact { paced with
      past := fun last isLast => (paced.past last isLast).trans (Nat.le_add_right ..) }

theorem paced_new (interval : Nat) : new.Paced interval where
  follows := .nil
  before := List.forall_mem_nil _
  deferred := by rintro _ ⟨⟩
  due := by rintro _ ⟨⟩
  past := by rintro _ ⟨⟩

/-- Deliveries that follow each other within a span of time are as many as have room in it. -/
theorem length_mul_le {since last : Nat} {deliveries : List Delivery}
    (follows : deliveries.Pairwise (Follows interval))
    (within : ∀ delivery ∈ deliveries,
      delivery.forced = false ∧ since ≤ delivery.time ∧ delivery.time ≤ last) :
    deliveries.length * interval ≤ last - since + interval := by
  induction deliveries generalizing last with
  | nil => simp
  | cons later deliveries induction =>
    obtain ⟨isLatest, follows⟩ := List.pairwise_cons.mp follows
    obtain ⟨⟨unforced, -, atMost⟩, within⟩ := List.forall_mem_cons.mp within
    rw [List.length_cons, Nat.succ_mul]
    refine Nat.add_le_add_right ?_ interval
    -- The others are an interval before the latest.
    have waited (earlier : Delivery) (delivered : earlier ∈ deliveries) :=
      (isLatest earlier delivered).2 unforced
    have bound := @induction (later.time - interval) follows fun earlier delivered =>
      ⟨(within earlier delivered).1, (within earlier delivered).2.1,
        Nat.le_sub_of_add_le (waited earlier delivered)⟩
    cases deliveries with
    | nil => simp
    | cons earlier deliveries =>
      have waited := waited earlier List.mem_cons_self
      have inTime := (within earlier List.mem_cons_self).2.1
      omega

/-- In every run the payloads are delivered in the order of the calls, none twice, and in every
span of time with suppression at most one that is not forced for each interval begun in it. -/
theorem delivered_run (config : QuietConfig) (events : List QuietEvent) (since span : Nat) :
    (run (next config) new events).deliveries.Pairwise (Follows (spacing config)) ∧
      (unforcedWithin since span (run (next config) new events).deliveries).length *
        spacing config ≤ span + spacing config := by
  have paced := run_invariant (next config) (Paced (spacing config))
    (fun _ event paced => paced_next event paced)
    (paced_new _) events
  refine ⟨paced.follows, ?_⟩
  have bound := @length_mul_le (spacing config) since (since + span) _
    (paced.follows.filter fun delivery =>
      !delivery.forced && since ≤ delivery.time && delivery.time ≤ since + span) ?_
  · rwa [Nat.add_sub_cancel_left] at bound
  · intro delivery isWithin
    have := (List.mem_filter.mp isWithin).2
    simpa [and_assoc] using this

end QuietObservable

end MatterJs.General
