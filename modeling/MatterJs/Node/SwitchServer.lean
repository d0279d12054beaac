import Mathlib.Algebra.Ring.Nat
import Mathlib.Data.List.Infix
import MatterJs.Foundation.Execution

/-! The switch server: the events it emits for the changes of the debounced position and for
the timers of long and multiple presses. -/

namespace MatterJs.Node

open Execution

/-- A switch is latching or momentary; the other features are those of a momentary switch. -/
structure SwitchFeatures where
  latchingSwitch : Bool
  momentarySwitchRelease : Bool
  momentarySwitchLongPress : Bool
  momentarySwitchMultiPress : Bool
  momentary : latchingSwitch = true → momentarySwitchRelease = false ∧
    momentarySwitchLongPress = false ∧ momentarySwitchMultiPress = false

inductive SwitchEvent where
  | switchLatched (newPosition : Nat)
  | initialPress (newPosition : Nat)
  | longPress (newPosition : Nat)
  | shortRelease (previousPosition : Nat)
  | longRelease (previousPosition : Nat)
  | multiPressOngoing (newPosition currentNumberOfPressesCounted : Nat)
  | multiPressComplete (previousPosition totalNumberOfPressesCounted : Nat)
  deriving DecidableEq

namespace SwitchEvent

/-- The event tells how a press goes on or ends. -/
def isPairing : SwitchEvent → Bool
  | longPress _ | shortRelease _ | longRelease _ => true
  | _ => false

def isInitialPress : SwitchEvent → Bool
  | initialPress _ => true
  | _ => false

def total : SwitchEvent → Nat
  | multiPressComplete _ total => total
  | _ => 0

end SwitchEvent

/-- The position, the internal state, and all events. Of a timer it counts whether it runs; the
handlers of those that have expired run later. -/
structure SwitchServer where
  currentPosition : Nat
  longPressTimer : Bool
  longPressHandlers : Nat
  multiPressTimer : Bool
  multiPressHandlers : Nat
  currentNumberOfPressesCounter : Nat
  previouslyReportedPosition : Nat
  previousMultiPressPosition : Option Nat
  currentLongPressPosition : Option Nat
  currentIsLongPress : Bool
  events : List SwitchEvent
  deriving DecidableEq

inductive SwitchStep where
  /-- The debounced position is set. -/
  | setPosition (newPosition : Nat)
  | longPressExpires
  | longPressHandler
  | multiPressExpires
  | multiPressHandler
  deriving DecidableEq

/-- The switch has the feature that the event belongs to. -/
def SwitchFeatures.Supports (features : SwitchFeatures) : SwitchEvent → Prop
  | .switchLatched _ => features.latchingSwitch = true
  | .initialPress _ => features.latchingSwitch = false
  | .longPress _ | .longRelease _ => features.momentarySwitchLongPress = true
  | .shortRelease _ =>
    features.momentarySwitchRelease = true ∨ features.momentarySwitchLongPress = true
  | .multiPressOngoing .. | .multiPressComplete .. => features.momentarySwitchMultiPress = true

namespace SwitchServer

/-- `initialize` -/
def start (currentPosition : Nat) : SwitchServer where
  currentPosition := currentPosition
  longPressTimer := false
  longPressHandlers := 0
  multiPressTimer := false
  multiPressHandlers := 0
  currentNumberOfPressesCounter := 1
  previouslyReportedPosition := currentPosition
  previousMultiPressPosition := none
  currentLongPressPosition := none
  currentIsLongPress := false
  events := []

def emit (server : SwitchServer) (event : SwitchEvent) : SwitchServer :=
  { server with events := server.events ++ [event] }

section Handlers

variable (features : SwitchFeatures) (neutral : Nat)

variable (newPosition : Nat) (server : SwitchServer)

def pressInitially : SwitchServer :=
  if newPosition ≠ neutral then server.emit (.initialPress newPosition) else server

def releaseLongPress : SwitchServer :=
  if server.longPressTimer then server.emit (.shortRelease server.previouslyReportedPosition)
  else if server.currentIsLongPress then
    server.emit (.longRelease server.previouslyReportedPosition)
  else server

def changeLongPress : SwitchServer :=
  if features.momentarySwitchLongPress then
    { if newPosition = neutral then server.releaseLongPress else server with
      longPressTimer := newPosition ≠ neutral
      currentIsLongPress := false
      currentLongPressPosition := if newPosition ≠ neutral then some newPosition else none }
  else if features.momentarySwitchRelease = true ∧ newPosition = neutral then
    server.emit (.shortRelease server.previouslyReportedPosition)
  else server

def countPress : SwitchServer :=
  if server.multiPressTimer = true ∧ newPosition ≠ neutral then
    { server with currentNumberOfPressesCounter := server.currentNumberOfPressesCounter + 1 }.emit
      (.multiPressOngoing newPosition (server.currentNumberOfPressesCounter + 1))
  else server

def changeMultiPress : SwitchServer :=
  if features.momentarySwitchMultiPress then
    { server.countPress neutral newPosition with
      multiPressTimer := true
      previousMultiPressPosition :=
        if server.previouslyReportedPosition ≠ neutral then some server.previouslyReportedPosition
        else server.previousMultiPressPosition }
  else server

def handleSwitchPositionChange : SwitchServer :=
  if features.latchingSwitch then server.emit (.switchLatched newPosition)
  else
    { ((server.pressInitially neutral newPosition).changeLongPress features neutral
        newPosition).changeMultiPress features neutral newPosition with
      previouslyReportedPosition := newPosition }

def handleLongPress : SwitchServer :=
  match server.currentLongPressPosition with
  | none => server
  | some position => { server.emit (.longPress position) with currentIsLongPress := true }

def handleMultiPressComplete : SwitchServer :=
  match server.previousMultiPressPosition with
  | none => server
  | some position =>
    { server.emit (.multiPressComplete position server.currentNumberOfPressesCounter) with
      currentNumberOfPressesCounter := 1
      previousMultiPressPosition := none }

/-- A change of the position is an event of its own. A timer that does not run does not expire. -/
def next : SwitchStep → SwitchServer
  | .setPosition newPosition =>
    if newPosition = server.currentPosition then server
    else { server with currentPosition := newPosition }.handleSwitchPositionChange features
      neutral newPosition
  | .longPressExpires =>
    if server.longPressTimer then
      { server with longPressTimer := false, longPressHandlers := server.longPressHandlers + 1 }
    else server
  | .longPressHandler =>
    if 0 < server.longPressHandlers then
      { server with longPressHandlers := server.longPressHandlers - 1 }.handleLongPress
    else server
  | .multiPressExpires =>
    if server.multiPressTimer then
      { server with
        multiPressTimer := false, multiPressHandlers := server.multiPressHandlers + 1 }
    else server
  | .multiPressHandler =>
    if 0 < server.multiPressHandlers then
      { server with
        multiPressHandlers := server.multiPressHandlers - 1 }.handleMultiPressComplete
    else server

end Handlers

variable {features : SwitchFeatures} {neutral : Nat} {server : SwitchServer}

theorem latchingSwitch_of_longPress (longPress : features.momentarySwitchLongPress = true) :
    features.latchingSwitch = false := by
  cases latching : features.latchingSwitch with
  | false => rfl
  | true => simp [(features.momentary latching).2.1] at longPress

theorem latchingSwitch_of_multiPress (multiPress : features.momentarySwitchMultiPress = true) :
    features.latchingSwitch = false := by
  cases latching : features.latchingSwitch with
  | false => rfl
  | true => simp [(features.momentary latching).2.2] at multiPress

/-! ## Long presses -/

def pairing (server : SwitchServer) : List SwitchEvent :=
  server.events.filter SwitchEvent.isPairing

/-- What a press is decided by -/
structure PressState where
  longPressTimer : Bool
  longPressHandlers : Nat
  currentLongPressPosition : Option Nat
  currentIsLongPress : Bool
  pairing : List SwitchEvent

def pressState (server : SwitchServer) : PressState :=
  ⟨server.longPressTimer, server.longPressHandlers, server.currentLongPressPosition,
    server.currentIsLongPress, server.pairing⟩

/-- A change of the position comes when no handler of an expired timer is outstanding, and to
another pressed position before the long press. -/
def CarefulPress (neutral : Nat) (server : SwitchServer) : SwitchStep → Prop
  | .setPosition newPosition => newPosition = server.currentPosition ∨
      server.longPressHandlers = 0 ∧ (newPosition ≠ neutral → server.currentIsLongPress = false)
  | _ => True

/-- A press ends with one release event: a short one without a long press, or a long one after
one long press. -/
def PairedRelease (before after : SwitchServer) : Prop :=
  ∃ since, after.pairing = before.pairing ++ since ∧
    ((∃ previous, since = [.shortRelease previous]) ∨
      ∃ position previous, since = [.longPress position, .longRelease previous])

/-- Every press that follows the neutral position ends with its release event. -/
def PressesPaired (features : SwitchFeatures) (neutral position : Nat)
    (steps : List SwitchStep) : Prop :=
  ∀ earlier pressed held later,
    steps = earlier ++ .setPosition pressed :: (held ++ .setPosition neutral :: later) →
    (run (next features neutral) (start position) earlier).currentPosition = neutral →
    pressed ≠ neutral → .setPosition neutral ∉ held →
    PairedRelease (run (next features neutral) (start position) earlier)
      (run (next features neutral) (start position)
        (earlier ++ .setPosition pressed :: (held ++ [.setPosition neutral])))

theorem pressState_changeMultiPress (newPosition : Nat) (server : SwitchServer) :
    (server.changeMultiPress features neutral newPosition).pressState = server.pressState := by
  rw [changeMultiPress, countPress]
  split
  · split <;> simp [pressState, pairing, emit, SwitchEvent.isPairing]
  · rfl

theorem pressState_handleMultiPressComplete (server : SwitchServer) :
    server.handleMultiPressComplete.pressState = server.pressState := by
  rw [handleMultiPressComplete]
  split
  · rfl
  · simp [pressState, pairing, emit, SwitchEvent.isPairing]

/-- The state of a press that follows the neutral position, with the events before it -/
inductive Pressed (before : List SwitchEvent) : PressState → Prop where
  | waiting (position : Nat) : Pressed before ⟨true, 0, some position, false, before⟩
  | expired (position : Nat) : Pressed before ⟨false, 1, some position, false, before⟩
  | held (position reported : Nat) :
      Pressed before ⟨false, 0, some position, true, before ++ [.longPress reported]⟩

def releaseEvents (server : SwitchServer) : List SwitchEvent :=
  if server.longPressTimer then [.shortRelease server.previouslyReportedPosition]
  else if server.currentIsLongPress then [.longRelease server.previouslyReportedPosition]
  else []

theorem releaseLongPress_eq (server : SwitchServer) :
    server.releaseLongPress = { server with events := server.events ++ server.releaseEvents } := by
  rw [releaseLongPress, releaseEvents]
  repeat' split
  · rfl
  · rfl
  · rw [List.append_nil]

theorem filter_releaseEvents (server : SwitchServer) :
    server.releaseEvents.filter SwitchEvent.isPairing = server.releaseEvents := by
  rw [releaseEvents]
  repeat' split
  all_goals rfl

theorem pressState_press (longPress : features.momentarySwitchLongPress = true)
    {newPosition : Nat} (changes : newPosition ≠ server.currentPosition)
    (pressed : newPosition ≠ neutral) :
    (server.next features neutral (.setPosition newPosition)).pressState =
      ⟨true, server.longPressHandlers, some newPosition, false, server.pairing⟩ := by
  rw [next, if_neg changes, handleSwitchPositionChange, latchingSwitch_of_longPress longPress]
  change (changeMultiPress features neutral newPosition _).pressState = _
  rw [pressState_changeMultiPress]
  simp [changeLongPress, longPress, pressed, pressInitially, pressState, pairing, emit,
    SwitchEvent.isPairing]

theorem pressState_release (longPress : features.momentarySwitchLongPress = true)
    (pressed : neutral ≠ server.currentPosition) :
    (server.next features neutral (.setPosition neutral)).pressState =
      ⟨false, server.longPressHandlers, none, false, server.pairing ++ server.releaseEvents⟩ := by
  rw [next, if_neg pressed, handleSwitchPositionChange, latchingSwitch_of_longPress longPress]
  change (changeMultiPress features neutral neutral _).pressState = _
  rw [pressState_changeMultiPress, pressInitially, changeLongPress, if_pos longPress, if_pos rfl, releaseLongPress_eq]
  simp only [pressState, pairing, List.filter_append, filter_releaseEvents]
  simp [releaseEvents]

theorem currentPosition_setPosition (newPosition : Nat) :
    (server.next features neutral (.setPosition newPosition)).currentPosition = newPosition := by
  rw [next]
  split
  next same => exact same.symm
  next =>
    simp only [handleSwitchPositionChange, changeMultiPress, countPress, changeLongPress,
      releaseLongPress, pressInitially]
    repeat' split
    all_goals rfl

theorem currentPosition_next (step : SwitchStep)
    (keeps : ∀ newPosition, step ≠ .setPosition newPosition) :
    (server.next features neutral step).currentPosition = server.currentPosition := by
  cases step with
  | setPosition newPosition => exact absurd rfl (keeps newPosition)
  | longPressExpires =>
    rw [next]
    split <;> rfl
  | longPressHandler =>
    rw [next, handleLongPress]
    repeat' split
    all_goals rfl
  | multiPressExpires =>
    rw [next]
    split <;> rfl
  | multiPressHandler =>
    rw [next, handleMultiPressComplete]
    repeat' split
    all_goals rfl

theorem pressed_next (longPress : features.momentarySwitchLongPress = true)
    {before : List SwitchEvent} {step : SwitchStep} (pressed : Pressed before server.pressState)
    (notNeutral : server.currentPosition ≠ neutral) (careful : CarefulPress neutral server step)
    (notReleased : step ≠ .setPosition neutral) :
    Pressed before (server.next features neutral step).pressState ∧
      (server.next features neutral step).currentPosition ≠ neutral := by
  have same := pressed
  generalize state : server.pressState = press at pressed
  cases step with
  | setPosition newPosition =>
    have differs : newPosition ≠ neutral := fun same => notReleased (by rw [same])
    refine ⟨?_, by rwa [currentPosition_setPosition]⟩
    by_cases stays : newPosition = server.currentPosition
    · rwa [next, if_pos stays]
    · have condition := careful.resolve_left stays
      rw [pressState_press longPress stays differs, condition.1]
      cases pressed with
      | waiting position =>
        rw [(PressState.mk.inj state).2.2.2.2]
        exact .waiting newPosition
      | expired position => cases condition.1.symm.trans (PressState.mk.inj state).2.1
      | held position reported =>
        cases (condition.2 differs).symm.trans (PressState.mk.inj state).2.2.2.1
  | longPressExpires =>
    refine ⟨?_, by rwa [currentPosition_next .longPressExpires (by simp)]⟩
    rw [next]
    split
    next runs =>
      cases pressed with
      | waiting position =>
        injection state with _ handlers position flag events
        rw [handlers, position, flag]
        change Pressed before ⟨_, _, _, _, server.pairing⟩
        rw [events]
        exact .expired _
      | expired position => cases runs.symm.trans (PressState.mk.inj state).1
      | held position reported => cases runs.symm.trans (PressState.mk.inj state).1
    next => exact same
  | longPressHandler =>
    refine ⟨?_, by rwa [currentPosition_next .longPressHandler (by simp)]⟩
    rw [next]
    split
    next outstanding =>
      cases pressed with
      | waiting position =>
        rw [(PressState.mk.inj state).2.1] at outstanding
        cases outstanding
      | expired position =>
        injection state with timer handlers isPosition flag events
        simp only [handleLongPress, isPosition, pressState, pairing, emit, timer, handlers]
        rw [List.filter_append]
        change Pressed before ⟨_, _, _, _, server.pairing ++ _⟩
        rw [events]
        exact .held _ position
      | held position reported =>
        rw [(PressState.mk.inj state).2.1] at outstanding
        cases outstanding
    next => exact same
  | multiPressExpires =>
    refine ⟨?_, by rwa [currentPosition_next .multiPressExpires (by simp)]⟩
    rw [next]
    split <;> exact same
  | multiPressHandler =>
    refine ⟨?_, by rwa [currentPosition_next .multiPressHandler (by simp)]⟩
    rw [next]
    split
    · rw [pressState_handleMultiPressComplete]
      exact same
    · exact same

theorem pressed_run (longPress : features.momentarySwitchLongPress = true)
    {before : List SwitchEvent} {held : List SwitchStep}
    (pressed : Pressed before server.pressState)
    (notNeutral : server.currentPosition ≠ neutral)
    (careful : Along (next features neutral) (CarefulPress neutral) server held)
    (notReleased : .setPosition neutral ∉ held) :
    Pressed before (run (next features neutral) server held).pressState ∧
      (run (next features neutral) server held).currentPosition ≠ neutral := by
  induction held generalizing server with
  | nil => exact ⟨pressed, notNeutral⟩
  | cons step held induction =>
    rw [List.mem_cons, not_or] at notReleased
    have after := pressed_next longPress pressed notNeutral careful.1 (Ne.symm notReleased.1)
    exact induction after.1 after.2 careful.2 notReleased.2

theorem released_of_pressed {before : List SwitchEvent}
    (pressed : Pressed before server.pressState) (answered : server.longPressHandlers = 0) :
    ∃ since, server.pairing ++ server.releaseEvents = before ++ since ∧
      ((∃ previous, since = [.shortRelease previous]) ∨
        ∃ position previous, since = [.longPress position, .longRelease previous]) := by
  generalize state : server.pressState = press at pressed
  cases pressed with
  | waiting position =>
    injection state with timer _ _ _ events
    rw [releaseEvents, if_pos timer, events]
    exact ⟨_, rfl, .inl ⟨_, rfl⟩⟩
  | expired position => cases answered.symm.trans (PressState.mk.inj state).2.1
  | held position reported =>
    injection state with timer _ _ flag events
    rw [releaseEvents, timer, if_pos flag, events, List.append_assoc]
    exact ⟨_, rfl, .inr ⟨reported, _, rfl⟩⟩

/-! ## In the neutral position -/

/-- No long press is under way. -/
structure Quiet (server : SwitchServer) : Prop where
  longPressTimer : server.longPressTimer = false
  longPressHandlers : server.longPressHandlers = 0

theorem quiet_next (longPress : features.momentarySwitchLongPress = true) (step : SwitchStep)
    (careful : CarefulPress neutral server step)
    (quiet : server.currentPosition = neutral → server.Quiet) :
    (server.next features neutral step).currentPosition = neutral →
      (server.next features neutral step).Quiet := by
  cases step with
  | setPosition newPosition =>
    rw [currentPosition_setPosition]
    rintro rfl
    by_cases stays : newPosition = server.currentPosition
    · rw [next, if_pos stays]
      exact quiet stays.symm
    · have condition := careful.resolve_left stays
      have state := pressState_release longPress stays
      exact ⟨congrArg PressState.longPressTimer state,
        (congrArg PressState.longPressHandlers state).trans condition.1⟩
  | longPressExpires =>
    rw [currentPosition_next .longPressExpires nofun]
    intro isNeutral
    rw [next, (quiet isNeutral).longPressTimer]
    exact quiet isNeutral
  | longPressHandler =>
    rw [currentPosition_next .longPressHandler nofun]
    intro isNeutral
    rw [next, (quiet isNeutral).longPressHandlers]
    exact quiet isNeutral
  | multiPressExpires =>
    rw [currentPosition_next .multiPressExpires nofun]
    intro isNeutral
    rw [next]
    split
    · exact ⟨(quiet isNeutral).longPressTimer, (quiet isNeutral).longPressHandlers⟩
    · exact quiet isNeutral
  | multiPressHandler =>
    rw [currentPosition_next .multiPressHandler nofun]
    intro isNeutral
    rw [next]
    split
    · have state := pressState_handleMultiPressComplete
        { server with multiPressHandlers := server.multiPressHandlers - 1 }
      exact ⟨(congrArg PressState.longPressTimer state).trans (quiet isNeutral).longPressTimer,
        (congrArg PressState.longPressHandlers state).trans (quiet isNeutral).longPressHandlers⟩
    · exact quiet isNeutral

/-- In every run whose steps are careful, the events of the presses pair up. -/
theorem presses_paired (features : SwitchFeatures)
    (longPress : features.momentarySwitchLongPress = true) (neutral position : Nat)
    (steps : List SwitchStep)
    (careful : Along (next features neutral) (CarefulPress neutral) (start position) steps) :
    PressesPaired features neutral position steps := by
  intro earlier pressed held later split atNeutral notNeutral notReleased
  rw [split, along_append] at careful
  obtain ⟨before, pressing, careful⟩ := careful
  rw [along_append] at careful
  obtain ⟨holding, releasing, -⟩ := careful
  have quiet := run_invariant_along
    (fun server => server.currentPosition = neutral → server.Quiet)
    (fun _ step careful quiet => quiet_next longPress step careful quiet)
    (fun _ => ⟨rfl, rfl⟩) before atNeutral
  rw [run_append, run_cons, run_append]
  generalize run (next features neutral) (start position) earlier = idle at *
  have changes : pressed ≠ idle.currentPosition := fun same => notNeutral (same.trans atNeutral)
  have isPressed : Pressed idle.pairing
      (idle.next features neutral (.setPosition pressed)).pressState := by
    rw [pressState_press longPress changes notNeutral, quiet.longPressHandlers]
    exact .waiting pressed
  have afterHeld := pressed_run longPress isPressed
    (by rwa [currentPosition_setPosition]) holding notReleased
  have condition := releasing.resolve_left afterHeld.2.symm
  obtain ⟨since, events, paired⟩ := released_of_pressed afterHeld.1 condition.1
  refine ⟨since, ?_, paired⟩
  exact (congrArg PressState.pairing (pressState_release longPress afterHeld.2.symm)).trans events

def momentarySwitch : SwitchFeatures where
  latchingSwitch := false
  momentarySwitchRelease := true
  momentarySwitchLongPress := true
  momentarySwitchMultiPress := true
  momentary := nofun

/-- A long and a short press -/
theorem presses_paired_twice : PressesPaired momentarySwitch 0 0
    [.setPosition 1, .longPressExpires, .longPressHandler, .setPosition 0, .setPosition 2,
      .setPosition 0] :=
  presses_paired momentarySwitch rfl 0 0 _ (by simp [Along, CarefulPress]; decide)

/-- A release between the end of the timer and its handler has no event. -/
theorem presses_paired_false : ¬ ∀ steps, PressesPaired momentarySwitch 0 0 steps := by
  intro paired
  obtain ⟨since, events, short | long⟩ :=
    paired [.setPosition 1, .longPressExpires, .setPosition 0] [] 1 [.longPressExpires] [] rfl
      (by decide) (by decide) (by decide)
  · obtain ⟨_, rfl⟩ := short
    cases events
  · obtain ⟨_, _, rfl⟩ := long
    cases events

/-! ## Multiple presses -/

/-- The number of `InitialPress` events -/
def presses (server : SwitchServer) : Nat :=
  server.events.countP SwitchEvent.isInitialPress

/-- The sum over the `MultiPressComplete` events -/
def counted (server : SwitchServer) : Nat :=
  (server.events.map SwitchEvent.total).sum

/-- What the count of presses depends on -/
structure SeriesState where
  multiPressTimer : Bool
  multiPressHandlers : Nat
  currentNumberOfPressesCounter : Nat
  previouslyReportedPosition : Nat
  previousMultiPressPosition : Option Nat
  presses : Nat
  counted : Nat

def seriesState (server : SwitchServer) : SeriesState :=
  ⟨server.multiPressTimer, server.multiPressHandlers, server.currentNumberOfPressesCounter,
    server.previouslyReportedPosition, server.previousMultiPressPosition, server.presses,
    server.counted⟩

/-- A release comes when no handler of an expired timer is outstanding, and the timer does not
expire while a press after the first one of a series is held. -/
def CarefulSeries (neutral : Nat) (server : SwitchServer) : SwitchStep → Prop
  | .setPosition newPosition => newPosition = server.currentPosition ∨
      (newPosition = neutral → server.multiPressHandlers = 0)
  | .multiPressExpires =>
    server.currentPosition = neutral ∨ server.previousMultiPressPosition = none
  | _ => True

def Within (neutral pressed : Nat) : SwitchStep → Prop
  | .setPosition newPosition => newPosition = neutral ∨ newPosition = pressed
  | _ => True

/-- The series are over: no timer runs, and no handler is outstanding. -/
structure Settled (neutral : Nat) (server : SwitchServer) : Prop where
  currentPosition : server.currentPosition = neutral
  multiPressTimer : server.multiPressTimer = false
  multiPressHandlers : server.multiPressHandlers = 0

theorem seriesState_changeLongPress (newPosition : Nat) (server : SwitchServer) :
    (server.changeLongPress features neutral newPosition).seriesState = server.seriesState := by
  rw [changeLongPress, releaseLongPress]
  repeat' split
  all_goals simp [seriesState, presses, counted, emit, SwitchEvent.isInitialPress,
    SwitchEvent.total]

theorem seriesState_handleLongPress (server : SwitchServer) :
    server.handleLongPress.seriesState = server.seriesState := by
  rw [handleLongPress]
  split
  · rfl
  · simp [seriesState, presses, counted, emit, SwitchEvent.isInitialPress, SwitchEvent.total]

namespace SeriesState

def press (neutral newPosition : Nat) (state : SeriesState) : SeriesState :=
  if newPosition = neutral then state else { state with presses := state.presses + 1 }

def change (neutral newPosition : Nat) (state : SeriesState) : SeriesState where
  multiPressTimer := true
  multiPressHandlers := state.multiPressHandlers
  currentNumberOfPressesCounter :=
    if state.multiPressTimer = true ∧ newPosition ≠ neutral then
      state.currentNumberOfPressesCounter + 1
    else state.currentNumberOfPressesCounter
  previouslyReportedPosition := newPosition
  previousMultiPressPosition :=
    if state.previouslyReportedPosition ≠ neutral then some state.previouslyReportedPosition
    else state.previousMultiPressPosition
  presses := state.presses
  counted := state.counted

def expire (state : SeriesState) : SeriesState :=
  if state.multiPressTimer then
    { state with multiPressTimer := false, multiPressHandlers := state.multiPressHandlers + 1 }
  else state

def complete (state : SeriesState) : SeriesState :=
  match state.multiPressHandlers, state.previousMultiPressPosition with
  | 0, _ => state
  | handlers + 1, none => { state with multiPressHandlers := handlers }
  | handlers + 1, some _ =>
    { state with
      multiPressHandlers := handlers
      currentNumberOfPressesCounter := 1
      previousMultiPressPosition := none
      counted := state.counted + state.currentNumberOfPressesCounter }

end SeriesState

theorem seriesState_pressInitially (newPosition : Nat) (server : SwitchServer) :
    (server.pressInitially neutral newPosition).seriesState =
      server.seriesState.press neutral newPosition := by
  rw [pressInitially, SeriesState.press]
  split
  next =>
    simp [seriesState, presses, counted, emit, SwitchEvent.isInitialPress, SwitchEvent.total]
  next released => simp [not_not.mp released]

theorem seriesState_changeMultiPress (multiPress : features.momentarySwitchMultiPress = true)
    (newPosition : Nat) (server : SwitchServer) :
    { server.changeMultiPress features neutral newPosition with
        previouslyReportedPosition := newPosition : SwitchServer }.seriesState =
      server.seriesState.change neutral newPosition := by
  rw [changeMultiPress, if_pos multiPress, countPress]
  split
  next counts =>
    simp [seriesState, SeriesState.change, presses, counted, emit, SwitchEvent.isInitialPress,
      SwitchEvent.total, counts.1, counts.2]
  next counts =>
    simp only [seriesState, SeriesState.change, presses, counted, SeriesState.mk.injEq, true_and,
      and_true]
    exact ⟨(if_neg counts).symm, rfl⟩

theorem seriesState_setPosition (multiPress : features.momentarySwitchMultiPress = true)
    {newPosition : Nat} (changes : newPosition ≠ server.currentPosition) :
    (server.next features neutral (.setPosition newPosition)).seriesState =
      (server.seriesState.press neutral newPosition).change neutral newPosition := by
  rw [next, if_neg changes, handleSwitchPositionChange, latchingSwitch_of_multiPress multiPress,
    if_neg Bool.false_ne_true, seriesState_changeMultiPress multiPress,
    seriesState_changeLongPress, seriesState_pressInitially]
  rfl

theorem seriesState_expires (server : SwitchServer) :
    (server.next features neutral .multiPressExpires).seriesState = server.seriesState.expire := by
  rw [next, SeriesState.expire]
  change SwitchServer.seriesState _ = if server.multiPressTimer = true then _ else _
  split <;> rfl

theorem seriesState_handler (server : SwitchServer) :
    (server.next features neutral .multiPressHandler).seriesState =
      server.seriesState.complete := by
  cases handlers : server.multiPressHandlers with
  | zero => simp [next, SeriesState.complete, seriesState, handlers]
  | succ remaining =>
    cases held : server.previousMultiPressPosition with
    | none =>
      simp [next, handleMultiPressComplete, SeriesState.complete, seriesState, handlers, held,
        presses, counted]
    | some position =>
      simp [next, handleMultiPressComplete, SeriesState.complete, seriesState, handlers, held,
        presses, counted, emit, SwitchEvent.isInitialPress, SwitchEvent.total]

/-! ## Series -/

/-- Where a series of presses stands, with the position and the presses that are counted -/
inductive Series (neutral pressed : Nat) : SeriesState → Prop where
  | settled (total : Nat) : Series neutral pressed ⟨false, 0, 1, neutral, none, total, total⟩
  | released (counter position total : Nat) :
      Series neutral pressed ⟨true, 0, counter, neutral, some position, total + counter, total⟩
  | expired (counter position total : Nat) :
      Series neutral pressed ⟨false, 1, counter, neutral, some position, total + counter, total⟩
  | first (timer : Bool) (total : Nat) :
      Series neutral pressed ⟨timer, 0, 1, pressed, none, total + 1, total⟩
  | firstExpired (total : Nat) :
      Series neutral pressed ⟨false, 1, 1, pressed, none, total + 1, total⟩
  | later (counter position total : Nat) :
      Series neutral pressed ⟨true, 0, counter, pressed, some position, total + counter, total⟩
  /-- A first press that comes before the handler of the series before it -/
  | early (counter position total : Nat) : Series neutral pressed
      ⟨true, 1, counter, pressed, some position, total + counter + 1, total⟩

theorem Series.press {pressed : Nat} {state : SeriesState} (series : Series neutral pressed state)
    (differs : pressed ≠ neutral) (released : state.previouslyReportedPosition = neutral) :
    Series neutral pressed ((state.press neutral pressed).change neutral pressed) := by
  rw [SeriesState.press, if_neg differs]
  cases series with
  | settled total => simpa [SeriesState.change] using Series.first true total
  | released counter position total =>
    simpa [SeriesState.change, differs, Nat.add_assoc] using
      Series.later (counter + 1) position total
  | expired counter position total =>
    simpa [SeriesState.change] using Series.early counter position total
  | first | firstExpired | later | early => exact absurd released differs

theorem Series.release {pressed : Nat} {state : SeriesState}
    (series : Series neutral pressed state) (differs : pressed ≠ neutral)
    (isPressed : state.previouslyReportedPosition = pressed)
    (answered : state.multiPressHandlers = 0) :
    Series neutral pressed ((state.press neutral neutral).change neutral neutral) := by
  rw [SeriesState.press]
  cases series with
  | settled | released | expired => exact absurd isPressed.symm differs
  | firstExpired | early => cases answered
  | first timer total =>
    simpa [SeriesState.change, differs] using Series.released 1 pressed total
  | later counter position total =>
    simpa [SeriesState.change, differs] using Series.released counter pressed total

theorem Series.expire {pressed : Nat} {state : SeriesState} (series : Series neutral pressed state)
    (careful : state.previouslyReportedPosition = neutral ∨
      state.previousMultiPressPosition = none) (differs : pressed ≠ neutral) :
    Series neutral pressed state.expire := by
  cases series with
  | settled total => exact .settled total
  | released counter position total => exact .expired counter position total
  | expired counter position total => exact .expired counter position total
  | first timer total =>
    cases timer with
    | false => exact .first false total
    | true => exact .firstExpired total
  | firstExpired total => exact .firstExpired total
  | later | early => cases careful.resolve_left differs

theorem Series.complete {pressed : Nat} {state : SeriesState}
    (series : Series neutral pressed state) : Series neutral pressed state.complete := by
  cases series with
  | settled total => exact .settled total
  | released counter position total => exact .released counter position total
  | expired counter position total => exact .settled (total + counter)
  | first timer total => exact .first timer total
  | firstExpired total => exact .first false total
  | later counter position total => exact .later counter position total
  | early counter position total => exact .first true (total + counter)

/-- The series with the position that was reported last, which is the current one -/
structure InSeries (neutral pressed : Nat) (server : SwitchServer) : Prop where
  series : Series neutral pressed server.seriesState
  reported : server.previouslyReportedPosition = server.currentPosition

theorem Series.position {pressed : Nat} {state : SeriesState}
    (series : Series neutral pressed state) :
    state.previouslyReportedPosition = neutral ∨ state.previouslyReportedPosition = pressed := by
  cases series with
  | settled | released | expired => exact .inl rfl
  | first | firstExpired | later | early => exact .inr rfl

theorem inSeries_setPosition (multiPress : features.momentarySwitchMultiPress = true)
    {pressed : Nat} (differs : pressed ≠ neutral) {newPosition : Nat}
    (within : newPosition = neutral ∨ newPosition = pressed)
    (careful : newPosition = neutral → server.multiPressHandlers = 0)
    (changes : newPosition ≠ server.currentPosition) (inSeries : InSeries neutral pressed server) :
    InSeries neutral pressed (server.next features neutral (.setPosition newPosition)) := by
  have state : (server.next features neutral (.setPosition newPosition)).seriesState = _ :=
    seriesState_setPosition multiPress changes
  refine ⟨?_, ?_⟩
  · rw [state]
    rcases inSeries.series.position with isReleased | isPressed
    · have isPress : newPosition = pressed := within.resolve_left fun same =>
        changes (same.trans (isReleased.symm.trans inSeries.reported))
      rw [isPress]
      exact inSeries.series.press differs isReleased
    · have isRelease : newPosition = neutral := within.resolve_right fun same =>
        changes (same.trans (isPressed.symm.trans inSeries.reported))
      rw [isRelease]
      exact inSeries.series.release differs isPressed (careful isRelease)
  · rw [currentPosition_setPosition]
    exact congrArg SeriesState.previouslyReportedPosition state

theorem previouslyReported_expire (state : SeriesState) :
    state.expire.previouslyReportedPosition = state.previouslyReportedPosition := by
  rw [SeriesState.expire]
  split <;> rfl

theorem previouslyReported_complete (state : SeriesState) :
    state.complete.previouslyReportedPosition = state.previouslyReportedPosition := by
  rw [SeriesState.complete]
  split <;> rfl

theorem InSeries.of_seriesState {pressed : Nat} {after : SwitchServer} {state : SeriesState}
    (inSeries : InSeries neutral pressed server) (isState : after.seriesState = state)
    (series : Series neutral pressed state)
    (reported : state.previouslyReportedPosition = server.previouslyReportedPosition)
    (stays : after.currentPosition = server.currentPosition) : InSeries neutral pressed after where
  series := isState ▸ series
  reported := (congrArg SeriesState.previouslyReportedPosition isState).trans
    (reported.trans (inSeries.reported.trans stays.symm))

theorem inSeries_next (multiPress : features.momentarySwitchMultiPress = true) {pressed : Nat}
    (differs : pressed ≠ neutral) {step : SwitchStep} (within : Within neutral pressed step)
    (careful : CarefulSeries neutral server step) (inSeries : InSeries neutral pressed server) :
    InSeries neutral pressed (server.next features neutral step) := by
  cases step with
  | setPosition newPosition =>
    by_cases stays : newPosition = server.currentPosition
    · rwa [next, if_pos stays]
    · exact inSeries_setPosition multiPress differs within (careful.resolve_left stays) stays
        inSeries
  | longPressExpires =>
    refine inSeries.of_seriesState ?_ inSeries.series rfl
      (currentPosition_next .longPressExpires nofun)
    rw [next]
    split <;> rfl
  | longPressHandler =>
    refine inSeries.of_seriesState ?_ inSeries.series rfl
      (currentPosition_next .longPressHandler nofun)
    rw [next]
    split
    · exact seriesState_handleLongPress _
    · rfl
  | multiPressExpires =>
    have condition := careful
    rw [CarefulSeries, ← inSeries.reported] at condition
    exact inSeries.of_seriesState (seriesState_expires server)
      (inSeries.series.expire condition differs) (previouslyReported_expire _)
      (currentPosition_next .multiPressExpires nofun)
  | multiPressHandler =>
    exact inSeries.of_seriesState (seriesState_handler server) inSeries.series.complete
      (previouslyReported_complete _) (currentPosition_next .multiPressHandler nofun)

theorem Series.counted_eq {pressed : Nat} {state : SeriesState}
    (series : Series neutral pressed state)
    (atNeutral : state.previouslyReportedPosition = neutral) (differs : pressed ≠ neutral)
    (stopped : state.multiPressTimer = false) (answered : state.multiPressHandlers = 0) :
    state.counted = state.presses := by
  cases series with
  | settled => rfl
  | released => cases stopped
  | expired => cases answered
  | first | firstExpired | later | early => exact absurd atNeutral differs

/-- In every run from the neutral position whose steps are careful, the counts that are reported
add up to the presses wherever the series are over. -/
theorem counted_eq_presses (features : SwitchFeatures)
    (multiPress : features.momentarySwitchMultiPress = true) (neutral pressed : Nat)
    (differs : pressed ≠ neutral) (steps : List SwitchStep)
    (careful : Along (next features neutral)
      (fun server step => Within neutral pressed step ∧ CarefulSeries neutral server step)
      (start neutral) steps)
    (settled : Settled neutral (run (next features neutral) (start neutral) steps)) :
    (run (next features neutral) (start neutral) steps).counted =
      (run (next features neutral) (start neutral) steps).presses := by
  have inSeries := run_invariant_along (InSeries neutral pressed)
    (fun _ _ condition inSeries =>
      inSeries_next multiPress differs condition.1 condition.2 inSeries)
    ⟨.settled 0, rfl⟩ careful
  exact inSeries.series.counted_eq (inSeries.reported.trans settled.currentPosition) differs
    settled.multiPressTimer settled.multiPressHandlers

/-- Two presses in a series, and a third one after it -/
def threePresses : List SwitchStep :=
  [.setPosition 1, .setPosition 0, .setPosition 1, .setPosition 0, .multiPressExpires,
    .multiPressHandler, .setPosition 1, .setPosition 0, .multiPressExpires, .multiPressHandler]

theorem counted_eq_presses_three :
    (run (next momentarySwitch 0) (start 0) threePresses).counted =
      (run (next momentarySwitch 0) (start 0) threePresses).presses :=
  counted_eq_presses momentarySwitch rfl 0 1 (by decide) threePresses
    (by simp [threePresses, Along, CarefulSeries, Within]; decide) ⟨rfl, rfl, rfl⟩

/-- The timer expires while the second press is held, which is then counted again. -/
theorem counted_eq_presses_false :
    ¬ ∀ steps, Along (next momentarySwitch 0) (fun _ step => Within 0 1 step) (start 0) steps →
      Settled 0 (run (next momentarySwitch 0) (start 0) steps) →
      (run (next momentarySwitch 0) (start 0) steps).counted =
        (run (next momentarySwitch 0) (start 0) steps).presses := by
  intro sums
  have wrong := sums [.setPosition 1, .setPosition 0, .setPosition 1, .multiPressExpires,
    .multiPressHandler, .setPosition 0, .multiPressExpires, .multiPressHandler]
    (by simp [Along, Within]) ⟨rfl, rfl, rfl⟩
  revert wrong
  decide

/-! ## Features -/

/-- Events are supported, and timers are used only where their feature is. -/
structure Supported (features : SwitchFeatures) (server : SwitchServer) : Prop where
  events : ∀ event ∈ server.events, features.Supports event
  longPress : features.momentarySwitchLongPress = true ∨
    server.longPressHandlers = 0 ∧ server.longPressTimer = false
  multiPress : features.momentarySwitchMultiPress = true ∨
    server.multiPressHandlers = 0 ∧ server.multiPressTimer = false

section

variable (supported : server.Supported features)

include supported

theorem Supported.emit {event : SwitchEvent}
    (supports : features.Supports event) : (server.emit event).Supported features :=
  { supported with
    events :=
      List.forall_mem_append.mpr ⟨supported.events, List.forall_mem_singleton.mpr supports⟩ }

theorem Supported.changeLongPress (newPosition : Nat) :
    (server.changeLongPress features neutral newPosition).Supported features := by
  rw [SwitchServer.changeLongPress]
  split
  next longPress =>
    have released : (if newPosition = neutral then server.releaseLongPress
        else server).Supported features := by
      rw [releaseLongPress]
      split_ifs
      · exact supported.emit (.inr longPress)
      · exact supported.emit longPress
      · exact supported
      · exact supported
    exact { released with longPress := .inl longPress }
  next =>
    split
    next release => exact supported.emit (.inl release.1)
    next => exact supported

theorem Supported.changeMultiPress (newPosition : Nat) :
    (server.changeMultiPress features neutral newPosition).Supported features := by
  rw [SwitchServer.changeMultiPress]
  split
  next multiPress =>
    have counted : (server.countPress neutral newPosition).Supported features := by
      rw [countPress]
      split
      · refine Supported.emit ?_ multiPress
        exact { supported with }
      · exact supported
    exact { counted with multiPress := .inl multiPress }
  next => exact supported

theorem Supported.next (step : SwitchStep) :
    (server.next features neutral step).Supported features := by
  cases step with
  | setPosition newPosition =>
    rw [SwitchServer.next]
    split
    · exact supported
    rw [handleSwitchPositionChange]
    split
    next latching =>
      refine Supported.emit ?_ latching
      exact { supported with }
    next momentary =>
      have pressed : (SwitchServer.pressInitially neutral newPosition
          { server with currentPosition := newPosition }).Supported features := by
        rw [pressInitially]
        split
        · refine Supported.emit ?_ (Bool.eq_false_iff.mpr momentary)
          exact { supported with }
        · exact { supported with }
      exact { (pressed.changeLongPress newPosition).changeMultiPress newPosition with }
  | longPressExpires =>
    rw [SwitchServer.next]
    split
    next runs =>
      exact { supported with longPress := .inl (supported.longPress.resolve_right fun idle => by
        cases idle.2.symm.trans runs) }
    next => exact supported
  | longPressHandler =>
    rw [SwitchServer.next]
    split
    next outstanding =>
      have longPress := supported.longPress.resolve_right (by omega)
      rw [handleLongPress]
      split
      · exact { supported with longPress := .inl longPress }
      next position _ =>
        have emitted : (server.emit (.longPress position)).Supported features :=
          supported.emit longPress
        exact { emitted with longPress := .inl longPress }
    next => exact supported
  | multiPressExpires =>
    rw [SwitchServer.next]
    split
    next runs =>
      exact { supported with multiPress := .inl (supported.multiPress.resolve_right fun idle => by
        cases idle.2.symm.trans runs) }
    next => exact supported
  | multiPressHandler =>
    rw [SwitchServer.next]
    split
    next outstanding =>
      have multiPress := supported.multiPress.resolve_right (by omega)
      rw [handleMultiPressComplete]
      split
      · exact { supported with multiPress := .inl multiPress }
      next position _ =>
        have emitted : (server.emit (.multiPressComplete position
            server.currentNumberOfPressesCounter)).Supported features := supported.emit multiPress
        exact { emitted with multiPress := .inl multiPress }
    next => exact supported

end

/-- No run emits an event of a feature that the switch does not have. -/
theorem supports_of_mem_events (features : SwitchFeatures) (neutral currentPosition : Nat)
    (steps : List SwitchStep) {event : SwitchEvent}
    (emitted : event ∈ (run (next features neutral) (start currentPosition) steps).events) :
    features.Supports event :=
  (run_invariant (next features neutral) (Supported features)
    (fun _ step supported => supported.next step)
    { events := by simp [start]
      longPress := .inr ⟨rfl, rfl⟩
      multiPress := .inr ⟨rfl, rfl⟩ } steps).events event emitted

theorem supports_of_mem_events_longPress : momentarySwitch.Supports (.longPress 1) :=
  supports_of_mem_events momentarySwitch 0 0
    [.setPosition 1, .longPressExpires, .longPressHandler] (by decide)

end SwitchServer

end MatterJs.Node
