import Mathlib.Data.List.Basic

namespace MatterJs.Execution

/-! Runs of a deterministic machine, and the rules that carry a property of one
step to all of them. Nondeterminism (timers, the network, callers) is part of
the events. -/

universe u v

variable {State : Type u} {Event : Type v}

/-- The state after `events`, taken in order. -/
def run (step : State → Event → State) (initial : State)
    (events : List Event) : State :=
  events.foldl step initial

variable (step : State → Event → State)

@[simp] theorem run_nil (initial : State) : run step initial [] = initial := rfl

@[simp] theorem run_cons (initial : State) (event : Event) (events : List Event) :
    run step initial (event :: events) = run step (step initial event) events := rfl

@[simp] theorem run_append (initial : State) (first second : List Event) :
    run step initial (first ++ second) = run step (run step initial first) second :=
  List.foldl_append

variable {initial : State} {events : List Event} {Property : State → Prop}

theorem run_invariant (Invariant : State → Prop)
    (keeps : ∀ state event, Invariant state → Invariant (step state event))
    (holds : Invariant initial) (events : List Event) : Invariant (run step initial events) := by
  induction events generalizing initial with
  | nil => exact holds
  | cons event events induction => exact induction (keeps initial event holds)

/-- Every step of the run meets `Condition`, which sees the state before the
step and its event. -/
def Along (Condition : State → Event → Prop) : State → List Event → Prop
  | _, [] => True
  | state, event :: events =>
    Condition state event ∧ Along Condition (step state event) events

variable {step} {Condition : State → Event → Prop}

instance decidableAlong [∀ state event, Decidable (Condition state event)] :
    ∀ state events, Decidable (Along step Condition state events)
  | _, [] => isTrue trivial
  | state, event :: events =>
    have := decidableAlong (step state event) events
    inferInstanceAs (Decidable (Condition state event ∧ _))

theorem along_append (initial : State) (first second : List Event) :
    Along step Condition initial (first ++ second) ↔
      Along step Condition initial first ∧
        Along step Condition (run step initial first) second := by
  induction first generalizing initial with
  | nil => simp [Along]
  | cons event first induction => simp [Along, induction, and_assoc]

theorem along_and_iff {Other : State → Event → Prop} :
    Along step (fun state event => Condition state event ∧ Other state event) initial events ↔
      Along step Condition initial events ∧ Along step Other initial events := by
  induction events generalizing initial with
  | nil => simp [Along]
  | cons event events induction =>
    rw [Along, induction]
    exact and_and_and_comm

theorem along_iff_forall_cut :
    Along step Condition initial events ↔
      ∀ earlier event later, events = earlier ++ event :: later →
        Condition (run step initial earlier) event := by
  constructor
  · intro along earlier event later split
    rw [split, along_append] at along
    exact along.2.1
  · intro atCuts
    induction events generalizing initial with
    | nil => trivial
    | cons event events induction =>
      refine ⟨atCuts [] event events rfl, induction ?_⟩
      intro earlier later rest split
      exact atCuts (event :: earlier) later rest (by rw [split]; rfl)

theorem along_after_iff (holds : Property initial) :
    Along step (fun state event => Property (step state event)) initial events ↔
      ∀ earlier, earlier <+: events → Property (run step initial earlier) := by
  induction events generalizing initial with
  | nil =>
    refine iff_of_true trivial fun earlier cut => ?_
    rw [List.prefix_nil.mp cut]
    exact holds
  | cons event events induction =>
    constructor
    · rintro ⟨next, along⟩ earlier cut
      rcases List.prefix_cons_iff.mp cut with rfl | ⟨rest, rfl, restCut⟩
      · exact holds
      · exact (induction next).mp along rest restCut
    · intro atCuts
      have next : Property (step initial event) :=
        atCuts [event] (List.prefix_cons_iff.mpr (.inr ⟨[], rfl, List.nil_prefix⟩))
      refine ⟨next, (induction next).mpr fun rest restCut => ?_⟩
      exact atCuts (event :: rest) (List.prefix_cons_iff.mpr (.inr ⟨rest, rfl, restCut⟩))

theorem run_invariant_along (Invariant : State → Prop)
    (keeps : ∀ state event, Condition state event → Invariant state → Invariant (step state event))
    (holds : Invariant initial) (along : Along step Condition initial events) :
    Invariant (run step initial events) := by
  induction events generalizing initial with
  | nil => exact holds
  | cons event events induction =>
    exact induction (keeps initial event along.1 holds) along.2

theorem Along.of_invariant (Invariant : State → Prop) {Conclusion : State → Event → Prop}
    (holds : Invariant initial)
    (keeps : ∀ state event, Condition state event → Invariant state →
      Invariant (step state event) ∧ Conclusion state event)
    (along : Along step Condition initial events) : Along step Conclusion initial events := by
  induction events generalizing initial with
  | nil => trivial
  | cons event events induction =>
    have after := keeps initial event along.1 holds
    exact ⟨after.2, induction after.1 along.2⟩

theorem along_iff_along (Invariant : State → Prop) {Conclusion : State → Event → Prop}
    (holds : Invariant initial)
    (keeps : ∀ state event, Condition state event → Invariant state → Invariant (step state event))
    (same : ∀ state event, Invariant state → (Conclusion state event ↔ Condition state event)) :
    Along step Conclusion initial events ↔ Along step Condition initial events := by
  induction events generalizing initial with
  | nil => exact Iff.rfl
  | cons event events induction =>
    rw [Along, same initial event holds]
    apply and_congr_right
    intro condition
    exact induction (keeps initial event condition holds)

theorem Along.and_invariant (Invariant : State → Prop)
    (keeps : ∀ state event, Invariant state → Invariant (step state event))
    (holds : Invariant initial) (along : Along step Condition initial events) :
    Along step (fun state event => Invariant state ∧ Condition state event) initial events := by
  induction events generalizing initial with
  | nil => trivial
  | cons event events induction =>
    exact ⟨⟨holds, along.1⟩, induction (keeps initial event holds) along.2⟩

theorem run_iff_along_of_invariant (Invariant : State → Prop)
    (keeps : ∀ state event, Invariant state → Invariant (step state event))
    (step_iff : ∀ state event, Invariant state →
      (Property (step state event) ↔ Property state ∧ Condition state event))
    (holds : Invariant initial) (events : List Event) :
    Property (run step initial events) ↔
      Property initial ∧ Along step Condition initial events := by
  induction events generalizing initial with
  | nil => exact (and_iff_left trivial).symm
  | cons event events induction =>
    rw [run_cons, induction (keeps initial event holds), step_iff initial event holds, Along,
      and_assoc]

theorem run_iff_along
    (step_iff : ∀ state event, Property (step state event) ↔ Property state ∧ Condition state event)
    (initial : State) (events : List Event) :
    Property (run step initial events) ↔ Property initial ∧ Along step Condition initial events :=
  run_iff_along_of_invariant (fun _ => True) (fun _ _ _ => trivial)
    (fun state event _ => step_iff state event) trivial events

theorem run_filter (keep : Event → Bool)
    (unchanged : ∀ state, ∀ event ∈ events, keep event = false → step state event = state)
    (initial : State) : run step initial (events.filter keep) = run step initial events := by
  induction events generalizing initial with
  | nil => rfl
  | cons event events induction =>
    have later : ∀ state, ∀ event ∈ events, keep event = false → step state event = state :=
      fun state event member => unchanged state event (List.mem_cons_of_mem _ member)
    cases kept : keep event with
    | true => rw [List.filter_cons_of_pos kept, run_cons, run_cons, induction later]
    | false =>
      rw [List.filter_cons_of_neg (by rw [kept]; exact Bool.false_ne_true),
        induction later, run_cons, unchanged initial event (List.mem_cons_self ..) kept]

theorem run_simulation {Other : Type*} {OtherEvent : Type*} {otherStep : Other → OtherEvent → Other}
    (Related : State → Other → Prop) (translate : Event → OtherEvent)
    (keeps : ∀ state other event, Related state other →
      Related (step state event) (otherStep other (translate event)))
    {otherInitial : Other} (holds : Related initial otherInitial) (events : List Event) :
    Related (run step initial events) (run otherStep otherInitial (events.map translate)) := by
  induction events generalizing initial otherInitial with
  | nil => exact holds
  | cons event events induction =>
    exact induction (keeps initial otherInitial event holds)

end MatterJs.Execution
