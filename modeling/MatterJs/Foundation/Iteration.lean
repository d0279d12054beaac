import Mathlib.Order.WellFounded

namespace MatterJs.Iteration

/-! Loops that take rounds until one of them ends the loop: when they end, when they
never do, and what holds at the end. -/

universe u v w

variable {State : Type u} {Result : Type v}

inductive Round (State : Type u) (Result : Type v) where
  | next (state : State)
  | ended (result : Result)

/-- The result, when one of the first `fuel` rounds ends the loop. -/
def run (round : State → Round State Result) : Nat → State → Option Result
  | 0, _ => none
  | fuel + 1, state =>
    match round state with
    | .next after => run round fuel after
    | .ended result => some result

inductive Reaches (round : State → Round State Result) (initial : State) : State → Prop where
  | initial : Reaches round initial initial
  | round {state after : State} : Reaches round initial state →
      round state = .next after → Reaches round initial after

def Ends (round : State → Round State Result) (initial : State) : Prop :=
  ∃ fuel result, run round fuel initial = some result

variable {round : State → Round State Result} {initial state after : State} {result : Result}

theorem run_succ_next (fuel : Nat) (goesOn : round state = .next after) :
    run round (fuel + 1) state = run round fuel after := by
  rw [run, goesOn]

theorem run_succ_ended (fuel : Nat) (ends : round state = .ended result) :
    run round (fuel + 1) state = some result := by
  rw [run, ends]

theorem run_add {fuel : Nat} (runs : run round fuel state = some result) (more : Nat) :
    run round (fuel + more) state = some result := by
  induction fuel generalizing state with
  | zero => cases runs
  | succ fuel induction =>
    rw [Nat.add_right_comm]
    cases outcome : round state with
    | next after =>
      rw [run_succ_next fuel outcome] at runs
      rw [run_succ_next (fuel + more) outcome, induction runs]
    | ended found =>
      rw [run_succ_ended fuel outcome] at runs
      rw [run_succ_ended (fuel + more) outcome, runs]

theorem Reaches.ended_of_run {fuel : Nat} (reaches : Reaches round initial state)
    (runs : run round fuel state = some result) :
    ∃ last, Reaches round initial last ∧ round last = .ended result := by
  induction fuel generalizing state with
  | zero => cases runs
  | succ fuel induction =>
    cases outcome : round state with
    | next after =>
      rw [run_succ_next fuel outcome] at runs
      exact induction (reaches.round outcome) runs
    | ended found =>
      rw [run_succ_ended fuel outcome] at runs
      cases runs
      exact ⟨state, reaches, outcome⟩

theorem Reaches.invariant (Invariant : State → Prop)
    (keeps : ∀ {state after}, Invariant state → round state = .next after → Invariant after)
    (holds : Invariant initial) (reaches : Reaches round initial state) : Invariant state := by
  induction reaches with
  | initial => exact holds
  | round _ goesOn induction => exact keeps induction goesOn

theorem ends_of_decreasing {Measure : Type w} {Smaller : Measure → Measure → Prop}
    (wellFounded : WellFounded Smaller) (measure : State → Measure)
    (decreases : ∀ {state after}, Reaches round initial state →
      round state = .next after → Smaller (measure after) (measure state)) :
    Ends round initial := by
  suffices ends : ∀ size state, measure state = size → Reaches round initial state →
      Ends round state from ends _ initial rfl .initial
  intro size
  induction size using wellFounded.induction with
  | _ size induction =>
    intro state isSize reaches
    cases outcome : round state with
    | next after =>
      have smaller := decreases reaches outcome
      rw [isSize] at smaller
      rcases induction _ smaller after rfl (reaches.round outcome) with ⟨fuel, result, runs⟩
      exact ⟨fuel + 1, result, by rw [run_succ_next fuel outcome, runs]⟩
    | ended result => exact ⟨1, result, run_succ_ended 0 outcome⟩

/-- A state that leads to one of its kind leads nowhere else. -/
theorem run_eq_none_of_trap (Trap : State → Prop)
    (traps : ∀ {state}, Trap state → ∃ after, round state = .next after ∧ Trap after)
    (trap : Trap state) (fuel : Nat) : run round fuel state = none := by
  induction fuel generalizing state with
  | zero => rfl
  | succ fuel induction =>
    rcases traps trap with ⟨after, goesOn, trapAfter⟩
    rw [run_succ_next fuel goesOn, induction trapAfter]

theorem Ends.of_reaches (ends : Ends round initial) (reaches : Reaches round initial state) :
    Ends round state := by
  induction reaches with
  | initial => exact ends
  | round _ goesOn induction =>
    rcases induction with ⟨fuel, result, runs⟩
    cases fuel with
    | zero => cases runs
    | succ fuel =>
      rw [run_succ_next fuel goesOn] at runs
      exact ⟨fuel, result, runs⟩

theorem not_ends_of_trap (Trap : State → Prop)
    (traps : ∀ {state}, Trap state → ∃ after, round state = .next after ∧ Trap after)
    (reaches : Reaches round initial state) (trap : Trap state) : ¬Ends round initial := by
  intro ends
  rcases ends.of_reaches reaches with ⟨fuel, result, runs⟩
  rw [run_eq_none_of_trap Trap traps trap fuel] at runs
  cases runs

end MatterJs.Iteration
