import MatterJs.Foundation.Consumption

namespace MatterJs.Consumption

/-! Actions on one kind of state that follow actions on another kind: wherever the followed
action arrives, so does the following one, with the same value. -/

variable {State Other Failure α β : Type}

/-- Which states belong together, and how many items a state of the following side has
left. -/
structure Correspondence (State Other : Type) where
  related : State → Other → Prop
  left : State → Nat

/-- Where `other` arrives, `action` arrives with the same value, in a state that belongs to
the one `other` is in then and has fewer than `bound` items left. -/
def Follows (correspondence : Correspondence State Other) (bound : Nat)
    (action : Action State Failure α) (other : Action Other Failure α) (state : State)
    (otherState : Other) : Prop :=
  ∀ value otherNext, other otherState = .ok (value, otherNext) →
    ∃ next, action state = .ok (value, next) ∧ correspondence.related next otherNext ∧
      correspondence.left next < bound

namespace Follows

variable {correspondence : Correspondence State Other} {bound : Nat}
  {action : Action State Failure α} {other : Action Other Failure α}
  {next : α → Action State Failure β} {otherNext : α → Action Other Failure β}
  {state : State} {otherState : Other}

theorem pure (related : correspondence.related state otherState)
    (within : correspondence.left state < bound) (value : α) :
    Follows correspondence bound (Pure.pure value : Action State Failure α) (Pure.pure value)
      state otherState := by
  intro result otherAfter run
  cases run
  exact ⟨state, rfl, related, within⟩

theorem of_error {failure : Failure} (failed : other otherState = .error failure) :
    Follows correspondence bound action other state otherState := by
  intro value otherAfter run
  rw [failed] at run
  cases run

theorem bind {middle : Nat} (first : Follows correspondence middle action other state otherState)
    (second : ∀ value after otherAfter, correspondence.related after otherAfter →
      correspondence.left after < middle →
      Follows correspondence bound (next value) (otherNext value) after otherAfter) :
    Follows correspondence bound (action >>= next) (other >>= otherNext) state otherState := by
  intro result otherLast run
  rw [run_bind] at run
  cases otherRun : other otherState with
  | error failure =>
    rw [otherRun] at run
    cases run
  | ok pair =>
    rw [otherRun] at run
    rcases first pair.1 pair.2 otherRun with ⟨after, followed, related, within⟩
    rw [run_bind_ok followed]
    exact second pair.1 after pair.2 related within result otherLast run

/-- The last step only computes. -/
theorem map (transform : α → β)
    (follows : Follows correspondence bound action other state otherState) :
    Follows correspondence bound (action >>= fun value => Pure.pure (transform value))
      (other >>= fun value => Pure.pure (transform value)) state otherState :=
  follows.bind fun value _ _ related within => pure related within (transform value)

theorem loop {exhausted otherExhausted : Failure} {body : β → Action State Failure (ForInStep β)}
    {otherBody : β → Action Other Failure (ForInStep β)}
    (rounds : ∀ accumulated state otherState, correspondence.related state otherState →
      correspondence.left state < bound →
      Follows correspondence (correspondence.left state) (body accumulated)
        (otherBody accumulated) state otherState)
    (related : correspondence.related state otherState)
    (within : correspondence.left state < bound) {fuel otherFuel : Nat}
    (enough : correspondence.left state < fuel) (accumulated : β) :
    Follows correspondence bound (Consumption.loop exhausted body fuel accumulated)
      (Consumption.loop otherExhausted otherBody otherFuel accumulated) state otherState := by
  induction otherFuel generalizing fuel state otherState accumulated with
  | zero => exact of_error rfl
  | succ otherFuel induction =>
    cases fuel with
    | zero => exact absurd enough (Nat.not_lt_zero _)
    | succ fuel =>
      apply (rounds accumulated state otherState related within).bind
      intro outcome after otherAfter afterRelated fewer
      cases outcome with
      | done result => exact pure afterRelated (Nat.lt_trans fewer within) result
      | yield accumulated =>
        exact induction afterRelated (Nat.lt_trans fewer within)
          (Nat.lt_of_lt_of_le fewer (Nat.le_of_lt_succ enough)) accumulated

end Follows

end MatterJs.Consumption
