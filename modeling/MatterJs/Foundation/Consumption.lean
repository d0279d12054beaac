namespace MatterJs.Consumption

/-! Actions that read from the front of a sequence: what an action takes off it,
what it leaves behind, and what it does when the sequence ends too early. -/

variable {State Item Failure α β : Type}

/-- How much of a sequence is left in a state. Only usable states are read from. -/
structure Source (State Item : Type) where
  usable : State → Prop
  remaining : State → List Item

abbrev Action (State Failure α : Type) := StateT State (Except Failure) α

theorem run_bind (action : Action State Failure α) (next : α → Action State Failure β)
    (state : State) : (action >>= next) state =
      match action state with
      | .ok (value, after) => next value after
      | .error failure => .error failure := by
  show Except.bind _ _ = _
  cases action state <;> rfl

theorem run_bind_ok {action : Action State Failure α} {state after : State} {value : α}
    (run : action state = .ok (value, after)) (next : α → Action State Failure β) :
    (action >>= next) state = next value after := by
  rw [run_bind, run]

/-- What comes next only matters where the first step arrives. -/
theorem run_bind_congr {action : Action State Failure α} {next other : α → Action State Failure β}
    {state : State}
    (same : ∀ value after, action state = .ok (value, after) →
      next value after = other value after) :
    (action >>= next) state = (action >>= other) state := by
  rw [run_bind, run_bind]
  cases run : action state with
  | error failure => rfl
  | ok pair => exact same pair.1 pair.2 run

def mapFailure {Other : Type} (convert : Failure → Other) (action : Action State Failure α) :
    Action State Other α :=
  fun state => (action state).mapError convert

theorem mapFailure_eq_ok_iff {Other : Type} {convert : Failure → Other}
    {action : Action State Failure α} {state : State} {result : α × State} :
    mapFailure convert action state = .ok result ↔ action state = .ok result := by
  rw [mapFailure]
  cases action state with
  | error failure => exact iff_of_false (fun h => by cases h) (fun h => by cases h)
  | ok other =>
    have same (pair : α × State) : (.ok pair : Except Other _) = .ok result ↔ pair = result :=
      iff_of_eq (Except.ok.injEq pair result)
    rw [Except.ok.injEq]
    exact same other

/-- Two actions do the same in a state, and it is not to fail with `failure`. -/
structure Agrees (failure : Failure) (one other : Action State Failure α) (state : State) :
    Prop where
  avoids : one state ≠ .error failure
  same : one state = other state

namespace Agrees

variable {failure : Failure} {one other : Action State Failure α}
  {next otherNext : α → Action State Failure β} {state : State}

theorem refl (avoids : one state ≠ .error failure) : Agrees failure one one state where
  avoids := avoids
  same := rfl

theorem bind (first : Agrees failure one other state)
    (second : ∀ value after, one state = .ok (value, after) →
      Agrees failure (next value) (otherNext value) after) :
    Agrees failure (one >>= next) (other >>= otherNext) state := by
  constructor
  · rw [run_bind]
    cases run : one state with
    | error stopped =>
      intro same
      cases same
      exact first.avoids run
    | ok pair => exact (second pair.1 pair.2 run).avoids
  · rw [run_bind, run_bind, ← first.same]
    cases run : one state with
    | error stopped => rfl
    | ok pair => exact (second pair.1 pair.2 run).same

theorem mapFailure {Inner : Type} {convert : Inner → Failure} (action : Action State Inner α)
    (converts : ∀ inner, convert inner ≠ failure) (state : State) :
    Agrees failure (Consumption.mapFailure convert action) (Consumption.mapFailure convert action)
      state := by
  apply refl
  rw [Consumption.mapFailure]
  cases action state with
  | error inner =>
    intro same
    exact converts inner (Except.error.inj same)
  | ok pair => exact nofun

end Agrees

/-- The action turns exactly `items` into `value`, whatever follows them. -/
def Reads (source : Source State Item) (action : Action State Failure α)
    (items : List Item) (value : α) : Prop :=
  ∀ state rest, source.usable state → source.remaining state = items ++ rest →
    ∃ next, action state = .ok (value, next) ∧ source.usable next ∧ source.remaining next = rest

/-- The action fails when only a strict prefix of `items` is left. -/
def Rejects (source : Source State Item) (action : Action State Failure α)
    (items : List Item) : Prop :=
  ∀ state missing, source.usable state → missing ≠ [] →
    source.remaining state ++ missing = items → ∃ failure, action state = .error failure

/-- The action fails at `items`, whatever follows them. -/
def Fails (source : Source State Item) (action : Action State Failure α)
    (items : List Item) : Prop :=
  ∀ state rest, source.usable state → source.remaining state = items ++ rest →
    ∃ failure, action state = .error failure

/-- A property of actions that a step before them, which reads what stands in front,
does not change. -/
structure CarriesBack (source : Source State Item)
    (property : Action State Failure β → List Item → Prop) : Prop where
  bind : ∀ {α : Type} {action : Action State Failure α} {next : α → Action State Failure β}
    {items moreItems : List Item} {value : α}, Reads source action items value →
    property (next value) moreItems → property (action >>= next) (items ++ moreItems)

/-- When only a strict prefix of `items` is left, the action fails or uses it up. -/
def Exhausts (source : Source State Item) (action : Action State Failure α)
    (items : List Item) : Prop :=
  ∀ state missing, source.usable state → missing ≠ [] →
    source.remaining state ++ missing = items →
    (∃ failure, action state = .error failure) ∨
      ∃ value next, action state = .ok (value, next) ∧ source.usable next ∧
        source.remaining next = []

def FailsAtEnd (source : Source State Item) (action : Action State Failure α) : Prop :=
  ∀ state, source.usable state → source.remaining state = [] →
    ∃ failure, action state = .error failure

/-- What a successful action leaves is never more than there was. -/
def Keeps (source : Source State Item) (action : Action State Failure α) : Prop :=
  ∀ state value next, source.usable state → action state = .ok (value, next) →
    source.usable next ∧ (source.remaining next).length ≤ (source.remaining state).length

def Advances (source : Source State Item) (action : Action State Failure α) : Prop :=
  ∀ state value next, source.usable state → action state = .ok (value, next) →
    source.usable next ∧ (source.remaining next).length < (source.remaining state).length

variable {source : Source State Item} {action : Action State Failure α}
  {next : α → Action State Failure β} {items moreItems : List Item} {value : α} {result : β}

namespace Reads

theorem pure (value : α) :
    Reads source (Pure.pure value : Action State Failure α) ([] : List Item) value := by
  intro state rest usable remaining
  exact ⟨state, rfl, usable, remaining⟩

theorem bind (first : Reads source action items value)
    (second : Reads source (next value) moreItems result) :
    Reads source (action >>= next) (items ++ moreItems) result := by
  intro state rest usable remaining
  rw [List.append_assoc] at remaining
  rcases first state _ usable remaining with ⟨middle, firstRun, middleUsable, left⟩
  rcases second middle rest middleUsable left with ⟨last, secondRun, lastUsable, nothing⟩
  refine ⟨last, ?_, lastUsable, nothing⟩
  rw [run_bind, firstRun]
  exact secondRun

theorem bind_nothing (first : Reads source action items value)
    (second : Reads source (next value) [] result) :
    Reads source (action >>= next) items result := by
  rw [← List.append_nil items]
  exact first.bind second

theorem map (transform : α → β) (reads : Reads source action items value) :
    Reads source (action >>= fun value => Pure.pure (transform value)) items
      (transform value) :=
  reads.bind_nothing (Reads.pure (transform value))

theorem mapFailure {Other : Type} (convert : Failure → Other)
    (reads : Reads source action items value) :
    Reads source (Consumption.mapFailure convert action) items value := by
  intro state rest usable remaining
  rcases reads state rest usable remaining with ⟨next, run, nextUsable, left⟩
  exact ⟨next, mapFailure_eq_ok_iff.mpr run, nextUsable, left⟩

theorem carriesBack (result : β) :
    CarriesBack source (fun (action : Action State Failure β) items =>
      Reads source action items result) where
  bind first second := first.bind second

end Reads

theorem prefix_append_cases {left missing : List Item}
    (cut : left ++ missing = items ++ moreItems) :
    (∃ lacking, lacking ≠ [] ∧ left ++ lacking = items) ∨
      ∃ more, left = items ++ more ∧ more ++ missing = moreItems := by
  rcases List.append_eq_append_iff.mp cut with ⟨lacking, whole, rest⟩ | ⟨more, whole, rest⟩
  · cases lacking with
    | nil =>
      refine .inr ⟨[], ?_, ?_⟩
      · simpa using whole.symm
      · simpa using rest
    | cons head tail => exact .inl ⟨head :: tail, List.cons_ne_nil _ _, whole.symm⟩
  · exact .inr ⟨more, whole, rest.symm⟩

namespace Rejects

theorem nothing : Rejects source action [] := by
  intro state missing _ notEmpty cut
  exact absurd (List.append_eq_nil_iff.mp cut).2 notEmpty

theorem throw (failure : Failure) :
    Rejects source (throw failure : Action State Failure α) items :=
  fun _ _ _ _ _ => ⟨failure, rfl⟩

theorem failsAtEnd (rejects : Rejects source action items) (notEmpty : items ≠ []) :
    FailsAtEnd source action := by
  intro state usable remaining
  exact rejects state items usable notEmpty (by rw [remaining, List.nil_append])

theorem exhausts (rejects : Rejects source action items) : Exhausts source action items := by
  intro state missing usable notEmpty cut
  exact .inl (rejects state missing usable notEmpty cut)

theorem bind (firstRejects : Rejects source action items) (first : Reads source action items value)
    (second : Rejects source (next value) moreItems) :
    Rejects source (action >>= next) (items ++ moreItems) := by
  intro state missing usable notEmpty cut
  rw [run_bind]
  rcases prefix_append_cases cut with ⟨lacking, lacks, within⟩ | ⟨more, left, within⟩
  · rcases firstRejects state lacking usable lacks within with ⟨failure, failed⟩
    exact ⟨failure, by rw [failed]⟩
  · rcases first state more usable left with ⟨middle, run, middleUsable, remaining⟩
    rw [run]
    exact second middle missing middleUsable notEmpty (by rw [remaining, within])

theorem andThen (rejects : Rejects source action items) :
    Rejects source (action >>= next) items := by
  intro state missing usable notEmpty cut
  rcases rejects state missing usable notEmpty cut with ⟨failure, failed⟩
  exact ⟨failure, by rw [run_bind, failed]⟩

end Rejects

namespace Fails

theorem throw (failure : Failure) :
    Fails source (throw failure : Action State Failure α) items :=
  fun _ _ _ _ => ⟨failure, rfl⟩

theorem bind (first : Fails source action items) :
    Fails source (action >>= next) (items ++ moreItems) := by
  intro state rest usable remaining
  rw [List.append_assoc] at remaining
  rcases first state _ usable remaining with ⟨failure, failed⟩
  exact ⟨failure, by rw [run_bind, failed]⟩

theorem map (transform : α → β) (fails : Fails source action items) :
    Fails source (action >>= fun value => Pure.pure (transform value)) items := by
  rw [← List.append_nil items]
  exact fails.bind

theorem rejects_bind (fails : Fails source action items) (rejects : Rejects source action items) :
    Rejects source (action >>= next) (items ++ moreItems) := by
  intro state missing usable notEmpty cut
  rw [run_bind]
  rcases prefix_append_cases cut with ⟨lacking, lacks, within⟩ | ⟨more, left, within⟩
  · rcases rejects state lacking usable lacks within with ⟨failure, failed⟩
    exact ⟨failure, by rw [failed]⟩
  · rcases fails state more usable left with ⟨failure, failed⟩
    exact ⟨failure, by rw [failed]⟩

end Fails

theorem Reads.bind_fails (first : Reads source action items value)
    (second : Fails source (next value) moreItems) :
    Fails source (action >>= next) (items ++ moreItems) := by
  intro state rest usable remaining
  rw [List.append_assoc] at remaining
  rcases first state _ usable remaining with ⟨middle, firstRun, middleUsable, left⟩
  rcases second middle rest middleUsable left with ⟨failure, failed⟩
  exact ⟨failure, by rw [run_bind, firstRun]; exact failed⟩

theorem Fails.carriesBack :
    CarriesBack source (fun (action : Action State Failure β) items =>
      Fails source action items) where
  bind first second := first.bind_fails second

namespace Exhausts

theorem nothing : Exhausts source action [] :=
  Rejects.nothing.exhausts

theorem bind_rejects (firstExhausts : Exhausts source action items)
    (first : Reads source action items value)
    (failsAtEnd : ∀ value, FailsAtEnd source (next value))
    (second : Rejects source (next value) moreItems) :
    Rejects source (action >>= next) (items ++ moreItems) := by
  intro state missing usable notEmpty cut
  rw [run_bind]
  rcases prefix_append_cases cut with ⟨lacking, lacks, within⟩ | ⟨more, left, within⟩
  · rcases firstExhausts state lacking usable lacks within with
      ⟨failure, failed⟩ | ⟨other, middle, run, middleUsable, remaining⟩
    · exact ⟨failure, by rw [failed]⟩
    · rw [run]
      exact failsAtEnd other middle middleUsable remaining
  · rcases first state more usable left with ⟨middle, run, middleUsable, remaining⟩
    rw [run]
    exact second middle missing middleUsable notEmpty (by rw [remaining, within])

theorem map (transform : α → β) (exhausts : Exhausts source action items) :
    Exhausts source (action >>= fun value => Pure.pure (transform value)) items := by
  intro state missing usable notEmpty cut
  rw [run_bind]
  rcases exhausts state missing usable notEmpty cut with
    ⟨failure, failed⟩ | ⟨value, next, run, nextUsable, remaining⟩
  · exact .inl ⟨failure, by rw [failed]⟩
  · exact .inr ⟨transform value, next, by rw [run]; rfl, nextUsable, remaining⟩

end Exhausts

theorem Rejects.bind_exhausts (firstRejects : Rejects source action items)
    (first : Reads source action items value)
    (second : Exhausts source (next value) moreItems) :
    Exhausts source (action >>= next) (items ++ moreItems) := by
  intro state missing usable notEmpty cut
  rw [run_bind]
  rcases prefix_append_cases cut with ⟨lacking, lacks, within⟩ | ⟨more, left, within⟩
  · rcases firstRejects state lacking usable lacks within with ⟨failure, failed⟩
    exact .inl ⟨failure, by rw [failed]⟩
  · rcases first state more usable left with ⟨middle, run, middleUsable, remaining⟩
    rw [run]
    exact second middle missing middleUsable notEmpty (by rw [remaining, within])

theorem FailsAtEnd.bind (failsAtEnd : FailsAtEnd source action) :
    FailsAtEnd source (action >>= next) := by
  intro state usable remaining
  rcases failsAtEnd state usable remaining with ⟨failure, failed⟩
  exact ⟨failure, by rw [run_bind, failed]⟩

namespace Keeps

theorem pure (value : α) :
    Keeps source (Pure.pure value : Action State Failure α) := by
  intro state other next usable run
  cases run
  exact ⟨usable, Nat.le_refl _⟩

theorem throw (failure : Failure) :
    Keeps source (throw failure : Action State Failure α) := by
  intro state other next usable run
  cases run

theorem mapFailure {Other : Type} (convert : Failure → Other) (keeps : Keeps source action) :
    Keeps source (Consumption.mapFailure convert action) :=
  fun state value next usable run =>
    keeps state value next usable (mapFailure_eq_ok_iff.mp run)

theorem bind (first : Keeps source action) (second : ∀ value, Keeps source (next value)) :
    Keeps source (action >>= next) := by
  intro state result last usable run
  rw [run_bind] at run
  cases firstRun : action state with
  | error failure => rw [firstRun] at run; cases run
  | ok pair =>
    rw [firstRun] at run
    have middle := first state _ _ usable firstRun
    have after := second pair.1 pair.2 result last middle.1 run
    exact ⟨after.1, Nat.le_trans after.2 middle.2⟩

end Keeps

namespace Advances

theorem mapFailure {Other : Type} (convert : Failure → Other) (advances : Advances source action) :
    Advances source (Consumption.mapFailure convert action) :=
  fun state value next usable run =>
    advances state value next usable (mapFailure_eq_ok_iff.mp run)

theorem keeps (advances : Advances source action) : Keeps source action := by
  intro state value next usable run
  have after := advances state value next usable run
  exact ⟨after.1, Nat.le_of_lt after.2⟩

theorem bind (first : Advances source action) (second : ∀ value, Keeps source (next value)) :
    Advances source (action >>= next) := by
  intro state result last usable run
  rw [run_bind] at run
  cases firstRun : action state with
  | error failure => rw [firstRun] at run; cases run
  | ok pair =>
    rw [firstRun] at run
    have middle := first state _ _ usable firstRun
    have after := second pair.1 pair.2 result last middle.1 run
    exact ⟨after.1, Nat.lt_of_le_of_lt after.2 middle.2⟩

end Advances

/-- Repeats `body` until it is done. Every round takes at least one item, so with
more fuel than items `exhausted` is never thrown. -/
def loop (exhausted : Failure) (body : β → Action State Failure (ForInStep β)) :
    Nat → β → Action State Failure β
  | 0, _ => throw exhausted
  | fuel + 1, accumulated => do
    match ← body accumulated with
    | .done result => pure result
    | .yield accumulated => loop exhausted body fuel accumulated

variable {exhausted : Failure} {body : β → Action State Failure (ForInStep β)}
  {accumulated following : β}

namespace Reads

theorem loop_done {fuel : Nat} (last : Reads source (body accumulated) items (.done result))
    (enough : 0 < fuel) : Reads source (loop exhausted body fuel accumulated) items result := by
  cases fuel with
  | zero => exact absurd enough (Nat.lt_irrefl 0)
  | succ fuel =>
    rw [loop, ← List.append_nil items]
    exact last.bind (Reads.pure result)

theorem loop_yield {fuel : Nat} (round : Reads source (body accumulated) items (.yield following))
    (rounds : Reads source (loop exhausted body fuel following) moreItems result) :
    Reads source (loop exhausted body (fuel + 1) accumulated) (items ++ moreItems) result := by
  exact round.bind rounds

end Reads

inductive Rounds (source : Source State Item) (body : β → Action State Failure (ForInStep β)) :
    β → List Item → β → Prop
  | nil {accumulated : β} : Rounds source body accumulated [] accumulated
  | cons {accumulated following last : β} {items moreItems : List Item} :
      Reads source (body accumulated) items (.yield following) → items ≠ [] →
      Rounds source body following moreItems last →
      Rounds source body accumulated (items ++ moreItems) last

namespace Rounds

theorem single (round : Reads source (body accumulated) items (.yield following))
    (notEmpty : items ≠ []) : Rounds source body accumulated items following := by
  rw [← List.append_nil items]
  exact .cons round notEmpty .nil

theorem append {last : β} (rounds : Rounds source body accumulated items following)
    (others : Rounds source body following moreItems last) :
    Rounds source body accumulated (items ++ moreItems) last := by
  induction rounds with
  | nil => exact others
  | cons round notEmpty _ induction =>
    rw [List.append_assoc]
    exact .cons round notEmpty (induction others)

theorem reads_loop {fuel : Nat} {closing : List Item}
    (rounds : Rounds source body accumulated items following)
    (last : Reads source (body following) closing (.done result)) (enough : items.length < fuel) :
    Reads source (loop exhausted body fuel accumulated) (items ++ closing) result := by
  induction rounds generalizing fuel with
  | nil => exact Reads.loop_done last enough
  | cons round notEmpty _ induction =>
    have positive := List.length_pos_iff.mpr notEmpty
    rw [List.length_append] at enough
    cases fuel with
    | zero => exact absurd enough (Nat.not_lt_zero _)
    | succ fuel =>
      rw [List.append_assoc]
      exact Reads.loop_yield round (induction last (by omega))

end Rounds

theorem loop_congr {otherBody : β → Action State Failure (ForInStep β)}
    (advances : ∀ accumulated, Advances source (body accumulated))
    {fuel otherFuel : Nat} {state : State} (usable : source.usable state)
    (enough : (source.remaining state).length < fuel)
    (otherEnough : (source.remaining state).length < otherFuel)
    (same : ∀ accumulated after, source.usable after →
      (source.remaining after).length ≤ (source.remaining state).length →
      body accumulated after = otherBody accumulated after) :
    loop exhausted body fuel accumulated state =
      loop exhausted otherBody otherFuel accumulated state := by
  induction fuel generalizing otherFuel accumulated state with
  | zero => exact absurd enough (Nat.not_lt_zero _)
  | succ fuel induction =>
    cases otherFuel with
    | zero => exact absurd otherEnough (Nat.not_lt_zero _)
    | succ otherFuel =>
      rw [loop, loop, run_bind, run_bind, ← same accumulated state usable (Nat.le_refl _)]
      cases run : body accumulated state with
      | error failure => rfl
      | ok pair =>
        rcases pair with ⟨step, next⟩
        have after := advances accumulated state step next usable run
        cases step with
        | done result => rfl
        | yield following =>
          apply induction after.1
            (Nat.lt_of_lt_of_le after.2 (Nat.lt_succ_iff.mp enough))
            (Nat.lt_of_lt_of_le after.2 (Nat.lt_succ_iff.mp otherEnough))
          intro accumulated later laterUsable shorter
          exact same accumulated later laterUsable (Nat.le_trans shorter (Nat.le_of_lt after.2))

theorem Agrees.loop {otherBody : β → Action State Failure (ForInStep β)}
    (progresses : ∀ accumulated state following next, source.usable state →
      body accumulated state = .ok (.yield following, next) →
      source.usable next ∧ (source.remaining next).length < (source.remaining state).length)
    {fuel otherFuel : Nat} {state : State} (usable : source.usable state)
    (enough : (source.remaining state).length < fuel)
    (otherEnough : (source.remaining state).length < otherFuel)
    (rounds : ∀ accumulated after, source.usable after →
      (source.remaining after).length ≤ (source.remaining state).length →
      Agrees exhausted (body accumulated) (otherBody accumulated) after) :
    Agrees exhausted (Consumption.loop exhausted body fuel accumulated)
      (Consumption.loop exhausted otherBody otherFuel accumulated) state := by
  induction fuel generalizing otherFuel accumulated state with
  | zero => exact absurd enough (Nat.not_lt_zero _)
  | succ fuel induction =>
    cases otherFuel with
    | zero => exact absurd otherEnough (Nat.not_lt_zero _)
    | succ otherFuel =>
      apply Agrees.bind (rounds accumulated state usable (Nat.le_refl _))
      intro step next run
      cases step with
      | done result => exact Agrees.refl nofun
      | yield following =>
        have after := progresses accumulated state following next usable run
        apply induction after.1 (Nat.lt_of_lt_of_le after.2 (Nat.lt_succ_iff.mp enough))
          (Nat.lt_of_lt_of_le after.2 (Nat.lt_succ_iff.mp otherEnough))
        intro accumulated later laterUsable shorter
        exact rounds accumulated later laterUsable (Nat.le_trans shorter (Nat.le_of_lt after.2))

theorem Keeps.loop {fuel : Nat} (keeps : ∀ accumulated, Keeps source (body accumulated))
    (accumulated : β) : Keeps source (Consumption.loop exhausted body fuel accumulated) := by
  induction fuel generalizing accumulated with
  | zero => exact Keeps.throw exhausted
  | succ fuel induction =>
    apply Keeps.bind (keeps accumulated)
    intro step
    cases step with
    | done result => exact Keeps.pure result
    | yield following => exact induction following

end MatterJs.Consumption
