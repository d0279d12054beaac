import MatterJs.Foundation.Execution
import MatterJs.General.DeepEqual

/-! The `$Changing` events of a data source, over the transactions of its sessions. -/

namespace MatterJs.Node.ChangingEvents

open General

abbrev Values : Type := String → Data

/-- What `createReference` keeps for a session -/
structure Reference where
  /-- The session's own values, while they are not `internals.values` -/
  clone : Option Values
  precommitValues : String → Option Data
  /-- What `keyIterator` has left -/
  keys : List String
  mayHaveMutated : Bool

structure Datasource where
  /-- The names of the members -/
  fields : List String
  /-- `internals.values` -/
  values : Values
  references : Nat → Reference

structure Change where
  name : String
  newValue : Data
  oldValue : Data

def Reference.fresh : Reference :=
  { clone := none, precommitValues := fun _ => none, keys := [], mayHaveMutated := false }

namespace Datasource

variable (source : Datasource) (session : Nat)

/-- The `values` of a session -/
def valuesOf : Values :=
  (source.references session).clone.getD source.values

def setReference (reference : Reference) : Datasource :=
  { source with references := Function.update source.references session reference }

/-- `change` of the root reference, whose mutation writes a field, or something in it -/
def change (name : String) (value : Data) : Datasource :=
  let reference := source.references session
  source.setReference session
    { reference with clone := some (Function.update (source.valuesOf session) name value) }

/-- `deepCopy` makes the same data. -/
def computePreCommitChange (name : String) : Option Change × Reference :=
  let reference := source.references session
  let oldValue := (reference.precommitValues name).getD (source.values name)
  let newValue := source.valuesOf session name
  if isDeepEqual false oldValue newValue then (none, reference)
  else
    (some { name, newValue, oldValue },
      { reference with
        precommitValues := Function.update reference.precommitValues name (some newValue)
        mayHaveMutated := true })

/-- The begin of `preCommit` -/
def preCommit : Datasource :=
  source.setReference session
    { source.references session with keys := source.fields, mayHaveMutated := false }

/-- A turn of `nextKey`, with whether there is an event for the key that is observed: the change
that is notified, if there is one -/
def nextKey (isObserved : Bool) : Option Change × Datasource :=
  match (source.references session).keys with
  | [] => (none, source)
  | name :: keys =>
    if !isObserved then
      (none, source.setReference session { source.references session with keys })
    else
      let (change, reference) := source.computePreCommitChange session name
      (change, source.setReference session { reference with keys })

/-- Whether `computePostCommitChanges` finds a change -/
def hasChanges (values : Values) : Bool :=
  source.fields.any fun name => !isDeepEqual false (values name) (source.values name)

/-- On a rollback the values are the canonical ones again. -/
def rollback : Datasource :=
  source.setReference session { source.references session with clone := none }

/-- Both phases of the commit. The other sessions see the new values, if they have none of their
own. -/
def commit : Datasource :=
  match (source.references session).clone with
  | none => source
  | some values =>
    let values := if source.hasChanges values then values else source.values
    { source with values }.rollback session

end Datasource

inductive Event where
  | change (session : Nat) (name : String) (value : Data)
  | preCommit (session : Nat)
  | nextKey (session : Nat) (isObserved : Bool)
  | commit (session : Nat)
  | rollback (session : Nat)

/-- The data source, with what each session announced in its transaction -/
structure State where
  source : Datasource
  announced : Nat → String → Option Data

namespace State

variable (state : State)

def lastAnnounced (session : Nat) (name : String) : Data :=
  (state.announced session name).getD (state.source.values name)

def announce (session : Nat) (change : Option Change) : State :=
  match change with
  | none => state
  | some change =>
    { state with
      announced := Function.update state.announced session
        (Function.update (state.announced session) change.name (some change.newValue)) }

/-- The next transaction of the session has announced nothing. -/
def forget (session : Nat) : State :=
  { state with announced := Function.update state.announced session fun _ => none }

def emitted : Event → Option Change
  | .nextKey session isObserved => (state.source.nextKey session isObserved).1
  | _ => none

def step : Event → State
  | .change session name value =>
    { state with source := state.source.change session name value }
  | .preCommit session => { state with source := state.source.preCommit session }
  | .nextKey session isObserved =>
    { state with source := (state.source.nextKey session isObserved).2 }.announce session
      (state.source.nextKey session isObserved).1
  | .commit session => { state with source := state.source.commit session }.forget session
  | .rollback session => { state with source := state.source.rollback session }.forget session

def fresh (fields : List String) (values : Values) : State :=
  { source := { fields, values, references := fun _ => .fresh }
    announced := fun _ _ => none }

end State

variable (state : State)

def turnOf : Event → Option (Nat × String)
  | .nextKey session true =>
    ((state.source.references session).keys.head?).map fun name => (session, name)
  | _ => none

/-- An event is emitted for an observed field just where its value is another one than that
announced last in the transaction, or the canonical one. -/
def NotifiesChanges (event : Event) : Prop :=
  ∀ session name, turnOf state event = some (session, name) →
    ((∃ change, state.emitted event = some change ∧ change.name = name) ↔
      isDeepEqual false (state.lastAnnounced session name)
        (state.source.valuesOf session name) = false)

/-- What an earlier transaction announced for the field, where this one announced nothing yet, is
the canonical value. -/
def NothingStale (event : Event) : Prop :=
  ∀ session name, turnOf state event = some (session, name) →
    state.announced session name = none →
      ∀ value, (state.source.references session).precommitValues name = some value →
        value = state.source.values name

def Remembers : Prop :=
  ∀ session name value, state.announced session name = some value →
    (state.source.references session).precommitValues name = some value

/-! ## What a turn does -/

section Turn

variable {source : Datasource} {session : Nat} {name : String} {keys : List String}

theorem setReference_self (source : Datasource) (session : Nat) (reference : Reference) :
    (source.setReference session reference).references session = reference :=
  Function.update_self ..

theorem setReference_other {other : Nat} (different : other ≠ session) (reference : Reference) :
    (source.setReference session reference).references other = source.references other :=
  Function.update_of_ne different ..

theorem setReference_remembers {announced : Nat → String → Option Data}
    (remembers : Remembers ⟨source, announced⟩) {reference : Reference}
    (same : reference.precommitValues = (source.references session).precommitValues) :
    Remembers ⟨source.setReference session reference, announced⟩ := by
  intro other name value isAnnounced
  by_cases isSame : other = session
  · subst isSame
    rw [setReference_self, same]
    exact remembers other name value isAnnounced
  · dsimp only
    rw [setReference_other isSame]
    exact remembers other name value isAnnounced

theorem nextKey_done (isObserved : Bool) (done : (source.references session).keys = []) :
    source.nextKey session isObserved = (none, source) := by
  rw [Datasource.nextKey, done]

theorem nextKey_unobserved (isNext : (source.references session).keys = name :: keys) :
    source.nextKey session false =
      (none, source.setReference session { source.references session with keys }) := by
  rw [Datasource.nextKey, isNext]
  rfl

theorem nextKey_same (isNext : (source.references session).keys = name :: keys)
    (same : isDeepEqual false
      (((source.references session).precommitValues name).getD (source.values name))
      (source.valuesOf session name) = true) :
    source.nextKey session true =
      (none, source.setReference session { source.references session with keys }) := by
  rw [Datasource.nextKey, isNext]
  dsimp only
  rw [Datasource.computePreCommitChange, if_pos same]
  rfl

theorem nextKey_changed (isNext : (source.references session).keys = name :: keys)
    (changed : isDeepEqual false
      (((source.references session).precommitValues name).getD (source.values name))
      (source.valuesOf session name) = false) :
    source.nextKey session true =
      (some
        { name
          newValue := source.valuesOf session name
          oldValue := ((source.references session).precommitValues name).getD
            (source.values name) },
        source.setReference session
          { source.references session with
            precommitValues := Function.update (source.references session).precommitValues name
              (some (source.valuesOf session name))
            keys
            mayHaveMutated := true }) := by
  rw [Datasource.nextKey, isNext]
  dsimp only
  rw [Datasource.computePreCommitChange, changed]
  rfl

end Turn

/-! ## What is announced is remembered -/

theorem forget_remembers {state : State} {source : Datasource} (session : Nat)
    (remembers : Remembers state)
    (others : ∀ other, other ≠ session → source.references other = state.source.references other) :
    Remembers ({ state with source }.forget session) := by
  intro other name value isAnnounced
  by_cases isSame : other = session
  · subst isSame
    rw [State.forget] at isAnnounced
    dsimp only at isAnnounced
    rw [Function.update_self] at isAnnounced
    cases isAnnounced
  · rw [State.forget] at isAnnounced ⊢
    dsimp only at isAnnounced ⊢
    rw [Function.update_of_ne isSame] at isAnnounced
    rw [others other isSame]
    exact remembers other name value isAnnounced

theorem nextKey_remembers {state : State} (remembers : Remembers state) (session : Nat)
    (isObserved : Bool) : Remembers (state.step (.nextKey session isObserved)) := by
  rw [State.step]
  cases isNext : (state.source.references session).keys with
  | nil =>
    rw [nextKey_done isObserved isNext]
    exact remembers
  | cons name keys =>
    cases isObserved with
    | false =>
      rw [nextKey_unobserved isNext]
      exact setReference_remembers remembers rfl
    | true =>
      cases compared : isDeepEqual false
          (((state.source.references session).precommitValues name).getD
            (state.source.values name)) (state.source.valuesOf session name) with
      | true =>
        rw [nextKey_same isNext compared]
        exact setReference_remembers remembers rfl
      | false =>
        rw [nextKey_changed isNext compared, State.announce]
        intro other field value isAnnounced
        dsimp only at isAnnounced ⊢
        by_cases isSame : other = session
        · subst isSame
          rw [Function.update_self] at isAnnounced
          rw [setReference_self]
          dsimp only
          by_cases isName : field = name
          · subst isName
            rw [Function.update_self] at isAnnounced ⊢
            exact isAnnounced
          · rw [Function.update_of_ne isName] at isAnnounced ⊢
            exact remembers other field value isAnnounced
        · rw [Function.update_of_ne isSame] at isAnnounced
          rw [setReference_other isSame]
          exact remembers other field value isAnnounced

theorem step_remembers (state : State) (event : Event) (remembers : Remembers state) :
    Remembers (state.step event) := by
  cases event with
  | change session name value => exact setReference_remembers remembers rfl
  | preCommit session => exact setReference_remembers remembers rfl
  | nextKey session isObserved => exact nextKey_remembers remembers session isObserved
  | rollback session =>
    exact forget_remembers session remembers fun other different =>
      setReference_other different _
  | commit session =>
    refine forget_remembers session remembers fun other different => ?_
    rw [Datasource.commit]
    split
    · rfl
    · exact setReference_other different _

theorem oldValue_eq {state : State} (remembers : Remembers state) {event : Event}
    (nothingStale : NothingStale state event) {session : Nat} {name : String}
    (turn : turnOf state event = some (session, name)) :
    ((state.source.references session).precommitValues name).getD (state.source.values name) =
      state.lastAnnounced session name := by
  rw [State.lastAnnounced]
  cases isAnnounced : state.announced session name with
  | some value =>
    rw [remembers session name value isAnnounced]
  | none =>
    cases remembered : (state.source.references session).precommitValues name with
    | none => rfl
    | some value => exact nothingStale session name turn isAnnounced value remembered

theorem notifies_of_nothingStale {state : State} (remembers : Remembers state) {event : Event}
    (nothingStale : NothingStale state event) : NotifiesChanges state event := by
  intro session name turn
  have oldValue := oldValue_eq remembers nothingStale turn
  cases event with
  | nextKey other isObserved =>
    cases isObserved with
    | false => cases turn
    | true =>
      rw [turnOf, Option.map_eq_some_iff] at turn
      rcases turn with ⟨first, isFirst, same⟩
      cases same
      rcases List.head?_eq_some_iff.mp isFirst with ⟨keys, isNext⟩
      rw [← oldValue, State.emitted]
      cases compared : isDeepEqual false
          (((state.source.references session).precommitValues name).getD
            (state.source.values name)) (state.source.valuesOf session name) with
      | true =>
        rw [nextKey_same isNext compared]
        simp
      | false =>
        rw [nextKey_changed isNext compared]
        simp
  | _ => cases turn

/-- Over all transactions of all sessions, the events are those of the changes, as long as what
an earlier transaction announced is the canonical value, or forgotten. -/
theorem notifiesChanges_along (fields : List String) (values : Values) {events : List Event}
    (nothingStale : Execution.Along State.step NothingStale (.fresh fields values) events) :
    Execution.Along State.step NotifiesChanges (.fresh fields values) events := by
  have remembers : Remembers (.fresh fields values) := fun _ _ _ isAnnounced => nomatch isAnnounced
  exact nothingStale.of_invariant Remembers remembers fun state event condition before =>
    ⟨step_remembers state event before, notifies_of_nothingStale before condition⟩

/-- A field is committed and changed again in the next transaction. -/
theorem notifiesChanges_along_twice :
    Execution.Along State.step NotifiesChanges (.fresh ["onOff"] fun _ => .scalar (.boolean false))
      [.change 1 "onOff" (.scalar (.boolean true)), .preCommit 1, .nextKey 1 true,
        .preCommit 1, .nextKey 1 true, .commit 1,
        .change 1 "onOff" (.scalar (.boolean false)), .preCommit 1, .nextKey 1 true] := by
  apply notifiesChanges_along
  refine ⟨nofun, nofun, ?_, nofun, ?_, nofun, nofun, nofun, ?_, trivial⟩
  · rintro session name ⟨⟩ _ value remembered
    cases remembered
  · rintro session name ⟨⟩ unannounced
    cases unannounced
  · rintro session name ⟨⟩ _ value remembered
    cases remembered
    rfl

def writtenAgain : List Event :=
  [.change 1 "onOff" (.scalar (.boolean true)), .preCommit 1, .nextKey 1 true,
    .preCommit 1, .nextKey 1 true, .rollback 1,
    .change 1 "onOff" (.scalar (.boolean true)), .preCommit 1]

/-- After a rollback the same value is written again, and nobody is told. -/
theorem notifiesChanges_rolledBack_false :
    ¬∀ (fields : List String) (values : Values) (events : List Event),
      Execution.Along State.step NotifiesChanges (.fresh fields values) events := by
  intro all
  have along := all ["onOff"] (fun _ => .scalar (.boolean false))
    (writtenAgain ++ [.nextKey 1 true])
  have last := Execution.along_iff_forall_cut.mp along writtenAgain (.nextKey 1 true) [] rfl
  rcases (last 1 "onOff" (by decide +kernel)).mpr (by decide +kernel) with ⟨change, emitted, _⟩
  have silent : (State.emitted
      (Execution.run State.step (.fresh ["onOff"] fun _ => .scalar (.boolean false)) writtenAgain)
      (.nextKey 1 true)).isSome = false := by
    decide +kernel
  rw [emitted] at silent
  exact nomatch silent

end MatterJs.Node.ChangingEvents
