import Mathlib.Data.Set.Basic
import MatterJs.Foundation.Execution

namespace MatterJs.ReplayFilter

/-! Filters that are offered items one at a time and accept or refuse each of
them, and the sliding window of known items such a filter stands for. -/

universe u v

open Execution

variable {State : Type u} {Item : Type v}

structure History (State : Type u) (Item : Type v) where
  state : State
  accepted : List Item

namespace History

def start (state : State) : History State Item where
  state := state
  accepted := []

def offer (accept : State → Item → Option State) (history : History State Item)
    (item : Item) : History State Item :=
  match accept history.state item with
  | some next => { state := next, accepted := history.accepted ++ [item] }
  | none => history

theorem offer_of_accept {accept : State → Item → Option State}
    {history : History State Item} {item : Item} {next : State}
    (accepts : accept history.state item = some next) :
    history.offer accept item =
      { state := next, accepted := history.accepted ++ [item] } := by
  simp [offer, accepts]

theorem offer_of_refuse {accept : State → Item → Option State}
    {history : History State Item} {item : Item}
    (refuses : accept history.state item = none) :
    history.offer accept item = history := by
  simp [offer, refuses]

end History

/-! ## Filters that remember -/

structure Remembers (accept : State → Item → Option State) : Prop where
  refusesAccepted : ∀ {state item next}, accept state item = some next → accept next item = none
  keepsRefusing : ∀ {state item other next},
    accept state item = some next → accept state other = none → accept next other = none

structure NeverTwice (accept : State → Item → Option State)
    (history : History State Item) : Prop where
  nodup : history.accepted.Nodup
  refused : ∀ item ∈ history.accepted, accept history.state item = none

namespace Remembers

variable {accept : State → Item → Option State}

theorem offer_neverTwice (remembers : Remembers accept) (history : History State Item) (item : Item)
    (holds : NeverTwice accept history) :
    NeverTwice accept (history.offer accept item) := by
  cases accepts : accept history.state item with
  | none => rwa [History.offer_of_refuse accepts]
  | some next =>
    rw [History.offer_of_accept accepts]
    have fresh : item ∉ history.accepted := by
      intro member
      have refused := holds.refused item member
      rw [accepts] at refused
      cases refused
    constructor
    · rw [List.nodup_append]
      refine ⟨holds.nodup, by simp, ?_⟩
      intro left leftMem right rightMem equal
      rw [List.mem_singleton] at rightMem
      exact fresh (rightMem ▸ equal ▸ leftMem)
    · intro other member
      rcases List.mem_append.mp member with member | member
      · exact remembers.keepsRefusing accepts (holds.refused other member)
      · rw [List.mem_singleton] at member
        subst member
        exact remembers.refusesAccepted accepts

theorem run_neverTwice (remembers : Remembers accept) (state : State) (items : List Item) :
    NeverTwice accept (run (History.offer accept) (History.start state) items) := by
  apply run_invariant (History.offer accept) (NeverTwice accept) remembers.offer_neverTwice
  exact ⟨List.nodup_nil, by simp [History.start]⟩

theorem run_not_mem_accepted (remembers : Remembers accept) {state : State}
    {item : Item} (refused : accept state item = none) (items : List Item) :
    item ∉ (run (History.offer accept) (History.start state) items).accepted := by
  let Refused := fun history : History State Item =>
    accept history.state item = none ∧ item ∉ history.accepted
  have keeps : ∀ history offered, Refused history →
      Refused (history.offer accept offered) := by
    intro history offered holds
    cases accepts : accept history.state offered with
    | none => rwa [History.offer_of_refuse accepts]
    | some next =>
      rw [History.offer_of_accept accepts]
      refine ⟨remembers.keepsRefusing accepts holds.1, ?_⟩
      intro member
      rcases List.mem_append.mp member with member | member
      · exact holds.2 member
      · rw [List.mem_singleton] at member
        subst member
        cases accepts.symm.trans holds.1
  have start : Refused (History.start state) := ⟨refused, by simp [History.start]⟩
  exact (run_invariant (History.offer accept) Refused keeps start items).2

end Remembers

/-! ## Sliding windows

`receive` is what a window of `size` items below the newest one is meant to
know after an item: what it knew before, the item, and everything that the item
pushed out of the window. -/

section Window

variable [LT Item] [Sub Item]

def receive (size : Item) (known : Set Item) (item : Item) : Set Item :=
  {other | other ∈ known ∨ other = item ∨ other < item - size}

/-- What the window knows after a run: what it knew at the start, the accepted
items, and everything an accepted item pushed out. -/
def knownAfter (size : Item) (known : Set Item) (accepted : List Item) : Set Item :=
  {other | other ∈ known ∨ other ∈ accepted ∨ ∃ item ∈ accepted, other < item - size}

theorem knownAfter_append (size : Item) (known : Set Item) (accepted : List Item) (item : Item) :
    knownAfter size known (accepted ++ [item]) =
      receive size (knownAfter size known accepted) item := by
  simp only [knownAfter, receive, List.mem_append, List.mem_singleton, or_and_right, exists_or,
    exists_eq_left]
  grind

theorem run_known_eq {accept : State → Item → Option State} {size : Item}
    (known : State → Set Item) (Condition : State → Item → Prop)
    (moves : ∀ {state item next}, Condition state item →
      accept state item = some next → known next = receive size (known state) item)
    (state : State) {items : List Item}
    (along : Along (History.offer accept)
      (fun history item => Condition history.state item) (History.start state) items) :
    known (run (History.offer accept) (History.start state) items).state =
      knownAfter size (known state)
        (run (History.offer accept) (History.start state) items).accepted := by
  refine run_invariant_along (fun history : History State Item =>
      known history.state = knownAfter size (known state) history.accepted)
    ?_ ?_ along
  · intro history item condition holds
    cases accepts : accept history.state item with
    | none => rwa [History.offer_of_refuse accepts]
    | some next =>
      rw [History.offer_of_accept accepts, knownAfter_append, ← holds]
      exact moves condition accepts
  · simp [History.start, knownAfter]

end Window

end MatterJs.ReplayFilter
