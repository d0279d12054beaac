import Mathlib.Data.List.Basic

/-! Containers that are known by where they were allocated, and what changes of some of them
leave of what can be reached from others. -/

namespace MatterJs.ContainerHeap

universe u

variable {Container : Type u} (references : Container → List Nat)

inductive Reachable (heap : List Container) (root : Nat) : Nat → Prop where
  | root : Reachable heap root root
  | next {identity child : Nat} {container : Container} :
      Reachable heap root identity → heap[identity]? = some container →
      child ∈ references container → Reachable heap root child

def Closed (heap : List Container) : Prop :=
  ∀ container ∈ heap, ∀ child ∈ references container, child < heap.length

def SameFrom (root : Nat) (heap other : List Container) : Prop :=
  ∀ identity, Reachable references heap root identity → other[identity]? = heap[identity]?

variable {references} {heap other : List Container} {root identity : Nat}

theorem SameFrom.refl (heap : List Container) : SameFrom references root heap heap :=
  fun _ _ => rfl

theorem SameFrom.reachable (same : SameFrom references root heap other)
    (reachable : Reachable references heap root identity) :
    Reachable references other root identity := by
  induction reachable with
  | root => exact .root
  | next before found member induction => exact .next induction ((same _ before).trans found) member

theorem SameFrom.trans {third : List Container} (first : SameFrom references root heap other)
    (second : SameFrom references root other third) : SameFrom references root heap third := by
  intro identity reachable
  rw [second identity (first.reachable reachable), first identity reachable]

/-- What can be reached afterwards could be reached before. -/
theorem SameFrom.reachable_iff (same : SameFrom references root heap other) :
    Reachable references other root identity ↔ Reachable references heap root identity := by
  constructor
  · intro reachable
    induction reachable with
    | root => exact .root
    | next _ found member induction =>
      exact .next induction ((same _ induction).symm.trans found) member
  · exact same.reachable

theorem Closed.lt_of_reachable (closed : Closed references heap) (inside : root < heap.length)
    (reachable : Reachable references heap root identity) : identity < heap.length := by
  cases reachable with
  | root => exact inside
  | next _ found member => exact closed _ (List.mem_of_getElem? found) _ member

theorem SameFrom.append (closed : Closed references heap) (inside : root < heap.length)
    (allocated : List Container) : SameFrom references root heap (heap ++ allocated) := by
  intro identity reachable
  exact List.getElem?_append_left (closed.lt_of_reachable inside reachable)

theorem Closed.append (closed : Closed references heap) {container : Container}
    (known : ∀ child ∈ references container, child ≤ heap.length) :
    Closed references (heap ++ [container]) := by
  intro held member child isChild
  rw [List.length_append]
  rcases List.mem_append.mp member with old | new
  · exact Nat.lt_succ_of_lt (closed held old child isChild)
  · rw [List.mem_singleton.mp new] at isChild
    exact Nat.lt_succ_of_le (known child isChild)

theorem SameFrom.set (unreached : ¬ Reachable references heap root identity)
    (container : Container) : SameFrom references root heap (heap.set identity container) := by
  intro reached reachable
  have different : identity ≠ reached := by
    rintro rfl
    exact unreached reachable
  exact List.getElem?_set_ne different

theorem Closed.set (closed : Closed references heap) {container : Container}
    (known : ∀ child ∈ references container, child < heap.length) :
    Closed references (heap.set identity container) := by
  intro held member child isChild
  rw [List.length_set]
  rcases List.mem_or_eq_of_mem_set member with old | new
  · exact closed held old child isChild
  · rw [new] at isChild
    exact known child isChild

end MatterJs.ContainerHeap
