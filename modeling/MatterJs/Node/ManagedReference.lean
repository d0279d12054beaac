import MatterJs.Foundation.ContainerHeap
import MatterJs.General.DeepEqual

/-! Managed references: the containers of a state tree, and how a change of one of them copies
those that are still the original ones. -/

namespace MatterJs.Node

open General ContainerHeap

inductive Value where
  | scalar (value : Scalar)
  | reference (identity : Nat)
  deriving DecidableEq

inductive Key where
  | name (name : String)
  | index (index : Nat)
  deriving DecidableEq

def Key.text : Key → String
  | .name text => text
  | .index position => toString position

/-- A list may have holes. -/
inductive Container where
  | struct (properties : List (String × Value))
  | list (elements : List (Option Value))
  deriving DecidableEq

abbrev Heap : Type := List Container

namespace Value

def undefined : Value := scalar .undefined

def references : Value → List Nat
  | scalar _ => []
  | reference identity => [identity]

end Value

namespace Container

def references : Container → List Nat
  | struct properties => properties.flatMap fun entry => entry.2.references
  | list elements => elements.flatMap fun element => element.elim [] Value.references

def get (container : Container) (key : Key) : Value :=
  match container with
  | struct properties => (properties.lookup key.text).getD .undefined
  | list elements =>
    match key with
    | .index index => (elements[index]?.getD none).getD .undefined
    | .name _ => .undefined

def setElement (elements : List (Option Value)) (index : Nat) (value : Value) :
    List (Option Value) :=
  if index < elements.length then elements.set index (some value)
  else elements ++ List.replicate (index - elements.length) none ++ [some value]

def set (container : Container) (key : Key) (value : Value) : Container :=
  match container with
  | struct properties => struct (OrderedMap.setEntries key.text value properties)
  | list elements =>
    match key with
    | .index index => list (setElement elements index value)
    | .name _ => list elements

/-- The copy of a container, by `{ ...container }` or `[...container]` -/
def clone : Container → Container
  | struct properties => struct properties
  | list elements => list (elements.map fun element => some (element.getD .undefined))

end Container

namespace Heap

/-- What an identity stands for; all that are used have been allocated. -/
def container (heap : Heap) (identity : Nat) : Container :=
  heap[identity]?.getD (.struct [])

def property (heap : Heap) : Value → Key → Value
  | .reference identity, key => (container heap identity).get key
  | .scalar _, _ => .undefined

def valueFrom (heap : Heap) (value : Value) : List Key → Value
  | [] => value
  | key :: path => valueFrom heap (property heap value key) path

abbrev Reachable (heap : Heap) (root identity : Nat) : Prop :=
  ContainerHeap.Reachable Container.references heap root identity

abbrev Closed (heap : Heap) : Prop := ContainerHeap.Closed Container.references heap

abbrev SameFrom (root : Nat) (heap other : Heap) : Prop :=
  ContainerHeap.SameFrom Container.references root heap other

end Heap

/-- A session's view of a data source: the canonical root and the session's own, which is the
canonical one until it writes. -/
structure Working where
  heap : Heap
  canonical : Nat
  values : Nat

namespace Working

def copyMember (old values : Container) (name : String) : Container :=
  values.set (.name name) (old.get (.name name))

/-- The root's own copy: a new instance of its type, into which the members are copied. -/
def cloneRoot (typeDefaults : List (String × Scalar)) (memberNames : List String)
    (old : Container) : Container :=
  memberNames.foldl (copyMember old)
    (.struct (typeDefaults.map fun entry => (entry.1, .scalar entry.2)))

/-- The part of the root's `change` before the mutation -/
def beginWrite (typeDefaults : List (String × Scalar)) (memberNames : List String)
    (working : Working) : Working :=
  if working.values = working.canonical then
    { working with
      heap := working.heap ++
        [cloneRoot typeDefaults memberNames (Heap.container working.heap working.values)]
      values := working.heap.length }
  else working

end Working

/-- `change` of the references along a path, from the outermost one: a container that is still
the original one is replaced by a copy in the container that holds it. The result is the last
container; there is none if a value on the path is no container. -/
def changeAlong (heap : Heap) (container : Nat) (original : Value) :
    List Key → Option (Heap × Nat)
  | [] => some (heap, container)
  | key :: path =>
    match (Heap.container heap container).get key with
    | .scalar _ => none
    | .reference identity =>
      if Heap.property heap original key = .reference identity then
        changeAlong
          ((heap ++ [(Heap.container heap identity).clone]).set container
            ((Heap.container heap container).set key (.reference heap.length)))
          heap.length (Heap.property heap original key) path
      else changeAlong heap identity (Heap.property heap original key) path

def containersAlong (heap : Heap) (container : Nat) (original : Value) :
    List Key → Option (List (Nat × Value))
  | [] => some []
  | key :: path =>
    match (Heap.container heap container).get key with
    | .scalar _ => none
    | .reference identity =>
      (containersAlong heap identity (Heap.property heap original key) path).map
        ((identity, Heap.property heap original key) :: ·)

/-! ## Containers -/

namespace Container

theorem getD_getElem?_map (elements : List (Option Value)) (index : Nat) :
    (((elements.map fun element => some (element.getD .undefined))[index]?.getD none).getD
      .undefined) = (elements[index]?.getD none).getD .undefined := by
  rw [List.getElem?_map]
  cases elements[index]? with
  | none => rfl
  | some element => rfl

@[simp] theorem get_clone (container : Container) (key : Key) :
    container.clone.get key = container.get key := by
  cases container with
  | struct properties => rfl
  | list elements =>
    cases key with
    | name name => rfl
    | index index => exact getD_getElem?_map elements index

@[simp] theorem clone_clone (container : Container) : container.clone.clone = container.clone := by
  cases container with
  | struct properties => rfl
  | list elements => simp [clone]

variable {container : Container} {key : Key} {child : Nat} {value : Value}

theorem get_eq_of_clone_eq {other : Container} (same : container.clone = other.clone) (key : Key) :
    container.get key = other.get key := by
  rw [← get_clone container, same, get_clone]

theorem mem_references_of_lookup {properties : List (String × Value)} {name : String}
    {identity : Nat} (found : (properties.lookup name).getD .undefined = .reference identity) :
    identity ∈ (struct properties).references := by
  cases held : properties.lookup name with
  | none =>
    rw [held] at found
    cases found
  | some value =>
    rw [held, Option.getD_some] at found
    refine List.mem_flatMap.mpr ⟨(name, value), ?_, ?_⟩
    · exact OrderedMap.mem_of_lookup held
    · rw [found]
      exact List.mem_singleton_self identity

theorem mem_references_of_get {identity : Nat} (found : container.get key = .reference identity) :
    identity ∈ container.references := by
  cases container with
  | struct properties => exact mem_references_of_lookup found
  | list elements =>
    cases key with
    | name name => cases found
    | index index =>
      cases held : elements[index]? with
      | none =>
        rw [get, held] at found
        cases found
      | some element =>
        rw [get, held, Option.getD_some] at found
        refine List.mem_flatMap.mpr ⟨element, List.mem_of_getElem? held, ?_⟩
        cases element with
        | none => cases found
        | some value =>
          rw [Option.getD_some] at found
          rw [found]
          exact List.mem_singleton_self identity

theorem mem_references_of_clone (member : child ∈ container.clone.references) :
    child ∈ container.references := by
  cases container with
  | struct properties => exact member
  | list elements =>
    rw [clone, references, List.flatMap_map] at member
    rcases List.mem_flatMap.mp member with ⟨element, held, isChild⟩
    refine List.mem_flatMap.mpr ⟨element, held, ?_⟩
    cases element with
    | none => cases isChild
    | some value => exact isChild

theorem mem_references_of_setEntries {name : String} {properties : List (String × Value)}
    (member : child ∈ (struct (OrderedMap.setEntries name value properties)).references) :
    child ∈ (struct properties).references ∨ child ∈ value.references := by
  induction properties with
  | nil =>
    rcases List.mem_flatMap.mp member with ⟨entry, held, isChild⟩
    rw [List.mem_singleton.mp held] at isChild
    exact .inr isChild
  | cons property properties induction =>
    rw [OrderedMap.setEntries] at member
    by_cases same : property.1 = name
    · rw [if_pos same, references, List.flatMap_cons, List.mem_append] at member
      rcases member with new | old
      · exact .inr new
      · exact .inl (List.mem_append_right _ old)
    · rw [if_neg same, references, List.flatMap_cons, List.mem_append] at member
      rcases member with first | rest
      · exact .inl (List.mem_append_left _ first)
      · rcases induction rest with old | new
        · exact .inl (List.mem_append_right _ old)
        · exact .inr new

theorem mem_references_list {elements : List (Option Value)} :
    child ∈ (list elements).references ↔
      ∃ value, some value ∈ elements ∧ child ∈ value.references := by
  constructor
  · intro member
    rcases List.mem_flatMap.mp member with ⟨element, held, isChild⟩
    cases element with
    | none => cases isChild
    | some value => exact ⟨value, held, isChild⟩
  · rintro ⟨value, held, isChild⟩
    exact List.mem_flatMap.mpr ⟨some value, held, isChild⟩

theorem mem_of_setElement {elements : List (Option Value)} {index : Nat} {other : Value}
    (member : some other ∈ setElement elements index value) :
    some other ∈ elements ∨ other = value := by
  rw [setElement] at member
  by_cases inside : index < elements.length
  · rw [if_pos inside] at member
    rcases List.mem_or_eq_of_mem_set member with old | new
    · exact .inl old
    · exact .inr (Option.some.inj new)
  · rw [if_neg inside, List.mem_append, List.mem_append, List.mem_replicate,
      List.mem_singleton] at member
    rcases member with (old | ⟨-, hole⟩) | new
    · exact .inl old
    · cases hole
    · exact .inr (Option.some.inj new)

theorem mem_references_of_set (member : child ∈ (container.set key value).references) :
    child ∈ container.references ∨ child ∈ value.references := by
  cases container with
  | struct properties => exact mem_references_of_setEntries member
  | list elements =>
    cases key with
    | name name => exact .inl member
    | index index =>
      rcases mem_references_list.mp member with ⟨other, held, isChild⟩
      rcases mem_of_setElement held with old | rfl
      · exact .inl (mem_references_list.mpr ⟨other, old, isChild⟩)
      · exact .inr isChild

theorem get_set_of_found {identity : Nat} (found : container.get key = .reference identity)
    (value : Value) : (container.set key value).get key = value := by
  cases container with
  | struct properties =>
    rw [set, get, OrderedMap.lookup_setEntries_self]
    rfl
  | list elements =>
    cases key with
    | name name => cases found
    | index index =>
      have inside : index < elements.length := by
        by_contra beyond
        rw [get, List.getElem?_eq_none (by omega)] at found
        cases found
      rw [set, get, setElement, if_pos inside, List.getElem?_set_self inside]
      rfl

end Container

namespace Heap

variable {heap other : Heap} {root identity : Nat}

theorem container_append (inside : identity < heap.length) (allocated : Heap) :
    container (heap ++ allocated) identity = container heap identity := by
  rw [container, List.getElem?_append_left inside]
  rfl

@[simp] theorem container_append_length (allocated : Container) :
    container (heap ++ [allocated]) heap.length = allocated := by
  rw [container, List.getElem?_concat_length]
  rfl

theorem container_set_ne {changed : Nat} (different : identity ≠ changed) (value : Container) :
    container (heap.set changed value) identity = container heap identity := by
  rw [container, List.getElem?_set_ne different.symm]
  rfl

theorem container_set_self (inside : identity < heap.length) (value : Container) :
    container (heap.set identity value) identity = value := by
  rw [container, List.getElem?_set_self inside]
  rfl

theorem SameFrom.container (same : SameFrom root heap other)
    (reachable : Reachable heap root identity) :
    Heap.container other identity = Heap.container heap identity := by
  rw [Heap.container, same identity reachable]
  rfl

theorem Reachable.child {child : Nat} (reachable : Reachable heap root identity)
    (member : child ∈ (container heap identity).references) : Reachable heap root child := by
  cases found : heap[identity]? with
  | none =>
    rw [container, found] at member
    cases member
  | some held =>
    rw [container, found] at member
    exact .next reachable found member

theorem Closed.lt_of_mem {child : Nat} (closed : Closed heap)
    (member : child ∈ (container heap identity).references) : child < heap.length := by
  cases found : heap[identity]? with
  | none =>
    rw [container, found] at member
    cases member
  | some held =>
    rw [container, found] at member
    exact closed held (List.mem_of_getElem? found) child member

/-- A container that was just allocated is out of reach. -/
theorem not_reachable_length (closed : Closed heap) (inside : root < heap.length) :
    ¬ Reachable heap root heap.length := by
  intro reachable
  exact absurd (closed.lt_of_reachable inside reachable) (Nat.lt_irrefl _)

/-- Properties of what the root leads to lead to nothing else. -/
theorem reachable_of_property {value : Value} {key : Key} {child : Nat}
    (known : ∀ held, value = .reference held → Reachable heap root held)
    (found : property heap value key = .reference child) : Reachable heap root child := by
  cases value with
  | scalar value => cases found
  | reference held =>
    exact Reachable.child (known held rfl) (Container.mem_references_of_get found)

theorem property_sameFrom (same : SameFrom root heap other) {value : Value}
    (known : ∀ held, value = .reference held → Reachable heap root held) (key : Key) :
    property other value key = property heap value key := by
  cases value with
  | scalar value => rfl
  | reference held =>
    rw [property, SameFrom.container same (known held rfl)]
    rfl

end Heap

end MatterJs.Node
