import MatterJs.Foundation.OrderedMap

namespace MatterJs.OrderedMap

/-! Lists taken apart by a key: the items of one key stay in their order. -/

universe u v

variable {Key : Type u} {Item : Type v} [DecidableEq Key]

variable (keyOf : Item → Key) (items : List Item)

def push (map : OrderedMap Key (List Item)) (item : Item) : OrderedMap Key (List Item) :=
  map.set (keyOf item) ((map.get (keyOf item)).getD [] ++ [item])

def group : OrderedMap Key (List Item) :=
  items.foldl (push keyOf) empty

def extended : Option (List Item) → List Item → Option (List Item)
  | none, [] => none
  | none, item :: items => some (item :: items)
  | some before, items => some (before ++ items)

theorem extended_cons (before : Option (List Item)) (item : Item) (items : List Item) :
    extended (some (before.getD [] ++ [item])) items = extended before (item :: items) := by
  cases before with
  | none => rfl
  | some before => exact congrArg some (List.append_assoc before [item] items)

theorem extended_nil (before : Option (List Item)) : extended before [] = before := by
  cases before with
  | none => rfl
  | some before => exact congrArg some (List.append_nil before)

theorem get_foldl_push (map : OrderedMap Key (List Item)) (key : Key) :
    (items.foldl (push keyOf) map).get key =
      extended (map.get key) (items.filter fun item => keyOf item = key) := by
  induction items generalizing map with
  | nil => exact (extended_nil _).symm
  | cons item items induction =>
    rw [List.foldl_cons, induction, push]
    by_cases same : keyOf item = key
    · subst same
      rw [get_set_self, List.filter_cons_of_pos (by simp), extended_cons]
    · rw [get_set_of_ne _ _ (Ne.symm same), List.filter_cons_of_neg (by simpa using same)]

theorem get_group (key : Key) :
    (group keyOf items).get key =
      extended none (items.filter fun item => keyOf item = key) :=
  get_foldl_push keyOf items empty key

theorem mem_values_group_iff (group : List Item) :
    group ∈ (OrderedMap.group keyOf items).values ↔
      ∃ key, group = items.filter (fun item => keyOf item = key) ∧ group ≠ [] := by
  rw [mem_values_iff]
  apply exists_congr
  intro key
  rw [get_group]
  cases items.filter fun item => keyOf item = key with
  | nil =>
    apply iff_of_false nofun
    rintro ⟨rfl, notEmpty⟩
    exact notEmpty rfl
  | cons item items =>
    rw [extended, Option.some.injEq]
    constructor
    · rintro rfl
      exact ⟨rfl, List.cons_ne_nil _ _⟩
    · exact fun same => same.1.symm

end MatterJs.OrderedMap

namespace MatterJs

/-- One list mixed into another, both in their order -/
inductive Interleaved {Item : Type*} : List Item → List Item → List Item → Prop
  | nil : Interleaved [] [] []
  | left {item : Item} {lefts rights items : List Item} :
      Interleaved lefts rights items → Interleaved (item :: lefts) rights (item :: items)
  | right {item : Item} {lefts rights items : List Item} :
      Interleaved lefts rights items → Interleaved lefts (item :: rights) (item :: items)

namespace Interleaved

variable {Item : Type*} {lefts rights items : List Item}

theorem forall_mem {property : Item → Prop} (interleaved : Interleaved lefts rights items)
    (ofLefts : ∀ item ∈ lefts, property item) (ofRights : ∀ item ∈ rights, property item) :
    ∀ item ∈ items, property item := by
  induction interleaved with
  | nil => exact nofun
  | left _ induction =>
    rw [List.forall_mem_cons] at ofLefts ⊢
    exact ⟨ofLefts.1, induction ofLefts.2 ofRights⟩
  | right _ induction =>
    rw [List.forall_mem_cons] at ofRights ⊢
    exact ⟨ofRights.1, induction ofLefts ofRights.2⟩

/-- A property that tells the two lists apart gives the first one back. -/
theorem filter_eq {property : Item → Bool} (interleaved : Interleaved lefts rights items)
    (ofLefts : ∀ item ∈ lefts, property item = true)
    (ofRights : ∀ item ∈ rights, property item = false) :
    items.filter property = lefts := by
  induction interleaved with
  | nil => rfl
  | left _ induction =>
    rw [List.forall_mem_cons] at ofLefts
    rw [List.filter_cons_of_pos ofLefts.1, induction ofLefts.2 ofRights]
  | right _ induction =>
    rw [List.forall_mem_cons] at ofRights
    rw [List.filter_cons_of_neg (Bool.eq_false_iff.mp ofRights.1), induction ofLefts ofRights.2]

end Interleaved

end MatterJs
