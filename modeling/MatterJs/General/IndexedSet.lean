import MatterJs.Foundation.Execution
import MatterJs.General.BasicSet

/-! The set with an index for each field that was looked up, and where every lookup finds what
is in the set. A field of an item may be undefined; several items may share a value. -/

namespace MatterJs.General

open Execution

universe u v w

inductive SetEvent (Field : Type u) (Item : Type v) (Key : Type w) where
  | add (item : Item)
  | delete (item : Item)
  | clear
  | get (field : Field) (value : Option Key)

structure IndexedSet (Field : Type u) (Item : Type v) (Key : Type w) where
  entries : List Item
  indices : Field → Option (OrderedMap Key Item)
  nodup : entries.Nodup

namespace IndexedSet

variable {Field : Type u} {Item : Type v} {Key : Type w}

def new : IndexedSet Field Item Key where
  entries := []
  indices _ := none
  nodup := List.nodup_nil

variable [DecidableEq Key]

def indexItem (valueOf : Item → Option Key) (index : OrderedMap Key Item) (item : Item) :
    OrderedMap Key Item :=
  match valueOf item with
  | none => index
  | some value => if index.has value then index else index.set value item

def buildIndex (valueOf : Item → Option Key) (items : List Item) : OrderedMap Key Item :=
  items.foldl (indexItem valueOf) {}

def unindexItem [DecidableEq Item] (valueOf : Item → Option Key) (index : OrderedMap Key Item)
    (item : Item) : OrderedMap Key Item :=
  match valueOf item with
  | none => index
  | some value => if index.get value = some item then index.delete value else index

variable [DecidableEq Field] [DecidableEq Item] (valueOf : Field → Item → Option Key)

variable (set : IndexedSet Field Item Key)

def add (item : Item) : IndexedSet Field Item Key :=
  if present : item ∈ set.entries then set
  else
    { entries := set.entries ++ [item]
      indices := fun field =>
        (set.indices field).map fun index => indexItem (valueOf field) index item
      nodup := by
        rw [List.nodup_append_comm, List.singleton_append]
        exact List.nodup_cons.mpr ⟨present, set.nodup⟩ }

/-- `get`: what is found, and the set with the index of the field built. -/
def get (set : IndexedSet Field Item Key) (field : Field) (value : Option Key) :
    Option Item × IndexedSet Field Item Key :=
  match set.indices field with
  | some index => (value.bind index.get, set)
  | none =>
    (value.bind (buildIndex (valueOf field) set.entries).get,
      { set with
        indices := Function.update set.indices field
          (some (buildIndex (valueOf field) set.entries)) })

def delete (item : Item) : IndexedSet Field Item Key :=
  if item ∈ set.entries then
    { entries := set.entries.erase item
      indices := fun field =>
        (set.indices field).map fun index => unindexItem (valueOf field) index item
      nodup := set.nodup.erase item }
  else set

/-- The indices stay. -/
def clear : IndexedSet Field Item Key :=
  { set with
    entries := []
    nodup := List.nodup_nil }

def step : SetEvent Field Item Key → IndexedSet Field Item Key
  | .add item => set.add valueOf item
  | .delete item => set.delete valueOf item
  | .clear => set.clear
  | .get field value => (set.get valueOf field value).2

/-- A lookup returns an item of the set that has the value in the field, if there is one. A
field that is undefined has no value. -/
def Finds : Prop :=
  ∀ field value,
    (∀ item, (set.get valueOf field value).1 = some item →
      item ∈ set.entries ∧ valueOf field item = value) ∧
    ((set.get valueOf field value).1.isSome ↔
      ∃ item ∈ set.entries, valueOf field item = value ∧ value.isSome)

/-- No built index is left wrong: a set that is cleared has no item with a value in an indexed
field, and no other item has a value that leads to the deleted one. -/
def KeepsIndices : SetEvent Field Item Key → Prop
  | .clear =>
    ∀ field, (set.indices field).isSome → ∀ item ∈ set.entries, valueOf field item = none
  | .delete item =>
    ∀ field, ∀ index ∈ set.indices field, ∀ value, index.get value = some item →
      ∀ other ∈ set.entries, valueOf field other = some value → other = item
  | _ => True

/-! ## One index -/

section Index

variable {valueOf : Item → Option Key} {items : List Item} {index : OrderedMap Key Item}

def Matches (valueOf : Item → Option Key) (items : List Item) (index : OrderedMap Key Item) :
    Prop :=
  ∀ value,
    (∀ item, index.get value = some item → item ∈ items ∧ valueOf item = some value) ∧
    (index.get value = none → ∀ item ∈ items, valueOf item ≠ some value)

omit [DecidableEq Item] in
theorem get_indexItem (item : Item) (value : Key) :
    (indexItem valueOf index item).get value =
      (index.get value).or (if valueOf item = some value then some item else none) := by
  rw [indexItem]
  cases isValue : valueOf item with
  | none => simp
  | some own =>
    dsimp only
    by_cases taken : index.has own
    · rw [if_pos taken]
      by_cases same : own = value
      · rw [← same]
        exact (Option.or_of_isSome taken).symm
      · simp [same]
    · rw [if_neg taken, OrderedMap.get_set]
      by_cases same : value = own
      · have free : index.get own = none := Option.not_isSome_iff_eq_none.mp taken
        simp [same, free]
      · simp [same, Ne.symm same]

omit [DecidableEq Item] in
theorem get_foldl_indexItem (items : List Item) (index : OrderedMap Key Item) (value : Key) :
    (items.foldl (indexItem valueOf) index).get value =
      (index.get value).or (items.find? fun item => valueOf item = some value) := by
  induction items generalizing index with
  | nil => simp
  | cons item items induction =>
    rw [List.foldl_cons, induction, get_indexItem]
    by_cases same : valueOf item = some value
    · simp [same]
    · simp [same]

omit [DecidableEq Item] in
theorem get_buildIndex (items : List Item) (value : Key) :
    (buildIndex valueOf items).get value =
      items.find? fun item => valueOf item = some value :=
  get_foldl_indexItem items {} value

omit [DecidableEq Item] in
theorem matches_buildIndex (items : List Item) :
    Matches valueOf items (buildIndex valueOf items) := by
  intro value
  rw [get_buildIndex]
  constructor
  · intro item found
    exact ⟨List.mem_of_find?_eq_some found, by simpa using List.find?_some found⟩
  · intro notFound item member same
    exact List.find?_eq_none.mp notFound item member (by simpa using same)

omit [DecidableEq Item] in
theorem Matches.indexItem (isIndex : Matches valueOf items index) (item : Item) :
    Matches valueOf (items ++ [item]) (indexItem valueOf index item) := by
  intro value
  rw [get_indexItem]
  have before := isIndex value
  cases found : index.get value with
  | some other =>
    rw [found] at before
    refine ⟨?_, nofun⟩
    rintro _ ⟨⟩
    exact ⟨List.mem_append_left _ (before.1 other rfl).1, (before.1 other rfl).2⟩
  | none =>
    rw [found] at before
    by_cases same : valueOf item = some value
    · rw [if_pos same]
      refine ⟨?_, nofun⟩
      rintro _ ⟨⟩
      exact ⟨List.mem_append_right _ (List.mem_singleton_self item), same⟩
    · rw [if_neg same]
      refine ⟨nofun, fun _ other member => ?_⟩
      rcases List.mem_append.mp member with earlier | last
      · exact before.2 rfl other earlier
      · rw [List.mem_singleton.mp last]
        exact same

theorem get_unindexItem (isIndex : Matches valueOf items index) (item : Item) (value : Key) :
    (unindexItem valueOf index item).get value =
      if index.get value = some item then none else index.get value := by
  rw [unindexItem]
  by_cases leads : index.get value = some item
  · rw [if_pos leads, ((isIndex value).1 item leads).2]
    dsimp only
    rw [if_pos leads, OrderedMap.get_delete_self]
  · rw [if_neg leads]
    cases valueOf item with
    | none => rfl
    | some own =>
      dsimp only
      by_cases indexed : index.get own = some item
      · rw [if_pos indexed]
        apply OrderedMap.get_delete_of_ne
        rintro rfl
        exact leads indexed
      · rw [if_neg indexed]

theorem Matches.unindexItem_iff (isIndex : Matches valueOf items index) (nodup : items.Nodup)
    (item : Item) :
    Matches valueOf (items.erase item) (unindexItem valueOf index item) ↔
      ∀ value, index.get value = some item →
        ∀ other ∈ items, valueOf other = some value → other = item := by
  constructor
  · intro after value leads other member same
    by_contra different
    have unindexed := (after value).2
    rw [get_unindexItem isIndex, if_pos leads] at unindexed
    exact unindexed rfl other ((List.mem_erase_of_ne different).mpr member) same
  · intro alone value
    rw [get_unindexItem isIndex]
    by_cases leads : index.get value = some item
    · rw [if_pos leads]
      refine ⟨nofun, fun _ other member same => ?_⟩
      rw [nodup.mem_erase_iff] at member
      exact member.1 (alone value leads other member.2 same)
    · rw [if_neg leads]
      constructor
      · intro other found
        have before := (isIndex value).1 other found
        refine ⟨(List.mem_erase_of_ne ?_).mpr before.1, before.2⟩
        rintro rfl
        exact leads found
      · intro notFound other member
        exact (isIndex value).2 notFound other (List.mem_of_mem_erase member)

omit [DecidableEq Item] in
theorem Matches.nil_iff (isIndex : Matches valueOf items index) :
    Matches valueOf [] index ↔ ∀ item ∈ items, valueOf item = none := by
  constructor
  · intro after item member
    by_contra hasValue
    rcases Option.ne_none_iff_exists'.mp hasValue with ⟨value, same⟩
    cases found : index.get value with
    | some other => cases ((after value).1 other found).1
    | none => exact (isIndex value).2 found item member same
  · intro noValues value
    refine ⟨fun item found => ?_, fun _ => nofun⟩
    have before := (isIndex value).1 item found
    rw [noValues item before.1] at before
    cases before.2

end Index

/-! ## All indices -/

variable {valueOf} {set : IndexedSet Field Item Key}

def AllMatch (valueOf : Field → Item → Option Key) (set : IndexedSet Field Item Key) : Prop :=
  ∀ field, ∀ index ∈ set.indices field, Matches (valueOf field) set.entries index

omit [DecidableEq Field] [DecidableEq Item] in
theorem allMatch_new : AllMatch valueOf new := fun _ => nofun

omit [DecidableEq Item] in
theorem get_fst (set : IndexedSet Field Item Key) (field : Field) (value : Option Key) :
    (set.get valueOf field value).1 =
      value.bind ((set.indices field).getD (buildIndex (valueOf field) set.entries)).get := by
  rw [get]
  cases set.indices field with
  | some index => rfl
  | none => rfl

omit [DecidableEq Field] [DecidableEq Item] in
theorem AllMatch.matches_getD (allMatch : AllMatch valueOf set) (field : Field) :
    Matches (valueOf field) set.entries
      ((set.indices field).getD (buildIndex (valueOf field) set.entries)) := by
  cases isIndex : set.indices field with
  | some index => exact allMatch field index isIndex
  | none => exact matches_buildIndex set.entries

omit [DecidableEq Item] in
theorem finds_iff_allMatch : set.Finds valueOf ↔ AllMatch valueOf set := by
  constructor
  · intro finds field index isIndex value
    have found := finds field (some value)
    rw [get_fst, isIndex] at found
    refine ⟨found.1, fun notFound item member same => ?_⟩
    have isSome := found.2.mpr ⟨item, member, same, rfl⟩
    rw [Option.bind_some, Option.getD_some, notFound] at isSome
    cases isSome
  · intro allMatch field value
    rw [get_fst]
    have isIndex := allMatch.matches_getD field
    cases value with
    | none => simp
    | some value =>
      refine ⟨(isIndex value).1, ?_⟩
      constructor
      · intro isSome
        rcases Option.isSome_iff_exists.mp isSome with ⟨item, found⟩
        have isItem := (isIndex value).1 item found
        exact ⟨item, isItem.1, isItem.2, rfl⟩
      · rintro ⟨item, member, same, _⟩
        by_contra notSome
        exact (isIndex value).2 (Option.not_isSome_iff_eq_none.mp notSome) item member same

section

variable (allMatch : AllMatch valueOf set)

include allMatch

omit [DecidableEq Field] in
theorem AllMatch.add (item : Item) :
    AllMatch valueOf (set.add valueOf item) := by
  rw [IndexedSet.add]
  by_cases present : item ∈ set.entries
  · rwa [dif_pos present]
  · rw [dif_neg present]
    intro field index isIndex
    rcases Option.map_eq_some_iff.mp isIndex with ⟨before, isBefore, rfl⟩
    exact (allMatch field before isBefore).indexItem item

omit [DecidableEq Item] in
theorem AllMatch.get (field : Field) (value : Option Key) :
    AllMatch valueOf (set.get valueOf field value).2 := by
  rw [IndexedSet.get]
  cases built : set.indices field with
  | some index => exact allMatch
  | none =>
    intro other index isIndex
    dsimp only at isIndex
    by_cases same : other = field
    · rw [same, Function.update_self] at isIndex
      cases isIndex
      rw [same]
      exact matches_buildIndex set.entries
    · rw [Function.update_of_ne same] at isIndex
      exact allMatch other index isIndex

omit [DecidableEq Field] in
theorem AllMatch.delete_iff (item : Item) :
    AllMatch valueOf (set.delete valueOf item) ↔ set.KeepsIndices valueOf (.delete item) := by
  rw [IndexedSet.delete, KeepsIndices]
  by_cases present : item ∈ set.entries
  · rw [if_pos present]
    constructor
    · intro after field index isIndex
      apply ((allMatch field index isIndex).unindexItem_iff set.nodup item).mp
      exact after field _ (Option.map_eq_some_iff.mpr ⟨index, isIndex, rfl⟩)
    · intro alone field index isIndex
      rcases Option.map_eq_some_iff.mp isIndex with ⟨before, isBefore, rfl⟩
      apply ((allMatch field before isBefore).unindexItem_iff set.nodup item).mpr
      exact alone field before isBefore
  · rw [if_neg present]
    refine iff_of_true allMatch fun field index isIndex value leads => ?_
    exact absurd ((allMatch field index isIndex value).1 item leads).1 present

omit [DecidableEq Field] [DecidableEq Item] in
theorem AllMatch.clear_iff :
    AllMatch valueOf set.clear ↔ set.KeepsIndices valueOf .clear := by
  constructor
  · intro after field built
    rcases Option.isSome_iff_exists.mp built with ⟨index, isIndex⟩
    exact (allMatch field index isIndex).nil_iff.mp (after field index isIndex)
  · intro noValues field index isIndex
    apply (allMatch field index isIndex).nil_iff.mpr
    exact noValues field (Option.isSome_iff_exists.mpr ⟨index, isIndex⟩)

theorem AllMatch.step_iff (event : SetEvent Field Item Key) :
    AllMatch valueOf (set.step valueOf event) ↔ set.KeepsIndices valueOf event := by
  cases event with
  | add item => exact iff_of_true (allMatch.add item) trivial
  | delete item => exact allMatch.delete_iff item
  | clear => exact allMatch.clear_iff
  | get field value => exact iff_of_true (allMatch.get field value) trivial

end

/-- Lookups find what is in the set, at every point of a run, exactly when no clear and no
delete of the run leaves an index behind. -/
theorem finds_iff_keepsIndices (valueOf : Field → Item → Option Key)
    (events : List (SetEvent Field Item Key)) :
    (∀ earlier, earlier <+: events → (run (step valueOf) new earlier).Finds valueOf) ↔
      Along (step valueOf) (KeepsIndices valueOf) new events := by
  have atNew : (new : IndexedSet Field Item Key).Finds valueOf :=
    finds_iff_allMatch.mpr allMatch_new
  rw [← along_after_iff atNew]
  apply along_iff_along (AllMatch valueOf) allMatch_new
  · intro set event keeps allMatch
    exact (allMatch.step_iff event).mpr keeps
  · intro set event allMatch
    rw [finds_iff_allMatch]
    exact allMatch.step_iff event

/-- A lookup after the set was cleared returns an item that is gone. -/
theorem cleared_not_finds :
    ¬∀ events : List (SetEvent Unit Nat Nat),
      (run (step fun _ item => some item) new events).Finds fun _ item => some item := by
  intro all
  have found := (all [.add 7, .get () (some 7), .clear] () (some 7)).1 7 (by decide)
  exact absurd found.1 (by decide)

end IndexedSet

end MatterJs.General
