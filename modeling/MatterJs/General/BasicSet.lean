import MatterJs.Foundation.OrderedMap

/-! The set with field indices: items in the order they were added, and for the one
field that is looked up the index built at the first lookup. -/

namespace MatterJs.General

universe u v

variable {Item : Type u} {Key : Type v}

namespace BasicSet

variable [DecidableEq Key]

def indexItem (field : Item → Key) (index : OrderedMap Key Item) (item : Item) :
    OrderedMap Key Item :=
  if index.has (field item) then index else index.set (field item) item

def buildIndex (field : Item → Key) (items : List Item) : OrderedMap Key Item :=
  items.foldl (indexItem field) {}

/-- The index a lookup reads: the one there is, else a new one. -/
def indexOrBuild (field : Item → Key) (items : List Item) :
    Option (OrderedMap Key Item) → OrderedMap Key Item
  | some index => index
  | none => buildIndex field items

def Sound (field : Item → Key) (items : List Item) (index : OrderedMap Key Item) : Prop :=
  ∀ key item, index.get key = some item → item ∈ items ∧ field item = key

/-- Every item's value leads somewhere. -/
def Complete (field : Item → Key) (items : List Item) (index : OrderedMap Key Item) : Prop :=
  ∀ item ∈ items, (index.get (field item)).isSome

variable {field : Item → Key} {items : List Item} {index : OrderedMap Key Item}

theorem sound_empty : Sound field items {} := by
  intro key item found
  cases found

theorem Sound.mono {more : List Item} (sound : Sound field items index)
    (subset : items ⊆ more) : Sound field more index :=
  fun key item found => ⟨subset (sound key item found).1, (sound key item found).2⟩

theorem Sound.indexItem {item : Item} (sound : Sound field items index)
    (member : item ∈ items) : Sound field items (indexItem field index item) := by
  rw [BasicSet.indexItem]
  by_cases taken : index.has (field item)
  · rwa [if_pos taken]
  · rw [if_neg taken]
    intro key other isFound
    rw [OrderedMap.get_set] at isFound
    by_cases same : key = field item
    · rw [if_pos same, Option.some.injEq] at isFound
      rw [← isFound]
      exact ⟨member, same.symm⟩
    · rw [if_neg same] at isFound
      exact sound key other isFound

theorem isSome_get_indexItem_self (index : OrderedMap Key Item) (item : Item) :
    ((indexItem field index item).get (field item)).isSome := by
  rw [indexItem]
  by_cases taken : index.has (field item)
  · rwa [if_pos taken]
  · rw [if_neg taken, OrderedMap.get_set_self]
    rfl

theorem isSome_get_indexItem {key : Key} (item : Item) (found : (index.get key).isSome) :
    ((indexItem field index item).get key).isSome := by
  rw [indexItem]
  by_cases taken : index.has (field item)
  · rwa [if_pos taken]
  · rw [if_neg taken, OrderedMap.get_set]
    by_cases same : key = field item
    · rw [if_pos same]
      rfl
    · rwa [if_neg same]

theorem Complete.indexItem (complete : Complete field items index) (item : Item) :
    Complete field (items ++ [item]) (indexItem field index item) := by
  intro other member
  rcases List.mem_append.mp member with earlier | last
  · exact isSome_get_indexItem item (complete other earlier)
  · rw [List.mem_singleton.mp last]
    exact isSome_get_indexItem_self index item

theorem sound_foldl {more : List Item} (sound : Sound field items index)
    (subset : more ⊆ items) : Sound field items (more.foldl (BasicSet.indexItem field) index) := by
  induction more generalizing index with
  | nil => exact sound
  | cons item more induction =>
    rw [List.cons_subset] at subset
    exact induction (sound.indexItem subset.1) subset.2

theorem complete_foldl {more : List Item} (complete : Complete field items index) :
    Complete field (items ++ more) (more.foldl (BasicSet.indexItem field) index) := by
  induction more generalizing items index with
  | nil => rwa [List.append_nil]
  | cons item more induction =>
    rw [List.append_cons]
    exact induction (complete.indexItem item)

theorem sound_buildIndex (items : List Item) : Sound field items (buildIndex field items) :=
  sound_foldl sound_empty (List.Subset.refl items)

theorem complete_buildIndex (items : List Item) :
    Complete field items (buildIndex field items) := by
  have fromNone : Complete field ([] : List Item) {} := by
    intro item member
    cases member
  exact complete_foldl fromNone

end BasicSet

/-- `BasicSet` with the index of `field`, when there is one. -/
structure BasicSet [DecidableEq Key] (field : Item → Key) where
  entries : List Item
  index : Option (OrderedMap Key Item)
  nodup : entries.Nodup
  sound : ∀ {found}, index = some found → BasicSet.Sound field entries found

namespace BasicSet

variable [DecidableEq Key] [DecidableEq Item] {field : Item → Key}

omit [DecidableEq Item] in
def new (field : Item → Key) : BasicSet field where
  entries := []
  index := none
  nodup := List.nodup_nil
  sound := by
    intro found isFound
    cases isFound

def add (set : BasicSet field) (item : Item) : BasicSet field :=
  if present : item ∈ set.entries then set
  else
    { entries := set.entries ++ [item]
      index := set.index.map fun index => indexItem field index item
      nodup := by
        rw [List.nodup_append_comm, List.singleton_append]
        exact List.nodup_cons.mpr ⟨present, set.nodup⟩
      sound := by
        intro found isFound
        rcases Option.map_eq_some_iff.mp isFound with ⟨index, isIndex, rfl⟩
        exact ((set.sound isIndex).mono (List.subset_append_left _ _)).indexItem
          (List.mem_append_right _ (List.mem_singleton_self item)) }

omit [DecidableEq Item] in
def fieldIndex (set : BasicSet field) : OrderedMap Key Item :=
  indexOrBuild field set.entries set.index

omit [DecidableEq Item] in
theorem sound_fieldIndex (set : BasicSet field) :
    Sound field set.entries set.fieldIndex := by
  rw [fieldIndex]
  cases isIndex : set.index with
  | some index => exact set.sound isIndex
  | none => exact sound_buildIndex set.entries

omit [DecidableEq Item] in
/-- `get`: what is found and the set with its index built. -/
def get (set : BasicSet field) (value : Key) : Option Item × BasicSet field :=
  (set.fieldIndex.get value,
    { set with
      index := some set.fieldIndex
      sound := by
        intro found isFound
        rw [← Option.some.inj isFound]
        exact set.sound_fieldIndex })

def delete (set : BasicSet field) (item : Item) : BasicSet field :=
  if item ∈ set.entries then
    { entries := set.entries.erase item
      index := set.index.map fun index =>
        if index.get (field item) = some item then index.delete (field item) else index
      nodup := set.nodup.erase item
      sound := by
        intro found isFound key other isOther
        rcases Option.map_eq_some_iff.mp isFound with ⟨index, isIndex, rfl⟩
        have stays : index.get key = some other → other ≠ item →
            other ∈ set.entries.erase item ∧ field other = key := by
          intro read different
          exact ⟨(List.mem_erase_of_ne different).mpr (set.sound isIndex _ _ read).1,
            (set.sound isIndex _ _ read).2⟩
        by_cases indexed : index.get (field item) = some item
        · rw [if_pos indexed] at isOther
          by_cases same : key = field item
          · rw [same, OrderedMap.get_delete_self] at isOther
            cases isOther
          · rw [OrderedMap.get_delete_of_ne _ same] at isOther
            apply stays isOther
            rintro rfl
            exact same (set.sound isIndex _ _ isOther).2.symm
        · rw [if_neg indexed] at isOther
          apply stays isOther
          rintro rfl
          rw [(set.sound isIndex _ _ isOther).2] at indexed
          exact indexed isOther }
  else set

theorem mem_add {set : BasicSet field} {item other : Item} :
    other ∈ (set.add item).entries ↔ other ∈ set.entries ∨ other = item := by
  rw [add]
  by_cases present : item ∈ set.entries
  · rw [dif_pos present]
    constructor
    · exact .inl
    · rintro (member | rfl)
      · exact member
      · exact present
  · rw [dif_neg present]
    simp

theorem mem_delete {set : BasicSet field} {item other : Item} :
    other ∈ (set.delete item).entries ↔ other ∈ set.entries ∧ other ≠ item := by
  rw [delete]
  by_cases present : item ∈ set.entries
  · rw [if_pos present]
    rw [set.nodup.mem_erase_iff]
    exact And.comm
  · rw [if_neg present]
    constructor
    · intro member
      refine ⟨member, ?_⟩
      rintro rfl
      exact present member
    · exact And.left

/-! ## Sets whose lookups find every item's value -/

/-- A lookup finds something wherever an item has the value. -/
def Indexed (set : BasicSet field) : Prop :=
  Complete field set.entries set.fieldIndex

omit [DecidableEq Item] in
theorem indexed_new : (new field).Indexed := by
  intro item member
  cases member

theorem Indexed.add {set : BasicSet field} (indexed : set.Indexed) (item : Item) :
    (set.add item).Indexed := by
  rw [BasicSet.add]
  by_cases present : item ∈ set.entries
  · rwa [dif_pos present]
  · rw [dif_neg present]
    change Complete field (set.entries ++ [item]) (indexOrBuild field (set.entries ++ [item])
      (set.index.map fun index => indexItem field index item))
    rw [Indexed, fieldIndex] at indexed
    cases isIndex : set.index with
    | none => exact complete_buildIndex _
    | some index =>
      rw [isIndex] at indexed
      exact indexed.indexItem item

omit [DecidableEq Item] in
theorem Indexed.get {set : BasicSet field} (indexed : set.Indexed) (value : Key) :
    (set.get value).2.Indexed := indexed

theorem Indexed.delete {set : BasicSet field} (indexed : set.Indexed) {item : Item}
    (alone : ∀ other ∈ set.entries, field other = field item → other = item) :
    (set.delete item).Indexed := by
  intro other member
  rcases mem_delete.mp member with ⟨isOther, different⟩
  have found := indexed other isOther
  have apart : field other ≠ field item := fun same => different (alone other isOther same)
  rw [BasicSet.delete] at member ⊢
  by_cases present : item ∈ set.entries
  · rw [if_pos present] at member ⊢
    change ((indexOrBuild field (set.entries.erase item) (set.index.map fun index =>
      if index.get (field item) = some item then index.delete (field item)
      else index)).get (field other)).isSome
    rw [fieldIndex] at found
    cases isIndex : set.index with
    | none => exact complete_buildIndex (set.entries.erase item) other member
    | some index =>
      rw [isIndex] at found
      change ((if index.get (field item) = some item then index.delete (field item)
        else index).get (field other)).isSome
      by_cases isItem : index.get (field item) = some item
      · rwa [if_pos isItem, OrderedMap.get_delete_of_ne _ apart]
      · rwa [if_neg isItem]
  · rwa [if_neg present]

omit [DecidableEq Item] in
theorem Indexed.ne_of_get_eq_none {set : BasicSet field} (indexed : set.Indexed) {value : Key}
    (notFound : (set.get value).1 = none) : ∀ item ∈ set.entries, field item ≠ value := by
  rintro item member rfl
  have found := indexed item member
  rw [show set.fieldIndex.get (field item) = none from notFound] at found
  cases found

end BasicSet

end MatterJs.General
