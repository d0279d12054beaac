import Mathlib.Algebra.BigOperators.Group.List.Basic
import Mathlib.Data.List.Nodup

namespace MatterJs

/-! Maps that list their entries in the order in which the keys were first set. -/

universe u v

structure OrderedMap (Key : Type u) (Value : Type v) where
  entries : List (Key × Value)
  nodupKeys : (entries.map Prod.fst).Nodup

namespace OrderedMap

variable {Key : Type u} {Value : Type v}

def empty : OrderedMap Key Value where
  entries := []
  nodupKeys := List.nodup_nil

instance : EmptyCollection (OrderedMap Key Value) := ⟨empty⟩

def keys (map : OrderedMap Key Value) : List Key :=
  map.entries.map Prod.fst

def values (map : OrderedMap Key Value) : List Value :=
  map.entries.map Prod.snd

def mapValues {Other : Type*} (convert : Value → Other) (map : OrderedMap Key Value) :
    OrderedMap Key Other where
  entries := map.entries.map fun entry => (entry.1, convert entry.2)
  nodupKeys := by
    rw [List.map_map]
    exact map.nodupKeys

variable [DecidableEq Key]

def get (map : OrderedMap Key Value) (key : Key) : Option Value :=
  map.entries.lookup key

def has (map : OrderedMap Key Value) (key : Key) : Bool :=
  (map.get key).isSome

def setEntries (key : Key) (value : Value) : List (Key × Value) → List (Key × Value)
  | [] => [(key, value)]
  | entry :: entries =>
    if entry.1 = key then (key, value) :: entries
    else entry :: setEntries key value entries

theorem mem_setEntries_keys (key : Key) (value : Value) (entries : List (Key × Value))
    (other : Key) :
    other ∈ (setEntries key value entries).map Prod.fst ↔
      other = key ∨ other ∈ entries.map Prod.fst := by
  induction entries with
  | nil => simp [setEntries]
  | cons entry entries induction =>
    by_cases same : entry.1 = key
    · simp [setEntries, same]
    · rw [setEntries, if_neg same, List.map_cons, List.mem_cons, induction,
        List.map_cons, List.mem_cons]
      exact or_left_comm

theorem nodup_setEntries (key : Key) (value : Value) {entries : List (Key × Value)}
    (nodupKeys : (entries.map Prod.fst).Nodup) :
    ((setEntries key value entries).map Prod.fst).Nodup := by
  induction entries with
  | nil => simp [setEntries]
  | cons entry entries induction =>
    rw [List.map_cons, List.nodup_cons] at nodupKeys
    by_cases same : entry.1 = key
    · rw [setEntries, if_pos same, List.map_cons, List.nodup_cons, ← same]
      exact nodupKeys
    · rw [setEntries, if_neg same, List.map_cons, List.nodup_cons, mem_setEntries_keys]
      refine ⟨?_, induction nodupKeys.2⟩
      intro member
      rcases member with equal | member
      · exact same equal
      · exact nodupKeys.1 member

def set (map : OrderedMap Key Value) (key : Key) (value : Value) :
    OrderedMap Key Value where
  entries := setEntries key value map.entries
  nodupKeys := nodup_setEntries key value map.nodupKeys

def delete (map : OrderedMap Key Value) (key : Key) : OrderedMap Key Value where
  entries := map.entries.filter (·.1 ≠ key)
  nodupKeys := by
    have sublist : ((map.entries.filter (·.1 ≠ key)).map Prod.fst).Sublist
        (map.entries.map Prod.fst) := List.filter_sublist.map _
    exact sublist.nodup map.nodupKeys

/-! ## Reading what was set -/

theorem lookup_setEntries_self (key : Key) (value : Value) (entries : List (Key × Value)) :
    (setEntries key value entries).lookup key = some value := by
  induction entries with
  | nil => simp [setEntries]
  | cons entry entries induction =>
    rcases entry with ⟨first, old⟩
    by_cases same : first = key
    · simp [setEntries, same]
    · have different : (key == first) = false := by simpa using Ne.symm same
      simp [setEntries, if_neg same, List.lookup_cons, different, induction]

@[simp] theorem get_set_self (map : OrderedMap Key Value) (key : Key) (value : Value) :
    (map.set key value).get key = some value :=
  lookup_setEntries_self key value map.entries

theorem lookup_setEntries_of_ne {key other : Key} (value : Value) (entries : List (Key × Value))
    (different : other ≠ key) :
    (setEntries key value entries).lookup other = entries.lookup other := by
  have otherNotKey : (other == key) = false := by simpa using different
  induction entries with
  | nil => simp [setEntries, List.lookup_cons, otherNotKey]
  | cons entry entries induction =>
    rcases entry with ⟨first, old⟩
    by_cases same : first = key
    · simp [setEntries, same, List.lookup_cons, otherNotKey]
    · simp [setEntries, same, List.lookup_cons, induction]

theorem map_setEntries {Other : Type*} (convert : Value → Other) (key : Key) (value : Value)
    (entries : List (Key × Value)) :
    (setEntries key value entries).map (fun entry => (entry.1, convert entry.2)) =
      setEntries key (convert value) (entries.map fun entry => (entry.1, convert entry.2)) := by
  induction entries with
  | nil => rfl
  | cons entry entries induction =>
    by_cases same : entry.1 = key
    · simp [setEntries, same]
    · simp [setEntries, same, induction]

/-- Setting what is there changes nothing. -/
theorem setEntries_of_lookup {key : Key} {value : Value} {entries : List (Key × Value)}
    (found : entries.lookup key = some value) : setEntries key value entries = entries := by
  induction entries with
  | nil => cases found
  | cons entry entries induction =>
    by_cases same : entry.1 = key
    · have first : entry.2 = value := by
        rw [List.lookup_cons, same] at found
        simpa using found
      rw [setEntries, if_pos same, ← first, ← same]
    · have different : (key == entry.1) = false := by simpa using fun equal => same equal.symm
      rw [List.lookup_cons, different] at found
      rw [setEntries, if_neg same, induction found]

theorem get_set_of_ne (map : OrderedMap Key Value) {key other : Key} (value : Value)
    (different : other ≠ key) : (map.set key value).get other = map.get other :=
  lookup_setEntries_of_ne value map.entries different

theorem get_set (map : OrderedMap Key Value) (key other : Key) (value : Value) :
    (map.set key value).get other = if other = key then some value else map.get other := by
  by_cases same : other = key
  · rw [if_pos same, same, get_set_self]
  · rw [if_neg same, get_set_of_ne map value same]

theorem lookup_filter_self (key : Key) (entries : List (Key × Value)) :
    (entries.filter (·.1 ≠ key)).lookup key = none := by
  induction entries with
  | nil => rfl
  | cons entry entries induction =>
    rcases entry with ⟨first, old⟩
    by_cases same : first = key
    · simpa [same] using induction
    · have different : (key == first) = false := by simpa using Ne.symm same
      simpa [same, List.lookup_cons, different] using induction

theorem lookup_filter_of_ne {key other : Key} (different : other ≠ key)
    (entries : List (Key × Value)) :
    (entries.filter (·.1 ≠ key)).lookup other = entries.lookup other := by
  induction entries with
  | nil => rfl
  | cons entry entries induction =>
    rcases entry with ⟨first, old⟩
    by_cases same : first = key
    · have notFirst : (other == key) = false := by simpa using different
      simpa [same, List.lookup_cons, notFirst] using induction
    · by_cases isOther : other = first
      · simp [isOther, same]
      · have notFirst : (other == first) = false := by simpa using isOther
        simpa [same, List.lookup_cons, notFirst] using induction

theorem get_delete_self (map : OrderedMap Key Value) (key : Key) :
    (map.delete key).get key = none :=
  lookup_filter_self key map.entries

theorem get_delete_of_ne (map : OrderedMap Key Value) {key other : Key}
    (different : other ≠ key) : (map.delete key).get other = map.get other :=
  lookup_filter_of_ne different map.entries

theorem mem_keys_set (map : OrderedMap Key Value) (key other : Key) (value : Value) :
    other ∈ (map.set key value).keys ↔ other = key ∨ other ∈ map.keys :=
  mem_setEntries_keys key value map.entries other

theorem mem_entries_iff (map : OrderedMap Key Value) (key : Key) (value : Value) :
    (key, value) ∈ map.entries ↔ map.get key = some value := by
  rcases map with ⟨entries, nodupKeys⟩
  change (key, value) ∈ entries ↔ entries.lookup key = some value
  induction entries with
  | nil => simp
  | cons entry entries induction =>
    rcases entry with ⟨first, old⟩
    rw [List.map_cons, List.nodup_cons] at nodupKeys
    rw [List.mem_cons, induction nodupKeys.2, List.lookup_cons]
    by_cases same : key = first
    · have notLater : (key, value) ∉ entries := by
        intro member
        apply nodupKeys.1
        rw [← same]
        exact List.mem_map.mpr ⟨(key, value), member, rfl⟩
      rw [← induction nodupKeys.2, same]
      rw [same] at notLater
      simp [notLater, eq_comm]
    · have notFound : (key == first) = false := by simpa using same
      simp [notFound, same]

theorem mem_keys_iff (map : OrderedMap Key Value) (key : Key) :
    key ∈ map.keys ↔ ∃ value, map.get key = some value := by
  rw [keys, List.mem_map]
  constructor
  · intro found
    rcases found with ⟨⟨first, value⟩, member, rfl⟩
    exact ⟨value, (mem_entries_iff map first value).mp member⟩
  · intro found
    rcases found with ⟨value, read⟩
    exact ⟨(key, value), (mem_entries_iff map key value).mpr read, rfl⟩

theorem mem_values_iff (map : OrderedMap Key Value) (value : Value) :
    value ∈ map.values ↔ ∃ key, map.get key = some value := by
  rw [values, List.mem_map]
  constructor
  · rintro ⟨⟨key, _⟩, member, rfl⟩
    exact ⟨key, (mem_entries_iff map key _).mp member⟩
  · rintro ⟨key, found⟩
    exact ⟨(key, value), (mem_entries_iff map key value).mpr found, rfl⟩

theorem get_foldl_set (keyOf : Value → Key) (added : List Value) (map : OrderedMap Key Value)
    (key : Key) :
    (added.foldl (fun map value => map.set (keyOf value) value) map).get key =
      (added.reverse.find? fun value => keyOf value = key).or (map.get key) := by
  induction added generalizing map with
  | nil => rfl
  | cons value added induction =>
    rw [List.foldl_cons, induction, get_set]
    by_cases same : keyOf value = key
    · simp [same]
    · simp [same, Ne.symm same]

theorem find_values (keyOf : Value → Key) (map : OrderedMap Key Value)
    (keyed : ∀ key value, map.get key = some value → keyOf value = key) (key : Key) :
    (map.values.reverse.find? fun value => keyOf value = key) = map.get key := by
  cases found : map.values.reverse.find? fun value => keyOf value = key with
  | none =>
    cases isThere : map.get key with
    | none => rfl
    | some value =>
      have member := (mem_values_iff map value).mpr ⟨key, isThere⟩
      have different := List.find?_eq_none.mp found value (List.mem_reverse.mpr member)
      exact absurd (decide_eq_true (keyed key value isThere)) different
  | some value =>
    have same : keyOf value = key := by simpa using List.find?_some found
    have member := List.mem_reverse.mp (List.mem_of_find?_eq_some found)
    rcases (mem_values_iff map value).mp member with ⟨other, isThere⟩
    rw [← same, keyed other value isThere, isThere]

section Singleton

variable {map : OrderedMap Key Value} {key : Key} {old : Value}

theorem get_of_singleton (single : map.entries = [(key, old)]) :
    map.get key = some old := by
  simp [get, single]

theorem entries_set_of_singleton (single : map.entries = [(key, old)]) (value : Value) :
    (map.set key value).entries = [(key, value)] := by
  change setEntries key value map.entries = [(key, value)]
  simp [single, setEntries]

end Singleton

/-! ## Looking up in a list of entries -/

omit [DecidableEq Key] in
theorem mem_of_lookup [BEq Key] [LawfulBEq Key] {entries : List (Key × Value)} {key : Key}
    {value : Value} (found : entries.lookup key = some value) : (key, value) ∈ entries := by
  rcases List.lookup_eq_some_iff.mp found with ⟨before, after, rfl, _⟩
  simp

theorem lookup_of_mem {entries : List (Key × Value)} (nodupKeys : (entries.map Prod.fst).Nodup)
    {entry : Key × Value} (member : entry ∈ entries) :
    entries.lookup entry.1 = some entry.2 :=
  (mem_entries_iff ⟨entries, nodupKeys⟩ entry.1 entry.2).mp member

theorem lookup_map {Other : Type*} (convert : Key → Value → Other)
    (entries : List (Key × Value)) (key : Key) :
    (entries.map fun entry => (entry.1, convert entry.1 entry.2)).lookup key =
      (entries.lookup key).map (convert key) := by
  induction entries with
  | nil => rfl
  | cons entry entries induction =>
    rcases entry with ⟨first, value⟩
    by_cases same : key = first
    · simp [same]
    · have different : (key == first) = false := by simpa using same
      simp [List.lookup_cons, different, induction]

theorem setEntries_of_new {entries : List (Key × Value)} {key : Key}
    (new : key ∉ entries.map Prod.fst) (value : Value) :
    setEntries key value entries = entries ++ [(key, value)] := by
  induction entries with
  | nil => rfl
  | cons entry entries induction =>
    rw [List.map_cons, List.mem_cons, not_or] at new
    rw [setEntries, if_neg (Ne.symm new.1), induction new.2, List.cons_append]

theorem setEntries_of_last {entries : List (Key × Value)} {key : Key}
    (new : key ∉ entries.map Prod.fst) (old value : Value) :
    setEntries key value (entries ++ [(key, old)]) = entries ++ [(key, value)] := by
  induction entries with
  | nil => simp [setEntries]
  | cons entry entries induction =>
    rw [List.map_cons, List.mem_cons, not_or] at new
    rw [List.cons_append, setEntries, if_neg (Ne.symm new.1), induction new.2, List.cons_append]

theorem lookup_of_new {entries : List (Key × Value)} {key : Key}
    (new : key ∉ entries.map Prod.fst) : entries.lookup key = none := by
  rw [List.lookup_eq_none_iff]
  intro entry member
  have different : key ≠ entry.1 := by
    rintro rfl
    exact new (List.mem_map_of_mem member)
  simpa using different

theorem lookup_of_last {entries : List (Key × Value)} {key : Key}
    (new : key ∉ entries.map Prod.fst) (value : Value) :
    (entries ++ [(key, value)]).lookup key = some value := by
  rw [List.lookup_append, lookup_of_new new]
  simp

theorem mem_map_fst_iff {entries : List (Key × Value)} {key : Key} :
    key ∈ entries.map Prod.fst ↔ ∃ value, entries.lookup key = some value := by
  rw [← Option.isSome_iff_exists]
  simp

omit [DecidableEq Key] in
@[simp] theorem keys_mapValues {Other : Type*} (convert : Value → Other)
    (map : OrderedMap Key Value) : (map.mapValues convert).keys = map.keys := by
  simp [keys, mapValues]

omit [DecidableEq Key] in
@[simp] theorem values_mapValues {Other : Type*} (convert : Value → Other)
    (map : OrderedMap Key Value) :
    (map.mapValues convert).values = map.values.map convert := by
  simp [values, mapValues]

theorem get_mapValues {Other : Type*} (convert : Value → Other)
    (map : OrderedMap Key Value) (key : Key) :
    (map.mapValues convert).get key = (map.get key).map convert := by
  exact lookup_map (fun _ => convert) map.entries key

/-! ## Keeping some values -/

omit [DecidableEq Key] in
theorem sublist_filterMap_keys {Other : Type*} (convert : Value → Option Other)
    (entries : List (Key × Value)) :
    ((entries.filterMap fun entry => (convert entry.2).map (entry.1, ·)).map Prod.fst).Sublist
      (entries.map Prod.fst) := by
  induction entries with
  | nil => exact List.Sublist.slnil
  | cons entry entries induction =>
    rw [List.filterMap_cons]
    cases convert entry.2 with
    | none => exact induction.cons entry.1
    | some value => exact induction.cons_cons entry.1

def filterMapValues {Other : Type*} (convert : Value → Option Other)
    (map : OrderedMap Key Value) : OrderedMap Key Other where
  entries := map.entries.filterMap fun entry => (convert entry.2).map (entry.1, ·)
  nodupKeys := (sublist_filterMap_keys convert map.entries).nodup map.nodupKeys

theorem get_filterMapValues {Other : Type*} (convert : Value → Option Other)
    (map : OrderedMap Key Value) (key : Key) :
    (map.filterMapValues convert).get key = (map.get key).bind convert := by
  rcases map with ⟨entries, nodupKeys⟩
  change (entries.filterMap fun entry => (convert entry.2).map (entry.1, ·)).lookup key =
    (entries.lookup key).bind convert
  induction entries with
  | nil => rfl
  | cons entry entries induction =>
    rcases entry with ⟨first, value⟩
    rw [List.map_cons, List.nodup_cons] at nodupKeys
    have later := induction nodupKeys.2
    by_cases same : key = first
    · have notLater : entries.lookup key = none := by
        rw [same]
        exact lookup_of_new nodupKeys.1
      rw [notLater] at later
      cases converted : convert value with
      | none =>
        rw [List.filterMap_cons, converted, Option.map_none, later, same,
          List.lookup_cons_self, Option.bind_some, converted]
        rfl
      | some other => simp [converted, same]
    · have different : (key == first) = false := by simpa using same
      cases converted : convert value with
      | none => simpa [List.lookup_cons, converted, different] using later
      | some other => simpa [List.lookup_cons, converted, different] using later

omit [DecidableEq Key] in
theorem filterMapValues_eq_self {convert : Value → Option Value} {map : OrderedMap Key Value}
    (stays : ∀ value ∈ map.values, convert value = some value) :
    map.filterMapValues convert = map := by
  rcases map with ⟨entries, nodupKeys⟩
  have same : (entries.filterMap fun entry => (convert entry.2).map (entry.1, ·)) = entries := by
    rw [List.filterMap_congr (g := some) ?_, List.filterMap_some]
    intro entry member
    rw [stays entry.2 (List.mem_map_of_mem member)]
    rfl
  exact OrderedMap.mk.injEq .. ▸ same

theorem sum_values_set {Weight : Type*} [AddCommMonoid Weight] (weight : Value → Weight)
    (map : OrderedMap Key Value) (key : Key) (value : Value) :
    ((map.set key value).values.map weight).sum + (map.get key).elim 0 weight =
      (map.values.map weight).sum + weight value := by
  change (((setEntries key value map.entries).map Prod.snd).map weight).sum +
      (map.entries.lookup key).elim 0 weight =
    ((map.entries.map Prod.snd).map weight).sum + weight value
  induction map.entries with
  | nil => simp [setEntries]
  | cons entry entries induction =>
    rcases entry with ⟨first, old⟩
    by_cases same : first = key
    · simp only [setEntries, same, if_true, List.lookup_cons, beq_self_eq_true,
        List.map_cons, List.sum_cons, Option.elim_some, add_assoc]
      rw [add_comm, add_assoc, add_left_comm]
    · have different : (key == first) = false := by simpa using Ne.symm same
      simp only [setEntries, if_neg same, List.lookup_cons, different, List.map_cons,
        List.sum_cons, add_assoc, induction]

end OrderedMap

end MatterJs
