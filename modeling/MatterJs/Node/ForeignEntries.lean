import MatterJs.Node.WriteIsolation

/-! The entries of other fabrics, which stay as they are under the writes through a list that is
filtered by fabric. -/

namespace MatterJs.Node

open General ListManager ContainerHeap Heap Container

def Container.entries : Container → List Value
  | struct _ => []
  | list elements => elements.map (·.getD .undefined)

def entriesOf (heap : Heap) (list : Nat) : List Value :=
  (container heap list).entries

theorem map_elements (heap : Heap) (list : Nat) :
    (elements heap (.reference list)).map (·.getD .undefined) = entriesOf heap list := by
  rw [elements, entriesOf]
  cases container heap list with
  | struct properties => rfl
  | list elements => rfl

/-- The entries that are not in scope, which are those of other fabrics -/
def foreign (session : Session) (heap : Heap) (list : Nat) : List Value :=
  (entriesOf heap list).filter fun entry => !session.inScope heap entry

structure ForeignKept (session : Session) (before : Heap) (list : Nat) (after : Heap)
    (other : Nat) : Prop where
  entries : (foreign session before list).Sublist (entriesOf after other)
  containers : ∀ identity, .reference identity ∈ foreign session before list →
    container after identity = container before identity

section Foreign

variable {session : Session} {heap middle after : Heap} {list second other : Nat}

theorem inScope_scalar (value : Scalar) : session.inScope heap (.scalar value) := by
  rw [Session.inScope, fabricIndex, property]
  simp [Value.isFalsy, Value.undefined]

theorem exists_of_mem_foreign {entry : Value} (member : entry ∈ foreign session heap list) :
    ∃ identity properties, entry = .reference identity ∧
      container heap identity = .struct properties := by
  have outside := (List.mem_filter.mp member).2
  cases entry with
  | scalar value =>
    rw [inScope_scalar] at outside
    cases outside
  | reference identity =>
    cases content : container heap identity with
    | struct properties => exact ⟨identity, properties, rfl, content⟩
    | list elements =>
      rw [Session.inScope, fabricIndex, property, content] at outside
      simp [Container.get, Value.isFalsy, Value.undefined] at outside

theorem inScope_congr {identity : Nat} (same : container after identity = container heap identity) :
    session.inScope after (.reference identity) = session.inScope heap (.reference identity) := by
  rw [Session.inScope, Session.inScope, fabricIndex, fabricIndex, property, property, same]

namespace ForeignKept

theorem refl (session : Session) (heap : Heap) (list : Nat) :
    ForeignKept session heap list heap list where
  entries := List.filter_sublist
  containers := fun _ _ => rfl

theorem inScope_eq (kept : ForeignKept session heap list after other) {entry : Value}
    (member : entry ∈ foreign session heap list) :
    session.inScope after entry = session.inScope heap entry := by
  rcases exists_of_mem_foreign member with ⟨identity, -, rfl, -⟩
  exact inScope_congr (kept.containers identity member)

theorem foreign_sublist (kept : ForeignKept session heap list after other) :
    (foreign session heap list).Sublist (foreign session after other) := by
  have stays : (foreign session heap list).filter (fun entry => !session.inScope after entry) =
      foreign session heap list := by
    refine List.filter_eq_self.mpr fun entry member => ?_
    rw [kept.inScope_eq member]
    exact (List.mem_filter.mp member).2
  rw [← stays]
  exact kept.entries.filter _

theorem trans (first : ForeignKept session heap list middle second)
    (next : ForeignKept session middle second after other) :
    ForeignKept session heap list after other where
  entries := first.foreign_sublist.trans next.entries
  containers := by
    intro identity member
    rw [next.containers identity (first.foreign_sublist.subset member),
      first.containers identity member]

end ForeignKept

end Foreign

theorem entriesOf_lt {heap : Heap} (closed : Heap.Closed heap) {list : Nat} {entry : Value}
    (member : entry ∈ entriesOf heap list) :
    ∀ identity ∈ entry.references, identity < heap.length := by
  rw [← map_elements] at member
  rcases List.mem_map.mp member with ⟨element, isElement, rfl⟩
  cases element with
  | none => simp [Value.undefined, Value.references]
  | some value => exact elements_lt closed isElement

theorem valueFrom_scalar (heap : Heap) (value : Scalar) (path : List Key) (identity : Nat) :
    valueFrom heap (.scalar value) path ≠ .reference identity := by
  induction path generalizing value with
  | nil => exact fun equal => Value.noConfusion equal
  | cons key path induction => exact induction .undefined

theorem Container.get_rename (source : Nat → Nat) (container : Container) (key : Key) :
    (container.rename source).get key = (container.get key).rename source := by
  cases container with
  | struct properties =>
    change ((properties.map fun entry => (entry.1, entry.2.rename source)).lookup key.text).getD
      .undefined = ((properties.lookup key.text).getD .undefined).rename source
    rw [OrderedMap.lookup_map (fun _ value => Value.rename source value)]
    cases properties.lookup key.text with
    | none => rfl
    | some value => rfl
  | list elements =>
    cases key with
    | name name => rfl
    | index index =>
      change (((elements.map fun element => element.map (Value.rename source))[index]?.getD
        none).getD .undefined) = _
      rw [List.getElem?_map]
      change _ = (((elements[index]?.getD none).getD .undefined).rename source)
      cases elements[index]? with
      | none => rfl
      | some element =>
        cases element with
        | none => rfl
        | some value => rfl

@[simp] theorem Container.entries_clone (container : Container) :
    container.clone.entries = container.entries := by
  cases container with
  | struct properties => rfl
  | list elements =>
    rw [clone, entries, List.map_map]
    rfl

theorem Container.entries_rename (source : Nat → Nat) (container : Container) :
    (container.rename source).entries = container.entries.map (Value.rename source) := by
  cases container with
  | struct properties => rfl
  | list elements =>
    rw [rename, entries, entries, List.map_map, List.map_map]
    refine List.map_congr_left fun element _ => ?_
    cases element with
    | none => rfl
    | some value => rfl

theorem Value.isFalsy_rename (source : Nat → Nat) (value : Value) :
    (value.rename source).isFalsy = value.isFalsy := by
  cases value with
  | scalar value => rfl
  | reference identity => rfl

theorem strictEquals_rename (session : Session) (source : Nat → Nat) (value : Value) :
    (value.rename source).strictEquals session.fabricValue =
      value.strictEquals session.fabricValue := by
  cases value with
  | scalar value => rfl
  | reference identity =>
    rw [Session.fabricValue]
    cases session.fabric with
    | none => rfl
    | some fabric => rfl

section Copied

variable {session : Session} {heap changed : Heap} {identities : List Nat} {source : Nat → Nat}

variable (copies : Copies heap changed identities source)

include copies

theorem property_copied {holder : Nat} (inside : holder < changed.length) (key : Key) :
    (property changed (.reference holder) key).rename source =
      property heap (.reference (source holder)) key := by
  rw [property, property, ← get_clone (container heap _),
    ← copies.same holder inside, get_rename, get_clone]

theorem valueFrom_copied (closed : Heap.Closed changed) {holder list : Nat} {path : List Key}
    (inside : holder < changed.length)
    (found : valueFrom heap (.reference (source holder)) path = .reference list) :
    ∃ copy, valueFrom changed (.reference holder) path = .reference copy ∧
      source copy = list ∧ copy < changed.length := by
  induction path generalizing holder with
  | nil =>
    exact ⟨holder, rfl, Value.reference.inj found, inside⟩
  | cons key path induction =>
    rw [valueFrom, ← property_copied copies inside key] at found
    cases next : property changed (.reference holder) key with
    | scalar value =>
      rw [next] at found
      exact absurd found (valueFrom_scalar heap value path list)
    | reference child =>
      rw [next] at found
      rw [valueFrom, next]
      exact induction (closed.lt_of_mem (mem_references_of_get next)) found

theorem entriesOf_copied {copy : Nat} (inside : copy < changed.length) :
    (entriesOf changed copy).map (Value.rename source) = entriesOf heap (source copy) := by
  rw [entriesOf, entriesOf, ← entries_clone (container heap _),
    ← copies.same copy inside, entries_rename, entries_clone]

theorem inScope_copied {entry : Value}
    (known : ∀ identity ∈ entry.references, identity < changed.length) :
    session.inScope changed entry = session.inScope heap (entry.rename source) := by
  cases entry with
  | scalar value => rw [inScope_scalar, Value.rename, inScope_scalar]
  | reference identity =>
    have renamed := property_copied copies (known identity (List.mem_singleton_self identity))
    rw [Session.inScope, Session.inScope, fabricIndex, fabricIndex, Value.rename,
      ← renamed, Value.isFalsy_rename, strictEquals_rename]

theorem scopes_copied (closed : Heap.Closed changed) {copy : Nat} (inside : copy < changed.length) :
    (entriesOf changed copy).map (session.inScope changed) =
      (entriesOf heap (source copy)).map (session.inScope heap) := by
  rw [← entriesOf_copied copies inside, List.map_map]
  exact List.map_congr_left fun entry member =>
    inScope_copied copies (entriesOf_lt closed member)

theorem ForeignKept.of_copies
    (closed : Heap.Closed changed) {container copy : Nat} (inside : copy < changed.length)
    (others : ∀ identity < heap.length, identity ∉ container :: identities →
      Heap.container changed identity = Heap.container heap identity)
    (closedBefore : Heap.Closed heap)
    (apart : ∀ identity ∈ container :: identities,
      .reference identity ∉ foreign session heap (source copy)) :
    ForeignKept session heap (source copy) changed copy where
  entries := by
    have unrenamed : ∀ entry ∈ (entriesOf changed copy).filter
        ((fun entry => !session.inScope heap entry) ∘ Value.rename source),
        entry.rename source = entry := by
      intro entry member
      have isForeign : entry.rename source ∈ foreign session heap (source copy) := by
        refine List.mem_filter.mpr ⟨?_, (List.mem_filter.mp member).2⟩
        rw [← entriesOf_copied copies inside]
        exact List.mem_map_of_mem (List.mem_filter.mp member).1
      cases entry with
      | scalar value => rfl
      | reference identity =>
        have known := entriesOf_lt closed (List.mem_filter.mp member).1 identity
          (List.mem_singleton_self identity)
        by_cases old : identity < heap.length
        · rw [Value.rename, copies.old identity old]
        · exact absurd isForeign
            (apart _ (List.mem_cons_of_mem _ (copies.fresh identity (by omega) known)))
    rw [foreign, ← entriesOf_copied copies inside, List.filter_map,
      List.map_congr_left unrenamed, List.map_id']
    exact List.filter_sublist
  containers := by
    intro identity member
    refine others identity ?_ fun listed => apart identity listed member
    exact entriesOf_lt closedBefore (List.mem_filter.mp member).1 identity
      (List.mem_singleton_self identity)

end Copied

def KeepsList (session : Session) (path : List Key) (before after : Working) : Prop :=
  ∀ list, before.valueAt path = .reference list →
    ∃ other, after.valueAt path = .reference other ∧
      ForeignKept session before.heap list after.heap other

section Steps

variable {schema : StateSchema} {session : Session} {working : Working} {path : List Key}

theorem KeepsList.refl (session : Session) (path : List Key) (working : Working) :
    KeepsList session path working working :=
  fun list found => ⟨list, found, .refl session working.heap list⟩

theorem KeepsList.trans {before middle after : Working}
    (first : KeepsList session path before middle) (next : KeepsList session path middle after) :
    KeepsList session path before after := by
  intro list found
  rcases first list found with ⟨second, foundThen, kept⟩
  rcases next second foundThen with ⟨other, foundLast, keptThen⟩
  exact ⟨other, foundLast, kept.trans keptThen⟩

variable {value : Value} {identity index : Nat} {along : List Key} {elements : List (Option Value)}
  {incoming : Incoming}

theorem valueFrom_mono {heap other : Heap}
    (keeps : ∀ holder key child, property heap (.reference holder) key = .reference child →
      property other (.reference holder) key = .reference child)
    (found : valueFrom heap value path = .reference identity) :
    valueFrom other value path = .reference identity := by
  induction path generalizing value with
  | nil => exact found
  | cons key path induction =>
    rw [valueFrom] at found ⊢
    cases value with
    | scalar value => exact absurd found (valueFrom_scalar heap _ path identity)
    | reference holder =>
      cases next : property heap (.reference holder) key with
      | scalar value =>
        rw [next] at found
        exact absurd found (valueFrom_scalar heap value path identity)
      | reference child =>
        rw [next] at found
        rw [keeps holder key child next]
        exact induction found

theorem put_of_le (beyond : working.heap.length ≤ identity) (container : Container) :
    working.put identity container = working := by
  rw [Working.put, List.set_eq_of_length_le beyond]

theorem keepsList_putIndex {old new : Scalar}
    (held : Heap.fabricIndex working.heap (.reference identity) = .scalar old)
    (inScope : session.inScope working.heap (.reference identity)) :
    KeepsList session path working
      (working.put identity
        ((Heap.container working.heap identity).set (.name "fabricIndex") (.scalar new))) := by
  by_cases beyond : working.heap.length ≤ identity
  · rw [put_of_le beyond]
    exact .refl session path working
  have inside : identity < working.heap.length := by omega
  have here : ∀ container, Heap.container (working.heap.set identity container) identity =
      container := Heap.container_set_self inside
  have elsewhere : ∀ other container, other ≠ identity →
      Heap.container (working.heap.set identity container) other =
        Heap.container working.heap other :=
    fun other container different => Heap.container_set_ne different container
  intro list found
  refine ⟨list, valueFrom_mono ?_ found, ?_, ?_⟩
  · intro holder key child next
    rw [Heap.property, Working.put]
    by_cases same : holder = identity
    · subst same
      rw [here]
      cases content : Heap.container working.heap holder with
      | list elements =>
        rw [Heap.property, content] at next
        exact next
      | struct properties =>
        rw [Heap.property, content] at next
        rw [Heap.fabricIndex, Heap.property, content] at held
        rw [Container.get_set_struct]
        by_cases isIndex : key.text = (Key.name "fabricIndex").text
        · have equal : (Container.struct properties).get key =
              (Container.struct properties).get (.name "fabricIndex") := by
            rw [Container.get, Container.get, isIndex]
          rw [equal, held] at next
          cases next
        · rw [if_neg isIndex]
          exact next
    · rw [elsewhere _ _ same]
      exact next
  · have entries : entriesOf (working.put identity
        ((Heap.container working.heap identity).set (.name "fabricIndex") (.scalar new))).heap
          list = entriesOf working.heap list := by
      rw [entriesOf, entriesOf, Working.put]
      by_cases same : list = identity
      · subst same
        rw [here]
        cases Heap.container working.heap list with
        | list elements => rfl
        | struct properties => rfl
      · rw [elsewhere _ _ same]
    rw [entries]
    exact List.filter_sublist
  · intro other member
    refine elsewhere _ _ ?_
    rintro rfl
    have outside := (List.mem_filter.mp member).2
    rw [inScope] at outside
    cases outside

theorem valueFrom_of_containersAlong {heap : Heap} {container : Nat} {original : Value}
    {places : List (Nat × Value)}
    (along : containersAlong heap container original path = some places) :
    Heap.valueFrom heap (.reference container) path =
      .reference ((places.map Prod.fst).getLastD container) := by
  induction path generalizing container original places with
  | nil =>
    rw [← Option.some.inj along]
    rfl
  | cons key path induction =>
    rw [containersAlong] at along
    cases found : (Heap.container heap container).get key with
    | scalar value =>
      rw [found] at along
      cases along
    | reference identity =>
      rw [found] at along
      rcases Option.map_eq_some_iff.mp along with ⟨further, below, rfl⟩
      rw [Heap.valueFrom, Heap.property, found, induction below]
      cases further with
      | nil => rfl
      | cons place places => rfl

theorem valueFrom_agree {heap other : Heap} (closed : Heap.Closed heap)
    (agree : ∀ identity < heap.length, container other identity = container heap identity)
    {holder : Nat} (inside : holder < heap.length) :
    valueFrom other (.reference holder) path =
      valueFrom heap (.reference holder) path := by
  induction path generalizing holder with
  | nil => rfl
  | cons key path induction =>
    rw [valueFrom, valueFrom, property, property, agree holder inside]
    cases next : (container heap holder).get key with
    | scalar value =>
      have scalars : ∀ (rest : List Key) (value : Scalar),
          valueFrom other (.scalar value) rest =
            valueFrom heap (.scalar value) rest := by
        intro rest
        induction rest with
        | nil => exact fun _ => rfl
        | cons key rest further => exact fun _ => further .undefined
      exact scalars path value
    | reference child =>
      exact induction (closed.lt_of_mem (mem_references_of_get next))

/-- Members of the session's own root are those of the root before. -/
theorem valueAt_of_begin (sound : working.Sound) (nonempty : path ≠ []) {list : Nat}
    (found : (working.begin schema).valueAt path = .reference list) :
    working.valueAt path = .reference list := by
  have begun := begin_begun schema sound
  cases path with
  | nil => exact absurd rfl nonempty
  | cons key path =>
    rw [Working.valueAt, valueFrom] at found ⊢
    cases next : property (working.begin schema).heap
        (.reference (working.begin schema).values) key with
    | scalar value =>
      rw [next] at found
      exact absurd found (valueFrom_scalar _ value path list)
    | reference child =>
      have member := begun.members key child next
      rw [next, valueFrom_agree sound.closed begun.others
        (sound.closed.lt_of_mem (mem_references_of_get member))] at found
      rw [member]
      exact found

theorem scopes_agree {heap other : Heap} (closed : Heap.Closed heap)
    (agree : ∀ identity < heap.length, container other identity = container heap identity)
    {list : Nat} (inside : list < heap.length) :
    (entriesOf other list).map (session.inScope other) =
      (entriesOf heap list).map (session.inScope heap) := by
  rw [entriesOf, agree list inside]
  refine List.map_congr_left fun entry member => ?_
  cases entry with
  | scalar value => rw [inScope_scalar, inScope_scalar]
  | reference identity =>
    exact inScope_congr (agree identity (entriesOf_lt closed member identity
      (List.mem_singleton_self identity)))

theorem ForeignKept.of_agree {heap other : Heap} (closed : Heap.Closed heap)
    (agree : ∀ identity < heap.length, container other identity = container heap identity)
    {list : Nat} (inside : list < heap.length) : ForeignKept session heap list other list where
  entries := by
    rw [entriesOf, agree list inside]
    exact List.filter_sublist
  containers := by
    intro identity member
    exact agree identity (entriesOf_lt closed (List.mem_filter.mp member).1 identity
      (List.mem_singleton_self identity))

/-- No entry of another fabric in the list at a path is written to along the other. -/
def ForeignApart (schema : StateSchema) (session : Session) (working : Working)
    (path along : List Key) : Prop :=
  ∀ list places, (working.begin schema).valueAt path = .reference list →
    containersAlong (working.begin schema).heap (working.begin schema).values
      (.reference working.canonical) along = some places →
    ∀ identity ∈ (working.begin schema).values :: places.map Prod.fst,
      .reference identity ∉ foreign session (working.begin schema).heap list

structure KeptByChange (session : Session) (path : List Key) (before after : Working) :
    Prop where
  keeps : KeepsList session path before after
  scopes : ∀ list other, before.valueAt path = .reference list →
    after.valueAt path = .reference other →
    (entriesOf after.heap other).map (session.inScope after.heap) =
      (entriesOf before.heap list).map (session.inScope before.heap)

theorem keptByChange (sound : working.Sound) (careful : CarefulPath schema working along)
    (apart : ForeignApart schema session working path along)
    (leads : ∀ list, working.valueAt path = .reference list →
      (working.begin schema).valueAt path = .reference list) :
    ∃ changed last, working.change schema along = some (changed, last) ∧
      KeptByChange session path working changed := by
  have begun := begin_begun schema sound
  rcases change_spec sound careful with ⟨places, changed, last, isAlong, result, after⟩
  rcases after.copies with ⟨source, copies⟩
  have rootInside := begun.inside.trans_le after.longer
  have own : ∀ list, working.valueAt path = .reference list →
      ∃ copy, ({ working.begin schema with heap := changed } : Working).valueAt path =
        .reference copy ∧ source copy = list ∧ copy < changed.length := by
    intro list found
    have foundThen := leads list found
    rw [Working.valueAt, ← copies.old _ begun.inside] at foundThen
    exact valueFrom_copied copies after.closed rootInside foundThen
  have inside : ∀ list, working.valueAt path = .reference list → list < working.heap.length := by
    intro list found
    refine valueFrom_lt sound.closed ?_ found
    rintro _ ⟨⟩
    exact sound.inside
  refine ⟨_, last, result, ?_, ?_⟩
  · intro list found
    rcases own list found with ⟨copy, foundThen, isCopy, copyInside⟩
    refine ⟨copy, foundThen,
      (ForeignKept.of_agree sound.closed begun.others (inside list found)).trans ?_⟩
    rw [← isCopy]
    refine .of_copies copies after.closed copyInside after.others begun.closed ?_
    rw [isCopy]
    exact apart list places (leads list found) isAlong
  · intro list other found foundThen
    rcases own list found with ⟨copy, foundCopy, isCopy, copyInside⟩
    rw [foundThen] at foundCopy
    cases foundCopy
    rw [← scopes_agree sound.closed begun.others (inside list found), ← isCopy]
    exact scopes_copied copies after.closed copyInside

theorem change_list (sound : working.Sound) (nonempty : path ≠ [])
    (careful : CarefulPath schema working path)
    (apart : ForeignApart schema session working path path) :
    ∃ changed list, working.change schema path = some (changed, list) ∧
      KeptByChange session path working changed ∧ list < changed.heap.length ∧
      changed.valueAt path = .reference list ∧
      ∀ container, (changed.put list container).valueAt path = .reference list := by
  rcases change_spec sound careful with ⟨places, heap, last, along, result, after⟩
  have leads : ∀ list, working.valueAt path = .reference list →
      (working.begin schema).valueAt path = .reference list := by
    intro list found
    have begun : (working.begin schema).valueAt path =
        .reference ((places.map Prod.fst).getLastD (working.begin schema).values) :=
      valueFrom_of_containersAlong along
    rw [begun, ← found, valueAt_of_begin sound nonempty begun]
  rcases keptByChange sound careful apart leads with ⟨changed, list, same, kept⟩
  rw [result] at same
  cases same
  refine ⟨_, last, result, kept, after.inside, after.leads heap fun _ _ => rfl, ?_⟩
  intro container
  exact after.leads _ fun identity different => container_set_ne different container

theorem keepsList_put {changed : Working} {list : Nat} {container : Container}
    (inside : list < changed.heap.length) (found : changed.valueAt path = .reference list)
    (leads : (changed.put list container).valueAt path = .reference list)
    (kept : (foreign session changed.heap list).Sublist container.entries) :
    KeepsList session path changed (changed.put list container) := by
  intro other foundOther
  rw [found] at foundOther
  cases foundOther
  refine ⟨list, leads, ?_, ?_⟩
  · rw [entriesOf, Working.put, container_set_self inside]
    exact kept
  · intro identity member
    refine container_set_ne ?_ container
    rintro rfl
    rcases exists_of_mem_foreign member with ⟨_, properties, ⟨⟩, content⟩
    have entries : entriesOf changed.heap identity = [] := by
      rw [entriesOf, content]
      rfl
    rw [foreign, entries] at member
    cases member

theorem filter_sublist_set {values : List Value} {keep : Value → Bool}
    (dropped : ∀ old, values[index]? = some old → keep old = false) :
    (values.filter keep).Sublist (values.set index value) := by
  induction values generalizing index with
  | nil => exact List.nil_sublist _
  | cons first values induction =>
    cases index with
    | zero =>
      have notFirst : keep first = false := dropped first rfl
      rw [List.filter_cons, notFirst]
      exact List.filter_sublist.trans (List.sublist_cons_self value values)
    | succ index =>
      rw [List.filter_cons]
      cases keep first with
      | true => exact (induction dropped).cons_cons first
      | false => exact (induction dropped).cons first

theorem filter_sublist_eraseIdx {values : List Value} {keep : Value → Bool}
    (dropped : ∀ old, values[index]? = some old → keep old = false) :
    (values.filter keep).Sublist (values.eraseIdx index) := by
  induction values generalizing index with
  | nil => exact List.nil_sublist _
  | cons first values induction =>
    cases index with
    | zero =>
      have notFirst : keep first = false := dropped first rfl
      rw [List.filter_cons, notFirst]
      exact List.filter_sublist
    | succ index =>
      rw [List.filter_cons]
      cases keep first with
      | true => exact (induction dropped).cons_cons first
      | false => exact (induction dropped).cons first

theorem inScope_of_mapsEntry {heap : Heap} {entry : Value}
    (maps : session.mapsEntry heap entry = .ok true) : session.inScope heap entry := by
  cases entry with
  | scalar value => exact inScope_scalar value
  | reference identity => exact Except.ok.inj maps

theorem inScope_of_scan {heap : Heap} {index : Int} {start nextPos position : Nat}
    (found : scan session heap index start nextPos elements = .ok (.found position)) :
    start ≤ position ∧
      ∀ entry, elements[position - start]? = some entry →
        session.inScope heap (entry.getD .undefined) := by
  induction elements generalizing start nextPos with
  | nil => cases found
  | cons first elements induction =>
    have further : ∀ nextPos,
        scan session heap index (start + 1) nextPos elements = .ok (.found position) →
          start ≤ position ∧
            ∀ entry, (first :: elements)[position - start]? = some entry →
              session.inScope heap (entry.getD .undefined) := by
      intro nextPos foundThen
      rcases induction foundThen with ⟨later, inScope⟩
      have shift : position - start = position - (start + 1) + 1 := by omega
      refine ⟨by omega, ?_⟩
      rw [shift]
      exact inScope
    rw [scan] at found
    cases maps : session.mapsEntry heap (first.getD .undefined) with
    | error error =>
      rw [maps] at found
      cases found
    | ok isScoped =>
      rw [maps] at found
      cases isScoped with
      | false => exact further nextPos found
      | true =>
        by_cases target : (nextPos : Int) = index
        · simp only [target] at found
          cases found
          refine ⟨Nat.le_refl _, ?_⟩
          rw [Nat.sub_self]
          rintro _ ⟨⟩
          exact inScope_of_mapsEntry maps
        · simp only [target] at found
          exact further (nextPos + 1) found

theorem inScope_of_mapScopedToActual {heap : Heap} {index : Int} {reading : Bool} {position : Nat}
    (mapped : mapScopedToActual session heap elements index reading = .ok position) :
    ∀ entry, elements[position]? = some entry → session.inScope heap (entry.getD .undefined) := by
  intro entry held
  rw [mapScopedToActual] at mapped
  by_cases negative : index < 0
  · rw [if_pos negative] at mapped
    cases reading with
    | true => cases mapped
    | false => cases mapped
  · rw [if_neg negative] at mapped
    cases scanned : scan session heap index 0 0 elements with
    | error error =>
      rw [scanned] at mapped
      cases mapped
    | ok result =>
      rw [scanned] at mapped
      cases result with
      | found actual =>
        cases mapped
        exact (inScope_of_scan scanned).2 entry held
      | ended nextPos =>
        cases reading with
        | true => cases mapped
        | false =>
          by_cases atEnd : (nextPos : Int) = index
          · simp only [atEnd] at mapped
            cases mapped
            rw [List.getElem?_eq_none (Nat.le_refl _)] at held
            cases held
          · simp only [atEnd] at mapped
            cases mapped

/-! ## List writes -/

theorem baseWriteEntry_keepsList (sound : working.Sound) (nonempty : path ≠ [])
    (careful : CarefulBaseWrite schema working path index)
    (apart : ForeignApart schema session working path path)
    (inScope : ∀ entry, (working.elementsAt path)[index]? = some entry →
      session.inScope working.heap (entry.getD .undefined)) :
    KeepsList session path working (baseWriteEntry schema working path index incoming).1 := by
  rw [baseWriteEntry]
  by_cases beyond : index > (working.elementsAt path).length + 1
  · rw [if_pos beyond]
    exact .refl session path working
  by_cases late : index > 65535
  · rw [if_neg beyond, if_pos late]
    exact .refl session path working
  rcases change_list sound nonempty (careful (by omega) (by omega)) apart
    with ⟨changed, list, result, kept, inside, found, leads⟩
  rw [if_neg beyond, if_neg late, result]
  intro before foundBefore
  refine (kept.keeps.trans (keepsList_put inside found (leads _) ?_)) before foundBefore
  have scopes := kept.scopes before list foundBefore found
  -- the entry that is replaced is in scope after the change as it was before
  have replaced : ∀ old, (entriesOf changed.heap list)[index]? = some old →
      (!session.inScope changed.heap old) = false := by
    intro old held
    have scopeThen : ((entriesOf working.heap before).map (session.inScope working.heap))[index]? =
        some (session.inScope changed.heap old) := by
      rw [← scopes, List.getElem?_map, held]
      rfl
    rw [List.getElem?_map, ← map_elements, List.getElem?_map, ← foundBefore] at scopeThen
    change (((working.elementsAt path)[index]?.map _).map _) = _ at scopeThen
    cases element : (working.elementsAt path)[index]? with
    | none =>
      rw [element] at scopeThen
      cases scopeThen
    | some entry =>
      rw [element] at scopeThen
      rw [← Option.some.inj scopeThen, inScope entry element]
      rfl
  rw [foreign, entriesOf] at *
  cases content : container changed.heap list with
  | struct properties => exact List.nil_sublist _
  | list elements =>
    rw [content] at replaced
    rw [Container.set, Container.setElement]
    by_cases within : index < elements.length
    · rw [if_pos within, Container.entries, Container.entries, List.map_set]
      exact filter_sublist_set replaced
    · rw [if_neg within, Container.entries, Container.entries, List.map_append,
        List.map_append, List.append_assoc]
      exact List.filter_sublist.trans (List.sublist_append_left _ _)

theorem removeScoped_keeps {heap : Heap} {length formerLength : Nat} :
    ((elements.map (·.getD .undefined)).filter fun entry => !session.inScope heap entry).Sublist
      ((removeScoped session heap length formerLength elements).1.map (·.getD .undefined)) := by
  induction formerLength generalizing elements with
  | zero => exact List.filter_sublist
  | succ index induction =>
    rcases removeScoped_succ session heap length index elements with
      ⟨outcome, ended⟩ | ⟨actual, mapped, -, removed⟩ | kept
    · rw [ended]
      exact List.filter_sublist
    · rw [removed]
      refine List.Sublist.trans ?_ induction
      have dropped : ∀ old, (elements.map (·.getD .undefined))[actual]? = some old →
          (!session.inScope heap old) = false := by
        intro old held
        rw [List.getElem?_map] at held
        rcases Option.map_eq_some_iff.mp held with ⟨entry, isEntry, rfl⟩
        rw [inScope_of_mapScopedToActual mapped entry isEntry]
        rfl
      have sub := (filter_sublist_eraseIdx dropped).filter fun entry => !session.inScope heap entry
      rw [List.filter_filter] at sub
      simp only [Bool.and_self] at sub
      rw [← List.eraseIdx_map]
      exact sub
    · rw [kept]
      exact induction

theorem setListLength_keepsList (sound : working.Sound) (nonempty : path ≠ []) {length : Nat}
    (filters : filtersByFabric (schema.listConfig path) session)
    (careful : CarefulLength schema session working path length)
    (apart : ForeignApart schema session working path path) :
    KeepsList session path working (setListLength schema session working path length).1 := by
  rcases change_list sound nonempty (careful (.inl filters)) apart
    with ⟨changed, list, result, kept, inside, found, leads⟩
  rw [setListLength, if_pos filters, result]
  refine kept.keeps.trans (keepsList_put inside found (leads _) ?_)
  rw [foreign, ← map_elements]
  exact removeScoped_keeps

/-! ## The fabric index of what is written -/

theorem inScope_of_isNullish (session : Session) {heap : Heap} {entry : Value}
    (missing : (fabricIndex heap entry).isNullish) :
    ∃ old, fabricIndex heap entry = .scalar old ∧ session.inScope heap entry := by
  rw [Value.isNullish, Bool.or_eq_true, decide_eq_true_iff, decide_eq_true_iff] at missing
  rw [Session.inScope]
  rcases missing with undefined | null
  · exact ⟨.undefined, undefined, by rw [undefined]; simp [Value.isFalsy, Value.undefined]⟩
  · exact ⟨.null, null, by rw [null]; simp [Value.isFalsy]⟩

theorem exists_fabricValue (session : Session) :
    ∃ value, session.fabricValue = .scalar value ∧
      (session.fabricValue.isFalsy || session.fabricValue.strictEquals session.fabricValue) := by
  rw [Session.fabricValue]
  cases session.fabric with
  | none => exact ⟨.undefined, rfl, rfl⟩
  | some fabric =>
    simp [Value.number, Value.strictEquals, Scalar.strictEquals]

theorem change_content (sound : working.Sound) (nonempty : path ≠ [])
    (careful : CarefulPath schema working path) {changed : Working} {last : Nat}
    (result : working.change schema path = some (changed, last)) :
    last < changed.heap.length ∧ ∃ identity, working.valueAt path = .reference identity ∧
      (container changed.heap last).clone = (container working.heap identity).clone := by
  have begun := begin_begun schema sound
  rcases change_spec sound careful with ⟨places, heap, end_, along, same, after⟩
  rw [result] at same
  cases same
  have found : (working.begin schema).valueAt path =
      .reference ((places.map Prod.fst).getLastD (working.begin schema).values) :=
    valueFrom_of_containersAlong along
  have foundBefore := valueAt_of_begin sound nonempty found
  refine ⟨after.inside, _, foundBefore, ?_⟩
  rw [← begun.others _ (valueFrom_lt sound.closed ?_ foundBefore)]
  · exact after.content
  · rintro _ ⟨⟩
    exact sound.inside

theorem isObject_of_clone {heap other : Heap} {copy : Nat}
    (content : (container other copy).clone = (container heap identity).clone)
    (object : isObject heap (.reference identity)) :
    ∃ properties, container other copy = .struct properties := by
  rw [isObject] at object
  cases here : container heap identity with
  | list elements =>
    rw [here] at object
    cases object
  | struct properties =>
    cases there : container other copy with
    | struct properties => exact ⟨properties, rfl⟩
    | list elements =>
      rw [here, there] at content
      cases content

theorem validateProperty_keepsList {before assigned : Working} {struct : Nat} {name : String}
    {oldValue : Value} (kept : KeepsList session path before assigned)
    (restored : KeepsList session path before
      (assigned.put struct ((container assigned.heap struct).set (.name name) oldValue))) :
    KeepsList session path before
      (validateProperty schema session along struct name oldValue value assigned).1 := by
  rw [validateProperty]
  by_cases valid : session.acceptInvalid ||
      schema.validate (along ++ [.name name]) assigned.heap (container assigned.heap struct) value
  · rw [if_pos valid]
    exact kept
  · rw [if_neg valid]
    exact restored

theorem assignFabricIndex_keepsList (sound : working.Sound) (nonempty : along ≠ [])
    (careful : CarefulPath schema working along)
    (apart : ForeignApart schema session working path along)
    (leads : ∀ list, working.valueAt path = .reference list →
      (working.begin schema).valueAt path = .reference list)
    (object : isObject working.heap (working.valueAt along))
    (missing : (fabricIndex working.heap (working.valueAt along)).isNullish) :
    KeepsList session path working
      (assignProperty schema session working along "fabricIndex" (.raw session.fabricValue)).1 := by
  rcases keptByChange sound careful apart leads with ⟨changed, struct, result, kept⟩
  rcases change_content sound nonempty careful result with ⟨inside, identity, found, content⟩
  rcases exists_fabricValue session with ⟨new, isNew, isOwn⟩
  rw [found] at object missing
  rcases isObject_of_clone content object with ⟨properties, isStruct⟩
  have sameIndex : fabricIndex changed.heap (.reference struct) =
      fabricIndex working.heap (.reference identity) :=
    get_eq_of_clone_eq content _
  rcases inScope_of_isNullish session missing with ⟨old, held, -⟩
  rw [← sameIndex] at missing
  rcases inScope_of_isNullish session missing with ⟨older, heldThen, inScope⟩
  have first : KeepsList session path working (changed.put struct
      ((container changed.heap struct).set (.name "fabricIndex") session.fabricValue)) := by
    rw [isNew]
    exact kept.keeps.trans (keepsList_putIndex heldThen inScope)
  have index : fabricIndex (changed.put struct ((container changed.heap struct).set
      (.name "fabricIndex") session.fabricValue)).heap (.reference struct) =
        session.fabricValue := by
    rw [fabricIndex, property, Working.put, container_set_self inside, isStruct,
      get_set_struct, if_pos rfl]
  have ownScope : session.inScope (changed.put struct ((container changed.heap struct).set
      (.name "fabricIndex") session.fabricValue)).heap (.reference struct) := by
    rw [Session.inScope, index, Bool.or_assoc, isOwn, Bool.or_true]
  rw [assignProperty, result]
  refine validateProperty_keepsList first (first.trans ?_)
  have oldValue : property working.heap (working.valueAt along) (.name "fabricIndex") =
      .scalar old := by
    rw [found]
    exact held
  rw [oldValue]
  exact keepsList_putIndex (index.trans isNew) ownScope

/-- The fabric index is not set along a path through entries of other fabrics. -/
def StampApart (schema : StateSchema) (session : Session) (working : Working) (path : List Key) :
    Incoming → Prop
  | .raw _ => True
  | .managed along =>
    along ≠ [] ∧ CarefulPath schema working path ∧ ForeignApart schema session working path along

theorem stampFabricIndex_keepsList (session : Session) (sound : working.Sound)
    (nonempty : path ≠ []) (careful : CarefulStamp schema working incoming)
    (apart : StampApart schema session working path incoming) :
    KeepsList session path working (stampFabricIndex schema session working incoming).1 := by
  rw [stampFabricIndex]
  by_cases isNull : working.unwrap incoming = .scalar .null
  · rw [if_pos isNull]
    exact .refl session path working
  rw [if_neg isNull]
  by_cases missing : isObject working.heap (working.unwrap incoming) ∧
      (fabricIndex working.heap (working.unwrap incoming)).isNullish
  · rw [if_pos missing]
    cases incoming with
    | managed along =>
      rcases apart with ⟨alongNonempty, carefulPath, foreignApart⟩
      refine assignFabricIndex_keepsList sound alongNonempty (careful missing) foreignApart ?_
        missing.1 missing.2
      intro list found
      rcases carefulPath with ⟨places, isAlong, -⟩
      have begun : (working.begin schema).valueAt path = .reference _ :=
        valueFrom_of_containersAlong isAlong
      rw [begun, ← found, valueAt_of_begin sound nonempty begun]
    | raw value =>
      cases value with
      | scalar value => exact .refl session path working
      | reference identity =>
        rcases inScope_of_isNullish session missing.2 with ⟨old, held, inScope⟩
        rcases exists_fabricValue session with ⟨new, isNew, -⟩
        rw [addFabricIndex, isNew]
        exact keepsList_putIndex held inScope
  · rw [if_neg missing]
    exact .refl session path working

/-! ## Writes through a filtered list -/

def WriteApart (schema : StateSchema) (session : Session) (working : Working) (path : List Key)
    (incoming : Incoming) : Prop :=
  path ≠ [] ∧ StampApart schema session working path incoming ∧
    ∀ stamped, stampFabricIndex schema session working incoming = (stamped, .ok ()) →
      ForeignApart schema session stamped path path

theorem removal_keepsList (removes : working.unwrap incoming = .undefined)
    (careful : CarefulScopedWrite schema session working path index incoming) :
    KeepsList session path working
      (writeScopedEntry schema session working path index incoming).1 := by
  rw [CarefulScopedWrite, if_pos removes] at careful
  rw [writeScopedEntry, if_pos removes]
  cases mapped : mapScopedToActual session working.heap (working.elementsAt path) index false with
  | error error => exact .refl session path working
  | ok position =>
    rw [careful position mapped]
    change KeepsList session path working
      (spliceEntry working path (working.elementsAt path).length)
    rw [spliceEntry_length]
    exact .refl session path working

theorem writeScopedEntry_keepsList (sound : working.Sound)
    (careful : CarefulScopedWrite schema session working path index incoming)
    (apart : WriteApart schema session working path incoming) :
    KeepsList session path working
      (writeScopedEntry schema session working path index incoming).1 := by
  rcases apart with ⟨nonempty, stampApart, foreignApart⟩
  by_cases removes : working.unwrap incoming = .undefined
  · exact removal_keepsList removes careful
  rw [CarefulScopedWrite, if_neg removes] at careful
  rw [writeScopedEntry, if_neg removes]
  cases (working.unwrap incoming).isTypeofObject with
  | false => exact .refl session path working
  | true =>
    have isolated := stampFabricIndex_isolated session sound careful.1
    have stamping := stampFabricIndex_keepsList session sound nonempty careful.1 stampApart
    rcases stamped : stampFabricIndex schema session working incoming with ⟨state, outcome⟩
    rw [stamped] at isolated stamping
    cases outcome with
    | error error => exact stamping
    | ok done =>
      dsimp only
      cases mapped : mapScopedToActual session state.heap (state.elementsAt path) index
          false with
      | error error => exact stamping
      | ok position =>
        exact stamping.trans (baseWriteEntry_keepsList isolated.sound nonempty
          (careful.2 state position stamped mapped) (foreignApart state stamped)
          (inScope_of_mapScopedToActual mapped))

theorem setEntry_keepsList (sound : working.Sound)
    (filters : filtersByFabric (schema.listConfig path) session)
    (careful : CarefulWrite schema session working path index incoming)
    (apart : WriteApart schema session working path incoming) :
    KeepsList session path working (setEntry schema session working path index incoming).1 := by
  rw [setEntry]
  by_cases valid : schema.validateEntry path working.heap (working.unwrap incoming)
  · have allowed := careful.2
    rw [if_pos filters] at allowed
    rw [if_pos valid, writeEntry, if_pos filters]
    exact writeScopedEntry_keepsList sound allowed apart
  · rw [if_neg valid]
    exact .refl session path working

def EntriesApart (schema : StateSchema) (session : Session) (path : List Key) (source : Value) :
    Nat → Nat → Working → Prop
  | 0, _, _ => True
  | rounds + 1, index, working =>
    if index < (Heap.elements working.heap source).length then
      WriteApart schema session working path
          (.raw (element (Heap.elements working.heap source) index)) ∧
        ∀ written, setEntry schema session working path index
            (.raw (element (Heap.elements working.heap source) index)) = (written, .ok ()) →
          EntriesApart schema session path source rounds (index + 1) written
    else path ≠ [] ∧ ForeignApart schema session working path path

theorem assignEntries_keepsList {source : Value} {rounds : Nat} (sound : working.Sound)
    (filters : filtersByFabric (schema.listConfig path) session)
    (careful : CarefulEntries schema session path source rounds index working)
    (apart : EntriesApart schema session path source rounds index working) :
    KeepsList session path working
      (assignEntries schema session path source rounds index working).1 := by
  induction rounds generalizing index working with
  | zero => exact .refl session path working
  | succ rounds induction =>
    rw [CarefulEntries] at careful
    rw [EntriesApart] at apart
    rw [assignEntries]
    by_cases inside : index < (elements working.heap source).length
    · rw [if_pos inside] at careful apart ⊢
      have isolated := (setEntry_isolated sound careful.1).2
      have first := setEntry_keepsList sound filters careful.1 apart.1
      rcases written : setEntry schema session working path index
          (.raw (element (elements working.heap source) index)) with ⟨state, outcome⟩
      rw [written] at isolated first
      cases outcome with
      | error error => exact first
      | ok done =>
        exact first.trans (induction isolated.sound (careful.2 state written)
          (apart.2 state written))
    · rw [if_neg inside] at careful apart ⊢
      exact setListLength_keepsList sound apart.1 filters careful apart.2

end Steps

section Runs

variable (schema : StateSchema) (session : Session)

def AssignsEntries (path : List Key) (name : String) (incoming : Incoming) (changed : Working)
    (struct : Nat) : Prop :=
  filtersByFabric (schema.listConfig (path ++ [.name name])) session ∧
    isList changed.heap (changed.unwrap incoming) ∧
    isList changed.heap (property changed.heap (.reference struct) (.name name))

/-- No entry of another fabric lies on a path that is written along. -/
def ListsApart (working : Working) : Operation → Prop
  | .create _ | .deleteEntry _ _ => True
  | .setProperty path name incoming =>
    ∀ changed struct, working.change schema path = some (changed, struct) →
      AssignsEntries schema session path name incoming changed struct →
      EntriesApart schema session (path ++ [.name name]) (changed.unwrap incoming) 65537 0 changed
  | .setEntry path _ incoming =>
    filtersByFabric (schema.listConfig path) session →
      WriteApart schema session working path incoming
  | .setListLength path _ =>
    filtersByFabric (schema.listConfig path) session →
      path ≠ [] ∧ ForeignApart schema session working path path

/-- What is written through a list filtered by fabric leaves the entries of other fabrics. -/
def KeepsForeign (working : Working) : Operation → Prop
  | .create _ => True
  | .setProperty path name incoming =>
    ∀ changed struct, working.change schema path = some (changed, struct) →
      AssignsEntries schema session path name incoming changed struct →
      KeepsList session (path ++ [.name name]) changed
        (assignEntries schema session (path ++ [.name name]) (changed.unwrap incoming) 65537 0
          changed).1
  | .setEntry path index incoming =>
    filtersByFabric (schema.listConfig path) session →
      KeepsList session path working
        (perform schema session working (.setEntry path index incoming))
  | .deleteEntry path index =>
    filtersByFabric (schema.listConfig path) session →
      KeepsList session path working (perform schema session working (.deleteEntry path index))
  | .setListLength path length =>
    filtersByFabric (schema.listConfig path) session →
      KeepsList session path working (perform schema session working (.setListLength path length))

variable {schema session}

theorem perform_keepsForeign {working : Working} (sound : working.Sound) {operation : Operation}
    (careful : Careful schema session working operation)
    (apart : ListsApart schema session working operation) :
    KeepsForeign schema session working operation := by
  cases operation with
  | create container => trivial
  | setProperty path name incoming =>
    intro changed struct result assigns
    rcases change_isolated sound careful.1 with ⟨_, _, same, isolated, -, -⟩
    rw [result] at same
    cases same
    have isScoped : (schema.listConfig (path ++ [.name name])).fabricScoped :=
      (Bool.and_eq_true _ _ ▸ assigns.1).1
    exact assignEntries_keepsList isolated.sound assigns.1
      (careful.2.2 changed struct result isScoped assigns.2.1 assigns.2.2)
      (apart changed struct result assigns)
  | setEntry path index incoming =>
    exact fun filters => setEntry_keepsList sound filters careful (apart filters)
  | deleteEntry path index =>
    intro filters
    have allowed := careful.2
    rw [if_pos filters] at allowed
    rw [perform, writeEntry, if_pos filters]
    exact removal_keepsList rfl allowed
  | setListLength path length =>
    exact fun filters => setListLength_keepsList sound (apart filters).1 filters careful
      (apart filters).2

/-- Writes of a transaction do not show in the canonical values, and those through a list
filtered by fabric keep the entries of other fabrics. -/
theorem isolated_of_careful (schema : StateSchema) (session : Session) (working : Working)
    (operations : List Operation) (sound : working.Sound)
    (along : Execution.Along (perform schema session)
      (fun working operation => Careful schema session working operation ∧
        ListsApart schema session working operation) working operations) :
    (∀ earlier, earlier <+: operations →
      Heap.SameFrom working.canonical working.heap
        (Execution.run (perform schema session) working earlier).heap) ∧
    Execution.Along (perform schema session) (KeepsForeign schema session) working operations := by
  constructor
  · rintro earlier ⟨later, rfl⟩
    have alongEarlier := (Execution.along_and_iff.mp
      ((Execution.along_append working earlier later).mp along).1).1
    exact (run_isolated sound alongEarlier).same
  · refine Execution.Along.of_invariant Working.Sound sound ?_ along
    intro state operation careful isSound
    exact ⟨(perform_isolated isSound careful.1).sound,
      perform_keepsForeign isSound careful.1 careful.2⟩

end Runs

/-- A state with a struct and a list of entries of two fabrics -/
def sampleWorking : Working where
  heap :=
    [.struct [("a", .reference 1), ("list", .reference 2)],
      .struct [("x", .scalar (.string "old"))], .list [some (.reference 3), some (.reference 4)],
      .struct [("fabricIndex", .number 1)], .struct [("fabricIndex", .number 2)]]
  canonical := 0
  values := 0

def sampleSchema : StateSchema where
  typeDefaults := []
  memberNames := ["a", "b", "list"]
  listConfig := fun _ => ⟨true, false, true⟩
  validate := fun _ _ _ _ => true
  validateEntry := fun _ _ _ => true

/-- The list loses the session's own entry. -/
theorem isolated_of_careful_shrunk :
    (∀ earlier, earlier <+: [Operation.setListLength [.name "list"] 0] →
      Heap.SameFrom sampleWorking.canonical sampleWorking.heap
        (Execution.run (perform sampleSchema ⟨some 1, true, false, false⟩) sampleWorking
          earlier).heap) ∧
    Execution.Along (perform sampleSchema ⟨some 1, true, false, false⟩)
      (KeepsForeign sampleSchema ⟨some 1, true, false, false⟩) sampleWorking
      [.setListLength [.name "list"] 0] := by
  refine isolated_of_careful sampleSchema ⟨some 1, true, false, false⟩ sampleWorking
    [.setListLength [.name "list"] 0] ?_ ?_
  · exact
      { closed := by
          unfold Heap.Closed ContainerHeap.Closed
          decide
        root := by decide
        inside := by decide
        apart := .inl rfl }
  · refine ⟨⟨fun _ => ⟨[(2, .reference 2)], by decide, ?_, by decide⟩, fun _ => ⟨by decide, ?_⟩⟩,
      trivial⟩
    · intro place member
      rw [List.mem_singleton.mp member]
      exact .inl rfl
    · intro list places found along identity member isForeign
      cases found
      cases along
      have onPath : identity ∈ [5, 2] := member
      have others : ∀ held ∈ [5, 2], Value.reference held ∉
          foreign ⟨some 1, true, false, false⟩ (sampleWorking.begin sampleSchema).heap 2 := by
        decide +kernel
      exact others identity onPath isForeign

/-- A struct that was assigned to another property is written to where it was. -/
theorem isolated_of_careful_false :
    ¬ Heap.SameFrom sampleWorking.canonical sampleWorking.heap
      (Execution.run (perform sampleSchema ⟨some 1, true, false, false⟩) sampleWorking
        [.setProperty [] "b" (.managed [.name "a"]),
          .setProperty [.name "b"] "x" (.raw (.scalar (.string "new")))]).heap := by
  intro same
  have reached : Heap.Reachable sampleWorking.heap sampleWorking.canonical 1 :=
    Heap.Reachable.child .root (by decide)
  have changed := same 1 reached
  revert changed
  decide

end MatterJs.Node
