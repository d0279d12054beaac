import MatterJs.Node.ManagedReference

/-! What the changes of a session leave: copies of the original containers, and the canonical
values as they were. -/

namespace MatterJs.Node

open General ContainerHeap Container

def Value.rename (source : Nat → Nat) : Value → Value
  | scalar value => scalar value
  | reference identity => reference (source identity)

def Container.rename (source : Nat → Nat) : Container → Container
  | struct properties => struct (properties.map fun entry => (entry.1, entry.2.rename source))
  | list elements => list (elements.map fun element => element.map (Value.rename source))

theorem Value.rename_eq_self {source : Nat → Nat} {value : Value}
    (fixed : ∀ identity ∈ value.references, source identity = identity) :
    value.rename source = value := by
  cases value with
  | scalar value => rfl
  | reference identity =>
    rw [rename, fixed identity (List.mem_singleton_self identity)]

theorem Container.rename_eq_self {source : Nat → Nat} {container : Container}
    (fixed : ∀ identity ∈ container.references, source identity = identity) :
    container.rename source = container := by
  cases container with
  | struct properties =>
    rw [rename, List.map_congr_left, List.map_id]
    intro entry member
    rw [Value.rename_eq_self fun identity isReference =>
      fixed identity (List.mem_flatMap.mpr ⟨entry, member, isReference⟩)]
    rfl
  | list elements =>
    rw [rename, List.map_congr_left, List.map_id]
    intro element member
    cases element with
    | none => rfl
    | some value =>
      rw [Option.map_some, Value.rename_eq_self fun identity isReference =>
        fixed identity (List.mem_flatMap.mpr ⟨some value, member, isReference⟩)]
      rfl

theorem Value.rename_rename (first second : Nat → Nat) (value : Value) :
    (value.rename first).rename second = value.rename (second ∘ first) := by
  cases value with
  | scalar value => rfl
  | reference identity => rfl

theorem Container.rename_rename (first second : Nat → Nat) (container : Container) :
    (container.rename first).rename second = container.rename (second ∘ first) := by
  cases container with
  | struct properties => simp [rename, Value.rename_rename]
  | list elements => simp [rename, Function.comp_def, Value.rename_rename]

theorem Container.clone_rename (source : Nat → Nat) (container : Container) :
    (container.rename source).clone = container.clone.rename source := by
  cases container with
  | struct properties => rfl
  | list elements =>
    simp only [rename, clone, List.map_map, list.injEq]
    refine List.map_congr_left fun element _ => ?_
    cases element with
    | none => rfl
    | some value => rfl

theorem Container.rename_set (source : Nat → Nat) (container : Container) (key : Key)
    (value : Value) :
    (container.set key value).rename source =
      (container.rename source).set key (value.rename source) := by
  cases container with
  | struct properties =>
    change struct _ = struct _
    rw [OrderedMap.map_setEntries]
  | list elements =>
    cases key with
    | name name => rfl
    | index index =>
      change list _ = list (setElement _ _ _)
      rw [setElement, setElement, List.length_map]
      by_cases inside : index < elements.length
      · rw [if_pos inside, if_pos inside, List.map_set]
        rfl
      · rw [if_neg inside, if_neg inside, List.map_append, List.map_append, List.map_replicate]
        rfl

theorem Container.set_of_get {container : Container} {key : Key} {identity : Nat}
    (found : container.get key = .reference identity) :
    container.set key (.reference identity) = container := by
  cases container with
  | struct properties =>
    have held : properties.lookup key.text = some (.reference identity) := by
      cases known : properties.lookup key.text with
      | none =>
        rw [get, known] at found
        cases found
      | some value =>
        rw [get, known] at found
        exact congrArg some found
    rw [set, OrderedMap.setEntries_of_lookup held]
  | list elements =>
    cases key with
    | name name => cases found
    | index index =>
      have held : elements[index]? = some (some (.reference identity)) := by
        rw [get] at found
        cases known : elements[index]? with
        | none =>
          rw [known] at found
          cases found
        | some element =>
          rw [known] at found
          cases element with
          | none => cases found
          | some value => exact congrArg (some ∘ some) found
      rcases List.getElem?_eq_some_iff.mp held with ⟨inside, equal⟩
      rw [set, setElement, if_pos inside, ← equal, List.set_getElem_self]

/-- The containers of the second heap are copies of those of the first, and the new ones are
copies of one of the listed. -/
structure Copies (heap changed : Heap) (identities : List Nat) (source : Nat → Nat) : Prop where
  old : ∀ identity < heap.length, source identity = identity
  fresh : ∀ identity, heap.length ≤ identity → identity < changed.length →
    source identity ∈ identities
  same : ∀ identity < changed.length,
    (Heap.container changed identity).clone.rename source =
      (Heap.container heap (source identity)).clone

theorem Copies.refl (heap : Heap) (identities : List Nat) : Copies heap heap identities id where
  old := fun _ _ => rfl
  fresh := by
    omega
  same := fun _ _ => rename_eq_self fun _ _ => rfl

theorem Copies.trans {heap middle changed : Heap} {identity : Nat} {identities : List Nat}
    {first second : Nat → Nat} (longer : heap.length ≤ middle.length)
    (allocated : ∀ held ∈ identities, held < heap.length)
    (before : Copies heap middle [identity] first)
    (after : Copies middle changed identities second) :
    Copies heap changed (identity :: identities) (first ∘ second) where
  old := by
    intro held inside
    rw [Function.comp_apply, after.old held (by omega), before.old held inside]
  fresh := by
    intro held late early
    rw [Function.comp_apply]
    by_cases inMiddle : held < middle.length
    · rw [after.old held inMiddle, List.mem_singleton.mp (before.fresh held late inMiddle)]
      exact List.mem_cons_self
    · have member := after.fresh held (by omega) early
      rw [before.old _ (allocated _ member)]
      exact List.mem_cons_of_mem _ member
  same := by
    intro held inside
    have known : second held < middle.length := by
      by_cases inMiddle : held < middle.length
      · rw [after.old held inMiddle]
        exact inMiddle
      · have inHeap := allocated _ (after.fresh held (by omega) inside)
        omega
    rw [← rename_rename, after.same held inside, before.same _ known]
    rfl

/-! ## Changes along a path -/

section ChangeAlong

open Heap

variable {heap other : Heap} {canonical container : Nat} {original : Value}

theorem containersAlong_congr {copy : Nat} {path : List Key} {places : List (Nat × Value)}
    (same : SameFrom canonical heap other)
    (known : ∀ held, original = .reference held → Reachable heap canonical held)
    (content : (Heap.container other copy).clone = (Heap.container heap container).clone)
    (others : ∀ place ∈ places, Heap.container other place.1 = Heap.container heap place.1)
    (along : containersAlong heap container original path = some places) :
    containersAlong other copy original path = some places := by
  induction path generalizing container copy original places with
  | nil => exact along
  | cons key path induction =>
    rw [containersAlong] at along ⊢
    rw [get_eq_of_clone_eq content, property_sameFrom same known]
    cases found : (Heap.container heap container).get key with
    | scalar value =>
      rw [found] at along
      cases along
    | reference identity =>
      rw [found] at along
      rcases Option.map_eq_some_iff.mp along with ⟨further, below, rfl⟩
      have here := others _ List.mem_cons_self
      change (containersAlong other identity (property heap original key) path).map _ = _
      rw [induction (fun held => reachable_of_property known)
        (congrArg clone here)
        (fun place member => others place (List.mem_cons_of_mem _ member)) below]
      rfl

/-- What a change along a path leaves: the last container is one of the session's own with the
content of the one that was there, and nothing else differs but the containers on the path. -/
structure ChangedAlong (canonical : Nat) (heap : Heap) (container : Nat)
    (identities : List Nat) (path : List Key) (changed : Heap) (last : Nat) : Prop where
  same : SameFrom canonical heap changed
  closed : Closed changed
  longer : heap.length ≤ changed.length
  inside : last < changed.length
  apart : ¬ Reachable changed canonical last
  content : (Heap.container changed last).clone =
    (Heap.container heap (identities.getLastD container)).clone
  others : ∀ identity < heap.length, identity ∉ container :: identities →
    Heap.container changed identity = Heap.container heap identity
  place : last = container ∨ last ∈ identities ∨ heap.length ≤ last
  copies : ∃ source, Copies heap changed identities source
  leads : ∀ after : Heap,
    (∀ identity ≠ last, Heap.container after identity = Heap.container changed identity) →
    valueFrom after (.reference container) path = .reference last

/-- Every container on the way is the original one at its place, or out of reach from the
canonical values. -/
def KeepApart (canonical : Nat) (heap : Heap) (places : List (Nat × Value)) : Prop :=
  ∀ place ∈ places, place.2 = .reference place.1 ∨ ¬ Reachable heap canonical place.1

theorem KeepApart.of_sameFrom {places : List (Nat × Value)}
    (apart : KeepApart canonical heap places) (same : SameFrom canonical heap other) :
    KeepApart canonical other places := by
  intro place member
  rcases apart place member with original | unreached
  · exact .inl original
  · exact .inr fun reachable => unreached (same.reachable_iff.mp reachable)

theorem lt_of_containersAlong {path : List Key} {places : List (Nat × Value)}
    (closed : Closed heap) (along : containersAlong heap container original path = some places) :
    ∀ place ∈ places, place.1 < heap.length := by
  induction path generalizing container original places with
  | nil =>
    rw [← Option.some.inj along]
    simp
  | cons key path induction =>
    rw [containersAlong] at along
    cases found : (Heap.container heap container).get key with
    | scalar value =>
      rw [found] at along
      cases along
    | reference identity =>
      rw [found] at along
      rcases Option.map_eq_some_iff.mp along with ⟨further, below, rfl⟩
      intro place member
      rcases List.mem_cons.mp member with rfl | later
      · exact closed.lt_of_mem (mem_references_of_get found)
      · exact induction below place later

def copied (heap : Heap) (container : Nat) (key : Key) (identity : Nat) : Heap :=
  (heap ++ [(Heap.container heap identity).clone]).set container
    ((Heap.container heap container).set key (.reference heap.length))

section Copied

variable {key : Key} {identity : Nat}

theorem length_copied : (copied heap container key identity).length = heap.length + 1 := by
  simp [copied]

theorem closed_copied (closed : Closed heap) :
    Closed (copied heap container key identity) := by
  refine ContainerHeap.Closed.set (ContainerHeap.Closed.append closed ?_) ?_
  · intro child member
    exact (closed.lt_of_mem (mem_references_of_clone member)).le
  · intro child member
    rw [List.length_append]
    rcases mem_references_of_set member with old | new
    · exact Nat.lt_succ_of_lt (closed.lt_of_mem old)
    · rw [List.mem_singleton.mp new]
      exact Nat.lt_succ_self _

theorem sameFrom_copied (closed : Closed heap) (root : canonical < heap.length)
    (apart : ¬ Reachable heap canonical container) :
    SameFrom canonical heap (copied heap container key identity) := by
  have allocated := ContainerHeap.SameFrom.append closed root [(Heap.container heap identity).clone]
  refine allocated.trans (ContainerHeap.SameFrom.set ?_ _)
  exact fun reachable => apart (allocated.reachable_iff.mp reachable)

theorem container_copied_length (inside : container < heap.length) :
    Heap.container (copied heap container key identity) heap.length =
      (Heap.container heap identity).clone := by
  rw [copied, container_set_ne (by omega), container_append_length]

theorem container_copied_self (inside : container < heap.length) :
    Heap.container (copied heap container key identity) container =
      (Heap.container heap container).set key (.reference heap.length) := by
  rw [copied, container_set_self (by rw [List.length_append]; omega)]

theorem container_copied {held : Nat} (inside : held < heap.length) (different : held ≠ container) :
    Heap.container (copied heap container key identity) held = Heap.container heap held := by
  rw [copied, container_set_ne different, container_append inside]

theorem copies_copied (closed : Closed heap) (inside : container < heap.length)
    (found : (Heap.container heap container).get key = .reference identity) :
    Copies heap (copied heap container key identity) [identity]
      (fun held => if held = heap.length then identity else held) where
  old := fun held early => if_neg (by omega)
  fresh := by
    intro held late early
    rw [length_copied] at early
    rw [if_pos (by omega)]
    exact List.mem_singleton_self identity
  same := by
    have fixed : ∀ held, ∀ child ∈ (Heap.container heap held).references,
        (fun held => if held = heap.length then identity else held) child = child :=
      fun held child member => if_neg (closed.lt_of_mem member).ne
    intro held early
    rw [length_copied] at early
    by_cases isCopy : held = heap.length
    · rw [if_pos isCopy, isCopy, container_copied_length inside, clone_clone,
        ← clone_rename, rename_eq_self (fixed identity)]
    · rw [if_neg isCopy, ← clone_rename]
      by_cases isHolder : held = container
      · rw [isHolder, container_copied_self inside, rename_set,
          rename_eq_self (fixed container), Value.rename, if_pos rfl,
          set_of_get found]
      · rw [container_copied (by omega) isHolder, rename_eq_self (fixed held)]

theorem ChangedAlong.through_copy {identities : List Nat} {path : List Key} {changed : Heap}
    {last : Nat} (closed : Closed heap) (root : canonical < heap.length)
    (inside : container < heap.length) (apart : ¬ Reachable heap canonical container)
    (found : (Heap.container heap container).get key = .reference identity)
    (allocated : ∀ held ∈ identities, held < heap.length)
    (nodup : (container :: identity :: identities).Nodup)
    (after : ChangedAlong canonical (copied heap container key identity) heap.length identities
      path changed last) :
    ChangedAlong canonical heap container (identity :: identities) (key :: path) changed last := by
  have notLater : container ∉ identities := fun member =>
    (List.nodup_cons.mp nodup).1 (List.mem_cons_of_mem identity member)
  have fresh : ∀ held < heap.length, held ∉ identities → held ∉ heap.length :: identities := by
    intro held old notMember member
    rcases List.mem_cons.mp member with rfl | later
    · exact Nat.lt_irrefl _ old
    · exact notMember later
  refine
    { same := (sameFrom_copied closed root apart).trans after.same
      closed := after.closed
      longer := ?_
      inside := after.inside
      apart := after.apart
      content := ?_
      others := ?_
      place := ?_
      copies := ?_
      leads := ?_ }
  · have longer := after.longer
    rw [length_copied] at longer
    omega
  · rw [after.content]
    cases identities with
    | nil =>
      change (Heap.container (copied heap container key identity) heap.length).clone = _
      rw [container_copied_length inside, clone_clone]
      rfl
    | cons first rest =>
      have member : (first :: rest).getLastD heap.length ∈ first :: rest := List.getLast_mem _
      have different : (first :: rest).getLastD heap.length ≠ container := by
        intro equal
        rw [equal] at member
        exact notLater member
      rw [container_copied (allocated _ member) different]
      rfl
  · intro held old notOnPath
    have notContainer : held ≠ container := fun equal => notOnPath (equal ▸ List.mem_cons_self)
    have notMember : held ∉ identities := fun member =>
      notOnPath (List.mem_cons_of_mem _ (List.mem_cons_of_mem _ member))
    rw [after.others held (by rw [length_copied]; omega) (fresh held old notMember),
      container_copied old notContainer]
  · rcases after.place with copy | later | further
    · exact .inr (.inr copy.ge)
    · exact .inr (.inl (List.mem_cons_of_mem _ later))
    · rw [length_copied] at further
      exact .inr (.inr (by omega))
  · rcases after.copies with ⟨source, copies⟩
    exact ⟨_, .trans (by rw [length_copied]; omega) allocated
      (copies_copied closed inside found) copies⟩
  · intro later agree
    have notLast : container ≠ last := by
      rintro rfl
      rcases after.place with copy | member | further
      · omega
      · exact notLater member
      · rw [length_copied] at further
        omega
    have here : Heap.container changed container =
        (Heap.container heap container).set key (.reference heap.length) := by
      rw [after.others container (by rw [length_copied]; omega) (fresh container inside notLater),
        container_copied_self inside]
    rw [valueFrom, property, agree container notLast, here, get_set_of_found found]
    exact after.leads later agree

end Copied

theorem ChangedAlong.through_own {key : Key} {identity : Nat} {identities : List Nat}
    {path : List Key} {changed : Heap} {last : Nat} (inside : container < heap.length)
    (found : (Heap.container heap container).get key = .reference identity)
    (nodup : (container :: identity :: identities).Nodup)
    (after : ChangedAlong canonical heap identity identities path changed last) :
    ChangedAlong canonical heap container (identity :: identities) (key :: path) changed last where
  same := after.same
  closed := after.closed
  longer := after.longer
  inside := after.inside
  apart := after.apart
  content := by
    rw [after.content]
    cases identities with
    | nil => rfl
    | cons first rest => rfl
  others := by
    intro held old notOnPath
    exact after.others held old fun member => notOnPath (List.mem_cons_of_mem _ member)
  place := by
    rcases after.place with rfl | later | further
    · exact .inr (.inl List.mem_cons_self)
    · exact .inr (.inl (List.mem_cons_of_mem _ later))
    · exact .inr (.inr further)
  copies := by
    rcases after.copies with ⟨source, copies⟩
    exact ⟨source,
      { old := copies.old
        fresh := fun held late early => List.mem_cons_of_mem _ (copies.fresh held late early)
        same := copies.same }⟩
  leads := by
    intro later agree
    have notLast : container ≠ last := by
      rintro rfl
      rcases after.place with rfl | member | further
      · exact (List.nodup_cons.mp nodup).1 List.mem_cons_self
      · exact (List.nodup_cons.mp nodup).1 (List.mem_cons_of_mem _ member)
      · omega
    rw [valueFrom, property, agree container notLast,
      after.others container inside (List.nodup_cons.mp nodup).1, found]
    exact after.leads later agree

theorem changeAlong_spec {path : List Key} {places : List (Nat × Value)}
    (closed : Closed heap) (root : canonical < heap.length)
    (inside : container < heap.length) (apart : ¬ Reachable heap canonical container)
    (known : ∀ held, original = .reference held → Reachable heap canonical held)
    (along : containersAlong heap container original path = some places)
    (keepApart : KeepApart canonical heap places)
    (nodup : (container :: places.map Prod.fst).Nodup) :
    ∃ changed last, changeAlong heap container original path = some (changed, last) ∧
      ChangedAlong canonical heap container (places.map Prod.fst) path changed last := by
  induction path generalizing heap container original places with
  | nil =>
    rw [← Option.some.inj along]
    exact ⟨heap, container, rfl,
      { same := .refl heap
        closed := closed
        longer := Nat.le_refl _
        inside := inside
        apart := apart
        content := rfl
        others := fun _ _ _ => rfl
        place := .inl rfl
        copies := ⟨id, .refl heap []⟩
        leads := fun _ _ => rfl }⟩
  | cons key path induction =>
    rw [containersAlong] at along
    cases found : (Heap.container heap container).get key with
    | scalar value =>
      rw [found] at along
      cases along
    | reference identity =>
      rw [found] at along
      rcases Option.map_eq_some_iff.mp along with ⟨further, below, rfl⟩
      have further_lt := lt_of_containersAlong closed below
      have allocated : ∀ held ∈ further.map Prod.fst, held < heap.length := by
        intro held member
        rcases List.mem_map.mp member with ⟨place, isPlace, rfl⟩
        exact further_lt place isPlace
      have knownNext : ∀ held, property heap original key = .reference held →
          Reachable heap canonical held := fun held => reachable_of_property known
      have apartFurther : KeepApart canonical heap further :=
        fun place member => keepApart place (List.mem_cons_of_mem _ member)
      rw [changeAlong, found]
      change ∃ changed last, (if property heap original key = .reference identity then
        changeAlong (copied heap container key identity) heap.length
          (property heap original key) path
        else changeAlong heap identity (property heap original key) path) = some (changed, last) ∧ _
      by_cases isOriginal : property heap original key = .reference identity
      · -- it is the original container, and its copy is the one to go on from
        have same : SameFrom canonical heap (copied heap container key identity) :=
          sameFrom_copied closed root apart
        have belowCopy : containersAlong (copied heap container key identity) heap.length
            (property heap original key) path = some further := by
          refine containersAlong_congr same knownNext ?_ ?_ below
          · rw [container_copied_length inside, clone_clone]
          · intro place member
            refine container_copied (further_lt place member) ?_
            rintro rfl
            exact (List.nodup_cons.mp nodup).1
              (List.mem_cons_of_mem identity (List.mem_map_of_mem member))
        have nodupCopy : (heap.length :: further.map Prod.fst).Nodup :=
          List.nodup_cons.mpr ⟨fun member => Nat.lt_irrefl _ (allocated _ member),
            (List.nodup_cons.mp (List.nodup_cons.mp nodup).2).2⟩
        rw [if_pos isOriginal]
        rcases induction (closed_copied closed) (by rw [length_copied]; omega)
            (by rw [length_copied]; omega)
            (fun reachable => not_reachable_length closed root (same.reachable_iff.mp reachable))
            (fun held equal => same.reachable (knownNext held equal)) belowCopy
            (apartFurther.of_sameFrom same) nodupCopy
          with ⟨changed, last, result, after⟩
        exact ⟨changed, last, result,
          after.through_copy closed root inside apart found allocated nodup⟩
      · have unreached : ¬ Reachable heap canonical identity :=
          (keepApart _ List.mem_cons_self).resolve_left isOriginal
        rw [if_neg isOriginal]
        rcases induction closed root (closed.lt_of_mem (mem_references_of_get found))
            unreached knownNext below apartFurther (List.nodup_cons.mp nodup).2
          with ⟨changed, last, result, after⟩
        exact ⟨changed, last, result, after.through_own inside found nodup⟩

end ChangeAlong

/-! ## The root -/

theorem Container.get_set_struct (properties : List (String × Value)) (key other : Key)
    (value : Value) :
    ((struct properties).set key value).get other =
      if other.text = key.text then value else (struct properties).get other := by
  rw [set, get, get]
  by_cases same : other.text = key.text
  · rw [if_pos same, same, OrderedMap.lookup_setEntries_self]
    rfl
  · rw [if_neg same, OrderedMap.lookup_setEntries_of_ne value properties same]

theorem Container.get_of_text {container : Container} {key : Key} {identity : Nat}
    (found : container.get (.name key.text) = .reference identity) :
    container.get key = .reference identity := by
  cases container with
  | struct properties => exact found
  | list elements => cases found

namespace Working

open Heap

theorem get_copyMembers {old : Container} {key : Key} {identity : Nat} {names : List String}
    {properties : List (String × Value)}
    (found : (names.foldl (copyMember old) (.struct properties)).get key = .reference identity) :
    old.get (.name key.text) = .reference identity ∨
      (struct properties).get key = .reference identity := by
  induction names generalizing properties with
  | nil => exact .inr found
  | cons name names induction =>
    rcases induction found with done | before
    · exact .inl done
    · change ((struct properties).set (.name name) _).get key = _ at before
      rw [get_set_struct] at before
      by_cases same : key.text = (Key.name name).text
      · rw [if_pos same] at before
        rw [same]
        exact .inl before
      · rw [if_neg same] at before
        exact .inr before

theorem get_cloneRoot {typeDefaults : List (String × Scalar)} {memberNames : List String}
    {old : Container} {key : Key} {identity : Nat}
    (found : (cloneRoot typeDefaults memberNames old).get key = .reference identity) :
    old.get (.name key.text) = .reference identity := by
  rcases get_copyMembers found with done | default
  · exact done
  · rcases List.mem_flatMap.mp (mem_references_of_get default) with ⟨entry, member, isChild⟩
    rcases List.mem_map.mp member with ⟨original, -, rfl⟩
    cases isChild

theorem mem_references_of_copyMembers {old : Container} {child : Nat} {names : List String}
    {values : Container} (member : child ∈ (names.foldl (copyMember old) values).references) :
    child ∈ old.references ∨ child ∈ values.references := by
  induction names generalizing values with
  | nil => exact .inr member
  | cons name names induction =>
    rcases induction member with done | before
    · exact .inl done
    · rcases mem_references_of_set before with earlier | copied
      · exact .inr earlier
      · cases held : old.get (.name name) with
        | scalar value =>
          rw [held] at copied
          cases copied
        | reference identity =>
          rw [held] at copied
          rw [List.mem_singleton.mp copied]
          exact .inl (mem_references_of_get held)

theorem mem_references_of_cloneRoot {typeDefaults : List (String × Scalar)}
    {memberNames : List String} {old : Container} {child : Nat}
    (member : child ∈ (cloneRoot typeDefaults memberNames old).references) :
    child ∈ old.references := by
  rcases mem_references_of_copyMembers member with done | default
  · exact done
  · rcases List.mem_flatMap.mp default with ⟨entry, held, isChild⟩
    rcases List.mem_map.mp held with ⟨original, -, rfl⟩
    cases isChild

/-- The session's own values are the canonical ones or out of reach from them. -/
structure Sound (working : Working) : Prop where
  closed : Closed working.heap
  root : working.canonical < working.heap.length
  inside : working.values < working.heap.length
  apart : working.values = working.canonical ∨
    ¬ Reachable working.heap working.canonical working.values

structure Begun (working begun : Working) : Prop where
  canonical : begun.canonical = working.canonical
  same : SameFrom working.canonical working.heap begun.heap
  closed : Closed begun.heap
  longer : working.heap.length ≤ begun.heap.length
  inside : begun.values < begun.heap.length
  apart : ¬ Reachable begun.heap begun.canonical begun.values
  others : ∀ identity < working.heap.length,
    Heap.container begun.heap identity = Heap.container working.heap identity
  members : ∀ key identity, property begun.heap (.reference begun.values) key =
    .reference identity → property working.heap (.reference working.values) key =
      .reference identity

theorem beginWrite_begun {working : Working} (sound : working.Sound)
    (typeDefaults : List (String × Scalar)) (memberNames : List String) :
    Begun working (working.beginWrite typeDefaults memberNames) := by
  rw [beginWrite]
  by_cases shared : working.values = working.canonical
  · have same := ContainerHeap.SameFrom.append sound.closed sound.root
      [cloneRoot typeDefaults memberNames (Heap.container working.heap working.values)]
    rw [if_pos shared]
    refine
      { canonical := rfl
        same := same
        closed := ContainerHeap.Closed.append sound.closed fun child member =>
          (sound.closed.lt_of_mem (mem_references_of_cloneRoot member)).le
        longer := ?_
        inside := ?_
        apart := ?_
        others := fun identity inside => container_append inside _
        members := ?_ }
    · rw [List.length_append]
      omega
    · rw [List.length_append]
      exact Nat.lt_succ_self _
    · exact fun reachable => not_reachable_length sound.closed sound.root
        (same.reachable_iff.mp reachable)
    · intro key identity found
      rw [property, container_append_length] at found
      exact get_of_text (get_cloneRoot found)
  · rw [if_neg shared]
    exact
      { canonical := rfl
        same := .refl _
        closed := sound.closed
        longer := Nat.le_refl _
        inside := sound.inside
        apart := sound.apart.resolve_left shared
        others := fun _ _ => rfl
        members := fun _ _ found => found }

end Working

end MatterJs.Node
