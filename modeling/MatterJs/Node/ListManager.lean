import MatterJs.Node.ManagedReference

/-! What a managed list shows of its entries, with the indices of a fabric-filtered list mapped
to those of the list itself. -/

namespace MatterJs.Node

open General

/-- The session of the operation, as far as lists and structs read it -/
structure Session where
  fabric : Option Nat
  fabricFiltered : Bool
  offline : Bool
  acceptInvalid : Bool
  deriving DecidableEq

structure ListConfig where
  fabricScoped : Bool
  fabricSensitive : Bool
  manageEntries : Bool
  deriving DecidableEq

inductive ListError where
  | readError (message : String)
  | writeError (message : String)
  /-- A `WriteError` with `StatusCode.Failure` -/
  | failure (message : String)
  /-- The `TypeError` of reading a property of `null` -/
  | nullEntry
  /-- The `TypeError` of a reference whose value is no container -/
  | noContainer
  /-- What the validation throws -/
  | invalid
  deriving DecidableEq

namespace Value

def number (value : Nat) : Value :=
  scalar (.number (.finite (Decimal.normalize false value 0)))

/-- `!value` -/
def isFalsy : Value → Bool
  | scalar .undefined | scalar .null | scalar (.boolean false) => true
  | scalar (.number number) => number = .nan || number = .finite (Decimal.normalize false 0 0)
  | scalar (.string text) => text = ""
  | scalar (.bigint value) => value = 0
  | scalar (.boolean true) | scalar (.bytes _) | reference _ => false

/-- `===`, where a byte array is taken for every one with its content. -/
def strictEquals : Value → Value → Bool
  | scalar value, scalar other => value.strictEquals other
  | reference identity, reference other => identity = other
  | _, _ => false

end Value

namespace Heap

def isObject (heap : Heap) : Value → Bool
  | .reference identity =>
    match container heap identity with
    | .struct _ => true
    | .list _ => false
  | .scalar _ => false

def fabricIndex (heap : Heap) (entry : Value) : Value :=
  property heap entry (.name "fabricIndex")

end Heap

namespace Session

def fabricValue (session : Session) : Value :=
  session.fabric.elim .undefined .number

/-- The condition under which an object is in scope, in all places that map or count entries -/
def inScope (session : Session) (heap : Heap) (entry : Value) : Bool :=
  session.offline || (Heap.fabricIndex heap entry).isFalsy ||
    (Heap.fabricIndex heap entry).strictEquals session.fabricValue

/-- The entry is in scope, where the only condition on its type is `typeof entry === "object"`. -/
def mapsEntry (session : Session) (heap : Heap) : Value → Except ListError Bool
  | .scalar .null => if session.offline then .ok true else .error .nullEntry
  | .scalar (.bytes content) => .ok (session.inScope heap (.scalar (.bytes content)))
  | .scalar _ => .ok false
  | .reference identity => .ok (session.inScope heap (.reference identity))

end Session

namespace ListManager

def element (elements : List (Option Value)) (index : Nat) : Value :=
  (elements[index]?.getD none).getD .undefined

/-- What the loop over the entries ends with -/
inductive Scan where
  | found (position : Nat)
  | ended (nextPos : Nat)
  deriving DecidableEq

def scan (session : Session) (heap : Heap) (index : Int) :
    Nat → Nat → List (Option Value) → Except ListError Scan
  | _, nextPos, [] => .ok (.ended nextPos)
  | position, nextPos, entry :: entries =>
    match session.mapsEntry heap (entry.getD .undefined) with
    | .error error => .error error
    | .ok false => scan session heap index (position + 1) nextPos entries
    | .ok true =>
      if nextPos = index then .ok (.found position)
      else scan session heap index (position + 1) (nextPos + 1) entries

def mapScopedToActual (session : Session) (heap : Heap) (elements : List (Option Value))
    (index : Int) (reading : Bool) : Except ListError Nat :=
  if index < 0 then
    if reading then .error (.readError s!"Negative index {index} unsupported")
    else .error (.writeError s!"Negative index {index} unsupported")
  else
    match scan session heap index 0 0 elements with
    | .error error => .error error
    | .ok (.found position) => .ok position
    | .ok (.ended nextPos) =>
      if reading then
        .error (.readError s!"Index {index} extends beyond available entries")
      else if nextPos = index then .ok elements.length
      else .error (.writeError s!"Index {index} would leave gaps in fabric-filtered list")

/-- The condition under which the handlers of the proxy are those that map indices -/
def filtersByFabric (config : ListConfig) (session : Session) : Bool :=
  config.fabricScoped && (session.fabricFiltered || config.fabricSensitive)

section Views

variable (config : ListConfig) (session : Session) (heap : Heap) (elements : List (Option Value))

/-- An entry that is a container comes with a reference of its own, managed for the session. -/
def baseReadEntry (index : Int) : Except ListError Value :=
  if config.manageEntries then
    if index < 0 ∨ index ≥ elements.length then
      .error (.readError s!"Index {index} is out of bounds")
    else if index > 65535 then
      .error (.readError s!"Index {index} is greater than allowed maximum of 65535")
    else .ok (element elements index.toNat)
  else if index < 0 ∨ index > elements.length then
    .error (.writeError s!"Index {index} is out of bounds")
  else .ok (element elements index.toNat)

def readEntry (index : Int) : Except ListError Value :=
  if filtersByFabric config session then
    (mapScopedToActual session heap elements index true).bind fun position =>
      baseReadEntry config elements position
  else baseReadEntry config elements index

def hasEntry (index : Int) : Bool :=
  if filtersByFabric config session then
    match (mapScopedToActual session heap elements index true).bind fun position =>
      baseReadEntry config elements position with
    | .ok value => value ≠ .undefined
    | .error _ => false
  else decide (0 ≤ index ∧ element elements index.toNat ≠ .undefined)

def getListLength : Nat :=
  if filtersByFabric config session then
    elements.countP fun entry =>
      Heap.isObject heap (entry.getD .undefined) && session.inScope heap (entry.getD .undefined)
  else elements.length

/-- What `for ... of` visits -/
def iterated : List Value :=
  if filtersByFabric config session then
    (elements.map (·.getD .undefined)).filter fun entry =>
      !(Heap.isObject heap entry && !(Heap.fabricIndex heap entry).strictEquals session.fabricValue)
  else elements.map (·.getD .undefined)

/-- `Reflect.ownKeys` of an array -/
def reflectedKeys : List Key :=
  (elements.findIdxs fun entry => entry.isSome).map Key.index ++ [.name "length"]

def ownKeys : List Key :=
  if filtersByFabric config session then
    (reflectedKeys elements).filter fun key =>
      match key with
      | .name _ => true
      | .index index => index < getListLength config session heap elements
  else reflectedKeys elements

def getOwnPropertyDescriptor (index : Nat) : Except ListError (Option Value) :=
  if filtersByFabric config session then
    (mapScopedToActual session heap elements index true).map fun position =>
      elements[position]?.getD none
  else .ok (elements[index]?.getD none)

end Views

/-! ## Entries that are objects -/

section Entries

variable {config : ListConfig} {session : Session} {heap : Heap} {entries : List Value}

theorem mapsEntry_object {entry : Value} (object : Heap.isObject heap entry) :
    session.mapsEntry heap entry = .ok (session.inScope heap entry) := by
  cases entry with
  | scalar value => cases object
  | reference identity => rfl

theorem scan_eq (objects : ∀ entry ∈ entries, Heap.isObject heap entry)
    {index nextPos : Nat} (position : Nat) (reached : nextPos ≤ index) :
    scan session heap index position nextPos (entries.map some) =
      .ok (match (entries.findIdxs (session.inScope heap) position)[index - nextPos]? with
        | some actual => .found actual
        | none => .ended (nextPos + entries.countP (session.inScope heap))) := by
  induction entries generalizing position nextPos with
  | nil => rfl
  | cons entry entries induction =>
    have object := objects entry List.mem_cons_self
    have others : ∀ other ∈ entries, Heap.isObject heap other :=
      fun other member => objects other (List.mem_cons_of_mem entry member)
    rw [List.map_cons, scan, Option.getD_some, mapsEntry_object object, List.findIdxs_cons,
      List.countP_cons]
    cases inScope : session.inScope heap entry with
    | false =>
      exact induction others (position + 1) reached
    | true =>
      rw [if_pos rfl, if_pos rfl]
      by_cases target : nextPos = index
      · subst target
        simp
      · have further : nextPos + 1 ≤ index := by omega
        have before : index - nextPos = (index - (nextPos + 1)) + 1 := by omega
        have counted : nextPos + (entries.countP (session.inScope heap) + 1) =
            nextPos + 1 + entries.countP (session.inScope heap) := by omega
        have apart : ¬ (nextPos : Int) = index := by omega
        rw [before, counted]
        simp only [apart]
        exact induction others (position + 1) further

theorem mapScopedToActual_reading (objects : ∀ entry ∈ entries, Heap.isObject heap entry)
    (index : Nat) :
    mapScopedToActual session heap (entries.map some) index true =
      match (entries.findIdxs (session.inScope heap))[index]? with
      | some actual => .ok actual
      | none => .error (.readError s!"Index {(index : Int)} extends beyond available entries") := by
  have natural : ¬ (index : Int) < 0 := by omega
  rw [mapScopedToActual, scan_eq objects 0 (Nat.zero_le index)]
  cases (entries.findIdxs (session.inScope heap))[index]? with
  | none => rfl
  | some actual => rfl

theorem getElem?_inScope (index : Nat) :
    (entries.filter (session.inScope heap))[index]? =
      ((entries.findIdxs (session.inScope heap))[index]?).bind (entries[·]?) := by
  by_cases inside : index < (entries.filter (session.inScope heap)).length
  · have mapped : index < (entries.findIdxs (session.inScope heap)).length := by
      rw [List.length_findIdxs, List.countP_eq_length_filter]
      exact inside
    have found := List.getElem_findIdxs_lt mapped
    rw [List.getElem?_eq_getElem inside, List.getElem?_eq_getElem mapped, Option.bind_some,
      List.getElem?_eq_getElem (by omega),
      List.getElem_filter_eq_getElem_getElem_findIdxs inside]
  · have beyond : (entries.findIdxs (session.inScope heap)).length ≤ index := by
      rw [List.length_findIdxs, List.countP_eq_length_filter]
      omega
    rw [List.getElem?_eq_none (by omega), List.getElem?_eq_none beyond, Option.bind_none]

theorem element_map (index : Nat) :
    element (entries.map some) index = entries[index]?.getD .undefined := by
  rw [element, List.getElem?_map]
  cases entries[index]? with
  | none => rfl
  | some entry => rfl

end Entries

/-! ## The views of one list -/

/-- All views show the entries of the sequence, in order. -/
structure Describes (config : ListConfig) (session : Session) (heap : Heap)
    (elements : List (Option Value)) (sequence : List Value) : Prop where
  length : getListLength config session heap elements = sequence.length
  reads : ∀ index : Nat, (readEntry config session heap elements index).toOption = sequence[index]?
  has : ∀ index : Nat,
    hasEntry config session heap elements index = decide (index < sequence.length)
  keys : ownKeys config session heap elements =
    (List.range sequence.length).map Key.index ++ [.name "length"]
  iteration : iterated config session heap elements = sequence
  descriptors : ∀ index,
    (getOwnPropertyDescriptor config session heap elements index).toOption.join = sequence[index]?

def CarryFabricIndex (session : Session) (heap : Heap) (entries : List Value) : Prop :=
  ∀ entry ∈ entries, session.inScope heap entry →
    (Heap.fabricIndex heap entry).strictEquals session.fabricValue

def WithinLimit (config : ListConfig) (session : Session) (heap : Heap)
    (entries : List Value) : Prop :=
  config.manageEntries → ∀ (position : Nat) (entry : Value), entries[position]? = some entry →
    session.inScope heap entry → position ≤ 65535

section Views

variable {config : ListConfig} {session : Session} {heap : Heap} {entries : List Value}

theorem getListLength_inScope (filters : filtersByFabric config session)
    (objects : ∀ entry ∈ entries, Heap.isObject heap entry) :
    getListLength config session heap (entries.map some) =
      (entries.filter (session.inScope heap)).length := by
  rw [getListLength, if_pos filters, List.countP_map, ← List.countP_eq_length_filter]
  refine List.countP_congr fun entry member => ?_
  simp [objects entry member]

theorem iterated_objects (filters : filtersByFabric config session)
    (objects : ∀ entry ∈ entries, Heap.isObject heap entry) :
    iterated config session heap (entries.map some) =
      entries.filter fun entry =>
        (Heap.fabricIndex heap entry).strictEquals session.fabricValue := by
  rw [iterated, if_pos filters, List.map_map]
  have same : (fun entry : Option Value => entry.getD .undefined) ∘ some = id := rfl
  rw [same, List.map_id]
  refine List.filter_congr fun entry member => ?_
  rw [objects entry member, Bool.true_and, Bool.not_not]

theorem inScope_of_fabricIndex {entry : Value}
    (own : (Heap.fabricIndex heap entry).strictEquals session.fabricValue) :
    session.inScope heap entry := by
  rw [Session.inScope, own, Bool.or_true]

theorem iterated_eq_iff (filters : filtersByFabric config session)
    (objects : ∀ entry ∈ entries, Heap.isObject heap entry) :
    iterated config session heap (entries.map some) = entries.filter (session.inScope heap) ↔
      CarryFabricIndex session heap entries := by
  rw [iterated_objects filters objects]
  constructor
  · intro same entry member inScope
    have visited : entry ∈ entries.filter (session.inScope heap) :=
      List.mem_filter.mpr ⟨member, inScope⟩
    rw [← same] at visited
    exact (List.mem_filter.mp visited).2
  · intro carry
    refine List.filter_congr fun entry member => ?_
    rw [Bool.eq_iff_iff]
    exact ⟨inScope_of_fabricIndex, carry entry member⟩

theorem filter_range_lt {shorter longer : Nat} (le : shorter ≤ longer) :
    (List.range longer).filter (fun index => decide (index < shorter)) = List.range shorter := by
  have within := List.filter_eq_self.mpr fun index (member : index ∈ List.range shorter) =>
    decide_eq_true (List.mem_range.mp member)
  have beyond : ((List.range (longer - shorter)).map (shorter + ·)).filter
      (fun index => decide (index < shorter)) = [] := by
    rw [List.filter_eq_nil_iff]
    intro index member
    rcases List.mem_map.mp member with ⟨offset, -, rfl⟩
    simp
  rw [← Nat.add_sub_cancel' le, List.range_add, List.filter_append, within, beyond, List.append_nil]

theorem reflectedKeys_map (entries : List Value) :
    reflectedKeys (entries.map some) =
      (List.range entries.length).map Key.index ++ [.name "length"] := by
  have positions : ∀ (start : Nat) (values : List Value),
      values.findIdxs ((fun entry : Option Value => entry.isSome) ∘ some) start =
        List.range' start values.length := by
    intro start values
    induction values generalizing start with
    | nil => rfl
    | cons value values induction =>
      rw [List.findIdxs_cons, induction]
      rfl
  rw [reflectedKeys, List.findIdxs_map, positions, List.range_eq_range']

theorem ownKeys_objects (filters : filtersByFabric config session)
    (objects : ∀ entry ∈ entries, Heap.isObject heap entry) :
    ownKeys config session heap (entries.map some) =
      (List.range (entries.filter (session.inScope heap)).length).map Key.index ++
        [.name "length"] := by
  have shorter : (entries.filter (session.inScope heap)).length ≤ entries.length :=
    List.length_filter_le _ _
  rw [ownKeys, if_pos filters, getListLength_inScope filters objects, reflectedKeys_map,
    List.filter_append, List.filter_map]
  have below : (List.range entries.length).filter
      ((fun key => match key with
        | .name _ => true
        | .index index => decide (index < (entries.filter (session.inScope heap)).length)) ∘
          Key.index) =
      List.range (entries.filter (session.inScope heap)).length := filter_range_lt shorter
  rw [below]
  rfl

theorem getOwnPropertyDescriptor_objects (filters : filtersByFabric config session)
    (objects : ∀ entry ∈ entries, Heap.isObject heap entry) (index : Nat) :
    (getOwnPropertyDescriptor config session heap (entries.map some) index).toOption.join =
      (entries.filter (session.inScope heap))[index]? := by
  rw [getOwnPropertyDescriptor, if_pos filters, mapScopedToActual_reading objects, getElem?_inScope]
  cases (entries.findIdxs (session.inScope heap))[index]? with
  | none => rfl
  | some actual =>
    change ((entries.map some)[actual]?.getD none) = entries[actual]?
    rw [List.getElem?_map]
    cases entries[actual]? with
    | none => rfl
    | some entry => rfl

theorem baseReadEntry_found {actual : Nat} {entry : Value} (found : entries[actual]? = some entry) :
    (baseReadEntry config (entries.map some) actual).toOption =
      if config.manageEntries ∧ 65535 < actual then none else some entry := by
  have inside : actual < entries.length := (List.getElem?_eq_some_iff.mp found).1
  have value : element (entries.map some) actual = entry := by
    rw [element_map, found]
    rfl
  have natural : ¬ (actual : Int) < 0 := by omega
  rw [baseReadEntry, List.length_map, Int.toNat_natCast, value]
  have notBeyond : ¬ (actual : Int) ≥ entries.length := by omega
  have notAfter : ¬ (actual : Int) > entries.length := by omega
  by_cases managed : config.manageEntries
  · by_cases late : 65535 < actual
    · have tooLate : (actual : Int) > 65535 := by omega
      rw [if_pos managed, if_neg (not_or.mpr ⟨natural, notBeyond⟩), if_pos tooLate,
        if_pos ⟨managed, late⟩]
      rfl
    · have inTime : ¬ (actual : Int) > 65535 := by omega
      rw [if_pos managed, if_neg (not_or.mpr ⟨natural, notBeyond⟩), if_neg inTime,
        if_neg fun both => late both.2]
      rfl
  · rw [if_neg managed, if_neg (not_or.mpr ⟨natural, notAfter⟩), if_neg fun both => managed both.1]
    rfl

theorem readEntry_objects (filters : filtersByFabric config session)
    (objects : ∀ entry ∈ entries, Heap.isObject heap entry) (index : Nat) :
    (readEntry config session heap (entries.map some) index).toOption =
      ((entries.findIdxs (session.inScope heap))[index]?).bind fun actual =>
        if config.manageEntries ∧ 65535 < actual then none else entries[actual]? := by
  rw [readEntry, if_pos filters, mapScopedToActual_reading objects]
  cases mapped : (entries.findIdxs (session.inScope heap))[index]? with
  | none => rfl
  | some actual =>
    have inside := List.lt_add_of_mem_findIdxs actual (List.mem_of_getElem? mapped)
    have found : entries[actual]? = some entries[actual] := List.getElem?_eq_getElem inside
    rw [Option.bind_some, found]
    exact baseReadEntry_found found

theorem readEntry_eq_iff (filters : filtersByFabric config session)
    (objects : ∀ entry ∈ entries, Heap.isObject heap entry) :
    (∀ index : Nat, (readEntry config session heap (entries.map some) index).toOption =
      (entries.filter (session.inScope heap))[index]?) ↔
      WithinLimit config session heap entries := by
  constructor
  · intro reads managed position entry found inScope
    by_contra late
    have member : position ∈ entries.findIdxs (session.inScope heap) := by
      rcases List.getElem?_eq_some_iff.mp found with ⟨inside, rfl⟩
      exact (List.mem_findIdxs_iff_pos_getElem inside).mpr inScope
    rcases List.mem_iff_getElem?.mp member with ⟨index, mapped⟩
    have read := reads index
    rw [readEntry_objects filters objects, getElem?_inScope, mapped, Option.bind_some,
      Option.bind_some, if_pos ⟨managed, by omega⟩, found] at read
    cases read
  · intro within index
    rw [readEntry_objects filters objects, getElem?_inScope]
    cases mapped : (entries.findIdxs (session.inScope heap))[index]? with
    | none => rfl
    | some actual =>
      have member := List.mem_of_getElem? mapped
      have inside := List.lt_add_of_mem_findIdxs actual member
      have inScope := (List.mem_findIdxs_iff_pos_getElem inside).mp member
      have found : entries[actual]? = some entries[actual] := List.getElem?_eq_getElem inside
      rw [Option.bind_some, Option.bind_some, if_neg]
      rintro ⟨managed, late⟩
      have limit := within managed actual _ found inScope
      omega

theorem hasEntry_objects (filters : filtersByFabric config session)
    (objects : ∀ entry ∈ entries, Heap.isObject heap entry) (index : Nat) :
    hasEntry config session heap (entries.map some) index =
      (readEntry config session heap (entries.map some) index).toOption.isSome := by
  have read : _ = _ := @readEntry_objects config session heap entries filters objects index
  rw [hasEntry, if_pos filters]
  rw [readEntry, if_pos filters] at read ⊢
  cases result : (mapScopedToActual session heap (entries.map some) index true).bind
      fun position => baseReadEntry config (entries.map some) position with
  | error error => rfl
  | ok value =>
    rw [result] at read
    have known : value ∈ entries := by
      rcases Option.bind_eq_some_iff.mp read.symm with ⟨actual, -, found⟩
      by_cases late : config.manageEntries ∧ 65535 < actual
      · rw [if_pos late] at found
        cases found
      · rw [if_neg late] at found
        exact List.mem_of_getElem? found
    have defined : value ≠ .undefined := by
      rintro rfl
      cases objects _ known
    simp [defined, Except.toOption]

/-- Of the views of a list of objects, the iteration leaves out what comes without the session's
fabric index, and reads fail where positions are beyond the limit. -/
theorem describes_inScope_iff (config : ListConfig) (session : Session) (heap : Heap)
    (entries : List Value) (filters : filtersByFabric config session)
    (objects : ∀ entry ∈ entries, Heap.isObject heap entry) :
    Describes config session heap (entries.map some) (entries.filter (session.inScope heap)) ↔
      CarryFabricIndex session heap entries ∧ WithinLimit config session heap entries := by
  constructor
  · intro describes
    exact ⟨(iterated_eq_iff filters objects).mp describes.iteration,
      (readEntry_eq_iff filters objects).mp describes.reads⟩
  · rintro ⟨carry, within⟩
    have reads := (readEntry_eq_iff filters objects).mpr within
    exact
      { length := getListLength_inScope filters objects
        reads := reads
        has := by
          intro index
          rw [hasEntry_objects filters objects, reads, Bool.eq_iff_iff, isSome_getElem?,
            decide_eq_true_iff]
        keys := ownKeys_objects filters objects
        iteration := (iterated_eq_iff filters objects).mpr carry
        descriptors := getOwnPropertyDescriptor_objects filters objects }

end Views

/-- Entries of two fabrics, seen by the first -/
theorem describes_inScope_own :
    Describes ⟨true, false, true⟩ ⟨some 1, true, false, false⟩
      [.struct [("fabricIndex", .number 1)], .struct [("fabricIndex", .number 2)]]
      [some (.reference 0), some (.reference 1)]
      ([.reference 0, .reference 1].filter (Session.inScope ⟨some 1, true, false, false⟩
        [.struct [("fabricIndex", .number 1)], .struct [("fabricIndex", .number 2)]])) := by
  refine (describes_inScope_iff ⟨true, false, true⟩ ⟨some 1, true, false, false⟩
    [.struct [("fabricIndex", .number 1)], .struct [("fabricIndex", .number 2)]]
    [.reference 0, .reference 1] rfl (by decide)).mpr ⟨?_, ?_⟩
  · unfold CarryFabricIndex
    decide +kernel
  · intro _ position entry found _
    have inside : position < 2 := (List.getElem?_eq_some_iff.mp found).1
    omega

/-- An entry without a fabric index counts, is read and has a key, but is not visited. -/
theorem describes_inScope_false :
    ¬ Describes ⟨true, false, true⟩ ⟨some 1, true, false, false⟩ [.struct []] [some (.reference 0)]
      ([.reference 0].filter (Session.inScope ⟨some 1, true, false, false⟩ [.struct []])) := by
  intro describes
  have visited := describes.iteration
  revert visited
  decide +kernel

end ListManager

end MatterJs.Node
