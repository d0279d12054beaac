import MatterJs.Foundation.Execution
import MatterJs.Node.CopyOnWrite
import MatterJs.Node.ManagedWrites

/-! Writes that leave the canonical values alone, as long as no container that is written to is a
canonical one at another place. -/

namespace MatterJs.Node

open General ListManager ContainerHeap Heap

/-- What an operation may leave of the session's view: the canonical values are the same. -/
structure Isolated (before after : Working) : Prop where
  canonical : after.canonical = before.canonical
  same : Heap.SameFrom before.canonical before.heap after.heap
  longer : before.heap.length ≤ after.heap.length
  sound : after.Sound

namespace Isolated

variable {before middle after : Working}

theorem refl (sound : before.Sound) : Isolated before before where
  canonical := rfl
  same := .refl _
  longer := Nat.le_refl _
  sound := sound

theorem trans (first : Isolated before middle) (second : Isolated middle after) :
    Isolated before after where
  canonical := second.canonical.trans first.canonical
  same := by
    have same := second.same
    rw [first.canonical] at same
    exact first.same.trans same
  longer := first.longer.trans second.longer
  sound := second.sound

theorem put (first : Isolated before after) {identity : Nat} {container : Container}
    (apart : ¬ Heap.Reachable after.heap after.canonical identity)
    (known : ∀ child ∈ container.references, child < after.heap.length) :
    Isolated before (after.put identity container) := by
  have same : Heap.SameFrom after.canonical after.heap (after.put identity container).heap :=
    ContainerHeap.SameFrom.set apart container
  refine first.trans
    { canonical := rfl
      same := same
      longer := List.length_set.ge
      sound :=
        { closed := ContainerHeap.Closed.set first.sound.closed known
          root := first.sound.root.trans_eq List.length_set.symm
          inside := first.sound.inside.trans_eq List.length_set.symm
          apart := ?_ } }
  rcases first.sound.apart with shared | own
  · exact .inl shared
  · exact .inr fun reachable => own (same.reachable_iff.mp reachable)

theorem put_apart {identity other : Nat} {container : Container} {working : Working}
    (apart : ¬ Heap.Reachable working.heap working.canonical identity)
    (otherApart : ¬ Heap.Reachable working.heap working.canonical other) :
    ¬ Heap.Reachable (working.put other container).heap (working.put other container).canonical
      identity := by
  have same : Heap.SameFrom working.canonical working.heap (working.put other container).heap :=
    ContainerHeap.SameFrom.set otherApart container
  exact fun reachable => apart (same.reachable_iff.mp reachable)

end Isolated

/-! ## The condition -/

section Careful

variable (schema : StateSchema) (session : Session)

variable (working : Working) (path : List Key)

/-- Behind a path, from the session's own root, are containers that are apart: each is the
canonical one of that very place or no canonical one, and none is there twice. -/
def CarefulPath : Prop :=
  ∃ places, containersAlong (working.begin schema).heap (working.begin schema).values
      (.reference working.canonical) path = some places ∧
    KeepApart working.canonical (working.begin schema).heap places ∧
    ((working.begin schema).values :: places.map Prod.fst).Nodup

/-- What is assigned has been allocated. -/
def Known : Incoming → Prop
  | .raw value => ∀ identity ∈ value.references, identity < working.heap.length
  | .managed _ => True

/-- A fabric index is not added to a canonical container. -/
def CarefulStamp (incoming : Incoming) : Prop :=
  isObject working.heap (working.unwrap incoming) ∧
      (fabricIndex working.heap (working.unwrap incoming)).isNullish →
    match incoming with
    | .managed path => CarefulPath schema working path
    | .raw value => ∀ identity, value = .reference identity →
        ¬ Heap.Reachable working.heap working.canonical identity

def CarefulBaseWrite (index : Nat) : Prop :=
  index ≤ (working.elementsAt path).length + 1 → index ≤ 65535 → CarefulPath schema working path

/-- No entry is removed by an assignment of `undefined`. -/
def CarefulScopedWrite (index : Nat) (incoming : Incoming) : Prop :=
  if working.unwrap incoming = .undefined then
    ∀ position,
      mapScopedToActual session working.heap (working.elementsAt path) index false =
        .ok position → position = (working.elementsAt path).length
  else
    CarefulStamp schema working incoming ∧
      ∀ stamped position, stampFabricIndex schema session working incoming = (stamped, .ok ()) →
        mapScopedToActual session stamped.heap (stamped.elementsAt path) index false =
          .ok position → CarefulBaseWrite schema stamped path position

def CarefulLength (length : Nat) : Prop :=
  filtersByFabric (schema.listConfig path) session ∨ length ≤ 65535 →
    CarefulPath schema working path

def CarefulWrite (index : Nat) (incoming : Incoming) : Prop :=
  Known working incoming ∧
    if filtersByFabric (schema.listConfig path) session then
      CarefulScopedWrite schema session working path index incoming
    else CarefulBaseWrite schema working path index

/-- The condition on every round of the loop, and on the length at its end -/
def CarefulEntries (path : List Key) (source : Value) : Nat → Nat → Working → Prop
  | 0, _, _ => True
  | rounds + 1, index, working =>
    if index < (elements working.heap source).length then
      CarefulWrite schema session working path index
          (.raw (element (elements working.heap source) index)) ∧
        ∀ written, setEntry schema session working path index
            (.raw (element (elements working.heap source) index)) = (written, .ok ()) →
          CarefulEntries path source rounds (index + 1) written
    else CarefulLength schema session working path (elements working.heap source).length

def CarefulSet (name : String) (incoming : Incoming) : Prop :=
  CarefulPath schema working path ∧ Known working incoming ∧
    ∀ changed struct, working.change schema path = some (changed, struct) →
      (schema.listConfig (path ++ [.name name])).fabricScoped →
      isList changed.heap (changed.unwrap incoming) →
      isList changed.heap (property changed.heap (.reference struct) (.name name)) →
      CarefulEntries schema session (path ++ [.name name]) (changed.unwrap incoming) 65537 0 changed

def Careful : Operation → Prop
  | .create container => ∀ child ∈ container.references, child < working.heap.length
  | .setProperty path name incoming => CarefulSet schema session working path name incoming
  | .setEntry path index incoming => CarefulWrite schema session working path index incoming
  | .deleteEntry path index =>
    CarefulWrite schema session working path index (.raw .undefined)
  | .setListLength path length => CarefulLength schema session working path length

end Careful

section Operations

variable {schema : StateSchema} {session : Session} {working : Working} {path : List Key}

theorem begin_begun (schema : StateSchema) (sound : working.Sound) :
    Working.Begun working (working.begin schema) :=
  Working.beginWrite_begun sound schema.typeDefaults schema.memberNames

theorem begin_isolated (sound : working.Sound) : Isolated working (working.begin schema) := by
  have begun := begin_begun schema sound
  exact
    { canonical := begun.canonical
      same := begun.same
      longer := begun.longer
      sound :=
        { closed := begun.closed
          root := begun.canonical ▸ sound.root.trans_le begun.longer
          inside := begun.inside
          apart := .inr begun.apart } }

theorem change_spec (sound : working.Sound) (careful : CarefulPath schema working path) :
    ∃ places changed last,
      containersAlong (working.begin schema).heap (working.begin schema).values
        (.reference working.canonical) path = some places ∧
      working.change schema path = some ({ working.begin schema with heap := changed }, last) ∧
      ChangedAlong working.canonical (working.begin schema).heap (working.begin schema).values
        (places.map Prod.fst) path changed last := by
  have begun := begin_begun schema sound
  rcases careful with ⟨places, along, keepApart, nodup⟩
  have apart := begun.apart
  rw [begun.canonical] at apart
  have known : ∀ held, Value.reference working.canonical = .reference held →
      Heap.Reachable (working.begin schema).heap working.canonical held := by
    intro held equal
    cases equal
    exact .root
  rcases changeAlong_spec begun.closed (sound.root.trans_le begun.longer) begun.inside apart
    known along keepApart nodup with ⟨changed, last, result, after⟩
  refine ⟨places, changed, last, along, ?_, after⟩
  rw [Working.change, result]
  rfl

theorem change_isolated (sound : working.Sound) (careful : CarefulPath schema working path) :
    ∃ changed last, working.change schema path = some (changed, last) ∧
      Isolated working changed ∧ last < changed.heap.length ∧
      ¬ Heap.Reachable changed.heap changed.canonical last := by
  have begun := begin_begun schema sound
  rcases change_spec sound careful with ⟨places, changed, last, -, result, after⟩
  have apart := begun.apart
  rw [begun.canonical] at apart
  refine ⟨_, last, result, ?_, after.inside, ?_⟩
  · refine (begin_isolated sound).trans
      { canonical := rfl
        same := ?_
        longer := after.longer
        sound :=
          { closed := after.closed
            root := ?_
            inside := begun.inside.trans_le after.longer
            apart := .inr ?_ } }
    · rw [begun.canonical]
      exact after.same
    · change (working.begin schema).canonical < changed.length
      rw [begun.canonical]
      exact sound.root.trans_le (begun.longer.trans after.longer)
    · change ¬ Heap.Reachable changed (working.begin schema).canonical _
      rw [begun.canonical]
      exact fun reachable => apart (after.same.reachable_iff.mp reachable)
  · change ¬ Heap.Reachable changed (working.begin schema).canonical _
    rw [begun.canonical]
    exact after.apart

variable {heap : Heap} {value : Value} {incoming : Incoming} {name : String} {index length : Nat}
  {elements : List (Option Value)}

theorem valueFrom_lt {identity : Nat} (closed : Heap.Closed heap)
    (known : ∀ held, value = .reference held → held < heap.length)
    (found : valueFrom heap value path = .reference identity) : identity < heap.length := by
  induction path generalizing value with
  | nil => exact known identity found
  | cons key path induction =>
    refine induction ?_ found
    intro held equal
    cases value with
    | scalar value => cases equal
    | reference holder => exact closed.lt_of_mem (Container.mem_references_of_get equal)

theorem unwrap_lt (sound : working.Sound) (known : Known working incoming) :
    ∀ identity ∈ (working.unwrap incoming).references, identity < working.heap.length := by
  intro identity member
  cases incoming with
  | raw value => exact known identity member
  | managed path =>
    cases found : working.unwrap (.managed path) with
    | scalar value =>
      rw [found] at member
      cases member
    | reference held =>
      rw [found] at member
      rw [List.mem_singleton.mp member]
      refine valueFrom_lt sound.closed ?_ found
      rintro _ ⟨⟩
      exact sound.inside

theorem property_lt (closed : Heap.Closed heap) (value : Value) (key : Key) :
    ∀ identity ∈ (property heap value key).references, identity < heap.length := by
  intro identity member
  cases found : property heap value key with
  | scalar value =>
    rw [found] at member
    cases member
  | reference held =>
    rw [found] at member
    rw [List.mem_singleton.mp member]
    cases value with
    | scalar value => cases found
    | reference holder => exact closed.lt_of_mem (Container.mem_references_of_get found)

theorem set_lt (closed : Heap.Closed heap) (identity : Nat) (key : Key)
    (known : ∀ held ∈ value.references, held < heap.length) :
    ∀ child ∈ ((container heap identity).set key value).references, child < heap.length := by
  intro child member
  rcases Container.mem_references_of_set member with old | new
  · exact closed.lt_of_mem old
  · exact known child new

theorem elements_lt (closed : Heap.Closed heap) {held : Value}
    (member : some held ∈ Heap.elements heap value) :
    ∀ identity ∈ held.references, identity < heap.length := by
  intro identity isReference
  cases value with
  | scalar value => cases member
  | reference list =>
    rw [Heap.elements] at member
    cases found : Heap.container heap list with
    | struct properties =>
      rw [found] at member
      cases member
    | list elements =>
      rw [found] at member
      have isChild : identity ∈ (Heap.container heap list).references := by
        rw [found]
        exact Container.mem_references_list.mpr ⟨held, member, isReference⟩
      exact closed.lt_of_mem isChild

theorem validateProperty_isolated {before assigned : Working} {struct : Nat} {oldValue : Value}
    (isolated : Isolated before assigned)
    (apart : ¬ Heap.Reachable assigned.heap assigned.canonical struct)
    (known : ∀ identity ∈ oldValue.references, identity < assigned.heap.length) :
    Isolated before
      (validateProperty schema session path struct name oldValue value assigned).1 := by
  rw [validateProperty]
  by_cases valid : session.acceptInvalid ||
      schema.validate (path ++ [.name name]) assigned.heap (container assigned.heap struct) value
  · rw [if_pos valid]
    exact isolated
  · rw [if_neg valid]
    exact isolated.put apart (set_lt isolated.sound.closed struct (.name name) known)

theorem assignProperty_isolated (sound : working.Sound) (careful : CarefulPath schema working path)
    (known : Known working incoming) :
    Isolated working (assignProperty schema session working path name incoming).1 := by
  rcases change_isolated sound careful with ⟨changed, struct, result, isolated, -, apart⟩
  have knownThen : Known changed incoming := by
    cases incoming with
    | raw value => exact fun identity member => (known identity member).trans_le isolated.longer
    | managed path => trivial
  rw [assignProperty, result]
  refine validateProperty_isolated (isolated.put apart
    (set_lt isolated.sound.closed struct (.name name) (unwrap_lt isolated.sound knownThen)))
    (Isolated.put_apart apart apart) ?_
  intro identity member
  exact (property_lt sound.closed _ _ identity member).trans_le
    (isolated.longer.trans List.length_set.ge)

theorem baseWriteEntry_isolated (sound : working.Sound)
    (careful : CarefulBaseWrite schema working path index) (known : Known working incoming) :
    Isolated working (baseWriteEntry schema working path index incoming).1 := by
  rw [baseWriteEntry]
  by_cases beyond : index > (working.elementsAt path).length + 1
  · rw [if_pos beyond]
    exact .refl sound
  · by_cases late : index > 65535
    · rw [if_neg beyond, if_pos late]
      exact .refl sound
    · rcases change_isolated sound (careful (by omega) (by omega))
        with ⟨changed, list, result, isolated, -, apart⟩
      rw [if_neg beyond, if_neg late, result]
      refine isolated.put apart (set_lt isolated.sound.closed list (.index index) ?_)
      intro identity member
      exact (unwrap_lt sound known identity member).trans_le isolated.longer

theorem fabricValue_references (session : Session) : session.fabricValue.references = [] := by
  rw [Session.fabricValue]
  cases session.fabric with
  | none => rfl
  | some fabric => rfl

theorem stampFabricIndex_isolated (session : Session) (sound : working.Sound)
    (careful : CarefulStamp schema working incoming) :
    Isolated working (stampFabricIndex schema session working incoming).1 := by
  have noReference : ∀ identity ∈ session.fabricValue.references,
      identity < working.heap.length := by
    rw [fabricValue_references]
    simp
  rw [stampFabricIndex]
  by_cases isNull : working.unwrap incoming = .scalar .null
  · rw [if_pos isNull]
    exact .refl sound
  · rw [if_neg isNull]
    by_cases missing : isObject working.heap (working.unwrap incoming) ∧
        (fabricIndex working.heap (working.unwrap incoming)).isNullish
    · rw [if_pos missing]
      have allowed := careful missing
      cases incoming with
      | managed path => exact assignProperty_isolated sound allowed noReference
      | raw value =>
        cases value with
        | scalar value => exact .refl sound
        | reference identity =>
          exact (Isolated.refl sound).put (allowed identity rfl)
            (set_lt sound.closed identity (.name "fabricIndex") noReference)
    · rw [if_neg missing]
      exact .refl sound

theorem Known.of_longer {after : Working} (known : Known working incoming)
    (longer : working.heap.length ≤ after.heap.length) : Known after incoming := by
  cases incoming with
  | raw value => exact fun identity member => (known identity member).trans_le longer
  | managed path => trivial

theorem put_container (working : Working) (identity : Nat) :
    working.put identity (container working.heap identity) = working := by
  have unchanged : working.heap.set identity (container working.heap identity) =
      working.heap := by
    by_cases inside : identity < working.heap.length
    · rw [container, List.getElem?_eq_getElem inside, Option.getD_some, List.set_getElem_self]
    · rw [List.set_eq_of_length_le (by omega)]
  rw [Working.put, unchanged]

/-- Nothing is removed behind the end. -/
theorem spliceEntry_length :
    spliceEntry working path (working.elementsAt path).length = working := by
  rw [spliceEntry, Working.elementsAt]
  cases working.valueAt path with
  | scalar value => rfl
  | reference list =>
    cases found : Heap.container working.heap list with
    | struct properties => simp [found]
    | list elements =>
      simp only [Heap.elements, found]
      rw [List.eraseIdx_of_length_le (Nat.le_refl _), ← found, put_container]

theorem writeScopedEntry_isolated (sound : working.Sound)
    (careful : CarefulScopedWrite schema session working path index incoming)
    (known : Known working incoming) :
    Isolated working (writeScopedEntry schema session working path index incoming).1 := by
  rw [CarefulScopedWrite] at careful
  rw [writeScopedEntry]
  by_cases removes : working.unwrap incoming = .undefined
  · rw [if_pos removes] at careful ⊢
    cases mapped : mapScopedToActual session working.heap (working.elementsAt path) index false with
    | error error => exact .refl sound
    | ok position =>
      rw [careful position mapped]
      change Isolated working (spliceEntry working path (working.elementsAt path).length)
      rw [spliceEntry_length]
      exact .refl sound
  · rw [if_neg removes] at careful ⊢
    cases (working.unwrap incoming).isTypeofObject with
    | false => exact .refl sound
    | true =>
      have stamping := stampFabricIndex_isolated session sound careful.1
      rcases stamped : stampFabricIndex schema session working incoming with ⟨state, outcome⟩
      rw [stamped] at stamping
      cases outcome with
      | error error => exact stamping
      | ok done =>
        dsimp only
        cases mapped : mapScopedToActual session state.heap (state.elementsAt path) index
            false with
        | error error => exact stamping
        | ok position =>
          exact stamping.trans (baseWriteEntry_isolated stamping.sound
            (careful.2 state position stamped mapped) (known.of_longer stamping.longer))

theorem setEntry_isolated (sound : working.Sound)
    (careful : CarefulWrite schema session working path index incoming) :
    Isolated working (writeEntry schema session working path index incoming).1 ∧
      Isolated working (setEntry schema session working path index incoming).1 := by
  have written : Isolated working (writeEntry schema session working path index incoming).1 := by
    have allowed := careful.2
    rw [writeEntry]
    by_cases filters : filtersByFabric (schema.listConfig path) session
    · rw [if_pos filters] at allowed ⊢
      exact writeScopedEntry_isolated sound allowed careful.1
    · rw [if_neg filters] at allowed ⊢
      exact baseWriteEntry_isolated sound allowed careful.1
  refine ⟨written, ?_⟩
  rw [setEntry]
  by_cases valid : schema.validateEntry path working.heap (working.unwrap incoming)
  · rw [if_pos valid]
    exact written
  · rw [if_neg valid]
    exact .refl sound

theorem removeScoped_succ (session : Session) (heap : Heap) (length index : Nat)
    (elements : List (Option Value)) :
    (∃ outcome, removeScoped session heap length (index + 1) elements = (elements, outcome)) ∨
    (∃ actual, mapScopedToActual session heap elements index false = .ok actual ∧
      (∃ position, mapScopedToActual session heap elements index true = .ok position) ∧
      removeScoped session heap length (index + 1) elements =
        removeScoped session heap length index (elements.eraseIdx actual)) ∨
    removeScoped session heap length (index + 1) elements =
      removeScoped session heap length index elements := by
  rw [removeScoped]
  by_cases done : index < length
  · rw [if_pos done]
    exact .inl ⟨_, rfl⟩
  · rw [if_neg done]
    cases mapped : mapScopedToActual session heap elements index true with
    | error error => exact .inl ⟨_, rfl⟩
    | ok position =>
      dsimp only
      cases session.mapsEntry heap (element elements position) with
      | error error => exact .inl ⟨_, rfl⟩
      | ok maps =>
        cases maps with
        | true =>
          cases removed : mapScopedToActual session heap elements index false with
          | error error => exact .inl ⟨_, rfl⟩
          | ok actual => exact .inr (.inl ⟨actual, rfl, ⟨position, rfl⟩, rfl⟩)
        | false =>
          by_cases defined : element elements position ≠ .undefined
          · exact .inl ⟨_, if_pos defined⟩
          · exact .inr (.inr (if_neg defined))

theorem mem_of_removeScoped {formerLength : Nat}
    (member : some value ∈ (removeScoped session heap length formerLength elements).1) :
    some value ∈ elements := by
  induction formerLength generalizing elements with
  | zero => exact member
  | succ index induction =>
    rcases removeScoped_succ session heap length index elements with
      ⟨outcome, ended⟩ | ⟨actual, -, -, removed⟩ | kept
    · rw [ended] at member
      exact member
    · rw [removed] at member
      exact List.mem_of_mem_eraseIdx (induction member)
    · rw [kept] at member
      exact induction member

theorem mem_of_resize (member : some value ∈ resize elements length) : some value ∈ elements := by
  rcases List.mem_append.mp member with early | hole
  · exact List.mem_of_mem_take early
  · cases (List.mem_replicate.mp hole).2

theorem list_lt (closed : Heap.Closed heap)
    (sub : ∀ held, some held ∈ elements → some held ∈ Heap.elements heap value) :
    ∀ child ∈ (Container.list elements).references, child < heap.length := by
  intro child member
  rcases Container.mem_references_list.mp member with ⟨held, isElement, isReference⟩
  exact elements_lt closed (sub held isElement) child isReference

theorem setListLength_isolated (sound : working.Sound)
    (careful : CarefulLength schema session working path length) :
    Isolated working (setListLength schema session working path length).1 := by
  rw [setListLength]
  by_cases filters : filtersByFabric (schema.listConfig path) session
  · rcases change_isolated sound (careful (.inl filters))
      with ⟨changed, list, result, isolated, -, apart⟩
    rw [if_pos filters, result]
    exact isolated.put apart
      (list_lt isolated.sound.closed fun held member => mem_of_removeScoped member)
  · rw [if_neg filters]
    by_cases late : length > 65535
    · rw [if_pos late]
      exact .refl sound
    · rcases change_isolated sound (careful (.inr (by omega)))
        with ⟨changed, list, result, isolated, -, apart⟩
      rw [if_neg late, result]
      exact isolated.put apart
        (list_lt isolated.sound.closed fun held member => mem_of_resize member)

/-! ## Established lists -/

theorem assignEntries_isolated {source : Value} {rounds : Nat} (sound : working.Sound)
    (careful : CarefulEntries schema session path source rounds index working) :
    Isolated working (assignEntries schema session path source rounds index working).1 := by
  induction rounds generalizing index working with
  | zero => exact .refl sound
  | succ rounds induction =>
    rw [CarefulEntries] at careful
    rw [assignEntries]
    by_cases inside : index < (elements working.heap source).length
    · rw [if_pos inside] at careful ⊢
      have first := (setEntry_isolated sound careful.1).2
      rcases written : setEntry schema session working path index
          (.raw (element (elements working.heap source) index)) with ⟨state, outcome⟩
      rw [written] at first
      cases outcome with
      | error error => exact first
      | ok done => exact first.trans (induction first.sound (careful.2 state written))
    · rw [if_neg inside] at careful ⊢
      exact setListLength_isolated sound careful

theorem change_unreached {changed after : Working} {last : Nat}
    (isolated : Isolated changed after)
    (apart : ¬ Heap.Reachable changed.heap changed.canonical last) :
    ¬ Heap.Reachable after.heap after.canonical last := by
  rw [isolated.canonical]
  exact fun reachable => apart (isolated.same.reachable_iff.mp reachable)

theorem setProperty_isolated (sound : working.Sound)
    (careful : CarefulSet schema session working path name incoming) :
    Isolated working (setProperty schema session working path name incoming).1 := by
  rcases careful with ⟨carefulPath, known, carefulEntries⟩
  rcases change_isolated sound carefulPath with ⟨changed, struct, result, isolated, -, apart⟩
  rw [setProperty, result]
  dsimp only
  by_cases established : (schema.listConfig (path ++ [.name name])).fabricScoped ∧
      isList changed.heap (changed.unwrap incoming) ∧
      isList changed.heap (property changed.heap (.reference struct) (.name name))
  · rw [if_pos established]
    have entries := assignEntries_isolated isolated.sound
      (carefulEntries changed struct result established.1 established.2.1 established.2.2)
    rcases assigned : assignEntries schema session (path ++ [.name name])
        (changed.unwrap incoming) 65537 0 changed with ⟨state, outcome⟩
    rw [assigned] at entries ⊢
    cases outcome with
    | error error => exact isolated.trans entries
    | ok done =>
      refine validateProperty_isolated (isolated.trans entries)
        (change_unreached entries apart) ?_
      intro identity member
      exact (property_lt sound.closed _ _ identity member).trans_le
        (isolated.longer.trans entries.longer)
  · rw [if_neg established]
    exact assignProperty_isolated sound carefulPath known

/-- An operation whose condition holds leaves the canonical values as they are. -/
theorem perform_isolated (sound : working.Sound) {operation : Operation}
    (careful : Careful schema session working operation) :
    Isolated working (perform schema session working operation) := by
  cases operation with
  | create container =>
    have same := ContainerHeap.SameFrom.append sound.closed sound.root [container]
    have longer : working.heap.length ≤ (working.heap ++ [container]).length := by
      rw [List.length_append]
      omega
    exact
      { canonical := rfl
        same := same
        longer := longer
        sound :=
          { closed := ContainerHeap.Closed.append sound.closed fun child member =>
              (careful child member).le
            root := sound.root.trans_le longer
            inside := sound.inside.trans_le longer
            apart := by
              rcases sound.apart with shared | own
              · exact .inl shared
              · exact .inr fun reachable => own (same.reachable_iff.mp reachable) } }
  | setProperty path name incoming => exact setProperty_isolated sound careful
  | setEntry path index incoming => exact (setEntry_isolated sound careful).2
  | deleteEntry path index => exact (setEntry_isolated sound careful).1
  | setListLength path length => exact setListLength_isolated sound careful

theorem run_isolated (sound : working.Sound) {operations : List Operation}
    (along : Execution.Along (perform schema session) (Careful schema session) working operations) :
    Isolated working (Execution.run (perform schema session) working operations) := by
  refine Execution.run_invariant_along (fun state => Isolated working state) ?_ (.refl sound) along
  intro state operation careful isolated
  exact isolated.trans (perform_isolated isolated.sound careful)

end Operations

end MatterJs.Node
