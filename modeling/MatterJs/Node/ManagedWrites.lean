import MatterJs.Node.ListManager

/-! The writes of managed structs and lists, and the session's view that they leave. -/

namespace MatterJs.Node

open General ListManager

/-- What the managers know of the schema of a state, by the path of a value in it -/
structure StateSchema where
  typeDefaults : List (String × Scalar)
  memberNames : List String
  listConfig : List Key → ListConfig
  /-- The validation of a new value of a property, next to its siblings -/
  validate : List Key → Heap → Container → Value → Bool
  validateEntry : List Key → Heap → Value → Bool

/-- What is assigned: a value as it is, or one that was read from a managed container. -/
inductive Incoming where
  | raw (value : Value)
  | managed (path : List Key)
  deriving DecidableEq

/-- The session's view after an operation, with what was thrown -/
abbrev Written : Type := Working × Except ListError Unit

namespace Heap

def elements (heap : Heap) : Value → List (Option Value)
  | .reference identity =>
    match container heap identity with
    | .list elements => elements
    | .struct _ => []
  | .scalar _ => []

def isList (heap : Heap) : Value → Bool
  | .reference identity =>
    match container heap identity with
    | .list _ => true
    | .struct _ => false
  | .scalar _ => false

end Heap

namespace Value

def isNullish (value : Value) : Bool :=
  value = .undefined || value = scalar .null

/-- `typeof value === "object"` -/
def isTypeofObject : Value → Bool
  | scalar .null | scalar (.bytes _) | reference _ => true
  | scalar _ => false

end Value

namespace Working

variable (working : Working)

def valueAt (path : List Key) : Value :=
  Heap.valueFrom working.heap (.reference working.values) path

def elementsAt (path : List Key) : List (Option Value) :=
  Heap.elements working.heap (working.valueAt path)

def unwrap : Incoming → Value
  | .raw value => value
  | .managed path => working.valueAt path

def put (identity : Nat) (container : Container) : Working :=
  { working with heap := working.heap.set identity container }

/-- The root's copy before the first write of the session -/
def begin (schema : StateSchema) : Working :=
  working.beginWrite schema.typeDefaults schema.memberNames

/-- `change` of the reference at a path, up to the mutation of its container -/
def change (schema : StateSchema) (working : Working) (path : List Key) :
    Option (Working × Nat) :=
  (changeAlong (working.begin schema).heap (working.begin schema).values
    (.reference working.canonical) path).map fun changed =>
      ({ working.begin schema with heap := changed.1 }, changed.2)

end Working

section Writes

variable (schema : StateSchema) (session : Session)

variable (working : Working) (path : List Key)

/-- The end of the setter's mutation: a value that is not valid is taken back. -/
def validateProperty (struct : Nat) (name : String) (oldValue value : Value) (assigned : Working) :
    Written :=
  if session.acceptInvalid ||
      schema.validate (path ++ [.name name]) assigned.heap
        (Heap.container assigned.heap struct) value then (assigned, .ok ())
  else
    (assigned.put struct ((Heap.container assigned.heap struct).set (.name name) oldValue),
      .error .invalid)

/-- The setter of a property, other than of an established fabric-scoped list -/
def assignProperty (name : String) (incoming : Incoming) : Written :=
  match working.change schema path with
  | none => (working, .error .noContainer)
  | some (changed, struct) =>
    validateProperty schema session path struct name
      (Heap.property working.heap (working.valueAt path) (.name name))
      (changed.unwrap incoming)
      (changed.put struct
        ((Heap.container changed.heap struct).set (.name name) (changed.unwrap incoming)))

def baseWriteEntry (index : Nat) (incoming : Incoming) : Written :=
  if index > (working.elementsAt path).length + 1 then
    (working, .error (.writeError s!"Index {index} is out of bounds"))
  else if index > 65535 then
    (working, .error (.readError s!"Index {index} is greater than allowed maximum of 65535"))
  else
    match working.change schema path with
    | none => (working, .error .noContainer)
    | some (changed, list) =>
      (changed.put list
        ((Heap.container changed.heap list).set (.index index) (working.unwrap incoming)),
        .ok ())

/-- Assignment of the session's fabric index: in place for a value as it is, by the setter for
one that is managed -/
def addFabricIndex : Incoming → Written
  | .managed path =>
    assignProperty schema session working path "fabricIndex" (.raw session.fabricValue)
  | .raw (.reference identity) =>
    (working.put identity ((Heap.container working.heap identity).set (.name "fabricIndex")
      session.fabricValue), .ok ())
  | .raw (.scalar _) => (working, .ok ())

/-- `value.fabricIndex ??= session.fabric` -/
def stampFabricIndex (incoming : Incoming) : Written :=
  if (working.unwrap incoming) = .scalar .null then (working, .error .nullEntry)
  else if Heap.isObject working.heap (working.unwrap incoming) ∧
      (Heap.fabricIndex working.heap (working.unwrap incoming)).isNullish then
    addFabricIndex schema session working incoming
  else (working, .ok ())

/-- `splice(position, 1)` of the list, outside of any `change` -/
def spliceEntry (position : Nat) : Working :=
  match working.valueAt path with
  | .reference list =>
    match Heap.container working.heap list with
    | .list elements => working.put list (.list (elements.eraseIdx position))
    | .struct _ => working
  | .scalar _ => working

def writeScopedEntry (index : Nat) (incoming : Incoming) : Written :=
  if working.unwrap incoming = .undefined then
    match mapScopedToActual session working.heap (working.elementsAt path) index false with
    | .error error => (working, .error error)
    | .ok position => (spliceEntry working path position, .ok ())
  else if !(working.unwrap incoming).isTypeofObject then
    (working, .error (.failure "Fabric scoped list value is not an object"))
  else
    match stampFabricIndex schema session working incoming with
    | (stamped, .error error) => (stamped, .error error)
    | (stamped, .ok ()) =>
      match mapScopedToActual session stamped.heap (stamped.elementsAt path) index false with
      | .error error => (stamped, .error error)
      | .ok position => baseWriteEntry schema stamped path position incoming

def writeEntry (index : Nat) (incoming : Incoming) : Written :=
  if filtersByFabric (schema.listConfig path) session then
    writeScopedEntry schema session working path index incoming
  else baseWriteEntry schema working path index incoming

def setEntry (index : Nat) (incoming : Incoming) : Written :=
  if schema.validateEntry path working.heap (working.unwrap incoming) then
    writeEntry schema session working path index incoming
  else (working, .error .invalid)

def resize (elements : List (Option Value)) (length : Nat) : List (Option Value) :=
  elements.take length ++ List.replicate (length - elements.length) none

/-- The loop that removes the entries in scope from the end, with the number of those before -/
def removeScoped (heap : Heap) (length : Nat) :
    Nat → List (Option Value) → List (Option Value) × Except ListError Unit
  | 0, elements => (elements, .ok ())
  | index + 1, elements =>
    if index < length then (elements, .ok ())
    else
      match mapScopedToActual session heap elements index true with
      | .error error => (elements, .error error)
      | .ok position =>
        match session.mapsEntry heap (element elements position) with
        | .error error => (elements, .error error)
        | .ok true =>
          match mapScopedToActual session heap elements index false with
          | .error error => (elements, .error error)
          | .ok actual => removeScoped heap length index (elements.eraseIdx actual)
        | .ok false =>
          if element elements position ≠ .undefined then
            (elements, .error (.failure "Fabric scoped list value is not an object"))
          else removeScoped heap length index elements

def setListLength (length : Nat) : Written :=
  if filtersByFabric (schema.listConfig path) session then
    match working.change schema path with
    | none => (working, .error .noContainer)
    | some (changed, list) =>
      let removed := removeScoped session changed.heap length
        (getListLength (schema.listConfig path) session working.heap (working.elementsAt path))
        (Heap.elements changed.heap (.reference list))
      (changed.put list (.list removed.1), removed.2)
  else if length > 65535 then
    (working, .error (.writeError s!"Index {length} is greater than allowed maximum of 65535"))
  else
    match working.change schema path with
    | none => (working, .error .noContainer)
    | some (changed, list) =>
      (changed.put list
        (.list (resize (Heap.elements changed.heap (.reference list)) length)), .ok ())

/-- The loop over the entries of a value that is assigned to a list. An index over 65535 is
refused, so there are no more rounds than that. -/
def assignEntries (path : List Key) (source : Value) : Nat → Nat → Working → Written
  | 0, _, working => (working, .ok ())
  | rounds + 1, index, working =>
    if index < (Heap.elements working.heap source).length then
      match setEntry schema session working path index
          (.raw (element (Heap.elements working.heap source) index)) with
      | (written, .error error) => (written, .error error)
      | (written, .ok ()) => assignEntries path source rounds (index + 1) written
    else
      setListLength schema session working path (Heap.elements working.heap source).length

/-- The setter of a property: an established fabric-scoped list is assigned entry by entry. -/
def setProperty (name : String) (incoming : Incoming) : Written :=
  match working.change schema path with
  | none => (working, .error .noContainer)
  | some (changed, struct) =>
    if (schema.listConfig (path ++ [.name name])).fabricScoped ∧
        Heap.isList changed.heap (changed.unwrap incoming) ∧
        Heap.isList changed.heap
          (Heap.property changed.heap (.reference struct) (.name name)) then
      match assignEntries schema session (path ++ [.name name]) (changed.unwrap incoming) 65537 0
          changed with
      | (assigned, .error error) => (assigned, .error error)
      | (assigned, .ok ()) =>
        validateProperty schema session path struct name
          (Heap.property working.heap (working.valueAt path) (.name name))
          (changed.unwrap incoming) assigned
    else assignProperty schema session working path name incoming

end Writes

inductive Operation where
  /-- The application makes a container. -/
  | create (container : Container)
  | setProperty (path : List Key) (name : String) (incoming : Incoming)
  | setEntry (path : List Key) (index : Nat) (incoming : Incoming)
  | deleteEntry (path : List Key) (index : Nat)
  | setListLength (path : List Key) (length : Nat)
  deriving DecidableEq

def perform (schema : StateSchema) (session : Session) (working : Working) :
    Operation → Working
  | .create container => { working with heap := working.heap ++ [container] }
  | .setProperty path name incoming =>
    (setProperty schema session working path name incoming).1
  | .setEntry path index incoming => (setEntry schema session working path index incoming).1
  | .deleteEntry path index =>
    (writeEntry schema session working path index (.raw .undefined)).1
  | .setListLength path length => (setListLength schema session working path length).1

end MatterJs.Node
