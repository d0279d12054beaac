import MatterJs.General.StringifyTools

/-! The storage that keeps everything in memory: its mutators, with what they throw. -/

namespace MatterJs.General

open StringifyTools

structure StorageError where
  message : String
  deriving DecidableEq

/-- The values of each context, under the key of the context -/
abbrev Store : Type := OrderedMap String (OrderedMap String StorageValue)

namespace Store

def object (store : Store) : StorageValue :=
  .object (store.entries.map fun entry => (text entry.1,
    .object (entry.2.entries.map fun value => (text value.1, value.2))))

end Store

structure StorageBackendMemory where
  store : Store
  isInitialized : Bool

namespace StorageBackendMemory

/-- `key.includes("..")` -/
def includesEmptyPart : List Char → Bool
  | '.' :: '.' :: _ => true
  | _ :: key => includesEmptyPart key
  | [] => false

variable (memory : StorageBackendMemory) (contexts : List String)

def createContextKey : Except StorageError String :=
  let key := ".".intercalate contexts
  if key.toList = [] || includesEmptyPart key.toList || ['.'].isPrefixOf key.toList ||
      ['.'].isSuffixOf key.toList then
    .error ⟨"Context must not be an empty string."⟩
  else .ok key

def notInitialized : StorageError := ⟨"Storage is not initialized"⟩

def contextKeyOf (key : String) : Except StorageError String :=
  if contexts = [] || key.toList = [] then
    .error ⟨"Context and key must not be empty."⟩
  else createContextKey contexts

def setKey (store : Store) (contexts : List String) (key : String) (value : StorageValue) :
    Except StorageError Store := do
  let contextKey ← contextKeyOf contexts key
  return store.set contextKey (((store.get contextKey).getD .empty).set key value)

/-- The values in their order, up to the first that throws -/
def setKeys (contexts : List String) :
    Store → List (String × StorageValue) → Store × Option StorageError
  | store, [] => (store, none)
  | store, (key, value) :: values =>
    match setKey store contexts key value with
    | .ok store => setKeys contexts store values
    | .error error => (store, some error)

/-- `set`, where a single key and value are a list of one. What it has set before it throws
stays. -/
def set (values : List (String × StorageValue)) : StorageBackendMemory × Option StorageError :=
  if memory.isInitialized then
    let result := setKeys contexts memory.store values
    ({ memory with store := result.1 }, result.2)
  else (memory, some notInitialized)

def delete (memory : StorageBackendMemory) (contexts : List String) (key : String) :
    Except StorageError StorageBackendMemory :=
  if memory.isInitialized then do
    let contextKey ← contextKeyOf contexts key
    match memory.store.get contextKey with
    | some values =>
      return { memory with store := memory.store.set contextKey (values.delete key) }
    | none => return memory
  else .error notInitialized

def clear : StorageBackendMemory :=
  { memory with store := .empty }

/-- The contexts whose key is one, or starts with it and a dot, are deleted. -/
def clearAll : Except StorageError StorageBackendMemory :=
  if memory.isInitialized then do
    let contextKey ← createContextKey contexts
    let remaining := memory.store.delete contextKey
    let within := remaining.keys.filter fun key =>
      (contextKey.toList ++ ['.']).isPrefixOf key.toList
    return { memory with store := within.foldl OrderedMap.delete remaining }
  else .error notInitialized

theorem isInitialized_set (values : List (String × StorageValue)) :
    (memory.set contexts values).1.isInitialized = memory.isInitialized := by
  unfold set
  split <;> rfl

theorem isInitialized_delete {memory deleted : StorageBackendMemory} {contexts : List String}
    {key : String} (isDeleted : memory.delete contexts key = .ok deleted) :
    deleted.isInitialized = memory.isInitialized := by
  unfold delete at isDeleted
  split at isDeleted
  · cases found : contextKeyOf contexts key with
    | error failure =>
      rw [found] at isDeleted
      cases isDeleted
    | ok contextKey =>
      rw [found] at isDeleted
      change (match memory.store.get contextKey with
        | some values => _
        | none => _) = _ at isDeleted
      split at isDeleted <;> (cases isDeleted; rfl)
  · cases isDeleted

theorem isInitialized_clearAll {memory cleared : StorageBackendMemory} {contexts : List String}
    (isCleared : memory.clearAll contexts = .ok cleared) :
    cleared.isInitialized = memory.isInitialized := by
  unfold clearAll at isCleared
  split at isCleared
  · cases found : createContextKey contexts with
    | error failure =>
      rw [found] at isCleared
      exact nomatch isCleared
    | ok contextKey =>
      rw [found] at isCleared
      cases isCleared
      rfl
  · exact nomatch isCleared

end StorageBackendMemory

end MatterJs.General
