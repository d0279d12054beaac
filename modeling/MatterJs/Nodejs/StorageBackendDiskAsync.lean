import MatterJs.Foundation.Utf8
import MatterJs.General.StorageBackendMemory

/-! The storage with a file for each key: its operations, the writes that wait for each other,
and the steps of the file system, in any order in which they come to their ends. -/

namespace MatterJs.Nodejs

open General General.StringifyTools JsonText

/-- A file on which `#writeAndMoveFile` works -/
inductive WritePhase where
  /-- `writeFile` of the temporary file -/
  | temporary
  | renaming
  | ended
  deriving DecidableEq

/-- The write that a `#writeFileBlocker` stands for, until its `finally` runs -/
structure BlockingWrite where
  part : Nat
  text : List CodeUnit
  phase : WritePhase
  fails : Bool
  deriving DecidableEq

/-- A write whose promise will be settled -/
structure FinishedWrite where
  part : Nat
  fails : Bool
  deriving DecidableEq

/-- A `#writeFile` that awaits the blocker it has found -/
structure Waiter where
  part : Nat
  promise : Nat
  text : List CodeUnit
  deriving DecidableEq

inductive DeletePhase where
  /-- A round of `#finishAllWrites`, with the blocker of the file where there was one -/
  | awaiting (promise : Option Nat)
  | syncing
  /-- `#finishAllWrites` is over. -/
  | passed
  | removing
  deriving DecidableEq

structure PendingDelete where
  part : Nat
  rounds : Nat
  phase : DeletePhase
  deriving DecidableEq

structure PendingFile where
  blocker : Option BlockingWrite
  finished : List FinishedWrite
  waiters : List Waiter
  deletes : List PendingDelete
  deriving DecidableEq

/-- A `delete`, or a value of a `set`: a set of several values has a part for each. -/
structure Operation where
  part : Nat
  call : Nat
  contexts : List String
  key : String
  file : String
  isDelete : Bool
  /-- What `get` returns after it -/
  value : StorageValue

inductive PartOutcome where
  | succeeded
  /-- An operation on the file has failed. -/
  | failed
  /-- What it has waited for has failed. -/
  | rejected
  deriving DecidableEq

structure StorageBackendDiskAsync where
  disk : String → Option (List CodeUnit)
  pending : String → PendingFile
  rejected : List Nat
  /-- The operations that were issued, the latest first. -/
  operations : List Operation
  parts : Nat
  outcomes : Nat → Option PartOutcome
  calls : Nat
  /-- The calls of `set` -/
  sets : List Nat
  /-- The calls that have thrown before they waited for a file -/
  thrown : List Nat

namespace StorageBackendDiskAsync

inductive Event where
  | set (contexts : List String) (values : List (String × StorageValue))
  | delete (contexts : List String) (key : String)
  | writeFileEnds (file : String) (fails : Bool)
  | renameEnds (file : String) (fails : Bool)
  /-- The `finally` of a write deletes the blocker. -/
  | finallyRuns (file : String)
  /-- The promise of a write is settled, and those that wait for it go on. -/
  | settles (file : String) (promise : Nat)
  | roundEnds (file : String) (part : Nat)
  | syncEnds (file : String) (part : Nat) (fails : Bool)
  | rmStarts (file : String) (part : Nat)
  | rmEnds (file : String) (part : Nat) (fails : Bool)

/-- The characters that neither `encodeURIComponent` nor the replacements after it escape -/
def isUnescaped (byte : UInt8) : Bool :=
  let char := Char.ofNat byte.toNat
  (byte < 0x80 && char.isAlphanum) || char = '-' || char = '_' || char = '.' || char = '~'

def hexDigits (byte : UInt8) : List Char :=
  (Nat.toDigits 16 (byte.toNat / 16) ++ Nat.toDigits 16 (byte.toNat % 16)).map Char.toUpper

def encodeRawName (rawName : String) : String :=
  String.ofList ((Utf8.encode rawName.toList).flatMap fun byte =>
    if isUnescaped byte then [Char.ofNat byte.toNat] else '%' :: hexDigits byte)

def getContextBaseKey (contexts : List String) (allowEmptyContext : Bool) :
    Except StorageError String :=
  let contextKey := ".".intercalate contexts
  if (contextKey.toList = [] && !allowEmptyContext) ||
      StorageBackendMemory.includesEmptyPart contextKey.toList ||
      ['.'].isPrefixOf contextKey.toList || ['.'].isSuffixOf contextKey.toList then
    .error ⟨"Context must not be an empty and not contain dots."⟩
  else .ok contextKey

def buildStorageKey (contexts : List String) (key : String) : Except StorageError String :=
  if key.toList = [] then .error ⟨"Key must not be an empty string."⟩
  else do
    let contextKey ← getContextBaseKey contexts false
    return encodeRawName (contextKey ++ "." ++ key)

def temporaryName (file : String) : String := file ++ ".tmp"

variable (conversions : NumberConversions)

def noPending : PendingFile := ⟨none, [], [], []⟩

def opened (disk : String → Option (List CodeUnit)) : StorageBackendDiskAsync where
  disk
  pending := fun _ => noPending
  rejected := []
  operations := []
  parts := 0
  outcomes := fun _ => none
  calls := 0
  sets := []
  thrown := []

def setPending (storage : StorageBackendDiskAsync) (file : String) (pending : PendingFile) :
    StorageBackendDiskAsync :=
  { storage with pending := Function.update storage.pending file pending }

def setOutcome (storage : StorageBackendDiskAsync) (part : Nat) (outcome : PartOutcome) :
    StorageBackendDiskAsync :=
  { storage with outcomes := Function.update storage.outcomes part (some outcome) }

def setDisk (storage : StorageBackendDiskAsync) (name : String)
    (content : Option (List CodeUnit)) : StorageBackendDiskAsync :=
  { storage with disk := Function.update storage.disk name content }

/-- `#writeFile`: it waits for the blocker, or becomes it. -/
def writeFile (pending : PendingFile) (part : Nat) (text : List CodeUnit) : PendingFile :=
  match pending.blocker with
  | some write => { pending with waiters := pending.waiters ++ [⟨part, write.part, text⟩] }
  | none => { pending with blocker := some ⟨part, text, .temporary, false⟩ }

def issue (storage : StorageBackendDiskAsync) (call : Nat) (contexts : List String)
    (key file : String) (isDelete : Bool) (value : StorageValue) : StorageBackendDiskAsync :=
  { storage with
    operations := ⟨storage.parts, call, contexts, key, file, isDelete, value⟩ :: storage.operations
    parts := storage.parts + 1 }

def issueWrite (storage : StorageBackendDiskAsync) (call : Nat) (contexts : List String)
    (key file : String) (value : StorageValue) (text : List CodeUnit) :
    StorageBackendDiskAsync :=
  (storage.issue call contexts key file false value).setPending file
    (writeFile (storage.pending file) storage.parts text)

def throw (storage : StorageBackendDiskAsync) (call : Nat) : StorageBackendDiskAsync :=
  { storage with thrown := call :: storage.thrown }

/-- The file name and the text of a value that is set -/
def prepare (contexts : List String) (key : String) (value : StorageValue) :
    Option (String × List CodeUnit) :=
  match buildStorageKey contexts key, toJson conversions none value with
  | .ok file, .ok text => some (file, text)
  | _, _ => none

/-- The values of a `set`, up to the first that throws -/
def issueWrites (call : Nat) (contexts : List String) :
    StorageBackendDiskAsync → List (String × StorageValue) → StorageBackendDiskAsync
  | storage, [] => storage
  | storage, (key, value) :: values =>
    match prepare conversions contexts key value with
    | some (file, text) =>
      issueWrites call contexts (storage.issueWrite call contexts key file value text) values
    | none => storage.throw call

/-- `set`, where a single key and value are a list of one -/
def set (storage : StorageBackendDiskAsync) (contexts : List String)
    (values : List (String × StorageValue)) : StorageBackendDiskAsync :=
  issueWrites conversions storage.calls contexts
    { storage with calls := storage.calls + 1, sets := storage.calls :: storage.sets } values

def addDelete (pending : PendingFile) (delete : PendingDelete) : PendingFile :=
  { pending with deletes := delete :: pending.deletes }

def dropDelete (pending : PendingFile) (part : Nat) : PendingFile :=
  { pending with deletes := pending.deletes.filter (·.part ≠ part) }

/-- `delete`, up to its first `await` -/
def delete (storage : StorageBackendDiskAsync) (contexts : List String) (key : String) :
    StorageBackendDiskAsync :=
  let called := { storage with calls := storage.calls + 1 }
  match buildStorageKey contexts key with
  | .ok file =>
    let pending := storage.pending file
    (called.issue storage.calls contexts key file true .undefined).setPending file
      (addDelete pending ⟨storage.parts, 0, .awaiting (pending.blocker.map BlockingWrite.part)⟩)
  | .error _ => called.throw storage.calls

def withBlocker (storage : StorageBackendDiskAsync) (file : String) (phase : WritePhase)
    (change : BlockingWrite → StorageBackendDiskAsync) : StorageBackendDiskAsync :=
  match (storage.pending file).blocker with
  | some write => if write.phase = phase then change write else storage
  | none => storage

def setBlocker (storage : StorageBackendDiskAsync) (file : String) (write : BlockingWrite) :
    StorageBackendDiskAsync :=
  storage.setPending file { storage.pending file with blocker := some write }

/-- A write has come to its end, and its `set` has the outcome. -/
def endWrite (storage : StorageBackendDiskAsync) (file : String) (write : BlockingWrite)
    (fails : Bool) : StorageBackendDiskAsync :=
  (storage.setBlocker file { write with phase := .ended, fails }).setOutcome write.part
    (if fails then .failed else .succeeded)

def writeFileEnds (storage : StorageBackendDiskAsync) (file : String) (fails : Bool) :
    StorageBackendDiskAsync :=
  storage.withBlocker file .temporary fun write =>
    if fails then storage.endWrite file write true
    else (storage.setDisk (temporaryName file) (some write.text)).setBlocker file
      { write with phase := .renaming }

def renameEnds (storage : StorageBackendDiskAsync) (file : String) (fails : Bool) :
    StorageBackendDiskAsync :=
  storage.withBlocker file .renaming fun write =>
    if fails then storage.endWrite file write true
    else ((storage.setDisk file (storage.disk (temporaryName file))).setDisk
      (temporaryName file) none).endWrite file write false

def finallyRuns (storage : StorageBackendDiskAsync) (file : String) : StorageBackendDiskAsync :=
  storage.withBlocker file .ended fun write =>
    let pending := storage.pending file
    storage.setPending file
      { pending with
        blocker := none
        finished := ⟨write.part, write.fails⟩ :: pending.finished }

/-- Those that have waited for a write try again, in their order. -/
def retry (pending : PendingFile) (waiters : List Waiter) : PendingFile :=
  waiters.foldl (fun pending waiter => writeFile pending waiter.part waiter.text) pending

def settles (storage : StorageBackendDiskAsync) (file : String) (promise : Nat) :
    StorageBackendDiskAsync :=
  let pending := storage.pending file
  match pending.finished.find? (·.part = promise) with
  | some write =>
    let mine := pending.waiters.filter (·.promise = promise)
    let settled := { pending with
      finished := pending.finished.filter (·.part ≠ promise)
      waiters := pending.waiters.filter (·.promise ≠ promise) }
    if write.fails then
      mine.foldl (fun storage waiter => storage.setOutcome waiter.part .rejected)
        { storage.setPending file settled with rejected := promise :: storage.rejected }
    else storage.setPending file (retry settled mine)
  | none => storage

def withDelete (storage : StorageBackendDiskAsync) (file : String) (part : Nat)
    (change : PendingDelete → StorageBackendDiskAsync) : StorageBackendDiskAsync :=
  match (storage.pending file).deletes.find? (·.part = part) with
  | some delete => change delete
  | none => storage

def setDelete (storage : StorageBackendDiskAsync) (file : String) (delete : PendingDelete) :
    StorageBackendDiskAsync :=
  storage.setPending file (addDelete (dropDelete (storage.pending file) delete.part) delete)

def endDelete (storage : StorageBackendDiskAsync) (file : String) (part : Nat)
    (outcome : PartOutcome) : StorageBackendDiskAsync :=
  (storage.setPending file (dropDelete (storage.pending file) part)).setOutcome part outcome

/-- `this.#writeFileBlocker.size` is not zero. -/
def hasBlockers (storage : StorageBackendDiskAsync) : Bool :=
  storage.operations.any fun operation => (storage.pending operation.file).blocker.isSome

def unsettled (pending : PendingFile) (promise : Nat) : Bool :=
  pending.blocker.any (·.part = promise) || pending.finished.any (·.part = promise)

/-- The most rounds of `#finishAllWrites` -/
def maximumRounds : Nat := 10

def roundEnds (storage : StorageBackendDiskAsync) (file : String) (part : Nat) :
    StorageBackendDiskAsync :=
  storage.withDelete file part fun delete =>
    match delete.phase with
    | .awaiting promise =>
      if promise.any (unsettled (storage.pending file)) then storage
      else if promise.any (storage.rejected.contains ·) then
        storage.endDelete file part .rejected
      else if storage.hasBlockers = false then
        storage.setDelete file { delete with phase := .passed }
      else if delete.rounds + 1 < maximumRounds then
        storage.setDelete file
          ⟨part, delete.rounds + 1,
            .awaiting ((storage.pending file).blocker.map BlockingWrite.part)⟩
      else storage.setDelete file { delete with phase := .syncing }
    | _ => storage

def syncEnds (storage : StorageBackendDiskAsync) (file : String) (part : Nat) (fails : Bool) :
    StorageBackendDiskAsync :=
  storage.withDelete file part fun delete =>
    if delete.phase = .syncing then
      if fails then storage.endDelete file part .rejected
      else storage.setDelete file { delete with phase := .passed }
    else storage

def rmStarts (storage : StorageBackendDiskAsync) (file : String) (part : Nat) :
    StorageBackendDiskAsync :=
  storage.withDelete file part fun delete =>
    if delete.phase = .passed then storage.setDelete file { delete with phase := .removing }
    else storage

def rmEnds (storage : StorageBackendDiskAsync) (file : String) (part : Nat) (fails : Bool) :
    StorageBackendDiskAsync :=
  storage.withDelete file part fun delete =>
    if delete.phase = .removing then
      if fails then storage.endDelete file part .failed
      else (storage.setDisk file none).endDelete file part .succeeded
    else storage

def step (storage : StorageBackendDiskAsync) : Event → StorageBackendDiskAsync
  | .set contexts values => storage.set conversions contexts values
  | .delete contexts key => storage.delete contexts key
  | .writeFileEnds file fails => storage.writeFileEnds file fails
  | .renameEnds file fails => storage.renameEnds file fails
  | .finallyRuns file => storage.finallyRuns file
  | .settles file promise => storage.settles file promise
  | .roundEnds file part => storage.roundEnds file part
  | .syncEnds file part fails => storage.syncEnds file part fails
  | .rmStarts file part => storage.rmStarts file part
  | .rmEnds file part fails => storage.rmEnds file part fails

def get (storage : StorageBackendDiskAsync) (contexts : List String) (key : String) :
    Except StorageError StorageValue := do
  let file ← buildStorageKey contexts key
  match storage.disk file with
  | none => return .undefined
  | some text =>
    match fromJson conversions text with
    | .ok value => return value
    | .error _ => return .undefined

end StorageBackendDiskAsync

end MatterJs.Nodejs
