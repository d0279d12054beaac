import MatterJs.Foundation.Execution
import MatterJs.General.StorageBackendMemory
import MatterJs.General.StringifyRoundTrip

/-! The storage that writes itself to a JSON file some time after a change: when the file
holds the store, and when the promise of a commit is resolved. -/

namespace MatterJs.Nodejs

open Execution General General.StringifyTools JsonText

/-- A `writeFile` that has not come to its end -/
structure FileWrite where
  id : Nat
  content : List CodeUnit
  /-- The number of changes that the content contains -/
  contains : Nat
  deriving DecidableEq

/-- The promise that is read right after a change -/
structure Commitment where
  promise : Nat
  /-- The number of the change -/
  change : Nat
  deriving DecidableEq

structure StorageBackendJsonFile where
  memory : StorageBackendMemory
  file : Option (List CodeUnit)
  closed : Bool
  committed : Nat
  resolveCommitted : Option Nat
  /-- Whether the commit timer is running -/
  isRunning : Bool
  writes : List FileWrite
  resolved : List Nat
  /-- How many promises and writes there have been. -/
  promises : Nat
  started : Nat
  /-- How many calls of `set`, `delete` and `clear` have made a change. -/
  changes : Nat
  commitments : List Commitment
  /-- The numbers of changes that the writes contained which have come to their end -/
  written : List Nat

namespace StorageBackendJsonFile

inductive Event where
  | set (contexts : List String) (values : List (String × StorageValue))
  | delete (contexts : List String) (key : String)
  | clear
  | clearAll (contexts : List String)
  | timerFires
  | writeCompletes (write : Nat)

variable (conversions : NumberConversions)

/-- A storage that has been initialized with a store from a file. The promise of the field's
initializer is resolved. -/
def opened (file : Option (List CodeUnit)) (store : Store) : StorageBackendJsonFile where
  memory := ⟨store, true⟩
  file
  closed := false
  committed := 0
  resolveCommitted := none
  isRunning := false
  writes := []
  resolved := [0]
  promises := 1
  started := 0
  changes := 0
  commitments := []
  written := []

def triggerCommit (storage : StorageBackendJsonFile) : StorageBackendJsonFile :=
  if storage.isRunning then storage
  else
    { storage with
      committed := storage.promises
      resolveCommitted := some storage.promises
      promises := storage.promises + 1
      isRunning := true }

/-- A change, the commit that it triggers, and the promise that is there then -/
def change (storage : StorageBackendJsonFile) (memory : StorageBackendMemory) :
    StorageBackendJsonFile :=
  let triggered := ({ storage with memory } : StorageBackendJsonFile).triggerCommit
  { triggered with
    changes := storage.changes + 1
    commitments := ⟨triggered.committed, storage.changes + 1⟩ :: storage.commitments }

/-- `this.toJson(this.store)` -/
def serialized (storage : StorageBackendJsonFile) : Except StringifyError (List CodeUnit) :=
  toJson conversions (some 1) storage.memory.store.object

def resolve (storage : StorageBackendJsonFile) : StorageBackendJsonFile :=
  { storage with resolved := storage.resolveCommitted.toList ++ storage.resolved }

/-- `commit`, up to the end of its `writeFile` -/
def commit (storage : StorageBackendJsonFile) : StorageBackendJsonFile :=
  if !storage.memory.isInitialized || storage.closed then storage
  else
    match storage.serialized conversions with
    | .ok content =>
      { storage with
        isRunning := false
        writes := ⟨storage.started, content, storage.changes⟩ :: storage.writes
        started := storage.started + 1 }
    | .error _ => { storage with isRunning := false }.resolve

def timerFires (storage : StorageBackendJsonFile) : StorageBackendJsonFile :=
  if storage.isRunning then { storage with isRunning := false }.commit conversions else storage

def writeCompletes (storage : StorageBackendJsonFile) (write : Nat) : StorageBackendJsonFile :=
  match storage.writes.find? (·.id = write) with
  | some completed =>
    { storage with
      file := some completed.content
      writes := storage.writes.filter (·.id ≠ write)
      written := completed.contains :: storage.written }.resolve
  | none => storage

def set (storage : StorageBackendJsonFile) (contexts : List String)
    (values : List (String × StorageValue)) : StorageBackendJsonFile :=
  match storage.memory.set contexts values with
  | (memory, none) => storage.change memory
  | (memory, some _) => { storage with memory }

def delete (storage : StorageBackendJsonFile) (contexts : List String) (key : String) :
    StorageBackendJsonFile :=
  match storage.memory.delete contexts key with
  | .ok memory => storage.change memory
  | .error _ => storage

def clear (storage : StorageBackendJsonFile) : StorageBackendJsonFile :=
  storage.change storage.memory.clear

/-- `clearAll`, which the class inherits -/
def clearAll (storage : StorageBackendJsonFile) (contexts : List String) :
    StorageBackendJsonFile :=
  match storage.memory.clearAll contexts with
  | .ok memory => { storage with memory }
  | .error _ => storage

def step (storage : StorageBackendJsonFile) : Event → StorageBackendJsonFile
  | .set contexts values => storage.set contexts values
  | .delete contexts key => storage.delete contexts key
  | .clear => storage.clear
  | .clearAll contexts => storage.clearAll contexts
  | .timerFires => storage.timerFires conversions
  | .writeCompletes write => storage.writeCompletes write

def FileHoldsStore (storage : StorageBackendJsonFile) : Prop :=
  ∃ content, storage.serialized conversions = .ok content ∧ storage.file = some content

def AtRest (storage : StorageBackendJsonFile) : Prop :=
  storage.isRunning = false ∧ storage.writes = []

/-- Each promise that was read right after a change is resolved exactly when a write that
contains the change has come to its end. -/
def CommitmentsKept (storage : StorageBackendJsonFile) : Prop :=
  ∀ commitment ∈ storage.commitments,
    commitment.promise ∈ storage.resolved ↔
      ∃ contains ∈ storage.written, commitment.change ≤ contains

structure Durable (storage : StorageBackendJsonFile) : Prop where
  fileHoldsStore : storage.AtRest → storage.FileHoldsStore conversions
  commitmentsKept : storage.CommitmentsKept

/-! ## The steps that keep it -/

/-- No change while a write is under way. What `clearAll` deletes, or a `set` that throws has
set before, is written by a commit that has been triggered already. The store that is
committed has a text. -/
def Careful (storage : StorageBackendJsonFile) : Event → Prop
  | .set contexts values =>
    match storage.memory.set contexts values with
    | (_, none) => storage.writes = []
    | (memory, some _) => memory = storage.memory ∨ storage.isRunning = true
  | .delete contexts key =>
    match storage.memory.delete contexts key with
    | .ok _ => storage.writes = []
    | .error _ => True
  | .clear => storage.writes = []
  | .clearAll contexts =>
    match storage.memory.clearAll contexts with
    | .ok memory => memory = storage.memory ∨ storage.isRunning = true
    | .error _ => True
  | .timerFires =>
    storage.isRunning = true → ∃ content, storage.serialized conversions = .ok content
  | .writeCompletes _ => True

def Settled (storage : StorageBackendJsonFile) (commitment : Commitment) : Prop :=
  commitment.promise ∈ storage.resolved ∧ ∃ contains ∈ storage.written, commitment.change ≤ contains

/-- The commitments that are not kept yet are those of one promise, which is the one that the
next write resolves. -/
structure PendingOn (storage : StorageBackendJsonFile) (promise : Nat) : Prop where
  resolves : storage.resolveCommitted = some promise
  isKnown : promise < storage.promises
  unresolved : promise ∉ storage.resolved
  commitments : ∀ commitment ∈ storage.commitments, storage.Settled commitment ∨
    (commitment.promise = promise ∧ ∀ contains ∈ storage.written, contains < commitment.change)

inductive Phase (storage : StorageBackendJsonFile) (held : Prop) : Prop where
  | rest (isRunning : storage.isRunning = false) (writes : storage.writes = [])
      (holds : held ∨ storage.changes ≠ 0 → storage.FileHoldsStore conversions)
      (settled : ∀ commitment ∈ storage.commitments, storage.Settled commitment)
  | waiting (isRunning : storage.isRunning = true) (writes : storage.writes = [])
      (pending : storage.PendingOn storage.committed)
  | writing (write : FileWrite) (isRunning : storage.isRunning = false)
      (writes : storage.writes = [write])
      (content : storage.serialized conversions = .ok write.content)
      (contains : write.contains = storage.changes) (promise : Nat)
      (pending : storage.PendingOn promise)

/-- What holds in every state of a careful run -/
structure Orderly (storage : StorageBackendJsonFile) (held : Prop) : Prop where
  isInitialized : storage.memory.isInitialized = true
  isOpen : storage.closed = false
  resolved : ∀ promise ∈ storage.resolved, promise < storage.promises
  changes : ∀ commitment ∈ storage.commitments, commitment.change ≤ storage.changes
  written : ∀ contains ∈ storage.written, contains ≤ storage.changes
  phase : storage.Phase conversions held

theorem orderly_opened (file : Option (List CodeUnit)) (store : Store) :
    (opened file store).Orderly conversions ((opened file store).FileHoldsStore conversions) where
  isInitialized := rfl
  isOpen := rfl
  resolved := by
    intro promise member
    rw [List.mem_singleton.mp member]
    exact Nat.zero_lt_one
  changes := nofun
  written := nofun
  phase := .rest rfl rfl (fun known => known.resolve_right fun changed => changed rfl) nofun

variable {conversions} {storage : StorageBackendJsonFile} {held : Prop}

section

variable (orderly : storage.Orderly conversions held)

include orderly

theorem Orderly.durable (known : held ∨ storage.changes ≠ 0) : storage.Durable conversions := by
  have kept : ∀ {promise : Nat}, storage.PendingOn promise → storage.CommitmentsKept := by
    intro promise pending commitment member
    rcases pending.commitments commitment member with settled | ⟨same, later⟩
    · exact iff_of_true settled.1 settled.2
    · refine iff_of_false ?_ ?_
      · rw [same]
        exact pending.unresolved
      · rintro ⟨contains, isWritten, covers⟩
        exact Nat.not_le.mpr (later contains isWritten) covers
  cases orderly.phase with
  | rest isRunning writes holds settled =>
    refine ⟨fun _ => holds known, fun commitment member => ?_⟩
    exact iff_of_true (settled commitment member).1 (settled commitment member).2
  | waiting isRunning writes pending =>
    refine ⟨fun atRest => ?_, kept pending⟩
    rw [atRest.1] at isRunning
    cases isRunning
  | writing write isRunning writes content contains promise pending =>
    refine ⟨fun atRest => ?_, kept pending⟩
    rw [atRest.2] at writes
    cases writes

/-! ## Each step -/

theorem Orderly.change {memory : StorageBackendMemory} (isInitialized : memory.isInitialized = true)
    (noWrite : storage.writes = []) : (storage.change memory).Orderly conversions held := by
  have laterThanWritten : ∀ contains ∈ storage.written, contains < storage.changes + 1 :=
    fun contains member => Nat.lt_succ_of_le (orderly.written contains member)
  have changes : ∀ commitment ∈ storage.commitments, commitment.change ≤ storage.changes + 1 :=
    fun commitment member => Nat.le_succ_of_le (orderly.changes commitment member)
  cases orderly.phase with
  | rest isRunning writes holds settled =>
    have triggered : storage.change memory =
        { storage with
          memory
          committed := storage.promises
          resolveCommitted := some storage.promises
          promises := storage.promises + 1
          isRunning := true
          changes := storage.changes + 1
          commitments := ⟨storage.promises, storage.changes + 1⟩ :: storage.commitments } := by
      simp [StorageBackendJsonFile.change, triggerCommit, isRunning]
    rw [triggered]
    refine ⟨isInitialized, orderly.isOpen, ?_, ?_, ?_, .waiting rfl writes
      ⟨rfl, Nat.lt_succ_self _, ?_, ?_⟩⟩
    · exact fun promise member => Nat.lt_succ_of_lt (orderly.resolved promise member)
    · exact List.forall_mem_cons.mpr ⟨Nat.le_refl _, changes⟩
    · exact fun contains member => Nat.le_of_lt (laterThanWritten contains member)
    · exact fun member => Nat.lt_irrefl _ (orderly.resolved _ member)
    · refine List.forall_mem_cons.mpr ⟨.inr ⟨rfl, laterThanWritten⟩, ?_⟩
      exact fun commitment member => .inl (settled commitment member)
  | waiting isRunning writes pending =>
    have triggered : storage.change memory =
        { storage with
          memory
          changes := storage.changes + 1
          commitments := ⟨storage.committed, storage.changes + 1⟩ :: storage.commitments } := by
      simp [StorageBackendJsonFile.change, triggerCommit, isRunning]
    rw [triggered]
    refine ⟨isInitialized, orderly.isOpen, orderly.resolved, ?_, ?_,
      .waiting isRunning writes ⟨pending.resolves, pending.isKnown, pending.unresolved, ?_⟩⟩
    · exact List.forall_mem_cons.mpr ⟨Nat.le_refl _, changes⟩
    · exact fun contains member => Nat.le_of_lt (laterThanWritten contains member)
    · exact List.forall_mem_cons.mpr ⟨.inr ⟨rfl, laterThanWritten⟩, pending.commitments⟩
  | writing write isRunning writes content contains promise pending =>
    rw [noWrite] at writes
    exact nomatch writes

/-- What changes the store without triggering a commit -/
theorem Orderly.replaceMemory
    {memory : StorageBackendMemory} (isInitialized : memory.isInitialized = true)
    (committed : memory = storage.memory ∨ storage.isRunning = true) :
    Orderly conversions { storage with memory } held := by
  rcases committed with rfl | running
  · exact orderly
  · refine ⟨isInitialized, orderly.isOpen, orderly.resolved, orderly.changes, orderly.written, ?_⟩
    cases orderly.phase with
    | rest isRunning writes holds settled =>
      rw [running] at isRunning
      cases isRunning
    | waiting isRunning writes pending => exact .waiting isRunning writes { pending with }
    | writing write isRunning writes content contains promise pending =>
      rw [running] at isRunning
      cases isRunning

theorem Orderly.timerFires (serializes : storage.isRunning = true →
      ∃ content, storage.serialized conversions = .ok content) :
    (storage.timerFires conversions).Orderly conversions held := by
  unfold StorageBackendJsonFile.timerFires
  cases orderly.phase with
  | rest isRunning writes holds settled =>
    rw [if_neg (by rw [isRunning]; exact Bool.false_ne_true)]
    exact orderly
  | waiting isRunning writes pending =>
    rcases serializes isRunning with ⟨content, isContent⟩
    have started : ({ storage with isRunning := false } : StorageBackendJsonFile).commit
        conversions =
        { storage with
          isRunning := false
          writes := [⟨storage.started, content, storage.changes⟩]
          started := storage.started + 1 } := by
      unfold commit
      rw [if_neg (by simp [orderly.isInitialized, orderly.isOpen])]
      change (match storage.serialized conversions with | .ok content => _ | .error _ => _) = _
      rw [isContent]
      simp [writes]
    rw [if_pos isRunning, started]
    exact ⟨orderly.isInitialized, orderly.isOpen, orderly.resolved, orderly.changes,
      orderly.written, .writing _ rfl rfl isContent rfl _ { pending with }⟩
  | writing write isRunning writes content contains promise pending =>
    rw [if_neg (by rw [isRunning]; exact Bool.false_ne_true)]
    exact orderly

theorem Orderly.writeCompletes (write : Nat) :
    (storage.writeCompletes write).Orderly conversions held := by
  unfold StorageBackendJsonFile.writeCompletes
  cases orderly.phase with
  | rest isRunning writes holds settled =>
    simp only [writes]
    exact orderly
  | waiting isRunning writes pending =>
    simp only [writes]
    exact orderly
  | writing completed isRunning writes content contains promise pending =>
    by_cases same : completed.id = write
    · have found : storage.writes.find? (·.id = write) = some completed := by
        rw [writes, List.find?_cons_of_pos (by simpa using same)]
      have noOther : storage.writes.filter (·.id ≠ write) = [] := by
        rw [writes, List.filter_cons_of_neg (by simpa using same)]
        rfl
      rw [found]
      simp only [resolve, noOther, pending.resolves, contains]
      refine ⟨orderly.isInitialized, orderly.isOpen, ?_, orderly.changes, ?_,
        .rest isRunning rfl (fun _ => ⟨completed.content, content, rfl⟩) ?_⟩
      · exact List.forall_mem_cons.mpr ⟨pending.isKnown, orderly.resolved⟩
      · exact List.forall_mem_cons.mpr ⟨Nat.le_refl _, orderly.written⟩
      · intro commitment member
        rcases pending.commitments commitment member with ⟨resolved, isWritten⟩ | ⟨resolves, _⟩
        · rcases isWritten with ⟨earlier, earlierWritten, covers⟩
          exact ⟨List.mem_cons_of_mem _ resolved, earlier,
            List.mem_cons_of_mem _ earlierWritten, covers⟩
        · refine ⟨?_, _, List.mem_cons_self .., orderly.changes commitment member⟩
          rw [resolves]
          exact List.mem_cons_self ..
    · simp only [writes, List.find?_cons, same]
      exact orderly

theorem Orderly.step {event : Event} (careful : storage.Careful conversions event) :
    (storage.step conversions event).Orderly conversions held := by
  cases event with
  | set contexts values =>
    have initialized := StorageBackendMemory.isInitialized_set storage.memory contexts values
    change (storage.set contexts values).Orderly conversions held
    unfold Careful at careful
    unfold StorageBackendJsonFile.set
    split <;> rename_i memory result
    · simp only [result] at careful initialized
      exact orderly.change (initialized.trans orderly.isInitialized) careful
    · simp only [result] at careful initialized
      exact orderly.replaceMemory (initialized.trans orderly.isInitialized) careful
  | delete contexts key =>
    change (storage.delete contexts key).Orderly conversions held
    unfold Careful at careful
    unfold StorageBackendJsonFile.delete
    split <;> rename_i result
    · simp only [result] at careful
      have initialized :=
        (StorageBackendMemory.isInitialized_delete result).trans orderly.isInitialized
      exact orderly.change initialized careful
    · exact orderly
  | clear => exact orderly.change orderly.isInitialized careful
  | clearAll contexts =>
    change (storage.clearAll contexts).Orderly conversions held
    unfold Careful at careful
    unfold StorageBackendJsonFile.clearAll
    split <;> rename_i result
    · simp only [result] at careful
      exact orderly.replaceMemory
        ((StorageBackendMemory.isInitialized_clearAll result).trans orderly.isInitialized) careful
    · exact orderly
  | timerFires => exact orderly.timerFires careful
  | writeCompletes write => exact orderly.writeCompletes write

end

/-- In a careful run the file holds the store at rest, where it did when it was opened or there
has been a change since, and the promises of the commits are resolved with the writes. -/
theorem durable_of_careful (conversions : NumberConversions) {file : Option (List CodeUnit)}
    {store : Store} {events : List Event}
    (careful : Along (step conversions) (Careful conversions) (opened file store) events)
    (known : (opened file store).FileHoldsStore conversions ∨
      (run (step conversions) (opened file store) events).changes ≠ 0) :
    (run (step conversions) (opened file store) events).Durable conversions := by
  refine Orderly.durable ?_ known
  refine run_invariant_along
    (fun storage => storage.Orderly conversions ((opened file store).FileHoldsStore conversions)) ?_
    (orderly_opened conversions file store) careful
  intro storage event careful orderly
  exact orderly.step careful

def openedEmpty : StorageBackendJsonFile := opened (some (text "{}")) .empty

def setFlag (key : String) (value : Bool) : Event := .set ["fabrics"] [(key, .boolean value)]

theorem durable_of_careful_twoCommits :
    (run (step wholeConversions) openedEmpty
      [setFlag "first" true, setFlag "second" true, .timerFires, .writeCompletes 0, .clear,
        .timerFires, .writeCompletes 1]).Durable wholeConversions :=
  durable_of_careful wholeConversions (by
    refine ⟨rfl, rfl, fun _ => ⟨_, rfl⟩, trivial, rfl, fun _ => ⟨_, rfl⟩, trivial, trivial⟩)
    (.inl ⟨_, rfl, rfl⟩)

/-- The second change is made during the write of the first one, whose end resolves its
promise. -/
theorem durable_false :
    ¬(run (step wholeConversions) openedEmpty
      [setFlag "first" true, .timerFires, setFlag "second" true,
        .writeCompletes 0]).Durable wholeConversions := by
  intro durable
  have kept := durable.commitmentsKept ⟨2, 2⟩ (by decide +kernel)
  exact absurd kept (by decide +kernel)

/-- At rest after a careful run, the file is read back as the store, if that survives. -/
theorem readsStore_of_careful (conversions : NumberConversions) {file : Option (List CodeUnit)}
    {store : Store} {events : List Event}
    (careful : Along (step conversions) (Careful conversions) (opened file store) events)
    (changed : (run (step conversions) (opened file store) events).changes ≠ 0)
    (atRest : (run (step conversions) (opened file store) events).AtRest)
    (supported :
      Supported (run (step conversions) (opened file store) events).memory.store.object)
    (survives :
      Survives (run (step conversions) (opened file store) events).memory.store.object) :
    ∃ content, (run (step conversions) (opened file store) events).file = some content ∧
      fromJson conversions content =
        .ok (run (step conversions) (opened file store) events).memory.store.object := by
  have orderly := run_invariant_along
    (fun storage => storage.Orderly conversions ((opened file store).FileHoldsStore conversions))
    (fun _ _ careful orderly => orderly.step careful) (orderly_opened conversions file store) careful
  rcases (orderly.durable (.inr changed)).fileHoldsStore atRest with ⟨content, written, holds⟩
  rcases fromJson_toJson_of_survives supported survives with ⟨json, writes, reads⟩
  rw [serialized, writes] at written
  cases written
  exact ⟨content, holds, reads⟩

theorem readsStore_of_careful_flag :
    ∃ content, (run (step wholeConversions) openedEmpty
        [setFlag "first" true, .timerFires, .writeCompletes 0]).file = some content ∧
      fromJson wholeConversions content = .ok (.object [(text "fabrics",
        .object [(text "first", .boolean true)])]) := by
  refine readsStore_of_careful wholeConversions
    (⟨rfl, fun _ => ⟨_, rfl⟩, trivial, trivial⟩) (by decide) ⟨rfl, rfl⟩ ?_ ?_
  · exact ⟨by decide, ⟨by decide, trivial, trivial⟩, trivial⟩
  · exact ⟨rfl, ⟨rfl, trivial, trivial⟩, trivial⟩

end StorageBackendJsonFile

end MatterJs.Nodejs
