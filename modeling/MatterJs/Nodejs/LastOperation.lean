import MatterJs.Foundation.Execution
import MatterJs.General.StringifyRoundTrip
import MatterJs.Nodejs.StorageBackendDiskAsync

/-! When the storage on disk keeps the last operation on each key, whatever the order in which
the steps of the file system come to their ends. -/

namespace MatterJs.Nodejs

open Execution General General.StringifyTools JsonText StorageBackendDiskAsync

namespace StorageBackendDiskAsync

variable (storage : StorageBackendDiskAsync)

def IsIdle : Prop :=
  ∀ file, storage.pending file = noPending

def CallSucceeds (call : Nat) : Prop :=
  call ∉ storage.thrown ∧ ∀ operation ∈ storage.operations, operation.call = call →
    storage.outcomes operation.part = some .succeeded

/-- For each key `get` returns the value of the last operation on it that has succeeded, and a
`set` has failed only if one of its own operations on files has. -/
structure LastWins (conversions : NumberConversions) (storage : StorageBackendDiskAsync) :
    Prop where
  get : ∀ operation ∈ storage.operations, storage.CallSucceeds operation.call →
    (∀ other ∈ storage.operations, other.contexts = operation.contexts →
      other.key = operation.key → storage.CallSucceeds other.call →
      other.part ≤ operation.part) →
    storage.get conversions operation.contexts operation.key = .ok operation.value
  set : ∀ call ∈ storage.sets, ¬storage.CallSucceeds call →
    ∃ operation ∈ storage.operations, operation.call = call ∧
      storage.outcomes operation.part = some .failed

/-! ## The steps that keep it -/

/-- The file of a key is neither that of another key, nor the temporary file of a key or the
other way round. -/
def KeepsApart (contexts : List String) (key file : String) : Prop :=
  ∀ operation ∈ storage.operations,
    operation.file ≠ temporaryName file ∧ file ≠ temporaryName operation.file ∧
      (operation.file = file → operation.contexts = contexts ∧ operation.key = key)

/-- The parts of the file's sets that may still change the file, in the order of their turns -/
def queue (pending : PendingFile) : List Nat :=
  (pending.blocker.filter (·.phase ≠ .ended)).toList.map BlockingWrite.part ++
    pending.waiters.map Waiter.part

/-- A value with a text that is read back is set while no delete of its key is pending, and
while no set of it waits for a write that is over. -/
def CarefulWrites (conversions : NumberConversions) (call : Nat) (contexts : List String) :
    StorageBackendDiskAsync → List (String × StorageValue) → Prop
  | _, [] => True
  | storage, (key, value) :: values =>
    match prepare conversions contexts key value with
    | some (file, text) =>
      fromJson conversions text = .ok value ∧ storage.KeepsApart contexts key file ∧
        (storage.pending file).deletes = [] ∧
        ((storage.pending file).blocker = none → (storage.pending file).waiters = []) ∧
        CarefulWrites conversions call contexts
          (storage.issueWrite call contexts key file value text) values
    | none => False

/-- An operation on a file fails only for a set of a single value. -/
def MayFail (part : Nat) : Prop :=
  ∀ operation ∈ storage.operations, operation.part = part →
    ∀ other ∈ storage.operations, other.call = operation.call → other.part = part

def Careful (conversions : NumberConversions) (storage : StorageBackendDiskAsync) :
    Event → Prop
  | .set contexts values =>
    CarefulWrites conversions storage.calls contexts
      { storage with calls := storage.calls + 1, sets := storage.calls :: storage.sets } values
  | .delete contexts key =>
    match buildStorageKey contexts key with
    | .ok file => storage.KeepsApart contexts key file
    | .error _ => False
  | .writeFileEnds file fails | .renameEnds file fails =>
    fails = true → ∀ write, (storage.pending file).blocker = some write → storage.MayFail write.part
  | .settles file promise =>
    ∀ write ∈ (storage.pending file).finished, write.part = promise → write.fails = true →
      ∀ waiter ∈ (storage.pending file).waiters, waiter.promise ≠ promise
  | .rmStarts file _ => queue (storage.pending file) = []
  | _ => True

/-! ## The invariant -/

def Holds (conversions : NumberConversions) (operation : Operation)
    (content : Option (List CodeUnit)) : Prop :=
  if operation.isDelete then content = none
  else ∃ text, content = some text ∧ fromJson conversions text = .ok operation.value

structure FileOrderly (conversions : NumberConversions) (operations : List Operation)
    (outcomes : Nat → Option PartOutcome) (pending : PendingFile)
    (content temporary : Option (List CodeUnit)) : Prop where
  /-- The sets take their turns in the order in which they were issued. -/
  ordered : (queue pending).Pairwise (· < ·)
  /-- A set that takes its turn is later than all that have succeeded. -/
  queued : ∀ part ∈ queue pending, outcomes part = none ∧
    ∀ operation ∈ operations, outcomes operation.part = some .succeeded → operation.part < part
  blocking : ∀ write, pending.blocker = some write → ∃ operation ∈ operations,
    operation.part = write.part ∧ operation.isDelete = false ∧
      fromJson conversions write.text = .ok operation.value
  waiting : ∀ waiter ∈ pending.waiters, ∃ operation ∈ operations,
    operation.part = waiter.part ∧ operation.isDelete = false ∧
      fromJson conversions waiter.text = .ok operation.value
  finishing : ∀ write ∈ pending.finished, ∃ operation ∈ operations, operation.part = write.part
  temporaryWritten : ∀ write, pending.blocker = some write → write.phase = .renaming →
    temporary = some write.text
  /-- The waiters wait for one write, which is the blocker where there is one. -/
  promises : ∀ waiter ∈ pending.waiters,
    (∀ write, pending.blocker = some write → waiter.promise = write.part) ∧
      (pending.blocker = none → (∃ write ∈ pending.finished, write.part = waiter.promise) ∧
        ∀ other ∈ pending.waiters, other.promise = waiter.promise)
  deletes : ∀ delete ∈ pending.deletes, outcomes delete.part = none ∧
    (∃ operation ∈ operations, operation.part = delete.part ∧ operation.isDelete = true) ∧
    (∀ part ∈ queue pending, part < delete.part) ∧
    (∀ operation ∈ operations, delete.part < operation.part → operation.isDelete = true) ∧
    (delete.phase = .removing → queue pending = [])
  unfinished : ∀ operation ∈ operations, outcomes operation.part = none →
    operation.part ∈ queue pending ∨ ∃ delete ∈ pending.deletes, delete.part = operation.part
  content : ∀ operation ∈ operations, outcomes operation.part = some .succeeded →
    (∀ other ∈ operations, outcomes other.part = some .succeeded →
      other.part ≤ operation.part) → Holds conversions operation content

def operationsOn (file : String) : List Operation :=
  storage.operations.filter (·.file = file)

structure Orderly (conversions : NumberConversions) (storage : StorageBackendDiskAsync) :
    Prop where
  parts : ∀ operation ∈ storage.operations, operation.part < storage.parts
  distinct : ∀ operation ∈ storage.operations, ∀ other ∈ storage.operations,
    operation.part = other.part → operation = other
  outcomes : ∀ part outcome, storage.outcomes part = some outcome → part < storage.parts
  keys : ∀ operation ∈ storage.operations,
    buildStorageKey operation.contexts operation.key = .ok operation.file
  apart : ∀ operation ∈ storage.operations, ∀ other ∈ storage.operations,
    operation.file ≠ temporaryName other.file ∧
      (operation.file = other.file →
        operation.contexts = other.contexts ∧ operation.key = other.key)
  notThrown : ∀ call ∈ storage.thrown, False
  calls : ∀ operation ∈ storage.operations, operation.call < storage.calls
  deleteCalls : ∀ operation ∈ storage.operations, operation.isDelete = true →
    ∀ other ∈ storage.operations, other.call = operation.call → other.part = operation.part
  sets : ∀ call ∈ storage.sets, call < storage.calls
  setCalls : ∀ operation ∈ storage.operations, operation.call ∈ storage.sets →
    operation.isDelete = false
  deleteValues : ∀ operation ∈ storage.operations, operation.isDelete = true →
    operation.value = .undefined
  notRejected : ∀ operation ∈ storage.operations, operation.isDelete = false →
    storage.outcomes operation.part ≠ some .rejected
  failures : ∀ operation ∈ storage.operations,
    storage.outcomes operation.part = some .failed → storage.MayFail operation.part
  files : ∀ file, FileOrderly conversions (storage.operationsOn file) storage.outcomes
    (storage.pending file) (storage.disk file) (storage.disk (temporaryName file))

/-! ## One file -/

theorem temporaryName_ne (file : String) : file ≠ temporaryName file := by
  intro same
  have length := congrArg String.length same
  rw [temporaryName] at length
  exact absurd length (by simp)

theorem temporaryName_injective {file other : String}
    (same : temporaryName file = temporaryName other) : file = other :=
  (String.append_left_inj ".tmp").mp same

theorem queue_writeFile {pending : PendingFile}
    (free : pending.blocker = none → pending.waiters = []) (part : Nat) (text : List CodeUnit) :
    queue (writeFile pending part text) = queue pending ++ [part] := by
  unfold writeFile
  split
  · rename_i write isBlocked
    simp [queue]
  · rename_i isFree
    simp [queue, isFree, free isFree]

theorem retry_of_blocked {pending : PendingFile} {write : BlockingWrite}
    (isBlocked : pending.blocker = some write) (waiters : List Waiter) :
    retry pending waiters =
      { pending with
        waiters := pending.waiters ++
          waiters.map fun waiter => { waiter with promise := write.part } } := by
  induction waiters generalizing pending with
  | nil => simp [retry]
  | cons waiter waiters induction =>
    have first : writeFile pending waiter.part waiter.text =
        { pending with
          waiters := pending.waiters ++ [{ waiter with promise := write.part }] } := by
      simp [writeFile, isBlocked]
    have others := @induction
      { pending with waiters := pending.waiters ++ [{ waiter with promise := write.part }] }
      isBlocked
    rw [retry, List.foldl_cons, first]
    rw [retry] at others
    rw [others, List.map_cons, List.append_assoc, List.singleton_append]

namespace FileOrderly

variable {conversions : NumberConversions} {operations : List Operation}
  {outcomes : Nat → Option PartOutcome} {pending : PendingFile}
  {content temporary : Option (List CodeUnit)}

theorem queue_of_active {write : BlockingWrite} (isBlocking : pending.blocker = some write)
    (active : write.phase ≠ .ended) :
    queue pending = write.part :: pending.waiters.map Waiter.part := by
  rw [queue, isBlocking, Option.filter_some_pos (by simpa using active)]
  rfl

variable (orderly : FileOrderly conversions operations outcomes pending content temporary)

include orderly

theorem exists_of_queue {part : Nat}
    (member : part ∈ queue pending) : ∃ operation ∈ operations, operation.part = part := by
  rw [queue, List.mem_append, List.mem_map, List.mem_map] at member
  rcases member with ⟨write, isBlocking, rfl⟩ | ⟨waiter, isWaiting, rfl⟩
  · rw [Option.mem_toList, Option.filter_eq_some_iff] at isBlocking
    rcases orderly.blocking write isBlocking.1 with ⟨operation, member, same, _⟩
    exact ⟨operation, member, same⟩
  · rcases orderly.waiting waiter isWaiting with ⟨operation, member, same, _⟩
    exact ⟨operation, member, same⟩

theorem frame
    {others : Nat → Option PartOutcome} {changed changedTemporary : Option (List CodeUnit)}
    (sameOutcomes : ∀ operation ∈ operations, others operation.part = outcomes operation.part)
    (same : operations ≠ [] → changed = content ∧ changedTemporary = temporary) :
    FileOrderly conversions operations others pending changed changedTemporary where
  ordered := orderly.ordered
  queued := by
    intro part member
    rcases orderly.exists_of_queue member with ⟨operation, isOperation, rfl⟩
    rw [sameOutcomes operation isOperation]
    refine ⟨(orderly.queued _ member).1, fun other isOther succeeded => ?_⟩
    rw [sameOutcomes other isOther] at succeeded
    exact (orderly.queued _ member).2 other isOther succeeded
  blocking := orderly.blocking
  waiting := orderly.waiting
  finishing := orderly.finishing
  temporaryWritten := by
    intro write isBlocking isRenaming
    rcases orderly.blocking write isBlocking with ⟨operation, member, _⟩
    rw [(same (List.ne_nil_of_mem member)).2]
    exact orderly.temporaryWritten write isBlocking isRenaming
  promises := orderly.promises
  deletes := by
    intro delete member
    rcases orderly.deletes delete member with ⟨unfinished, ⟨operation, isOperation, isPart⟩, rest⟩
    refine ⟨?_, ⟨operation, isOperation, isPart⟩, rest⟩
    rw [← isPart.1, sameOutcomes operation isOperation, isPart.1]
    exact unfinished
  unfinished := by
    intro operation member isUnfinished
    rw [sameOutcomes operation member] at isUnfinished
    exact orderly.unfinished operation member isUnfinished
  content := by
    intro operation member succeeded isLast
    rw [sameOutcomes operation member] at succeeded
    rw [(same (List.ne_nil_of_mem member)).1]
    refine orderly.content operation member succeeded fun other isOther otherSucceeded => ?_
    rw [← sameOutcomes other isOther] at otherSucceeded
    exact isLast other isOther otherSucceeded

theorem part_lt
    {parts : Nat} (bound : ∀ operation ∈ operations, operation.part < parts) {part : Nat}
    (member : part ∈ queue pending) : part < parts := by
  rcases orderly.exists_of_queue member with ⟨operation, isOperation, rfl⟩
  exact bound operation isOperation

theorem issueWrite
    {added : Operation} (bound : ∀ operation ∈ operations, operation.part < added.part)
    (isNew : outcomes added.part = none) (isSet : added.isDelete = false)
    {text : List CodeUnit} (reads : fromJson conversions text = .ok added.value)
    (noDelete : pending.deletes = []) (free : pending.blocker = none → pending.waiters = []) :
    FileOrderly conversions (added :: operations) outcomes
      (writeFile pending added.part text) content temporary := by
  have waits : ∀ write, pending.blocker = some write → writeFile pending added.part text =
      { pending with waiters := pending.waiters ++ [⟨added.part, write.part, text⟩] } := by
    intro write isBlocked
    simp [writeFile, isBlocked]
  have starts : pending.blocker = none → writeFile pending added.part text =
      { pending with blocker := some ⟨added.part, text, .temporary, false⟩ } := by
    intro isFree
    simp [writeFile, isFree]
  have stays : ∀ {isOperation : Operation → Prop},
      (∃ operation ∈ operations, isOperation operation) →
        ∃ operation ∈ added :: operations, isOperation operation := by
    rintro isOperation ⟨operation, member, holds⟩
    exact ⟨operation, List.mem_cons_of_mem _ member, holds⟩
  refine ⟨?_, ?_, ?_, ?_, ?_, ?_, ?_, ?_, ?_, ?_⟩
  · rw [queue_writeFile free, List.pairwise_append]
    refine ⟨orderly.ordered, List.pairwise_singleton _ _, fun part member other isNew => ?_⟩
    rw [List.mem_singleton.mp isNew]
    exact orderly.part_lt bound member
  · intro part member
    rw [queue_writeFile free, List.mem_append, List.mem_singleton] at member
    rcases member with earlier | rfl
    · refine ⟨(orderly.queued part earlier).1, List.forall_mem_cons.mpr ⟨?_, ?_⟩⟩
      · intro succeeded
        rw [isNew] at succeeded
        exact nomatch succeeded
      · exact (orderly.queued part earlier).2
    · refine ⟨isNew, List.forall_mem_cons.mpr ⟨?_, fun operation isOperation _ => ?_⟩⟩
      · intro succeeded
        rw [isNew] at succeeded
        exact nomatch succeeded
      · exact bound operation isOperation
  · cases blocked : pending.blocker with
    | some write =>
      intro other isBlocking
      rw [waits write blocked] at isBlocking
      exact stays (orderly.blocking other isBlocking)
    | none =>
      intro other isBlocking
      rw [starts blocked] at isBlocking
      rw [← Option.some.inj isBlocking]
      exact ⟨added, List.mem_cons_self .., rfl, isSet, reads⟩
  · cases blocked : pending.blocker with
    | some write =>
      intro waiter isWaiting
      rw [waits write blocked, List.mem_append, List.mem_singleton] at isWaiting
      rcases isWaiting with earlier | rfl
      · exact stays (orderly.waiting waiter earlier)
      · exact ⟨added, List.mem_cons_self .., rfl, isSet, reads⟩
    | none =>
      intro waiter isWaiting
      rw [starts blocked] at isWaiting
      exact stays (orderly.waiting waiter isWaiting)
  · intro write isFinished
    have same : (writeFile pending added.part text).finished = pending.finished := by
      unfold writeFile
      split <;> rfl
    rw [same] at isFinished
    exact stays (orderly.finishing write isFinished)
  · cases blocked : pending.blocker with
    | some write =>
      intro other isBlocking
      rw [waits write blocked] at isBlocking
      exact orderly.temporaryWritten other isBlocking
    | none =>
      intro other isBlocking isRenaming
      rw [starts blocked] at isBlocking
      rw [← Option.some.inj isBlocking] at isRenaming
      exact nomatch isRenaming
  · cases blocked : pending.blocker with
    | some write =>
      intro waiter isWaiting
      rw [waits write blocked, List.mem_append, List.mem_singleton] at isWaiting
      rw [waits write blocked]
      refine ⟨fun other isBlocking => ?_, fun isFree => nomatch blocked.symm.trans isFree⟩
      rcases isWaiting with earlier | rfl
      · exact (orderly.promises waiter earlier).1 other isBlocking
      · rw [Option.some.inj (blocked.symm.trans isBlocking)]
    | none =>
      intro waiter isWaiting
      rw [starts blocked] at isWaiting
      rw [free blocked] at isWaiting
      exact nomatch isWaiting
  · intro delete member
    have same : (writeFile pending added.part text).deletes = pending.deletes := by
      unfold writeFile
      split <;> rfl
    rw [same, noDelete] at member
    exact nomatch member
  · rw [queue_writeFile free]
    refine List.forall_mem_cons.mpr ⟨fun _ => .inl (by simp), fun operation member isNone => ?_⟩
    rcases orderly.unfinished operation member isNone with inQueue | ⟨delete, isDelete, _⟩
    · exact .inl (List.mem_append_left _ inQueue)
    · rw [noDelete] at isDelete
      exact nomatch isDelete
  · refine List.forall_mem_cons.mpr ⟨fun succeeded => ?_, ?_⟩
    · rw [isNew] at succeeded
      exact nomatch succeeded
    · intro operation member succeeded isLast
      exact orderly.content operation member succeeded (List.forall_mem_cons.mp isLast).2

theorem issueDelete
    {added : Operation} (bound : ∀ operation ∈ operations, operation.part < added.part)
    (isNew : outcomes added.part = none) (isDelete : added.isDelete = true)
    {delete : PendingDelete} (isPart : delete.part = added.part)
    (notRemoving : delete.phase ≠ .removing) :
    FileOrderly conversions (added :: operations) outcomes (addDelete pending delete) content
      temporary := by
  have stays : ∀ {isOperation : Operation → Prop},
      (∃ operation ∈ operations, isOperation operation) →
        ∃ operation ∈ added :: operations, isOperation operation := by
    rintro isOperation ⟨operation, member, holds⟩
    exact ⟨operation, List.mem_cons_of_mem _ member, holds⟩
  have notSucceeded : outcomes added.part ≠ some .succeeded := by
    rw [isNew]
    exact nofun
  refine ⟨orderly.ordered, ?_, fun write isBlocking => stays (orderly.blocking write isBlocking),
    fun waiter isWaiting => stays (orderly.waiting waiter isWaiting),
    fun write isFinished => stays (orderly.finishing write isFinished),
    orderly.temporaryWritten, orderly.promises, ?_, ?_, ?_⟩
  · intro part member
    exact ⟨(orderly.queued part member).1, List.forall_mem_cons.mpr
      ⟨fun succeeded => absurd succeeded notSucceeded, (orderly.queued part member).2⟩⟩
  · refine List.forall_mem_cons.mpr ⟨?_, fun earlier member => ?_⟩
    · rw [isPart]
      refine ⟨isNew, ⟨added, List.mem_cons_self .., rfl, isDelete⟩,
        fun part member => orderly.part_lt bound member,
        List.forall_mem_cons.mpr ⟨fun _ => isDelete, fun operation isOperation later => ?_⟩,
        fun removing => absurd removing notRemoving⟩
      exact absurd later (Nat.lt_asymm (bound operation isOperation))
    · rcases orderly.deletes earlier member with ⟨isNone, isOperation, before, later, removing⟩
      exact ⟨isNone, stays isOperation, before,
        List.forall_mem_cons.mpr ⟨fun _ => isDelete, later⟩, removing⟩
  · refine List.forall_mem_cons.mpr ⟨fun _ => .inr ⟨delete, List.mem_cons_self .., isPart⟩, ?_⟩
    intro operation member isNone
    rcases orderly.unfinished operation member isNone with inQueue | ⟨other, isOther, same⟩
    · exact .inl inQueue
    · exact .inr ⟨other, List.mem_cons_of_mem _ isOther, same⟩
  · refine List.forall_mem_cons.mpr ⟨fun succeeded => absurd succeeded notSucceeded, ?_⟩
    intro operation member succeeded isLast
    exact orderly.content operation member succeeded (List.forall_mem_cons.mp isLast).2

theorem startRename {write : BlockingWrite} (isBlocking : pending.blocker = some write)
    (active : write.phase ≠ .ended) :
    FileOrderly conversions operations outcomes
      { pending with blocker := some { write with phase := .renaming } } content
      (some write.text) := by
  have sameQueue : queue { pending with blocker := some { write with phase := .renaming } } =
      queue pending := by
    rw [queue_of_active isBlocking active,
      queue_of_active rfl (show WritePhase.renaming ≠ .ended by decide)]
  refine ⟨?_, ?_, ?_, orderly.waiting, orderly.finishing, ?_, ?_, ?_, ?_, orderly.content⟩
  · rw [sameQueue]
    exact orderly.ordered
  · rw [sameQueue]
    exact orderly.queued
  · intro other isOther
    rw [← Option.some.inj isOther]
    exact orderly.blocking write isBlocking
  · intro other isOther _
    rw [← Option.some.inj isOther]
  · intro waiter isWaiting
    refine ⟨fun other isOther => ?_, nofun⟩
    rw [← Option.some.inj isOther]
    exact (orderly.promises waiter isWaiting).1 write isBlocking
  · rw [sameQueue]
    exact orderly.deletes
  · rw [sameQueue]
    exact orderly.unfinished

theorem endWrite
    (distinct : ∀ operation ∈ operations, ∀ other ∈ operations, operation.part = other.part →
      operation = other)
    {write : BlockingWrite} (isBlocking : pending.blocker = some write)
    (active : write.phase ≠ .ended) {fails : Bool} {changed : Option (List CodeUnit)}
    (isContent : changed = if fails then content else some write.text)
    (changedTemporary : Option (List CodeUnit)) :
    FileOrderly conversions operations
      (Function.update outcomes write.part (some (if fails then .failed else .succeeded)))
      { pending with blocker := some { write with phase := .ended, fails } } changed
      changedTemporary := by
  have isQueue := queue_of_active isBlocking active
  have newQueue : queue { pending with blocker := some { write with phase := .ended, fails } } =
      pending.waiters.map Waiter.part := by
    rfl
  have ordered := orderly.ordered
  have queued := orderly.queued
  rw [isQueue] at ordered queued
  rw [List.pairwise_cons] at ordered
  have later : ∀ part ∈ pending.waiters.map Waiter.part, part ≠ write.part :=
    fun part member => Nat.ne_of_gt (ordered.1 part member)
  rcases orderly.blocking write isBlocking with ⟨mine, isMine, myPart, isSet, reads⟩
  have succeededBefore : ∀ operation ∈ operations, operation.part ≠ write.part →
      Function.update outcomes write.part (some (if fails then .failed else .succeeded))
        operation.part = outcomes operation.part :=
    fun operation _ different => Function.update_of_ne different _ _
  refine ⟨?_, ?_, ?_, orderly.waiting, orderly.finishing, ?_, ?_, ?_, ?_, ?_⟩
  · rw [newQueue]
    exact ordered.2
  · rw [newQueue]
    intro part member
    rw [Function.update_of_ne (later part member)]
    have before := queued part (List.mem_cons_of_mem _ member)
    refine ⟨before.1, fun operation isOperation succeeded => ?_⟩
    by_cases same : operation.part = write.part
    · rw [same]
      exact ordered.1 part member
    · rw [succeededBefore operation isOperation same] at succeeded
      exact before.2 operation isOperation succeeded
  · intro other isOther
    rw [← Option.some.inj isOther]
    exact orderly.blocking write isBlocking
  · intro other isOther isRenaming
    rw [← Option.some.inj isOther] at isRenaming
    exact nomatch isRenaming
  · intro waiter isWaiting
    refine ⟨fun other isOther => ?_, nofun⟩
    rw [← Option.some.inj isOther]
    exact (orderly.promises waiter isWaiting).1 write isBlocking
  · intro delete member
    rcases orderly.deletes delete member with ⟨isNone, isOperation, before, others, removing⟩
    rw [isQueue] at before removing
    rw [Function.update_of_ne (Nat.ne_of_gt (before _ (List.mem_cons_self ..)))]
    exact ⟨isNone, isOperation, fun part member => before part (List.mem_cons_of_mem _ member),
      others, fun isRemoving => nomatch removing isRemoving⟩
  · intro operation member isNone
    have different : operation.part ≠ write.part := by
      intro same
      rw [same, Function.update_self] at isNone
      exact nomatch isNone
    rw [succeededBefore operation member different] at isNone
    rcases orderly.unfinished operation member isNone with inQueue | isDelete
    · rw [isQueue, List.mem_cons] at inQueue
      exact .inl (inQueue.resolve_left different)
    · exact .inr isDelete
  · intro operation member succeeded isLast
    by_cases same : operation.part = write.part
    · rw [same, Function.update_self] at succeeded
      cases fails with
      | true => exact nomatch succeeded
      | false =>
        rw [distinct operation member mine isMine (same.trans myPart.symm), Holds, isSet, isContent]
        exact ⟨write.text, rfl, reads⟩
    · rw [succeededBefore operation member same] at succeeded
      have earlier := (queued write.part (List.mem_cons_self ..)).2 operation member succeeded
      cases fails with
      | true =>
        rw [isContent]
        refine orderly.content operation member succeeded fun other isOther otherSucceeded => ?_
        apply isLast other isOther
        by_cases isWrite : other.part = write.part
        · rw [isWrite, (queued write.part (List.mem_cons_self ..)).1] at otherSucceeded
          exact nomatch otherSucceeded
        · rw [succeededBefore other isOther isWrite]
          exact otherSucceeded
      | false =>
        have last := isLast mine isMine (by
          rw [myPart, Function.update_self]
          rfl)
        rw [myPart] at last
        exact absurd earlier (Nat.not_lt.mpr last)

theorem finallyRuns {write : BlockingWrite} (isBlocking : pending.blocker = some write)
    (ended : write.phase = .ended) :
    FileOrderly conversions operations outcomes
      { pending with
        blocker := none
        finished := ⟨write.part, write.fails⟩ :: pending.finished } content temporary := by
  have sameQueue : queue { pending with
        blocker := none
        finished := ⟨write.part, write.fails⟩ :: pending.finished } = queue pending := by
    rw [queue, queue, isBlocking, Option.filter_some_neg (by simpa using ended)]
    rfl
  refine ⟨?_, ?_, nofun, orderly.waiting, ?_, nofun, ?_, ?_, ?_, orderly.content⟩
  · rw [sameQueue]
    exact orderly.ordered
  · rw [sameQueue]
    exact orderly.queued
  · refine List.forall_mem_cons.mpr ⟨?_, orderly.finishing⟩
    rcases orderly.blocking write isBlocking with ⟨operation, member, samePart, _⟩
    exact ⟨operation, member, samePart⟩
  · intro waiter isWaiting
    have promise := fun other isOther =>
      (orderly.promises other isOther).1 write isBlocking
    refine ⟨nofun, fun _ => ⟨?_, fun other isOther => ?_⟩⟩
    · exact ⟨_, List.mem_cons_self .., (promise waiter isWaiting).symm⟩
    · rw [promise other isOther, promise waiter isWaiting]
  · rw [sameQueue]
    exact orderly.deletes
  · rw [sameQueue]
    exact orderly.unfinished

theorem dropFinished {promise : Nat} (unawaited : pending.blocker = none →
      ∀ waiter ∈ pending.waiters, waiter.promise ≠ promise) :
    FileOrderly conversions operations outcomes
      { pending with finished := pending.finished.filter (·.part ≠ promise) } content
      temporary :=
  { orderly with
    finishing := fun write isFinished => orderly.finishing write (List.mem_of_mem_filter isFinished)
    promises := by
      intro waiter isWaiting
      refine ⟨(orderly.promises waiter isWaiting).1, fun isFree => ?_⟩
      rcases (orderly.promises waiter isWaiting).2 isFree with ⟨⟨write, isFinished, same⟩, all⟩
      refine ⟨⟨write, List.mem_filter.mpr ⟨isFinished, ?_⟩, same⟩, all⟩
      rw [decide_eq_true_eq, same]
      exact unawaited isFree waiter isWaiting }

theorem startNext (isFree : pending.blocker = none) {first : Waiter} {waiters : List Waiter}
    (isWaiters : pending.waiters = first :: waiters) {finished : List FinishedWrite}
    (fewer : ∀ write ∈ finished, write ∈ pending.finished) :
    FileOrderly conversions operations outcomes
      { pending with
        blocker := some ⟨first.part, first.text, .temporary, false⟩
        finished
        waiters := waiters.map fun waiter => { waiter with promise := first.part } } content
      temporary := by
  have sameQueue : queue { pending with
        blocker := some ⟨first.part, first.text, .temporary, false⟩
        finished
        waiters := waiters.map fun waiter => { waiter with promise := first.part } } =
      queue pending := by
    rw [queue_of_active rfl (show WritePhase.temporary ≠ .ended by decide), queue, isFree,
      isWaiters, List.map_map]
    rfl
  have waiting := orderly.waiting
  rw [isWaiters] at waiting
  refine ⟨?_, ?_, ?_, ?_, fun write isFinished => orderly.finishing write (fewer write isFinished),
    ?_, ?_, ?_, ?_, orderly.content⟩
  · rw [sameQueue]
    exact orderly.ordered
  · rw [sameQueue]
    exact orderly.queued
  · intro write isBlocking
    rw [← Option.some.inj isBlocking]
    exact waiting first (List.mem_cons_self ..)
  · intro waiter isWaiting
    rcases List.mem_map.mp isWaiting with ⟨earlier, isEarlier, rfl⟩
    exact waiting earlier (List.mem_cons_of_mem _ isEarlier)
  · intro write isBlocking isRenaming
    rw [← Option.some.inj isBlocking] at isRenaming
    exact nomatch isRenaming
  · intro waiter isWaiting
    rcases List.mem_map.mp isWaiting with ⟨earlier, isEarlier, rfl⟩
    refine ⟨fun write isBlocking => ?_, nofun⟩
    rw [← Option.some.inj isBlocking]
  · rw [sameQueue]
    exact orderly.deletes
  · rw [sameQueue]
    exact orderly.unfinished

theorem all_or_none (promise : Nat) :
    (∀ waiter ∈ pending.waiters, waiter.promise = promise) ∨
      ∀ waiter ∈ pending.waiters, waiter.promise ≠ promise := by
  cases isWaiters : pending.waiters with
  | nil => exact .inl nofun
  | cons first waiters =>
    have isFirst : first ∈ pending.waiters := by
      rw [isWaiters]
      exact List.mem_cons_self ..
    have same : ∀ waiter ∈ pending.waiters, waiter.promise = first.promise := by
      intro waiter isWaiting
      cases isBlocked : pending.blocker with
      | some write =>
        rw [(orderly.promises waiter isWaiting).1 write isBlocked,
          (orderly.promises first isFirst).1 write isBlocked]
      | none => exact ((orderly.promises first isFirst).2 isBlocked).2 waiter isWaiting
    rw [← isWaiters]
    by_cases isPromise : first.promise = promise
    · exact .inl fun waiter isWaiting => (same waiter isWaiting).trans isPromise
    · refine .inr fun waiter isWaiting => ?_
      rw [same waiter isWaiting]
      exact isPromise

theorem fulfil (promise : Nat) :
    FileOrderly conversions operations outcomes
      (retry { pending with
          finished := pending.finished.filter (·.part ≠ promise)
          waiters := pending.waiters.filter (·.promise ≠ promise) }
        (pending.waiters.filter (·.promise = promise))) content temporary := by
  rcases orderly.all_or_none promise with all | isNone
  · have mine : pending.waiters.filter (·.promise = promise) = pending.waiters :=
      List.filter_eq_self.mpr fun waiter isWaiting => decide_eq_true (all waiter isWaiting)
    have others : pending.waiters.filter (·.promise ≠ promise) = [] :=
      List.filter_eq_nil_iff.mpr fun waiter isWaiting => by simp [all waiter isWaiting]
    rw [mine, others]
    rcases Option.eq_none_or_eq_some pending.blocker with isFree | ⟨write, isBlocked⟩
    · cases isWaiters : pending.waiters with
      | nil =>
        have dropped := @dropFinished _ _ _ _ _ _ orderly promise fun _ => by
          rw [isWaiters]
          exact nofun
        rw [isWaiters] at dropped
        exact dropped
      | cons first waiters =>
        have started := @startNext _ _ _ _ _ _ orderly isFree _ _ isWaiters
          (pending.finished.filter (·.part ≠ promise)) fun _ => List.mem_of_mem_filter
        have retried := @retry_of_blocked { pending with
          blocker := some ⟨first.part, first.text, .temporary, false⟩
          finished := pending.finished.filter (·.part ≠ promise)
          waiters := [] } _ rfl waiters
        rw [List.nil_append] at retried
        rw [← retried] at started
        rw [retry, List.foldl_cons]
        have next : writeFile { pending with
            finished := pending.finished.filter (·.part ≠ promise)
            waiters := [] } first.part first.text = { pending with
            blocker := some ⟨first.part, first.text, .temporary, false⟩
            finished := pending.finished.filter (·.part ≠ promise)
            waiters := [] } := by
          simp [writeFile, isFree]
        rw [next]
        exact started
    · have sameWaiters : (pending.waiters.map fun waiter =>
          ({ waiter with promise := write.part } : Waiter)) = pending.waiters := by
        refine (List.map_congr_left fun waiter isWaiting => ?_).trans (List.map_id _)
        rw [← (orderly.promises waiter isWaiting).1 write isBlocked]
        rfl
      rw [@retry_of_blocked { pending with
          finished := pending.finished.filter (·.part ≠ promise), waiters := [] } write isBlocked,
        sameWaiters]
      exact orderly.dropFinished fun isFree => nomatch isBlocked.symm.trans isFree
  · have mine : pending.waiters.filter (·.promise = promise) = [] :=
      List.filter_eq_nil_iff.mpr fun waiter isWaiting => by simp [isNone waiter isWaiting]
    have others : pending.waiters.filter (·.promise ≠ promise) = pending.waiters :=
      List.filter_eq_self.mpr fun waiter isWaiting => decide_eq_true (isNone waiter isWaiting)
    rw [mine, others]
    exact orderly.dropFinished fun _ => isNone

theorem setDelete {delete changed : PendingDelete} (isDelete : delete ∈ pending.deletes)
    (samePart : changed.part = delete.part) (removes : changed.phase = .removing →
      queue pending = []) :
    FileOrderly conversions operations outcomes
      (addDelete (dropDelete pending changed.part) changed) content temporary :=
  { orderly with
    deletes := by
      rcases orderly.deletes delete isDelete with ⟨isNone, isOperation, before, others, _⟩
      refine List.forall_mem_cons.mpr ⟨?_, fun other isOther => ?_⟩
      · rw [samePart]
        exact ⟨isNone, isOperation, before, others, removes⟩
      · exact orderly.deletes other (List.mem_of_mem_filter isOther)
    unfinished := by
      intro operation member isNone
      rcases orderly.unfinished operation member isNone with inQueue | ⟨other, isOther, same⟩
      · exact .inl inQueue
      · by_cases isChanged : other.part = changed.part
        · exact .inr ⟨changed, List.mem_cons_self .., isChanged.symm.trans same⟩
        · refine .inr ⟨other, List.mem_cons_of_mem _ (List.mem_filter.mpr ⟨isOther, ?_⟩), same⟩
          exact decide_eq_true isChanged }

theorem endDelete
    {delete : PendingDelete} (isDelete : delete ∈ pending.deletes) {outcome : PartOutcome}
    (removes : outcome = .succeeded → delete.phase = .removing)
    {changed : Option (List CodeUnit)}
    (isContent : changed = if outcome = .succeeded then none else content)
    (distinct : ∀ operation ∈ operations, ∀ other ∈ operations, operation.part = other.part →
      operation = other) :
    FileOrderly conversions operations
      (Function.update outcomes delete.part (some outcome)) (dropDelete pending delete.part)
      changed temporary := by
  rcases orderly.deletes delete isDelete with
    ⟨isNone, ⟨mine, isMine, myPart, mineDeletes⟩, before, others, emptyQueue⟩
  have unchanged : ∀ part, part ≠ delete.part →
      Function.update outcomes delete.part (some outcome) part = outcomes part :=
    fun part different => Function.update_of_ne different _ _
  refine ⟨orderly.ordered, ?_, orderly.blocking, orderly.waiting, orderly.finishing,
    orderly.temporaryWritten, orderly.promises, ?_, ?_, ?_⟩
  · intro part member
    rw [unchanged part (Nat.ne_of_lt (before part member))]
    refine ⟨(orderly.queued part member).1, fun operation isOperation succeeded => ?_⟩
    by_cases same : operation.part = delete.part
    · rw [same, Function.update_self] at succeeded
      have empty := emptyQueue (removes (Option.some.inj succeeded))
      change part ∈ queue pending at member
      rw [empty] at member
      exact nomatch member
    · rw [unchanged _ same] at succeeded
      exact (orderly.queued part member).2 operation isOperation succeeded
  · intro other member
    rcases List.mem_filter.mp member with ⟨isOther, different⟩
    rcases orderly.deletes other isOther with ⟨otherNone, rest⟩
    refine ⟨?_, rest⟩
    rw [unchanged _ (of_decide_eq_true different)]
    exact otherNone
  · intro operation member isUnfinished
    have different : operation.part ≠ delete.part := by
      intro same
      rw [same, Function.update_self] at isUnfinished
      exact nomatch isUnfinished
    rw [unchanged _ different] at isUnfinished
    rcases orderly.unfinished operation member isUnfinished with inQueue | ⟨other, isOther, same⟩
    · exact .inl inQueue
    · refine .inr ⟨other, List.mem_filter.mpr ⟨isOther, decide_eq_true ?_⟩, same⟩
      rw [same]
      exact different
  · intro operation member succeeded isLast
    by_cases removed : outcome = .succeeded
    · have last := isLast mine isMine (by rw [myPart, Function.update_self, removed])
      have deletes : operation.isDelete = true := by
        rcases Nat.lt_or_eq_of_le last with less | same
        · exact others operation member (myPart ▸ less)
        · rw [distinct operation member mine isMine same.symm]
          exact mineDeletes
      rw [Holds, deletes, isContent, if_pos removed]
      rfl
    · have different : operation.part ≠ delete.part := by
        intro same
        rw [same, Function.update_self] at succeeded
        exact removed (Option.some.inj succeeded)
      rw [unchanged _ different] at succeeded
      rw [isContent, if_neg removed]
      refine orderly.content operation member succeeded fun other isOther otherSucceeded => ?_
      apply isLast other isOther
      by_cases isMe : other.part = delete.part
      · rw [isMe, isNone] at otherSucceeded
        exact nomatch otherSucceeded
      · rw [unchanged _ isMe]
        exact otherSucceeded

omit orderly in
theorem pending_eq (orderly : FileOrderly conversions [] outcomes pending content temporary) :
    pending = noPending := by
  rcases pending with ⟨blocker, finished, waiters, deletes⟩
  have noBlocker : blocker = none := by
    cases isBlocking : blocker with
    | none => rfl
    | some write =>
      rcases orderly.blocking write isBlocking with ⟨_, member, _⟩
      exact nomatch member
  have noFinished : finished = [] := by
    refine List.eq_nil_iff_forall_not_mem.mpr fun write isFinished => ?_
    rcases orderly.finishing write isFinished with ⟨_, member, _⟩
    exact nomatch member
  have noWaiters : waiters = [] := by
    refine List.eq_nil_iff_forall_not_mem.mpr fun waiter isWaiting => ?_
    rcases orderly.waiting waiter isWaiting with ⟨_, member, _⟩
    exact nomatch member
  have noDeletes : deletes = [] := by
    refine List.eq_nil_iff_forall_not_mem.mpr fun delete isDelete => ?_
    rcases (orderly.deletes delete isDelete).2.1 with ⟨_, member, _⟩
    exact nomatch member
  rw [noBlocker, noFinished, noWaiters, noDeletes]
  rfl

omit orderly in
theorem noOperations (outcomes : Nat → Option PartOutcome)
    (content temporary : Option (List CodeUnit)) :
    FileOrderly conversions [] outcomes noPending content temporary where
  ordered := List.Pairwise.nil
  queued := nofun
  blocking := nofun
  waiting := nofun
  finishing := nofun
  temporaryWritten := nofun
  promises := nofun
  deletes := fun _ member => nomatch member
  unfinished := fun _ member => nomatch member
  content := fun _ member => nomatch member

end FileOrderly

/-! ## All files -/

theorem orderly_opened (conversions : NumberConversions)
    (disk : String → Option (List CodeUnit)) : (opened disk).Orderly conversions where
  parts := nofun
  distinct := fun _ member => nomatch member
  outcomes := nofun
  keys := fun _ member => nomatch member
  apart := fun _ member => nomatch member
  notThrown := nofun
  calls := fun _ member => nomatch member
  deleteCalls := fun _ member => nomatch member
  sets := nofun
  setCalls := fun _ member => nomatch member
  deleteValues := fun _ member => nomatch member
  notRejected := fun _ member => nomatch member
  failures := fun _ member => nomatch member
  files := fun _ => .noOperations _ _ _

namespace Orderly

variable {conversions : NumberConversions} {storage : StorageBackendDiskAsync}

theorem mem_operationsOn {operation : Operation} {file : String} :
    operation ∈ storage.operationsOn file ↔
      operation ∈ storage.operations ∧ operation.file = file := by
  rw [operationsOn, List.mem_filter, decide_eq_true_eq]

theorem operationsOn_issue (call : Nat) (contexts : List String) (key file : String)
    (isDelete : Bool) (value : StorageValue) (other : String) :
    (storage.issue call contexts key file isDelete value).operationsOn other =
      if file = other then
        ⟨storage.parts, call, contexts, key, file, isDelete, value⟩ :: storage.operationsOn other
      else storage.operationsOn other := by
  by_cases same : file = other
  · rw [if_pos same]
    exact List.filter_cons_of_pos (decide_eq_true same)
  · rw [if_neg same]
    exact List.filter_cons_of_neg (by simpa using same)

theorem buildStorageKey_of_prepare {contexts : List String} {key file : String}
    {value : StorageValue} {text : List CodeUnit}
    (prepared : prepare conversions contexts key value = some (file, text)) :
    buildStorageKey contexts key = .ok file := by
  unfold prepare at prepared
  split at prepared
  · rename_i isFile isText
    cases prepared
    exact isFile
  · exact nomatch prepared

variable (orderly : storage.Orderly conversions)

include orderly

theorem distinctOn (file : String) :
    ∀ operation ∈ storage.operationsOn file, ∀ other ∈ storage.operationsOn file,
      operation.part = other.part → operation = other := by
  intro operation member other isOther
  exact orderly.distinct operation (mem_operationsOn.mp member).1 other
    (mem_operationsOn.mp isOther).1

theorem setPending {file : String} {pending : PendingFile}
    (ofFile : FileOrderly conversions (storage.operationsOn file) storage.outcomes pending
      (storage.disk file) (storage.disk (temporaryName file))) :
    (storage.setPending file pending).Orderly conversions :=
  { orderly with
    files := by
      intro other
      change FileOrderly conversions (storage.operationsOn other) storage.outcomes
        (Function.update storage.pending file pending other) (storage.disk other)
        (storage.disk (temporaryName other))
      by_cases same : other = file
      · rw [same, Function.update_self]
        exact ofFile
      · rw [Function.update_of_ne same]
        exact orderly.files other }

theorem changeFile {known : Operation}
    (isKnown : known ∈ storage.operations) {pending : PendingFile}
    {outcomes : Nat → Option PartOutcome} {disk : String → Option (List CodeUnit)}
    (ofFile : FileOrderly conversions (storage.operationsOn known.file) outcomes pending
      (disk known.file) (disk (temporaryName known.file)))
    (sameOutcomes : ∀ operation ∈ storage.operations, operation.file ≠ known.file →
      outcomes operation.part = storage.outcomes operation.part)
    (sameDisk : ∀ name, name ≠ known.file → name ≠ temporaryName known.file →
      disk name = storage.disk name) (file : String) :
    FileOrderly conversions (storage.operationsOn file) outcomes
      (Function.update storage.pending known.file pending file) (disk file)
      (disk (temporaryName file)) := by
  by_cases same : file = known.file
  · rw [same, Function.update_self]
    exact ofFile
  · rw [Function.update_of_ne same]
    refine (orderly.files file).frame ?_ fun used => ?_
    · intro operation member
      rcases mem_operationsOn.mp member with ⟨isOperation, isFile⟩
      exact sameOutcomes operation isOperation (isFile ▸ same)
    · rcases List.exists_mem_of_ne_nil _ used with ⟨operation, member⟩
      rcases mem_operationsOn.mp member with ⟨isOperation, rfl⟩
      have apart := orderly.apart operation isOperation known isKnown
      have otherWay := orderly.apart known isKnown operation isOperation
      refine ⟨sameDisk _ same apart.1, sameDisk _ otherWay.1.symm fun sameNames => ?_⟩
      exact same (temporaryName_injective sameNames)

theorem finish {operation : Operation}
    (isOperation : operation ∈ storage.operations) {outcome : PartOutcome}
    {pending : PendingFile} {disk : String → Option (List CodeUnit)}
    (ofFile : FileOrderly conversions (storage.operationsOn operation.file)
      (Function.update storage.outcomes operation.part (some outcome)) pending
      (disk operation.file) (disk (temporaryName operation.file)))
    (sameDisk : ∀ name, name ≠ operation.file → name ≠ temporaryName operation.file →
      disk name = storage.disk name)
    (rejects : outcome = .rejected → operation.isDelete = true)
    (fails : outcome = .failed → storage.MayFail operation.part) :
    Orderly conversions
      { storage with
        disk
        pending := Function.update storage.pending operation.file pending
        outcomes := Function.update storage.outcomes operation.part (some outcome) } :=
  { orderly with
    outcomes := by
      intro part other found
      dsimp only at found
      by_cases same : part = operation.part
      · rw [same]
        exact orderly.parts operation isOperation
      · rw [Function.update_of_ne same] at found
        exact orderly.outcomes part other found
    notRejected := by
      intro other isOther isSet
      dsimp only
      by_cases same : other.part = operation.part
      · rw [same, Function.update_self]
        intro rejected
        have isDelete := rejects (Option.some.inj rejected)
        rw [orderly.distinct other isOther operation isOperation same, isDelete] at isSet
        cases isSet
      · rw [Function.update_of_ne same]
        exact orderly.notRejected other isOther isSet
    failures := by
      intro other isOther failed
      dsimp only at failed
      by_cases same : other.part = operation.part
      · rw [same, Function.update_self] at failed
        rw [same]
        exact fails (Option.some.inj failed)
      · rw [Function.update_of_ne same] at failed
        exact orderly.failures other isOther failed
    files := by
      refine orderly.changeFile isOperation ofFile (fun other isOther different => ?_) sameDisk
      refine Function.update_of_ne (fun same => different ?_) _ _
      rw [orderly.distinct other isOther operation isOperation same] }

theorem outcome_eq_none :
    storage.outcomes storage.parts = none := by
  cases found : storage.outcomes storage.parts with
  | none => rfl
  | some outcome => exact absurd (orderly.outcomes _ _ found) (Nat.lt_irrefl _)

theorem issue {call : Nat} {contexts : List String}
    {key file : String} {isDelete : Bool} {value : StorageValue} {pending : PendingFile}
    (isFile : buildStorageKey contexts key = .ok file)
    (keepsApart : storage.KeepsApart contexts key file) (isCall : call < storage.calls)
    (sameCall : ∀ operation ∈ storage.operations, operation.call = call →
      isDelete = false ∧ operation.isDelete = false ∧ storage.outcomes operation.part = none)
    (isSet : call ∈ storage.sets → isDelete = false)
    (noValue : isDelete = true → value = .undefined)
    (ofFile : FileOrderly conversions
      (⟨storage.parts, call, contexts, key, file, isDelete, value⟩ :: storage.operationsOn file)
      storage.outcomes pending (storage.disk file) (storage.disk (temporaryName file))) :
    ((storage.issue call contexts key file isDelete value).setPending file pending).Orderly
      conversions := by
  have isNew := orderly.outcome_eq_none
  have others : ∀ operation ∈ storage.operations, operation.part ≠ storage.parts :=
    fun operation member => Nat.ne_of_lt (orderly.parts operation member)
  refine ⟨?_, ?_, ?_, ?_, ?_, orderly.notThrown, ?_, ?_, orderly.sets, ?_, ?_, ?_, ?_, ?_⟩
  · refine List.forall_mem_cons.mpr ⟨Nat.lt_succ_self _, fun operation member => ?_⟩
    exact Nat.lt_succ_of_lt (orderly.parts operation member)
  · refine List.forall_mem_cons.mpr ⟨List.forall_mem_cons.mpr ⟨fun _ => rfl, ?_⟩, ?_⟩
    · exact fun other isOther same => absurd same.symm (others other isOther)
    · intro operation member
      refine List.forall_mem_cons.mpr ⟨fun same => absurd same (others operation member), ?_⟩
      exact orderly.distinct operation member
  · intro part outcome found
    exact Nat.lt_succ_of_lt (orderly.outcomes part outcome found)
  · exact List.forall_mem_cons.mpr ⟨isFile, orderly.keys⟩
  · refine List.forall_mem_cons.mpr ⟨List.forall_mem_cons.mpr ⟨?_, ?_⟩, ?_⟩
    · exact ⟨temporaryName_ne file, fun _ => ⟨rfl, rfl⟩⟩
    · intro other isOther
      have apart := keepsApart other isOther
      refine ⟨apart.2.1, fun same => ?_⟩
      have sameKey := apart.2.2 same.symm
      exact ⟨sameKey.1.symm, sameKey.2.symm⟩
    · intro operation member
      have apart := keepsApart operation member
      exact List.forall_mem_cons.mpr ⟨⟨apart.1, apart.2.2⟩, orderly.apart operation member⟩
  · exact List.forall_mem_cons.mpr ⟨isCall, orderly.calls⟩
  · refine List.forall_mem_cons.mpr ⟨fun deletes => List.forall_mem_cons.mpr ⟨fun _ => rfl, ?_⟩,
      fun operation member deletes => List.forall_mem_cons.mpr ⟨fun same => ?_, ?_⟩⟩
    · intro other isOther same
      have notDelete := (sameCall other isOther same).1
      rw [show isDelete = true from deletes] at notDelete
      cases notDelete
    · have notDelete := (sameCall operation member same.symm).2.1
      rw [deletes] at notDelete
      cases notDelete
    · exact orderly.deleteCalls operation member deletes
  · exact List.forall_mem_cons.mpr ⟨isSet, orderly.setCalls⟩
  · exact List.forall_mem_cons.mpr ⟨noValue, orderly.deleteValues⟩
  · refine List.forall_mem_cons.mpr ⟨fun _ rejected => ?_, orderly.notRejected⟩
    cases isNew.symm.trans rejected
  · refine List.forall_mem_cons.mpr ⟨fun failed => ?_, fun operation member failed => ?_⟩
    · cases isNew.symm.trans failed
    · have mayFail := orderly.failures operation member failed
      refine List.forall_mem_cons.mpr ⟨fun same => absurd same (others operation member).symm, ?_⟩
      intro found isFound samePart
      refine List.forall_mem_cons.mpr ⟨fun same => ?_, mayFail found isFound samePart⟩
      rw [orderly.distinct found isFound operation member samePart] at same
      cases (sameCall operation member same.symm).2.2.symm.trans failed
  · intro other
    change FileOrderly conversions
      ((storage.issue call contexts key file isDelete value).operationsOn other) storage.outcomes
      (Function.update storage.pending file pending other) (storage.disk other)
      (storage.disk (temporaryName other))
    rw [operationsOn_issue]
    by_cases same : file = other
    · rw [if_pos same, ← same, Function.update_self]
      exact ofFile
    · rw [if_neg same, Function.update_of_ne (Ne.symm same)]
      exact orderly.files other

theorem partsOn (file : String) :
    ∀ operation ∈ storage.operationsOn file, operation.part < storage.parts :=
  fun operation member => orderly.parts operation (mem_operationsOn.mp member).1

theorem issueWrites {call : Nat} {contexts : List String}
    {values : List (String × StorageValue)} (isCall : call < storage.calls)
    (sameCall : ∀ operation ∈ storage.operations, operation.call = call →
      operation.isDelete = false ∧ storage.outcomes operation.part = none)
    (careful : CarefulWrites conversions call contexts storage values) :
    (issueWrites conversions call contexts storage values).Orderly conversions := by
  induction values generalizing storage with
  | nil => exact orderly
  | cons entry values induction =>
    rcases entry with ⟨key, value⟩
    unfold CarefulWrites at careful
    unfold issueWrites
    cases prepared : prepare conversions contexts key value with
    | none =>
      rw [prepared] at careful
      exact careful.elim
    | some result =>
      rcases result with ⟨file, text⟩
      rw [prepared] at careful
      rcases careful with ⟨reads, keepsApart, noDelete, free, others⟩
      have isNew := orderly.outcome_eq_none
      have next := orderly.issue (buildStorageKey_of_prepare prepared) keepsApart isCall
        (fun operation member same => ⟨rfl, sameCall operation member same⟩) (fun _ => rfl)
        (by simp)
        ((orderly.files file).issueWrite (orderly.partsOn file) isNew rfl reads noDelete free)
      refine induction next isCall ?_ others
      exact List.forall_mem_cons.mpr ⟨fun _ => ⟨rfl, isNew⟩, sameCall⟩

theorem set {contexts : List String} {values : List (String × StorageValue)}
    (careful : storage.Careful conversions (.set contexts values)) :
    (storage.set conversions contexts values).Orderly conversions := by
  have called : Orderly conversions
      { storage with calls := storage.calls + 1, sets := storage.calls :: storage.sets } :=
    { orderly with
      calls := fun operation member => Nat.lt_succ_of_lt (orderly.calls operation member)
      sets := List.forall_mem_cons.mpr
        ⟨Nat.lt_succ_self _, fun call member => Nat.lt_succ_of_lt (orderly.sets call member)⟩
      setCalls := by
        intro operation member isSet
        refine orderly.setCalls operation member ((List.mem_cons.mp isSet).resolve_left ?_)
        exact Nat.ne_of_lt (orderly.calls operation member) }
  refine called.issueWrites (Nat.lt_succ_self _) (fun operation member same => ?_) careful
  exact absurd same (Nat.ne_of_lt (orderly.calls operation member))

theorem delete {contexts : List String} {key : String}
    (careful : storage.Careful conversions (.delete contexts key)) :
    (storage.delete contexts key).Orderly conversions := by
  have called : Orderly conversions { storage with calls := storage.calls + 1 } :=
    { orderly with
      calls := fun operation member => Nat.lt_succ_of_lt (orderly.calls operation member)
      sets := fun call member => Nat.lt_succ_of_lt (orderly.sets call member) }
  unfold Careful at careful
  unfold StorageBackendDiskAsync.delete
  dsimp only at careful ⊢
  cases isFile : buildStorageKey contexts key with
  | error failure =>
    rw [isFile] at careful
    exact careful.elim
  | ok file =>
    rw [isFile] at careful
    refine called.issue isFile careful (Nat.lt_succ_self _) ?_ ?_ (fun _ => rfl) ?_
    · intro operation member same
      exact absurd same (Nat.ne_of_lt (orderly.calls operation member))
    · intro isSet
      exact absurd (orderly.sets _ isSet) (Nat.lt_irrefl _)
    · exact (orderly.files file).issueDelete (orderly.partsOn file) orderly.outcome_eq_none
        rfl rfl nofun

theorem exists_blocking {file : String}
    {write : BlockingWrite} (isBlocking : (storage.pending file).blocker = some write) :
    ∃ operation ∈ storage.operations, operation.file = file ∧ operation.part = write.part ∧
      operation.isDelete = false := by
  rcases (orderly.files file).blocking write isBlocking with
    ⟨operation, member, samePart, isSet, _⟩
  rcases mem_operationsOn.mp member with ⟨isOperation, isFile⟩
  exact ⟨operation, isOperation, isFile, samePart, isSet⟩

theorem withBlocker {file : String} {phase : WritePhase}
    {change : BlockingWrite → StorageBackendDiskAsync}
    (keeps : ∀ write, (storage.pending file).blocker = some write → write.phase = phase →
      (change write).Orderly conversions) :
    (storage.withBlocker file phase change).Orderly conversions := by
  unfold StorageBackendDiskAsync.withBlocker
  cases isBlocking : (storage.pending file).blocker with
  | none => exact orderly
  | some write =>
    dsimp only
    split
    · rename_i isPhase
      exact keeps write isBlocking isPhase
    · exact orderly

theorem endWrite {file : String} {write : BlockingWrite}
    (isBlocking : (storage.pending file).blocker = some write) (active : write.phase ≠ .ended)
    {fails : Bool} {disk : String → Option (List CodeUnit)}
    (isContent : disk file = if fails then storage.disk file else some write.text)
    (sameDisk : ∀ name, name ≠ file → name ≠ temporaryName file → disk name = storage.disk name)
    (mayFail : fails = true → storage.MayFail write.part) :
    (endWrite { storage with disk } file write fails).Orderly
      conversions := by
  rcases orderly.exists_blocking isBlocking with ⟨operation, isOperation, rfl, samePart, _⟩
  have ofFile := (orderly.files operation.file).endWrite (orderly.distinctOn operation.file)
    isBlocking active isContent (disk (temporaryName operation.file))
  rw [← samePart] at ofFile
  have finished := orderly.finish isOperation ofFile sameDisk
  rw [samePart] at finished
  apply finished
  · intro rejected
    cases fails <;> exact nomatch rejected
  · intro failed
    cases fails with
    | true => exact mayFail rfl
    | false => exact nomatch failed

theorem writeFileEnds {file : String} {fails : Bool}
    (careful : storage.Careful conversions (.writeFileEnds file fails)) :
    (storage.writeFileEnds file fails).Orderly conversions := by
  refine orderly.withBlocker fun write isBlocking isPhase => ?_
  have active : write.phase ≠ .ended := by
    rw [isPhase]
    exact nofun
  cases fails with
  | true =>
    exact orderly.endWrite isBlocking active rfl (fun _ _ _ => rfl)
      fun _ => careful rfl write isBlocking
  | false =>
    rcases orderly.exists_blocking isBlocking with ⟨operation, isOperation, rfl, _⟩
    have ofFile := (orderly.files operation.file).startRename isBlocking active
    rw [← Function.update_self (temporaryName operation.file) (some write.text) storage.disk,
      ← Function.update_of_ne (temporaryName_ne operation.file) (some write.text)
        storage.disk] at ofFile
    exact { orderly with
      files := orderly.changeFile isOperation ofFile (fun _ _ _ => rfl)
        fun name _ different => Function.update_of_ne different _ _ }

theorem renameEnds {file : String} {fails : Bool}
    (careful : storage.Careful conversions (.renameEnds file fails)) :
    (storage.renameEnds file fails).Orderly conversions := by
  refine orderly.withBlocker fun write isBlocking isPhase => ?_
  have active : write.phase ≠ .ended := by
    rw [isPhase]
    exact nofun
  cases fails with
  | true =>
    exact orderly.endWrite isBlocking active rfl (fun _ _ _ => rfl)
      fun _ => careful rfl write isBlocking
  | false =>
    refine orderly.endWrite isBlocking active ?_ (fun name notFile notTemporary => ?_) nofun
    · change Function.update (Function.update storage.disk file _) (temporaryName file) none file =
        some write.text
      rw [Function.update_of_ne (temporaryName_ne file), Function.update_self]
      exact (orderly.files file).temporaryWritten write isBlocking isPhase
    · rw [Function.update_of_ne notTemporary]
      exact Function.update_of_ne notFile _ _

theorem finallyRuns (file : String) :
    (storage.finallyRuns file).Orderly conversions := by
  refine orderly.withBlocker fun write isBlocking isPhase => ?_
  exact orderly.setPending ((orderly.files file).finallyRuns isBlocking isPhase)

theorem settles {file : String} {promise : Nat}
    (careful : storage.Careful conversions (.settles file promise)) :
    (storage.settles file promise).Orderly conversions := by
  unfold StorageBackendDiskAsync.settles
  dsimp only
  cases found : (storage.pending file).finished.find? (·.part = promise) with
  | none => exact orderly
  | some write =>
    dsimp only
    cases fails : write.fails with
    | false =>
      exact orderly.setPending ((orderly.files file).fulfil promise)
    | true =>
      have isPromise : write.part = promise := by simpa using List.find?_some found
      have unawaited := careful write (List.mem_of_find?_eq_some found) isPromise fails
      have mine : (storage.pending file).waiters.filter (·.promise = promise) = [] :=
        List.filter_eq_nil_iff.mpr fun waiter isWaiting => by
          simp [unawaited waiter isWaiting]
      have others : (storage.pending file).waiters.filter (·.promise ≠ promise) =
          (storage.pending file).waiters :=
        List.filter_eq_self.mpr fun waiter isWaiting =>
          decide_eq_true (unawaited waiter isWaiting)
      rw [mine, others]
      have settled := orderly.setPending ((orderly.files file).dropFinished fun _ => unawaited)
      exact { settled with }

/-! ## Deleting -/

theorem withDelete {file : String} {part : Nat} {change : PendingDelete → StorageBackendDiskAsync}
    (keeps : ∀ delete ∈ (storage.pending file).deletes, delete.part = part →
      (change delete).Orderly conversions) :
    (storage.withDelete file part change).Orderly conversions := by
  unfold StorageBackendDiskAsync.withDelete
  cases found : (storage.pending file).deletes.find? (·.part = part) with
  | none => exact orderly
  | some delete =>
    exact keeps delete (List.mem_of_find?_eq_some found) (by simpa using List.find?_some found)

theorem setDelete {file : String}
    {delete changed : PendingDelete} (isDelete : delete ∈ (storage.pending file).deletes)
    (samePart : changed.part = delete.part) (removes : changed.phase = .removing →
      queue (storage.pending file) = []) :
    (storage.setDelete file changed).Orderly conversions :=
  orderly.setPending ((orderly.files file).setDelete isDelete samePart removes)

theorem endDelete {file : String}
    {delete : PendingDelete} (isDelete : delete ∈ (storage.pending file).deletes)
    (outcome : PartOutcome) (removes : outcome = .succeeded → delete.phase = .removing)
    {disk : String → Option (List CodeUnit)}
    (isContent : disk file = if outcome = .succeeded then none else storage.disk file)
    (sameDisk : ∀ name, name ≠ file → disk name = storage.disk name) :
    (endDelete { storage with disk } file delete.part outcome).Orderly
      conversions := by
  rcases ((orderly.files file).deletes delete isDelete).2.1 with
    ⟨operation, member, samePart, deletes⟩
  rcases mem_operationsOn.mp member with ⟨isOperation, rfl⟩
  have ofFile := (orderly.files operation.file).endDelete isDelete removes isContent
    (orderly.distinctOn operation.file)
  rw [← sameDisk _ (temporaryName_ne operation.file).symm, ← samePart] at ofFile
  have finished := orderly.finish isOperation ofFile (fun name different _ =>
    sameDisk name different)
    (fun _ => deletes) fun _ => ?_
  · rw [samePart] at finished
    exact finished
  · intro other isOther same found isFound sameCall
    have isSame := orderly.distinct other isOther operation isOperation same
    rw [isSame] at sameCall
    exact orderly.deleteCalls operation isOperation deletes found isFound sameCall

theorem roundEnds (file : String) (part : Nat) :
    (storage.roundEnds file part).Orderly conversions := by
  refine orderly.withDelete fun delete isDelete isPart => ?_
  subst isPart
  split
  · split
    · exact orderly
    · split
      · exact orderly.endDelete isDelete .rejected nofun rfl fun _ _ => rfl
      · split
        · exact orderly.setDelete isDelete rfl nofun
        · split
          · exact orderly.setDelete isDelete rfl nofun
          · exact orderly.setDelete isDelete rfl nofun
  · exact orderly

theorem syncEnds (file : String) (part : Nat)
    (fails : Bool) : (storage.syncEnds file part fails).Orderly conversions := by
  refine orderly.withDelete fun delete isDelete isPart => ?_
  subst isPart
  split
  · split
    · exact orderly.endDelete isDelete .rejected nofun rfl fun _ _ => rfl
    · exact orderly.setDelete isDelete rfl nofun
  · exact orderly

theorem rmStarts {file : String} {part : Nat}
    (careful : storage.Careful conversions (.rmStarts file part)) :
    (storage.rmStarts file part).Orderly conversions := by
  refine orderly.withDelete fun delete isDelete isPart => ?_
  split
  · exact orderly.setDelete isDelete rfl fun _ => careful
  · exact orderly

theorem rmEnds (file : String) (part : Nat)
    (fails : Bool) : (storage.rmEnds file part fails).Orderly conversions := by
  refine orderly.withDelete fun delete isDelete isPart => ?_
  subst isPart
  split
  · rename_i removing
    split
    · exact orderly.endDelete isDelete .failed nofun rfl fun _ _ => rfl
    · refine orderly.endDelete isDelete .succeeded (fun _ => removing) ?_ fun name different => ?_
      · exact Function.update_self _ _ _
      · exact Function.update_of_ne different _ _
  · exact orderly

theorem step {event : Event} (careful : storage.Careful conversions event) :
    (storage.step conversions event).Orderly conversions := by
  cases event with
  | set contexts values => exact orderly.set careful
  | delete contexts key => exact orderly.delete careful
  | writeFileEnds file fails => exact orderly.writeFileEnds careful
  | renameEnds file fails => exact orderly.renameEnds careful
  | finallyRuns file => exact orderly.finallyRuns file
  | settles file promise => exact orderly.settles careful
  | roundEnds file part => exact orderly.roundEnds file part
  | syncEnds file part fails => exact orderly.syncEnds file part fails
  | rmStarts file part => exact orderly.rmStarts careful
  | rmEnds file part fails => exact orderly.rmEnds file part fails

/-! ## When all operations are over -/

theorem isIdle_of_used
    (idle : ∀ operation ∈ storage.operations, storage.pending operation.file = noPending) :
    storage.IsIdle := by
  intro file
  have ofFile := orderly.files file
  cases isUsed : storage.operationsOn file with
  | nil =>
    rw [isUsed] at ofFile
    exact ofFile.pending_eq
  | cons operation operations =>
    have member : operation ∈ storage.operationsOn file := by
      rw [isUsed]
      exact List.mem_cons_self ..
    rcases mem_operationsOn.mp member with ⟨isOperation, rfl⟩
    exact idle operation isOperation

theorem exists_outcome (idle : storage.IsIdle)
    {operation : Operation} (member : operation ∈ storage.operations) :
    ∃ outcome, storage.outcomes operation.part = some outcome := by
  cases found : storage.outcomes operation.part with
  | some outcome => exact ⟨outcome, rfl⟩
  | none =>
    have isOn := mem_operationsOn.mpr ⟨member, rfl⟩
    rcases (orderly.files operation.file).unfinished operation isOn found with
      inQueue | ⟨delete, isDelete, _⟩
    · rw [idle operation.file] at inQueue
      exact nomatch inQueue
    · rw [idle operation.file] at isDelete
      exact nomatch isDelete

theorem callSucceeds (idle : storage.IsIdle)
    {operation : Operation} (member : operation ∈ storage.operations)
    (succeeded : storage.outcomes operation.part = some .succeeded) :
    storage.CallSucceeds operation.call := by
  refine ⟨orderly.notThrown _, fun other isOther sameCall => ?_⟩
  rcases orderly.exists_outcome idle isOther with ⟨outcome, isOutcome⟩
  cases outcome with
  | succeeded => exact isOutcome
  | failed =>
    have same := orderly.failures other isOther isOutcome other isOther rfl operation member
      sameCall.symm
    rw [same] at succeeded
    exact nomatch isOutcome.symm.trans succeeded
  | rejected =>
    cases deletes : other.isDelete with
    | false => exact absurd isOutcome (orderly.notRejected other isOther deletes)
    | true =>
      have same := orderly.deleteCalls other isOther deletes operation member sameCall.symm
      rw [same] at succeeded
      exact nomatch isOutcome.symm.trans succeeded

theorem lastWins (idle : storage.IsIdle) :
    storage.LastWins conversions where
  get := by
    intro operation member succeeds isLast
    have isOn := mem_operationsOn.mpr ⟨member, rfl⟩
    have holds := (orderly.files operation.file).content operation isOn
      (succeeds.2 operation member rfl) fun other isOther otherSucceeded => by
        rcases mem_operationsOn.mp isOther with ⟨isOperation, sameFile⟩
        have sameKey := (orderly.apart other isOperation operation member).2 sameFile
        exact isLast other isOperation sameKey.1 sameKey.2
          (orderly.callSucceeds idle isOperation otherSucceeded)
    unfold get
    rw [orderly.keys operation member]
    simp only [bind, Except.bind]
    unfold Holds at holds
    split at holds
    · rename_i deletes
      rw [holds, orderly.deleteValues operation member deletes]
      rfl
    · rcases holds with ⟨text, isText, reads⟩
      rw [isText]
      dsimp only
      rw [reads]
      rfl
  set := by
    intro call isSet fails
    by_contra noFailure
    refine fails ⟨orderly.notThrown call, fun operation member sameCall => ?_⟩
    rcases orderly.exists_outcome idle member with ⟨outcome, isOutcome⟩
    cases outcome with
    | succeeded => exact isOutcome
    | failed => exact absurd ⟨operation, member, sameCall, isOutcome⟩ noFailure
    | rejected =>
      have notDelete := orderly.setCalls operation member (sameCall ▸ isSet)
      exact absurd isOutcome (orderly.notRejected operation member notDelete)

end Orderly

theorem orderly_of_careful {conversions : NumberConversions}
    {disk : String → Option (List CodeUnit)} {events : List Event}
    (careful : Along (step conversions) (Careful conversions) (opened disk) events) :
    (run (step conversions) (opened disk) events).Orderly conversions :=
  run_invariant_along (fun storage => storage.Orderly conversions)
    (fun _ _ careful orderly => orderly.step careful) (orderly_opened conversions disk) careful

/-- In a careful run the last operation on each key wins, once all operations are over. -/
theorem lastWins_of_careful (conversions : NumberConversions)
    (disk : String → Option (List CodeUnit)) {events : List Event}
    (careful : Along (step conversions) (Careful conversions) (opened disk) events)
    (idle : (run (step conversions) (opened disk) events).IsIdle) :
    (run (step conversions) (opened disk) events).LastWins conversions :=
  (orderly_of_careful careful).lastWins idle

def successively (file : String) (values : List PendingFile) : String → PendingFile :=
  values.foldl (fun pending value => Function.update pending file value) fun _ => noPending

theorem successively_of_ne {file other : String} (different : other ≠ file)
    (values : List PendingFile) : successively file values other = noPending := by
  unfold successively
  induction values using List.reverseRecOn with
  | nil => rfl
  | append_singleton values value induction =>
    rw [List.foldl_append, List.foldl_cons, List.foldl_nil, Function.update_of_ne different]
    exact induction

/-- Two sets and a delete, all issued before the first write comes to its end -/
def setsThenDelete : List Event :=
  [.set ["a"] [("k", .boolean true)], .set ["a"] [("k", .null)], .delete ["a"] "k",
    .writeFileEnds "a.k" false, .renameEnds "a.k" false, .finallyRuns "a.k", .settles "a.k" 0,
    .roundEnds "a.k" 2, .writeFileEnds "a.k" false, .renameEnds "a.k" false, .finallyRuns "a.k",
    .settles "a.k" 1, .roundEnds "a.k" 2, .rmStarts "a.k" 2, .rmEnds "a.k" 2 false]

theorem careful_setsThenDelete :
    Along (step wholeConversions) (Careful wholeConversions) (opened fun _ => none)
      setsThenDelete := by
  have written : ∀ {storage : StorageBackendDiskAsync} {event : Event},
      event = .writeFileEnds "a.k" false ∨ event = .renameEnds "a.k" false →
        storage.Careful wholeConversions event := by
    rintro storage event (rfl | rfl) <;> exact nofun
  refine ⟨⟨rfl, nofun, rfl, fun _ => rfl, trivial⟩,
    ⟨rfl, ?_, rfl, fun _ => rfl, trivial⟩, ?_, written (.inl rfl), written (.inr rfl), trivial,
    ?_, trivial, written (.inl rfl), written (.inr rfl), trivial, ?_, trivial, rfl, trivial,
    trivial⟩
  · change ∀ operation ∈ _, Operation.file operation ≠ temporaryName "a.k" ∧
      "a.k" ≠ temporaryName operation.file ∧
        (operation.file = "a.k" → operation.contexts = ["a"] ∧ operation.key = "k")
    decide +kernel
  · change ∀ operation ∈ _, Operation.file operation ≠ temporaryName "a.k" ∧
      "a.k" ≠ temporaryName operation.file ∧
        (operation.file = "a.k" → operation.contexts = ["a"] ∧ operation.key = "k")
    decide +kernel
  · change ∀ write ∈ _, FinishedWrite.part write = 0 → write.fails = true →
      ∀ waiter ∈ _, Waiter.promise waiter ≠ 0
    decide +kernel
  · change ∀ write ∈ _, FinishedWrite.part write = 1 → write.fails = true →
      ∀ waiter ∈ _, Waiter.promise waiter ≠ 1
    decide +kernel

theorem lastWins_of_careful_setsThenDelete :
    (run (step wholeConversions) (opened fun _ => none) setsThenDelete).LastWins
      wholeConversions :=
  lastWins_of_careful wholeConversions (fun _ => none) careful_setsThenDelete
    ((orderly_of_careful careful_setsThenDelete).isIdle_of_used (by decide +kernel))

def setDuringRemoval : List Event :=
  [.delete ["a"] "k", .roundEnds "a.k" 0, .rmStarts "a.k" 0, .set ["a"] [("k", .boolean true)],
    .writeFileEnds "a.k" false, .renameEnds "a.k" false, .rmEnds "a.k" 0 false,
    .finallyRuns "a.k", .settles "a.k" 1]

theorem lastWins_setDuringRemoval_false :
    (run (step wholeConversions) (opened fun _ => none) setDuringRemoval).IsIdle ∧
      ¬(run (step wholeConversions) (opened fun _ => none) setDuringRemoval).LastWins
        wholeConversions := by
  constructor
  · intro file
    by_cases same : file = "a.k"
    · rw [same]
      decide +kernel
    · have shape : (run (step wholeConversions) (opened fun _ => none) setDuringRemoval).pending =
          successively "a.k" [_, _, _, _, _, _, _, _, _] := rfl
      rw [shape, successively_of_ne same]
  · intro lastWins
    have isLast : ∀ other ∈ (run (step wholeConversions) (opened fun _ => none)
        setDuringRemoval).operations, other.part ≤ 1 := by
      decide +kernel
    have gets := lastWins.get ⟨1, 1, ["a"], "k", "a.k", false, .boolean true⟩
      (List.mem_cons_self ..) ⟨List.not_mem_nil, by decide +kernel⟩
      fun other isOther _ _ _ => isLast other isOther
    exact nomatch gets

end StorageBackendDiskAsync

end MatterJs.Nodejs
