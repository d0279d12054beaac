import MatterJs.Foundation.Execution
import MatterJs.General.TransactionLocks

/-! Which transactions can hold the lock of a resource, in every run of their calls, and that
no wait of theirs closes a cycle. -/

namespace MatterJs.General

open WaitGraph PendingOperation

namespace Transactions

variable {Id Resource : Type}

def SoundAt (system : Transactions Id Resource) (id : Id) : Prop :=
  (system.transaction id).Sound system.referenced fun resource => system.lockedBy resource = some id

theorem soundAt_new (referenced : Resource → Resource) (id : Id) :
    (new referenced : Transactions Id Resource).SoundAt id :=
  Transaction.Sound.of_idle (fun _ => rfl) rfl nofun nofun nofun

structure Untouched (id : Id) (before after : Transactions Id Resource) : Prop where
  referenced : after.referenced = before.referenced
  transaction : after.transaction id = before.transaction id
  lockedBy : ∀ resource, after.lockedBy resource = some id ↔ before.lockedBy resource = some id

theorem Untouched.refl (id : Id) (system : Transactions Id Resource) :
    Untouched id system system where
  referenced := rfl
  transaction := rfl
  lockedBy := fun _ => Iff.rfl

theorem Untouched.trans {id : Id} {first second third : Transactions Id Resource}
    (earlier : Untouched id first second) (later : Untouched id second third) :
    Untouched id first third where
  referenced := later.referenced.trans earlier.referenced
  transaction := later.transaction.trans earlier.transaction
  lockedBy := fun resource => (later.lockedBy resource).trans (earlier.lockedBy resource)

theorem SoundAt.of_untouched {id : Id} {before after : Transactions Id Resource}
    (sound : before.SoundAt id) (untouched : Untouched id before after) : after.SoundAt id := by
  rw [SoundAt, untouched.referenced, untouched.transaction]
  exact Transaction.Sound.congr sound untouched.lockedBy

variable [DecidableEq Id]

theorem transaction_setTransaction_self (system : Transactions Id Resource) (id : Id)
    (transaction : Transaction Id Resource) :
    (system.setTransaction id transaction).transaction id = transaction :=
  if_pos rfl

theorem transaction_setTransaction_of_ne (system : Transactions Id Resource) {id other : Id}
    (transaction : Transaction Id Resource) (different : other ≠ id) :
    (system.setTransaction id transaction).transaction other = system.transaction other :=
  if_neg different

theorem soundAt_setTransaction {system : Transactions Id Resource} {id : Id}
    {transaction : Transaction Id Resource}
    (sound : transaction.Sound system.referenced
      fun resource => system.lockedBy resource = some id) :
    (system.setTransaction id transaction).SoundAt id := by
  rw [SoundAt, transaction_setTransaction_self]
  exact sound

theorem untouched_setTransaction (system : Transactions Id Resource) {id other : Id}
    (transaction : Transaction Id Resource) (different : other ≠ id) :
    Untouched other system (system.setTransaction id transaction) where
  referenced := rfl
  transaction := transaction_setTransaction_of_ne system transaction different
  lockedBy := fun _ => Iff.rfl

/-! ### Locks -/

variable {set : List Resource} {resource : Resource}

theorem mem_blockedBy {system : Transactions Id Resource} {id : Id} {holder : Id} :
    holder ∈ system.blockedBy id set ↔
      holder ≠ id ∧ ∃ resource ∈ set, system.lockedBy resource = some holder := by
  rw [blockedBy, List.mem_dedup, List.mem_filterMap]
  constructor
  · rintro ⟨resource, member, isHolder⟩
    rcases Option.filter_eq_some_iff.mp isHolder with ⟨isLocked, different⟩
    exact ⟨of_decide_eq_true different, resource, member, isLocked⟩
  · rintro ⟨different, resource, member, isLocked⟩
    exact ⟨resource, member, Option.filter_eq_some_iff.mpr ⟨isLocked, decide_eq_true different⟩⟩

theorem holder_eq_of_not_blocked {system : Transactions Id Resource} {id : Id}
    (isFree : (system.blockedBy id set).isEmpty) (member : resource ∈ set) {holder : Id}
    (isLocked : system.lockedBy resource = some holder) : holder = id := by
  by_contra different
  have isBlocked := mem_blockedBy.mpr ⟨different, resource, member, isLocked⟩
  rw [List.isEmpty_iff.mp isFree] at isBlocked
  cases isBlocked

variable [DecidableEq Resource]

omit [DecidableEq Id] in
theorem lockedBy_lock_self {system : Transactions Id Resource} {id : Id} :
    (system.lock id set).lockedBy resource = some id ↔
      resource ∈ set ∨ system.lockedBy resource = some id := by
  rw [lock]
  by_cases member : resource ∈ set <;> simp [member]

theorem lockedBy_lock_of_ne {system : Transactions Id Resource} {id other : Id}
    (isFree : (system.blockedBy id set).isEmpty) (different : other ≠ id) (resource : Resource) :
    (system.lock id set).lockedBy resource = some other ↔
      system.lockedBy resource = some other := by
  rw [lock]
  by_cases member : resource ∈ set
  · simp only [member]
    constructor
    · intro isLocked
      exact absurd (Option.some.inj isLocked).symm different
    · intro isLocked
      exact absurd (holder_eq_of_not_blocked isFree member isLocked) different
  · simp [member]

theorem lockedBy_releaseLocks_self {system : Transactions Id Resource} {id : Id} :
    (system.releaseLocks id set).lockedBy resource = some id ↔
      resource ∉ set ∧ system.lockedBy resource = some id := by
  rw [releaseLocks]
  by_cases isLocked : system.lockedBy resource = some id <;>
    by_cases member : resource ∈ set <;> simp [member]

theorem lockedBy_releaseLocks_of_ne {system : Transactions Id Resource} {id other : Id}
    (different : other ≠ id) (resource : Resource) :
    (system.releaseLocks id set).lockedBy resource = some other ↔
      system.lockedBy resource = some other := by
  rw [releaseLocks]
  by_cases isReleased : resource ∈ set ∧ system.lockedBy resource = some id
  · simp only [isReleased]
    simp [different.symm]
  · simp [isReleased]

end Transactions

theorem PendingOperation.status_finalizing_ne_exclusive {Id Resource : Type}
    (phase : FinalizationPhase) :
    (finalizing phase : PendingOperation Id Resource).status ≠ .exclusive := by
  cases phase <;> simp [status, FinalizationPhase.status]

namespace Transaction

/-- Nothing that was asked of a transaction is still under way. -/
def IsIdle {Id Resource : Type} (transaction : Transaction Id Resource) : Prop :=
  ∀ operation < transaction.nextOperation, transaction.operations operation = none

instance {Id Resource : Type} (transaction : Transaction Id Resource) :
    Decidable transaction.IsIdle :=
  inferInstanceAs (Decidable (∀ operation < transaction.nextOperation,
    transaction.operations operation = none))

namespace Sound

variable {Id Resource : Type} {referenced : Resource → Resource} {holds : Resource → Prop}
  {transaction : Transaction Id Resource}

theorem not_holds_of_begin {operation : Nat} {set : List Resource}
    {stage : AcquisitionStage Id} (sound : Sound referenced holds transaction)
    (isThere : transaction.operations operation = some (.acquiring .begin set stage))
    (notAcquired : stage ≠ .acquired) (resource : Resource) : ¬holds resource := by
  have isWaiting : transaction.status = .waiting := sound.status_of_operation _ _ isThere
  intro isHeld
  rcases sound.mayHoldLocks resource isHeld with status | ⟨other, otherSet, otherThere⟩ |
    ⟨other, otherThere⟩
  · rw [isWaiting] at status
    cases status
  · rw [sound.unique (by rw [isWaiting]; simp) _ _ _ _ otherThere isThere, isThere] at otherThere
    cases otherThere
    exact notAcquired rfl
  · exact nomatch isWaiting.symm.trans (sound.status_of_operation _ _ otherThere)

theorem idle (sound : Sound referenced holds transaction) (isIdle : transaction.IsIdle)
    (operation : Nat) : transaction.operations operation = none := by
  by_cases isOld : operation < transaction.nextOperation
  · exact isIdle operation isOld
  · exact sound.fresh operation (Nat.le_of_not_lt isOld)

theorem mem_of_idle (sound : Sound referenced holds transaction)
    (isIdle : transaction.IsIdle) {resource : Resource} (isHeld : holds resource) :
    resource ∈ transaction.resources.map referenced := by
  rcases sound.covered resource isHeld with inResources | ⟨operation, _, _, isThere, _⟩
  · exact inResources
  · rw [sound.idle isIdle operation] at isThere
    cases isThere

theorem start {stands : PendingOperation Id Resource}
    (sound : Sound referenced holds transaction) (isIdle : transaction.IsIdle)
    (notExclusive : stands.status ≠ .exclusive)
    (isBegin : ∀ set stage, stands = .acquiring .begin set stage →
      set = transaction.resources.map referenced ∧ stage ≠ .acquired)
    (mayHold : ∀ resource, holds resource → stands.status.holdsLocks) :
    Sound referenced holds ((transaction.startOperation stands).setStatus stands.status) := by
  refine @of_only Id Resource referenced holds _ transaction.nextOperation stands
    ?isThere ?only ?isOld rfl notExclusive isBegin ?covered
    (fun resource isHeld => Or.inl (mayHold resource isHeld))
  case isThere => exact operations_setOperation_self transaction transaction.nextOperation _
  case only =>
    intro other different
    exact (operations_setOperation_of_ne transaction _ different).trans (sound.idle isIdle other)
  case isOld => exact Nat.lt_succ_self transaction.nextOperation
  case covered => exact fun resource isHeld => sound.mem_of_idle isIdle isHeld

theorem idle_of_end {operation : Nat} {stands : PendingOperation Id Resource}
    (sound : Sound referenced holds transaction)
    (isThere : transaction.operations operation = some stands)
    (notExclusive : stands.status ≠ .exclusive) (other : Nat) :
    (transaction.setOperation operation none).operations other = none := by
  by_cases same : other = operation
  · rw [same, operations_setOperation_self]
  · rw [operations_setOperation_of_ne _ _ same]
    exact sound.only isThere notExclusive other same

end Sound

end Transaction

namespace Transactions

variable {Id Resource : Type} {system : Transactions Id Resource}

def Event.id : Event Id Resource → Id
  | .addResourcesSync id _ | .addResources id _ | .begin id | .beginSync id
  | .continueOperation id _ | .finalize id _ | .continueFinalization id _ _ | .close id => id

/-- A transaction is not begun, committed, rolled back or closed while one of its
`addResources` is under way or a rollback of it has not released its locks, and it is not closed
while it holds locks. -/
def InOrder (system : Transactions Id Resource) : Event Id Resource → Prop
  | .begin id | .beginSync id =>
    (system.transaction id).status = .shared → (system.transaction id).IsIdle
  | .finalize id _ =>
    (system.transaction id).status = .shared ∨ (system.transaction id).status = .exclusive →
      (system.transaction id).IsIdle
  | .close id =>
    (system.transaction id).IsIdle ∧
      ((system.transaction id).status = .exclusive → (system.transaction id).resources = [])
  | .addResourcesSync _ _ | .addResources _ _ | .continueOperation _ _
  | .continueFinalization _ _ _ => True

instance [DecidableEq Resource] (system : Transactions Id Resource) :
    ∀ event, Decidable (system.InOrder event)
  | .begin _ | .beginSync _ | .finalize _ _ | .close _ => by
    rw [InOrder]
    infer_instance
  | .addResourcesSync _ _ | .addResources _ _ | .continueOperation _ _
  | .continueFinalization _ _ _ => isTrue trivial

variable [DecidableEq Id] [DecidableEq Resource]

theorem SoundAt.acquireLocks [Fintype Id] {id : Id} (sound : system.SoundAt id) {operation : Nat}
    {acquirer : Acquirer Resource} {set : List Resource} {stage : AcquisitionStage Id}
    (isThere : (system.transaction id).operations operation = some (.acquiring acquirer set stage))
    (notAcquired : stage ≠ .acquired) :
    (system.acquireLocks id operation acquirer set).SoundAt id := by
  have takesNone : ∀ newStage waitingOn, newStage ≠ .acquired →
      (system.setTransaction id (((system.transaction id).setOperation operation
        (some (.acquiring acquirer set newStage))).setWaitingOn waitingOn)).SoundAt id := by
    intro newStage waitingOn notAcquiredNow
    exact soundAt_setTransaction (sound.setStage isThere notAcquired
      (fun _ isHeld => isHeld) (fun _ isHeld => Or.inl isHeld)
      (fun isNow => absurd isNow notAcquiredNow) waitingOn)
  rw [Transactions.acquireLocks]
  by_cases isFree : (system.blockedBy id set).isEmpty
  · simp only [isFree]
    apply soundAt_setTransaction
    refine sound.setStage isThere notAcquired ?_ ?_ ?_ _
    · exact fun _ isHeld => lockedBy_lock_self.mpr (Or.inr isHeld)
    · intro resource isHeld
      rcases lockedBy_lock_self.mp isHeld with member | before
      · exact Or.inr ⟨rfl, member⟩
      · exact Or.inl before
    · exact fun _ _ member => lockedBy_lock_self.mpr (Or.inl member)
  · simp only [isFree, Bool.false_eq_true, if_false]
    cases system.detectDeadlock id (system.blockedBy id set) with
    | error _ => exact takesNone .failed _ (by simp)
    | ok _ =>
      simp only []
      split
      · exact takesNone .failed _ (by simp)
      · exact takesNone (.waiting _) _ (by simp)

variable {operation : Nat}

theorem SoundAt.acquireStarted [Fintype Id] {id : Id} {transaction : Transaction Id Resource}
    {acquirer : Acquirer Resource} {set : List Resource}
    (started : (system.setTransaction id transaction).SoundAt id)
    (isThere : transaction.operations operation = some (.acquiring acquirer set .resuming)) :
    ((system.setTransaction id transaction).acquireLocks id operation acquirer set).SoundAt id := by
  have isThereNow : ((system.setTransaction id transaction).transaction id).operations
      operation = some (.acquiring acquirer set .resuming) := by
    rw [transaction_setTransaction_self]
    exact isThere
  exact started.acquireLocks isThereNow (by simp)

/-! ### Adding resources -/

omit [DecidableEq Id] in
theorem SoundAt.appendLocked {id : Id} (sound : system.SoundAt id)
    (isExclusive : (system.transaction id).status = .exclusive) (resources : List Resource) :
    Transaction.Sound system.referenced
      (fun resource =>
        (system.lock id (system.resourceSet resources)).lockedBy resource = some id)
      { system.transaction id with
        resources := (system.transaction id).resources ++
          resources.filter (· ∉ (system.transaction id).resources) } := by
  refine sound.append (Or.inl isExclusive) _ ?keeps ?gains ?takes
  case keeps => exact fun _ isHeld => lockedBy_lock_self.mpr (Or.inr isHeld)
  case gains =>
    intro resource isHeld
    rcases lockedBy_lock_self.mp isHeld with member | before
    · rcases List.mem_map.mp member with ⟨named, isNamed, same⟩
      by_cases isOld : named ∈ (system.transaction id).resources
      · left
        rw [← same]
        exact sound.holds_resources isExclusive named isOld
      · refine Or.inr ⟨isExclusive, List.mem_map.mpr ⟨named, ?_, same⟩⟩
        exact List.mem_filter.mpr ⟨isNamed, decide_eq_true isOld⟩
    · exact Or.inl before
  case takes =>
    intro _ resource isAdded
    apply lockedBy_lock_self.mpr
    exact Or.inl (List.mem_map_of_mem (List.mem_of_mem_filter isAdded))

theorem SoundAt.addResourcesSync {id : Id} (sound : system.SoundAt id) (resources : List Resource) :
    (system.addResourcesSync id resources).SoundAt id := by
  rw [Transactions.addResourcesSync]
  cases status : (system.transaction id).status with
  | exclusive =>
    by_cases isFree : (system.blockedBy id (system.resourceSet resources)).isEmpty
    · simp only [isFree]
      exact soundAt_setTransaction (sound.appendLocked status resources)
    · simp only [isFree]
      exact sound
  | shared =>
    apply soundAt_setTransaction
    refine sound.append (Or.inr status) _ (fun _ isHeld => isHeld)
      (fun _ isHeld => Or.inl isHeld) ?_
    intro isExclusive
    exact nomatch status.symm.trans isExclusive
  | waiting => exact sound
  | committingPhaseOne => exact sound
  | committingPhaseTwo => exact sound
  | rollingBack => exact sound
  | destroyed => exact sound

theorem SoundAt.addResources [Fintype Id] {id : Id} (sound : system.SoundAt id)
    (resources : List Resource) :
    (system.addResources id resources).SoundAt id := by
  rw [Transactions.addResources]
  by_cases isExclusive : (system.transaction id).status = .exclusive
  · simp only [isExclusive]
    have started := soundAt_setTransaction (sound.startAdd isExclusive resources)
    exact started.acquireStarted (Transaction.operations_setOperation_self _ _ _)
  · simp only [isExclusive]
    exact sound.addResourcesSync resources

theorem SoundAt.addAcquired {id : Id} (sound : system.SoundAt id) {resources set : List Resource}
    (isThere : (system.transaction id).operations operation =
      some (.acquiring (.addResources resources) set .acquired)) :
    ((system.setTransaction id
      ((system.transaction id).setOperation operation none)).addResourcesSync id
        resources).SoundAt id := by
  have isExclusive : (system.transaction id).status = .exclusive :=
    sound.status_of_operation _ _ isThere
  have isSet : set = system.resourceSet resources := sound.set_of_add _ _ _ _ isThere
  have isFree : (system.blockedBy id (system.resourceSet resources)).isEmpty := by
    rw [List.isEmpty_iff, List.eq_nil_iff_forall_not_mem]
    intro holder isBlocked
    rcases mem_blockedBy.mp isBlocked with ⟨different, resource, member, isLocked⟩
    rw [← isSet] at member
    rw [sound.holds_set _ _ _ isThere resource member] at isLocked
    exact different (Option.some.inj isLocked).symm
  have status : ((system.setTransaction id ((system.transaction id).setOperation operation
      none)).transaction id).status = .exclusive := by
    rw [transaction_setTransaction_self]
    exact isExclusive
  have isFreeNow : ((system.setTransaction id ((system.transaction id).setOperation operation
      none)).blockedBy id ((system.setTransaction id ((system.transaction id).setOperation
        operation none)).resourceSet resources)).isEmpty := isFree
  rw [Transactions.addResourcesSync, status]
  rw [if_pos isFreeNow]
  apply soundAt_setTransaction
  rw [lock, transaction_setTransaction_self]
  have added := sound.appendLocked isExclusive resources
  refine added.endAdd isThere ?_
  intro _ resource member
  rw [isSet] at member
  rcases List.mem_map.mp member with ⟨named, isNamed, same⟩
  refine List.mem_map.mpr ⟨named, ?_, same⟩
  by_cases isOld : named ∈ (system.transaction id).resources
  · exact List.mem_append_left _ isOld
  · exact List.mem_append_right _ (List.mem_filter.mpr ⟨isNamed, decide_eq_true isOld⟩)

/-! ### Beginning -/

theorem SoundAt.begin [Fintype Id] {id : Id} (sound : system.SoundAt id)
    (isIdle : (system.transaction id).status = .shared → (system.transaction id).IsIdle) :
    (system.begin id).SoundAt id := by
  rw [Transactions.begin]
  by_cases isShared : (system.transaction id).status = .shared
  · simp only [isShared, if_true]
    have holdsNone := sound.not_holds (sound.idle (isIdle isShared)) (by rw [isShared]; simp)
    have started := soundAt_setTransaction (@Transaction.Sound.start Id Resource _ _ _
      (.acquiring .begin (system.resourceSet (system.transaction id).resources) .resuming)
      sound (isIdle isShared) (by simp [status])
      (fun set stage same => by cases same; exact ⟨rfl, by simp⟩)
      (fun resource isHeld => absurd isHeld (holdsNone resource)))
    exact started.acquireStarted (Transaction.operations_setOperation_self _ _ _)
  · simp only [isShared]
    exact sound

theorem SoundAt.beginSync {id : Id} (sound : system.SoundAt id)
    (isIdle : (system.transaction id).status = .shared → (system.transaction id).IsIdle) :
    (system.beginSync id).SoundAt id := by
  rw [Transactions.beginSync]
  split
  next canBegin =>
    have idle := isIdle canBegin.1
    have holdsNone := sound.not_holds (sound.idle idle) (by rw [canBegin.1]; simp)
    apply soundAt_setTransaction
    refine Transaction.Sound.of_idle (sound.idle idle) rfl ?_ ?_ (fun _ _ => rfl)
    · exact fun _ resource member =>
        lockedBy_lock_self.mpr (Or.inl (List.mem_map_of_mem member))
    · intro resource isHeld
      rcases lockedBy_lock_self.mp isHeld with member | before
      · exact member
      · exact absurd before (holdsNone resource)
  next => exact sound

/-- An acquisition goes on. -/
theorem SoundAt.continueOperation [Fintype Id] {id : Id} (sound : system.SoundAt id)
    (operation : Nat) :
    (system.continueOperation id operation).SoundAt id := by
  rw [Transactions.continueOperation]
  split
  next acquirer set isThere =>
    refine soundAt_setTransaction (sound.setStage isThere (by simp)
      (fun _ isHeld => isHeld) (fun _ isHeld => Or.inl isHeld) ?_ none)
    exact nofun
  next acquirer set isThere => exact sound.acquireLocks isThere (by simp)
  next set isThere =>
    -- `begin` has the locks of its set, which are those of the resources.
    have isSet := sound.set_of_begin _ _ _ isThere
    apply soundAt_setTransaction
    refine Transaction.Sound.of_idle (sound.idle_of_end isThere (by simp
      [status])) rfl ?_ ?_ (fun _ _ => rfl)
    · intro _ resource member
      apply sound.holds_set _ _ _ isThere
      rw [isSet]
      exact List.mem_map_of_mem member
    · exact fun resource isHeld =>
        sound.mem_of_only isThere (by simp [status]) isHeld
  next set isThere =>
    apply soundAt_setTransaction
    refine Transaction.Sound.of_idle (sound.idle_of_end isThere (by simp [status])) rfl nofun ?_ ?_
    · exact fun resource isHeld =>
        sound.mem_of_only isThere (by simp [status]) isHeld
    · exact fun resource isHeld =>
        absurd isHeld (sound.not_holds_of_begin isThere (by simp) resource)
  next resources set isThere => exact sound.addAcquired isThere
  next resources set isThere =>
    exact soundAt_setTransaction (sound.endAdd isThere nofun)
  next => exact sound

/-! ### Finalizing -/

omit [DecidableEq Resource] in
theorem SoundAt.finalize {id : Id} (sound : system.SoundAt id) {isCommit : Bool}
    (isIdle : (system.transaction id).status = .shared ∨
      (system.transaction id).status = .exclusive → (system.transaction id).IsIdle) :
    (system.finalize id isCommit).SoundAt id := by
  rw [Transactions.finalize]
  by_cases isOpen : (system.transaction id).status = .shared ∨
      (system.transaction id).status = .exclusive
  · have starts : ∀ phase : FinalizationPhase, phase ≠ .rolledBack →
        (system.setTransaction id (((system.transaction id).startOperation
          (.finalizing phase)).setStatus phase.status)).SoundAt id := by
      intro phase notOver
      refine soundAt_setTransaction (sound.start (isIdle isOpen)
        (status_finalizing_ne_exclusive phase) ?_ ?_)
      · exact nofun
      · intro _ _
        cases phase with
        | rolledBack => exact absurd rfl notOver
        | committingPhaseOne => rfl
        | committingPhaseTwo => rfl
        | rollingBack => rfl
    simp only [isOpen]
    cases isCommit with
    | true => exact starts .committingPhaseOne (by simp)
    | false => exact starts .rollingBack (by simp)
  · simp only [isOpen]
    exact sound

omit [DecidableEq Resource] in
theorem SoundAt.changePhase {id : Id} (sound : system.SoundAt id) {phase : FinalizationPhase}
    (isThere : (system.transaction id).operations operation = some (.finalizing phase))
    (later : FinalizationPhase) :
    (system.setTransaction id (((system.transaction id).setOperation operation
      (some (.finalizing later))).setStatus later.status)).SoundAt id := by
  apply soundAt_setTransaction
  refine @Transaction.Sound.of_only Id Resource _ _ _ operation (.finalizing later)
    ?isThere ?only ?isOld rfl (status_finalizing_ne_exclusive later)
    nofun ?covered ?mayHold
  case isThere => exact Transaction.operations_setOperation_self _ _ _
  case only =>
    intro other different
    exact (Transaction.operations_setOperation_of_ne _ _ different).trans
      (sound.only isThere (status_finalizing_ne_exclusive phase) other different)
  case isOld =>
    by_contra isFresh
    have gone := sound.fresh operation (Nat.le_of_not_lt isFresh)
    rw [isThere] at gone
    cases gone
  case covered =>
    intro resource isHeld
    exact sound.mem_of_only isThere (status_finalizing_ne_exclusive phase) isHeld
  case mayHold =>
    intro _ _
    cases later with
    | rolledBack => exact Or.inr rfl
    | committingPhaseOne => exact Or.inl rfl
    | committingPhaseTwo => exact Or.inl rfl
    | rollingBack => exact Or.inl rfl

omit [DecidableEq Resource] in
theorem SoundAt.emitShared {id : Id} (sound : system.SoundAt id) (other : Id) :
    (system.emitShared other).SoundAt id :=
  sound.hearShared other

theorem SoundAt.cleanup {id : Id} (sound : system.SoundAt id) {phase : FinalizationPhase}
    (isThere : (system.transaction id).operations operation = some (.finalizing phase)) :
    (system.cleanup id operation).SoundAt id := by
  apply SoundAt.emitShared
  apply soundAt_setTransaction
  · have holdsNone : ∀ resource, ¬(system.releaseLocks id
        (system.resourceSet (system.transaction id).resources)).lockedBy resource = some id := by
      intro resource isHeld
      rcases lockedBy_releaseLocks_self.mp isHeld with ⟨notReleased, wasHeld⟩
      exact notReleased (sound.mem_of_only isThere (status_finalizing_ne_exclusive phase) wasHeld)
    exact Transaction.Sound.of_idle
      (sound.idle_of_end isThere (status_finalizing_ne_exclusive phase)) rfl
      nofun
      (fun resource isHeld => absurd isHeld (holdsNone resource))
      (fun resource isHeld => absurd isHeld (holdsNone resource))

theorem SoundAt.continueFinalization {id : Id} (sound : system.SoundAt id) (operation : Nat)
    (isFailed : Bool) : (system.continueFinalization id operation isFailed).SoundAt id := by
  rw [Transactions.continueFinalization]
  split
  next isThere =>
    cases isFailed with
    | true => exact sound.changePhase isThere .rollingBack
    | false => exact sound.changePhase isThere .committingPhaseTwo
  next isThere => exact sound.changePhase isThere .rolledBack
  next isThere => exact sound.cleanup isThere
  next isThere => exact sound.cleanup isThere
  next => exact sound

omit [DecidableEq Resource] in
theorem SoundAt.close {id : Id} (sound : system.SoundAt id)
    (isIdle : (system.transaction id).IsIdle)
    (isFree : (system.transaction id).status = .exclusive →
      (system.transaction id).resources = []) : (system.close id).SoundAt id := by
  have holdsNone : ∀ resource, ¬system.lockedBy resource = some id := by
    intro resource isHeld
    by_cases isExclusive : (system.transaction id).status = .exclusive
    · have member := sound.mem_of_idle isIdle isHeld
      rw [isFree isExclusive] at member
      cases member
    · exact sound.not_holds (sound.idle isIdle) isExclusive resource isHeld
  apply soundAt_setTransaction
  exact Transaction.Sound.of_idle (sound.idle isIdle) rfl
    nofun
    (fun resource isHeld => absurd isHeld (holdsNone resource))
    (fun resource isHeld => absurd isHeld (holdsNone resource))

theorem SoundAt.next [Fintype Id] {event : Event Id Resource} (sound : system.SoundAt event.id)
    (inOrder : system.InOrder event) : (system.next event).SoundAt event.id := by
  cases event with
  | addResourcesSync id resources => exact sound.addResourcesSync resources
  | addResources id resources => exact sound.addResources resources
  | begin id => exact sound.begin inOrder
  | beginSync id => exact sound.beginSync inOrder
  | continueOperation id operation => exact sound.continueOperation operation
  | finalize id isCommit => exact sound.finalize inOrder
  | continueFinalization id operation isFailed =>
    exact sound.continueFinalization operation isFailed
  | close id => exact sound.close inOrder.1 inOrder.2

/-! ## What a call leaves of the other transactions -/

section Others

variable {id other : Id} (different : other ≠ id)

include different

theorem untouched_lock {set : List Resource} (isFree : (system.blockedBy id set).isEmpty) :
    Untouched other system (system.lock id set) where
  referenced := rfl
  transaction := rfl
  lockedBy := fun resource => lockedBy_lock_of_ne isFree different resource

theorem untouched_releaseLocks (system : Transactions Id Resource) (set : List Resource) :
    Untouched other system (system.releaseLocks id set) where
  referenced := rfl
  transaction := rfl
  lockedBy := fun resource => lockedBy_releaseLocks_of_ne different resource

theorem untouched_acquireLocks [Fintype Id] (system : Transactions Id Resource)
    (operation : Nat) (acquirer : Acquirer Resource) (set : List Resource) :
    Untouched other system (system.acquireLocks id operation acquirer set) := by
  rw [acquireLocks]
  by_cases isFree : (system.blockedBy id set).isEmpty
  · simp only [isFree]
    exact (untouched_lock different isFree).trans (untouched_setTransaction _ _ different)
  · simp only [isFree, Bool.false_eq_true, if_false]
    cases system.detectDeadlock id (system.blockedBy id set) with
    | error _ => exact untouched_setTransaction _ _ different
    | ok _ =>
      simp only []
      split
      · exact untouched_setTransaction _ _ different
      · exact untouched_setTransaction _ _ different

theorem untouched_addResourcesSync (system : Transactions Id Resource) (resources : List Resource) :
    Untouched other system (system.addResourcesSync id resources) := by
  rw [addResourcesSync]
  cases (system.transaction id).status with
  | exclusive =>
    by_cases isFree : (system.blockedBy id (system.resourceSet resources)).isEmpty
    · simp only [isFree]
      exact (untouched_lock different isFree).trans (untouched_setTransaction _ _ different)
    · simp only [isFree]
      exact .refl other system
  | shared => exact untouched_setTransaction _ _ different
  | waiting => exact .refl other system
  | committingPhaseOne => exact .refl other system
  | committingPhaseTwo => exact .refl other system
  | rollingBack => exact .refl other system
  | destroyed => exact .refl other system

theorem untouched_addResources [Fintype Id] (system : Transactions Id Resource)
    (resources : List Resource) : Untouched other system (system.addResources id resources) := by
  rw [addResources]
  split
  · exact (untouched_setTransaction _ _ different).trans (untouched_acquireLocks different _ _ _ _)
  · exact untouched_addResourcesSync different system resources

theorem untouched_begin [Fintype Id] (system : Transactions Id Resource) :
    Untouched other system (system.begin id) := by
  rw [begin]
  split
  · exact (untouched_setTransaction _ _ different).trans (untouched_acquireLocks different _ _ _ _)
  · exact .refl other system

theorem untouched_beginSync (system : Transactions Id Resource) :
    Untouched other system (system.beginSync id) := by
  rw [beginSync]
  split
  next canBegin =>
    exact (untouched_lock different canBegin.2).trans (untouched_setTransaction _ _ different)
  next => exact .refl other system

theorem untouched_continueOperation [Fintype Id] (system : Transactions Id Resource)
    (operation : Nat) : Untouched other system (system.continueOperation id operation) := by
  rw [continueOperation]
  split
  next => exact untouched_setTransaction _ _ different
  next => exact untouched_acquireLocks different _ _ _ _
  next => exact untouched_setTransaction _ _ different
  next => exact untouched_setTransaction _ _ different
  next =>
    exact (untouched_setTransaction _ _ different).trans (untouched_addResourcesSync different _ _)
  next => exact untouched_setTransaction _ _ different
  next => exact .refl other system

omit [DecidableEq Resource] in
theorem untouched_finalize (system : Transactions Id Resource) (isCommit : Bool) :
    Untouched other system (system.finalize id isCommit) := by
  rw [finalize]
  split
  · cases isCommit with
    | true => exact untouched_setTransaction _ _ different
    | false => exact untouched_setTransaction _ _ different
  · exact .refl other system

end Others

/-- A call on another transaction leaves one as it is, but for what it may hear of the end of
the other. -/
theorem untouched_next [Fintype Id] {id : Id} {event : Event Id Resource}
    (different : id ≠ event.id) :
    Untouched id system (system.next event) ∨ ∃ between, Untouched id system between ∧
      system.next event = between.emitShared event.id := by
  cases event with
  | addResourcesSync _ resources =>
    exact Or.inl (untouched_addResourcesSync different system resources)
  | addResources _ resources => exact Or.inl (untouched_addResources different system resources)
  | begin _ => exact Or.inl (untouched_begin different system)
  | beginSync _ => exact Or.inl (untouched_beginSync different system)
  | continueOperation _ operation =>
    exact Or.inl (untouched_continueOperation different system operation)
  | finalize _ isCommit => exact Or.inl (untouched_finalize different system isCommit)
  | continueFinalization other operation isFailed =>
    have cleansUp : ∃ between, Untouched id system between ∧
        system.cleanup other operation = between.emitShared other :=
      ⟨_, (untouched_releaseLocks different _ _).trans
        (untouched_setTransaction _ _ different), rfl⟩
    rw [next, continueFinalization]
    split
    next =>
      cases isFailed with
      | true => exact Or.inl (untouched_setTransaction _ _ different)
      | false => exact Or.inl (untouched_setTransaction _ _ different)
    next => exact Or.inl (untouched_setTransaction _ _ different)
    next => exact Or.inr cleansUp
    next => exact Or.inr cleansUp
    next => exact Or.inl (.refl id system)
  | close _ => exact Or.inl (untouched_setTransaction _ _ different)

theorem SoundAt.next_of_ne [Fintype Id] {id : Id} {event : Event Id Resource}
    (sound : system.SoundAt id) (different : id ≠ event.id) :
    (system.next event).SoundAt id := by
  rcases untouched_next different with untouched | ⟨between, untouched, isEmitted⟩
  · exact sound.of_untouched untouched
  · rw [isEmitted]
    exact (sound.of_untouched untouched).emitShared event.id

theorem soundAt_run [Fintype Id] (referenced : Resource → Resource)
    {events : List (Event Id Resource)}
    (inOrder : Execution.Along Transactions.next InOrder (new referenced) events) (id : Id) :
    (Execution.run Transactions.next (new referenced) events).SoundAt id := by
  refine Execution.run_invariant_along (fun system => system.SoundAt id) ?_
    (soundAt_new referenced id) inOrder
  intro system event inOrder sound
  by_cases isOwn : id = event.id
  · rw [isOwn] at sound ⊢
    exact sound.next inOrder
  · exact sound.next_of_ne isOwn

end Transactions

end MatterJs.General
