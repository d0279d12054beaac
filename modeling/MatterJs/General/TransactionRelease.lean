import MatterJs.General.TransactionAct

/-! When the transaction of an `act` leaves no lock behind. -/

namespace MatterJs.General

/-! ## A transaction that nothing is asked of -/

namespace Transaction

variable {Id Resource : Type}

/-- What is under way for a transaction, and its status, stay as they are. -/
structure SameCalls (before after : Transaction Id Resource) : Prop where
  status : after.status = before.status
  operations : after.operations = before.operations
  nextOperation : after.nextOperation = before.nextOperation

theorem SameCalls.refl (transaction : Transaction Id Resource) :
    SameCalls transaction transaction where
  status := rfl
  operations := rfl
  nextOperation := rfl

theorem SameCalls.isIdle {before after : Transaction Id Resource}
    (same : SameCalls before after) (isIdle : before.IsIdle) : after.IsIdle := by
  intro operation isOld
  rw [same.nextOperation] at isOld
  rw [same.operations]
  exact isIdle operation isOld

theorem isIdle_hearShared [DecidableEq Id] {transaction : Transaction Id Resource} {other : Id}
    (isIdle : transaction.IsIdle) : (transaction.hearShared other).IsIdle :=
  fun operation isOld => operations_hearShared_eq_none.mpr (isIdle operation isOld)

end Transaction

namespace Transactions

variable {Id Resource : Type}

def Event.isStart : Event Id Resource → Bool
  | .begin _ | .beginSync _ | .finalize _ _ => true
  | .addResourcesSync _ _ | .addResources _ _ | .continueOperation _ _
  | .continueFinalization _ _ _ | .close _ => false

variable [DecidableEq Id] [DecidableEq Resource] {system : Transactions Id Resource}

theorem sameCalls_addResourcesSync {id : Id}
    (notExclusive : (system.transaction id).status ≠ .exclusive) (resources : List Resource) :
    Transaction.SameCalls (system.transaction id)
      ((system.addResourcesSync id resources).transaction id) := by
  rw [addResourcesSync]
  cases status : (system.transaction id).status with
  | exclusive => exact absurd status notExclusive
  | shared =>
    simp only [addToResources, transaction_setTransaction_self]
    exact ⟨rfl, rfl, rfl⟩
  | waiting => exact .refl _
  | committingPhaseOne => exact .refl _
  | committingPhaseTwo => exact .refl _
  | rollingBack => exact .refl _
  | destroyed => exact .refl _

theorem sameCalls_next [Fintype Id] {id : Id} {event : Event Id Resource} (isOwn : event.id = id)
    (notExclusive : (system.transaction id).status ≠ .exclusive)
    (notStart : event.isStart → (system.transaction id).status ≠ .shared)
    (notClose : event ≠ .close id)
    (noAcquisition : ∀ operation acquirer set stage,
      (system.transaction id).operations operation ≠ some (.acquiring acquirer set stage))
    (notFinalization : ∀ operation isFailed,
      event = .continueFinalization id operation isFailed →
        (system.transaction id).operations operation = none) :
    Transaction.SameCalls (system.transaction id) ((system.next event).transaction id) := by
  cases event with
  | addResourcesSync other resources =>
    have same : other = id := isOwn
    subst same
    exact sameCalls_addResourcesSync notExclusive resources
  | addResources other resources =>
    have same : other = id := isOwn
    subst same
    rw [next, addResources, if_neg notExclusive]
    exact sameCalls_addResourcesSync notExclusive resources
  | begin other =>
    have same : other = id := isOwn
    subst same
    rw [next, begin, if_neg (notStart rfl)]
    exact .refl _
  | beginSync other =>
    have same : other = id := isOwn
    subst same
    rw [next, beginSync, if_neg (fun canBegin => notStart rfl canBegin.1)]
    exact .refl _
  | continueOperation other operation =>
    have same : other = id := isOwn
    subst same
    rw [next, continueOperation]
    cases isThere : (system.transaction other).operations operation with
    | none => exact .refl _
    | some stands =>
      rcases stands with ⟨acquirer, set, stage⟩ | phase
      · exact absurd isThere (noAcquisition operation acquirer set stage)
      · exact .refl _
  | finalize other isCommit =>
    have same : other = id := isOwn
    subst same
    have notOpen : ¬((system.transaction other).status = .shared ∨
        (system.transaction other).status = .exclusive) := by
      rintro (isShared | isExclusive)
      · exact notStart rfl isShared
      · exact notExclusive isExclusive
    rw [next, finalize, if_neg notOpen]
    exact .refl _
  | continueFinalization other operation isFailed =>
    have same : other = id := isOwn
    subst same
    rw [next, continueFinalization, notFinalization operation isFailed rfl]
    exact .refl _
  | close other =>
    have same : other = id := isOwn
    subst same
    exact absurd rfl notClose

theorem SoundAt.sameCalls_of_idle [Fintype Id] {id : Id} {event : Event Id Resource}
    (sound : system.SoundAt id) (isOwn : event.id = id)
    (isIdle : (system.transaction id).IsIdle)
    (notExclusive : (system.transaction id).status ≠ .exclusive)
    (notStart : event.isStart → (system.transaction id).status ≠ .shared)
    (notClose : event ≠ .close id) :
    Transaction.SameCalls (system.transaction id) ((system.next event).transaction id) := by
  refine sameCalls_next isOwn notExclusive notStart notClose ?_ ?_
  · intro operation acquirer set stage isThere
    rw [sound.idle isIdle operation] at isThere
    cases isThere
  · exact fun operation _ _ => sound.idle isIdle operation

omit [DecidableEq Resource] in
theorem operations_finalize {id : Id} (isOpen : (system.transaction id).status = .shared ∨
      (system.transaction id).status = .exclusive) (isCommit : Bool) :
    ∃ phase, ((system.finalize id isCommit).transaction id).operations
      (system.transaction id).nextOperation = some (.finalizing phase) := by
  rw [finalize, if_pos isOpen]
  cases isCommit with
  | true =>
    refine ⟨.committingPhaseOne, ?_⟩
    simp only [if_true, transaction_setTransaction_self]
    exact Transaction.operations_setOperation_self _ _ _
  | false =>
    refine ⟨.rollingBack, ?_⟩
    simp only [Bool.false_eq_true, if_false, transaction_setTransaction_self]
    exact Transaction.operations_setOperation_self _ _ _

theorem SoundAt.isIdle_cleanup {id : Id} {operation : Nat} {phase : FinalizationPhase}
    (sound : system.SoundAt id)
    (isThere : (system.transaction id).operations operation = some (.finalizing phase)) :
    ((system.cleanup id operation).transaction id).IsIdle ∧
      ((system.cleanup id operation).transaction id).status = .shared := by
  have isIdle : (((system.transaction id).setOperation operation none).setStatus
      .shared).IsIdle := fun other _ =>
    sound.idle_of_end isThere (PendingOperation.status_finalizing_ne_exclusive phase) other
  rw [Transactions.cleanup, Transactions.emitShared]
  simp only [transaction_setTransaction_self]
  exact ⟨Transaction.isIdle_hearShared isIdle, rfl⟩

theorem SoundAt.finalizing_next [Fintype Id] {id : Id} {event : Event Id Resource}
    {operation : Nat} {phase : FinalizationPhase} (sound : system.SoundAt id)
    (isOwn : event.id = id)
    (isThere : (system.transaction id).operations operation = some (.finalizing phase))
    (inOrder : system.InOrder event) (notClose : event ≠ .close id) :
    (∃ later, ((system.next event).transaction id).operations operation =
      some (.finalizing later)) ∨
    ((system.next event).transaction id).IsIdle ∧
      ((system.next event).transaction id).status = .shared := by
  have status := sound.status_of_operation operation _ isThere
  have notExclusive : (system.transaction id).status ≠ .exclusive := by
    rw [status]
    exact PendingOperation.status_finalizing_ne_exclusive phase
  have only := sound.only isThere (PendingOperation.status_finalizing_ne_exclusive phase)
  have notIdle : ¬(system.transaction id).IsIdle := by
    intro isIdle
    rw [sound.idle isIdle operation] at isThere
    cases isThere
  by_cases goesOn : ∃ isFailed, event = .continueFinalization id operation isFailed
  · rcases goesOn with ⟨isFailed, isEvent⟩
    rw [isEvent, Transactions.next, Transactions.continueFinalization, isThere]
    cases phase with
    | committingPhaseOne =>
      left
      cases isFailed with
      | true =>
        refine ⟨.rollingBack, ?_⟩
        simp only [if_true, transaction_setTransaction_self]
        exact Transaction.operations_setOperation_self _ _ _
      | false =>
        refine ⟨.committingPhaseTwo, ?_⟩
        simp only [Bool.false_eq_true, if_false, transaction_setTransaction_self]
        exact Transaction.operations_setOperation_self _ _ _
    | rollingBack =>
      left
      refine ⟨.rolledBack, ?_⟩
      simp only [transaction_setTransaction_self]
      exact Transaction.operations_setOperation_self _ _ _
    | committingPhaseTwo => exact Or.inr (sound.isIdle_cleanup isThere)
    | rolledBack => exact Or.inr (sound.isIdle_cleanup isThere)
  · left
    refine ⟨phase, ?_⟩
    have same := @sameCalls_next _ _ _ _ system _ id event isOwn notExclusive ?notStart notClose
      ?noAcquisition ?notFinalization
    case notStart =>
      intro isStart isShared
      cases event with
      | begin other =>
        have same : other = id := isOwn
        subst same
        exact notIdle (inOrder isShared)
      | beginSync other =>
        have same : other = id := isOwn
        subst same
        exact notIdle (inOrder isShared)
      | finalize other isCommit =>
        have same : other = id := isOwn
        subst same
        exact notIdle (inOrder (Or.inl isShared))
      | addResourcesSync _ _ => cases isStart
      | addResources _ _ => cases isStart
      | continueOperation _ _ => cases isStart
      | continueFinalization _ _ _ => cases isStart
      | close _ => cases isStart
    case noAcquisition =>
      intro other acquirer set stage otherThere
      by_cases isSame : other = operation
      · rw [isSame, isThere] at otherThere
        cases otherThere
      · rw [only other isSame] at otherThere
        cases otherThere
    case notFinalization =>
      intro other isFailed isEvent
      apply only
      intro isSame
      rw [isSame] at isEvent
      exact goesOn ⟨isFailed, isEvent⟩
    rw [same.operations]
    exact isThere

end Transactions

/-! ## Runs of `act` -/

/-- Where `act` waits for the end of its transaction, and neither the actor nor a `preCommit` or
`postCommit` runs. -/
def ActStage.isEnding : ActStage → Bool
  | .finalizing _ _ | .closing => true
  | .acting | .preCommitting | .postCommitting | .settled => false

/-- What the transaction of an `act` is like at a stage. -/
def ActStage.Requires {Id Resource : Type} (transaction : Transaction Id Resource) :
    ActStage → Prop
  | .acting | .preCommitting | .postCommitting => True
  | .finalizing operation _ =>
    (∃ phase, transaction.operations operation = some (.finalizing phase)) ∨
      transaction.IsIdle ∧ transaction.status = .shared
  | .closing => transaction.IsIdle ∧ transaction.status ≠ .exclusive
  | .settled => transaction.IsIdle ∧ transaction.status = .destroyed

namespace Act

variable {Id Resource : Type}

/-- The calls on the transaction come in order, and no call starts after the actor or the
`preCommit` or `postCommit` that has made it; where `act` enters `#finalize`, or goes on to close
the transaction, nothing is under way; and the fifth commit does not leave it exclusive. -/
def InTime (act : Act Id Resource) : ActEvent Id Resource → Prop
  | .call event => event.id = act.id → event ≠ .close act.id → act.system.InOrder event ∧
      (act.stage.isEnding → event.isStart → act.transaction.status ≠ .shared)
  | .actorEnds isRejected => act.stage = .acting →
      -- Otherwise `commit` begins with the `preCommit`.
      isRejected = true ∨ act.transaction.status = .shared ∨
        act.transaction.status = .destroyed → act.transaction.IsIdle
  | .preCommitEnds _ => act.stage = .preCommitting → act.transaction.IsIdle
  | .postCommitEnds => act.stage = .postCommitting →
      (act.transaction.status = .exclusive → act.commits < maxChainedCommits) ∧
        (act.transaction.status ≠ .exclusive → act.transaction.IsIdle)
  | .finalizationEnds _ | .close => True

instance [DecidableEq Id] [DecidableEq Resource] (act : Act Id Resource) :
    ∀ event, Decidable (act.InTime event)
  | .call _ | .actorEnds _ | .preCommitEnds _ | .postCommitEnds => by
    rw [InTime]
    infer_instance
  | .finalizationEnds _ | .close => isTrue trivial

/-- What holds of an `act` in every such run. -/
structure Sound (act : Act Id Resource) : Prop where
  soundAt : act.system.SoundAt act.id
  isFirst : act.stage = .acting → act.commits = 0
  requires : act.stage.Requires act.transaction

theorem sound_new (referenced : Resource → Resource) (id : Id) :
    (new referenced id : Act Id Resource).Sound where
  soundAt := Transactions.soundAt_new referenced id
  isFirst := fun _ => rfl
  requires := trivial

theorem sound_setClosing {act : Act Id Resource} (soundAt : act.system.SoundAt act.id)
    (isIdle : act.transaction.IsIdle) (notExclusive : act.transaction.status ≠ .exclusive) :
    (act.setStage .closing).Sound where
  soundAt := soundAt
  isFirst := nofun
  requires := ⟨isIdle, notExclusive⟩

variable [DecidableEq Id] {act : Act Id Resource}

theorem sound_finalize (soundAt : act.system.SoundAt act.id) (isIdle : act.transaction.IsIdle)
    (finalization : ActFinalization) : (act.finalize finalization).Sound := by
  rw [finalize]
  by_cases isOpen : act.transaction.status = .shared ∨ act.transaction.status = .exclusive
  · rw [if_pos isOpen]
    constructor
    case soundAt => exact soundAt.finalize fun _ => isIdle
    case isFirst => exact fun isActing => by cases isActing
    case requires => exact Or.inl (Transactions.operations_finalize isOpen _)
  · rw [if_neg isOpen]
    exact sound_setClosing soundAt isIdle fun isExclusive => isOpen (Or.inr isExclusive)

theorem sound_commit (soundAt : act.system.SoundAt act.id)
    (isIdle : act.transaction.status = .shared ∨ act.transaction.status = .destroyed →
      act.transaction.IsIdle) : act.commit.Sound := by
  have preCommits : (act.setStage .preCommitting).Sound :=
    ⟨soundAt, nofun, trivial⟩
  rw [commit]
  cases status : act.transaction.status with
  | destroyed =>
    refine sound_setClosing soundAt (isIdle (Or.inr status)) ?_
    rw [status]
    simp
  | shared => exact sound_finalize soundAt (isIdle (Or.inl status)) .reset
  | waiting => exact preCommits
  | exclusive => exact preCommits
  | committingPhaseOne => exact preCommits
  | committingPhaseTwo => exact preCommits
  | rollingBack => exact preCommits

theorem sound_commitTransaction (soundAt : act.system.SoundAt act.id)
    (isLow : act.commits < maxChainedCommits)
    (isIdle : act.transaction.status = .shared ∨ act.transaction.status = .destroyed →
      act.transaction.IsIdle) : act.commitTransaction.Sound := by
  rw [commitTransaction, if_neg (by omega)]
  exact sound_commit soundAt isIdle

theorem sound_commitAgain (soundAt : act.system.SoundAt act.id)
    (isLow : act.transaction.status = .exclusive → act.commits < maxChainedCommits)
    (isIdle : act.transaction.status ≠ .exclusive → act.transaction.IsIdle) :
    act.commitAgain.Sound := by
  rw [commitAgain]
  by_cases isExclusive : act.transaction.status = .exclusive
  · rw [if_pos isExclusive]
    refine sound_commitTransaction soundAt (isLow isExclusive) ?_
    rintro (isShared | isDestroyed)
    · cases isExclusive.symm.trans isShared
    · cases isExclusive.symm.trans isDestroyed
  · rw [if_neg isExclusive]
    exact sound_setClosing soundAt (isIdle isExclusive) isExclusive

end Act

theorem ActStage.Requires.of_sameCalls {Id Resource : Type} {stage : ActStage}
    {before after : Transaction Id Resource} (requires : stage.Requires before)
    (same : Transaction.SameCalls before after) : stage.Requires after := by
  cases stage with
  | acting => trivial
  | preCommitting => trivial
  | postCommitting => trivial
  | finalizing operation finalization =>
    rcases requires with ⟨phase, isThere⟩ | ⟨isIdle, isShared⟩
    · exact Or.inl ⟨phase, (congrFun same.operations operation).trans isThere⟩
    · exact Or.inr ⟨same.isIdle isIdle, same.status.trans isShared⟩
  | closing =>
    refine ⟨same.isIdle requires.1, ?_⟩
    rw [same.status]
    exact requires.2
  | settled => exact ⟨same.isIdle requires.1, same.status.trans requires.2⟩

theorem ActStage.Requires.hearShared {Id Resource : Type} [DecidableEq Id] {stage : ActStage}
    {transaction : Transaction Id Resource} (requires : stage.Requires transaction)
    (other : Id) : stage.Requires (transaction.hearShared other) := by
  cases stage with
  | acting => trivial
  | preCommitting => trivial
  | postCommitting => trivial
  | finalizing operation finalization =>
    rcases requires with ⟨phase, isThere⟩ | ⟨isIdle, isShared⟩
    · exact Or.inl ⟨phase, Transaction.operations_hearShared_finalizing.mpr isThere⟩
    · exact Or.inr ⟨Transaction.isIdle_hearShared isIdle, isShared⟩
  | closing => exact ⟨Transaction.isIdle_hearShared requires.1, requires.2⟩
  | settled => exact ⟨Transaction.isIdle_hearShared requires.1, requires.2⟩

namespace Act

variable {Id Resource : Type} [DecidableEq Id] [DecidableEq Resource] [Fintype Id]
  {act : Act Id Resource}

theorem Sound.call_own (sound : act.Sound) {event : Transactions.Event Id Resource}
    (isOwn : event.id = act.id) (notClose : event ≠ .close act.id)
    (inOrder : act.system.InOrder event)
    (inTime : act.stage.isEnding → event.isStart → act.transaction.status ≠ .shared) :
    ({ act with system := act.system.next event } : Act Id Resource).Sound := by
  have soundAt := sound.soundAt
  have requires := sound.requires
  constructor
  case soundAt =>
    rw [← isOwn] at soundAt
    have after := soundAt.next inOrder
    rw [isOwn] at after
    exact after
  case isFirst => exact sound.isFirst
  case requires =>
    cases stage : act.stage with
    | acting => trivial
    | preCommitting => trivial
    | postCommitting => trivial
    | finalizing operation finalization =>
      rw [stage] at requires inTime
      rcases requires with ⟨phase, isThere⟩ | ⟨isIdle, isShared⟩
      · exact soundAt.finalizing_next isOwn isThere inOrder notClose
      · have notExclusive : act.transaction.status ≠ .exclusive := by
          rw [isShared]
          simp
        have same := soundAt.sameCalls_of_idle isOwn isIdle notExclusive (inTime rfl) notClose
        exact Or.inr ⟨same.isIdle isIdle, same.status.trans isShared⟩
    | closing =>
      rw [stage] at requires inTime
      have same := soundAt.sameCalls_of_idle isOwn requires.1 requires.2 (inTime rfl) notClose
      exact ActStage.Requires.of_sameCalls requires same
    | settled =>
      rw [stage] at requires
      have isDestroyed : (act.system.transaction act.id).status = .destroyed := requires.2
      have same := soundAt.sameCalls_of_idle isOwn requires.1 (by rw [isDestroyed]; simp)
        (fun _ => by rw [isDestroyed]; simp) notClose
      exact ActStage.Requires.of_sameCalls requires same

theorem Sound.call_other (sound : act.Sound) {event : Transactions.Event Id Resource}
    (different : act.id ≠ event.id) :
    ({ act with system := act.system.next event } : Act Id Resource).Sound where
  soundAt := sound.soundAt.next_of_ne different
  isFirst := sound.isFirst
  requires := by
    change act.stage.Requires ((act.system.next event).transaction act.id)
    rcases Transactions.untouched_next different with untouched | ⟨between, untouched, isEmitted⟩
    · rw [untouched.transaction]
      exact sound.requires
    · rw [isEmitted, Transactions.emitShared]
      simp only [untouched.transaction]
      exact sound.requires.hearShared event.id

omit [DecidableEq Resource] [Fintype Id] in
theorem Sound.finalizationEnds (sound : act.Sound) (isIdle : act.transaction.IsIdle)
    (isShared : act.transaction.status = .shared) (isRejected : Bool)
    (finalization : ActFinalization) :
    (if isRejected then act.setStage .closing
      else match finalization with
        | .commit => act.setStage .postCommitting
        | .reset => act.commitAgain
        | .errorRollback => act.setStage .closing).Sound := by
  have notExclusive : act.transaction.status ≠ .exclusive := by
    rw [isShared]
    simp
  have closes := sound_setClosing sound.soundAt isIdle notExclusive
  cases isRejected with
  | true => exact closes
  | false =>
    cases finalization with
    | commit => exact ⟨sound.soundAt, nofun, trivial⟩
    | reset =>
      exact sound_commitAgain sound.soundAt
        (fun isExclusive => absurd isExclusive notExclusive) (fun _ => isIdle)
    | errorRollback => exact closes

omit [DecidableEq Resource] [Fintype Id] in
theorem Sound.close (sound : act.Sound) (isIdle : act.transaction.IsIdle)
    (notExclusive : act.transaction.status ≠ .exclusive) :
    ({ act with system := act.system.close act.id, stage := .settled } :
      Act Id Resource).Sound where
  soundAt := sound.soundAt.close isIdle fun isExclusive => absurd isExclusive notExclusive
  isFirst := nofun
  requires := by
    have closed : (act.system.close act.id).transaction act.id =
        { act.transaction with status := .destroyed, resources := [] } :=
      Transactions.transaction_setTransaction_self _ _ _
    change ((act.system.close act.id).transaction act.id).IsIdle ∧
      ((act.system.close act.id).transaction act.id).status = .destroyed
    rw [closed]
    exact ⟨isIdle, rfl⟩

theorem Sound.next (sound : act.Sound) {event : ActEvent Id Resource}
    (inTime : act.InTime event) : (act.next event).Sound := by
  cases event with
  | call event =>
    rw [Act.next]
    by_cases isClose : event = .close act.id
    · rw [if_pos isClose]
      exact sound
    · rw [if_neg isClose]
      by_cases isOwn : event.id = act.id
      · exact sound.call_own isOwn isClose (inTime isOwn isClose).1 (inTime isOwn isClose).2
      · exact sound.call_other (Ne.symm isOwn)
  | actorEnds isRejected =>
    rw [Act.next]
    by_cases isActing : act.stage = .acting
    · rw [if_pos isActing]
      cases isRejected with
      | true => exact sound_finalize sound.soundAt (inTime isActing (Or.inl rfl)) _
      | false =>
        have isLow : act.commits < maxChainedCommits := by
          rw [sound.isFirst isActing]
          decide
        exact sound_commitTransaction sound.soundAt isLow fun status =>
          inTime isActing (Or.inr status)
    · rw [if_neg isActing]
      exact sound
  | preCommitEnds isRejected =>
    rw [Act.next]
    by_cases isPreCommitting : act.stage = .preCommitting
    · rw [if_pos isPreCommitting]
      cases isRejected with
      | true => exact sound_finalize sound.soundAt (inTime isPreCommitting) _
      | false => exact sound_finalize sound.soundAt (inTime isPreCommitting) _
    · rw [if_neg isPreCommitting]
      exact sound
  | finalizationEnds isRejected =>
    rw [Act.next]
    have requires := sound.requires
    cases stage : act.stage with
    | finalizing operation finalization =>
      simp only []
      by_cases isPending : (act.transaction.operations operation).isSome
      · rw [if_pos isPending]
        exact sound
      · rw [if_neg isPending]
        rw [stage] at requires
        rcases requires with ⟨phase, isThere⟩ | ⟨isIdle, isShared⟩
        · rw [isThere] at isPending
          exact absurd rfl isPending
        · exact sound.finalizationEnds isIdle isShared isRejected finalization
    | acting => exact sound
    | preCommitting => exact sound
    | postCommitting => exact sound
    | closing => exact sound
    | settled => exact sound
  | postCommitEnds =>
    rw [Act.next]
    by_cases isPostCommitting : act.stage = .postCommitting
    · rw [if_pos isPostCommitting]
      exact sound_commitAgain sound.soundAt (inTime isPostCommitting).1 (inTime isPostCommitting).2
    · rw [if_neg isPostCommitting]
      exact sound
  | close =>
    rw [Act.next]
    by_cases isClosing : act.stage = .closing
    · rw [if_pos isClosing]
      have requires := sound.requires
      rw [isClosing] at requires
      exact sound.close requires.1 requires.2
    · rw [if_neg isClosing]
      exact sound

theorem sound_run (referenced : Resource → Resource) (id : Id)
    {events : List (ActEvent Id Resource)}
    (inTime : Execution.Along Act.next InTime (new referenced id) events) :
    (Execution.run Act.next (new referenced id) events).Sound :=
  Execution.run_invariant_along Sound (fun _ _ inTime sound => sound.next inTime)
    (sound_new referenced id) inTime

theorem id_run (referenced : Resource → Resource) (id : Id) (events : List (ActEvent Id Resource)) :
    (Execution.run Act.next (new referenced id) events).id = id :=
  Execution.run_invariant Act.next (fun act => act.id = id)
    (fun act event same => (id_next act event).trans same) rfl events

/-- In every run whose calls come in time, the transaction of an `act` that has settled is
destroyed, and no resource is locked by it. -/
theorem leavesNoLock (referenced : Resource → Resource) (id : Id)
    (events : List (ActEvent Id Resource))
    (inTime : Execution.Along Act.next InTime (new referenced id) events) :
    let act := Execution.run Act.next (new referenced id) events
    act.stage = .settled → (act.system.transaction id).status = .destroyed ∧
      ∀ resource, act.system.lockedBy resource ≠ some id := by
  intro act isSettled
  have sound := sound_run referenced id inTime
  have requires := sound.requires
  have soundAt := sound.soundAt
  rw [isSettled, transaction, id_run] at requires
  rw [id_run] at soundAt
  refine ⟨requires.2, soundAt.not_holds (soundAt.idle requires.1) ?_⟩
  rw [requires.2]
  simp

/-- The actor begins the transaction, which is then committed. -/
theorem commit_leavesNoLock :
    let act : Act (Fin 1) (Fin 1) := Execution.run Act.next (new (fun resource => resource) 0)
      [.call (.addResourcesSync 0 [0]), .call (.begin 0), .call (.continueOperation 0 0),
        .actorEnds false, .preCommitEnds false, .call (.continueFinalization 0 1 false),
        .call (.continueFinalization 0 1 false), .finalizationEnds false, .postCommitEnds, .close]
    (act.system.transaction 0).status = .destroyed ∧
      ∀ resource, act.system.lockedBy resource ≠ some 0 :=
  leavesNoLock (fun resource => resource) 0 _ (by decide +kernel) (by decide +kernel)

/-- A commit whose `postCommit` makes the transaction exclusive again. -/
def chainedCommit (operation : Nat) : List (ActEvent (Fin 1) (Fin 1)) :=
  [.preCommitEnds false, .call (.continueFinalization 0 operation false),
    .call (.continueFinalization 0 operation false), .finalizationEnds false,
    .call (.beginSync 0), .postCommitEnds]

/-- The sixth commit in a chain is refused, and the locks stay. -/
theorem sixthCommit_keeps_lock :
    let act : Act (Fin 1) (Fin 1) := Execution.run Act.next (new (fun resource => resource) 0)
      ([.call (.addResourcesSync 0 [0]), .call (.beginSync 0), .actorEnds false] ++
        (List.range maxChainedCommits).flatMap chainedCommit ++ [.close])
    act.stage = .settled ∧ act.system.lockedBy 0 = some 0 := by
  decide +kernel

end Act

end MatterJs.General
