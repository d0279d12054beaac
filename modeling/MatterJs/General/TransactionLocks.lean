import MatterJs.General.Transactions

/-! What a transaction that holds locks is like, and what its calls keep of it. -/

namespace MatterJs.General

namespace FinalizationPhase

def status : FinalizationPhase → TransactionStatus
  | .committingPhaseOne => .committingPhaseOne
  | .committingPhaseTwo => .committingPhaseTwo
  | .rollingBack => .rollingBack
  | .rolledBack => .shared

end FinalizationPhase

namespace TransactionStatus

def holdsLocks : TransactionStatus → Bool
  | .exclusive | .committingPhaseOne | .committingPhaseTwo | .rollingBack => true
  | .shared | .waiting | .destroyed => false

/-- The statuses that an operation is responsible for. -/
def isUnderWay : TransactionStatus → Bool
  | .waiting | .committingPhaseOne | .committingPhaseTwo | .rollingBack => true
  | .shared | .exclusive | .destroyed => false

end TransactionStatus

namespace PendingOperation

variable {Id Resource : Type}

def status : PendingOperation Id Resource → TransactionStatus
  | .acquiring .begin _ _ => .waiting
  | .acquiring (.addResources _) _ _ => .exclusive
  | .finalizing phase => phase.status

end PendingOperation

namespace Transaction

variable {Id Resource : Type}

variable (transaction : Transaction Id Resource)

/-- A transaction holds locks in an exclusive or finalizing status, from when its `begin` has
taken them, and until they are released after a rollback. -/
def MayHoldLocks : Prop :=
  transaction.status.holdsLocks ∨
    (∃ operation set, transaction.operations operation = some (.acquiring .begin set .acquired)) ∨
    ∃ operation, transaction.operations operation = some (.finalizing .rolledBack)

structure Sound (referenced : Resource → Resource) (holds : Resource → Prop)
    (transaction : Transaction Id Resource) : Prop where
  fresh : ∀ operation, transaction.nextOperation ≤ operation →
    transaction.operations operation = none
  status_of_operation : ∀ operation stands, transaction.operations operation = some stands →
    transaction.status = stands.status
  unique : transaction.status ≠ .exclusive → ∀ first second firstStands secondStands,
    transaction.operations first = some firstStands →
      transaction.operations second = some secondStands → first = second
  underWay : transaction.status.isUnderWay → ∃ operation, transaction.operations operation ≠ none
  set_of_begin : ∀ operation set stage,
    transaction.operations operation = some (.acquiring .begin set stage) →
      set = transaction.resources.map referenced
  set_of_add : ∀ operation resources set stage,
    transaction.operations operation = some (.acquiring (.addResources resources) set stage) →
      set = resources.map referenced
  holds_resources : transaction.status = .exclusive → ∀ resource ∈ transaction.resources,
    holds (referenced resource)
  holds_set : ∀ operation acquirer set,
    transaction.operations operation = some (.acquiring acquirer set .acquired) →
      ∀ resource ∈ set, holds resource
  covered : ∀ resource, holds resource → resource ∈ transaction.resources.map referenced ∨
    ∃ operation resources set, transaction.operations operation =
      some (.acquiring (.addResources resources) set .acquired) ∧ resource ∈ set
  mayHoldLocks : ∀ resource, holds resource → transaction.MayHoldLocks

theorem operations_setOperation_self (operation : Nat)
    (stands : Option (PendingOperation Id Resource)) :
    (transaction.setOperation operation stands).operations operation = stands :=
  if_pos rfl

theorem operations_setOperation_of_ne {operation other : Nat}
    (stands : Option (PendingOperation Id Resource)) (different : other ≠ operation) :
    (transaction.setOperation operation stands).operations other =
      transaction.operations other :=
  if_neg different

theorem operations_setOperation_eq_some {transaction : Transaction Id Resource}
    {operation other : Nat} {stands : Option (PendingOperation Id Resource)}
    {otherStands : PendingOperation Id Resource}
    (isThere : (transaction.setOperation operation stands).operations other = some otherStands) :
    other = operation ∧ stands = some otherStands ∨
      other ≠ operation ∧ transaction.operations other = some otherStands := by
  by_cases same : other = operation
  · rw [same, operations_setOperation_self] at isThere
    exact Or.inl ⟨same, isThere⟩
  · rw [operations_setOperation_of_ne _ _ same] at isThere
    exact Or.inr ⟨same, isThere⟩

namespace Sound

variable {referenced : Resource → Resource} {holds : Resource → Prop}
  {transaction : Transaction Id Resource}

theorem of_idle (idle : ∀ operation, transaction.operations operation = none)
    (notUnderWay : transaction.status.isUnderWay = false)
    (holdsResources : transaction.status = .exclusive → ∀ resource ∈ transaction.resources,
      holds (referenced resource))
    (covered : ∀ resource, holds resource → resource ∈ transaction.resources.map referenced)
    (mayHold : ∀ resource, holds resource → transaction.status.holdsLocks) :
    Sound referenced holds transaction where
  fresh := fun operation _ => idle operation
  status_of_operation := fun operation _ isThere => nomatch (idle operation).symm.trans isThere
  unique := fun _ first _ _ _ isThere => nomatch (idle first).symm.trans isThere
  underWay := fun isUnderWay => nomatch notUnderWay.symm.trans isUnderWay
  set_of_begin := fun operation _ _ isThere => nomatch (idle operation).symm.trans isThere
  set_of_add := fun operation _ _ _ isThere => nomatch (idle operation).symm.trans isThere
  holds_resources := holdsResources
  holds_set := fun operation _ _ isThere => nomatch (idle operation).symm.trans isThere
  covered := fun resource isHeld => Or.inl (covered resource isHeld)
  mayHoldLocks := fun resource isHeld => Or.inl (mayHold resource isHeld)

variable {operation : Nat} {stands : PendingOperation Id Resource}

theorem of_only (isThere : transaction.operations operation = some stands)
    (only : ∀ other, other ≠ operation → transaction.operations other = none)
    (isOld : operation < transaction.nextOperation) (status : transaction.status = stands.status)
    (notExclusive : stands.status ≠ .exclusive)
    (isBegin : ∀ set stage, stands = .acquiring .begin set stage →
      set = transaction.resources.map referenced ∧ stage ≠ .acquired)
    (covered : ∀ resource, holds resource → resource ∈ transaction.resources.map referenced)
    (mayHold : ∀ resource, holds resource →
      stands.status.holdsLocks ∨ stands = .finalizing .rolledBack) :
    Sound referenced holds transaction := by
  have isOnly : ∀ other otherStands, transaction.operations other = some otherStands →
      other = operation ∧ otherStands = stands := by
    intro other otherStands otherThere
    by_cases same : other = operation
    · rw [same, isThere] at otherThere
      exact ⟨same, (Option.some.inj otherThere).symm⟩
    · rw [only other same] at otherThere
      cases otherThere
  constructor
  case fresh =>
    intro other isFresh
    exact only other (by omega)
  case status_of_operation =>
    intro other otherStands otherThere
    rw [status, (isOnly other otherStands otherThere).2]
  case unique =>
    intro _ first second firstStands secondStands firstThere secondThere
    rw [(isOnly first firstStands firstThere).1, (isOnly second secondStands secondThere).1]
  case underWay =>
    intro _
    refine ⟨operation, ?_⟩
    rw [isThere]
    simp
  case set_of_begin =>
    intro other set stage otherThere
    exact (isBegin set stage (isOnly other _ otherThere).2.symm).1
  case set_of_add =>
    intro other resources set stage otherThere
    rw [← (isOnly other _ otherThere).2] at notExclusive
    exact absurd rfl notExclusive
  case holds_resources =>
    intro isExclusive
    exact absurd (status.symm.trans isExclusive) notExclusive
  case holds_set =>
    intro other acquirer set otherThere
    have same := (isOnly other _ otherThere).2
    cases acquirer with
    | begin => exact absurd rfl (isBegin set .acquired same.symm).2
    | addResources resources =>
      rw [← same] at notExclusive
      exact absurd rfl notExclusive
  case covered =>
    intro resource isHeld
    exact Or.inl (covered resource isHeld)
  case mayHoldLocks =>
    intro resource isHeld
    rcases mayHold resource isHeld with holdsLocks | isRolledBack
    · left
      rw [status]
      exact holdsLocks
    · refine Or.inr (Or.inr ⟨operation, ?_⟩)
      rw [isThere, isRolledBack]

theorem congr {sameHolds : Resource → Prop} (sound : Sound referenced holds transaction)
    (same : ∀ resource, sameHolds resource ↔ holds resource) :
    Sound referenced sameHolds transaction := by
  have isSame : sameHolds = holds := funext fun resource => propext (same resource)
  rw [isSame]
  exact sound

theorem not_holds (sound : Sound referenced holds transaction)
    (idle : ∀ operation, transaction.operations operation = none)
    (isShared : transaction.status ≠ .exclusive) (resource : Resource) : ¬holds resource := by
  intro isHeld
  rcases sound.mayHoldLocks resource isHeld with status | ⟨operation, set, isThere⟩ |
    ⟨operation, isThere⟩
  · have isUnderWay : transaction.status.isUnderWay := by
      cases h : transaction.status <;> simp_all [TransactionStatus.holdsLocks,
        TransactionStatus.isUnderWay]
    rcases sound.underWay isUnderWay with ⟨operation, isThere⟩
    exact isThere (idle operation)
  · rw [idle operation] at isThere
    cases isThere
  · rw [idle operation] at isThere
    cases isThere

theorem setStage {acquirer : Acquirer Resource} {set : List Resource}
    {stage newStage : AcquisitionStage Id} {nowHolds : Resource → Prop}
    (sound : Sound referenced holds transaction)
    (isThere : transaction.operations operation = some (.acquiring acquirer set stage))
    (notAcquired : stage ≠ .acquired) (keeps : ∀ resource, holds resource → nowHolds resource)
    (gains : ∀ resource, nowHolds resource → holds resource ∨ newStage = .acquired ∧ resource ∈ set)
    (takes : newStage = .acquired → ∀ resource ∈ set, nowHolds resource)
    (waitingOn : Option (List Id)) :
    Sound referenced nowHolds
      ((transaction.setOperation operation (some (.acquiring acquirer set newStage))).setWaitingOn
        waitingOn) where
  fresh := by
    intro other isFresh
    have different : other ≠ operation := by
      intro same
      rw [same] at isFresh
      rw [sound.fresh operation isFresh] at isThere
      cases isThere
    exact (operations_setOperation_of_ne transaction _ different).trans (sound.fresh other isFresh)
  status_of_operation := by
    intro other stands otherThere
    rcases operations_setOperation_eq_some otherThere with ⟨_, same⟩ | ⟨_, before⟩
    · have status := sound.status_of_operation operation _ isThere
      cases same
      cases acquirer <;> exact status
    · exact sound.status_of_operation other stands before
  unique := by
    intro notExclusive first second firstStands secondStands firstThere secondThere
    rcases operations_setOperation_eq_some firstThere with ⟨isFirst, _⟩ | ⟨_, firstBefore⟩
    · rcases operations_setOperation_eq_some secondThere with ⟨isSecond, _⟩ | ⟨_, secondBefore⟩
      · rw [isFirst, isSecond]
      · rw [isFirst]
        exact sound.unique notExclusive _ _ _ _ isThere secondBefore
    · rcases operations_setOperation_eq_some secondThere with ⟨isSecond, _⟩ | ⟨_, secondBefore⟩
      · rw [isSecond]
        exact sound.unique notExclusive _ _ _ _ firstBefore isThere
      · exact sound.unique notExclusive _ _ _ _ firstBefore secondBefore
  underWay := by
    intro _
    refine ⟨operation, ?_⟩
    change (transaction.setOperation operation _).operations operation ≠ none
    rw [operations_setOperation_self]
    simp
  set_of_begin := by
    intro other otherSet otherStage otherThere
    rcases operations_setOperation_eq_some otherThere with ⟨_, same⟩ | ⟨_, before⟩
    · cases same
      exact sound.set_of_begin operation set stage isThere
    · exact sound.set_of_begin other otherSet otherStage before
  set_of_add := by
    intro other resources otherSet otherStage otherThere
    rcases operations_setOperation_eq_some otherThere with ⟨_, same⟩ | ⟨_, before⟩
    · cases same
      exact sound.set_of_add operation resources set stage isThere
    · exact sound.set_of_add other resources otherSet otherStage before
  holds_resources := fun isExclusive resource member =>
    keeps _ (sound.holds_resources isExclusive resource member)
  holds_set := by
    intro other otherAcquirer otherSet otherThere resource member
    rcases operations_setOperation_eq_some otherThere with ⟨_, same⟩ | ⟨_, before⟩
    · cases same
      exact takes rfl resource member
    · exact keeps _ (sound.holds_set other otherAcquirer otherSet before resource member)
  covered := by
    intro resource isHeld
    rcases gains resource isHeld with before | ⟨isAcquired, member⟩
    · rcases sound.covered resource before with inResources |
        ⟨other, resources, otherSet, otherThere, member⟩
      · exact Or.inl inResources
      · refine Or.inr ⟨other, resources, otherSet, ?_, member⟩
        have different : other ≠ operation := by
          intro same
          rw [same, isThere] at otherThere
          cases otherThere
          exact notAcquired rfl
        exact (operations_setOperation_of_ne transaction _ different).trans otherThere
    · cases acquirer with
      | begin =>
        left
        rw [sound.set_of_begin operation set stage isThere] at member
        exact member
      | addResources resources =>
        refine Or.inr ⟨operation, resources, set, ?_, member⟩
        rw [← isAcquired]
        exact operations_setOperation_self transaction operation _
  mayHoldLocks := by
    intro resource isHeld
    rcases gains resource isHeld with before | ⟨isAcquired, _⟩
    · rcases sound.mayHoldLocks resource before with status | ⟨other, otherSet, otherThere⟩ |
        ⟨other, otherThere⟩
      · exact Or.inl status
      · refine Or.inr (Or.inl ⟨other, otherSet, ?_⟩)
        have different : other ≠ operation := by
          intro same
          rw [same, isThere] at otherThere
          cases otherThere
          exact notAcquired rfl
        exact (operations_setOperation_of_ne transaction _ different).trans otherThere
      · refine Or.inr (Or.inr ⟨other, ?_⟩)
        have different : other ≠ operation := by
          intro same
          rw [same, isThere] at otherThere
          cases otherThere
        exact (operations_setOperation_of_ne transaction _ different).trans otherThere
    · cases acquirer with
      | begin =>
        refine Or.inr (Or.inl ⟨operation, set, ?_⟩)
        rw [← isAcquired]
        exact operations_setOperation_self transaction operation _
      | addResources resources =>
        left
        have status := sound.status_of_operation operation _ isThere
        change transaction.status.holdsLocks = true
        rw [status]
        rfl

theorem startAdd (sound : Sound referenced holds transaction)
    (isExclusive : transaction.status = .exclusive) (resources : List Resource) :
    Sound referenced holds (transaction.startOperation
      (.acquiring (.addResources resources) (resources.map referenced) .resuming)) where
  fresh := by
    intro other isFresh
    change transaction.nextOperation + 1 ≤ other at isFresh
    exact (operations_setOperation_of_ne transaction _ (by omega)).trans
      (sound.fresh other (by omega))
  status_of_operation := by
    intro other stands otherThere
    rcases operations_setOperation_eq_some otherThere with ⟨_, same⟩ | ⟨_, before⟩
    · cases same
      exact isExclusive
    · exact sound.status_of_operation other stands before
  unique := fun notExclusive => absurd isExclusive notExclusive
  underWay := by
    intro isUnderWay
    change transaction.status.isUnderWay = true at isUnderWay
    rw [isExclusive] at isUnderWay
    cases isUnderWay
  set_of_begin := by
    intro other otherSet otherStage otherThere
    rcases operations_setOperation_eq_some otherThere with ⟨_, same⟩ | ⟨_, before⟩
    · cases same
    · exact sound.set_of_begin other otherSet otherStage before
  set_of_add := by
    intro other otherResources otherSet otherStage otherThere
    rcases operations_setOperation_eq_some otherThere with ⟨_, same⟩ | ⟨_, before⟩
    · cases same
      rfl
    · exact sound.set_of_add other otherResources otherSet otherStage before
  holds_resources := sound.holds_resources
  holds_set := by
    intro other acquirer otherSet otherThere
    rcases operations_setOperation_eq_some otherThere with ⟨_, same⟩ | ⟨_, before⟩
    · cases same
    · exact sound.holds_set other acquirer otherSet before
  covered := by
    intro resource isHeld
    rcases sound.covered resource isHeld with inResources |
      ⟨other, otherResources, otherSet, otherThere, member⟩
    · exact Or.inl inResources
    · refine Or.inr ⟨other, otherResources, otherSet, ?_, member⟩
      have different : other ≠ transaction.nextOperation := by
        intro same
        rw [same, sound.fresh _ (le_refl _)] at otherThere
        cases otherThere
      exact (operations_setOperation_of_ne transaction _ different).trans otherThere
  mayHoldLocks := by
    intro _ _
    left
    change transaction.status.holdsLocks = true
    rw [isExclusive]
    rfl

theorem append {nowHolds : Resource → Prop} (sound : Sound referenced holds transaction)
    (isOpen : transaction.status = .exclusive ∨ transaction.status = .shared)
    (added : List Resource) (keeps : ∀ resource, holds resource → nowHolds resource)
    (gains : ∀ resource, nowHolds resource → holds resource ∨
      transaction.status = .exclusive ∧ resource ∈ added.map referenced)
    (takes : transaction.status = .exclusive → ∀ resource ∈ added, nowHolds (referenced resource)) :
    Sound referenced nowHolds
      { transaction with resources := transaction.resources ++ added } where
  fresh := sound.fresh
  status_of_operation := sound.status_of_operation
  unique := sound.unique
  underWay := sound.underWay
  set_of_begin := by
    intro operation set stage isThere
    have isWaiting := sound.status_of_operation operation _ isThere
    rcases isOpen with isExclusive | isShared
    · exact nomatch isExclusive.symm.trans isWaiting
    · exact nomatch isShared.symm.trans isWaiting
  set_of_add := sound.set_of_add
  holds_resources := by
    intro isExclusive resource member
    rcases List.mem_append.mp member with before | isAdded
    · exact keeps _ (sound.holds_resources isExclusive resource before)
    · exact takes isExclusive resource isAdded
  holds_set := fun operation acquirer set isThere resource member =>
    keeps resource (sound.holds_set operation acquirer set isThere resource member)
  covered := by
    intro resource isHeld
    rw [List.map_append, List.mem_append]
    rcases gains resource isHeld with before | ⟨_, isAdded⟩
    · rcases sound.covered resource before with inResources | inSet
      · exact Or.inl (Or.inl inResources)
      · exact Or.inr inSet
    · exact Or.inl (Or.inr isAdded)
  mayHoldLocks := by
    intro resource isHeld
    rcases gains resource isHeld with before | ⟨isExclusive, _⟩
    · exact sound.mayHoldLocks resource before
    · left
      rw [isExclusive]
      rfl

theorem endAdd {resources set : List Resource} {stage : AcquisitionStage Id}
    (sound : Sound referenced holds transaction)
    (isThere : transaction.operations operation =
      some (.acquiring (.addResources resources) set stage))
    (isAdded : stage = .acquired →
      ∀ resource ∈ set, resource ∈ transaction.resources.map referenced) :
    Sound referenced holds (transaction.setOperation operation none) := by
  have isExclusive : transaction.status = .exclusive := sound.status_of_operation _ _ isThere
  have before : ∀ other stands, (transaction.setOperation operation none).operations other =
      some stands → transaction.operations other = some stands := by
    intro other stands otherThere
    rcases operations_setOperation_eq_some otherThere with ⟨_, gone⟩ | ⟨_, before⟩
    · cases gone
    · exact before
  constructor
  case fresh =>
    intro other isFresh
    by_cases same : other = operation
    · rw [same, operations_setOperation_self]
    · rw [operations_setOperation_of_ne _ _ same]
      exact sound.fresh other isFresh
  case status_of_operation =>
    intro other stands otherThere
    exact sound.status_of_operation other stands (before other stands otherThere)
  case unique => exact fun notExclusive => absurd isExclusive notExclusive
  case underWay =>
    intro isUnderWay
    change transaction.status.isUnderWay = true at isUnderWay
    rw [isExclusive] at isUnderWay
    cases isUnderWay
  case set_of_begin =>
    intro other otherSet otherStage otherThere
    exact sound.set_of_begin other otherSet otherStage (before other _ otherThere)
  case set_of_add =>
    intro other otherResources otherSet otherStage otherThere
    exact sound.set_of_add other otherResources otherSet otherStage (before other _ otherThere)
  case holds_resources => exact sound.holds_resources
  case holds_set =>
    intro other acquirer otherSet otherThere
    exact sound.holds_set other acquirer otherSet (before other _ otherThere)
  case covered =>
    intro resource isHeld
    rcases sound.covered resource isHeld with inResources |
      ⟨other, otherResources, otherSet, otherThere, member⟩
    · exact Or.inl inResources
    · by_cases same : other = operation
      · rw [same, isThere] at otherThere
        cases otherThere
        exact Or.inl (isAdded rfl resource member)
      · refine Or.inr ⟨other, otherResources, otherSet, ?_, member⟩
        rw [operations_setOperation_of_ne _ _ same]
        exact otherThere
  case mayHoldLocks =>
    intro _ _
    left
    change transaction.status.holdsLocks = true
    rw [isExclusive]
    rfl

theorem only (sound : Sound referenced holds transaction)
    (isThere : transaction.operations operation = some stands)
    (notExclusive : stands.status ≠ .exclusive) (other : Nat) (different : other ≠ operation) :
    transaction.operations other = none := by
  rcases Option.eq_none_or_eq_some (transaction.operations other) with none | ⟨_, otherThere⟩
  · exact none
  · have status := sound.status_of_operation operation stands isThere
    rw [← status] at notExclusive
    exact absurd (sound.unique notExclusive _ _ _ _ otherThere isThere) different

theorem mem_of_only (sound : Sound referenced holds transaction)
    (isThere : transaction.operations operation = some stands)
    (notExclusive : stands.status ≠ .exclusive) {resource : Resource} (isHeld : holds resource) :
    resource ∈ transaction.resources.map referenced := by
  rcases sound.covered resource isHeld with inResources | ⟨other, _, _, otherThere, _⟩
  · exact inResources
  · have status := sound.status_of_operation operation stands isThere
    rw [← status, sound.status_of_operation other _ otherThere] at notExclusive
    exact absurd rfl notExclusive

end Sound

/-! ### Hearing of another transaction -/

variable [DecidableEq Id]

variable {other : Id} {operation : Nat}

theorem hearStage_eq_acquired {stage : AcquisitionStage Id} :
    hearStage other stage = .acquired ↔ stage = .acquired := by
  cases stage with
  | waiting others =>
    rw [hearStage]
    split
    · split <;> simp
    · simp
  | settled => rfl
  | resuming => rfl
  | acquired => rfl
  | failed => rfl

theorem status_hearOperation (other : Id) (stands : PendingOperation Id Resource) :
    (hearOperation other stands).status = stands.status := by
  rcases stands with ⟨_ | _, _, _⟩ | _ <;> rfl

theorem operations_hearShared_eq_some {transaction : Transaction Id Resource}
    {stands : PendingOperation Id Resource} :
    (transaction.hearShared other).operations operation = some stands ↔
      ∃ before, transaction.operations operation = some before ∧
        hearOperation other before = stands :=
  Option.map_eq_some_iff

theorem operations_hearShared_acquiring {transaction : Transaction Id Resource}
    {acquirer : Acquirer Resource} {set : List Resource} {stage : AcquisitionStage Id} :
    (transaction.hearShared other).operations operation = some (.acquiring acquirer set stage) ↔
      ∃ before, transaction.operations operation = some (.acquiring acquirer set before) ∧
        hearStage other before = stage := by
  rw [operations_hearShared_eq_some]
  constructor
  · rintro ⟨before, isThere, same⟩
    cases before with
    | finalizing phase => cases same
    | acquiring beforeAcquirer beforeSet beforeStage =>
      cases same
      exact ⟨beforeStage, isThere, rfl⟩
  · rintro ⟨before, isThere, same⟩
    exact ⟨_, isThere, by rw [hearOperation, same]⟩

theorem operations_hearShared_acquired {transaction : Transaction Id Resource}
    {acquirer : Acquirer Resource} {set : List Resource} :
    (transaction.hearShared other).operations operation = some (.acquiring acquirer set .acquired) ↔
      transaction.operations operation = some (.acquiring acquirer set .acquired) := by
  rw [operations_hearShared_acquiring]
  simp [hearStage_eq_acquired]

theorem operations_hearShared_finalizing {transaction : Transaction Id Resource}
    {phase : FinalizationPhase} :
    (transaction.hearShared other).operations operation = some (.finalizing phase) ↔
      transaction.operations operation = some (.finalizing phase) := by
  rw [operations_hearShared_eq_some]
  constructor
  · rintro ⟨before, isThere, same⟩
    cases before with
    | finalizing before =>
      cases same
      exact isThere
    | acquiring _ _ _ => cases same
  · intro isThere
    exact ⟨_, isThere, rfl⟩

theorem operations_hearShared_eq_none {transaction : Transaction Id Resource} :
    (transaction.hearShared other).operations operation = none ↔
      transaction.operations operation = none :=
  Option.map_eq_none_iff

theorem Sound.hearShared {referenced : Resource → Resource} {holds : Resource → Prop}
    {transaction : Transaction Id Resource} (sound : Sound referenced holds transaction)
    (other : Id) : Sound referenced holds (transaction.hearShared other) where
  fresh := fun operation isFresh =>
    operations_hearShared_eq_none.mpr (sound.fresh operation isFresh)
  status_of_operation := by
    intro operation stands isThere
    rcases operations_hearShared_eq_some.mp isThere with ⟨before, wasThere, same⟩
    rw [← same, status_hearOperation]
    exact sound.status_of_operation operation before wasThere
  unique := by
    intro notExclusive first second firstStands secondStands firstThere secondThere
    rcases operations_hearShared_eq_some.mp firstThere with ⟨firstBefore, wasFirst, _⟩
    rcases operations_hearShared_eq_some.mp secondThere with ⟨secondBefore, wasSecond, _⟩
    exact sound.unique notExclusive first second firstBefore secondBefore wasFirst wasSecond
  underWay := by
    intro isUnderWay
    rcases sound.underWay isUnderWay with ⟨operation, isThere⟩
    exact ⟨operation, fun gone => isThere (operations_hearShared_eq_none.mp gone)⟩
  set_of_begin := by
    intro operation set stage isThere
    rcases operations_hearShared_acquiring.mp isThere with ⟨before, wasThere, _⟩
    exact sound.set_of_begin operation set before wasThere
  set_of_add := by
    intro operation resources set stage isThere
    rcases operations_hearShared_acquiring.mp isThere with ⟨before, wasThere, _⟩
    exact sound.set_of_add operation resources set before wasThere
  holds_resources := sound.holds_resources
  holds_set := fun operation acquirer set isThere =>
    sound.holds_set operation acquirer set (operations_hearShared_acquired.mp isThere)
  covered := by
    intro resource isHeld
    rcases sound.covered resource isHeld with inResources |
      ⟨operation, resources, set, isThere, member⟩
    · exact Or.inl inResources
    · exact Or.inr ⟨operation, resources, set, operations_hearShared_acquired.mpr isThere, member⟩
  mayHoldLocks := by
    intro resource isHeld
    rcases sound.mayHoldLocks resource isHeld with status | ⟨operation, set, isThere⟩ |
      ⟨operation, isThere⟩
    · exact Or.inl status
    · exact Or.inr (Or.inl ⟨operation, set, operations_hearShared_acquired.mpr isThere⟩)
    · exact Or.inr (Or.inr ⟨operation, operations_hearShared_finalizing.mpr isThere⟩)

end Transaction

end MatterJs.General
