import MatterJs.General.LockOwnership

/-! No wait of a transaction closes a cycle, in any run: `#detectDeadlock` finds every wait
that would. -/

namespace MatterJs.General

open WaitGraph

namespace Transactions

variable {Id Resource : Type}

/-- `first` waits for `second`. -/
def Waits (system : Transactions Id Resource) : Id → Id → Prop :=
  edge system.waitingOn

theorem waits_iff {system : Transactions Id Resource} {first second : Id} :
    system.Waits first second ↔
      ∃ others, (system.transaction first).waitingOn = some others ∧ second ∈ others := by
  rw [Waits, edge, waitingOn]
  cases (system.transaction first).waitingOn with
  | none => simp
  | some others => simp

theorem acyclic_new (referenced : Resource → Resource) :
    Acyclic (new referenced : Transactions Id Resource).Waits := by
  intro id cycle
  rcases Relation.TransGen.head'_iff.mp cycle with ⟨_, wait, _⟩
  rcases waits_iff.mp wait with ⟨_, isWaiting, _⟩
  cases isWaiting

section Search

variable [DecidableEq Id] [Fintype Id] {system : Transactions Id Resource}

theorem detectDeadlock_eq_error_iff {id : Id} {blockers : List Id} :
    system.detectDeadlock id blockers = .error (.transactionDeadlockError
        ("Resource deadlock detected, write operation cannot proceed.  " ++
          "To prevent this you can await transaction.begin() before modifying state")) ↔
      ∃ blocker ∈ blockers, Relation.ReflTransGen system.Waits blocker id := by
  rw [detectDeadlock]
  cases search : examineAll system.waitingOn id (Fintype.card Id + 1) blockers with
  | found => exact ⟨fun _ => reachable_of_examineAll search, fun _ => rfl⟩
  | outOfFuel => exact absurd search (examineAll_ne_outOfFuel blockers)
  | examined examined =>
    constructor
    · intro isError
      cases isError
    · rintro ⟨blocker, member, path⟩
      exact absurd path (not_reachable_of_examineAll search member)

theorem not_reachable_of_detectDeadlock {id : Id} {blockers : List Id}
    (isFine : system.detectDeadlock id blockers = .ok ()) {blocker : Id}
    (member : blocker ∈ blockers) : ¬Relation.ReflTransGen system.Waits blocker id := by
  intro path
  rw [detectDeadlock_eq_error_iff.mpr ⟨blocker, member, path⟩] at isFine
  cases isFine

end Search

def WaitsWithin (after before : Transactions Id Resource) : Prop :=
  ∀ first second, after.Waits first second → before.Waits first second

theorem WaitsWithin.refl (system : Transactions Id Resource) : WaitsWithin system system :=
  fun _ _ wait => wait

theorem WaitsWithin.trans {first second third : Transactions Id Resource}
    (later : WaitsWithin third second) (earlier : WaitsWithin second first) :
    WaitsWithin third first :=
  fun one other wait => earlier one other (later one other wait)

variable [DecidableEq Id] {system : Transactions Id Resource}

theorem waitsWithin_setTransaction {id : Id} {transaction : Transaction Id Resource}
    (same : transaction.waitingOn = (system.transaction id).waitingOn ∨
      transaction.waitingOn = none) :
    WaitsWithin (system.setTransaction id transaction) system := by
  intro first second wait
  rcases waits_iff.mp wait with ⟨others, isWaiting, member⟩
  by_cases isFirst : first = id
  · rw [isFirst, transaction_setTransaction_self] at isWaiting
    rw [isFirst]
    rcases same with same | isNone
    · exact waits_iff.mpr ⟨others, same.symm.trans isWaiting, member⟩
    · rw [isNone] at isWaiting
      cases isWaiting
  · rw [transaction_setTransaction_of_ne _ _ isFirst] at isWaiting
    exact waits_iff.mpr ⟨others, isWaiting, member⟩

theorem waitsWithin_emitShared (system : Transactions Id Resource) (id : Id) :
    WaitsWithin (system.emitShared id) system := by
  intro first second wait
  rcases waits_iff.mp wait with ⟨others, isWaiting, member⟩
  change (if _ then none
    else (system.transaction first).waitingOn.map (List.filter (· ≠ id))) = _ at isWaiting
  split at isWaiting
  · cases isWaiting
  · rcases Option.map_eq_some_iff.mp isWaiting with ⟨before, wasWaiting, same⟩
    rw [← same] at member
    exact waits_iff.mpr ⟨before, wasWaiting, List.mem_of_mem_filter member⟩

variable [DecidableEq Resource]

theorem acyclic_acquireLocks [Fintype Id] (acyclic : Acyclic system.Waits) (id : Id)
    (operation : Nat) (acquirer : Acquirer Resource) (set : List Resource) :
    Acyclic (system.acquireLocks id operation acquirer set).Waits := by
  rw [acquireLocks]
  by_cases isFree : (system.blockedBy id set).isEmpty
  · simp only [isFree]
    exact acyclic.mono (@waitsWithin_setTransaction _ _ _ (system.lock id set) _ _ (Or.inl rfl))
  · simp only [isFree, Bool.false_eq_true, if_false]
    cases isFine : system.detectDeadlock id (system.blockedBy id set) with
    | error _ => exact acyclic.mono (waitsWithin_setTransaction (Or.inl rfl))
    | ok _ =>
      simp only []
      split
      · exact acyclic.mono (waitsWithin_setTransaction (Or.inl rfl))
      · refine @Acyclic.addEdges _ _ _ acyclic id {other | other ∈ system.blockedBy id set}
          ?_ (fun target member => not_reachable_of_detectDeadlock isFine member)
        intro first second wait
        rcases waits_iff.mp wait with ⟨others, isWaiting, member⟩
        by_cases isFirst : first = id
        · rw [isFirst, transaction_setTransaction_self] at isWaiting
          cases isWaiting
          exact Or.inr ⟨isFirst, member⟩
        · rw [transaction_setTransaction_of_ne _ _ isFirst] at isWaiting
          exact Or.inl (waits_iff.mpr ⟨others, isWaiting, member⟩)

theorem waitsWithin_addResourcesSync (system : Transactions Id Resource) (id : Id)
    (resources : List Resource) : WaitsWithin (system.addResourcesSync id resources) system := by
  rw [addResourcesSync]
  cases (system.transaction id).status with
  | exclusive =>
    simp only []
    split
    · exact @waitsWithin_setTransaction _ _ _ (system.lock id _) _ _ (Or.inl rfl)
    · exact .refl system
  | shared => exact waitsWithin_setTransaction (Or.inl rfl)
  | waiting => exact .refl system
  | committingPhaseOne => exact .refl system
  | committingPhaseTwo => exact .refl system
  | rollingBack => exact .refl system
  | destroyed => exact .refl system

theorem waitsWithin_cleanup (system : Transactions Id Resource) (id : Id)
    (operation : Nat) : WaitsWithin (system.cleanup id operation) system :=
  (waitsWithin_emitShared _ id).trans
    (@waitsWithin_setTransaction _ _ _ (system.releaseLocks id _) _ _ (Or.inl rfl))

theorem acyclic_continueOperation [Fintype Id] (acyclic : Acyclic system.Waits) (id : Id)
    (operation : Nat) : Acyclic (system.continueOperation id operation).Waits := by
  rw [continueOperation]
  split
  next => exact acyclic.mono (waitsWithin_setTransaction (Or.inr rfl))
  next => exact acyclic_acquireLocks acyclic id operation _ _
  next => exact acyclic.mono (waitsWithin_setTransaction (Or.inl rfl))
  next => exact acyclic.mono (waitsWithin_setTransaction (Or.inl rfl))
  next =>
    exact acyclic.mono ((waitsWithin_addResourcesSync _ id _).trans
      (waitsWithin_setTransaction (Or.inl rfl)))
  next => exact acyclic.mono (waitsWithin_setTransaction (Or.inl rfl))
  next => exact acyclic

theorem waitsWithin_continueFinalization (system : Transactions Id Resource) (id : Id)
    (operation : Nat) (isFailed : Bool) :
    WaitsWithin (system.continueFinalization id operation isFailed) system := by
  rw [continueFinalization]
  split
  next =>
    cases isFailed with
    | true => exact waitsWithin_setTransaction (Or.inl rfl)
    | false => exact waitsWithin_setTransaction (Or.inl rfl)
  next => exact waitsWithin_setTransaction (Or.inl rfl)
  next => exact waitsWithin_cleanup system id operation
  next => exact waitsWithin_cleanup system id operation
  next => exact .refl system

theorem acyclic_next [Fintype Id] (acyclic : Acyclic system.Waits)
    (event : Event Id Resource) : Acyclic (system.next event).Waits := by
  cases event with
  | addResourcesSync id resources =>
    exact acyclic.mono (waitsWithin_addResourcesSync system id resources)
  | addResources id resources =>
    rw [next, addResources]
    split
    · apply acyclic_acquireLocks
      exact acyclic.mono (waitsWithin_setTransaction (Or.inl rfl))
    · exact acyclic.mono (waitsWithin_addResourcesSync system id resources)
  | begin id =>
    rw [next, begin]
    split
    · apply acyclic_acquireLocks
      exact acyclic.mono (waitsWithin_setTransaction (Or.inl rfl))
    · exact acyclic
  | beginSync id =>
    rw [next, beginSync]
    split
    · exact acyclic.mono (@waitsWithin_setTransaction _ _ _ (system.lock id _) _ _ (Or.inl rfl))
    · exact acyclic
  | continueOperation id operation => exact acyclic_continueOperation acyclic id operation
  | finalize id isCommit =>
    rw [next, finalize]
    split
    · cases isCommit with
      | true => exact acyclic.mono (waitsWithin_setTransaction (Or.inl rfl))
      | false => exact acyclic.mono (waitsWithin_setTransaction (Or.inl rfl))
    · exact acyclic
  | continueFinalization id operation isFailed =>
    exact acyclic.mono (waitsWithin_continueFinalization system id operation isFailed)
  | close id => exact acyclic.mono (waitsWithin_setTransaction (Or.inl rfl))

theorem acyclic_run [Fintype Id] (referenced : Resource → Resource)
    (events : List (Event Id Resource)) :
    Acyclic (Execution.run next (new referenced) events).Waits :=
  Execution.run_invariant next (fun system => Acyclic system.Waits)
    (fun _ event acyclic => acyclic_next acyclic event) (acyclic_new referenced) events

/-! ## Locks and deadlocks -/

theorem acquireLocks_of_deadlock [Fintype Id] {id : Id} {operation : Nat}
    {acquirer : Acquirer Resource} {set : List Resource}
    (leadsBack : ∃ blocker ∈ system.blockedBy id set,
      Relation.ReflTransGen system.Waits blocker id) :
    system.acquireLocks id operation acquirer set =
      system.setTransaction id ((system.transaction id).setOperation operation
        (some (.acquiring acquirer set .failed))) := by
  have isBlocked : (system.blockedBy id set).isEmpty = false := by
    rcases leadsBack with ⟨blocker, member, _⟩
    cases blockers : system.blockedBy id set with
    | nil =>
      rw [blockers] at member
      cases member
    | cons _ _ => rfl
  rw [acquireLocks]
  simp only [isBlocked, Bool.false_eq_true, if_false]
  rw [detectDeadlock_eq_error_iff.mpr leadsBack]

theorem begin_of_deadlock [Fintype Id] {id : Id}
    (isShared : (system.transaction id).status = .shared)
    (leadsBack : ∃ blocker ∈ system.blockedBy id
        (system.resourceSet (system.transaction id).resources),
      Relation.ReflTransGen system.Waits blocker id) :
    ((system.begin id).transaction id).operations (system.transaction id).nextOperation =
      some (.acquiring .begin (system.resourceSet (system.transaction id).resources)
        .failed) := by
  rw [begin]
  simp only [isShared, if_true]
  generalize isStarted : (system.transaction id).startOperation _ = started
  have sameWaits : ∀ first second, system.Waits first second →
      (system.setTransaction id (started.setStatus .waiting)).Waits first second := by
    intro first second wait
    rcases waits_iff.mp wait with ⟨others, isWaiting, member⟩
    refine waits_iff.mpr ⟨others, ?_, member⟩
    by_cases isFirst : first = id
    · rw [isFirst, transaction_setTransaction_self, ← isStarted]
      rw [isFirst] at isWaiting
      exact isWaiting
    · rw [transaction_setTransaction_of_ne _ _ isFirst]
      exact isWaiting
  rcases leadsBack with ⟨blocker, member, path⟩
  have leadsBackNow := Relation.ReflTransGen.mono sameWaits blocker id path
  have refused := @acquireLocks_of_deadlock _ _ _ (system.setTransaction id
    (started.setStatus .waiting)) _ _ id (system.transaction id).nextOperation .begin
      (system.resourceSet (system.transaction id).resources) ⟨blocker, member, leadsBackNow⟩
  rw [refused, transaction_setTransaction_self]
  exact Transaction.operations_setOperation_self _ _ _

end Transactions

end MatterJs.General
