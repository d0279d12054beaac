import MatterJs.Foundation.WaitGraph
import MatterJs.General.MatterError

/-! Transactions that lock resources: what `begin`, `addResources`, a commit and a rollback do
between two points at which other code can run. -/

namespace MatterJs.General

open WaitGraph

/-- `Status`, for transactions that are not read only. -/
inductive TransactionStatus where
  | shared
  | waiting
  | exclusive
  | committingPhaseOne
  | committingPhaseTwo
  | rollingBack
  | destroyed
  deriving DecidableEq

/-- Where `acquireLocks` stands for its caller. -/
inductive AcquisitionStage (Id : Type) where
  /-- It waits for the promise of `waitFor`, with what is left in the set of others. -/
  | waiting (others : List Id)
  /-- The promise is resolved, and its `finally` has not run. -/
  | settled
  /-- The loop looks at the locks again next. -/
  | resuming
  /-- It has returned, and its caller goes on next. -/
  | acquired
  /-- It has thrown, and its caller learns of it next. -/
  | failed
  deriving DecidableEq

/-- The callers of `acquireLocks`. -/
inductive Acquirer (Resource : Type) where
  | begin
  | addResources (resources : List Resource)
  deriving DecidableEq

/-- Where `#finalize` stands. -/
inductive FinalizationPhase where
  | committingPhaseOne
  | committingPhaseTwo
  | rollingBack
  /-- The rollback is over, and the cleanup has not run. -/
  | rolledBack
  deriving DecidableEq

/-- An asynchronous call on a transaction that is under way. `set` are the resources to lock,
as they were when it was made. -/
inductive PendingOperation (Id Resource : Type) where
  | acquiring (acquirer : Acquirer Resource) (set : List Resource) (stage : AcquisitionStage Id)
  | finalizing (phase : FinalizationPhase)
  deriving DecidableEq

structure Transaction (Id Resource : Type) where
  status : TransactionStatus
  resources : List Resource
  waitingOn : Option (List Id)
  operations : Nat → Option (PendingOperation Id Resource)
  nextOperation : Nat

namespace Transaction

variable {Id Resource : Type} [DecidableEq Id]

/-- `new Tx` -/
def new : Transaction Id Resource where
  status := .shared
  resources := []
  waitingOn := none
  operations := fun _ => none
  nextOperation := 0

variable (transaction : Transaction Id Resource)

def setStatus (status : TransactionStatus) : Transaction Id Resource :=
  { transaction with status }

def setWaitingOn (waitingOn : Option (List Id)) : Transaction Id Resource :=
  { transaction with waitingOn }

def setOperation (operation : Nat) (stands : Option (PendingOperation Id Resource)) :
    Transaction Id Resource :=
  { transaction with operations := fun other =>
      if other = operation then stands else transaction.operations other }

def startOperation (stands : PendingOperation Id Resource) : Transaction Id Resource :=
  { (transaction.setOperation transaction.nextOperation (some stands)) with
    nextOperation := transaction.nextOperation + 1 }

/-- What a wait becomes when another transaction is shared again. -/
def hearStage (other : Id) : AcquisitionStage Id → AcquisitionStage Id
  | .waiting others =>
    if other ∈ others then
      if (others.filter (· ≠ other)).isEmpty then .settled
      else .waiting (others.filter (· ≠ other))
    else .waiting others
  | stage => stage

def hearOperation (other : Id) :
    PendingOperation Id Resource → PendingOperation Id Resource
  | .acquiring acquirer set stage => .acquiring acquirer set (hearStage other stage)
  | .finalizing phase => .finalizing phase

/-- Whether the last wait of an operation is for `other`. -/
def endsWith (other : Id) : PendingOperation Id Resource → Bool
  | .acquiring _ _ (.waiting others) =>
    decide (other ∈ others) && (others.filter (· ≠ other)).isEmpty
  | _ => false

/-- The listeners that the transaction has left on `other` are called. -/
def hearShared (other : Id) : Transaction Id Resource :=
  let isOver := (List.range transaction.nextOperation).any fun operation =>
    (transaction.operations operation).any (endsWith other)
  { transaction with
    operations := fun operation => (transaction.operations operation).map (hearOperation other)
    waitingOn :=
      if isOver then none
      else transaction.waitingOn.map fun others => others.filter (· ≠ other) }

end Transaction

/-- The transactions and the locks of the resources. A resource may stand in for another one,
which is then locked in its place. -/
structure Transactions (Id Resource : Type) where
  referenced : Resource → Resource
  lockedBy : Resource → Option Id
  transaction : Id → Transaction Id Resource

namespace Transactions

variable {Id Resource : Type} [DecidableEq Id] [DecidableEq Resource]

def new (referenced : Resource → Resource) : Transactions Id Resource where
  referenced := referenced
  lockedBy := fun _ => none
  transaction := fun _ => .new

variable (system : Transactions Id Resource) (id : Id) (set resources : List Resource)

def setTransaction (transaction : Transaction Id Resource) : Transactions Id Resource :=
  { system with transaction := fun other =>
      if other = id then transaction else system.transaction other }

def blockedBy : List Id :=
  (set.filterMap fun resource => (system.lockedBy resource).filter (· ≠ id)).dedup

def lock : Transactions Id Resource :=
  { system with lockedBy := fun resource =>
      if resource ∈ set then some id else system.lockedBy resource }

def releaseLocks : Transactions Id Resource :=
  { system with lockedBy := fun resource =>
      if resource ∈ set ∧ system.lockedBy resource = some id then none
      else system.lockedBy resource }

/-- The resources of a `ResourceSet`. -/
def resourceSet : List Resource :=
  resources.map system.referenced

def waitingOn (system : Transactions Id Resource) (id : Id) : List Id :=
  (system.transaction id).waitingOn.getD []

def detectDeadlock [Fintype Id] (system : Transactions Id Resource) (id : Id)
    (blockedBy : List Id) : Except MatterError Unit :=
  match examineAll system.waitingOn id (Fintype.card Id + 1) blockedBy with
  | .found => .error (.transactionDeadlockError
      ("Resource deadlock detected, write operation cannot proceed.  " ++
        "To prevent this you can await transaction.begin() before modifying state"))
  | _ => .ok ()

/-- A round of the loop of `acquireLocks` for an operation, up to where it awaits or
returns. -/
def acquireLocks [Fintype Id] (system : Transactions Id Resource) (id : Id) (operation : Nat)
    (acquirer : Acquirer Resource) (set : List Resource) : Transactions Id Resource :=
  let transaction := system.transaction id
  let stands (stage : AcquisitionStage Id) : Transaction Id Resource :=
    transaction.setOperation operation (some (.acquiring acquirer set stage))
  let blockedBy := system.blockedBy id set
  if blockedBy.isEmpty then (system.lock id set).setTransaction id (stands .acquired)
  else match system.detectDeadlock id blockedBy with
    | .error _ => system.setTransaction id (stands .failed)
    | .ok _ =>
      -- `waitFor`
      if transaction.status = .destroyed ∨ transaction.waitingOn.isSome then
        system.setTransaction id (stands .failed)
      else system.setTransaction id ((stands (.waiting blockedBy)).setWaitingOn (some blockedBy))

/-! ## The calls on a transaction -/

def addToResources : Transactions Id Resource :=
  let transaction := system.transaction id
  let added := resources.filter (· ∉ transaction.resources)
  system.setTransaction id { transaction with resources := transaction.resources ++ added }

/-- `addResourcesSync`, which throws where nothing changes. -/
def addResourcesSync : Transactions Id Resource :=
  match (system.transaction id).status with
  | .exclusive =>
    if (system.blockedBy id (system.resourceSet resources)).isEmpty then
      (system.lock id (system.resourceSet resources)).addToResources id resources
    else system
  | .shared => system.addToResources id resources
  | _ => system

/-- `addResources`, up to its first `await`. -/
def addResources [Fintype Id] (system : Transactions Id Resource) (id : Id)
    (resources : List Resource) : Transactions Id Resource :=
  let transaction := system.transaction id
  if transaction.status = .exclusive then
    let set := system.resourceSet resources
    (system.setTransaction id (transaction.startOperation
      (.acquiring (.addResources resources) set .resuming))).acquireLocks id
        transaction.nextOperation (.addResources resources) set
  else system.addResourcesSync id resources

/-- `begin`, up to its first `await`. -/
def begin [Fintype Id] (system : Transactions Id Resource) (id : Id) :
    Transactions Id Resource :=
  let transaction := system.transaction id
  if transaction.status = .shared then
    let set := system.resourceSet transaction.resources
    (system.setTransaction id ((transaction.startOperation
      (.acquiring .begin set .resuming)).setStatus .waiting)).acquireLocks id
        transaction.nextOperation .begin set
  else system

def beginSync : Transactions Id Resource :=
  let transaction := system.transaction id
  let set := system.resourceSet transaction.resources
  if transaction.status = .shared ∧ (system.blockedBy id set).isEmpty then
    (system.lock id set).setTransaction id (transaction.setStatus .exclusive)
  else system

def continueOperation [Fintype Id] (system : Transactions Id Resource) (id : Id)
    (operation : Nat) : Transactions Id Resource :=
  let transaction := system.transaction id
  let ended := transaction.setOperation operation none
  match transaction.operations operation with
  | some (.acquiring acquirer set .settled) =>
    system.setTransaction id ((transaction.setOperation operation
      (some (.acquiring acquirer set .resuming))).setWaitingOn none)
  | some (.acquiring acquirer set .resuming) => system.acquireLocks id operation acquirer set
  | some (.acquiring .begin _ .acquired) =>
    system.setTransaction id (ended.setStatus .exclusive)
  | some (.acquiring .begin _ .failed) =>
    system.setTransaction id (ended.setStatus .shared)
  | some (.acquiring (.addResources resources) _ .acquired) =>
    (system.setTransaction id ended).addResourcesSync id resources
  | some (.acquiring (.addResources _) _ .failed) => system.setTransaction id ended
  | _ => system

/-- The start of `#finalize`, for a commit or a rollback. -/
def finalize (isCommit : Bool) : Transactions Id Resource :=
  let transaction := system.transaction id
  if transaction.status = .shared ∨ transaction.status = .exclusive then
    if isCommit then system.setTransaction id ((transaction.startOperation
      (.finalizing .committingPhaseOne)).setStatus .committingPhaseOne)
    else system.setTransaction id ((transaction.startOperation
      (.finalizing .rollingBack)).setStatus .rollingBack)
  else system

/-- `#shared.emit` of a transaction. -/
def emitShared : Transactions Id Resource :=
  { system with transaction := fun other => (system.transaction other).hearShared id }

/-- The `cleanup` of an operation. -/
def cleanup (operation : Nat) : Transactions Id Resource :=
  let transaction := system.transaction id
  (((system.releaseLocks id (system.resourceSet transaction.resources)).setTransaction id
    ((transaction.setOperation operation none).setStatus .shared))).emitShared id

/-- A finalization goes on: `isFailed` says that phase one of a commit has failed. -/
def continueFinalization (operation : Nat) (isFailed : Bool) : Transactions Id Resource :=
  let transaction := system.transaction id
  let goOn (phase : FinalizationPhase) (status : TransactionStatus) :
      Transactions Id Resource :=
    system.setTransaction id
      ((transaction.setOperation operation (some (.finalizing phase))).setStatus status)
  match transaction.operations operation with
  | some (.finalizing .committingPhaseOne) =>
    if isFailed then goOn .rollingBack .rollingBack
    else goOn .committingPhaseTwo .committingPhaseTwo
  | some (.finalizing .rollingBack) => goOn .rolledBack .shared
  | some (.finalizing .committingPhaseTwo) => system.cleanup id operation
  | some (.finalizing .rolledBack) => system.cleanup id operation
  | _ => system

def close : Transactions Id Resource :=
  system.setTransaction id { (system.transaction id) with status := .destroyed, resources := [] }

/-- What can happen between two points at which other code runs. -/
inductive Event (Id Resource : Type) where
  | addResourcesSync (id : Id) (resources : List Resource)
  | addResources (id : Id) (resources : List Resource)
  | begin (id : Id)
  | beginSync (id : Id)
  | continueOperation (id : Id) (operation : Nat)
  /-- A commit or a rollback enters `#finalize`. -/
  | finalize (id : Id) (isCommit : Bool)
  | continueFinalization (id : Id) (operation : Nat) (isFailed : Bool)
  | close (id : Id)
  deriving DecidableEq

def next [Fintype Id] (system : Transactions Id Resource) :
    Event Id Resource → Transactions Id Resource
  | .addResourcesSync id resources => system.addResourcesSync id resources
  | .addResources id resources => system.addResources id resources
  | .begin id => system.begin id
  | .beginSync id => system.beginSync id
  | .continueOperation id operation => system.continueOperation id operation
  | .finalize id isCommit => system.finalize id isCommit
  | .continueFinalization id operation isFailed =>
    system.continueFinalization id operation isFailed
  | .close id => system.close id

end Transactions

end MatterJs.General
