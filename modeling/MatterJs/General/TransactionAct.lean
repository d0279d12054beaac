import MatterJs.General.LockOwnership

/-! `act`: an actor works with a transaction, which is then committed, again where it is
exclusive after that, or rolled back, and closed. -/

namespace MatterJs.General

/-- `MAX_CHAINED_COMMITS` -/
def maxChainedCommits : Nat := 5

/-- What `act` waits for in `#finalize`. -/
inductive ActFinalization where
  /-- `#executeCommit` -/
  | commit
  /-- The rollback by which `commit` resets a shared transaction. -/
  | reset
  /-- The rollback after an error. -/
  | errorRollback
  deriving DecidableEq

/-- Where `act` stands. -/
inductive ActStage where
  /-- The actor runs. -/
  | acting
  /-- The `preCommit` of the participants run. -/
  | preCommitting
  /-- An operation of the transaction is in `#finalize`. -/
  | finalizing (operation : Nat) (finalization : ActFinalization)
  /-- The `postCommit` of the participants run. -/
  | postCommitting
  /-- The result is there, and the transaction is closed next. -/
  | closing
  | settled
  deriving DecidableEq

/-- A call of `act`, for the transaction `id`. -/
structure Act (Id Resource : Type) where
  system : Transactions Id Resource
  id : Id
  commits : Nat
  stage : ActStage

inductive ActEvent (Id Resource : Type) where
  /-- A call on a transaction, or an operation that goes on: of the actor, of participants and
  of everyone else. -/
  | call (event : Transactions.Event Id Resource)
  | actorEnds (isRejected : Bool)
  | preCommitEnds (isRejected : Bool)
  | finalizationEnds (isRejected : Bool)
  /-- An error of a `postCommit` is logged. -/
  | postCommitEnds
  | close

namespace Act

variable {Id Resource : Type} [DecidableEq Id] [DecidableEq Resource]

def new (referenced : Resource → Resource) (id : Id) : Act Id Resource where
  system := .new referenced
  id := id
  commits := 0
  stage := .acting

def transaction (act : Act Id Resource) : Transaction Id Resource :=
  act.system.transaction act.id

variable (act : Act Id Resource)

def setStage (stage : ActStage) : Act Id Resource :=
  { act with stage }

/-- `#finalize`, which throws where the transaction is neither shared nor exclusive. -/
def finalize (act : Act Id Resource) (finalization : ActFinalization) : Act Id Resource :=
  if act.transaction.status = .shared ∨ act.transaction.status = .exclusive then
    { act with
      system := act.system.finalize act.id (finalization = .commit)
      stage := .finalizing act.transaction.nextOperation finalization }
  else act.setStage .closing

/-- `commit`, up to its `preCommit` or to the rollback of a shared transaction. -/
def commit : Act Id Resource :=
  match act.transaction.status with
  | .destroyed => act.setStage .closing
  | .shared => act.finalize .reset
  | _ => act.setStage .preCommitting

/-- `commitTransaction`, up to where it waits for `commit`. -/
def commitTransaction : Act Id Resource :=
  if maxChainedCommits < act.commits + 1 then act.setStage .closing
  else { act with commits := act.commits + 1 }.commit

def commitAgain : Act Id Resource :=
  if act.transaction.status = .exclusive then act.commitTransaction
  else act.setStage .closing

def next [Fintype Id] (act : Act Id Resource) : ActEvent Id Resource → Act Id Resource
  | .call event =>
    -- Only `act` has access to `close`.
    if event = .close act.id then act else { act with system := act.system.next event }
  | .actorEnds isRejected =>
    if act.stage = .acting then
      if isRejected then act.finalize .errorRollback else act.commitTransaction
    else act
  | .preCommitEnds isRejected =>
    if act.stage = .preCommitting then
      if isRejected then act.finalize .errorRollback else act.finalize .commit
    else act
  | .finalizationEnds isRejected =>
    match act.stage with
    | .finalizing operation finalization =>
      if (act.transaction.operations operation).isSome then act
      else if isRejected then act.setStage .closing
      else match finalization with
        | .commit => act.setStage .postCommitting
        | .reset => act.commitAgain
        | .errorRollback => act.setStage .closing
    | _ => act
  | .postCommitEnds => if act.stage = .postCommitting then act.commitAgain else act
  | .close =>
    if act.stage = .closing then
      { act with system := act.system.close act.id, stage := .settled }
    else act

omit [DecidableEq Resource] in
theorem id_finalize (finalization : ActFinalization) : (act.finalize finalization).id = act.id := by
  rw [finalize]
  split <;> rfl

omit [DecidableEq Resource] in
theorem id_commitTransaction : act.commitTransaction.id = act.id := by
  rw [commitTransaction]
  split
  · rfl
  · rw [commit]
    split
    · rfl
    · exact id_finalize _ _
    · rfl

omit [DecidableEq Resource] in
theorem id_commitAgain : act.commitAgain.id = act.id := by
  rw [commitAgain]
  split
  · exact id_commitTransaction act
  · rfl

theorem id_next [Fintype Id] (act : Act Id Resource) (event : ActEvent Id Resource) :
    (act.next event).id = act.id := by
  cases event with
  | call event =>
    rw [next]
    split <;> rfl
  | actorEnds isRejected =>
    rw [next]
    split
    · cases isRejected with
      | true => exact id_finalize act _
      | false => exact id_commitTransaction act
    · rfl
  | preCommitEnds isRejected =>
    rw [next]
    split
    · cases isRejected with
      | true => exact id_finalize act _
      | false => exact id_finalize act _
    · rfl
  | finalizationEnds isRejected =>
    rw [next]
    split
    next operation finalization _ =>
      split
      · rfl
      · cases isRejected with
        | true => rfl
        | false =>
          cases finalization with
          | commit => rfl
          | reset => exact id_commitAgain act
          | errorRollback => rfl
    next => rfl
  | postCommitEnds =>
    rw [next]
    split
    · exact id_commitAgain act
    · rfl
  | close =>
    rw [next]
    split <;> rfl

end Act

end MatterJs.General
