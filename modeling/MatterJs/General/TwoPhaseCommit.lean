import Mathlib.Data.List.Nodup
import MatterJs.General.MatterError

/-! The commit of a transaction over its participants: phase one, and then phase two or the
rollback. -/

namespace MatterJs.General

/-- What a handler of a participant does: it returns or throws at once, or it returns a
promise that settles later. -/
inductive HandlerResult where
  | now (result : Except MatterError Unit)
  | later (result : Except MatterError Unit)

namespace HandlerResult

def result : HandlerResult → Except MatterError Unit
  | now result => result
  | later result => result

def isLater : HandlerResult → Bool
  | now _ => false
  | later _ => true

def fails (handler : HandlerResult) : Bool :=
  !handler.result.isOk

end HandlerResult

structure Participant where
  /-- `toString()` -/
  name : String
  commit1 : Option HandlerResult
  commit2 : Option HandlerResult
  rollback : Option HandlerResult

namespace Participant

def commit1Fails (participant : Participant) : Bool :=
  participant.commit1.any HandlerResult.fails

end Participant

/-- The participants of a transaction. `addParticipants` lets none in whose name another one
has. -/
structure Participants where
  list : List Participant
  nodupNames : (list.map Participant.name).Nodup

/-- A call of a participant's handler. -/
inductive Invocation where
  | commit1 (name : String)
  | commit2 (name : String)
  | rollback (name : String)
  deriving DecidableEq

/-- The calls that were made, whether a promise is returned, and how it ends. -/
structure Finalization where
  invocations : List Invocation
  isAsync : Bool
  result : Except MatterError Unit

/-! ## The phases -/

def describeEntries : List String → List String
  | [] => []
  | [entry] => ["and", entry]
  | [entry, last] => [entry, "and", last]
  | entry :: entries => (entry ++ ",") :: describeEntries entries

/-- `describeList` with "and" -/
def describeList : List String → String
  | [entry] => entry
  | entries => " ".intercalate (describeEntries entries)

def throwIfErrored (errored : List Participant) (during : String) : Except MatterError Unit :=
  if errored.isEmpty then .ok ()
  else
    let suffix := if 1 < errored.length then "s" else ""
    .error (.finalizationError (s!"Unhandled error{suffix} {during} participant{suffix} " ++
      describeList (errored.map Participant.name)))

/-- Calls a handler of every participant. An error is collected and stops nothing. -/
def invokeAll (handler : Participant → Option HandlerResult) (invocation : String → Invocation)
    (participants : List Participant) : Finalization :=
  let failsWith (isLater : Bool) (participant : Participant) : Bool :=
    (handler participant).any fun called => called.fails && called.isLater == isLater
  let errored := participants.filter (failsWith false) ++ participants.filter (failsWith true)
  { invocations := (participants.filter fun participant => (handler participant).isSome).map
      fun participant => invocation participant.name
    isAsync := participants.any fun participant => (handler participant).any HandlerResult.isLater
    result := throwIfErrored errored "in commit phase 2" }

variable (participants : List Participant)

def executeRollback : Finalization :=
  invokeAll Participant.rollback .rollback participants

def executeCommit2 : Finalization :=
  invokeAll Participant.commit2 .commit2 participants

/-- The loop of phase one: the calls it makes, whether one threw, and the promises. -/
structure Commit1Calls where
  invocations : List Invocation
  needRollback : Bool
  asyncCommits : List (Except MatterError Unit)

/-- A handler that throws ends the loop. -/
def callCommit1 : List Participant → Commit1Calls
  | [] => { invocations := [], needRollback := false, asyncCommits := [] }
  | participant :: participants =>
    match participant.commit1 with
    | none => callCommit1 participants
    | some (.now (.error _)) =>
      { invocations := [.commit1 participant.name], needRollback := true, asyncCommits := [] }
    | some (.now (.ok _)) =>
      let calls := callCommit1 participants
      { calls with invocations := .commit1 participant.name :: calls.invocations }
    | some (.later result) =>
      let calls := callCommit1 participants
      { calls with
        invocations := .commit1 participant.name :: calls.invocations
        asyncCommits := result :: calls.asyncCommits }

/-- `#executeCommit1`: when a handler threw or, after all promises have settled, one was
rejected, everything is rolled back. -/
def executeCommit1 : Finalization :=
  let calls := callCommit1 participants
  let isAsync := !calls.asyncCommits.isEmpty
  if calls.needRollback || calls.asyncCommits.any fun result => !result.isOk then
    let rollback := executeRollback participants
    { invocations := calls.invocations ++ rollback.invocations
      isAsync := isAsync || rollback.isAsync
      result := do
        rollback.result
        .error (.finalizationError "Rolled back due to commit phase one error") }
  else { invocations := calls.invocations, isAsync, result := .ok () }

def executeCommit : Finalization :=
  let phaseOne := executeCommit1 participants
  match phaseOne.result with
  | .error _ => phaseOne
  | .ok _ =>
    let phaseTwo := executeCommit2 participants
    { invocations := phaseOne.invocations ++ phaseTwo.invocations
      isAsync := phaseOne.isAsync || phaseTwo.isAsync
      result := phaseTwo.result }

/-! ## Which handlers are called -/

theorem exists_commit1_of_mem_callCommit1 {participants : List Participant}
    {invocation : Invocation} (member : invocation ∈ (callCommit1 participants).invocations) :
    ∃ name, invocation = .commit1 name := by
  induction participants with
  | nil => cases member
  | cons participant participants induction =>
    rw [callCommit1] at member
    split at member
    · exact induction member
    · exact ⟨_, List.mem_singleton.mp member⟩
    · rcases List.mem_cons.mp member with isFirst | later
      · exact ⟨_, isFirst⟩
      · exact induction later
    · rcases List.mem_cons.mp member with isFirst | later
      · exact ⟨_, isFirst⟩
      · exact induction later

theorem commit1_fails_iff :
    ((callCommit1 participants).needRollback ||
      (callCommit1 participants).asyncCommits.any fun result => !result.isOk) = true ↔
        ∃ participant ∈ participants, participant.commit1Fails := by
  induction participants with
  | nil => simp [callCommit1]
  | cons participant participants induction =>
    rw [List.exists_mem_cons_iff, ← induction, callCommit1, Participant.commit1Fails]
    split
    next isNone =>
      rw [isNone]
      simp
    next error isError =>
      rw [isError]
      simp [HandlerResult.fails, HandlerResult.result, Except.toBool]
    next isOk =>
      rw [isOk]
      simp [HandlerResult.fails, HandlerResult.result, Except.toBool]
    next result isLater =>
      rw [isLater]
      simp only [List.any_cons, Bool.or_eq_true]
      tauto

theorem mem_invokeAll {handler : Participant → Option HandlerResult}
    {invocation : String → Invocation} {participants : List Participant}
    {called : Invocation} (member : called ∈
      (invokeAll handler invocation participants).invocations) :
    ∃ name, called = invocation name := by
  rw [invokeAll, List.mem_map] at member
  rcases member with ⟨participant, _, same⟩
  exact ⟨participant.name, same.symm⟩

theorem count_invokeAll {handler : Participant → Option HandlerResult}
    {invocation : String → Invocation} (injective : Function.Injective invocation)
    {participants : List Participant}
    (nodupNames : (participants.map Participant.name).Nodup) {participant : Participant}
    (member : participant ∈ participants) :
    (invokeAll handler invocation participants).invocations.count (invocation participant.name) =
      if (handler participant).isSome then 1 else 0 := by
  have nodup : ((participants.filter fun participant => (handler participant).isSome).map
      fun participant => invocation participant.name).Nodup := by
    rw [← Function.comp_def invocation Participant.name, ← List.map_map]
    exact List.Nodup.map injective (nodupNames.sublist (List.filter_sublist.map _))
  by_cases has : (handler participant).isSome
  · rw [if_pos has]
    exact List.count_eq_one_of_mem nodup
      (List.mem_map.mpr ⟨participant, List.mem_filter.mpr ⟨member, has⟩, rfl⟩)
  · rw [if_neg has]
    apply List.count_eq_zero_of_not_mem
    intro isCalled
    rcases List.mem_map.mp isCalled with ⟨other, otherMember, same⟩
    rcases List.mem_filter.mp otherMember with ⟨isOther, otherHas⟩
    have isSame : other = participant :=
      List.inj_on_of_nodup_map nodupNames isOther member (injective same)
    rw [isSame] at otherHas
    exact has otherHas

/-- When the first phase of some participant fails, no second phase is called, every rollback
is called once, and the commit fails. Otherwise every second phase is called once, and no
rollback. -/
theorem executeCommit_isAtomic (participants : Participants) :
    ((∃ participant ∈ participants.list, participant.commit1Fails) →
      (∀ name, .commit2 name ∉ (executeCommit participants.list).invocations) ∧
      (∀ participant ∈ participants.list,
        (executeCommit participants.list).invocations.count (.rollback participant.name) =
          if participant.rollback.isSome then 1 else 0) ∧
      ∃ error, (executeCommit participants.list).result = .error error) ∧
    ((¬∃ participant ∈ participants.list, participant.commit1Fails) →
      (∀ participant ∈ participants.list,
        (executeCommit participants.list).invocations.count (.commit2 participant.name) =
          if participant.commit2.isSome then 1 else 0) ∧
      ∀ name, .rollback name ∉ (executeCommit participants.list).invocations) := by
  have fails := commit1_fails_iff participants.list
  rw [executeCommit, executeCommit1]
  constructor
  · intro anyFails
    have needRollback := fails.mpr anyFails
    have result : ∃ error, (do
        (executeRollback participants.list).result
        .error (.finalizationError "Rolled back due to commit phase one error") :
          Except MatterError Unit) = .error error := by
      cases (executeRollback participants.list).result with
      | error error => exact ⟨error, rfl⟩
      | ok _ => exact ⟨_, rfl⟩
    rcases result with ⟨error, isError⟩
    simp only [needRollback, if_true, isError]
    refine ⟨fun name member => ?_, fun participant member => ?_, error, rfl⟩
    · rcases List.mem_append.mp member with inPhaseOne | inRollback
      · rcases exists_commit1_of_mem_callCommit1 inPhaseOne with ⟨_, same⟩
        cases same
      · rcases mem_invokeAll inRollback with ⟨_, same⟩
        cases same
    · rw [List.count_append, List.count_eq_zero_of_not_mem, Nat.zero_add]
      · exact count_invokeAll (fun _ _ same => Invocation.rollback.inj same)
          participants.nodupNames member
      · intro inPhaseOne
        rcases exists_commit1_of_mem_callCommit1 inPhaseOne with ⟨_, same⟩
        cases same
  · intro noneFails
    have noRollback := fun needRollback => noneFails (fails.mp needRollback)
    simp only [if_neg noRollback]
    refine ⟨fun participant member => ?_, fun name member => ?_⟩
    · rw [List.count_append, List.count_eq_zero_of_not_mem, Nat.zero_add]
      · exact count_invokeAll (fun _ _ same => Invocation.commit2.inj same)
          participants.nodupNames member
      · intro inPhaseOne
        rcases exists_commit1_of_mem_callCommit1 inPhaseOne with ⟨_, same⟩
        cases same
    · rcases List.mem_append.mp member with inPhaseOne | inPhaseTwo
      · rcases exists_commit1_of_mem_callCommit1 inPhaseOne with ⟨_, same⟩
        cases same
      · rcases mem_invokeAll inPhaseTwo with ⟨_, same⟩
        cases same

end MatterJs.General
