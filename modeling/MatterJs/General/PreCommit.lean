import MatterJs.Foundation.Execution
import MatterJs.General.TwoPhaseCommit

/-! The pre-commit of an exclusive transaction: its participants are called in cycles, until in
one of them none reports a mutation. -/

namespace MatterJs.General

open Execution

/-! ## The cycles -/

def maxPrecommitCycles : Nat := 5

/-- What calling a participant does, which may have no `preCommit` -/
inductive PreCommitAnswer where
  | absent
  | returns (mayHaveMutated : Bool)
  | throws (error : MatterError)
  | promises

/-- A call that has returned, or whose promise has settled -/
structure PreCommitCall where
  name : String
  result : Except MatterError Bool

inductive PreCommitStage where
  | running
  | waiting (participant : Participant)
  | committed (finalization : Finalization)
  | rolledBack (finalization : Finalization)

/-- The iterator is at `position`. The calls are those of this cycle and of the `finished`
ones. -/
structure PreCommit where
  participants : Participants
  position : Nat
  cycles : Nat
  mayHaveMutated : Bool
  calls : List PreCommitCall
  finished : List (List PreCommitCall)
  stage : PreCommitStage

/-- Participants may join as a handler runs or its promise is pending. -/
inductive PreCommitEvent where
  | call (joining : List Participant) (answer : PreCommitAnswer)
  | settle (joining : List Participant) (result : Except MatterError Bool)

/-- `addParticipants` throws, to the handler that calls it, where the name is taken. -/
def Participants.add (participants : Participants) (joining : Participant) : Participants :=
  if isTaken : joining.name ∈ participants.list.map Participant.name then participants
  else
    { list := participants.list ++ [joining]
      nodupNames := by
        rw [List.map_append]
        exact List.Nodup.append participants.nodupNames (List.nodup_singleton _)
          (List.disjoint_singleton.mpr isTaken) }

namespace PreCommit

def errorRollback (state : PreCommit) (error : MatterError) : PreCommit :=
  let rollback := executeRollback state.participants.list
  { state with
    stage := .rolledBack
      { rollback with
        result := do
          rollback.result
          .error error } }

def nextCycle (state : PreCommit) : PreCommit :=
  let counted := { state with cycles := state.cycles + 1 }
  if counted.cycles > maxPrecommitCycles then
    counted.errorRollback (.finalizationError (s!"State has not settled after " ++
      s!"{maxPrecommitCycles} pre-commit cycles which likely indicates an infinite loop"))
  else
    { counted with
      mayHaveMutated := false
      position := 0
      finished := state.finished ++ [state.calls]
      calls := []
      stage := .running }

/-- The loop of `nextPreCommit`, up to the next participant. When all are done, `performCommit`
follows. -/
def proceed (state : PreCommit) : PreCommit :=
  if state.position < state.participants.list.length then { state with stage := .running }
  else if state.mayHaveMutated then state.nextCycle
  else { state with stage := .committed (executeCommit state.participants.list) }

def answered (state : PreCommit) (participant : Participant)
    (result : Except MatterError Bool) : PreCommit :=
  let call : PreCommitCall := ⟨participant.name, result⟩
  let logged := { state with calls := state.calls ++ [call] }
  match result with
  | .error error => logged.errorRollback error
  | .ok mayHaveMutated =>
    { logged with mayHaveMutated := state.mayHaveMutated || mayHaveMutated }.proceed

def next (state : PreCommit) : PreCommitEvent → PreCommit
  | .call joining answer =>
    match state.stage, state.participants.list[state.position]? with
    | .running, some participant =>
      let called :=
        { state with
          position := state.position + 1
          participants := joining.foldl Participants.add state.participants }
      match answer with
      | .absent => called.answered participant (.ok false)
      | .returns mayHaveMutated => called.answered participant (.ok mayHaveMutated)
      | .throws error => called.answered participant (.error error)
      | .promises => { called with stage := .waiting participant }
    | _, _ => state
  | .settle joining result =>
    match state.stage with
    | .waiting participant =>
      { state with
        participants := joining.foldl Participants.add state.participants }.answered
          participant result
    | _ => state

/-- `#executePreCommit` -/
def start (participants : Participants) : PreCommit :=
  proceed ⟨participants, 0, 1, false, [], [], .running⟩

/-! ## Settled states -/

/-- No more than five cycles are run, and as long as none has ended the pre-commit some
participant is still to answer. The commit follows a cycle in which every participant answered
that nothing was mutated. Otherwise, and after any error, all are rolled back. -/
structure CommitsWhenSettled (state : PreCommit) : Prop where
  cycles : (state.finished ++ [state.calls]).length ≤ maxPrecommitCycles
  committed : ∀ finalization, state.stage = .committed finalization →
    finalization = executeCommit state.participants.list ∧
      state.calls.map PreCommitCall.name = state.participants.list.map Participant.name ∧
      ∀ call ∈ state.calls, call.result = .ok false
  rolledBack : ∀ finalization, state.stage = .rolledBack finalization →
    (∀ participant ∈ state.participants.list,
      finalization.invocations.count (.rollback participant.name) =
        if participant.rollback.isSome then 1 else 0) ∧
      (∀ name, .commit1 name ∉ finalization.invocations ∧
        .commit2 name ∉ finalization.invocations) ∧
      ∃ error, finalization.result = .error error
  ends : state.calls.length = state.participants.list.length →
    ∃ finalization, state.stage = .committed finalization ∨ state.stage = .rolledBack finalization
  errors : ∀ call ∈ state.calls, ∀ error, call.result = .error error →
    ∃ finalization, state.stage = .rolledBack finalization

/-- The calls of a cycle that goes on -/
structure InCycle (state : PreCommit) : Prop where
  counted : state.cycles = state.finished.length + 1
  bounded : state.cycles ≤ maxPrecommitCycles
  inOrder : state.calls.map PreCommitCall.name <+: state.participants.list.map Participant.name
  noErrors : ∀ call ∈ state.calls, call.result = .ok false ∨
    call.result = .ok true ∧ state.mayHaveMutated = true
  nonempty : state.mayHaveMutated = true → state.calls ≠ []

def Proper (state : PreCommit) : Prop :=
  match state.stage with
  | .running => state.InCycle ∧ state.position = state.calls.length ∧
      state.position < state.participants.list.length
  | .waiting participant => state.InCycle ∧ state.position = state.calls.length + 1 ∧
      state.participants.list[state.calls.length]? = some participant
  | _ => state.CommitsWhenSettled

variable {state : PreCommit}

theorem InCycle.length_le (inCycle : state.InCycle) :
    (state.finished ++ [state.calls]).length ≤ maxPrecommitCycles := by
  rw [List.length_append, List.length_singleton, ← inCycle.counted]
  exact inCycle.bounded

theorem InCycle.ne_error (inCycle : state.InCycle) {call : PreCommitCall}
    (member : call ∈ state.calls) (error : MatterError) : call.result ≠ .error error := by
  rcases inCycle.noErrors call member with isOk | ⟨isOk, -⟩ <;> rw [isOk] <;> nofun

theorem Proper.commitsWhenSettled (proper : state.Proper) : state.CommitsWhenSettled := by
  rw [Proper] at proper
  split at proper
  case h_1 isRunning =>
    obtain ⟨inCycle, atCalls, before⟩ := proper
    exact
      { cycles := inCycle.length_le
        committed := fun _ is => nomatch isRunning.symm.trans is
        rolledBack := fun _ is => nomatch isRunning.symm.trans is
        ends := fun all => absurd before (by omega)
        errors := fun call member error isError => absurd isError (inCycle.ne_error member error) }
  case h_2 participant isWaiting =>
    obtain ⟨inCycle, -, found⟩ := proper
    have before := (List.getElem?_eq_some_iff.mp found).1
    exact
      { cycles := inCycle.length_le
        committed := fun _ is => nomatch isWaiting.symm.trans is
        rolledBack := fun _ is => nomatch isWaiting.symm.trans is
        ends := fun all => absurd before (by omega)
        errors := fun call member error isError => absurd isError (inCycle.ne_error member error) }
  case h_3 => exact proper

theorem proper_errorRollback
    (cycles : (state.finished ++ [state.calls]).length ≤ maxPrecommitCycles)
    (error : MatterError) : (state.errorRollback error).Proper where
  cycles := cycles
  committed := nofun
  rolledBack := by
    rintro _ ⟨⟩
    refine ⟨fun participant member => ?_, fun name => ⟨fun called => ?_, fun called => ?_⟩, ?_⟩
    · exact count_invokeAll (fun _ _ same => Invocation.rollback.inj same)
        state.participants.nodupNames member
    · obtain ⟨_, same⟩ := mem_invokeAll called
      cases same
    · obtain ⟨_, same⟩ := mem_invokeAll called
      cases same
    · cases (executeRollback state.participants.list).result with
      | error other => exact ⟨other, rfl⟩
      | ok _ => exact ⟨error, rfl⟩
  ends := fun _ => ⟨_, .inr rfl⟩
  errors := fun _ _ _ _ => ⟨_, rfl⟩

theorem InCycle.proper_proceed (inCycle : state.InCycle)
    (atCalls : state.position = state.calls.length) : state.proceed.Proper := by
  rw [proceed]
  split
  case isTrue before => exact ⟨{ inCycle with }, atCalls, before⟩
  case isFalse done =>
    split
    case isTrue mutated =>
      rw [nextCycle]
      split
      case isTrue => exact proper_errorRollback (by exact inCycle.length_le) _
      case isFalse more =>
        have called : 0 < state.calls.length := List.length_pos_of_ne_nil (inCycle.nonempty mutated)
        have known : state.calls.length ≤ state.participants.list.length := by
          simpa using inCycle.inOrder.length_le
        refine ⟨⟨?_, Nat.not_lt.mp more, List.nil_prefix, nofun, nofun⟩, rfl,
          Nat.lt_of_lt_of_le called known⟩
        simp [inCycle.counted]
    case isFalse unchanged =>
      have all : state.calls.map PreCommitCall.name =
          state.participants.list.map Participant.name :=
        inCycle.inOrder.eq_of_length_le (by simpa [atCalls] using Nat.not_lt.mp done)
      exact
        { cycles := inCycle.length_le
          committed := by
            rintro _ ⟨⟩
            exact ⟨rfl, all, fun call member =>
              (inCycle.noErrors call member).resolve_right fun mutated => unchanged mutated.2⟩
          rolledBack := nofun
          ends := fun _ => ⟨_, .inl rfl⟩
          errors := fun call member error isError =>
            absurd isError (inCycle.ne_error member error) }

theorem InCycle.proper_answered (inCycle : state.InCycle) {participant : Participant}
    (atCall : state.position = state.calls.length + 1)
    (found : state.participants.list[state.calls.length]? = some participant)
    (result : Except MatterError Bool) : (state.answered participant result).Proper := by
  cases result with
  | error error =>
    apply proper_errorRollback
    have bounded := inCycle.length_le
    rw [List.length_append] at bounded ⊢
    exact bounded
  | ok mayHaveMutated =>
    rw [answered]
    apply InCycle.proper_proceed
    case atCalls => simpa using atCall
    case inCycle =>
      refine ⟨inCycle.counted, inCycle.bounded, ?_, ?_, fun _ => by simp⟩
      · -- The participant is the one behind those that have been called.
        rw [List.prefix_iff_eq_take, List.map_append, List.length_append, List.length_map]
        have same := List.prefix_iff_eq_take.mp inCycle.inOrder
        rw [List.length_map] at same
        have isNext : (state.participants.list.map Participant.name)[state.calls.length]? =
            some participant.name := by rw [List.getElem?_map, found]; rfl
        simp only [List.map_cons, List.map_nil, List.length_singleton]
        rw [List.take_add_one, isNext, ← same]
        rfl
      · intro call member
        rcases List.mem_append.mp member with old | isNew
        · exact (inCycle.noErrors call old).imp_right fun ⟨isOk, mutated⟩ =>
            ⟨isOk, by simp [mutated]⟩
        · rw [List.mem_singleton.mp isNew]
          cases mayHaveMutated
          · exact .inl rfl
          · exact .inr ⟨rfl, Bool.or_true _⟩

theorem exists_foldl_add (joining : List Participant) (participants : Participants) :
    ∃ joined, (joining.foldl Participants.add participants).list = participants.list ++ joined := by
  induction joining generalizing participants with
  | nil => exact ⟨[], (List.append_nil _).symm⟩
  | cons first joining induction =>
    obtain ⟨joined, isJoined⟩ := induction (participants.add first)
    rw [List.foldl_cons, isJoined, Participants.add]
    split
    · exact ⟨joined, rfl⟩
    · exact ⟨first :: joined, by simp⟩

theorem InCycle.join (inCycle : state.InCycle) (joining : List Participant) (position : Nat) :
    InCycle { state with
      position, participants := joining.foldl Participants.add state.participants } := by
  obtain ⟨joined, isJoined⟩ := exists_foldl_add joining state.participants
  refine { inCycle with inOrder := inCycle.inOrder.trans ?_ }
  simp only [isJoined, List.map_append]
  exact List.prefix_append _ _

theorem getElem?_foldl_add {position : Nat} {participant : Participant}
    (found : state.participants.list[position]? = some participant) (joining : List Participant) :
    (joining.foldl Participants.add state.participants).list[position]? = some participant := by
  obtain ⟨joined, isJoined⟩ := exists_foldl_add joining state.participants
  rw [isJoined, List.getElem?_append_left (List.getElem?_eq_some_iff.mp found).1, found]

theorem Proper.next (proper : state.Proper) (event : PreCommitEvent) :
    (state.next event).Proper := by
  cases event with
  | call joining answer =>
    rw [PreCommit.next]
    split
    case h_2 => exact proper
    case h_1 participant isRunning found =>
      rw [Proper, isRunning] at proper
      obtain ⟨inCycle, atCalls, -⟩ := proper
      have joined := inCycle.join joining (state.position + 1)
      have atCall : state.position + 1 = state.calls.length + 1 := by rw [atCalls]
      have still := getElem?_foldl_add (atCalls ▸ found) joining
      cases answer with
      | absent => exact joined.proper_answered atCall still _
      | returns => exact joined.proper_answered atCall still _
      | throws => exact joined.proper_answered atCall still _
      | promises => exact ⟨{ joined with }, atCall, still⟩
  | settle joining result =>
    rw [PreCommit.next]
    split
    case h_2 => exact proper
    case h_1 participant isWaiting =>
      rw [Proper, isWaiting] at proper
      obtain ⟨inCycle, atCall, found⟩ := proper
      exact (inCycle.join joining state.position).proper_answered atCall
        (getElem?_foldl_add found joining) result

end PreCommit

end MatterJs.General
