import MatterJs.Protocol.WriteRequest

/-! What the statuses of a write request say of the writes that were executed. -/

namespace MatterJs.Protocol

open General MatterJs.Types Execution

/-- A success is only answered where a write was executed. -/
def HonestStatuses (statuses : List WriteStatus) : Prop :=
  ∀ status ∈ statuses, status.statusCode = .success → status.executed = true

def AnsweredPaths (writes : List ResolvedWrite) (statuses : List WriteStatus) : Prop :=
  ∀ write ∈ writes, ∀ path, write.concrete = some path →
    ∃ status ∈ statuses, status.path.toRequestPath.concrete = some path

theorem honestStatuses_append_iff {first second : List WriteStatus} :
    HonestStatuses (first ++ second) ↔ HonestStatuses first ∧ HonestStatuses second :=
  List.forall_mem_append

theorem honestStatuses_singleton_iff {status : WriteStatus} :
    HonestStatuses [status] ↔ (status.statusCode = .success → status.executed = true) :=
  List.forall_mem_singleton

namespace WriteState

variable {server : WriteServer} {exchange : RequestExchange} {environment : WriteEnvironment}
  {state : WriteState}

def Honest (state : WriteState) : Prop := HonestStatuses state.writeResults

/-! ## Which turns keep the statuses honest -/

def turnError (exchange : RequestExchange) (state : WriteState) (write : AttributeWrite) :
    Option WriteError :=
  if write.server.isFixed then some (.statusResponse .unsupportedWrite none)
  else if write.path ∈ state.inaccessiblePaths then none
  else attemptError exchange write.server write.attempt

/-- The turn does not fail, or it is that of a single attribute, and the error does not have
the code of a success. -/
def TurnSucceeds (exchange : RequestExchange) (isSingle : Bool) (state : WriteState)
    (write : AttributeWrite) : Prop :=
  ∀ error, turnError exchange state write = some error →
    isSingle ∧ ∀ clusterCode, error ≠ .statusResponse .success clusterCode

variable (isSingle : Bool) (path : ElementPathId) (error : WriteError)

theorem honest_catchError_iff :
    (state.catchError isSingle path error).Honest ↔
      state.Honest ∧ isSingle ∧ ∀ clusterCode, error ≠ .statusResponse .success clusterCode := by
  refine honestStatuses_append_iff.trans (and_congr_right fun _ => ?_)
  rw [honestStatuses_singleton_iff]
  cases isSingle with
  | false => simp [successStatus]
  | true => cases error <;> simp [errorStatus]

theorem honest_writeAttribute_iff (state : WriteState) (write : AttributeWrite) :
    (writeAttribute exchange isSingle state write).Honest ↔
      state.Honest ∧ TurnSucceeds exchange isSingle state write := by
  rw [writeAttribute, TurnSucceeds, turnError]
  by_cases isFixed : write.server.isFixed = true
  · rw [if_pos isFixed, if_pos isFixed, honest_catchError_iff]
    simp
  · rw [if_neg isFixed, if_neg isFixed]
    by_cases inaccessible : write.path ∈ state.inaccessiblePaths
    · rw [if_pos inaccessible, if_pos inaccessible]
      simp
    · rw [if_neg inaccessible, if_neg inaccessible]
      cases attemptError exchange write.server write.attempt with
      | some error =>
        rw [honest_catchError_iff]
        simp
      | none =>
        refine honestStatuses_append_iff.trans ?_
        rw [honestStatuses_singleton_iff]
        simp [successStatus, Honest]

/-- No turn of the write's attributes fails that the statuses then call a success. -/
def StepSucceeds (exchange : RequestExchange) (environment : WriteEnvironment)
    (state : WriteState) : ResolvedWrite × Nat → Prop
  | (write, index) =>
    ∀ checked, checkSingle exchange environment state index write = (none, checked) →
      Along (writeAttribute exchange write.isSingle) (TurnSucceeds exchange write.isSingle)
        checked (attributeWrites environment index write)

theorem honest_refuse_iff {path : AttributeDataPath} {statusCode : StatusCode}
    (notSuccess : statusCode ≠ .success) :
    (state.refuse path statusCode).Honest ↔ state.Honest := by
  refine honestStatuses_append_iff.trans (and_iff_left ?_)
  rw [honestStatuses_singleton_iff]
  exact fun success => absurd success notSuccess

theorem unwritableStatus_ne_success : unwritableStatus server path ≠ .success := by
  rw [unwritableStatus, InteractionEndpointStructure.validateConcreteAttributePath,
    InteractionEndpointStructure.validateConcretePath]
  split_ifs <;> exact nofun

theorem checkSingle_cases (state : WriteState) (index : Nat) (write : ResolvedWrite) :
    ((checkSingle exchange environment state index write).1 ≠ some .success) ∧
      (checkSingle exchange environment state index write).2.writeResults = state.writeResults ∧
      (checkSingle exchange environment state index write).2.inaccessiblePaths =
        state.inaccessiblePaths := by
  rw [checkSingle]
  split
  · split_ifs
    · exact ⟨nofun, rfl, rfl⟩
    · exact ⟨nofun, rfl, rfl⟩
    · rw [checkDataVersion]
      split
      · exact ⟨nofun, rfl, rfl⟩
      · dsimp only
        split
        · exact ⟨nofun, rfl, rfl⟩
        · split_ifs
          · exact ⟨nofun, rfl, rfl⟩
          · exact ⟨nofun, rfl, rfl⟩
  · exact ⟨nofun, rfl, rfl⟩

theorem honest_step_iff (state : WriteState) (write : ResolvedWrite × Nat) :
    (step server exchange environment state write).Honest ↔
      state.Honest ∧ StepSucceeds exchange environment state write := by
  rcases write with ⟨write, index⟩
  rcases @checkSingle_cases exchange environment state index write with
    ⟨notSuccess, sameResults, _⟩
  rw [step, StepSucceeds]
  split_ifs with none
  · have noTurn : attributeWrites environment index write = [] := by
      rw [attributeWrites, List.isEmpty_iff.mp none]
      rfl
    rw [noTurn]
    have succeeds : ∀ checked : WriteState, checkSingle exchange environment state index write =
        (Option.none, checked) → Along (writeAttribute exchange write.isSingle)
          (TurnSucceeds exchange write.isSingle) checked [] := fun _ _ => trivial
    rw [and_iff_left succeeds]
    split
    · exact honest_refuse_iff (unwritableStatus_ne_success _)
    · exact Iff.rfl
  · have honestChecked : (checkSingle exchange environment state index write).2.Honest ↔
        state.Honest := by
      rw [Honest, Honest, sameResults]
    cases check : checkSingle exchange environment state index write with
    | mk statusCode checked =>
      rw [check] at notSuccess honestChecked
      cases statusCode with
      | some statusCode =>
        have refused : statusCode ≠ .success := fun success =>
          notSuccess (congrArg some success)
        rw [honest_refuse_iff refused, honestChecked]
        simp
      | none =>
        rw [run_iff_along (honest_writeAttribute_iff write.isSingle), honestChecked]
        simp

/-! ## Every concrete path is answered -/

def Answers (statuses : List WriteStatus) (path : ElementPathId) : Prop :=
  ∃ status ∈ statuses, status.path.toRequestPath.concrete = some path

theorem Answers.mono {first second : List WriteStatus} {path : ElementPathId}
    (answers : Answers first path) (grows : first <+: second) : Answers second path := by
  rcases answers with ⟨status, member, isPath⟩
  exact ⟨status, grows.subset member, isPath⟩

/-- A path only counts as inaccessible once it has been answered. -/
def Recorded (state : WriteState) : Prop :=
  ∀ path ∈ state.inaccessiblePaths, Answers state.writeResults path

/-- Statuses are only added, and all that is inaccessible has one. -/
structure Extends (before after : WriteState) : Prop where
  grows : before.writeResults <+: after.writeResults
  recorded : Recorded before → Recorded after

theorem Extends.refl (state : WriteState) : Extends state state := ⟨List.prefix_refl _, id⟩

theorem Extends.trans {first second third : WriteState} (before : Extends first second)
    (after : Extends second third) : Extends first third :=
  ⟨before.grows.trans after.grows, after.recorded ∘ before.recorded⟩

theorem extends_of_append {before after : WriteState} {status : WriteStatus}
    (added : after.writeResults = before.writeResults ++ [status])
    (inaccessible : ∀ path ∈ after.inaccessiblePaths, path ∈ before.inaccessiblePaths ∨
      status.path.toRequestPath.concrete = some path) : Extends before after := by
  have grows : before.writeResults <+: after.writeResults := added ▸ List.prefix_append _ _
  refine ⟨grows, fun recorded path member => ?_⟩
  rcases inaccessible path member with earlier | isNew
  · exact (recorded path earlier).mono grows
  · exact ⟨status, by rw [added]; simp, isNew⟩

theorem path_errorStatus : (errorStatus path error).path = .ofConcrete path := by
  cases error <;> rfl

theorem extends_catchError : Extends state (state.catchError isSingle path error) := by
  refine extends_of_append rfl fun other member => ?_
  have isPath : (if isSingle then errorStatus path error
      else successStatus path false).path.toRequestPath.concrete = some path := by
    split
    · rw [path_errorStatus]
      rfl
    · rfl
  rw [isPath]
  rw [catchError] at member
  dsimp only at member
  split at member
  · rcases List.mem_insert_iff.mp member with rfl | earlier
    · exact .inr rfl
    · exact .inl earlier
  · exact .inl member

theorem answers_catchError : Answers (state.catchError isSingle path error).writeResults path := by
  refine ⟨_, List.mem_append_right _ List.mem_cons_self, ?_⟩
  split
  · rw [path_errorStatus]
    rfl
  · rfl

theorem writeAttribute_spec (state : WriteState) (write : AttributeWrite) :
    Extends state (writeAttribute exchange isSingle state write) ∧
      (Recorded state →
        Answers (writeAttribute exchange isSingle state write).writeResults write.path) := by
  rw [writeAttribute]
  by_cases isFixed : write.server.isFixed = true
  · rw [if_pos isFixed]
    exact ⟨extends_catchError _ _ _, fun _ => answers_catchError _ _ _⟩
  · rw [if_neg isFixed]
    by_cases inaccessible : write.path ∈ state.inaccessiblePaths
    · rw [if_pos inaccessible]
      exact ⟨Extends.refl state, fun recorded => recorded _ inaccessible⟩
    · rw [if_neg inaccessible]
      cases attemptError exchange write.server write.attempt with
      | some error => exact ⟨extends_catchError _ _ _, fun _ => answers_catchError _ _ _⟩
      | none =>
        refine ⟨extends_of_append rfl fun _ member => .inl member, fun _ => ?_⟩
        exact ⟨_, List.mem_append_right _ List.mem_cons_self, rfl⟩

theorem extends_run (writes : List AttributeWrite) :
    Extends state (run (writeAttribute exchange isSingle) state writes) := by
  apply run_invariant (writeAttribute exchange isSingle) (Extends state)
  · intro after write earlier
    exact earlier.trans (writeAttribute_spec isSingle after write).1
  · exact Extends.refl state

theorem extends_refuse (path : AttributeDataPath) (statusCode : StatusCode) :
    Extends state (state.refuse path statusCode) :=
  extends_of_append rfl fun _ member => .inl member

theorem extends_checked {checked : WriteState}
    (sameResults : checked.writeResults = state.writeResults)
    (samePaths : checked.inaccessiblePaths = state.inaccessiblePaths) : Extends state checked := by
  refine ⟨sameResults ▸ List.prefix_refl _, ?_⟩
  rw [Recorded, Recorded, sameResults, samePaths]
  exact id

theorem extends_step (state : WriteState) (write : ResolvedWrite × Nat) :
    Extends state (step server exchange environment state write) := by
  rcases write with ⟨write, index⟩
  rw [step]
  split_ifs
  · split
    · exact extends_refuse _ _
    · exact Extends.refl state
  · rcases @checkSingle_cases exchange environment state index write with
      ⟨_, sameResults, samePaths⟩
    have checked := extends_checked sameResults samePaths
    split
    · rename_i check
      rw [check] at checked
      exact checked.trans (extends_refuse _ _)
    · rename_i check
      rw [check] at checked
      exact checked.trans (extends_run _ _)

/-- A concrete path has no attribute or its own. -/
def Resolved (write : ResolvedWrite) : Prop :=
  ∀ path, write.concrete = some path →
    write.attributes = [] ∨ ∃ server, write.attributes = [(path, server)]

theorem answers_step {write : ResolvedWrite} (resolved : Resolved write)
    (recorded : Recorded state) {path : ElementPathId} (isPath : write.concrete = some path)
    (index : Nat) :
    Answers (step server exchange environment state (write, index)).writeResults path := by
  have refused (state : WriteState) (statusCode : StatusCode) :
      Answers (state.refuse write.data.path statusCode).writeResults path :=
    ⟨_, List.mem_append_right _ List.mem_cons_self, isPath⟩
  rw [step]
  rcases resolved path isPath with none | ⟨server, single⟩
  · have empty : write.attributes.isEmpty = true := by
      rw [none]
      rfl
    rw [if_pos empty, isPath]
    exact refused state _
  · have notEmpty : ¬write.attributes.isEmpty = true := by
      rw [single]
      exact Bool.false_ne_true
    rw [if_neg notEmpty]
    rcases @checkSingle_cases exchange environment state index write with
      ⟨_, sameResults, samePaths⟩
    have checked := extends_checked sameResults samePaths
    split
    · exact refused _ _
    · rename_i check
      rw [check] at checked
      have turns : attributeWrites environment index write =
          [{ path, server, attempt := environment.attempt index 0 }] := by
        rw [attributeWrites, single]
        rfl
      rw [turns]
      exact (writeAttribute_spec write.isSingle _ _).2 (checked.recorded recorded)

theorem answered_run {writes : List (ResolvedWrite × Nat)}
    (resolved : ∀ write ∈ writes, Resolved write.1) (recorded : Recorded state) :
    ∀ write ∈ writes, ∀ path, write.1.concrete = some path →
      Answers (run (step server exchange environment) state writes).writeResults path := by
  induction writes generalizing state with
  | nil =>
    intro write member
    cases member
  | cons first writes induction =>
    rw [List.forall_mem_cons] at resolved ⊢
    have afterFirst := (@extends_step server exchange environment state first).recorded recorded
    have later : Extends (step server exchange environment state first)
        (run (step server exchange environment) (step server exchange environment state first)
          writes) := by
      apply run_invariant (step server exchange environment)
      · exact fun after write earlier => earlier.trans (extends_step after write)
      · exact Extends.refl _
    refine ⟨fun path isPath => ?_, induction resolved.2 afterFirst⟩
    exact (answers_step resolved.1 recorded isPath first.2).mono later.grows

end WriteState

namespace WriteServer

open WriteState

variable {server : WriteServer} {exchange : RequestExchange}

theorem resolved_of_resolveWrite {data : AttributeData} {write : ResolvedWrite}
    (resolves : server.resolveWrite data = .ok write) : Resolved write := by
  rcases bind_eq_ok_iff.mp resolves with ⟨_, _, rest⟩
  rcases bind_eq_ok_iff.mp rest with ⟨attributes, found, isWrite⟩
  cases isWrite
  intro path isPath
  rcases InteractionEndpointStructure.getAttributes_of_concrete isPath found with none | single
  · exact .inl none
  · exact .inr single

theorem resolved_of_resolveWrites {request : WriteRequest} {writes : List ResolvedWrite}
    (resolves : server.resolveWrites exchange request = .ok writes) :
    ∀ write ∈ writes, Resolved write := by
  rcases bind_eq_ok_iff.mp resolves with ⟨_, _, rest⟩
  rcases bind_eq_ok_iff.mp rest with ⟨writeData, _, resolved⟩
  intro write member
  rcases List.mem_iff_getElem.mp member with ⟨index, inside, isWrite⟩
  have resolvedAll := mapM_eq_ok_iff.mp resolved
  have insideData : index < writeData.length := resolvedAll.length_eq ▸ inside
  have resolvesWrite := resolvedAll.get insideData inside
  rw [List.get_eq_getElem, List.get_eq_getElem, isWrite] at resolvesWrite
  exact resolved_of_resolveWrite resolvesWrite

def onLevel : WrittenAttribute where
  isFixed := false
  isFabricScoped := false
  isWritable := true
  requiresTimedInteraction := false
  isList := false

def twoLevels : WriteServer where
  model :=
    { isFixed := fun _ => false
      changesOmitted := fun _ => false
      isDiagnosticsCluster := fun _ => false
      isFabricScopedCommand := fun _ _ => false }
  endpointStructure :=
    { endpoints := (OrderedMap.empty.set 1 [8]).set 2 [8]
      attributes := (OrderedMap.empty.set ⟨1, 8, 17⟩ onLevel).set ⟨2, 8, 17⟩ onLevel
      attributePaths := [⟨1, 8, 17⟩, ⟨2, 8, 17⟩]
      commands := .empty
      commandPaths := [] }

def levelExchange : RequestExchange where
  timedInteraction := none
  sessionType := .unicast
  hasFabric := true

def writeLevelAt (endpointId : Option Nat) : WriteRequest where
  writeRequests :=
    [{ path := { AttributeDataPath.ofConcrete ⟨1, 8, 17⟩ with endpointId }
       dataVersion := none }]
  timedRequest := false
  suppressResponse := false
  moreChunkedMessages := false

/-- The first write is fine, and the next one violates a constraint. -/
def secondFails : WriteEnvironment where
  dataVersion := fun _ => some 1
  attempt := fun _ place =>
    { decoding := none
      writing := if place = 1 then some (.statusResponse .constraintError none) else none }

end WriteServer

end MatterJs.Protocol
