import MatterJs.Foundation.Execution
import MatterJs.Protocol.FabricManager

/-! Fabrics that are added, replaced, removed and restored: when the manager and the fabric
objects stay in step. -/

namespace MatterJs.Protocol

open General

namespace FabricManager

variable (manager : FabricManager)

def storedIndices : List Nat :=
  manager.storedFabrics.map Fabric.fabricIndex

/-! ## What is stored -/

theorem storedIndices_persistFabrics :
    manager.persistFabrics.storedIndices = manager.fabrics.keys := by
  change (manager.fabrics.values.map FabricObject.config).map Fabric.fabricIndex = _
  rw [OrderedMap.values, List.map_map, List.map_map]
  apply List.map_congr_left
  intro entry member
  exact manager.index_of_get ((OrderedMap.mem_entries_iff _ _ _).mp member)

theorem mem_storedIndices_persistFabrics (fabricIndex : Nat) :
    fabricIndex ∈ manager.persistFabrics.storedIndices ↔ manager.has fabricIndex := by
  rw [storedIndices_persistFabrics, OrderedMap.mem_keys_iff, has_iff]

theorem nodup_storedIndices_persistFabrics : manager.persistFabrics.storedIndices.Nodup := by
  rw [storedIndices_persistFabrics]
  exact manager.fabrics.nodupKeys

theorem exists_foldlM_addFabric {fabrics : List FabricObject} {manager : FabricManager}
    (nodup : (fabrics.map FabricObject.fabricIndex).Nodup)
    (new : ∀ fabric ∈ fabrics, manager.has fabric.fabricIndex = false) :
    ∃ after, fabrics.foldlM addFabric manager = .ok after ∧
      after.storedFabrics = manager.storedFabrics ∧
      ∀ fabricIndex, after.has fabricIndex ↔
        fabricIndex ∈ fabrics.map FabricObject.fabricIndex ∨ manager.has fabricIndex := by
  induction fabrics generalizing manager with
  | nil => exact ⟨manager, rfl, rfl, by simp⟩
  | cons fabric fabrics induction =>
    rw [List.map_cons, List.nodup_cons] at nodup
    rw [List.forall_mem_cons] at new
    have isNew : ¬manager.has fabric.fabricIndex = true := by rw [new.1]; decide
    rw [List.foldlM_cons, addFabric, if_neg isNew]
    have stillNew : ∀ other ∈ fabrics,
        ((manager.setFabric fabric).installCallbacks fabric).has other.fabricIndex = false := by
      intro other member
      have absent := new.2 other member
      rw [Bool.eq_false_iff] at absent ⊢
      rw [has_installCallbacks, ne_eq, has_setFabric]
      rintro (same | earlier)
      · apply nodup.1
        rw [← same]
        exact List.mem_map_of_mem member
      · exact absent earlier
    rcases induction nodup.2 stillNew with ⟨after, isAfter, sameStored, hasAfter⟩
    refine ⟨after, isAfter, sameStored, fun fabricIndex => (hasAfter fabricIndex).trans ?_⟩
    rw [has_installCallbacks, has_setFabric, List.map_cons, List.mem_cons, or_left_comm, or_assoc]

theorem map_fabricIndex_createFabrics (reference : Nat) (configs : List Fabric) :
    (createFabrics reference configs).map FabricObject.fabricIndex =
      configs.map Fabric.fabricIndex := by
  induction configs generalizing reference with
  | nil => rfl
  | cons config configs induction =>
    rw [createFabrics, List.map_cons, induction]
    rfl

theorem exists_restore {manager : FabricManager} (nodup : manager.storedIndices.Nodup) :
    ∃ after, manager.restore = .ok after ∧ after.storedFabrics = manager.storedFabrics ∧
      ∀ fabricIndex, after.has fabricIndex ↔ fabricIndex ∈ manager.storedIndices := by
  have indices := map_fabricIndex_createFabrics 0 manager.storedFabrics
  have started := @exists_foldlM_addFabric (createFabrics 0 manager.storedFabrics)
    (FabricManager.new manager.storedFabrics manager.storedNextFabricIndex)
    (by rw [indices]; exact nodup) (fun _ _ => rfl)
  rcases started with ⟨after, isAfter, sameStored, hasAfter⟩
  refine ⟨{ after with
    nextFabricIndex := manager.storedNextFabricIndex.getD after.nextFabricIndex }, ?_,
    sameStored, ?_⟩
  · rw [restore, isAfter]
    rfl
  · intro fabricIndex
    refine (hasAfter fabricIndex).trans ?_
    rw [indices]
    exact or_iff_left Bool.false_ne_true

end FabricManager

inductive FabricEvent where
  | addFabric (fabric : FabricObject)
  | updateFabric (fabric : FabricObject)
  | remove (fabric : FabricObject)
  | revokeFabric (fabricIndex : Nat)
  | persist (fabric : FabricObject)
  | persistFabrics
  /-- The node starts again on its storage. -/
  | restore

/-- The manager, and the indices that were added and not yet removed: a restart adds those
that are stored. -/
structure FabricRegistry where
  manager : FabricManager
  present : Set Nat

namespace FabricRegistry

open FabricManager

/-- A node that starts on an empty storage. -/
def new : FabricRegistry where
  manager := FabricManager.new [] none
  present := ∅

variable (state : FabricRegistry)

def next : FabricEvent → FabricRegistry
  | .addFabric fabric =>
    match state.manager.addFabric fabric with
    | .ok manager => { manager, present := insert fabric.fabricIndex state.present }
    | .error _ => state
  | .updateFabric fabric =>
    match state.manager.updateFabric fabric with
    | .ok manager => { state with manager }
    | .error _ => state
  | .remove fabric =>
    { manager := (state.manager.remove fabric).1
      present := state.present \ {fabric.fabricIndex} }
  | .revokeFabric fabricIndex =>
    { manager := (state.manager.revokeFabric fabricIndex).1
      present := state.present \ {fabricIndex} }
  | .persist fabric => { state with manager := state.manager.persist fabric }
  | .persistFabrics => { state with manager := state.manager.persistFabrics }
  | .restore =>
    match state.manager.restore with
    | .ok manager =>
      { manager, present := { index | index ∈ state.manager.storedIndices } }
    | .error _ => state

/-- The manager has the indices that were added and not yet removed. -/
def HasPresent : Prop :=
  ∀ fabricIndex, state.manager.has fabricIndex ↔ fabricIndex ∈ state.present

/-- The manager does not have the index, and where it had, what it has stored since lacks it
too. -/
def Removed (before after : FabricRegistry) (fabricIndex : Nat) : Prop :=
  after.manager.has fabricIndex = false ∧
    (before.manager.has fabricIndex → fabricIndex ∉ after.manager.storedIndices)

def InStep (event : FabricEvent) : Prop :=
  (next state event).HasPresent ∧
    match event with
    | .remove fabric => Removed state (next state event) fabric.fabricIndex
    | .revokeFabric fabricIndex => Removed state (next state event) fabricIndex
    | _ => True

/-- A fabric object that is removed has a remove callback of the manager: it did not come
to the manager by `updateFabric` alone. -/
def RemovesWired : FabricEvent → Prop
  | .remove fabric =>
    state.manager.has fabric.fabricIndex → state.manager.removeCallbacks fabric ≠ 0
  | .revokeFabric fabricIndex =>
    ∀ fabric, state.manager.fabrics.get fabricIndex = some fabric →
      state.manager.removeCallbacks fabric ≠ 0
  | _ => True

/-- What holds between the events. -/
structure Consistent (state : FabricRegistry) : Prop where
  hasPresent : state.HasPresent
  nodupStored : state.manager.storedIndices.Nodup

theorem consistent_new : new.Consistent where
  hasPresent := by
    intro fabricIndex
    exact iff_of_false Bool.false_ne_true (Set.notMem_empty fabricIndex)
  nodupStored := List.nodup_nil

section Steps

variable {state : FabricRegistry}

section

variable (consistent : state.Consistent)

include consistent

theorem Consistent.addFabric (fabric : FabricObject) :
    (next state (.addFabric fabric)).Consistent := by
  rw [next]
  by_cases present : state.manager.has fabric.fabricIndex
  · rw [FabricManager.addFabric, if_pos present]
    exact consistent
  · rw [FabricManager.addFabric, if_neg present]
    refine ⟨fun fabricIndex => ?_, consistent.nodupStored⟩
    rw [has_installCallbacks, has_setFabric, Set.mem_insert_iff, consistent.hasPresent fabricIndex]

theorem Consistent.updateFabric (fabric : FabricObject) :
    (next state (.updateFabric fabric)).Consistent := by
  rw [next]
  by_cases present : state.manager.has fabric.fabricIndex
  · rw [FabricManager.updateFabric, if_pos present]
    refine ⟨fun fabricIndex => ?_, nodup_storedIndices_persistFabrics _⟩
    rw [has_persistFabrics, has_setFabric, consistent.hasPresent fabricIndex]
    constructor
    · rintro (rfl | member)
      · exact (consistent.hasPresent _).mp present
      · exact member
    · exact .inr
  · rw [FabricManager.updateFabric, if_neg present]
    exact consistent

theorem Consistent.persistFabrics :
    (next state .persistFabrics).Consistent :=
  ⟨consistent.hasPresent, nodup_storedIndices_persistFabrics state.manager⟩

theorem Consistent.persist (fabric : FabricObject) :
    (next state (.persist fabric)).Consistent := by
  rw [next, FabricManager.persist]
  by_cases wired : state.manager.persistCallback fabric
  · rw [if_pos wired]
    exact consistent.persistFabrics
  · rw [if_neg wired]
    exact consistent

theorem Consistent.restore :
    (next state .restore).Consistent := by
  rcases exists_restore consistent.nodupStored with ⟨after, isAfter, sameStored, hasAfter⟩
  rw [next, isAfter]
  refine ⟨hasAfter, ?_⟩
  rw [storedIndices, sameStored]
  exact consistent.nodupStored

theorem Consistent.withoutAbsent {fabricIndex : Nat}
    (absent : state.manager.has fabricIndex = false) :
    let after : FabricRegistry := { state with present := state.present \ {fabricIndex} }
    after.Consistent ∧ Removed state after fabricIndex := by
  refine ⟨⟨fun other => ?_, consistent.nodupStored⟩, absent, fun wasPresent => ?_⟩
  · rw [consistent.hasPresent other]
    constructor
    · intro member
      refine ⟨member, ?_⟩
      rintro rfl
      rw [(consistent.hasPresent other).mpr member] at absent
      cases absent
    · exact And.left
  · rw [wasPresent] at absent
    cases absent

end

theorem removed_iff (consistent : state.Consistent) (fabric : FabricObject) :
    let after : FabricRegistry :=
      { manager := (state.manager.remove fabric).1
        present := state.present \ {fabric.fabricIndex} }
    (after.HasPresent ∧ Removed state after fabric.fabricIndex ↔
      (state.manager.has fabric.fabricIndex → state.manager.removeCallbacks fabric ≠ 0)) ∧
      ((state.manager.has fabric.fabricIndex → state.manager.removeCallbacks fabric ≠ 0) →
        after.Consistent) := by
  intro after
  by_cases present : state.manager.has fabric.fabricIndex
  · by_cases wired : state.manager.removeCallbacks fabric = 0
    · have unchanged : after.manager = state.manager := by
        rw [show after.manager = (state.manager.remove fabric).1 from rfl,
          remove_of_not_wired wired]
      refine ⟨iff_of_false ?_ (fun needs => needs present wired),
        fun needs => absurd wired (needs present)⟩
      rintro ⟨-, absent, -⟩
      rw [unchanged, present] at absent
      cases absent
    · have removal : after.manager = (state.manager.deleteFabric
          fabric.fabricIndex).persistFabrics := remove_of_wired present wired
      have hasPresent : after.HasPresent := by
        intro fabricIndex
        rw [removal, has_persistFabrics, has_deleteFabric, consistent.hasPresent fabricIndex]
        exact and_comm
      have absent : ¬after.manager.has fabric.fabricIndex = true := by
        rw [removal, has_persistFabrics, has_deleteFabric]
        exact fun both => both.1 rfl
      refine ⟨iff_of_true ⟨hasPresent, Bool.eq_false_iff.mpr absent, ?_⟩ (fun _ => wired),
        fun _ => ⟨hasPresent, ?_⟩⟩
      · intro _ member
        rw [removal, mem_storedIndices_persistFabrics, ← has_persistFabrics, ← removal] at member
        exact absent member
      · rw [removal]
        exact nodup_storedIndices_persistFabrics _
  · have needsNothing : state.manager.has fabric.fabricIndex →
        state.manager.removeCallbacks fabric ≠ 0 := fun isPresent => absurd isPresent present
    rw [Bool.not_eq_true] at present
    have kept := consistent.withoutAbsent present
    rw [show after = { state with present := state.present \ {fabric.fabricIndex} } by
      rw [← remove_of_not_has present]]
    exact ⟨iff_of_true ⟨kept.1.hasPresent, kept.2⟩ needsNothing, fun _ => kept.1⟩

theorem next_revokeFabric_of_get {fabricIndex : Nat} {fabric : FabricObject}
    (found : state.manager.fabrics.get fabricIndex = some fabric) :
    fabric.fabricIndex = fabricIndex ∧
      next state (.revokeFabric fabricIndex) = next state (.remove fabric) := by
  have isIndex := state.manager.index_of_get found
  refine ⟨isIndex, ?_⟩
  rw [next, next, FabricManager.revokeFabric, found, isIndex]

theorem step_spec (consistent : state.Consistent) (event : FabricEvent) :
    (InStep state event ↔ RemovesWired state event) ∧
      (RemovesWired state event → (next state event).Consistent) := by
  have kept : ∀ {event : FabricEvent}, (next state event).Consistent →
      ((next state event).HasPresent ∧ True ↔ True) ∧
        (True → (next state event).Consistent) :=
    fun after => ⟨iff_of_true ⟨after.hasPresent, trivial⟩ trivial, fun _ => after⟩
  cases event with
  | addFabric fabric => exact kept (consistent.addFabric fabric)
  | updateFabric fabric => exact kept (consistent.updateFabric fabric)
  | persist fabric => exact kept (consistent.persist fabric)
  | persistFabrics => exact kept consistent.persistFabrics
  | restore => exact kept consistent.restore
  | remove fabric => exact removed_iff consistent fabric
  | revokeFabric fabricIndex =>
    cases found : state.manager.fabrics.get fabricIndex with
    | none =>
      have absent := (state.manager.has_eq_false_iff fabricIndex).mpr found
      have kept := consistent.withoutAbsent absent
      have unchanged : next state (.revokeFabric fabricIndex) =
          { state with present := state.present \ {fabricIndex} } := by
        rw [next, FabricManager.revokeFabric, found]
      rw [InStep, unchanged]
      refine ⟨iff_of_true ⟨kept.1.hasPresent, kept.2⟩ ?_, fun _ => kept.1⟩
      intro fabric isFabric
      rw [found] at isFabric
      cases isFabric
    | some fabric =>
      rcases next_revokeFabric_of_get found with ⟨rfl, same⟩
      have present := (state.manager.has_iff _).mpr ⟨fabric, found⟩
      have wiredIff : RemovesWired state (.revokeFabric fabric.fabricIndex) ↔
          RemovesWired state (.remove fabric) := by
        rw [RemovesWired, RemovesWired, found]
        simp [present]
      rw [InStep, wiredIff, same]
      exact removed_iff consistent fabric

end Steps

/-- Along a run, the manager and its fabrics stay in step exactly as long as no object is
removed that came to the manager by `updateFabric` alone. -/
theorem staysInStep_iff (events : List FabricEvent) :
    Execution.Along next InStep new events ↔ Execution.Along next RemovesWired new events :=
  Execution.along_iff_along Consistent consistent_new
    (fun _ event wired consistent => (step_spec consistent event).2 wired)
    (fun _ event consistent => (step_spec consistent event).1)

/-- The fabric of index 1, as it was commissioned and with an updated certificate. -/
def commissioned (operationalCert : Bytes) (reference : Nat) : FabricObject where
  reference := reference
  config :=
    { fabricIndex := 1
      fabricId := 7
      nodeId := 5
      rootNodeId := 9
      rootPublicKey := [4]
      rootVendorId := 0xfff1
      rootCert := []
      identityProtectionKey := []
      intermediateCACert := none
      operationalCert
      label := "" }

/-- A fabric that was replaced by an update stays when it is removed. -/
theorem updated_fabric_stays :
    ¬∀ events : List FabricEvent, Execution.Along next InStep new events := by
  intro always
  have inStep := always [.addFabric (commissioned [1] 0),
    .updateFabric (commissioned [2] 1), .remove (commissioned [2] 1)]
  exact absurd inStep.2.2.1.2.1 (by decide +kernel)

end FabricRegistry

end MatterJs.Protocol
