import MatterJs.Protocol.FabricRemoval

/-! The search for a free fabric index: it goes round from where the last one ended, and
sees every index once. -/

namespace MatterJs.Protocol

open General

namespace FabricManager

def IsFabricIndex (fabricIndex : Nat) : Prop :=
  1 ≤ fabricIndex ∧ fabricIndex ≤ 254

def clear (_ : FabricManager) : FabricManager :=
  new [] none

/-- The next index to try is one that a fabric can have, and so is the stored one. -/
structure TriesFabricIndex (manager : FabricManager) : Prop where
  next : IsFabricIndex manager.nextFabricIndex
  stored : ∀ fabricIndex ∈ manager.storedNextFabricIndex, IsFabricIndex fabricIndex

/-! ## The rounds -/

def triedAfter (start rounds : Nat) : Nat :=
  (start - 1 + rounds) % 254 + 1

def indexBehind (fabricIndex : Nat) : Nat :=
  if 254 < fabricIndex + 1 then 1 else fabricIndex + 1

theorem isFabricIndex_one : IsFabricIndex 1 := ⟨Nat.le_refl 1, by decide⟩

theorem isFabricIndex_indexBehind (fabricIndex : Nat) :
    IsFabricIndex (indexBehind fabricIndex) := by
  unfold IsFabricIndex indexBehind
  split <;> omega

theorem triedAfter_zero {start : Nat} (isIndex : IsFabricIndex start) :
    triedAfter start 0 = start := by
  unfold IsFabricIndex at isIndex
  unfold triedAfter
  omega

theorem triedAfter_indexBehind {start : Nat} (isIndex : IsFabricIndex start) (rounds : Nat) :
    triedAfter (indexBehind start) rounds = triedAfter start (rounds + 1) := by
  unfold IsFabricIndex at isIndex
  unfold triedAfter indexBehind
  split <;> omega

theorem exists_triedAfter {start fabricIndex : Nat} (isStart : IsFabricIndex start)
    (isIndex : IsFabricIndex fabricIndex) :
    ∃ rounds < 254, triedAfter start rounds = fabricIndex := by
  unfold IsFabricIndex at isStart isIndex
  refine ⟨(fabricIndex + 254 - start) % 254, Nat.mod_lt _ (by decide), ?_⟩
  unfold triedAfter
  omega

theorem allocate_cases (rounds : Nat) {manager : FabricManager} (tries : manager.TriesFabricIndex) :
    (∃ fabricIndex nextFabricIndex, allocate rounds manager =
        .ok (fabricIndex, { manager with nextFabricIndex }) ∧
      IsFabricIndex fabricIndex ∧ manager.has fabricIndex = false ∧
      IsFabricIndex nextFabricIndex) ∨
    (∃ error, allocate rounds manager = .error error) ∧
      ∀ round < rounds, manager.has (triedAfter manager.nextFabricIndex round) := by
  induction rounds generalizing manager with
  | zero => exact .inr ⟨⟨_, rfl⟩, nofun⟩
  | succ rounds induction =>
    have tried := allocate.eq_2 manager rounds
    have nextIndex := isFabricIndex_indexBehind manager.nextFabricIndex
    cases used : manager.has manager.nextFabricIndex with
    | false =>
      refine .inl ⟨manager.nextFabricIndex, indexBehind manager.nextFabricIndex, ?_,
        tries.next, used, nextIndex⟩
      rw [tried, used]
      rfl
    | true =>
      rw [used] at tried
      have nextTries : TriesFabricIndex
          { manager with nextFabricIndex := indexBehind manager.nextFabricIndex } :=
        ⟨nextIndex, tries.stored⟩
      rcases induction nextTries with
        ⟨fabricIndex, nextFabricIndex, found, rest⟩ | ⟨⟨error, fails⟩, inUse⟩
      · exact .inl ⟨fabricIndex, nextFabricIndex, tried.trans found, rest⟩
      · refine .inr ⟨⟨error, tried.trans fails⟩, ?_⟩
        intro round inside
        cases round with
        | zero => rwa [triedAfter_zero tries.next]
        | succ round =>
          have earlier := inUse round (by omega)
          rwa [triedAfter_indexBehind tries.next] at earlier

theorem allocate_firstFree {rounds : Nat} {manager after : FabricManager} {fabricIndex : Nat}
    (isIndex : IsFabricIndex manager.nextFabricIndex)
    (allocates : allocate rounds manager = .ok (fabricIndex, after)) :
    ∃ round < rounds, fabricIndex = triedAfter manager.nextFabricIndex round ∧
      manager.has fabricIndex = false ∧
      (∀ earlier < round, manager.has (triedAfter manager.nextFabricIndex earlier) = true) ∧
      after = { manager with nextFabricIndex := indexBehind fabricIndex } := by
  induction rounds generalizing manager with
  | zero => cases allocates
  | succ rounds induction =>
    rw [allocate] at allocates
    split at allocates
    next used =>
      rcases induction (isFabricIndex_indexBehind _) allocates with
        ⟨round, inside, isTried, free, inUse, isAfter⟩
      refine ⟨round + 1, by omega, isTried.trans (triedAfter_indexBehind isIndex round), free,
        fun earlier before => ?_, isAfter⟩
      cases earlier with
      | zero => rwa [triedAfter_zero isIndex]
      | succ earlier =>
        rw [← triedAfter_indexBehind isIndex]
        exact inUse earlier (by omega)
    next notUsed =>
      cases allocates
      exact ⟨0, by omega, (triedAfter_zero isIndex).symm, Bool.eq_false_iff.mpr notUsed, by omega,
        rfl⟩

/-! ## What the other operations do to the next index -/

theorem TriesFabricIndex.persistFabrics {manager : FabricManager}
    (tries : manager.TriesFabricIndex) : manager.persistFabrics.TriesFabricIndex := by
  refine ⟨tries.next, ?_⟩
  intro fabricIndex isStored
  cases isStored
  exact tries.next

theorem TriesFabricIndex.removeFabric {manager after : FabricManager}
    (tries : manager.TriesFabricIndex) {fabricIndex : Nat}
    (removes : manager.removeFabric fabricIndex = .ok after) : after.TriesFabricIndex := by
  unfold FabricManager.removeFabric at removes
  split at removes
  · cases removes
  · cases removes
    exact TriesFabricIndex.persistFabrics ⟨tries.next, tries.stored⟩

theorem TriesFabricIndex.remove {manager : FabricManager} (tries : manager.TriesFabricIndex)
    (fabric : FabricObject) : (manager.remove fabric).1.TriesFabricIndex := by
  unfold FabricManager.remove
  generalize manager.removeCallbacks fabric = callbacks
  induction callbacks generalizing manager with
  | zero => exact tries
  | succ callbacks induction =>
    rw [runRemoveCallbacks]
    cases removes : manager.removeFabric fabric.fabricIndex with
    | ok after => exact induction (tries.removeFabric removes)
    | error error => exact tries

theorem foldlM_addFabric_next {fabrics : List FabricObject} {manager after : FabricManager}
    (adds : fabrics.foldlM addFabric manager = .ok after) :
    after.nextFabricIndex = manager.nextFabricIndex ∧
      after.storedNextFabricIndex = manager.storedNextFabricIndex := by
  induction fabrics generalizing manager with
  | nil =>
    cases adds
    exact ⟨rfl, rfl⟩
  | cons fabric fabrics induction =>
    rw [List.foldlM_cons, addFabric] at adds
    split at adds
    · cases adds
    · have later : fabrics.foldlM addFabric
          ((manager.setFabric fabric).installCallbacks fabric) = .ok after := adds
      have same := induction later
      exact same

theorem TriesFabricIndex.restore {manager after : FabricManager}
    (tries : manager.TriesFabricIndex) (restores : manager.restore = .ok after) :
    after.TriesFabricIndex := by
  unfold FabricManager.restore at restores
  cases started : (createFabrics 0 manager.storedFabrics).foldlM addFabric
      (new manager.storedFabrics manager.storedNextFabricIndex) with
  | error error =>
    rw [started] at restores
    cases restores
  | ok restarted =>
    rcases foldlM_addFabric_next started with ⟨sameNext, sameStored⟩
    rw [started] at restores
    cases restores
    refine ⟨?_, ?_⟩
    · change IsFabricIndex (manager.storedNextFabricIndex.getD restarted.nextFabricIndex)
      cases stored : manager.storedNextFabricIndex with
      | none =>
        rw [sameNext]
        exact isFabricIndex_one
      | some fabricIndex => exact tries.stored fabricIndex stored
    · intro fabricIndex isStored
      exact tries.stored fabricIndex (sameStored ▸ isStored)

end FabricManager

/-- What happens to the fabrics of a node, and the search for a free index. -/
inductive FabricIndexEvent where
  | fabric (event : FabricEvent)
  | allocateFabricIndex
  | clear

namespace FabricRegistry

open FabricManager

def step (state : FabricRegistry) : FabricIndexEvent → FabricRegistry
  | .fabric event => state.next event
  | .allocateFabricIndex =>
    match state.manager.allocateFabricIndex with
    | .ok (_, manager) => { state with manager }
    | .error _ => state
  | .clear => { manager := state.manager.clear, present := ∅ }

theorem triesFabricIndex_next {state : FabricRegistry} (tries : state.manager.TriesFabricIndex)
    (event : FabricEvent) : (state.next event).manager.TriesFabricIndex := by
  cases event with
  | addFabric fabric =>
    simp only [next, FabricManager.addFabric]
    split
    · rename_i added
      split at added
      · cases added
      · cases added
        exact ⟨tries.next, tries.stored⟩
    · exact tries
  | updateFabric fabric =>
    simp only [next, FabricManager.updateFabric]
    split
    · rename_i updated
      split at updated
      · cases updated
        exact TriesFabricIndex.persistFabrics ⟨tries.next, tries.stored⟩
      · cases updated
    · exact tries
  | remove fabric => exact tries.remove fabric
  | revokeFabric fabricIndex =>
    simp only [next, FabricManager.revokeFabric]
    split
    · exact tries
    · exact tries.remove _
  | persist fabric =>
    simp only [next, FabricManager.persist]
    split
    · exact tries.persistFabrics
    · exact tries
  | persistFabrics => exact tries.persistFabrics
  | restore =>
    simp only [next]
    split
    · rename_i restored
      exact tries.restore restored
    · exact tries

theorem triesFabricIndex_new : new.manager.TriesFabricIndex :=
  ⟨isFabricIndex_one, nofun⟩

theorem triesFabricIndex_step {state : FabricRegistry} (event : FabricIndexEvent)
    (tries : state.manager.TriesFabricIndex) : (state.step event).manager.TriesFabricIndex := by
  cases event with
  | fabric event => exact triesFabricIndex_next tries event
  | allocateFabricIndex =>
    simp only [step, allocateFabricIndex]
    rcases allocate_cases 254 tries with ⟨_, nextIndex, found, _, _, isNext⟩ | ⟨⟨_, fails⟩, _⟩
    · rw [found]
      exact ⟨isNext, tries.stored⟩
    · rw [fails]
      exact tries
  | clear => exact triesFabricIndex_new

/-- After any history, a free index is found, unless all 254 are in use. -/
theorem allocateFabricIndex_free (events : List FabricIndexEvent) :
    let manager := (Execution.run step new events).manager
    (∃ fabricIndex after, manager.allocateFabricIndex = .ok (fabricIndex, after) ∧
      IsFabricIndex fabricIndex ∧ manager.has fabricIndex = false ∧
      after.fabrics = manager.fabrics) ∨
    (∃ error, manager.allocateFabricIndex = .error error) ∧
      ∀ fabricIndex, IsFabricIndex fabricIndex → manager.has fabricIndex := by
  intro manager
  have tries : manager.TriesFabricIndex :=
    Execution.run_invariant step (fun state => state.manager.TriesFabricIndex)
      (fun _ event tries => triesFabricIndex_step event tries) triesFabricIndex_new events
  rcases allocate_cases 254 tries with ⟨fabricIndex, _, found, isIndex, free, _⟩ | ⟨fails, inUse⟩
  · exact .inl ⟨fabricIndex, _, found, isIndex, free, rfl⟩
  · refine .inr ⟨fails, ?_⟩
    intro fabricIndex isIndex
    rcases exists_triedAfter tries.next isIndex with ⟨round, inside, isTried⟩
    rw [← isTried]
    exact inUse round inside

end FabricRegistry

end MatterJs.Protocol
