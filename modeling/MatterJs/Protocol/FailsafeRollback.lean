import MatterJs.Foundation.Execution
import MatterJs.Protocol.FailsafeContext

/-! When the rollback of an expired fail-safe takes all of its steps. -/

namespace MatterJs.Protocol

open General

universe u

namespace FabricManager

variable {manager : FabricManager} {fabricIndex : Nat}

theorem remove_of_wiredOnce {fabric : FabricObject} (present : manager.has fabric.fabricIndex)
    (once : manager.removeCallbacks fabric = 1) :
    manager.remove fabric = ((manager.deleteFabric fabric.fabricIndex).persistFabrics, .ok ()) := by
  rw [remove, once, runRemoveCallbacks, removeFabric_of_has present]
  rfl

theorem has_of_get {fabric : FabricObject} (found : manager.fabrics.get fabricIndex = some fabric) :
    manager.has fabric.fabricIndex := by
  rw [manager.index_of_get found]
  exact (manager.has_iff fabricIndex).mpr ⟨fabric, found⟩

theorem runRemoveCallbacks_keeps {callbacks : Nat} :
    (runRemoveCallbacks fabricIndex callbacks manager).1.removeCallbacks = manager.removeCallbacks ∧
      ∀ index fabric,
        (runRemoveCallbacks fabricIndex callbacks manager).1.fabrics.get index = some fabric →
          manager.fabrics.get index = some fabric := by
  induction callbacks generalizing manager with
  | zero => exact ⟨rfl, fun _ _ found => found⟩
  | succ callbacks induction =>
    rw [runRemoveCallbacks]
    by_cases present : manager.has fabricIndex
    · rw [removeFabric_of_has present]
      refine ⟨induction.1, fun index fabric found => ?_⟩
      have later := induction.2 index fabric found
      by_cases same : index = fabricIndex
      · rw [same] at later
        rw [show (manager.deleteFabric fabricIndex).persistFabrics.fabrics.get fabricIndex =
          none from OrderedMap.get_delete_self _ _] at later
        cases later
      · rwa [show (manager.deleteFabric fabricIndex).persistFabrics.fabrics.get index =
          manager.fabrics.get index from OrderedMap.get_delete_of_ne _ same] at later
    · rcases removeFabric_of_not_has (Bool.not_eq_true _ ▸ present) with ⟨error, fails⟩
      rw [fails]
      exact ⟨rfl, fun _ _ found => found⟩

theorem remove_keeps (manager : FabricManager) (removed : FabricObject) :
    (manager.remove removed).1.removeCallbacks = manager.removeCallbacks ∧
      ∀ index fabric, (manager.remove removed).1.fabrics.get index = some fabric →
        manager.fabrics.get index = some fabric :=
  runRemoveCallbacks_keeps

theorem allocate_eq_ok {rounds : Nat} {after : FabricManager}
    (allocates : allocate rounds manager = .ok (fabricIndex, after)) :
    after.fabrics = manager.fabrics ∧ after.has fabricIndex = false := by
  induction rounds generalizing manager with
  | zero => cases allocates
  | succ rounds induction =>
    rw [allocate] at allocates
    by_cases taken : manager.has manager.nextFabricIndex
    · rw [if_pos taken] at allocates
      have later := induction allocates
      exact later
    · rw [if_neg taken] at allocates
      cases allocates
      exact ⟨rfl, Bool.not_eq_true _ ▸ taken⟩

end FabricManager

namespace FailsafeContext

variable {Networks : Type u}

/-- What the rollback leaves: the added fabric is gone, the fabric to be updated is the one
from before when it is there at all, and everything else is as the steps say. -/
structure RolledBack (before after : FailsafeContext Networks) : Prop where
  added : before.forUpdateNoc ≠ some true → ∀ fabricIndex,
    before.fabricIndex = some fabricIndex → after.fabrics.has fabricIndex = false
  updated : before.forUpdateNoc = some true → ∀ fabric, before.associatedFabric = some fabric →
    before.fabrics.has fabric.fabricIndex →
      after.fabrics.fabrics.get fabric.fabricIndex = some fabric
  paseSession : after.paseSession = none
  networks : after.networks = before.storedNetworks
  breadcrumb : after.breadcrumb = 0

variable (context : FailsafeContext Networks)

/-- The rollback takes all of its steps without throwing. -/
def RollsBack : Prop :=
  context.rollback.2 = .ok () ∧ RolledBack context context.rollback.1

/-- The fabric that was built by `addNoc`, or the one that a request for an update was made
for, is in the fabric manager. -/
def FabricThere : Prop :=
  (context.forUpdateNoc ≠ some true → ∀ fabricIndex,
      context.fabricIndex = some fabricIndex → context.fabrics.has fabricIndex) ∧
    (context.forUpdateNoc = some true → ∀ fabric, context.associatedFabric = some fabric →
      context.fabrics.has fabric.fabricIndex)

def WiredOnce : Prop :=
  context.forUpdateNoc ≠ some true → ∀ fabricIndex fabric,
    context.fabricIndex = some fabricIndex →
      context.fabrics.fabrics.get fabricIndex = some fabric →
        context.fabrics.removeCallbacks fabric = 1

theorem wiredOnce_of_not_built {context : FailsafeContext Networks}
    (notBuilt : context.fabricIndex = none) : context.WiredOnce := by
  intro _ fabricIndex fabric isBuilt
  rw [notBuilt] at isBuilt
  cases isBuilt

/-! ## The steps of the rollback -/

section Steps

variable {context : FailsafeContext Networks}

variable {fabric : FabricObject}

theorem removeFabricObject_of_wiredOnce (present : context.fabrics.has fabric.fabricIndex)
    (once : context.fabrics.removeCallbacks fabric = 1) :
    context.removeFabricObject fabric =
      ({ context with
        fabrics := (context.fabrics.deleteFabric fabric.fabricIndex).persistFabrics
        caseSessions := context.caseSessions.filter fun session => session.fabric ≠ fabric },
        .ok ()) := by
  rw [removeFabricObject, FabricManager.remove_of_wiredOnce present once]

theorem has_deleteFabric_self (manager : FabricManager) (fabricIndex : Nat) :
    (manager.deleteFabric fabricIndex).persistFabrics.has fabricIndex = false := by
  rw [FabricManager.has_persistFabrics, Bool.eq_false_iff, ne_eq, FabricManager.has_deleteFabric]
  exact fun both => both.1 rfl

theorem takeSteps_of_not_there (notUpdate : context.forUpdateNoc ≠ some true)
    (notThere : context.fabricIndex.bind context.fabrics.fabrics.get = none) :
    context.takeSteps =
      ({ context with
        paseSession := none
        networks := context.storedNetworks
        breadcrumb := 0 }, .ok ()) := by
  have noSession : context.removePaseSession.removeCaseSession = context.removePaseSession := by
    rw [removeCaseSession, show context.removePaseSession.fabricIndex.bind
      context.removePaseSession.fabrics.fabrics.get = none from notThere]
  have noRestore : context.removePaseSession.restoreNetworkState.restoreFabric =
      (context.removePaseSession.restoreNetworkState, .ok ()) := by
    rw [restoreFabric]
    cases context.removePaseSession.restoreNetworkState.associatedFabric with
    | none => rfl
    | some fabric => exact if_neg notUpdate
  have noRevoke : ∀ after : FailsafeContext Networks, after.revokeFabric false =
      (after, .ok ()) := fun after => if_neg (fun both => Bool.false_ne_true both.2)
  have hadNone : (context.removePaseSession.fabricIndex.bind
      context.removePaseSession.fabrics.fabrics.get).isSome = false := by
    rw [show context.removePaseSession.fabricIndex.bind
      context.removePaseSession.fabrics.fabrics.get = none from notThere]
    rfl
  simp only [takeSteps, noSession, noRestore, hadNone, noRevoke]
  rfl

theorem restoreFabric_of_update (isUpdate : context.forUpdateNoc = some true)
    (isFabric : context.associatedFabric = some fabric) :
    context.restoreFabric = context.updateFabric fabric := by
  rw [restoreFabric, isFabric]
  exact if_pos isUpdate

theorem updateFabric_of_has (present : context.fabrics.has fabric.fabricIndex) :
    context.updateFabric fabric =
      ({ context with fabrics := (context.fabrics.setFabric fabric).persistFabrics },
        .ok ()) := by
  rw [updateFabric, FabricManager.updateFabric, if_pos present]

theorem updateFabric_of_not_has (absent : ¬context.fabrics.has fabric.fabricIndex) :
    ∃ error, context.updateFabric fabric = (context, .error error) := by
  rw [updateFabric, FabricManager.updateFabric, if_neg absent]
  exact ⟨_, rfl⟩

theorem forUpdateNoc_restoreFabric (context : FailsafeContext Networks) :
    context.restoreFabric.1.forUpdateNoc = context.forUpdateNoc := by
  rw [restoreFabric]
  cases context.associatedFabric with
  | none => rfl
  | some fabric =>
    by_cases isUpdate : context.forUpdateNoc = some true
    · simp only [if_pos isUpdate, updateFabric]
      cases context.fabrics.updateFabric fabric <;> rfl
    · simp [if_neg isUpdate]

/-- What the steps before the fabric's leave. -/
def reset (context : FailsafeContext Networks) (caseSessions : List OpenCaseSession) :
    FailsafeContext Networks :=
  { context with paseSession := none, caseSessions, networks := context.storedNetworks }

theorem takeSteps_of_update (isUpdate : context.forUpdateNoc = some true) :
    ∃ caseSessions, context.takeSteps =
      match (context.reset caseSessions).restoreFabric with
      | (after, .error error) => (after, .error error)
      | (after, .ok _) => ({ after with breadcrumb := 0 }, .ok ()) := by
  have sessions : context.removePaseSession.removeCaseSession =
      { context.removePaseSession with
        caseSessions := context.removePaseSession.removeCaseSession.caseSessions } := by
    rw [removeCaseSession]
    cases context.removePaseSession.fabricIndex.bind
      context.removePaseSession.fabrics.fabrics.get <;> rfl
  refine ⟨context.removePaseSession.removeCaseSession.caseSessions, ?_⟩
  have isReset : context.removePaseSession.removeCaseSession.restoreNetworkState =
      context.reset context.removePaseSession.removeCaseSession.caseSessions := by
    rw [sessions]
    rfl
  have stillUpdate := forUpdateNoc_restoreFabric
    context.removePaseSession.removeCaseSession.restoreNetworkState
  rw [isReset] at stillUpdate
  simp only [takeSteps, isReset]
  generalize @restoreFabric Networks _ = restored at stillUpdate ⊢
  rcases restored with ⟨after, _ | _⟩
  · rfl
  · have noRevoke : ∀ hadFabric, after.revokeFabric hadFabric = (after, .ok ()) :=
      fun hadFabric => if_neg (fun both => both.1 (stillUpdate.trans isUpdate))
    simp only [noRevoke]
    rfl

theorem rollsBack_of_not_built (notBuilt : context.fabricIndex = none)
    (notUpdate : context.forUpdateNoc ≠ some true) : context.RollsBack := by
  have noFabric : context.fabricIndex.bind context.fabrics.fabrics.get = none := by
    rw [notBuilt]
    rfl
  rw [RollsBack, rollback, revokeBuiltFabric, notBuilt]
  change (context.takeSteps).2 = _ ∧ RolledBack context (context.takeSteps).1
  rw [takeSteps_of_not_there notUpdate noFabric]
  refine ⟨rfl, fun _ fabricIndex isBuilt => ?_, fun isUpdate => absurd isUpdate notUpdate, rfl,
    rfl, rfl⟩
  rw [notBuilt] at isBuilt
  cases isBuilt

theorem rollsBack_of_there (notUpdate : context.forUpdateNoc ≠ some true) {fabricIndex : Nat}
    (isBuilt : context.fabricIndex = some fabricIndex)
    (found : context.fabrics.fabrics.get fabricIndex = some fabric)
    (once : context.fabrics.removeCallbacks fabric = 1) : context.RollsBack := by
  have isIndex := context.fabrics.index_of_get found
  have removed := removeFabricObject_of_wiredOnce (FabricManager.has_of_get found) once
  have gone := has_deleteFabric_self context.fabrics fabric.fabricIndex
  rw [isIndex] at removed gone
  have absent := (FabricManager.has_eq_false_iff _ _).mp gone
  rw [RollsBack, rollback, revokeBuiltFabric, isBuilt]
  simp only [if_neg notUpdate, found, removed]
  have steps := @takeSteps_of_not_there Networks
    { context with
      fabrics := (context.fabrics.deleteFabric fabricIndex).persistFabrics
      caseSessions := context.caseSessions.filter fun session => session.fabric ≠ fabric }
    notUpdate (by
      change context.fabricIndex.bind _ = none
      rw [isBuilt]
      exact absent)
  rw [steps]
  refine ⟨rfl, fun _ other isOther => ?_, fun isUpdate => absurd isUpdate notUpdate, rfl, rfl, rfl⟩
  rw [isBuilt, Option.some.injEq] at isOther
  rw [← isOther]
  exact gone

theorem not_rollsBack_of_not_there (notUpdate : context.forUpdateNoc ≠ some true)
    {fabricIndex : Nat} (isBuilt : context.fabricIndex = some fabricIndex)
    (absent : context.fabrics.fabrics.get fabricIndex = none) : ¬context.RollsBack := by
  intro rollsBack
  have ends := rollsBack.1
  rw [rollback, revokeBuiltFabric, isBuilt] at ends
  simp only [if_neg notUpdate, absent] at ends
  cases ends

theorem rollsBack_of_update (isUpdate : context.forUpdateNoc = some true) :
    context.RollsBack ↔ ∀ fabric, context.associatedFabric = some fabric →
      context.fabrics.has fabric.fabricIndex := by
  have noRevoke : context.revokeBuiltFabric = (context, .ok ()) := by
    rw [revokeBuiltFabric]
    cases context.fabricIndex with
    | none => rfl
    | some fabricIndex => exact if_pos isUpdate
  rcases takeSteps_of_update isUpdate with ⟨caseSessions, takes⟩
  rw [RollsBack, rollback, noRevoke]
  simp only [takes]
  have sameFabric : (context.reset caseSessions).associatedFabric = context.associatedFabric :=
    rfl
  cases isAssociated : context.associatedFabric with
  | none =>
    rw [restoreFabric, sameFabric, isAssociated]
    refine iff_of_true ⟨rfl, fun notUpdate => absurd isUpdate notUpdate, ?_, rfl, rfl, rfl⟩ nofun
    intro _ fabric isFabric
    rw [isAssociated] at isFabric
    cases isFabric
  | some associated =>
    have stillUpdate : (context.reset caseSessions).forUpdateNoc = some true := isUpdate
    rw [restoreFabric_of_update stillUpdate (sameFabric.trans isAssociated)]
    by_cases present : (context.reset caseSessions).fabrics.has associated.fabricIndex
    · rw [updateFabric_of_has present]
      refine iff_of_true ⟨rfl, fun notUpdate => absurd isUpdate notUpdate, ?_, rfl, rfl, rfl⟩ ?_
      · intro _ fabric isFabric _
        rw [isAssociated, Option.some.injEq] at isFabric
        rw [← isFabric]
        exact OrderedMap.get_set_self _ _ _
      · intro fabric isFabric
        rw [Option.some.injEq] at isFabric
        rwa [← isFabric]
    · rcases updateFabric_of_not_has present with ⟨error, fails⟩
      rw [fails]
      refine iff_of_false (fun both => nomatch both.1) ?_
      intro all
      exact present (all associated rfl)

theorem rollsBack_iff (once : context.WiredOnce) : context.RollsBack ↔ context.FabricThere := by
  by_cases isUpdate : context.forUpdateNoc = some true
  · rw [rollsBack_of_update isUpdate, FabricThere]
    exact ⟨fun all => ⟨fun notUpdate => absurd isUpdate notUpdate, fun _ => all⟩,
      fun both => both.2 isUpdate⟩
  · cases isBuilt : context.fabricIndex with
    | none =>
      refine iff_of_true (rollsBack_of_not_built isBuilt isUpdate)
        ⟨fun _ fabricIndex isIndex => ?_, fun update => absurd update isUpdate⟩
      rw [isBuilt] at isIndex
      cases isIndex
    | some fabricIndex =>
      cases found : context.fabrics.fabrics.get fabricIndex with
      | none =>
        refine iff_of_false (not_rollsBack_of_not_there isUpdate isBuilt found) ?_
        intro there
        have present := there.1 isUpdate fabricIndex isBuilt
        rcases (context.fabrics.has_iff fabricIndex).mp present with ⟨fabric, isThere⟩
        rw [found] at isThere
        cases isThere
      | some fabric =>
        refine iff_of_true (rollsBack_of_there isUpdate isBuilt found
          (once isUpdate fabricIndex fabric isBuilt found))
          ⟨fun _ other isOther => ?_, fun update => absurd update isUpdate⟩
        rw [isBuilt, Option.some.injEq] at isOther
        rw [← isOther]
        exact (context.fabrics.has_iff fabricIndex).mpr ⟨fabric, found⟩

end Steps

/-! ## Runs under the context -/

section Runs

variable {certificates : Certificates} {context : FailsafeContext Networks}

/-- Only the commands that build a fabric change a context that has not built one into one
that has. -/
theorem wiredOnce_addTrustedRootCertificate (once : context.WiredOnce) (rootCaCertificate : Bytes) :
    (context.addTrustedRootCertificate certificates rootCaCertificate).1.WiredOnce := by
  rw [addTrustedRootCertificate]
  by_cases isSet : context.rootCertSet
  · rw [if_pos isSet]
    exact once
  · rw [if_neg isSet]
    by_cases built : context.fabricIndex.isSome
    · rw [if_pos built]
      exact once
    · rw [if_neg built]
      rw [Option.not_isSome_iff_eq_none] at built
      cases sets : context.fabricBuilder.setRootCert certificates rootCaCertificate with
      | error error => exact once
      | ok builder =>
        apply wiredOnce_of_not_built
        exact (FabricBuilder.fabricIndex_setRootCert sets).trans built

theorem wiredOnce_csrRequest (once : context.WiredOnce) (session : CommandSession)
    (csrNonce : Bytes) (isForUpdateNoc : Bool) :
    (context.csrRequest session csrNonce isForUpdateNoc).1.WiredOnce := by
  rw [csrRequest]
  by_cases invalid : csrNonce.length ≠ 32
  · rw [if_pos invalid]
    exact once
  · rw [if_neg invalid]
    by_cases onPase : (isForUpdateNoc && session.isPase) = true
    · rw [if_pos onPase]
      exact once
    · rw [if_neg onPase]
      by_cases built : context.fabricIndex.isSome
      · rw [if_pos built]
        exact once
      · rw [if_neg built]
        rw [Option.not_isSome_iff_eq_none] at built
        exact wiredOnce_of_not_built built

theorem fabricIndex_buildFabric_error (notBuilt : context.fabricIndex = none)
    {nocData : NocData} {after : FailsafeContext Networks} {error : MatterError}
    (fails : context.buildFabric certificates nocData = (after, .error error)) :
    after.fabricIndex = none := by
  rw [buildFabric] at fails
  split at fails
  · cases fails
    exact notBuilt
  · cases sets : context.fabricBuilder.setOperationalCert certificates nocData.nocValue
        nocData.icacValue with
    | error error =>
      rw [sets] at fails
      cases fails
      exact notBuilt
    | ok builder =>
      have stillNone : builder.fabricIndex = none :=
        (FabricBuilder.fabricIndex_setOperationalCert sets).trans notBuilt
      simp only [sets] at fails
      split at fails
      · cases fails
        exact stillNone
      · split at fails
        · cases fails
          exact stillNone
        · split at fails
          · cases fails
            exact stillNone
          · cases fails

theorem buildFabric_ok {nocData : NocData} {after : FailsafeContext Networks}
    {fabric : FabricObject}
    (builds : context.buildFabric certificates nocData = (after, .ok fabric)) :
    after.fabricIndex = some fabric.fabricIndex ∧ after.fabrics.removeCallbacks fabric = 0 ∧
      after.fabrics.has fabric.fabricIndex = false ∧
        after.forUpdateNoc = context.forUpdateNoc := by
  rw [buildFabric] at builds
  split at builds
  · cases builds
  · split at builds
    · cases builds
    · split at builds
      · cases builds
      · simp only at builds
        split at builds
        · cases builds
        next index fabrics allocates =>
          split at builds
          · cases builds
          next config builder isBuilt =>
            cases builds
            rcases FabricBuilder.build_eq_ok isBuilt with ⟨_, isIndex, isIndexAfter⟩
            rcases FabricManager.allocate_eq_ok allocates with ⟨_, absent⟩
            rw [← isIndex] at isIndexAfter absent
            exact ⟨isIndexAfter, Function.update_self .., absent, rfl⟩

theorem wiredOnce_removeFabricObject (once : context.WiredOnce) (fabric : FabricObject) :
    (context.removeFabricObject fabric).1.WiredOnce := by
  have keeps := context.fabrics.remove_keeps fabric
  rw [removeFabricObject]
  generalize context.fabrics.remove fabric = removal at keeps ⊢
  rcases removal with ⟨fabrics, _ | _⟩ <;>
    · intro notUpdate fabricIndex other isBuilt found
      rw [keeps.1]
      exact once notUpdate fabricIndex other isBuilt (keeps.2 fabricIndex other found)

theorem wiredOnce_addBuiltFabric {fabric : FabricObject}
    (isBuilt : context.fabricIndex = some fabric.fabricIndex)
    (unwired : context.fabrics.removeCallbacks fabric = 0)
    (absent : context.fabrics.has fabric.fabricIndex = false) (session : CommandSession)
    (listedInState : Bool) :
    (context.addBuiltFabric session fabric listedInState).1.WiredOnce := by
  rw [addBuiltFabric, FabricManager.addFabric, if_neg (Bool.eq_false_iff.mp absent)]
  have added : WiredOnce { context with
      fabrics := (context.fabrics.setFabric fabric).installCallbacks fabric
      associatedFabric := some fabric } := by
    intro _ fabricIndex other isIndex found
    have same : fabric.fabricIndex = fabricIndex :=
      Option.some.inj (isBuilt.symm.trans isIndex)
    have isOther : (context.fabrics.fabrics.set fabric.fabricIndex fabric).get fabricIndex =
      some other := found
    rw [same, OrderedMap.get_set_self, Option.some.injEq] at isOther
    rw [← isOther]
    change Function.update context.fabrics.removeCallbacks fabric
      (context.fabrics.removeCallbacks fabric + 1) fabric = 1
    rw [Function.update_self, unwired]
  have removed := wiredOnce_removeFabricObject added fabric
  simp only
  generalize @removeFabricObject Networks _ fabric = outcome at removed ⊢
  split
  · rcases outcome with ⟨after, _ | _⟩ <;> exact removed
  · split
    · rcases outcome with ⟨after, _ | _⟩ <;> exact removed
    · exact added

theorem wiredOnce_addNoc (once : context.WiredOnce) (session : CommandSession)
    (nocData : NocData) (tableFull listedInState : Bool) :
    (context.addNoc certificates session nocData tableFull listedInState).1.WiredOnce := by
  rw [addNoc]
  by_cases built : context.fabricIndex.isSome
  · rw [if_pos built]
    exact once
  · rw [if_neg built]
    rw [Option.not_isSome_iff_eq_none] at built
    split
    · exact once
    · split
      · exact once
      · split
        · exact once
        · split
          · exact once
          · split
            next after error fails =>
              exact wiredOnce_of_not_built (fabricIndex_buildFabric_error built fails)
            next after fabric builds =>
              rcases buildFabric_ok builds with ⟨isBuilt, unwired, absent, _⟩
              exact wiredOnce_addBuiltFabric isBuilt unwired absent session listedInState

theorem forUpdateNoc_buildUpdatedFabric (nocValue : Bytes) (icacValue : Option Bytes) :
    (context.buildUpdatedFabric certificates nocValue icacValue).1.forUpdateNoc =
      context.forUpdateNoc := by
  rw [buildUpdatedFabric]
  split
  · rfl
  · dsimp only
    split
    · rfl
    · split <;> rfl

theorem forUpdateNoc_updateFabric (fabric : FabricObject) :
    (context.updateFabric fabric).1.forUpdateNoc = context.forUpdateNoc := by
  rw [updateFabric]
  split <;> rfl

theorem wiredOnce_of_update (isUpdate : context.forUpdateNoc = some true) :
    context.WiredOnce := fun notUpdate => absurd isUpdate notUpdate

theorem wiredOnce_updateNoc (once : context.WiredOnce) (session : CommandSession)
    (nocValue : Bytes) (icacValue : Option Bytes) :
    (context.updateNoc certificates session nocValue icacValue).1.WiredOnce := by
  rw [updateNoc]
  by_cases built : context.fabricIndex.isSome
  · rw [if_pos built]
    exact once
  · rw [if_neg built]
    by_cases forAdd : context.forUpdateNoc = some false
    · rw [if_pos forAdd]
      exact once
    · rw [if_neg forAdd]
      by_cases noCsr : context.rootCertSet ∨ context.forUpdateNoc = none
      · rw [if_pos noCsr]
        exact once
      · rw [if_neg noCsr]
        rw [not_or] at noCsr
        -- what is left is a request for an update, and nothing behind it changes that
        have isUpdate : context.forUpdateNoc = some true := by
          rcases h : context.forUpdateNoc with _ | _ | _
          · exact absurd h noCsr.2
          · exact absurd h forAdd
          · rfl
        have afterBuild : (context.buildUpdatedFabric certificates nocValue
            icacValue).1.forUpdateNoc = some true :=
          (forUpdateNoc_buildUpdatedFabric nocValue icacValue).trans isUpdate
        split
        · exact once
        · split
          · exact once
          · split
            next after error fails =>
              rw [fails] at afterBuild
              exact wiredOnce_of_update afterBuild
            next after updated builds =>
              rw [builds] at afterBuild
              have afterUpdate : (after.updateFabric updated).1.forUpdateNoc = some true :=
                (forUpdateNoc_updateFabric updated).trans afterBuild
              rcases outcome : after.updateFabric updated with ⟨last, _ | _⟩ <;>
                · rw [outcome] at afterUpdate
                  exact wiredOnce_of_update afterUpdate

theorem wiredOnce_removeFabric (once : context.WiredOnce) (fabricIndex : Nat) :
    (context.removeFabric fabricIndex).1.WiredOnce := by
  rw [removeFabric]
  cases context.fabrics.fabrics.get fabricIndex with
  | none => exact once
  | some fabric =>
    have removed := wiredOnce_removeFabricObject once fabric
    simp only
    generalize context.removeFabricObject fabric = outcome at removed ⊢
    rcases outcome with ⟨after, _ | _⟩ <;> exact removed

theorem wiredOnce_execute (once : context.WiredOnce) (command : Command Networks) :
    (context.execute certificates command).WiredOnce := by
  cases command with
  | addTrustedRootCertificate rootCaCertificate =>
    exact wiredOnce_addTrustedRootCertificate once rootCaCertificate
  | csrRequest session csrNonce isForUpdateNoc =>
    exact wiredOnce_csrRequest once session csrNonce isForUpdateNoc
  | addNoc session nocData tableFull listedInState =>
    exact wiredOnce_addNoc once session nocData tableFull listedInState
  | updateNoc session nocValue icacValue =>
    exact wiredOnce_updateNoc once session nocValue icacValue
  | removeFabric fabricIndex => exact wiredOnce_removeFabric once fabricIndex
  | setNetworks networks => exact once
  | setBreadcrumb breadcrumb => exact once
  | setSessions paseSession caseSessions => exact once

end Runs

def exampleCertificates : Certificates where
  readRootCert := fun _ => .ok [1]
  decodeNoc := fun _ => .ok
    { nodeId := 2, fabricId := 3, caseAuthenticatedTags := [], ellipticCurvePublicKey := [4] }
  verifyNoc := fun _ _ _ => .ok ()

/-- A commissioning whose added fabric is removed again before the fail-safe expires. -/
def exampleCommands : List (Command Nat) :=
  let session : CommandSession := { id := 1, isPase := true, fabric := none }
  [.addTrustedRootCertificate [1],
    .csrRequest session (List.replicate 32 0) false,
    .setNetworks 8,
    .setBreadcrumb 9,
    .addNoc session
      { nocValue := [5], icacValue := none, adminVendorId := 6, ipkValue := [7],
        caseAdminSubject := 2 } false false,
    .removeFabric 1]

end FailsafeContext

end MatterJs.Protocol
