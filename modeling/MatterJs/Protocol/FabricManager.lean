import MatterJs.Foundation.OrderedMap
import MatterJs.General.MatterError
import MatterJs.Protocol.Fabric

/-! The fabric manager: the fabrics by their index, the callbacks it leaves on the fabric
objects, and the fabrics it has stored. -/

namespace MatterJs.Protocol

open General

/-- A fabric object. Two objects may have one configuration; `reference` tells them apart. -/
structure FabricObject where
  reference : Nat
  config : Fabric
  deriving DecidableEq

namespace FabricObject

def fabricIndex (fabric : FabricObject) : Nat := fabric.config.fabricIndex

end FabricObject

/-- The manager, with how many of its remove callbacks and whether its persist callback are
on each fabric object, and what is in its storage. -/
structure FabricManager where
  fabrics : OrderedMap Nat FabricObject
  nextFabricIndex : Nat
  removeCallbacks : FabricObject → Nat
  persistCallback : FabricObject → Bool
  storedFabrics : List Fabric
  storedNextFabricIndex : Option Nat
  index_of_get : ∀ {index fabric}, fabrics.get index = some fabric → fabric.fabricIndex = index

namespace FabricManager

def new (storedFabrics : List Fabric) (storedNextFabricIndex : Option Nat) : FabricManager where
  fabrics := {}
  nextFabricIndex := 1
  removeCallbacks := fun _ => 0
  persistCallback := fun _ => false
  storedFabrics := storedFabrics
  storedNextFabricIndex := storedNextFabricIndex
  index_of_get := by
    intro index fabric found
    cases found

def has (manager : FabricManager) (fabricIndex : Nat) : Bool :=
  manager.fabrics.has fabricIndex

def persistFabrics (manager : FabricManager) : FabricManager :=
  { manager with
    storedFabrics := manager.fabrics.values.map FabricObject.config
    storedNextFabricIndex := some manager.nextFabricIndex }

/-- The rounds of `allocateFabricIndex`. -/
def allocate : Nat → FabricManager → Except MatterError (Nat × FabricManager)
  | 0, _ => .error (.fabricTableFullError "No free fabric index available.")
  | rounds + 1, manager =>
    let fabricIndex := manager.nextFabricIndex
    let nextFabricIndex := if 254 < fabricIndex + 1 then 1 else fabricIndex + 1
    if manager.has fabricIndex then allocate rounds { manager with nextFabricIndex }
    else .ok (fabricIndex, { manager with nextFabricIndex })

def allocateFabricIndex (manager : FabricManager) : Except MatterError (Nat × FabricManager) :=
  allocate 254 manager

def setFabric (manager : FabricManager) (fabric : FabricObject) : FabricManager :=
  { manager with
    fabrics := manager.fabrics.set fabric.fabricIndex fabric
    index_of_get := by
      intro index other found
      rw [OrderedMap.get_set] at found
      by_cases same : index = fabric.fabricIndex
      · rw [if_pos same, Option.some.injEq] at found
        rw [← found, same]
      · rw [if_neg same] at found
        exact manager.index_of_get found }

def deleteFabric (manager : FabricManager) (fabricIndex : Nat) : FabricManager :=
  { manager with
    fabrics := manager.fabrics.delete fabricIndex
    index_of_get := by
      intro index other found
      by_cases same : index = fabricIndex
      · rw [same, OrderedMap.get_delete_self] at found
        cases found
      · rw [OrderedMap.get_delete_of_ne _ same] at found
        exact manager.index_of_get found }

/-- The callbacks that `#addFabric` leaves on the fabric object. -/
def installCallbacks (manager : FabricManager) (fabric : FabricObject) : FabricManager :=
  { manager with
    removeCallbacks := Function.update manager.removeCallbacks fabric
      (manager.removeCallbacks fabric + 1)
    persistCallback := Function.update manager.persistCallback fabric true }

def addFabric (manager : FabricManager) (fabric : FabricObject) :
    Except MatterError FabricManager :=
  if manager.has fabric.fabricIndex then
    .error (.matterFlowError s!"Fabric with index {fabric.fabricIndex} already exists.")
  else .ok ((manager.setFabric fabric).installCallbacks fabric)

def removeFabric (manager : FabricManager) (fabricIndex : Nat) :
    Except MatterError FabricManager :=
  match manager.fabrics.get fabricIndex with
  | none => .error (.fabricNotFoundError
      s!"Fabric with index {fabricIndex} cannot be removed because it does not exist.")
  | some _ => .ok (manager.deleteFabric fabricIndex).persistFabrics

/-- `updateFabric` replaces the object, but leaves the new one without callbacks. -/
def updateFabric (manager : FabricManager) (fabric : FabricObject) :
    Except MatterError FabricManager :=
  if manager.has fabric.fabricIndex then .ok (manager.setFabric fabric).persistFabrics
  else .error (.fabricNotFoundError
    s!"Fabric with index {fabric.fabricIndex} cannot be updated because it does not exist.")

def runRemoveCallbacks (fabricIndex : Nat) :
    Nat → FabricManager → FabricManager × Except MatterError Unit
  | 0, manager => (manager, .ok ())
  | callbacks + 1, manager =>
    match manager.removeFabric fabricIndex with
    | .ok manager => runRemoveCallbacks fabricIndex callbacks manager
    | .error error => (manager, .error error)

def remove (manager : FabricManager) (fabric : FabricObject) :
    FabricManager × Except MatterError Unit :=
  runRemoveCallbacks fabric.fabricIndex (manager.removeCallbacks fabric) manager

def persist (manager : FabricManager) (fabric : FabricObject) : FabricManager :=
  if manager.persistCallback fabric then manager.persistFabrics else manager

def revokeFabric (manager : FabricManager) (fabricIndex : Nat) :
    FabricManager × Except MatterError Unit :=
  match manager.fabrics.get fabricIndex with
  | none => (manager, .error (.matterFlowError
      s!"Fabric with index {fabricIndex} does not exist to revoke."))
  | some fabric => manager.remove fabric

def createFabrics (reference : Nat) : List Fabric → List FabricObject
  | [] => []
  | config :: configs => { reference, config } :: createFabrics (reference + 1) configs

def restore (manager : FabricManager) : Except MatterError FabricManager := do
  let started ← (createFabrics 0 manager.storedFabrics).foldlM addFabric
    (new manager.storedFabrics manager.storedNextFabricIndex)
  return { started with
    nextFabricIndex := manager.storedNextFabricIndex.getD started.nextFabricIndex }

/-! ## Which fabrics an operation leaves -/

theorem has_iff (manager : FabricManager) (fabricIndex : Nat) :
    manager.has fabricIndex ↔ ∃ fabric, manager.fabrics.get fabricIndex = some fabric := by
  rw [has, OrderedMap.has, Option.isSome_iff_exists]

theorem has_eq_false_iff (manager : FabricManager) (fabricIndex : Nat) :
    manager.has fabricIndex = false ↔ manager.fabrics.get fabricIndex = none := by
  rw [has, OrderedMap.has, Option.isSome_eq_false_iff, Option.isNone_iff_eq_none]

@[simp] theorem has_persistFabrics (manager : FabricManager) (fabricIndex : Nat) :
    manager.persistFabrics.has fabricIndex = manager.has fabricIndex := rfl

@[simp] theorem has_installCallbacks (manager : FabricManager) (fabric : FabricObject)
    (fabricIndex : Nat) :
    (manager.installCallbacks fabric).has fabricIndex = manager.has fabricIndex := rfl

theorem has_setFabric (manager : FabricManager) (fabric : FabricObject) (fabricIndex : Nat) :
    (manager.setFabric fabric).has fabricIndex ↔
      fabricIndex = fabric.fabricIndex ∨ manager.has fabricIndex := by
  change ((manager.fabrics.set fabric.fabricIndex fabric).get fabricIndex).isSome ↔ _
  rw [OrderedMap.get_set]
  by_cases same : fabricIndex = fabric.fabricIndex
  · simp [same]
  · rw [if_neg same]
    simp [same, has, OrderedMap.has]

theorem has_deleteFabric (manager : FabricManager) (deleted fabricIndex : Nat) :
    (manager.deleteFabric deleted).has fabricIndex ↔
      fabricIndex ≠ deleted ∧ manager.has fabricIndex := by
  change ((manager.fabrics.delete deleted).get fabricIndex).isSome ↔ _
  by_cases same : fabricIndex = deleted
  · rw [same, OrderedMap.get_delete_self]
    simp
  · rw [OrderedMap.get_delete_of_ne _ same]
    simp [same, has, OrderedMap.has]

variable {manager : FabricManager} {fabric : FabricObject}

theorem removeFabric_of_has {fabricIndex : Nat} (present : manager.has fabricIndex) :
    manager.removeFabric fabricIndex = .ok (manager.deleteFabric fabricIndex).persistFabrics := by
  rcases (manager.has_iff fabricIndex).mp present with ⟨fabric, found⟩
  rw [removeFabric, found]

theorem removeFabric_of_not_has {fabricIndex : Nat} (absent : manager.has fabricIndex = false) :
    ∃ error, manager.removeFabric fabricIndex = .error error := by
  rw [removeFabric, (manager.has_eq_false_iff fabricIndex).mp absent]
  exact ⟨_, rfl⟩

theorem remove_of_not_has (absent : manager.has fabric.fabricIndex = false) :
    (manager.remove fabric).1 = manager := by
  rcases removeFabric_of_not_has absent with ⟨error, fails⟩
  rw [remove]
  cases manager.removeCallbacks fabric with
  | zero => rfl
  | succ callbacks => rw [runRemoveCallbacks, fails]

theorem remove_of_wired (present : manager.has fabric.fabricIndex)
    (wired : manager.removeCallbacks fabric ≠ 0) :
    (manager.remove fabric).1 = (manager.deleteFabric fabric.fabricIndex).persistFabrics := by
  have absent : (manager.deleteFabric fabric.fabricIndex).persistFabrics.has
      fabric.fabricIndex = false := by
    rw [has_persistFabrics, Bool.eq_false_iff, ne_eq, has_deleteFabric]
    exact fun both => both.1 rfl
  rcases removeFabric_of_not_has absent with ⟨error, fails⟩
  rcases Nat.exists_eq_succ_of_ne_zero wired with ⟨callbacks, isCallbacks⟩
  rw [remove, isCallbacks, runRemoveCallbacks, removeFabric_of_has present]
  cases callbacks with
  | zero => rfl
  | succ callbacks =>
    change (runRemoveCallbacks fabric.fabricIndex (callbacks + 1) _).1 = _
    rw [runRemoveCallbacks, fails]

theorem remove_of_not_wired (unwired : manager.removeCallbacks fabric = 0) :
    manager.remove fabric = (manager, .ok ()) := by
  rw [remove, unwired, runRemoveCallbacks]

end FabricManager

end MatterJs.Protocol
