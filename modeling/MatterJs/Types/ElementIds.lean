import Mathlib.Algebra.Group.Nat.Defs
import MatterJs.General.MatterError

/-! The ids in the paths of attributes and commands, and the checks of their ranges. -/

namespace MatterJs.Types

open General

def outOfBounds {α : Type} (message : String) : Except MatterError α :=
  .error (.validationOutOfBoundsError message none)

/-- What a Manufacturer Extensible Identifier is put together from. -/
structure Mei where
  vendorPrefix : Nat
  typeSuffix : Nat
  deriving DecidableEq

namespace Mei

/-- The operators on bits take the identifier as a number of 32 bits. -/
def fromMei (mei : Nat) : Except MatterError Mei :=
  let vendorPrefix := mei % 2 ^ 32 / 2 ^ 16
  let typeSuffix := mei % 2 ^ 16
  if vendorPrefix > 0xfff4 then outOfBounds s!"Invalid vendor prefix for MEI: {mei}"
  else if typeSuffix > 0xfffe then outOfBounds s!"Invalid type suffix for MEI: {mei}"
  else .ok { vendorPrefix, typeSuffix }

def hasCustomMeiPrefix (mei : Nat) : Bool := mei > 0xfffe

end Mei

def EndpointNumber (endpointId : Nat) : Except MatterError Nat :=
  if endpointId ≤ 0xfffe then .ok endpointId
  else outOfBounds s!"EndpointNumber must be between 0 and 0xFFFE, got {endpointId}"

def ClusterId (clusterId : Nat) : Except MatterError Nat := do
  let { vendorPrefix, typeSuffix } ← Mei.fromMei clusterId
  if (typeSuffix ≤ 0x7fff ∧ vendorPrefix = 0) ∨
      (typeSuffix ≥ 0xfc00 ∧ typeSuffix ≤ 0xfffe ∧ vendorPrefix ≠ 0) then .ok clusterId
  else outOfBounds s!"Invalid cluster ID: {clusterId}"

def AttributeId (attributeId : Nat) : Except MatterError Nat :=
  if attributeId ≥ 0xf000 ∧ attributeId ≤ 0xfffe then .ok attributeId
  else do
    let { typeSuffix, .. } ← Mei.fromMei attributeId
    if typeSuffix ≤ 0x4fff then .ok attributeId
    else outOfBounds s!"Invalid attribute ID: {attributeId}"

def CommandId (commandId : Nat) : Except MatterError Nat := do
  let { typeSuffix, .. } ← Mei.fromMei commandId
  if typeSuffix ≤ 0xff then .ok commandId
  else outOfBounds s!"Invalid command ID: {commandId}"

end MatterJs.Types
