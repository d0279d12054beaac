import MatterJs.General.StringifyTools

/-! Plain data and `isDeepEqual`, its comparison. -/

namespace MatterJs.General

open StringifyTools (JsNumber)

/-- What `typeof` tells apart. -/
inductive JsType where
  | undefined
  | object
  | boolean
  | number
  | string
  | bigint
  deriving DecidableEq

/-- The values without properties of their own, and byte arrays, whose elements are not
written one by one. -/
inductive Scalar where
  | undefined
  | null
  | boolean (value : Bool)
  | number (value : JsNumber)
  | string (value : String)
  | bigint (value : Int)
  | bytes (content : List UInt8)
  deriving DecidableEq

/-- The properties of a struct are in their order. A list may have holes. -/
inductive Data where
  | scalar (value : Scalar)
  | struct (properties : List (String × Data))
  | list (elements : List (Option Data))

namespace Scalar

def typeOf : Scalar → JsType
  | undefined => .undefined
  | null | bytes _ => .object
  | boolean _ => .boolean
  | number _ => .number
  | string _ => .string
  | bigint _ => .bigint

def isNullish (value : Scalar) : Bool := value = undefined || value = null

/-- `===`, where a byte array is taken for every one with its content. -/
def strictEquals (value other : Scalar) : Bool :=
  value ≠ number .nan && value = other

end Scalar

namespace Data

def undefined : Data := scalar .undefined

def typeOf : Data → JsType
  | scalar value => value.typeOf
  | struct _ | list _ => .object

def isNullish : Data → Bool
  | scalar value => value.isNullish
  | struct _ | list _ => false

/-- `===` of values of which one is no object -/
def strictEquals : Data → Data → Bool
  | scalar value, scalar other => value.strictEquals other
  | _, _ => false

def count (number : Nat) : Data :=
  scalar (.number (.finite (Decimal.normalize false number 0)))

def indexed : Nat → List (Option Data) → List (String × Data)
  | _, [] => []
  | index, none :: elements => indexed (index + 1) elements
  | index, some element :: elements => (toString index, element) :: indexed (index + 1) elements

def byteElements (content : List UInt8) : List (Option Data) :=
  content.map fun byte => some (count byte.toNat)

/-- The properties that `Object.getOwnPropertyNames` names -/
def ownProperties : Data → List (String × Data)
  | scalar (.bytes content) => indexed 0 (byteElements content)
  | scalar _ => []
  | struct properties => properties
  | list elements => indexed 0 elements ++ [("length", count elements.length)]

/-- `value[name]`, without what a value inherits -/
def property (value : Data) (name : String) : Data :=
  (value.ownProperties.lookup name).getD undefined

end Data

/-! ## The comparison -/

def numbersEqual (properties : List (String × Data)) (other : Data) : Bool :=
  properties.all fun entry => entry.2.strictEquals (other.property entry.1)

mutual
def isDeepEqual (ignoreUndefinedProperties : Bool) : Data → Data → Bool
  | .scalar value, other =>
    if value.isNullish || other.isNullish || value.typeOf ≠ other.typeOf ||
        value.typeOf ≠ .object then
      (Data.scalar value).strictEquals other
    else
      ((Data.scalar value).ownProperties.length = other.ownProperties.length ||
        ignoreUndefinedProperties) &&
      numbersEqual (Data.scalar value).ownProperties other
  | .struct properties, other =>
    if other.isNullish || other.typeOf ≠ .object then false
    else
      (properties.length = other.ownProperties.length || ignoreUndefinedProperties) &&
      propertiesDeepEqual properties other
  | .list elements, other =>
    if other.isNullish || other.typeOf ≠ .object then false
    else
      ((Data.list elements).ownProperties.length = other.ownProperties.length ||
        ignoreUndefinedProperties) &&
      (elementsDeepEqual 0 elements other &&
        numbersEqual [("length", Data.count elements.length)] other)

def propertiesDeepEqual : List (String × Data) → Data → Bool
  | [], _ => true
  | (name, value) :: properties, other =>
    (if value.typeOf ≠ (other.property name).typeOf then false
    else if value.typeOf = .object then isDeepEqual false value (other.property name)
    else value.strictEquals (other.property name)) &&
    propertiesDeepEqual properties other

def elementsDeepEqual : Nat → List (Option Data) → Data → Bool
  | _, [], _ => true
  | index, none :: elements, other => elementsDeepEqual (index + 1) elements other
  | index, some value :: elements, other =>
    (if value.typeOf ≠ (other.property (toString index)).typeOf then false
    else if value.typeOf = .object then
      isDeepEqual false value (other.property (toString index))
    else value.strictEquals (other.property (toString index))) &&
    elementsDeepEqual (index + 1) elements other
end

theorem elementsDeepEqual_eq (index : Nat) (elements : List (Option Data)) (other : Data) :
    elementsDeepEqual index elements other =
      propertiesDeepEqual (Data.indexed index elements) other := by
  induction elements generalizing index with
  | nil => rfl
  | cons element elements induction =>
    cases element with
    | none => rw [elementsDeepEqual, Data.indexed, induction]
    | some value => rw [elementsDeepEqual, Data.indexed, propertiesDeepEqual, induction]

end MatterJs.General
