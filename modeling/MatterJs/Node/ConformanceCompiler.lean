import MatterJs.General.DeepEqual
import MatterJs.Model.ConformanceAst

/-! Conformance compiled to a validator: a node for each node of the tree, static where features
decide, evaluated against the siblings of a field elsewhere. -/

namespace MatterJs.Node.Conformance

open General Model.Conformance

/-- A node whose code is not `evaluate` -/
inductive StaticNode where
  | nonconformant
  | conformant
  | optional
  | disallowed
  | value (value : Data)

/-- What is thrown other than for a field that does not conform -/
inductive Fault where
  | unsupportedNode
  | unsupportedAst
  | unknownOperator (operator : Operator)
  | notAValue (where_ : String)
  deriving DecidableEq

/-- The evaluation of a runtime node is by the siblings of the field. A field that is validated
alone counts for no choice. -/
inductive DynamicNode (Siblings : Type) where
  | static (node : StaticNode)
  | evaluate (run : Siblings → Except Fault StaticNode)

/-- A name other than of a feature: a value, or where it is found among the siblings -/
inductive Resolution (Siblings : Type) where
  | known (value : Data)
  | sibling (resolver : Siblings → Data)

structure Schema (Siblings : Type) where
  featuresAvailable : String → Bool
  featuresSupported : String → Bool
  /-- `NameResolver`, where the name is in scope -/
  nameResolver : String → Option (Siblings → Data)
  /-- The members of the enum that the named field is of -/
  enumMembers : String → Option (String → Option Nat)
  /-- `IsLessThan` of the language, of which the relational operators are made -/
  isLessThan : Data → Data → Option Bool

variable {Siblings : Type}

namespace StaticNode

def asConformance : StaticNode → StaticNode
  | value (.scalar .undefined) | value (.scalar .null) | value (.scalar (.boolean false)) =>
    nonconformant
  | value _ => conformant
  | node => node

def asBoolean (node : StaticNode) : Bool :=
  match node.asConformance with
  | conformant | optional => true
  | nonconformant | disallowed | value _ => false

end StaticNode

namespace DynamicNode

def evaluateNode (siblings : Siblings) : DynamicNode Siblings → Except Fault StaticNode
  | static node => .ok node
  | evaluate run => run siblings

def asConformance : DynamicNode Siblings → DynamicNode Siblings
  | static node => static node.asConformance
  | evaluate run => .evaluate run

def createBooleanTest : DynamicNode Siblings → DynamicNode Siblings
  | static node => static node
  | evaluate run => .evaluate fun siblings => (run siblings).map StaticNode.asConformance

def invert : StaticNode → StaticNode
  | .nonconformant => .conformant
  | _ => .nonconformant

def createLogicalInversion : DynamicNode Siblings → DynamicNode Siblings
  | static node => static (invert node.asConformance)
  | evaluate run =>
    .evaluate fun siblings => (run siblings).map fun node => invert node.asConformance

def asNonvalue : DynamicNode Siblings → DynamicNode Siblings
  | static (.value value) =>
    static (if (StaticNode.value value).asBoolean then .conformant else .nonconformant)
  | node => node

def createLogicalBinaryEvaluator (operator : Bool → Bool → Bool)
    (lhs rhs : Siblings → Except Fault StaticNode) : DynamicNode Siblings :=
  .evaluate fun siblings =>
    (lhs siblings).bind fun lhs => (rhs siblings).map fun rhs =>
      if operator lhs.asBoolean rhs.asBoolean then .conformant else .nonconformant

end DynamicNode

open DynamicNode

/-! ## Operators -/

variable (isLessThan : Data → Data → Option Bool)

/-- The table of comparisons; there is none for `!=`. -/
def comparisonOperator : Operator → Option (Data → Data → Bool)
  | .eq => some Data.strictEquals
  | .gt => some fun lhs rhs => isLessThan rhs lhs = some true
  | .gte => some fun lhs rhs => isLessThan lhs rhs = some false
  | .lt => some fun lhs rhs => isLessThan lhs rhs = some true
  | .lte => some fun lhs rhs => isLessThan rhs lhs = some false
  | .ne | .or | .xor | .and => none

def assertValue (where_ : String) : StaticNode → Except Fault Data
  | .value value => .ok value
  | _ => .error (.notAValue where_)

def performComparison (operatorName : Operator) (lhs rhs : StaticNode) : Except Fault StaticNode :=
  match comparisonOperator isLessThan operatorName with
  | none => .error (.unknownOperator operatorName)
  | some operator =>
    (assertValue "Left-hand side" lhs).bind fun lhs =>
      (assertValue "Right-hand side" rhs).map fun rhs =>
        if !lhs.isNullish && !rhs.isNullish && operator lhs rhs then .conformant
        else .nonconformant

def createComparison (operatorName : Operator) :
    DynamicNode Siblings → DynamicNode Siblings → Except Fault (DynamicNode Siblings)
  | static lhs, static rhs => (performComparison isLessThan operatorName lhs rhs).map .static
  | lhs, rhs =>
    .ok (.evaluate fun siblings =>
      (lhs.evaluateNode siblings).bind fun lhs => (rhs.evaluateNode siblings).bind fun rhs =>
        performComparison isLessThan operatorName lhs rhs)

def logicalAnd : DynamicNode Siblings → DynamicNode Siblings → DynamicNode Siblings
  | static lhs, rhs => if lhs.asBoolean then rhs.asNonvalue else .static .nonconformant
  | lhs, static rhs => if rhs.asBoolean then lhs.asNonvalue else .static .nonconformant
  | evaluate lhs, evaluate rhs => createLogicalBinaryEvaluator (· && ·) lhs rhs

def logicalOr : DynamicNode Siblings → DynamicNode Siblings → DynamicNode Siblings
  | static lhs, rhs => if lhs.asBoolean then .static .conformant else rhs.asNonvalue
  | lhs, static rhs => if rhs.asBoolean then .static .conformant else lhs.asNonvalue
  | evaluate lhs, evaluate rhs => createLogicalBinaryEvaluator (· || ·) lhs rhs

def logicalXor : DynamicNode Siblings → DynamicNode Siblings → DynamicNode Siblings
  | static lhs, rhs => if lhs.asBoolean then rhs.createLogicalInversion else rhs.asNonvalue
  | lhs, static rhs => if rhs.asBoolean then lhs.createLogicalInversion else lhs.asNonvalue
  | evaluate lhs, evaluate rhs =>
    createLogicalBinaryEvaluator (fun lhs rhs => if lhs then !rhs else rhs) lhs rhs

def createBinary (operator : Operator) (lhs rhs : DynamicNode Siblings) :
    Except Fault (DynamicNode Siblings) :=
  match operator with
  | .and => .ok (logicalAnd lhs.createBooleanTest rhs.createBooleanTest)
  | .or => .ok (logicalOr lhs.createBooleanTest rhs.createBooleanTest)
  | .xor => .ok (logicalXor lhs.createBooleanTest rhs.createBooleanTest)
  | .eq | .ne | .gt | .lt | .gte | .lte => createComparison isLessThan operator lhs rhs

/-- The members that are left for the runtime, or the one that decides at compile time -/
def reduceMembers (reduced : List (DynamicNode Siblings)) :
    List (DynamicNode Siblings) → DynamicNode Siblings ⊕ List (DynamicNode Siblings)
  | [] => .inr reduced
  | static .nonconformant :: members => reduceMembers reduced members
  | static .optional :: _ =>
    if reduced.isEmpty then .inl (static .optional) else .inr (reduced ++ [static .optional])
  | static .conformant :: _ =>
    if reduced.isEmpty then .inl (static .conformant)
    else .inr (reduced ++ [static .conformant])
  | member :: members => reduceMembers (reduced ++ [member]) members

def evaluateMembers (siblings : Siblings) :
    List (DynamicNode Siblings) → Except Fault StaticNode
  | [] => .ok .nonconformant
  | member :: members =>
    (member.evaluateNode siblings).bind fun node =>
      match node with
      | .nonconformant => evaluateMembers siblings members
      | node => .ok node

def createGroup (members : List (DynamicNode Siblings)) : DynamicNode Siblings :=
  match reduceMembers [] members with
  | .inl member => member
  | .inr reduced => .evaluate fun siblings => evaluateMembers siblings reduced

def toOptional : StaticNode → StaticNode
  | .conformant => .optional
  | node => node

def createOptionalIf : DynamicNode Siblings → DynamicNode Siblings
  | static node => static (toOptional node.asConformance)
  | evaluate run =>
    .evaluate fun siblings => (run siblings).map fun node => toOptional node.asConformance

/-! ## The tree -/

def literalValue : FieldValue → Data
  | .null => .scalar .null
  | .number value => .scalar (.number (.finite value))
  | .percent value =>
    .struct [("type", .scalar (.string "percent")), ("value", .scalar (.number (.finite value)))]
  | .celsius value =>
    .struct [("type", .scalar (.string "celsius")), ("value", .scalar (.number (.finite value)))]

namespace Schema

variable (schema : Schema Siblings)

/-- `createNameReference` before any comparison overrides it -/
def nameReference (name : String) : Resolution Siblings :=
  match schema.nameResolver name with
  | some resolver => .sibling resolver
  | none => .known .undefined

variable (createNameReference : String → Resolution Siblings)

/-- The names on both sides of a comparison: where the left side is a field of an enum, the
members of the enum come first. -/
def comparisonScope (lhs : Ast) : String → Resolution Siblings :=
  match lhs with
  | .name field =>
    match schema.enumMembers field with
    | some enumValues => fun name =>
      match enumValues name with
      | some id => .known (Data.count id)
      | none => createNameReference name
    | none => createNameReference
  | _ => createNameReference

def createName (param : String) : DynamicNode Siblings :=
  if schema.featuresAvailable param then
    if schema.featuresSupported param then .static .conformant else .static .nonconformant
  else
    match createNameReference param with
    | .known value => .static (.value value)
    | .sibling resolver => .evaluate fun siblings => .ok (.value (resolver siblings))

def operandScope (operator : Operator) (createNameReference : String → Resolution Siblings)
    (lhs : Ast) : String → Resolution Siblings :=
  match operator with
  | .and | .or | .xor => createNameReference
  | .eq | .ne | .gt | .lt | .gte | .lte => schema.comparisonScope createNameReference lhs

mutual
def compile (createNameReference : String → Resolution Siblings) :
    Ast → Except Fault (DynamicNode Siblings)
  | .empty | .desc | .flag .provisional | .flag .deprecated | .flag .optional =>
    .ok (.static .optional)
  | .choice _ expr =>
    (compile createNameReference expr).map fun node =>
      .evaluate fun siblings => node.evaluateNode siblings
  | .group members => (compileMembers createNameReference members).map createGroup
  | .name param => .ok (schema.createName createNameReference param)
  | .optionalIf param => (compile createNameReference param).map createOptionalIf
  | .value param => .ok (.static (.value (literalValue param)))
  | .flag .disallowed => .ok (.static .disallowed)
  | .flag .mandatory => .ok (.static .conformant)
  | .binary operator lhs rhs =>
    (compile (schema.operandScope operator createNameReference lhs) lhs).bind fun left =>
      (compile (schema.operandScope operator createNameReference lhs) rhs).bind fun right =>
        createBinary schema.isLessThan operator left right
  | .not param => (compile createNameReference param).map createLogicalInversion
  | .token _ | .undefined => .error .unsupportedAst

def compileMembers (createNameReference : String → Resolution Siblings) :
    List Ast → Except Fault (List (DynamicNode Siblings))
  | [] => .ok []
  | member :: members =>
    (compile createNameReference member).bind fun node =>
      (compileMembers createNameReference members).map fun nodes => node :: nodes
end

end Schema

/-- A field passes, or is refused with a `ConformanceError`. -/
abbrev Validator (Siblings : Type) : Type := Siblings → Bool → Except Fault Bool

def requireValue : Validator Siblings := fun _ isSet => .ok isSet

def disallowValue : Validator Siblings := fun _ isSet => .ok !isSet

/-- What the validator of a runtime node does with the node that it evaluates to -/
def checkNode (siblings : Siblings) (isSet : Bool) : StaticNode → Except Fault Bool
  | .conformant => requireValue siblings isSet
  | .nonconformant | .disallowed => disallowValue siblings isSet
  | .optional => .ok true
  | .value (.scalar .undefined) => disallowValue siblings isSet
  | .value _ => requireValue siblings isSet

def astToFunction (schema : Schema Siblings) (ast : Ast) : Except Fault (Validator Siblings) :=
  (schema.compile schema.nameReference ast).bind fun compiledNode =>
    match compiledNode with
    | .static .conformant => .ok requireValue
    | .static .nonconformant | .static .disallowed => .ok disallowValue
    | .static .optional => .ok fun _ _ => .ok true
    | .static (.value _) => .error .unsupportedNode
    | .evaluate run => .ok fun siblings isSet => (run siblings).bind (checkNode siblings isSet)

end MatterJs.Node.Conformance
