import MatterJs.Foundation.Decimals

/-! The syntax tree of a conformance definition. -/

namespace MatterJs.Model.Conformance

inductive Flag where
  | mandatory
  | optional
  | provisional
  | deprecated
  | disallowed
  deriving DecidableEq

inductive Operator where
  | eq
  | ne
  | or
  | xor
  | and
  | gt
  | lt
  | gte
  | lte
  deriving DecidableEq

/-- The field values that the lexer produces, and `null` -/
inductive FieldValue where
  | null
  | number (value : Decimal)
  | percent (value : Decimal)
  | celsius (value : Decimal)
  deriving DecidableEq

structure Choice where
  name : String
  num : Nat
  orMore : Bool
  orLess : Bool
  deriving DecidableEq

/-- A tree with errors may have an operator for an operand, or nothing. -/
inductive Ast where
  | empty
  | desc
  | flag (flag : Flag)
  | name (name : String)
  | value (value : FieldValue)
  | choice (choice : Choice) (expr : Ast)
  | group (members : List Ast)
  | optionalIf (param : Ast)
  | binary (operator : Operator) (lhs rhs : Ast)
  | not (param : Ast)
  | token (operator : Operator)
  | undefined

def isLogical : Operator → Bool
  | .and | .or | .xor => true
  | .eq | .ne | .gt | .lt | .gte | .lte => false

def combine : Operator → Bool → Bool → Bool
  | .or, lhs, rhs => lhs || rhs
  | .xor, lhs, rhs => lhs ^^ rhs
  | _, lhs, rhs => lhs && rhs

end MatterJs.Model.Conformance
