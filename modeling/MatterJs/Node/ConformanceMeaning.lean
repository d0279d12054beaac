import MatterJs.Node.ConformanceCompiler

/-! What a conformance says of a field, by direct evaluation of its tree, and the trees on which
the compiler follows it. -/

namespace MatterJs.Node.Conformance

open General Model.Conformance

variable {Siblings : Type}

inductive Verdict where
  | mandatory
  | optional
  | disallowed
  | noMatch
  deriving DecidableEq

namespace Verdict

/-- An expression is mandatory where it is true. -/
def ofBool : Bool → Verdict
  | true => mandatory
  | false => noMatch

/-- Whether an operand is true -/
def holds : Verdict → Bool
  | mandatory | optional => true
  | disallowed | noMatch => false

def accepts : Verdict → Bool → Bool
  | mandatory, isSet => isSet
  | optional, _ => true
  | disallowed, isSet | noMatch, isSet => !isSet

@[simp] theorem holds_ofBool (value : Bool) : (ofBool value).holds = value := by
  cases value <;> rfl

theorem ofBool_holds {verdict : Verdict} (notOptional : verdict ≠ optional)
    (notDisallowed : verdict ≠ disallowed) : ofBool verdict.holds = verdict := by
  cases verdict <;> simp_all [ofBool, holds]

end Verdict

def isTrue : Data → Bool
  | .scalar .undefined | .scalar .null | .scalar (.boolean false) => false
  | _ => true

/-- The comparisons of the language -/
def compares (isLessThan : Data → Data → Option Bool) : Operator → Data → Data → Bool
  | .eq, lhs, rhs => lhs.strictEquals rhs
  | .ne, lhs, rhs => !lhs.strictEquals rhs
  | .gt, lhs, rhs => isLessThan rhs lhs = some true
  | .gte, lhs, rhs => isLessThan lhs rhs = some false
  | .lt, lhs, rhs => isLessThan lhs rhs = some true
  | .lte, lhs, rhs => isLessThan rhs lhs = some false
  | .or, _, _ | .xor, _, _ | .and, _, _ => false

def Resolution.valueAt (siblings : Siblings) : Resolution Siblings → Data
  | known value => value
  | sibling resolver => resolver siblings

def Resolution.isKnown : Resolution Siblings → Bool
  | known _ => true
  | sibling _ => false

/-- What is left of a logical operator where the truth of one operand is known -/
inductive Residual where
  | constant (value : Bool)
  | same
  | inverted
  deriving DecidableEq

namespace Residual

def isConstant : Residual → Bool
  | constant _ => true
  | same | inverted => false

/-- The other operand is no conformance but an expression, as far as it is used. -/
def Suits : Residual → Verdict → Prop
  | constant _, _ => True
  | same, verdict => verdict ≠ .optional ∧ verdict ≠ .disallowed
  | inverted, verdict => verdict ≠ .disallowed

end Residual

def residual : Operator → Bool → Residual
  | .or, true => .constant true
  | .or, false => .same
  | .xor, true => .inverted
  | .xor, false => .same
  | _, true => .same
  | _, false => .constant false

namespace Schema

variable (schema : Schema Siblings)

/-- The operands of a comparison are literals and names of fields. -/
def operand (scope : String → Resolution Siblings) : Ast → Resolution Siblings
  | .name param => scope param
  | .value param => .known (literalValue param)
  | _ => .known .undefined

def comparisonHolds (siblings : Siblings) (operator : Operator) (lhs rhs : Ast) : Bool :=
  let scope := schema.comparisonScope schema.nameReference lhs
  let left := (operand scope lhs).valueAt siblings
  let right := (operand scope rhs).valueAt siblings
  !left.isNullish && !right.isNullish && compares schema.isLessThan operator left right

def nameHolds (siblings : Siblings) (param : String) : Bool :=
  if schema.featuresAvailable param then schema.featuresSupported param
  else isTrue ((schema.nameReference param).valueAt siblings)

mutual
def verdict (siblings : Siblings) : Ast → Verdict
  | .empty | .desc | .flag .provisional | .flag .deprecated | .flag .optional => .optional
  | .flag .mandatory => .mandatory
  | .flag .disallowed => .disallowed
  | .name param => .ofBool (schema.nameHolds siblings param)
  | .value param => .ofBool (isTrue (literalValue param))
  | .choice _ expr => verdict siblings expr
  | .group members => firstMatch siblings members
  | .optionalIf param =>
    match verdict siblings param with
    | .mandatory => .optional
    | verdict => verdict
  | .binary operator lhs rhs =>
    .ofBool
      (if isLogical operator then
        combine operator (verdict siblings lhs).holds (verdict siblings rhs).holds
      else schema.comparisonHolds siblings operator lhs rhs)
  | .not param => .ofBool !(verdict siblings param).holds
  | .token _ | .undefined => .noMatch

def firstMatch (siblings : Siblings) : List Ast → Verdict
  | [] => .noMatch
  | member :: members =>
    match verdict siblings member with
    | .noMatch => firstMatch siblings members
    | verdict => verdict
end

def IsOperand : Ast → Prop
  | .name param => schema.featuresAvailable param = false
  | .value _ => True
  | _ => False

def isKnownComparison (lhs rhs : Ast) : Bool :=
  let scope := schema.comparisonScope schema.nameReference lhs
  (operand scope lhs).isKnown && (operand scope rhs).isKnown

mutual
/-- The operators have their operands, and those of a comparison are values. One with `!=` of
values that are known is evaluated at once. -/
def Supported : Ast → Prop
  | .empty | .desc | .flag _ | .name _ | .value _ => True
  | .choice _ expr => Supported expr
  | .group members => AllSupported members
  | .optionalIf param | .not param => Supported param
  | .binary operator lhs rhs =>
    if isLogical operator then Supported lhs ∧ Supported rhs
    else
      (schema.IsOperand lhs ∧ schema.IsOperand rhs) ∧
        (operator = .ne → schema.isKnownComparison lhs rhs = false)
  | .token _ | .undefined => False

def AllSupported : List Ast → Prop
  | [] => True
  | member :: members => Supported member ∧ AllSupported members
end

mutual
def bareValue (siblings : Siblings) : Ast → Option Data
  | .name param =>
    if schema.featuresAvailable param then none
    else some ((schema.nameReference param).valueAt siblings)
  | .value param => some (literalValue param)
  | .choice _ expr => bareValue siblings expr
  | .group members => firstBareValue siblings members
  | _ => none

def firstBareValue (siblings : Siblings) : List Ast → Option Data
  | [] => none
  | member :: members =>
    match bareValue siblings member with
    | some value => some value
    | none =>
      match schema.verdict siblings member with
      | .noMatch => firstBareValue siblings members
      | _ => none
end

mutual
/-- Whether the features and the literals alone decide -/
def isDecided (siblings : Siblings) : Ast → Bool
  | .empty | .desc | .flag _ | .value _ => true
  | .name param =>
    schema.featuresAvailable param || (schema.nameReference param).isKnown
  | .choice _ _ => false
  | .group members => isDecidedGroup siblings members
  | .optionalIf param | .not param => isDecided siblings param
  | .binary operator lhs rhs =>
    if isLogical operator then
      if isDecided siblings lhs then
        (residual operator (schema.verdict siblings lhs).holds).isConstant || isDecided siblings rhs
      else
        isDecided siblings rhs && (residual operator (schema.verdict siblings rhs).holds).isConstant
    else schema.isKnownComparison lhs rhs
  | .token _ | .undefined => false

/-- A group is decided by members that do not match and one that does after them. -/
def isDecidedGroup (siblings : Siblings) : List Ast → Bool
  | [] => false
  | member :: members =>
    isDecided siblings member && (schema.bareValue siblings member).isNone &&
      match schema.verdict siblings member with
      | .noMatch => isDecidedGroup siblings members
      | .mandatory | .optional => true
      | .disallowed => false
end

mutual
/-- There is no `!=` to evaluate, `!` has no `X` for its operand, nothing optional or disallowed is
left of a logical operator, and a group does not go on after a value that is false. -/
def Regular (siblings : Siblings) : Ast → Prop
  | .choice _ expr => Regular siblings expr
  | .group members => RegularGroup siblings members
  | .optionalIf param => Regular siblings param
  | .not param => Regular siblings param ∧ schema.verdict siblings param ≠ .disallowed
  | .binary operator lhs rhs =>
    if isLogical operator then
      Regular siblings lhs ∧
        if schema.isDecided siblings lhs then
          let left := residual operator (schema.verdict siblings lhs).holds
          left.isConstant = true ∨ Regular siblings rhs ∧ left.Suits (schema.verdict siblings rhs)
        else
          Regular siblings rhs ∧
            (schema.isDecided siblings rhs = true →
              (residual operator (schema.verdict siblings rhs).holds).Suits
                (schema.verdict siblings lhs))
    else operator ≠ .ne
  | _ => True

def RegularGroup (siblings : Siblings) : List Ast → Prop
  | [] => True
  | member :: members =>
    Regular siblings member ∧
      (schema.verdict siblings member = .noMatch →
        match schema.bareValue siblings member with
        | some _ => schema.firstMatch siblings members = .noMatch
        | none => RegularGroup siblings members)
end

/-- The whole is neither a literal, nor an unresolved name, nor a value that is null or false. -/
def RegularWhole (siblings : Siblings) (ast : Ast) : Prop :=
  ∀ value, schema.bareValue siblings ast = some value →
    schema.isDecided siblings ast = false ∧ value ≠ .scalar .null ∧ value ≠ .scalar (.boolean false)

end Schema

end MatterJs.Node.Conformance
