import MatterJs.Node.ConformanceMeaning

/-! Which elements are left out for the features of a device before the values of fields are
known, and when that hides none that could be used. -/

namespace MatterJs.Model.Conformance

/-! ## The limited evaluation -/

section Applicability

variable (features supportedFeatures : String → Bool)

mutual
/-- `processNode` of `computeApplicability`, with nothing where it throws: an operator without
operands, or no tree at all -/
def processNode : Ast → Option Bool
  | .name param => some (if features param then supportedFeatures param else true)
  | .not param => (processNode param).map fun subvalue => !subvalue
  | .binary .and lhs rhs =>
    (processNode lhs).bind fun left => if left then processNode rhs else some false
  | .binary .or lhs rhs =>
    (processNode lhs).bind fun left => if left then some true else processNode rhs
  | .flag .disallowed => some false
  | .optionalIf param => processNode param
  | .group members => processMembers members
  | .token .and | .token .or | .undefined => none
  | .empty | .desc | .flag _ | .value _ | .choice _ _ | .binary _ _ _ | .token _ => some true

def processMembers : List Ast → Option Bool
  | [] => some false
  | member :: members =>
    (processNode member).bind fun applies =>
      if applies then some true else processMembers members
end

def isApplicable (ast : Ast) : Option Bool :=
  processNode features supportedFeatures ast

end Applicability

end MatterJs.Model.Conformance

namespace MatterJs.Node.Conformance

open General Model.Conformance

variable {Siblings : Type}

namespace Schema

variable (schema : Schema Siblings)

/-- Whether a node applies to the features of the schema -/
def applies (ast : Ast) : Option Bool :=
  processNode schema.featuresAvailable schema.featuresSupported ast

/-- An element that does not apply is neither mandatory nor optional, whatever the values of its
siblings. -/
def NeverHides (ast : Ast) : Prop :=
  isApplicable schema.featuresAvailable schema.featuresSupported ast = some false →
    ∀ siblings, schema.verdict siblings ast ≠ .mandatory ∧ schema.verdict siblings ast ≠ .optional

/-- Where it is not true, it is no match and no verdict of its own. -/
def IsExpression : Ast → Prop
  | .name _ | .value _ | .binary _ _ _ | .not _ => True
  | _ => False

mutual
/-- What a negative answer rests on: the operand of a `!` that is taken for true is certain. -/
def Refutable : Ast → Prop
  | .not param => schema.applies param = some true → Certain param
  | .binary .and lhs rhs =>
    schema.applies lhs = some false ∧ Refutable lhs ∨
      schema.applies rhs = some false ∧ Refutable rhs ∨
        schema.applies lhs = some true ∧ schema.applies rhs = some true
  | .binary .or lhs rhs =>
    schema.applies lhs = some true ∨ schema.applies rhs = some true ∨ Refutable lhs ∧ Refutable rhs
  | .optionalIf param => Refutable param
  | .group members => AllRefutable members
  | _ => True

def AllRefutable : List Ast → Prop
  | [] => True
  | member :: members =>
    schema.applies member = some true ∨ Refutable member ∧ AllRefutable members

/-- What a positive answer rests on to be right for all values: features, literals other than
`null`, and operators on them. -/
def Certain : Ast → Prop
  | .empty | .desc | .flag _ => True
  | .name param => schema.featuresAvailable param = true
  | .value param => isTrue (literalValue param) = true
  | .choice _ expr => schema.applies expr = some true ∧ Certain expr
  | .group members => CertainGroup members
  | .optionalIf param => Certain param
  | .not param => Refutable param
  | .binary .and lhs rhs => Certain lhs ∧ Certain rhs
  | .binary .or lhs rhs =>
    schema.applies lhs = some true ∧ Certain lhs ∨ schema.applies rhs = some true ∧ Certain rhs
  | .binary .xor lhs rhs =>
    (schema.applies lhs = some true ∧ Certain lhs) ∧
        schema.applies rhs = some false ∧ Refutable rhs ∨
      (schema.applies lhs = some false ∧ Refutable lhs) ∧
        schema.applies rhs = some true ∧ Certain rhs
  | _ => False

/-- The first member that applies is certain, and those before it are no verdicts. -/
def CertainGroup : List Ast → Prop
  | [] => True
  | member :: members =>
    schema.applies member = some true ∧ Certain member ∨
      (schema.applies member = some false ∧ Refutable member) ∧
        IsExpression member ∧ CertainGroup members
end

variable {schema : Schema Siblings}

/-! ## Operands -/

variable (siblings : Siblings) (lhs rhs : Ast)

theorem holds_binary_and :
    (schema.verdict siblings (.binary .and lhs rhs)).holds =
      ((schema.verdict siblings lhs).holds && (schema.verdict siblings rhs).holds) :=
  Verdict.holds_ofBool _

theorem holds_binary_or :
    (schema.verdict siblings (.binary .or lhs rhs)).holds =
      ((schema.verdict siblings lhs).holds || (schema.verdict siblings rhs).holds) :=
  Verdict.holds_ofBool _

theorem holds_binary_xor :
    (schema.verdict siblings (.binary .xor lhs rhs)).holds =
      ((schema.verdict siblings lhs).holds ^^ (schema.verdict siblings rhs).holds) :=
  Verdict.holds_ofBool _

theorem holds_not (param : Ast) :
    (schema.verdict siblings (.not param)).holds = !(schema.verdict siblings param).holds :=
  Verdict.holds_ofBool _

theorem holds_optionalIf (param : Ast) :
    (schema.verdict siblings (.optionalIf param)).holds =
      (schema.verdict siblings param).holds := by
  rw [verdict]
  cases schema.verdict siblings param <;> rfl

theorem holds_firstMatch_cons (member : Ast) (members : List Ast) :
    (schema.firstMatch siblings (member :: members)).holds =
      if schema.verdict siblings member = .noMatch then
        (schema.firstMatch siblings members).holds
      else (schema.verdict siblings member).holds := by
  rw [firstMatch]
  cases schema.verdict siblings member <;> rfl

theorem IsExpression.noMatch {ast : Ast} (isExpression : IsExpression ast) {siblings : Siblings}
    (fails : (schema.verdict siblings ast).holds = false) :
    schema.verdict siblings ast = .noMatch := by
  have ofBool : ∀ value, (Verdict.ofBool value).holds = false →
      Verdict.ofBool value = .noMatch := by
    intro value notTrue
    rw [Verdict.holds_ofBool] at notTrue
    rw [notTrue]
    rfl
  cases ast with
  | name param =>
    exact ofBool _ fails
  | value param =>
    exact ofBool _ fails
  | binary operator lhs rhs =>
    exact ofBool _ fails
  | not param =>
    exact ofBool _ fails
  | _ => exact absurd isExpression id

theorem applies_not (param : Ast) :
    schema.applies (.not param) = (schema.applies param).map fun subvalue => !subvalue := rfl

theorem applies_not_iff (param : Ast) (value : Bool) :
    schema.applies (.not param) = some value ↔ schema.applies param = some !value := by
  rw [applies_not]
  cases schema.applies param with
  | none => simp
  | some subvalue => cases subvalue <;> cases value <;> simp

theorem applies_and :
    schema.applies (.binary .and lhs rhs) =
      (schema.applies lhs).bind fun left => if left then schema.applies rhs else some false := rfl

theorem applies_or :
    schema.applies (.binary .or lhs rhs) =
      (schema.applies lhs).bind fun left => if left then some true else schema.applies rhs := rfl

theorem applies_or_false_iff :
    schema.applies (.binary .or lhs rhs) = some false ↔
      schema.applies lhs = some false ∧ schema.applies rhs = some false := by
  rw [applies_or]
  cases schema.applies lhs with
  | none => simp
  | some left => cases left <;> simp

theorem applies_and_true_iff :
    schema.applies (.binary .and lhs rhs) = some true ↔
      schema.applies lhs = some true ∧ schema.applies rhs = some true := by
  rw [applies_and]
  cases schema.applies lhs with
  | none => simp
  | some left => cases left <;> simp

/-! ## The answers are right -/

mutual
theorem holds_of_refutable : (ast : Ast) → schema.Refutable ast →
    schema.applies ast = some false → ∀ siblings, (schema.verdict siblings ast).holds = false
  | .not param, refutable, applies, siblings => by
    rw [applies_not_iff] at applies
    rw [holds_not, holds_of_certain param (refutable applies) applies siblings]
    rfl
  | .binary .and lhs rhs, refutable, applies, siblings => by
    rw [holds_binary_and]
    rcases refutable with ⟨left, refutable⟩ | ⟨right, refutable⟩ | both
    · rw [holds_of_refutable lhs refutable left siblings, Bool.false_and]
    · rw [holds_of_refutable rhs refutable right siblings, Bool.and_false]
    · rw [(applies_and_true_iff lhs rhs).mpr both] at applies
      cases applies
  | .binary .or lhs rhs, refutable, applies, siblings => by
    rcases (applies_or_false_iff lhs rhs).mp applies with ⟨left, right⟩
    rcases refutable with leftTrue | rightTrue | ⟨refutableLeft, refutableRight⟩
    · rw [left] at leftTrue
      cases leftTrue
    · rw [right] at rightTrue
      cases rightTrue
    · rw [holds_binary_or, holds_of_refutable lhs refutableLeft left siblings,
        holds_of_refutable rhs refutableRight right siblings]
      rfl
  | .optionalIf param, refutable, applies, siblings => by
    rw [holds_optionalIf]
    exact holds_of_refutable param refutable applies siblings
  | .group members, refutable, applies, siblings => by
    rw [Refutable] at refutable
    exact holds_of_allRefutable members refutable applies siblings
  | .name param, _, applies, siblings => by
    have unsupported : schema.featuresAvailable param = true ∧
        schema.featuresSupported param = false := by
      cases available : schema.featuresAvailable param <;>
        simp_all [Schema.applies, processNode]
    rw [verdict, Verdict.holds_ofBool, nameHolds, if_pos unsupported.1]
    exact unsupported.2
  | .flag .disallowed, _, _, _ => rfl

theorem holds_of_allRefutable : (members : List Ast) → schema.AllRefutable members →
    schema.applies (.group members) = some false →
      ∀ siblings, (schema.firstMatch siblings members).holds = false
  | [], _, _, _ => rfl
  | member :: members, refutable, applies, siblings => by
    have parts : schema.applies member = some false ∧
        schema.applies (.group members) = some false := by
      change (schema.applies member).bind (fun applies =>
        if applies then some true else schema.applies (.group members)) = some false at applies
      cases first : schema.applies member with
      | none => simp_all
      | some value => cases value <;> simp_all
    rw [AllRefutable, parts.1] at refutable
    rcases refutable with impossible | ⟨refutable, allRefutable⟩
    · cases impossible
    · rw [holds_firstMatch_cons, holds_of_refutable member refutable parts.1 siblings,
        holds_of_allRefutable members allRefutable parts.2 siblings, ite_self]

theorem holds_of_certain : (ast : Ast) → schema.Certain ast →
    schema.applies ast = some true → ∀ siblings, (schema.verdict siblings ast).holds = true
  | .not param, certain, applies, siblings => by
    rw [applies_not_iff] at applies
    rw [holds_not, holds_of_refutable param certain applies siblings]
    rfl
  | .binary .and lhs rhs, certain, applies, siblings => by
    rcases (applies_and_true_iff lhs rhs).mp applies with ⟨left, right⟩
    rw [holds_binary_and, holds_of_certain lhs certain.1 left siblings,
      holds_of_certain rhs certain.2 right siblings]
    rfl
  | .binary .or lhs rhs, certain, _, siblings => by
    rw [holds_binary_or]
    rcases certain with ⟨left, certain⟩ | ⟨right, certain⟩
    · rw [holds_of_certain lhs certain left siblings, Bool.true_or]
    · rw [holds_of_certain rhs certain right siblings, Bool.or_true]
  | .binary .xor lhs rhs, certain, _, siblings => by
    rw [holds_binary_xor]
    rcases certain with ⟨⟨left, certain⟩, right, refutable⟩ | ⟨⟨left, refutable⟩, right, certain⟩
    · rw [holds_of_certain lhs certain left siblings,
        holds_of_refutable rhs refutable right siblings]
      rfl
    · rw [holds_of_refutable lhs refutable left siblings,
        holds_of_certain rhs certain right siblings]
      rfl
  | .optionalIf param, certain, applies, siblings => by
    rw [holds_optionalIf]
    exact holds_of_certain param certain applies siblings
  | .choice _ expr, certain, _, siblings => by
    exact holds_of_certain expr certain.2 certain.1 siblings
  | .group members, certain, applies, siblings => by
    exact holds_of_certainGroup members certain applies siblings
  | .name param, certain, applies, siblings => by
    rw [Certain] at certain
    have supported : schema.featuresSupported param = true := by
      simpa [Schema.applies, processNode, certain] using applies
    rw [verdict, Verdict.holds_ofBool, nameHolds, if_pos certain]
    exact supported
  | .value param, certain, _, _ => by
    rw [verdict, Verdict.holds_ofBool]
    exact certain
  | .empty, _, _, _ => rfl
  | .desc, _, _, _ => rfl
  | .flag .mandatory, _, _, _ => rfl
  | .flag .optional, _, _, _ => rfl
  | .flag .provisional, _, _, _ => rfl
  | .flag .deprecated, _, _, _ => rfl

theorem holds_of_certainGroup : (members : List Ast) → schema.CertainGroup members →
    schema.applies (.group members) = some true →
      ∀ siblings, (schema.firstMatch siblings members).holds = true
  | member :: members, certain, applies, siblings => by
    rw [CertainGroup] at certain
    rcases certain with ⟨first, certain⟩ | ⟨⟨first, refutable⟩, isExpression, certain⟩
    · have holds := holds_of_certain member certain first siblings
      have matched : schema.verdict siblings member ≠ .noMatch := by
        intro same
        rw [same] at holds
        cases holds
      rw [holds_firstMatch_cons, if_neg matched, holds]
    · have rest : schema.applies (.group members) = some true := by
        change (schema.applies member).bind (fun applies =>
          if applies then some true else schema.applies (.group members)) = some true
          at applies
        rw [first] at applies
        exact applies
      have noMatch := isExpression.noMatch (holds_of_refutable member refutable first siblings)
      rw [holds_firstMatch_cons, if_pos noMatch]
      exact holds_of_certainGroup members certain rest siblings
end

end Schema

/-- `AB` is supported, and the field `Foo` is true or false. -/
def oneField : Schema Bool where
  featuresAvailable name := name = "AB"
  featuresSupported name := name = "AB"
  nameResolver name := if name = "Foo" then some fun foo => .scalar (.boolean foo) else none
  enumMembers _ := none
  isLessThan _ _ := none

end MatterJs.Node.Conformance
