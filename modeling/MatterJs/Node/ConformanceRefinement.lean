import MatterJs.Node.ConformanceFolding

/-! The compiled validator accepts what the direct evaluation accepts. -/

namespace MatterJs.Node.Conformance

open General Model.Conformance DynamicNode

variable {Siblings : Type}

namespace Schema

variable (schema : Schema Siblings)

/-- A node is what the tree means, in all that an enclosing node looks at. -/
structure Follows (siblings : Siblings) (node : DynamicNode Siblings) (result : StaticNode)
    (ast : Ast) : Prop where
  evaluated : node.evaluateNode siblings = .ok result
  verdict : result.verdict = schema.verdict siblings ast
  bareValue : result.bareValue = schema.bareValue siblings ast
  isStatic : node.isStatic = schema.isDecided siblings ast

def Represents (siblings : Siblings) (node : DynamicNode Siblings) (ast : Ast) : Prop :=
  schema.Regular siblings ast → ∃ result, schema.Follows siblings node result ast

variable {schema} {siblings : Siblings}

theorem represents_name (param : String) :
    schema.Represents siblings (schema.createName schema.nameReference param) (.name param) := by
  intro _
  unfold createName
  cases feature : schema.featuresAvailable param with
  | true =>
    cases supported : schema.featuresSupported param <;>
      exact ⟨_, rfl, by simp [Schema.verdict, nameHolds, feature, supported]; rfl,
        by simp [Schema.bareValue, feature]; rfl, by simp [isDecided, feature]; rfl⟩
  | false =>
    change ∃ result, schema.Follows siblings (schema.nameReference param).node result _
    exact ⟨_, Resolution.evaluateNode_node siblings _,
      by simp [Schema.verdict, nameHolds, feature, StaticNode.verdict],
      by simp [Schema.bareValue, feature, StaticNode.bareValue],
      by simp [isDecided, feature]⟩

variable {node : DynamicNode Siblings} {operator : Operator} {nodes : List (DynamicNode Siblings)}
  {members : List Ast}

theorem represents_choice {expr : Ast} (choice : Choice)
    (represents : schema.Represents siblings node expr) :
    schema.Represents siblings (.evaluate fun siblings => node.evaluateNode siblings)
      (.choice choice expr) := by
  intro regular
  rcases represents regular with ⟨result, follows⟩
  exact ⟨result, follows.evaluated, follows.verdict, follows.bareValue, rfl⟩

theorem represents_optionalIf {param : Ast} (represents : schema.Represents siblings node param) :
    schema.Represents siblings (createOptionalIf node) (.optionalIf param) := by
  intro regular
  rcases represents regular with ⟨result, follows⟩
  refine ⟨toOptional result.asConformance, ?_, ?_, ?_, ?_⟩
  · cases node with
    | static node =>
      obtain rfl : node = result := by simpa [evaluateNode] using follows.evaluated
      rfl
    | evaluate run => exact congrArg (Except.map _) follows.evaluated
  · rw [Schema.verdict, ← follows.verdict, ← StaticNode.verdict_asConformance result]
    cases equal : result.asConformance with
    | value data => exact absurd equal (result.asConformance_ne_value data)
    | _ => rfl
  · cases equal : result.asConformance with
    | value data => exact absurd equal (result.asConformance_ne_value data)
    | _ => rfl
  · rw [isDecided, ← follows.isStatic]
    cases node <;> rfl

theorem represents_not {param : Ast} (represents : schema.Represents siblings node param) :
    schema.Represents siblings node.createLogicalInversion (.not param) := by
  intro regular
  rcases represents regular.1 with ⟨result, follows⟩
  refine ⟨invert result.asConformance, ?_, ?_, Residual.bareValue_invert _, ?_⟩
  · cases node with
    | static node =>
      obtain rfl : node = result := by simpa [evaluateNode] using follows.evaluated
      rfl
    | evaluate run => exact congrArg (Except.map _) follows.evaluated
  · rw [Schema.verdict, ← follows.verdict]
    exact Residual.verdict_invert result (follows.verdict ▸ regular.2)
  · rw [isDecided, ← follows.isStatic]
    cases node <;> rfl

/-! ## Binary operators -/

theorem evaluateNode_createLogicalBinaryEvaluator (operator : Bool → Bool → Bool)
    {lhs rhs : Siblings → Except Fault StaticNode} {left right : StaticNode}
    (leftEvaluated : lhs siblings = .ok left) (rightEvaluated : rhs siblings = .ok right) :
    (createLogicalBinaryEvaluator operator
        (fun siblings => (lhs siblings).map StaticNode.asConformance)
        (fun siblings => (rhs siblings).map StaticNode.asConformance)).evaluateNode siblings =
      .ok (if operator left.verdict.holds right.verdict.holds then .conformant
        else .nonconformant) := by
  simp [createLogicalBinaryEvaluator, evaluateNode, leftEvaluated, rightEvaluated, Except.map,
    Except.bind, StaticNode.asBoolean_eq]

theorem exists_applied (logical : isLogical operator = true) {known : Bool} {verdict : Verdict}
    {decided : Bool}
    (other : (residual operator known).isConstant = true ∨
      ∃ result, node.evaluateNode siblings = .ok result ∧ result.verdict = verdict ∧
      node.isStatic = decided ∧ (residual operator known).Suits verdict) :
    let applied := (residual operator known).apply node.createBooleanTest
    ∃ result, applied.evaluateNode siblings = .ok result ∧
      result.verdict = .ofBool (combine operator known verdict.holds) ∧
      result.bareValue = none ∧
      applied.isStatic = ((residual operator known).isConstant || decided) := by
  rcases other with constant | ⟨result, evaluated, equal, isStatic, suits⟩
  · have unused : (residual operator known).isConstant = true ∨
        node.evaluateNode siblings = .ok .nonconformant := .inl constant
    exact ⟨_, Residual.evaluateNode_apply unused,
      Residual.verdict_applyStatic_of_unused logical (.inl constant),
      Residual.bareValue_applyStatic _ _, by
        rw [Residual.isStatic_apply, constant, Bool.true_or, Bool.true_or]⟩
  · exact ⟨_, Residual.evaluateNode_apply (.inr evaluated),
      Residual.verdict_applyStatic_of_unused logical (.inr ⟨equal, suits⟩),
      Residual.bareValue_applyStatic _ _, by rw [Residual.isStatic_apply, isStatic]⟩

theorem represents_logical (logical : isLogical operator = true) {left right : DynamicNode Siblings}
    {lhs rhs : Ast} (leftRepresents : ∀ siblings, schema.Represents siblings left lhs)
    (rightRepresents : ∀ siblings, schema.Represents siblings right rhs) :
    ∃ node, createBinary schema.isLessThan operator left right = .ok node ∧
      ∀ siblings, schema.Represents siblings node (.binary operator lhs rhs) := by
  cases left with
  | static left =>
    refine ⟨_, createBinary_static_left _ logical left right, fun siblings regular => ?_⟩
    rw [Regular, if_pos logical] at regular
    rcases leftRepresents siblings regular.1 with ⟨result, leftFollows⟩
    obtain rfl : left = result := by simpa [evaluateNode] using leftFollows.evaluated
    have decided : schema.isDecided siblings lhs = true := leftFollows.isStatic.symm
    have regular := regular.2
    rw [if_pos decided, ← leftFollows.verdict] at regular
    rcases exists_applied logical (regular.imp_right fun regular => by
      rcases rightRepresents siblings regular.1 with ⟨result, follows⟩
      exact ⟨result, follows.evaluated, follows.verdict, follows.isStatic, regular.2⟩) with
      ⟨result, evaluated, verdict, bareValue, isStatic⟩
    refine ⟨result, evaluated, ?_, bareValue, ?_⟩
    · rw [verdict, Schema.verdict, if_pos logical, ← leftFollows.verdict]
    · rw [isStatic, isDecided, if_pos logical, if_pos decided, ← leftFollows.verdict]
  | evaluate left =>
    have undecided {siblings : Siblings} {result : StaticNode}
        (follows : schema.Follows siblings (.evaluate left) result lhs) :
        ¬schema.isDecided siblings lhs = true := by
      rw [← follows.isStatic]
      exact Bool.false_ne_true
    cases right with
    | static right =>
      refine ⟨_, createBinary_static_right _ logical left right, fun siblings regular => ?_⟩
      rw [Regular, if_pos logical] at regular
      rcases leftRepresents siblings regular.1 with ⟨_, leftFollows⟩
      have undecided := undecided leftFollows
      have regular := regular.2
      rw [if_neg undecided] at regular
      rcases rightRepresents siblings regular.1 with ⟨result, rightFollows⟩
      obtain rfl : right = result := by simpa [evaluateNode] using rightFollows.evaluated
      have decided : schema.isDecided siblings rhs = true := rightFollows.isStatic.symm
      have suits := regular.2 decided
      rw [← rightFollows.verdict] at suits
      rcases exists_applied logical (.inr ⟨_, leftFollows.evaluated, leftFollows.verdict,
        leftFollows.isStatic, suits⟩) with ⟨result, evaluated, verdict, bareValue, isStatic⟩
      refine ⟨result, evaluated, ?_, bareValue, ?_⟩
      · rw [verdict, Schema.verdict, if_pos logical, combine_comm, ← rightFollows.verdict]
      · rw [isStatic, isDecided, if_pos logical, decided, ← rightFollows.verdict]
        simp [undecided]
    | evaluate right =>
      refine ⟨_, createBinary_evaluate _ logical left right, fun siblings regular => ?_⟩
      rw [Regular, if_pos logical] at regular
      rcases leftRepresents siblings regular.1 with ⟨leftResult, leftFollows⟩
      have undecided := undecided leftFollows
      have regular := regular.2
      rw [if_neg undecided] at regular
      rcases rightRepresents siblings regular.1 with ⟨rightResult, rightFollows⟩
      refine ⟨_, evaluateNode_createLogicalBinaryEvaluator _ leftFollows.evaluated
        rightFollows.evaluated, ?_, ?_, ?_⟩
      · rw [Schema.verdict, if_pos logical, ← leftFollows.verdict, ← rightFollows.verdict]
        exact StaticNode.verdict_ite _
      · cases combine operator leftResult.verdict.holds rightResult.verdict.holds <;> rfl
      · rw [isDecided, if_pos logical, if_neg undecided, ← rightFollows.isStatic]
        rfl

theorem compile_operand (scope : String → Resolution Siblings) {ast : Ast}
    (isOperand : schema.IsOperand ast) :
    schema.compile scope ast = .ok (operand scope ast).node := by
  cases ast with
  | name param =>
    have noFeature : schema.featuresAvailable param = false := isOperand
    rw [compile, createName, noFeature]
    cases equal : scope param <;> simp [operand, equal, Resolution.node]
  | value param =>
    rfl
  | _ => exact isOperand.elim

theorem represents_comparison (relational : isLogical operator = false) {lhs rhs : Ast}
    (left : schema.IsOperand lhs) (right : schema.IsOperand rhs)
    (supported : operator = .ne → schema.isKnownComparison lhs rhs = false) :
    ∃ node, schema.compile schema.nameReference (.binary operator lhs rhs) = .ok node ∧
      ∀ siblings, schema.Represents siblings node (.binary operator lhs rhs) := by
  have notLogical : ¬isLogical operator = true := by simp [relational]
  have scope : schema.operandScope operator schema.nameReference lhs =
      schema.comparisonScope schema.nameReference lhs := by
    cases operator <;> first | rfl | exact nomatch relational
  have binary (left right : DynamicNode Siblings) :
      createBinary schema.isLessThan operator left right =
        createComparison schema.isLessThan operator left right := by
    cases operator <;> first | rfl | exact nomatch relational
  rcases createComparison_node schema.isLessThan relational _ _ supported with
    ⟨node, created, isStatic, evaluated⟩
  refine ⟨node, ?_, fun siblings regular => ?_⟩
  · rw [compile, scope, compile_operand _ left, compile_operand _ right]
    exact (binary _ _).trans created
  · rw [Regular, if_neg notLogical] at regular
    refine ⟨_, (evaluated siblings).trans (performComparison_value _ relational regular _ _),
      ?_, ?_, ?_⟩
    · rw [Schema.verdict, if_neg notLogical]
      exact StaticNode.verdict_ite _
    · split <;> rfl
    · rw [isStatic, isDecided, if_neg notLogical, isKnownComparison]

theorem evaluateMembers_represents
    (represents : List.Forall₂ (schema.Represents siblings) nodes members)
    (regular : schema.RegularGroup siblings members) :
    ∃ result, evaluateMembers siblings nodes = .ok result ∧
      result.verdict = schema.firstMatch siblings members ∧
      result.bareValue = schema.firstBareValue siblings members := by
  induction represents with
  | nil => exact ⟨.nonconformant, rfl, rfl, rfl⟩
  | @cons node member nodes members represents rest induction =>
    rcases represents regular.1 with ⟨result, follows⟩
    cases result with
    | nonconformant =>
      have noMatch : schema.verdict siblings member = .noMatch := follows.verdict.symm
      have bare : schema.bareValue siblings member = none := follows.bareValue.symm
      have regular := regular.2 noMatch
      rw [bare] at regular
      rcases induction regular with ⟨result, evaluated, verdict, bareValue⟩
      refine ⟨result, ?_, ?_, ?_⟩
      · rw [evaluateMembers, follows.evaluated]
        exact evaluated
      · rw [firstMatch, noMatch]
        exact verdict
      · rw [firstBareValue, bare, noMatch]
        exact bareValue
    | value data =>
      have verdict : schema.verdict siblings member = .ofBool (isTrue data) :=
        follows.verdict.symm
      have bare : schema.bareValue siblings member = some data := follows.bareValue.symm
      refine ⟨.value data, ?_, ?_, ?_⟩
      · rw [evaluateMembers, follows.evaluated]
        rfl
      · cases truth : isTrue data with
        | true => simp [firstMatch, verdict, truth, StaticNode.verdict, Verdict.ofBool]
        | false =>
          have noMatch : schema.verdict siblings member = .noMatch := by
            rw [verdict, truth]
            rfl
          have last := regular.2 noMatch
          rw [bare] at last
          rw [firstMatch, noMatch]
          simpa [StaticNode.verdict, truth, Verdict.ofBool] using last.symm
      · rw [firstBareValue, bare]
        rfl
    | _ =>
      refine ⟨_, by rw [evaluateMembers, follows.evaluated]; rfl, ?_⟩
      rw [firstMatch, firstBareValue, ← follows.verdict, ← follows.bareValue]
      exact ⟨rfl, rfl⟩

theorem isStatic_createGroup (represents : List.Forall₂ (schema.Represents siblings) nodes members)
    (regular : schema.RegularGroup siblings members) :
    (createGroup nodes).isStatic = schema.isDecidedGroup siblings members := by
  induction represents with
  | nil => rfl
  | @cons node member nodes members represents rest induction =>
    rcases represents regular.1 with ⟨result, follows⟩
    have atRuntime (pushed : reduceMembers [] (node :: nodes) = reduceMembers [node] nodes) :
        (createGroup (node :: nodes)).isStatic = false := by
      rcases reduceMembers_of_ne_nil (List.cons_ne_nil node []) nodes with ⟨reduced, equal⟩
      rw [createGroup, pushed, equal]
      rfl
    rw [isDecidedGroup, ← follows.isStatic, ← follows.verdict, ← follows.bareValue]
    cases node with
    | evaluate run => simpa [DynamicNode.isStatic] using atRuntime rfl
    | static node =>
      obtain rfl : node = result := by simpa [evaluateNode] using follows.evaluated
      cases node with
      | nonconformant =>
        have noMatch : schema.verdict siblings member = .noMatch := follows.verdict.symm
        have bare : schema.bareValue siblings member = none := follows.bareValue.symm
        have regular := regular.2 noMatch
        rw [bare] at regular
        exact induction regular
      | conformant => rfl
      | optional => rfl
      | disallowed => exact atRuntime rfl
      | value data => exact atRuntime rfl

theorem represents_group (represents : List.Forall₂ (schema.Represents siblings) nodes members) :
    schema.Represents siblings (createGroup nodes) (.group members) := by
  intro regular
  rcases evaluateMembers_represents represents regular with
    ⟨result, evaluated, verdict, bareValue⟩
  exact ⟨result, (evaluateNode_createGroup siblings nodes).trans evaluated, verdict, bareValue,
    isStatic_createGroup represents regular⟩

/-! ## The whole tree -/

mutual
theorem compile_represents : (ast : Ast) → schema.Supported ast →
    ∃ node, schema.compile schema.nameReference ast = .ok node ∧
      ∀ siblings, schema.Represents siblings node ast
  | .empty, _ | .desc, _ | .flag .provisional, _ | .flag .deprecated, _ | .flag .optional, _
  | .flag .mandatory, _ | .flag .disallowed, _ | .value _, _ =>
    ⟨_, rfl, fun _ _ => ⟨_, rfl, rfl, rfl, rfl⟩⟩
  | .name param, _ => ⟨_, rfl, fun _ => represents_name param⟩
  | .choice choice expr, supported => by
    rcases compile_represents expr supported with ⟨node, compiled, represents⟩
    refine ⟨_, ?_, fun siblings => represents_choice choice (represents siblings)⟩
    rw [compile, compiled]
    rfl
  | .group members, supported => by
    rcases compileMembers_represents members supported with ⟨nodes, compiled, represents⟩
    refine ⟨createGroup nodes, ?_, fun siblings => represents_group (represents siblings)⟩
    rw [compile, compiled]
    rfl
  | .optionalIf param, supported => by
    rcases compile_represents param supported with ⟨node, compiled, represents⟩
    refine ⟨createOptionalIf node, ?_, fun siblings => represents_optionalIf (represents siblings)⟩
    rw [compile, compiled]
    rfl
  | .not param, supported => by
    rcases compile_represents param supported with ⟨node, compiled, represents⟩
    refine ⟨node.createLogicalInversion, ?_, fun siblings => represents_not (represents siblings)⟩
    rw [compile, compiled]
    rfl
  | .binary operator lhs rhs, supported => by
    cases logical : isLogical operator with
    | true =>
      rw [Supported, if_pos logical] at supported
      rcases compile_represents lhs supported.1 with ⟨left, leftCompiled, leftRepresents⟩
      rcases compile_represents rhs supported.2 with ⟨right, rightCompiled, rightRepresents⟩
      rcases represents_logical logical leftRepresents rightRepresents with
        ⟨node, created, represents⟩
      have scope : schema.operandScope operator schema.nameReference lhs =
          schema.nameReference := by
        cases operator <;> first | rfl | exact nomatch logical
      refine ⟨node, ?_, represents⟩
      rw [compile, scope, leftCompiled, rightCompiled]
      exact created
    | false =>
      rw [Supported, if_neg (by simp [logical])] at supported
      exact represents_comparison logical supported.1.1 supported.1.2 supported.2

theorem compileMembers_represents : (members : List Ast) → schema.AllSupported members →
    ∃ nodes, schema.compileMembers schema.nameReference members = .ok nodes ∧
      ∀ siblings, List.Forall₂ (schema.Represents siblings) nodes members
  | [], _ => ⟨[], rfl, fun _ => .nil⟩
  | member :: members, supported => by
    rcases compile_represents member supported.1 with ⟨node, compiled, represents⟩
    rcases compileMembers_represents members supported.2 with
      ⟨nodes, membersCompiled, membersRepresent⟩
    refine ⟨node :: nodes, ?_, fun siblings =>
      .cons (represents siblings) (membersRepresent siblings)⟩
    rw [compileMembers, compiled, membersCompiled]
    rfl
end

end Schema

/-! ## The validator -/

/-- The validator is built, and accepts or refuses a field as the direct evaluation does. -/
def FollowsMeaning (schema : Schema Siblings) (ast : Ast) (siblings : Siblings)
    (isSet : Bool) : Prop :=
  ∃ validator, astToFunction schema ast = .ok validator ∧
    validator siblings isSet = .ok ((schema.verdict siblings ast).accepts isSet)

theorem checkNode_eq {siblings : Siblings} {node : StaticNode} (isSet : Bool)
    (regular : ∀ value, node.bareValue = some value →
      value ≠ .scalar .null ∧ value ≠ .scalar (.boolean false)) :
    checkNode siblings isSet node = .ok (node.verdict.accepts isSet) := by
  cases node with
  | value data =>
    rcases regular data rfl with ⟨notNull, notFalse⟩
    unfold checkNode
    simp only [StaticNode.verdict, isTrue]
    split <;> simp_all [Verdict.ofBool, Verdict.accepts, requireValue, disallowValue]
  | _ => rfl

/-- `AB` is supported, `CD` is not, and the field `foo` is that of the struct. -/
def twoFeatures : Schema Data where
  featuresAvailable name := name = "AB" || name = "CD"
  featuresSupported name := name = "AB"
  nameResolver name := if name = "Foo" then some fun struct => struct.property "foo" else none
  enumMembers _ := none
  isLessThan _ _ := none

end MatterJs.Node.Conformance
