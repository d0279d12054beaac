import MatterJs.Node.ConformanceMeaning

/-! The compiler's folding of what features decide, against the direct evaluation. -/

namespace MatterJs.Node.Conformance

open General Model.Conformance

variable {Siblings : Type}

namespace StaticNode

def verdict : StaticNode → Verdict
  | nonconformant => .noMatch
  | conformant => .mandatory
  | optional => .optional
  | disallowed => .disallowed
  | value data => .ofBool (isTrue data)

def bareValue : StaticNode → Option Data
  | value data => some data
  | _ => none

theorem asConformance_value (data : Data) :
    (value data).asConformance = if isTrue data then conformant else nonconformant := by
  unfold asConformance isTrue
  split <;> simp_all

theorem verdict_ite (holds : Bool) :
    (if holds = true then conformant else nonconformant).verdict = .ofBool holds := by
  cases holds <;> rfl

variable (node : StaticNode)

@[simp] theorem verdict_asConformance : node.asConformance.verdict = node.verdict := by
  cases node with
  | value data =>
    rw [asConformance_value, verdict]
    cases isTrue data <;> rfl
  | _ => rfl

@[simp] theorem bareValue_asConformance : node.asConformance.bareValue = none := by
  cases node with
  | value data =>
    rw [asConformance_value]
    cases isTrue data <;> rfl
  | _ => rfl

theorem asConformance_ne_value (data : Data) : node.asConformance ≠ value data := by
  intro equal
  have bare := bareValue_asConformance node
  rw [equal] at bare
  exact nomatch bare

theorem asBoolean_eq : node.asBoolean = node.verdict.holds := by
  rw [← verdict_asConformance, asBoolean]
  cases equal : node.asConformance with
  | value data => exact absurd equal (asConformance_ne_value node data)
  | _ => rfl

end StaticNode

namespace DynamicNode

def isStatic : DynamicNode Siblings → Bool
  | static _ => true
  | evaluate _ => false

end DynamicNode

open DynamicNode

/-! ## Logical operators -/

namespace Residual

def apply (node : DynamicNode Siblings) : Residual → DynamicNode Siblings
  | constant true => .static .conformant
  | constant false => .static .nonconformant
  | same => node.asNonvalue
  | inverted => node.createLogicalInversion

variable (node : StaticNode)

/-- What becomes of the result of the other operand -/
def applyStatic : Residual → StaticNode
  | constant true => .conformant
  | constant false => .nonconformant
  | same => node.asConformance
  | inverted => invert node.asConformance

theorem evaluateNode_apply {siblings : Siblings} {node : DynamicNode Siblings}
    {result : StaticNode} {remaining : Residual}
    (evaluated : remaining.isConstant = true ∨ node.evaluateNode siblings = .ok result) :
    (remaining.apply node.createBooleanTest).evaluateNode siblings =
      .ok (remaining.applyStatic result) := by
  cases remaining with
  | constant value => cases value <;> rfl
  | same =>
    have evaluated := evaluated.resolve_left nofun
    cases node with
    | static node =>
      obtain rfl : node = result := by simpa [evaluateNode] using evaluated
      cases node with
      | value data =>
        simp only [apply, createBooleanTest, asNonvalue, applyStatic, StaticNode.asBoolean,
          StaticNode.asConformance_value]
        cases isTrue data <;> rfl
      | _ => rfl
    | evaluate run =>
      have run : run siblings = .ok result := evaluated
      simp [apply, createBooleanTest, asNonvalue, evaluateNode, applyStatic, run, Except.map]
  | inverted =>
    have evaluated := evaluated.resolve_left nofun
    cases node with
    | static node =>
      obtain rfl : node = result := by simpa [evaluateNode] using evaluated
      rfl
    | evaluate run =>
      have run : run siblings = .ok result := evaluated
      have twice : result.asConformance.asConformance = result.asConformance := by
        cases equal : result.asConformance with
        | value data => exact absurd equal (result.asConformance_ne_value data)
        | _ => rfl
      simp [apply, createBooleanTest, createLogicalInversion, evaluateNode, applyStatic, run,
        Except.map, twice]

theorem isStatic_apply (node : DynamicNode Siblings) (remaining : Residual) :
    (remaining.apply node.createBooleanTest).isStatic =
      (remaining.isConstant || node.isStatic) := by
  cases remaining with
  | constant value => cases value <;> rfl
  | same =>
    cases node with
    | static node => cases node <;> rfl
    | evaluate run => rfl
  | inverted => cases node <;> rfl

theorem verdict_invert (notDisallowed : node.verdict ≠ .disallowed) :
    (invert node.asConformance).verdict = .ofBool !node.verdict.holds := by
  rw [← StaticNode.verdict_asConformance node] at notDisallowed ⊢
  cases equal : node.asConformance with
  | value data => exact absurd equal (node.asConformance_ne_value data)
  | disallowed => simp [equal, StaticNode.verdict] at notDisallowed
  | _ => rfl

theorem bareValue_invert : (invert node).bareValue = none := by
  cases node <;> rfl

theorem bareValue_applyStatic (remaining : Residual) :
    (remaining.applyStatic node).bareValue = none := by
  cases remaining with
  | constant value => cases value <;> rfl
  | same => exact StaticNode.bareValue_asConformance node
  | inverted => exact bareValue_invert _

theorem verdict_applyStatic {operator : Operator} (logical : isLogical operator = true)
    {known : Bool} {node : StaticNode} (suits : (residual operator known).Suits node.verdict) :
    ((residual operator known).applyStatic node).verdict =
      .ofBool (combine operator known node.verdict.holds) := by
  have same (suits : Suits same node.verdict) :
      (same.applyStatic node).verdict = .ofBool node.verdict.holds := by
    rw [applyStatic, StaticNode.verdict_asConformance, Verdict.ofBool_holds suits.1 suits.2]
  have inverted (suits : Suits inverted node.verdict) :
      (inverted.applyStatic node).verdict = .ofBool !node.verdict.holds :=
    verdict_invert node suits
  cases operator <;> cases logical <;> cases known <;>
    first
      | rfl
      | simpa [residual, combine] using same suits
      | simpa [residual, combine] using inverted suits

theorem verdict_applyStatic_of_unused {operator : Operator} (logical : isLogical operator = true)
    {known : Bool} {node : StaticNode} {verdict : Verdict}
    (suits : (residual operator known).isConstant = true ∨
      node.verdict = verdict ∧ (residual operator known).Suits verdict) :
    ((residual operator known).applyStatic node).verdict =
      .ofBool (combine operator known verdict.holds) := by
  rcases suits with constant | ⟨rfl, suits⟩
  · cases operator <;> cases logical <;> cases known <;> first | rfl | exact nomatch constant
  · exact verdict_applyStatic logical suits

end Residual

theorem combine_comm (operator : Operator) (lhs rhs : Bool) :
    combine operator lhs rhs = combine operator rhs lhs := by
  cases operator <;> cases lhs <;> cases rhs <;> rfl

variable (isLessThan : Data → Data → Option Bool) (siblings : Siblings)
  (members : List (DynamicNode Siblings))

theorem createBinary_static_left {operator : Operator} (logical : isLogical operator = true)
    (lhs : StaticNode) (rhs : DynamicNode Siblings) :
    createBinary isLessThan operator (.static lhs) rhs =
      .ok ((residual operator lhs.verdict.holds).apply rhs.createBooleanTest) := by
  rw [← StaticNode.asBoolean_eq]
  cases operator <;> cases logical <;>
    cases equal : lhs.asBoolean <;>
    simp [createBinary, logicalAnd, logicalOr, logicalXor, createBooleanTest, residual,
      Residual.apply, equal]

theorem createBinary_static_right {operator : Operator} (logical : isLogical operator = true)
    (lhs : Siblings → Except Fault StaticNode) (rhs : StaticNode) :
    createBinary isLessThan operator (.evaluate lhs) (.static rhs) =
      .ok ((residual operator rhs.verdict.holds).apply
        (DynamicNode.evaluate lhs).createBooleanTest) := by
  rw [← StaticNode.asBoolean_eq]
  cases operator <;> cases logical <;>
    cases equal : rhs.asBoolean <;>
    simp [createBinary, logicalAnd, logicalOr, logicalXor, createBooleanTest, residual,
      Residual.apply, equal]

theorem createBinary_evaluate {operator : Operator} (logical : isLogical operator = true)
    (lhs rhs : Siblings → Except Fault StaticNode) :
    createBinary isLessThan operator (.evaluate lhs) (.evaluate rhs) =
      .ok (createLogicalBinaryEvaluator (combine operator)
        (fun siblings => (lhs siblings).map StaticNode.asConformance)
        (fun siblings => (rhs siblings).map StaticNode.asConformance)) := by
  have exclusive : (fun lhs rhs => if lhs then !rhs else rhs) = combine .xor := by
    funext lhs rhs
    cases lhs <;> cases rhs <;> rfl
  cases operator <;> cases logical <;>
    simp only [createBinary, logicalXor, exclusive] <;>
    rfl

def Resolution.node : Resolution Siblings → DynamicNode Siblings
  | known value => .static (.value value)
  | sibling resolver => .evaluate fun siblings => .ok (.value (resolver siblings))

@[simp] theorem Resolution.evaluateNode_node (resolution : Resolution Siblings) :
    resolution.node.evaluateNode siblings = .ok (.value (resolution.valueAt siblings)) := by
  cases resolution <;> rfl

@[simp] theorem Resolution.isStatic_node (resolution : Resolution Siblings) :
    resolution.node.isStatic = resolution.isKnown := by
  cases resolution <;> rfl

theorem performComparison_value {operator : Operator} (relational : isLogical operator = false)
    (supported : operator ≠ .ne) (lhs rhs : Data) :
    performComparison isLessThan operator (.value lhs) (.value rhs) =
      .ok (if !lhs.isNullish && !rhs.isNullish && compares isLessThan operator lhs rhs then
        .conformant else .nonconformant) := by
  cases operator <;>
    first | exact absurd rfl supported | rfl | exact nomatch relational

theorem createComparison_node {operator : Operator} (relational : isLogical operator = false)
    (lhs rhs : Resolution Siblings)
    (supported : operator = .ne → (lhs.isKnown && rhs.isKnown) = false) :
    ∃ node, createComparison isLessThan operator lhs.node rhs.node = .ok node ∧
      node.isStatic = (lhs.isKnown && rhs.isKnown) ∧
      ∀ siblings, node.evaluateNode siblings =
        performComparison isLessThan operator (.value (lhs.valueAt siblings))
          (.value (rhs.valueAt siblings)) := by
  cases lhs with
  | known left =>
    cases rhs with
    | known right =>
      have notNe : operator ≠ .ne := fun equal => nomatch supported equal
      have performed := performComparison_value isLessThan relational notNe left right
      exact ⟨_, congrArg (Except.map _) performed, rfl, fun _ => performed.symm⟩
    | sibling right => exact ⟨_, rfl, rfl, fun _ => rfl⟩
  | sibling left =>
    cases rhs with
    | known right => exact ⟨_, rfl, rfl, fun _ => rfl⟩
    | sibling right => exact ⟨_, rfl, rfl, fun _ => rfl⟩

theorem evaluateMembers_append (others same : List (DynamicNode Siblings))
    (equal : evaluateMembers siblings others = evaluateMembers siblings same) :
    evaluateMembers siblings (members ++ others) = evaluateMembers siblings (members ++ same) := by
  induction members with
  | nil => exact equal
  | cons member members induction => simp [evaluateMembers, induction]

theorem evaluateNode_reduceMembers (reduced : List (DynamicNode Siblings)) :
    match reduceMembers reduced members with
    | .inl member =>
      member.evaluateNode siblings = evaluateMembers siblings (reduced ++ members)
    | .inr reduced' =>
      evaluateMembers siblings reduced' = evaluateMembers siblings (reduced ++ members) := by
  induction members generalizing reduced with
  | nil => simp [reduceMembers]
  | cons member members induction =>
    have push (pushed : reduceMembers reduced (member :: members) =
        reduceMembers (reduced ++ [member]) members) :
        match reduceMembers reduced (member :: members) with
        | .inl node => node.evaluateNode siblings =
            evaluateMembers siblings (reduced ++ member :: members)
        | .inr reduced' => evaluateMembers siblings reduced' =
            evaluateMembers siblings (reduced ++ member :: members) := by
      rw [pushed]
      simpa using induction (reduced ++ [member])
    have last (node : StaticNode) (matching : node ≠ .nonconformant)
        (found : reduceMembers reduced (.static node :: members) =
          if reduced.isEmpty then .inl (.static node)
          else .inr (reduced ++ [.static node])) :
        match reduceMembers reduced (.static node :: members) with
        | .inl member => member.evaluateNode siblings =
            evaluateMembers siblings (reduced ++ .static node :: members)
        | .inr reduced' => evaluateMembers siblings reduced' =
            evaluateMembers siblings (reduced ++ .static node :: members) := by
      have stops (rest : List (DynamicNode Siblings)) :
          evaluateMembers siblings (.static node :: rest) = .ok node := by
        cases node <;> first | rfl | exact absurd rfl matching
      rw [found]
      cases reduced with
      | nil => exact (stops members).symm
      | cons first reduced =>
        exact evaluateMembers_append siblings _ _ _ ((stops []).trans (stops members).symm)
    cases member with
    | evaluate run => exact push rfl
    | static node =>
      cases node with
      | nonconformant =>
        have skipped := induction reduced
        rw [evaluateMembers_append siblings reduced (.static .nonconformant :: members) members rfl]
        exact skipped
      | conformant => exact last _ nofun rfl
      | optional => exact last _ nofun rfl
      | disallowed => exact push rfl
      | value data => exact push rfl

theorem evaluateNode_createGroup :
    (createGroup members).evaluateNode siblings = evaluateMembers siblings members := by
  have reduced := evaluateNode_reduceMembers siblings members []
  unfold createGroup
  cases equal : reduceMembers [] members with
  | inl member => simpa [equal] using reduced
  | inr reduced' => simpa [equal, evaluateNode] using reduced

theorem reduceMembers_of_ne_nil {reduced : List (DynamicNode Siblings)} (nonempty : reduced ≠ [])
    (members : List (DynamicNode Siblings)) :
    ∃ reduced', reduceMembers reduced members = .inr reduced' := by
  induction members generalizing reduced with
  | nil => exact ⟨_, rfl⟩
  | cons member members induction =>
    have found (node : StaticNode) :
        ∃ reduced', (if reduced.isEmpty then .inl (DynamicNode.static node)
          else .inr (reduced ++ [.static node]) :
            DynamicNode Siblings ⊕ List (DynamicNode Siblings)) = .inr reduced' :=
      ⟨_, if_neg (by simpa using nonempty)⟩
    cases member with
    | evaluate run => exact induction (by simp)
    | static node =>
      cases node with
      | nonconformant => exact induction nonempty
      | conformant => exact found _
      | optional => exact found _
      | disallowed => exact induction (by simp)
      | value data => exact induction (by simp)

end MatterJs.Node.Conformance
