import MatterJs.Model.ConformanceSyntax

/-! Freezing the tree of a definition: it fails where something is undefined, which the operands
are that their operators do not find. -/

namespace MatterJs.Model.Conformance

open Parser

/-- An expression may begin here. -/
def startsOperand : List Token → Bool
  | .word _ :: _ | .value _ :: _ | .symbol .not :: _ | .symbol .openParen :: _ => true
  | _ => false

def startsWithOperator : List Token → Bool
  | .symbol (.binary _) :: _ => true
  | _ => false

/-- Behind an opening parenthesis, tokens that begin no expression are skipped, and then comes an
operator that has nothing on its left. -/
def loneOperator : List Token → Bool
  | [] => false
  | token :: tokens =>
    if startsOperand (token :: tokens) then false
    else if startsWithOperator tokens then true
    else
      match tokens with
      | .symbol .comma :: tokens => loneOperator tokens
      | .symbol .closeParen :: _ => false
      | tokens => loneOperator tokens

theorem loneOperator_cons {token : Token} {tokens : List Token}
    (notLone : loneOperator (token :: tokens) = false)
    (skipped : startsOperand (token :: tokens) = false) :
    startsWithOperator tokens = false ∧
      (tokens.head? = some (.symbol .comma) → loneOperator tokens.tail = false) ∧
      (tokens.head? ≠ some (.symbol .comma) → tokens.head? ≠ some (.symbol .closeParen) →
        loneOperator tokens = false) := by
  unfold loneOperator at notLone
  rw [if_neg (by simp [skipped])] at notLone
  split at notLone
  · exact nomatch notLone
  · rename_i noOperator
    refine ⟨by simpa using noOperator, fun comma => ?_, fun noComma noParen => ?_⟩
    · cases tokens with
      | nil => exact nomatch comma
      | cons first tokens =>
        cases comma
        exact notLone
    · split at notLone
      · exact absurd rfl noComma
      · exact absurd rfl noParen
      · exact notLone

/-- `!` and the operators with two operands -/
def needsOperand : Token → Bool
  | .symbol .not | .symbol (.binary _) => true
  | _ => false

/-- An operand follows each operator, and no parenthesis begins with a lone operator. -/
def OperandsFollow : List Token → Prop
  | [] => True
  | token :: tokens =>
    (needsOperand token = true → startsOperand tokens = true) ∧
      (token = .symbol .openParen → loneOperator tokens = false) ∧ OperandsFollow tokens

theorem operandsFollow_drop {tokens : List Token} (follow : OperandsFollow tokens) (count : Nat) :
    OperandsFollow (tokens.drop count) := by
  induction count generalizing tokens with
  | zero => exact follow
  | succ count induction =>
    cases tokens with
    | nil => trivial
    | cons token tokens => exact induction follow.2.2

def Frozen (ast : Ast) : Prop := freezeAst ast = .ok ()

def isToken : Ast → Bool
  | .token _ => true
  | _ => false

theorem frozen_binary {lhs rhs : Ast} (operator : Operator) (left : Frozen lhs)
    (right : Frozen rhs) : Frozen (.binary operator lhs rhs) := by
  unfold Frozen at *
  rw [freezeAst, left]
  exact right

theorem freezeEntries_eq {entries : List Ast} (frozen : ∀ entry ∈ entries, Frozen entry) :
    freezeEntries entries = .ok () := by
  induction entries with
  | nil => rfl
  | cons entry entries induction =>
    rcases List.forall_mem_cons.mp frozen with ⟨first, others⟩
    rw [freezeEntries, first]
    exact induction others

theorem frozen_groupAsAst {group : List Ast} (frozen : ∀ entry ∈ group, Frozen entry) :
    Frozen (groupAsAst group) := by
  unfold groupAsAst
  split
  · exact frozen _ (List.mem_singleton.mpr rfl)
  · exact freezeEntries_eq frozen

theorem isToken_groupAsAst {group : List Ast}
    (first : ∀ entry, group.head? = some entry → isToken entry = false) :
    isToken (groupAsAst group) = false := by
  unfold groupAsAst
  split
  · exact first _ rfl
  · rfl

theorem frozen_parseWord (name : String) :
    Frozen (parseWord name) ∧ isToken (parseWord name) = false := by
  unfold parseWord
  split
  · exact ⟨rfl, rfl⟩
  · split
    · exact ⟨rfl, rfl⟩
    · split <;> exact ⟨rfl, rfl⟩

theorem frozen_parseChoice {expr : Ast} (frozen : Frozen expr) (noToken : isToken expr = false)
    (state : State) :
    Frozen (parseChoice expr state).1 ∧ isToken (parseChoice expr state).1 = false := by
  rcases (parseChoice_spec expr state).1 with same | ⟨choice, same⟩
  · rw [same]
    exact ⟨frozen, noToken⟩
  · rw [same]
    exact ⟨frozen, rfl⟩

theorem operandsFollow_parseChoice {state : State} (follow : OperandsFollow state.tokens)
    (expr : Ast) : OperandsFollow (parseChoice expr state).2.tokens := by
  rcases (parseChoice_spec expr state).2.1 with ⟨count, equal⟩
  rw [equal]
  exact operandsFollow_drop follow count

/-! ## The elements of an expression -/

/-- The last element is no operator, so that each operator finds one behind it. -/
def Closed (elements : List Ast) : Prop :=
  (∀ element ∈ elements, Frozen element) ∧
    ∀ element, elements.getLast? = some element → isToken element = false

theorem closed_cons {element : Ast} {elements : List Ast} (frozen : Frozen element)
    (closed : Closed elements) (notEmpty : elements ≠ []) : Closed (element :: elements) := by
  refine ⟨List.forall_mem_cons.mpr ⟨frozen, closed.1⟩, fun last equal => closed.2 last ?_⟩
  cases elements with
  | nil => exact absurd rfl notEmpty
  | cons other elements => exact equal

theorem foldOperators_ne_nil (operators : List Operator) (lhs : Ast) (elements : List Ast) :
    foldOperators operators lhs elements ≠ [] := by
  fun_induction foldOperators operators lhs elements <;> simp_all

theorem foldOperators_closed (operators : List Operator) : (elements : List Ast) → (lhs : Ast) →
    Closed (lhs :: elements) →
    Closed (foldOperators operators lhs elements) ∧
      ∀ first, (foldOperators operators lhs elements).head? = some first →
        isToken lhs = false → isToken first = false
  | [], lhs, closed => ⟨closed, fun _ equal noToken => by cases equal; exact noToken⟩
  | element :: elements, lhs, closed => by
    rcases List.forall_mem_cons.mp closed.1 with ⟨frozenLhs, frozen⟩
    have rest : Closed (element :: elements) := ⟨frozen, fun last equal => closed.2 last equal⟩
    have skip (skipped : foldOperators operators lhs (element :: elements) =
        lhs :: foldOperators operators element elements) :
        Closed (foldOperators operators lhs (element :: elements)) ∧
          ∀ first, (foldOperators operators lhs (element :: elements)).head? = some first →
            isToken lhs = false → isToken first = false := by
      rw [skipped]
      refine ⟨closed_cons frozenLhs (foldOperators_closed operators elements element rest).1
        (foldOperators_ne_nil _ _ _), fun first equal noToken => ?_⟩
      cases equal
      exact noToken
    cases element with
    | token operator =>
      by_cases folded : operators.contains operator = true
      · cases elements with
        | nil => cases closed.2 (.token operator) rfl
        | cons rhs elements =>
          rw [foldOperators, if_pos folded]
          rcases List.forall_mem_cons.mp (List.forall_mem_cons.mp frozen).2 with
            ⟨frozenRhs, frozenRest⟩
          have frozenNode := frozen_binary operator frozenLhs frozenRhs
          have node : Closed (.binary operator lhs rhs :: elements) := by
            refine ⟨List.forall_mem_cons.mpr ⟨frozenNode, frozenRest⟩, fun last equal => ?_⟩
            cases elements with
            | nil => cases equal; rfl
            | cons other elements => exact closed.2 last equal
          rcases foldOperators_closed operators elements _ node with ⟨result, first⟩
          exact ⟨result, fun other equal _ => first other equal rfl⟩
      · exact skip (by cases elements <;> simp only [foldOperators, if_neg folded])
    | _ => exact skip (by rw [foldOperators]; simp)

theorem exists_foldElements {elements : List Ast} (notEmpty : elements ≠ []) :
    ∃ ast, foldElements elements = some ast := by
  have rounds (precedence : List (List Operator)) :
      precedence.foldl foldPrecedence elements ≠ [] := by
    induction precedence generalizing elements with
    | nil => exact notEmpty
    | cons operators precedence induction =>
      apply induction
      cases elements with
      | nil => exact absurd rfl notEmpty
      | cons lhs elements => exact foldOperators_ne_nil operators lhs elements
  exact ⟨_, List.head?_eq_some_head (rounds binaryOperatorPrecedence)⟩

theorem foldElements_closed {elements : List Ast} (closed : Closed elements) {ast : Ast}
    (folded : foldElements elements = some ast) :
    Frozen ast ∧ ((∀ first, elements.head? = some first → isToken first = false) →
      isToken ast = false) := by
  have round {elements : List Ast} (closed : Closed elements) (operators : List Operator) :
      Closed (foldPrecedence elements operators) ∧
        ((∀ first, elements.head? = some first → isToken first = false) →
          ∀ first, (foldPrecedence elements operators).head? = some first →
            isToken first = false) := by
    cases elements with
    | nil => exact ⟨closed, nofun⟩
    | cons lhs elements =>
      rcases foldOperators_closed operators elements lhs closed with ⟨result, first⟩
      exact ⟨result, fun noToken other equal => first other equal (noToken lhs rfl)⟩
  have rounds (precedence : List (List Operator)) :
      Closed (precedence.foldl foldPrecedence elements) ∧
        ((∀ first, elements.head? = some first → isToken first = false) →
          ∀ first, (precedence.foldl foldPrecedence elements).head? = some first →
            isToken first = false) := by
    clear folded
    induction precedence generalizing elements with
    | nil => exact ⟨closed, id⟩
    | cons operators precedence induction =>
      rcases round closed operators with ⟨next, first⟩
      rcases induction next with ⟨result, last⟩
      exact ⟨result, fun noToken => last (first noToken)⟩
  rcases rounds binaryOperatorPrecedence with ⟨result, first⟩
  exact ⟨result.1 ast (List.mem_of_mem_head? folded), fun noToken => first noToken ast folded⟩

namespace Parser

/-! ## The parser -/

theorem operandsFollow_next {state : State} (follow : OperandsFollow state.tokens) :
    OperandsFollow state.next.tokens := by
  have dropped := operandsFollow_drop follow 1
  rwa [List.drop_one] at dropped

mutual
theorem parseGroup_frozen : (fuel : Nat) → {closing : Option Symbol} → {group : List Ast} →
    {state after : State} → {ast : Ast} →
    parseGroup fuel closing group state = some (ast, after) → OperandsFollow state.tokens →
    (∀ entry ∈ group, Frozen entry) →
    Frozen ast ∧ OperandsFollow after.tokens ∧
      (closing = some .closeParen → (∀ first, group.head? = some first → isToken first = false) →
        (group = [] → loneOperator state.tokens = false) → isToken ast = false)
  | fuel + 1, closing, group, state, after, ast, parsed, follow, frozen => by
    rw [parseGroup] at parsed
    split at parsed
    · rcases Option.some.inj parsed with ⟨⟩
      refine ⟨frozen_groupAsAst frozen, ?_, fun _ first _ => isToken_groupAsAst first⟩
      cases closing <;> exact follow
    · rename_i notEmpty
      rcases Option.bind_eq_some_iff.mp parsed with ⟨⟨members, between⟩, member, parsed⟩
      dsimp only at parsed
      rcases parseMember_frozen fuel member follow with
        ⟨membersFrozen, membersFollow, starts, skips⟩
      have allFrozen : ∀ entry ∈ group ++ members, Frozen entry := fun entry inside =>
        (List.mem_append.mp inside).elim (frozen entry) (membersFrozen entry)
      have rest (start : startsOperand state.tokens = false)
          (notLone : loneOperator state.tokens = false) :
          startsWithOperator state.tokens.tail = false ∧
            (state.tokens.tail.head? = some (.symbol .comma) →
              loneOperator state.tokens.tail.tail = false) ∧
            (state.tokens.tail.head? ≠ some (.symbol .comma) →
              state.tokens.tail.head? ≠ some (.symbol .closeParen) →
              loneOperator state.tokens.tail = false) := by
        cases tokens : state.tokens with
        | nil => simp [tokens] at notEmpty
        | cons token tokens' =>
          rw [tokens] at start notLone
          exact loneOperator_cons notLone start
      have noToken (closes : closing = some .closeParen)
          (first : ∀ first, group.head? = some first → isToken first = false)
          (lone : group = [] → loneOperator state.tokens = false) (entry : Ast)
          (equal : (group ++ members).head? = some entry) : isToken entry = false := by
        cases group with
        | cons head group => exact first entry equal
        | nil =>
          cases start : startsOperand state.tokens with
          | true =>
            rcases starts (by rw [closes]; exact nofun) start with ⟨member, rfl, noToken⟩
            cases equal
            exact noToken
          | false =>
            rcases rest start (lone rfl) with ⟨operator, _⟩
            rw [(skips (by rw [closes]; exact nofun) start operator).1] at equal
            exact nomatch equal
      have left (closes : closing = some .closeParen)
          (lone : group = [] → loneOperator state.tokens = false)
          (nothing : group ++ members = []) :
          (between.tokens.head? = some (.symbol .comma) →
            loneOperator between.tokens.tail = false) ∧
          (between.tokens.head? ≠ some (.symbol .comma) →
            between.tokens.head? ≠ some (.symbol .closeParen) →
            loneOperator between.tokens = false) := by
        rcases List.append_eq_nil_iff.mp nothing with ⟨noGroup, noMembers⟩
        cases start : startsOperand state.tokens with
        | true =>
          rcases starts (by rw [closes]; exact nofun) start with ⟨member, equal, _⟩
          exact absurd (noMembers.symm.trans equal) nofun
        | false =>
          rcases rest start (lone noGroup) with ⟨operator, goesOn⟩
          rw [(skips (by rw [closes]; exact nofun) start operator).2]
          exact goesOn
      split at parsed
      · rename_i comma
        rcases parseGroup_frozen fuel parsed (operandsFollow_next membersFollow) allFrozen with
          ⟨astFrozen, afterFollow, closed⟩
        exact ⟨astFrozen, afterFollow, fun closes first lone =>
          closed closes (noToken closes first lone) fun nothing =>
            (left closes lone nothing).1 (of_decide_eq_true comma)⟩
      · rename_i noComma
        split at parsed
        · rcases Option.some.inj parsed with ⟨⟩
          exact ⟨frozen_groupAsAst allFrozen, operandsFollow_next membersFollow,
            fun closes first lone => isToken_groupAsAst (noToken closes first lone)⟩
        · rename_i noEnd
          rcases parseGroup_frozen fuel parsed membersFollow allFrozen with
            ⟨astFrozen, afterFollow, closed⟩
          refine ⟨astFrozen, afterFollow, fun closes first lone =>
            closed closes (noToken closes first lone) fun nothing => ?_⟩
          subst closes
          exact (left rfl lone nothing).2 (fun comma => noComma (decide_eq_true comma))
            fun paren => noEnd (decide_eq_true paren)

theorem parseMember_frozen : (fuel : Nat) → {closing : Option Symbol} → {state after : State} →
    {members : List Ast} → parseMember fuel closing state = some (members, after) →
    OperandsFollow state.tokens →
    (∀ entry ∈ members, Frozen entry) ∧ OperandsFollow after.tokens ∧
      (closing ≠ none → startsOperand state.tokens = true →
        ∃ entry, members = [entry] ∧ isToken entry = false) ∧
      (closing ≠ none → startsOperand state.tokens = false →
        startsWithOperator state.tokens.tail = false →
        members = [] ∧ after.tokens = state.tokens.tail)
  | fuel + 1, closing, state, after, members, parsed, follow => by
    rw [parseMember] at parsed
    split at parsed
    · rename_i optional
      have isNone : closing = none := by simp_all
      rcases Option.map_eq_some_iff.mp parsed with ⟨⟨param, between⟩, group, equal⟩
      rcases equal with ⟨⟩
      rcases parseGroup_frozen fuel group (operandsFollow_next follow) nofun with
        ⟨frozen, betweenFollow, _⟩
      have paramFrozen : Frozen (.optionalIf param) := frozen
      have choice := frozen_parseChoice paramFrozen rfl between
      refine ⟨fun entry inside => ?_, operandsFollow_parseChoice betweenFollow _,
        fun closes => absurd isNone closes, fun closes => absurd isNone closes⟩
      rw [List.mem_singleton.mp inside]
      exact choice.1
    · rcases Option.map_eq_some_iff.mp parsed with ⟨⟨expr, between⟩, expression, equal⟩
      rcases equal with ⟨⟩
      rcases parseExpression_frozen fuel expression follow with
        ⟨frozen, betweenFollow, starts, skips⟩
      refine ⟨fun entry inside => frozen entry (by simpa using inside), betweenFollow,
        fun _ start => ?_, fun _ start operator => ?_⟩
      · rcases starts start with ⟨ast, rfl, noToken⟩
        exact ⟨ast, rfl, noToken⟩
      · rcases skips start operator with ⟨rfl, tokens⟩
        exact ⟨rfl, tokens⟩

theorem parseExpression_frozen : (fuel : Nat) → {state after : State} → {expr : Option Ast} →
    parseExpression fuel state = some (expr, after) → OperandsFollow state.tokens →
    (∀ ast, expr = some ast → Frozen ast) ∧ OperandsFollow after.tokens ∧
      (startsOperand state.tokens = true → ∃ ast, expr = some ast ∧ isToken ast = false) ∧
      (startsOperand state.tokens = false → startsWithOperator state.tokens.tail = false →
        expr = none ∧ after.tokens = state.tokens.tail)
  | fuel + 1, state, after, expr, parsed, follow => by
    rcases Option.bind_eq_some_iff.mp parsed with ⟨⟨first, between⟩, atomic, parsed⟩
    rcases Option.map_eq_some_iff.mp parsed with ⟨⟨elements, last⟩, operands, equal⟩
    rcases equal with ⟨⟩
    rcases parseAtomicExpression_frozen fuel atomic follow with
      ⟨frozen, betweenFollow, starts, skips⟩
    have closed : Closed first.toList := by
      cases first with
      | none => exact ⟨nofun, nofun⟩
      | some ast =>
        refine ⟨fun entry inside => ?_, fun entry equal => ?_⟩
        · rw [List.mem_singleton.mp inside]
          exact (frozen ast rfl).1
        · cases equal
          exact (frozen ast rfl).2
    rcases parseOperands_frozen fuel operands betweenFollow closed with
      ⟨elementsClosed, afterFollow, head, stops⟩
    refine ⟨fun ast folded => (foldElements_closed elementsClosed folded).1, afterFollow,
      fun start => ?_, fun start operator => ?_⟩
    · cases first with
      | none => exact absurd rfl (starts start)
      | some ast =>
        have sameHead : elements.head? = some ast := head nofun
        have notEmpty : elements ≠ [] := by
          intro empty
          rw [empty] at sameHead
          exact nomatch sameHead
        rcases exists_foldElements notEmpty with ⟨tree, folded⟩
        refine ⟨tree, folded, (foldElements_closed elementsClosed folded).2 ?_⟩
        intro entry equal
        rw [sameHead] at equal
        cases equal
        exact (frozen ast rfl).2
    · rcases skips start with ⟨rfl, tokens⟩
      rcases stops rfl (by rw [tokens]; exact operator) with ⟨rfl, rfl⟩
      exact ⟨rfl, tokens⟩

theorem parseOperands_frozen : (fuel : Nat) → {elements elements' : List Ast} →
    {state after : State} → parseOperands fuel elements state = some (elements', after) →
    OperandsFollow state.tokens → Closed elements →
    Closed elements' ∧ OperandsFollow after.tokens ∧
      (elements ≠ [] → elements'.head? = elements.head?) ∧
      (elements = [] → startsWithOperator state.tokens = false → elements' = [] ∧ after = state)
  | fuel + 1, elements, elements', state, after, parsed, follow, closed => by
    rw [parseOperands] at parsed
    split at parsed
    · rename_i operator rest tokens
      rcases Option.bind_eq_some_iff.mp parsed with ⟨⟨expr, between⟩, atomic, parsed⟩
      rcases parseAtomicExpression_frozen fuel atomic (operandsFollow_next follow) with
        ⟨frozen, betweenFollow, starts, _⟩
      have start : startsOperand state.next.tokens = true := by
        rw [tokens] at follow
        rw [State.next, tokens]
        exact follow.1 rfl
      cases expr with
      | none => exact absurd rfl (starts start)
      | some ast =>
        have appended : Closed (elements ++ [.token operator, ast]) := by
          refine ⟨fun entry inside => ?_, fun entry equal => ?_⟩
          · rcases List.mem_append.mp inside with inside | inside
            · exact closed.1 entry inside
            · rcases List.mem_cons.mp inside with rfl | inside
              · rfl
              · rw [List.mem_singleton.mp inside]
                exact (frozen ast rfl).1
          · rw [List.getLast?_append] at equal
            cases equal
            exact (frozen ast rfl).2
        rcases parseOperands_frozen fuel parsed betweenFollow appended with
          ⟨result, afterFollow, head, _⟩
        refine ⟨result, afterFollow, fun notEmpty => ?_, fun _ noOperator => ?_⟩
        · rw [head (List.append_ne_nil_of_left_ne_nil notEmpty _),
            List.head?_append_of_ne_nil _ notEmpty]
        · rw [tokens] at noOperator
          exact nomatch noOperator
    · rcases Option.some.inj parsed with ⟨⟩
      exact ⟨closed, follow, fun _ => rfl, fun empty _ => ⟨empty, rfl⟩⟩

theorem parseAtomicExpression_frozen : (fuel : Nat) → {state after : State} →
    {expr : Option Ast} → parseAtomicExpression fuel state = some (expr, after) →
    OperandsFollow state.tokens →
    (∀ ast, expr = some ast → Frozen ast ∧ isToken ast = false) ∧ OperandsFollow after.tokens ∧
      (startsOperand state.tokens = true → expr ≠ none) ∧
      (startsOperand state.tokens = false → expr = none ∧ after.tokens = state.tokens.tail)
  | fuel + 1, state, after, expr, parsed, follow => by
    rcases Option.map_eq_some_iff.mp parsed with ⟨⟨content, between⟩, withoutChoice, equal⟩
    rcases parseAtomicExpressionWithoutChoice_frozen fuel withoutChoice follow with
      ⟨frozen, betweenFollow, starts, skips⟩
    cases content with
    | none =>
      rcases equal with ⟨⟩
      exact ⟨frozen, betweenFollow, starts, skips⟩
    | some inner =>
      rcases equal with ⟨⟩
      refine ⟨fun ast equal => ?_, operandsFollow_parseChoice betweenFollow _, fun _ => nofun,
        fun noStart => nomatch (skips noStart).1⟩
      cases equal
      exact frozen_parseChoice (frozen inner rfl).1 (frozen inner rfl).2 between

theorem parseAtomicExpressionWithoutChoice_frozen : (fuel : Nat) → {state after : State} →
    {expr : Option Ast} → parseAtomicExpressionWithoutChoice fuel state = some (expr, after) →
    OperandsFollow state.tokens →
    (∀ ast, expr = some ast → Frozen ast ∧ isToken ast = false) ∧ OperandsFollow after.tokens ∧
      (startsOperand state.tokens = true → expr ≠ none) ∧
      (startsOperand state.tokens = false → expr = none ∧ after.tokens = state.tokens.tail)
  | fuel + 1, ⟨[], errors⟩, after, expr, parsed, follow => by
    rcases Option.some.inj parsed with ⟨⟩
    refine ⟨nofun, follow, ?_, fun _ => ⟨rfl, rfl⟩⟩
    intro start
    cases start
  | fuel + 1, ⟨token :: rest, errors⟩, after, expr, parsed, follow => by
    have operand {ast : Ast} (same : expr = some ast) (frozen : Frozen ast ∧ isToken ast = false)
        (afterFollow : OperandsFollow after.tokens)
        (start : startsOperand (token :: rest) = true) :
        (∀ ast, expr = some ast → Frozen ast ∧ isToken ast = false) ∧
          OperandsFollow after.tokens ∧ (startsOperand (token :: rest) = true → expr ≠ none) ∧
          (startsOperand (token :: rest) = false → expr = none ∧ after.tokens = rest) := by
      subst same
      refine ⟨fun other equal => ?_, afterFollow, fun _ => nofun,
        fun noStart => absurd (start.symm.trans noStart) nofun⟩
      cases equal
      exact frozen
    have skipped (same : expr = none) (tokens : after.tokens = rest)
        (noStart : startsOperand (token :: rest) = false) :
        (∀ ast, expr = some ast → Frozen ast ∧ isToken ast = false) ∧
          OperandsFollow after.tokens ∧ (startsOperand (token :: rest) = true → expr ≠ none) ∧
          (startsOperand (token :: rest) = false → expr = none ∧ after.tokens = rest) := by
      subst same
      rw [tokens]
      exact ⟨nofun, follow.2.2, fun start => absurd (start.symm.trans noStart) nofun,
        fun _ => ⟨rfl, rfl⟩⟩
    cases token with
    | word name =>
      rcases Option.some.inj parsed with ⟨⟩
      exact operand rfl (frozen_parseWord name) follow.2.2 rfl
    | value value =>
      rcases Option.some.inj parsed with ⟨⟩
      exact operand rfl ⟨rfl, rfl⟩ follow.2.2 rfl
    | symbol symbol =>
      cases symbol with
      | not =>
        rcases Option.map_eq_some_iff.mp parsed with ⟨⟨param, last⟩, atomic, same⟩
        rcases same with ⟨⟩
        rcases parseAtomicExpression_frozen fuel atomic follow.2.2 with
          ⟨frozen, afterFollow, starts, _⟩
        cases param with
        | none => exact absurd rfl (starts (follow.1 rfl))
        | some ast => exact operand rfl ⟨(frozen ast rfl).1, rfl⟩ afterFollow rfl
      | openParen =>
        rcases Option.map_eq_some_iff.mp parsed with ⟨⟨ast, last⟩, group, same⟩
        rcases same with ⟨⟩
        rcases parseGroup_frozen fuel group follow.2.2 nofun with
          ⟨frozen, afterFollow, noToken⟩
        exact operand rfl ⟨frozen, noToken rfl nofun fun _ => follow.2.1 rfl⟩ afterFollow rfl
      | _ =>
        rcases Option.some.inj parsed with ⟨⟩
        exact skipped rfl rfl rfl
end

end Parser

end MatterJs.Model.Conformance
