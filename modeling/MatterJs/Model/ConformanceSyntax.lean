import MatterJs.Model.ConformanceParser

/-! What becomes of any definition: the parser ends, and its tree is complete or an error is
reported. -/

namespace MatterJs.Model.Conformance

open Parser

namespace Parser

/-! ## The parser ends -/

theorem State.length_next (state : State) :
    state.next.tokens.length = state.tokens.length - 1 := List.length_tail

theorem State.skip_tokens (state : State) (symbol : Symbol) :
    ∃ count, (state.skip symbol).2.tokens = state.tokens.drop count := by
  unfold State.skip
  split
  · exact ⟨1, List.drop_one.symm⟩
  · exact ⟨0, rfl⟩

theorem State.skip_errors (state : State) (symbol : Symbol) :
    (state.skip symbol).2.errors = state.errors := by
  unfold State.skip
  split <;> rfl

theorem parseChoice_spec (expr : Ast) (state : State) :
    ((parseChoice expr state).1 = expr ∨
      ∃ choice, (parseChoice expr state).1 = .choice choice expr) ∧
    (∃ count, (parseChoice expr state).2.tokens = state.tokens.drop count) ∧
    ∃ errors, (parseChoice expr state).2.errors = state.errors ++ errors ∧
      (errors = [] → (parseChoice expr state).1 = expr ∨
        ∃ text name num orMore orLess, .word text ∈ state.tokens ∧
          extractChoiceNameAndNumber text.toList = (name, num, []) ∧
          (parseChoice expr state).1 = .choice { name, num, orMore, orLess } expr) := by
  unfold parseChoice
  split
  · exact ⟨.inl rfl, ⟨0, rfl⟩, [], (List.append_nil _).symm, fun _ => .inl rfl⟩
  · have suffixes (after : State) :
        (∃ count, ((after.skip .plus).2.skip .minus).2.tokens = after.tokens.drop count) ∧
          ((after.skip .plus).2.skip .minus).2.errors = after.errors := by
      rcases after.skip_tokens .plus with ⟨plusCount, plusTokens⟩
      rcases (after.skip .plus).2.skip_tokens .minus with ⟨minusCount, minusTokens⟩
      refine ⟨⟨plusCount + minusCount, ?_⟩, ?_⟩
      · rw [minusTokens, plusTokens, List.drop_drop]
      · rw [State.skip_errors, State.skip_errors]
    refine ⟨.inr ⟨_, rfl⟩, ?_⟩
    simp only [State.next, State.error]
    split
    · rename_i text rest equal
      rcases extracted : extractChoiceNameAndNumber text.toList with ⟨name, num, errors⟩
      rcases suffixes { tokens := state.tokens.tail.tail, errors := state.errors ++ errors } with
        ⟨⟨count, tokens⟩, reported⟩
      refine ⟨⟨1 + 1 + count, ?_⟩, errors, reported, fun none => ?_⟩
      · rw [← List.drop_drop, ← List.drop_drop, List.drop_one, List.drop_one]
        exact tokens
      · have inside : .word text ∈ state.tokens.tail := by
          rw [equal]
          exact List.mem_cons_self
        subst none
        exact .inr ⟨text, name, num, _, _, List.mem_of_mem_tail inside, extracted, rfl⟩
    · rcases suffixes { tokens := state.tokens.tail, errors := state.errors ++ [_] } with
        ⟨⟨count, tokens⟩, reported⟩
      refine ⟨⟨1 + count, ?_⟩, [_], reported, nofun⟩
      rw [← List.drop_drop, List.drop_one]
      exact tokens

theorem parseChoice_length (expr : Ast) (state : State) :
    (parseChoice expr state).2.tokens.length ≤ state.tokens.length := by
  rcases (parseChoice_spec expr state).2.1 with ⟨count, tokens⟩
  rw [tokens, List.length_drop]
  omega

mutual
theorem parseGroup_ends : (fuel : Nat) → (closing : Option Symbol) → (group : List Ast) →
    (state : State) → 5 * state.tokens.length + 5 ≤ fuel →
    ∃ ast after, parseGroup fuel closing group state = some (ast, after) ∧
      after.tokens.length ≤ state.tokens.length
  | fuel + 1, closing, group, state, enough => by
    rw [parseGroup]
    split
    · exact ⟨_, _, rfl, by cases closing <;> exact le_rfl⟩
    · rename_i notEmpty
      rcases parseMember_ends fuel closing state (by simpa using notEmpty) (by omega) with
        ⟨members, between, parsed, shorter⟩
      have again (next : State) (short : next.tokens.length ≤ between.tokens.length) :
          ∃ ast after, parseGroup fuel closing (group ++ members) next = some (ast, after) ∧
            after.tokens.length ≤ state.tokens.length := by
        rcases parseGroup_ends fuel closing (group ++ members) next (by omega) with
          ⟨ast, after, parsed, shorter⟩
        exact ⟨ast, after, parsed, by omega⟩
      have short : between.next.tokens.length ≤ between.tokens.length := by
        rw [State.length_next]
        omega
      rw [parsed, Option.bind_some]
      dsimp only
      split
      · exact again _ short
      · split
        · exact ⟨_, _, rfl, by omega⟩
        · exact again _ le_rfl

theorem parseMember_ends : (fuel : Nat) → (closing : Option Symbol) → (state : State) →
    state.tokens ≠ [] → 5 * state.tokens.length + 4 ≤ fuel →
    ∃ members after, parseMember fuel closing state = some (members, after) ∧
      after.tokens.length < state.tokens.length
  | fuel + 1, closing, state, notEmpty, enough => by
    have positive : 0 < state.tokens.length := List.length_pos_iff.mpr notEmpty
    rw [parseMember]
    split
    · rcases parseGroup_ends fuel (some .closeBracket) [] state.next (by
        rw [State.length_next]
        omega) with ⟨param, between, parsed, shorter⟩
      rw [parsed]
      refine ⟨_, _, rfl, (parseChoice_length _ _).trans_lt ?_⟩
      rw [State.length_next] at shorter
      omega
    · rcases parseExpression_ends fuel state notEmpty (by omega) with
        ⟨expr, after, parsed, shorter⟩
      rw [parsed]
      exact ⟨_, _, rfl, shorter⟩

theorem parseExpression_ends : (fuel : Nat) → (state : State) → state.tokens ≠ [] →
    5 * state.tokens.length + 3 ≤ fuel →
    ∃ expr after, parseExpression fuel state = some (expr, after) ∧
      after.tokens.length < state.tokens.length
  | fuel + 1, state, notEmpty, enough => by
    rcases parseAtomicExpression_ends fuel state (by omega) with
      ⟨expr, between, atomic, notLonger, shorter⟩
    rcases parseOperands_ends fuel expr.toList between (by omega) with
      ⟨elements, after, operands, operandsShorter⟩
    rw [parseExpression, atomic, Option.bind_some]
    dsimp only
    rw [operands]
    exact ⟨_, after, rfl, operandsShorter.trans_lt (shorter notEmpty)⟩

theorem parseOperands_ends : (fuel : Nat) → (elements : List Ast) → (state : State) →
    5 * state.tokens.length + 2 ≤ fuel →
    ∃ elements' after, parseOperands fuel elements state = some (elements', after) ∧
      after.tokens.length ≤ state.tokens.length
  | fuel + 1, elements, state, enough => by
    rw [parseOperands]
    split
    · rename_i operator rest tokens
      have length : state.next.tokens.length + 1 = state.tokens.length := by
        simp [State.next, tokens]
      rcases parseAtomicExpression_ends fuel state.next (by omega) with
        ⟨expr, between, atomic, notLonger, shorter⟩
      rcases parseOperands_ends fuel (elements ++ .token operator :: expr.toList) between
        (by omega) with ⟨elements', after, operands, operandsShorter⟩
      rw [atomic, Option.bind_some]
      dsimp only
      rw [operands]
      exact ⟨elements', after, rfl, by omega⟩
    · exact ⟨elements, state, rfl, le_rfl⟩

theorem parseAtomicExpression_ends : (fuel : Nat) → (state : State) →
    5 * state.tokens.length + 2 ≤ fuel →
    ∃ expr after, parseAtomicExpression fuel state = some (expr, after) ∧
      after.tokens.length ≤ state.tokens.length ∧
      (state.tokens ≠ [] → after.tokens.length < state.tokens.length)
  | fuel + 1, state, enough => by
    rcases parseAtomicExpressionWithoutChoice_ends fuel state (by omega) with
      ⟨expr, between, parsed, notLonger, shorter⟩
    rw [parseAtomicExpression, parsed]
    cases expr with
    | none => exact ⟨_, _, rfl, notLonger, shorter⟩
    | some expr =>
      have choice := parseChoice_length expr between
      exact ⟨_, _, rfl, choice.trans notLonger, fun notEmpty => choice.trans_lt (shorter notEmpty)⟩

theorem parseAtomicExpressionWithoutChoice_ends : (fuel : Nat) → (state : State) →
    5 * state.tokens.length + 1 ≤ fuel →
    ∃ expr after, parseAtomicExpressionWithoutChoice fuel state = some (expr, after) ∧
      after.tokens.length ≤ state.tokens.length ∧
      (state.tokens ≠ [] → after.tokens.length < state.tokens.length)
  | fuel + 1, ⟨[], errors⟩, enough =>
    ⟨_, _, rfl, le_rfl, fun notEmpty => absurd rfl notEmpty⟩
  | fuel + 1, ⟨token :: rest, errors⟩, enough => by
    rw [parseAtomicExpressionWithoutChoice]
    rw [List.length_cons] at enough
    have shorter {length : Nat} (bound : length ≤ rest.length) :
        length ≤ (token :: rest).length ∧
          (token :: rest ≠ [] → length < (token :: rest).length) := by
      rw [List.length_cons]
      exact ⟨by omega, fun _ => by omega⟩
    cases token with
    | word name => exact ⟨_, _, rfl, shorter le_rfl⟩
    | value value => exact ⟨_, _, rfl, shorter le_rfl⟩
    | symbol symbol =>
      cases symbol with
      | not =>
        rcases parseAtomicExpression_ends fuel ⟨rest, errors⟩ (by
          dsimp only
          omega) with ⟨param, after, parsed, notLonger, _⟩
        simp only [State.next, List.tail_cons, parsed]
        exact ⟨_, _, rfl, shorter notLonger⟩
      | openParen =>
        rcases parseGroup_ends fuel (some .closeParen) [] ⟨rest, errors⟩ (by
          dsimp only
          omega) with ⟨ast, after, parsed, notLonger⟩
        simp only [State.next, List.tail_cons, parsed]
        exact ⟨_, _, rfl, shorter notLonger⟩
      | _ => exact ⟨_, _, rfl, shorter le_rfl⟩
end

end Parser

theorem parseText_ends (text : List Char) : ∃ parsed, parseText text = some parsed := by
  rcases lexed : Lexer.lex text with ⟨tokens, errors⟩
  rcases parseGroup_ends (fuelFor tokens) none [] { tokens, errors } le_rfl with
    ⟨ast, after, parsed, _⟩
  exact ⟨_, by rw [parseText, lexed]; exact congrArg (Option.map _) parsed⟩

/-! ## Complete trees -/

mutual
/-- Every operator has its operands, and every group, choice and pair of brackets its content. -/
def WellFormed : Ast → Prop
  | .empty | .desc | .flag _ | .name _ | .value _ => True
  | .choice _ expr => WellFormed expr
  | .group members => members ≠ [] ∧ AllWellFormed members
  | .optionalIf param | .not param => WellFormed param
  | .binary _ lhs rhs => WellFormed lhs ∧ WellFormed rhs
  | .token _ | .undefined => False

def AllWellFormed : List Ast → Prop
  | [] => True
  | member :: members => WellFormed member ∧ AllWellFormed members
end

theorem allWellFormed_iff {members : List Ast} :
    AllWellFormed members ↔ ∀ member ∈ members, WellFormed member := by
  induction members with
  | nil => simp [AllWellFormed]
  | cons member members induction => simp [AllWellFormed, induction]

theorem wellFormed_groupAsAst {group : List Ast} (notEmpty : group ≠ [])
    (members : ∀ member ∈ group, WellFormed member) : WellFormed (groupAsAst group) := by
  unfold groupAsAst
  split
  · exact members _ List.mem_cons_self
  · exact ⟨notEmpty, allWellFormed_iff.mpr members⟩

theorem wellFormed_parseWord (name : String) : WellFormed (parseWord name) := by
  unfold parseWord
  split
  · trivial
  · split
    · trivial
    · split <;> trivial

/-- Operands with an operator between each two of them -/
inductive Alternating (Operand : Ast → Prop) : List Ast → Prop
  | operand {ast : Ast} : Operand ast → Alternating Operand [ast]
  | operator {ast : Ast} (operator : Operator) {elements : List Ast} :
      Operand ast → Alternating Operand elements →
      Alternating Operand (ast :: .token operator :: elements)

namespace Alternating

variable {Operand : Ast → Prop}

theorem exists_cons {elements : List Ast} (alternating : Alternating Operand elements) :
    ∃ ast rest, elements = ast :: rest ∧ Operand ast ∧
      ∀ other, Operand other → Alternating Operand (other :: rest) := by
  cases alternating with
  | operand holds => exact ⟨_, _, rfl, holds, fun _ holds => .operand holds⟩
  | operator operator holds rest =>
    exact ⟨_, _, rfl, holds, fun _ holds => .operator operator holds rest⟩

theorem append_operator {elements : List Ast} (alternating : Alternating Operand elements)
    (operator : Operator) {ast : Ast} (holds : Operand ast) :
    Alternating Operand (elements ++ [.token operator, ast]) := by
  induction alternating with
  | operand first => exact .operator operator first (.operand holds)
  | operator between first rest induction => exact .operator between first induction

variable (noToken : ∀ operator, ¬Operand (.token operator))
  (binary : ∀ operator lhs rhs, Operand lhs → Operand rhs → Operand (.binary operator lhs rhs))

include noToken binary in
theorem foldOperators (operators : List Operator) : (elements : List Ast) → (lhs : Ast) →
    Alternating Operand (lhs :: elements) →
    Alternating Operand (foldOperators operators lhs elements)
  | [], lhs, alternating => alternating
  | element :: rhs :: elements, lhs, alternating => by
    cases alternating with
    | operator operator holds rest =>
      rcases rest.exists_cons with ⟨_, _, ⟨⟩, rhsHolds, replace⟩
      rw [Parser.foldOperators]
      split
      · exact Alternating.foldOperators operators elements _
          (replace _ (binary operator lhs rhs holds rhsHolds))
      · have skipped : Parser.foldOperators operators (.token operator) (rhs :: elements) =
            .token operator :: Parser.foldOperators operators rhs elements := by
          cases rhs with
          | token other => exact absurd rhsHolds (noToken other)
          | _ => rw [Parser.foldOperators]; exact nofun
        rw [skipped]
        exact .operator operator holds (Alternating.foldOperators operators elements rhs rest)

include noToken binary in
theorem foldElements {elements : List Ast} (alternating : Alternating Operand elements) :
    ∃ ast, foldElements elements = some ast ∧ Operand ast := by
  have round {elements : List Ast} (alternating : Alternating Operand elements)
      (operators : List Operator) :
      Alternating Operand (foldPrecedence elements operators) := by
    rcases alternating.exists_cons with ⟨ast, rest, rfl, _, _⟩
    exact alternating.foldOperators noToken binary operators rest ast
  have rounds (precedence : List (List Operator)) :
      Alternating Operand (precedence.foldl foldPrecedence elements) := by
    induction precedence generalizing elements with
    | nil => exact alternating
    | cons operators precedence induction => exact induction (round alternating operators)
  rcases (rounds binaryOperatorPrecedence).exists_cons with ⟨ast, rest, equal, holds, _⟩
  exact ⟨ast, by rw [Parser.foldElements, equal]; rfl, holds⟩

end Alternating

/-! ## What the trees are without a report -/

/-- Properties of trees that follow the parser: what holds of the tokens and of the parts of a tree
gives what holds of the tree. Optional brackets are at the top level only. -/
structure Grammar where
  Admits : Token → Prop
  Chosen : Choice → Prop
  Expression : Ast → Prop
  TopLevel : Ast → Prop
  Whole : Ast → Prop
  chosen {text : String} {name : String} {num : Nat} (orMore orLess : Bool) :
    Admits (.word text) → extractChoiceNameAndNumber text.toList = (name, num, []) →
    Chosen { name, num, orMore, orLess }
  word {name : String} : Admits (.word name) → Expression (parseWord name)
  value {value : FieldValue} : Admits (.value value) → Expression (.value value)
  not {param : Ast} : Expression param → Expression (.not param)
  binary (operator : Operator) (lhs rhs : Ast) :
    Expression lhs → Expression rhs → Expression (.binary operator lhs rhs)
  choice {choice : Choice} {expr : Ast} :
    Chosen choice → Expression expr → Expression (.choice choice expr)
  group {members : List Ast} : members ≠ [] → (∀ member ∈ members, Expression member) →
    Expression (groupAsAst members)
  topLevel {ast : Ast} : Expression ast → TopLevel ast
  optionalIf {param : Ast} : Expression param → TopLevel (.optionalIf param)
  topChoice {choice : Choice} {param : Ast} :
    Chosen choice → Expression param → TopLevel (.choice choice (.optionalIf param))
  topGroup {members : List Ast} : members ≠ [] → (∀ member ∈ members, TopLevel member) →
    Whole (groupAsAst members)
  noToken (operator : Operator) : ¬Expression (.token operator)

/-- What the members of a group are that ends with a symbol, or with the text -/
def Grammar.Member (grammar : Grammar) : Option Symbol → Ast → Prop
  | some _ => grammar.Expression
  | none => grammar.TopLevel

def Grammar.Group (grammar : Grammar) : Option Symbol → Ast → Prop
  | some _ => grammar.Expression
  | none => grammar.Whole

namespace Parser

def Reports (before after : State) (holds : Prop) : Prop :=
  (∃ count, after.tokens = before.tokens.drop count) ∧
    ∃ errors, after.errors = before.errors ++ errors ∧ (errors = [] → holds)

namespace Reports

variable {before between after : State} {holds other : Prop}

theorem nothing (holds : Prop) (proof : holds) : Reports before before holds :=
  ⟨⟨0, rfl⟩, [], (List.append_nil _).symm, fun _ => proof⟩

theorem next (holds : Prop) (proof : holds) : Reports before before.next holds :=
  ⟨⟨1, List.drop_one.symm⟩, [], (List.append_nil _).symm, fun _ => proof⟩

theorem error (code message : String) (holds : Prop) :
    Reports before (before.error code message) holds := ⟨⟨0, rfl⟩, [_], rfl, nofun⟩

theorem imp (reports : Reports before after holds) (implies : holds → other) :
    Reports before after other := by
  rcases reports with ⟨suffix, errors, equal, proof⟩
  exact ⟨suffix, errors, equal, fun empty => implies (proof empty)⟩

theorem trans (first : Reports before between holds) (second : Reports between after other) :
    Reports before after (holds ∧ other) := by
  rcases first with ⟨⟨count, tokens⟩, errors, equal, proof⟩
  rcases second with ⟨⟨moreCount, moreTokens⟩, more, moreEqual, moreProof⟩
  refine ⟨⟨count + moreCount, by rw [moreTokens, tokens, List.drop_drop]⟩,
    errors ++ more, by rw [moreEqual, equal, List.append_assoc], fun empty => ?_⟩
  rcases List.append_eq_nil_iff.mp empty with ⟨none, noMore⟩
  exact ⟨proof none, moreProof noMore⟩

theorem admits (reports : Reports before after holds) {Admits : Token → Prop}
    (admitted : ∀ token ∈ before.tokens, Admits token) : ∀ token ∈ after.tokens, Admits token := by
  rcases reports.1 with ⟨count, tokens⟩
  intro token inside
  rw [tokens] at inside
  exact admitted token (List.mem_of_mem_drop inside)

end Reports

variable (grammar : Grammar)

theorem admits_next {state : State} (admitted : ∀ token ∈ state.tokens, grammar.Admits token) :
    ∀ token ∈ state.next.tokens, grammar.Admits token :=
  (Reports.next True trivial).admits admitted

theorem reports_parseChoice (Chooses : Ast → Prop) {expr : Ast} {state : State}
    (admitted : ∀ token ∈ state.tokens, grammar.Admits token) :
    Reports state (parseChoice expr state).2
      (Chooses expr → (∀ choice, grammar.Chosen choice → Chooses (.choice choice expr)) →
        Chooses (parseChoice expr state).1) := by
  rcases parseChoice_spec expr state with ⟨_, suffix, errors, equal, result⟩
  refine ⟨suffix, errors, equal, fun empty bare wraps => ?_⟩
  rcases result empty with same | ⟨text, name, num, orMore, orLess, inside, extracted, same⟩
  · rwa [same]
  · rw [same]
    exact wraps _ (grammar.chosen orMore orLess (admitted _ inside) extracted)

theorem group_groupAsAst {closing : Option Symbol} {group : List Ast} (notEmpty : group ≠ [])
    (members : ∀ member ∈ group, grammar.Member closing member) :
    grammar.Group closing (groupAsAst group) := by
  cases closing with
  | some symbol => exact grammar.group notEmpty members
  | none => exact grammar.topGroup notEmpty members

mutual
theorem parseGroup_reports : (fuel : Nat) → {closing : Option Symbol} → {group : List Ast} →
    {state after : State} → {ast : Ast} →
    parseGroup fuel closing group state = some (ast, after) →
    (∀ token ∈ state.tokens, grammar.Admits token) →
    Reports state after
      ((∀ member ∈ group, grammar.Member closing member) →
        group ≠ [] ∨ closing ≠ none ∨ state.tokens ≠ [] → grammar.Group closing ast)
  | fuel + 1, closing, group, state, after, ast, parsed, admitted => by
    rw [parseGroup] at parsed
    split at parsed
    · rename_i empty
      rcases Option.some.inj parsed with ⟨⟩
      cases closing with
      | some symbol => exact .error _ _ _
      | none =>
        refine .nothing _ fun members content => ?_
        have notEmpty : group ≠ [] := by
          rcases content with notEmpty | closes | tokens
          · exact notEmpty
          · exact absurd rfl closes
          · exact absurd (List.isEmpty_iff.mp empty) tokens
        exact group_groupAsAst grammar notEmpty members
    · rcases Option.bind_eq_some_iff.mp parsed with ⟨⟨others, between⟩, member, parsed⟩
      dsimp only at parsed
      have pushed := parseMember_reports fuel member admitted
      have betweenAdmitted := pushed.admits admitted
      have joined (members : ∀ member ∈ group, grammar.Member closing member)
          (holds : others ≠ [] ∧ ∀ member ∈ others, grammar.Member closing member) :
          group ++ others ≠ [] ∧ ∀ member ∈ group ++ others, grammar.Member closing member :=
        ⟨List.append_ne_nil_of_right_ne_nil _ holds.1, fun entry inside =>
          (List.mem_append.mp inside).elim (members entry) (holds.2 entry)⟩
      split at parsed
      · refine ((pushed.trans (.next True trivial)).trans
          (parseGroup_reports fuel parsed (admits_next grammar betweenAdmitted))).imp
          fun holds members _ => ?_
        rcases joined members holds.1.1 with ⟨notEmpty, all⟩
        exact holds.2 all (.inl notEmpty)
      · split at parsed
        · rcases Option.some.inj parsed with ⟨⟩
          refine (pushed.trans (.next True trivial)).imp fun holds members _ => ?_
          rcases joined members holds.1 with ⟨notEmpty, all⟩
          exact group_groupAsAst grammar notEmpty all
        · refine (pushed.trans (parseGroup_reports fuel parsed betweenAdmitted)).imp
            fun holds members _ => ?_
          rcases joined members holds.1 with ⟨notEmpty, all⟩
          exact holds.2 all (.inl notEmpty)

theorem parseMember_reports : (fuel : Nat) → {closing : Option Symbol} → {state after : State} →
    {members : List Ast} → parseMember fuel closing state = some (members, after) →
    (∀ token ∈ state.tokens, grammar.Admits token) →
    Reports state after (members ≠ [] ∧ ∀ member ∈ members, grammar.Member closing member)
  | fuel + 1, closing, state, after, members, parsed, admitted => by
    rw [parseMember] at parsed
    split at parsed
    · rename_i optional
      rcases Option.map_eq_some_iff.mp parsed with ⟨⟨param, between⟩, group, equal⟩
      rcases equal with ⟨⟩
      have isNone : closing = none := by simp_all
      subst isNone
      have content := (Reports.next True trivial).trans
        (parseGroup_reports fuel group (admits_next grammar admitted))
      have choice := @reports_parseChoice grammar grammar.TopLevel (.optionalIf param) between
        (content.admits admitted)
      refine (content.trans choice).imp fun holds => ⟨nofun, fun entry inside => ?_⟩
      have expression := holds.1.2 nofun (.inr (.inl nofun))
      rw [List.mem_singleton.mp inside]
      exact holds.2 (grammar.optionalIf expression) fun _ chosen =>
        grammar.topChoice chosen expression
    · rcases Option.map_eq_some_iff.mp parsed with ⟨⟨expr, between⟩, expression, equal⟩
      rcases equal with ⟨⟩
      refine (parseExpression_reports fuel expression admitted).imp fun holds => ?_
      rcases holds with ⟨ast, rfl, holds⟩
      refine ⟨nofun, fun entry inside => ?_⟩
      rw [List.mem_singleton.mp inside]
      cases closing with
      | some symbol => exact holds
      | none => exact grammar.topLevel holds

theorem parseExpression_reports : (fuel : Nat) → {state after : State} → {expr : Option Ast} →
    parseExpression fuel state = some (expr, after) →
    (∀ token ∈ state.tokens, grammar.Admits token) →
    Reports state after (∃ ast, expr = some ast ∧ grammar.Expression ast)
  | fuel + 1, state, after, expr, parsed, admitted => by
    rcases Option.bind_eq_some_iff.mp parsed with ⟨⟨first, between⟩, atomic, parsed⟩
    rcases Option.map_eq_some_iff.mp parsed with ⟨⟨elements, last⟩, operands, equal⟩
    rcases equal with ⟨⟩
    have operand := parseAtomicExpression_reports fuel atomic admitted
    refine (operand.trans (parseOperands_reports fuel operands (operand.admits admitted))).imp
      fun holds => ?_
    rcases holds with ⟨⟨ast, rfl, holds⟩, alternating⟩
    exact (alternating (.operand holds)).foldElements grammar.noToken grammar.binary

theorem parseOperands_reports : (fuel : Nat) → {elements elements' : List Ast} →
    {state after : State} → parseOperands fuel elements state = some (elements', after) →
    (∀ token ∈ state.tokens, grammar.Admits token) →
    Reports state after
      (Alternating grammar.Expression elements → Alternating grammar.Expression elements')
  | fuel + 1, elements, elements', state, after, parsed, admitted => by
    rw [parseOperands] at parsed
    split at parsed
    · rename_i operator rest tokens
      rcases Option.bind_eq_some_iff.mp parsed with ⟨⟨expr, between⟩, atomic, parsed⟩
      have operand := (Reports.next True trivial).trans
        (parseAtomicExpression_reports fuel atomic (admits_next grammar admitted))
      refine (operand.trans (parseOperands_reports fuel parsed (operand.admits admitted))).imp
        fun holds alternating => ?_
      rcases holds with ⟨⟨_, ast, rfl, holds⟩, others⟩
      exact others (alternating.append_operator operator holds)
    · rcases Option.some.inj parsed with ⟨⟩
      exact .nothing _ id

theorem parseAtomicExpression_reports : (fuel : Nat) → {state after : State} →
    {expr : Option Ast} → parseAtomicExpression fuel state = some (expr, after) →
    (∀ token ∈ state.tokens, grammar.Admits token) →
    Reports state after (∃ ast, expr = some ast ∧ grammar.Expression ast)
  | fuel + 1, state, after, expr, parsed, admitted => by
    rcases Option.map_eq_some_iff.mp parsed with ⟨⟨content, between⟩, withoutChoice, equal⟩
    have reports := parseAtomicExpressionWithoutChoice_reports fuel withoutChoice admitted
    cases content with
    | none =>
      rcases equal with ⟨⟩
      exact reports
    | some inner =>
      rcases equal with ⟨⟩
      have choice := @reports_parseChoice grammar grammar.Expression inner between
        (reports.admits admitted)
      refine (reports.trans choice).imp fun holds => ?_
      rcases holds.1 with ⟨_, ⟨⟩, expression⟩
      exact ⟨_, rfl, holds.2 expression fun _ chosen => grammar.choice chosen expression⟩

theorem parseAtomicExpressionWithoutChoice_reports : (fuel : Nat) → {state after : State} →
    {expr : Option Ast} → parseAtomicExpressionWithoutChoice fuel state = some (expr, after) →
    (∀ token ∈ state.tokens, grammar.Admits token) →
    Reports state after (∃ ast, expr = some ast ∧ grammar.Expression ast)
  | fuel + 1, ⟨[], errors⟩, after, expr, parsed, admitted => by
    rcases Option.some.inj parsed with ⟨⟩
    exact .error _ _ _
  | fuel + 1, ⟨token :: rest, errors⟩, after, expr, parsed, admitted => by
    rcases List.forall_mem_cons.mp admitted with ⟨first, others⟩
    cases token with
    | word name =>
      rcases Option.some.inj parsed with ⟨⟩
      exact .next _ ⟨_, rfl, grammar.word first⟩
    | value value =>
      rcases Option.some.inj parsed with ⟨⟩
      exact .next _ ⟨_, rfl, grammar.value first⟩
    | symbol symbol =>
      cases symbol with
      | not =>
        rcases Option.map_eq_some_iff.mp parsed with ⟨⟨param, last⟩, atomic, equal⟩
        rcases equal with ⟨⟩
        refine ((Reports.next True trivial).trans
          (parseAtomicExpression_reports fuel atomic others)).imp fun holds => ?_
        rcases holds with ⟨_, ast, rfl, expression⟩
        exact ⟨_, rfl, grammar.not expression⟩
      | openParen =>
        rcases Option.map_eq_some_iff.mp parsed with ⟨⟨ast, last⟩, group, equal⟩
        rcases equal with ⟨⟩
        exact ((Reports.next True trivial).trans
          (parseGroup_reports fuel group others)).imp
          fun holds => ⟨_, rfl, holds.2 nofun (.inr (.inl nofun))⟩
      | _ =>
        rcases Option.some.inj parsed with ⟨⟩
        exact ⟨⟨1, rfl⟩, [_], rfl, nofun⟩
end

end Parser

/-- Without a report a tree is complete. -/
def Grammar.wellFormed : Grammar where
  Admits _ := True
  Chosen _ := True
  Expression := WellFormed
  TopLevel := WellFormed
  Whole := WellFormed
  chosen _ _ _ _ := trivial
  word _ := wellFormed_parseWord _
  value _ := trivial
  not := id
  binary _ _ _ lhs rhs := ⟨lhs, rhs⟩
  choice _ := id
  group := wellFormed_groupAsAst
  topLevel := id
  optionalIf := id
  topChoice _ := id
  topGroup := wellFormed_groupAsAst
  noToken _ := id

end MatterJs.Model.Conformance
