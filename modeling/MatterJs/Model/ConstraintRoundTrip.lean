import MatterJs.Model.ConstraintSpelling

/-! Parsing what `Serializer.serialize` writes. -/

namespace MatterJs.Model.Constraint

open Conformance (FieldValue Symbol NoExponent)

open Part

def BeginsValue : Token → Prop
  | .value _ | .word _ | .symbol _ | .keyword .true | .keyword .false => True
  | _ => False

theorem numberTokens_front (wrap : Decimal → FieldValue) (number : Decimal) :
    ∃ token tokens, numberTokens wrap number = token :: tokens ∧ BeginsValue token := by
  rw [numberTokens, unsignedTokens]
  split
  · exact ⟨_, _, rfl, trivial⟩
  · split <;> exact ⟨_, _, rfl, trivial⟩

theorem valueTokens_front (inExpr : Bool) (value : Expression) :
    ∃ token tokens, valueTokens inExpr value = token :: tokens ∧ BeginsValue token := by
  induction value generalizing inExpr with
  | literal value =>
    cases value with
    | null => exact ⟨_, _, rfl, trivial⟩
    | _ => exact numberTokens_front _ _
  | boolean value => cases value <;> exact ⟨_, _, rfl, trivial⟩
  | reference name => exact ⟨_, _, rfl, trivial⟩
  | operator type lhs rhs left right =>
    cases inExpr with
    | true => exact ⟨_, _, rfl, trivial⟩
    | false =>
      rcases left true with ⟨token, tokens, front, begins⟩
      exact ⟨token, _, by rw [valueTokens, front]; rfl, begins⟩

namespace Parser

theorem parse_number {wrap : Decimal → FieldValue} {number : Decimal}
    (noExponent : NoExponent number)
    (isSigned : ∀ number : Decimal, signed .minus (wrap number) = some (wrap number.neg))
    (fuel : Nat) (rest : List Token) (errors : List Conformance.SyntaxError) :
    parseValueExpression (fuel + 1) ⟨numberTokens wrap number ++ rest, errors⟩ =
      some (some (.literal (wrap number)), ⟨rest, errors⟩) := by
  have unsigned : unsignedTokens wrap number.abs = [.value (wrap number.abs)] :=
    if_pos noExponent
  rw [numberTokens, unsigned]
  by_cases negative : number.negative = true
  · rw [if_pos negative]
    change some (parseSigned .minus ⟨.value (wrap number.abs) :: rest, errors⟩) = _
    rw [parseSigned]
    dsimp only
    rw [isSigned, Decimal.neg_abs negative]
    rfl
  · rw [if_neg negative, Decimal.abs_of_not_negative (eq_false_of_ne_true negative)]
    rfl

theorem parse_literal {value : FieldValue} (notNull : value ≠ .null)
    (noExponent : ∀ number ∈ decimalOf value, NoExponent number) (fuel : Nat)
    (rest : List Token) (errors : List Conformance.SyntaxError) :
    parseValueExpression (fuel + 1) ⟨literalTokens value ++ rest, errors⟩ =
      some (some (.literal value), ⟨rest, errors⟩) := by
  cases value with
  | null => exact absurd rfl notNull
  | number value =>
    exact parse_number (noExponent value List.mem_cons_self) (fun _ => rfl) fuel rest errors
  | percent value =>
    exact parse_number (noExponent value List.mem_cons_self) (fun _ => rfl) fuel rest errors
  | celsius value =>
    exact parse_number (noExponent value List.mem_cons_self) (fun _ => rfl) fuel rest errors

def RereadsValue (value : Expression) : Prop :=
  ∀ fuel rest errors, 2 * (valueTokens true value).length ≤ fuel →
    parseValueExpression fuel ⟨valueTokens true value ++ rest, errors⟩ =
      some (some value, ⟨rest, errors⟩)

/-- An expression is read back where no operator follows. -/
def RereadsExpression (value : Expression) : Prop :=
  ∀ fuel rest errors, State.operator? ⟨rest, errors⟩ = none →
    2 * (valueTokens false value).length + 1 ≤ fuel →
      parseExpression fuel ⟨valueTokens false value ++ rest, errors⟩ =
        some (some value, ⟨rest, errors⟩)

theorem rereadsExpression_of_value {value : Expression}
    (same : valueTokens false value = valueTokens true value)
    (rereads : RereadsValue value) : RereadsExpression value := by
  intro fuel rest errors noOperator enough
  cases fuel with
  | zero => omega
  | succ fuel =>
    rw [same] at enough ⊢
    rw [parseExpression, rereads fuel rest errors (by omega), Option.bind_some]
    dsimp only
    rw [noOperator]

theorem operator_symbol (type : Sign) (rest : List Token) (errors : List Conformance.SyntaxError) :
    State.operator? ⟨.symbol type.symbol :: rest, errors⟩ = some type := by
  cases type <;> rfl

theorem rereadsExpression_operator {type : Sign} {lhs rhs : Expression}
    (left : RereadsValue lhs) (right : RereadsValue rhs) :
    RereadsExpression (.operator type lhs rhs) := by
  intro fuel rest errors _ enough
  have inOrder : valueTokens false (.operator type lhs rhs) ++ rest =
      valueTokens true lhs ++ .symbol type.symbol :: (valueTokens true rhs ++ rest) :=
    List.append_assoc _ (_ :: _) _
  have length : (valueTokens false (.operator type lhs rhs)).length =
      (valueTokens true lhs).length + ((valueTokens true rhs).length + 1) :=
    List.length_append
  cases fuel with
  | zero => omega
  | succ fuel =>
    rw [inOrder, parseExpression, left fuel _ errors (by omega), Option.bind_some]
    dsimp only
    rw [operator_symbol]
    dsimp only [State.next, List.tail_cons]
    rw [right fuel rest errors (by omega)]
    rfl

theorem rereadsValue_operator {type : Sign} {lhs rhs : Expression}
    (sum : RereadsExpression (.operator type lhs rhs)) :
    RereadsValue (.operator type lhs rhs) := by
  intro fuel rest errors enough
  have inOrder : valueTokens true (.operator type lhs rhs) ++ rest =
      .symbol .openParen :: (valueTokens false (.operator type lhs rhs) ++
        .symbol .closeParen :: rest) := by
    change .symbol .openParen :: (valueTokens false (.operator type lhs rhs) ++
      [.symbol .closeParen] ++ rest) = _
    rw [List.append_assoc]
    rfl
  have length : (valueTokens true (.operator type lhs rhs)).length =
      (valueTokens false (.operator type lhs rhs)).length + 1 + 1 :=
    congrArg Nat.succ (List.length_append.trans rfl)
  cases fuel with
  | zero => omega
  | succ fuel =>
    rw [inOrder, parseValueExpression]
    dsimp only [State.next, List.tail_cons]
    rw [sum fuel _ errors rfl (by omega)]
    rfl

theorem rereads_value {value : Expression} (fine : value.IsFine)
    (noExponent : ∀ number ∈ value.numbers, NoExponent number) :
    RereadsValue value ∧ RereadsExpression value := by
  -- An operand that is no sum is written the same with and without parentheses.
  have alone {value : Expression} (same : valueTokens false value = valueTokens true value)
      (rereads : RereadsValue value) : RereadsValue value ∧ RereadsExpression value :=
    ⟨rereads, rereadsExpression_of_value same rereads⟩
  induction value with
  | literal value =>
    refine alone rfl fun fuel rest errors enough => ?_
    rcases valueTokens_front true (.literal value) with ⟨token, tokens, front, _⟩
    cases fuel with
    | zero =>
      rw [front] at enough
      exact nomatch enough
    | succ fuel => exact parse_literal fine noExponent fuel rest errors
  | boolean value =>
    refine alone rfl fun fuel rest errors enough => ?_
    cases fuel with
    | zero => exact nomatch enough
    | succ fuel => cases value <;> rfl
  | reference name =>
    refine alone rfl fun fuel rest errors enough => ?_
    cases fuel with
    | zero => exact nomatch enough
    | succ fuel =>
      change some (some (Expression.reference (camelize name false)), _) = _
      rw [fine.isCamel]
      rfl
  | operator type lhs rhs left right =>
    have leftRereads := left fine.1 fun number member =>
      noExponent number (List.mem_append_left _ member)
    have rightRereads := right fine.2 fun number member =>
      noExponent number (List.mem_append_right _ member)
    have sum : RereadsExpression (.operator type lhs rhs) :=
      rereadsExpression_operator leftRereads.1 rightRereads.1
    exact ⟨rereadsValue_operator sum, sum⟩

/-- What ends a part -/
def Stops (rest : List Token) : Prop :=
  rest = [] ∨ ∃ tokens, rest = .symbol .comma :: tokens ∨ rest = .symbol .closeBracket :: tokens

/-- What ends a part without what may be behind it -/
structure StopsAtom (rest : List Token) : Prop where
  noOperator : ∀ errors, State.operator? ⟨rest, errors⟩ = none
  noTo : ∀ errors, State.atTo ⟨rest, errors⟩ = false

def AllNumbers (values : List Expression) : Prop :=
  ∀ value ∈ values, ∀ number ∈ value.numbers, NoExponent number

theorem parse_value {content : Expression} (fine : content.IsFine)
    (noExponent : ∀ number ∈ content.numbers, NoExponent number) {fuel : Nat}
    {rest : List Token} (stops : StopsAtom rest) (errors : List Conformance.SyntaxError)
    (enough : 2 * (valueTokens false content).length + 1 ≤ fuel) :
    parseRange fuel ⟨valueTokens false content ++ rest, errors⟩ =
      some (some (Atom.value content).ast, ⟨rest, errors⟩) := by
  rw [parseRange, (rereads_value fine noExponent).2 fuel rest errors (stops.noOperator _) enough,
    Option.bind_some]
  dsimp only
  rw [stops.noTo]
  rfl

theorem parse_range {min max : Expression} (minFine : min.IsFine) (maxFine : max.IsFine)
    (minNoExponent : ∀ number ∈ min.numbers, NoExponent number)
    (maxNoExponent : ∀ number ∈ max.numbers, NoExponent number) {fuel : Nat}
    {rest : List Token} (stops : StopsAtom rest) (errors : List Conformance.SyntaxError)
    (enough : 2 * (Atom.range min max).tokens.length + 1 ≤ fuel) :
    parseRange fuel ⟨(Atom.range min max).tokens ++ rest, errors⟩ =
      some (some (Atom.range min max).ast, ⟨rest, errors⟩) := by
  have inOrder : (Atom.range min max).tokens ++ rest =
      valueTokens false min ++ .keyword .upTo :: (valueTokens false max ++ rest) :=
    List.append_assoc _ (_ :: _) _
  have length : (Atom.range min max).tokens.length =
      (valueTokens false min).length + ((valueTokens false max).length + 1) :=
    List.length_append
  rw [inOrder, parseRange, (rereads_value minFine minNoExponent).2 fuel _ errors rfl (by omega),
    Option.bind_some]
  dsimp only [State.next, List.tail_cons]
  rw [(rereads_value maxFine maxNoExponent).2 fuel rest errors (stops.noOperator _) (by omega)]
  rfl

theorem parsePart_range {token : Token} (begins : BeginsValue token) (fuel : Nat)
    (tokens : List Token) (errors : List Conformance.SyntaxError) :
    parsePartWithoutSubconstraint fuel ⟨token :: tokens, errors⟩ =
      parseRange fuel ⟨token :: tokens, errors⟩ := by
  cases token with
  | keyword kind => cases kind <;> first | exact begins.elim | rfl
  | _ => rfl

theorem rereads_atom {atom : Atom} (fine : atom.IsFine)
    (noExponent : AllNumbers atom.expressions) {fuel : Nat} {rest : List Token}
    (stops : StopsAtom rest) (errors : List Conformance.SyntaxError)
    (enough : 2 * atom.tokens.length + 1 ≤ fuel) :
    parsePartWithoutSubconstraint fuel ⟨atom.tokens ++ rest, errors⟩ =
      some (some atom.ast, ⟨rest, errors⟩) := by
  cases atom with
  | all => rfl
  | desc => rfl
  | inField name => rfl
  | bound kind limit =>
    have bound : parseSingleBound fuel kind ⟨valueTokens false limit ++ rest, errors⟩ =
        some (some (kind.ast limit), ⟨rest, errors⟩) := by
      have shorter : 2 * (valueTokens false limit).length + 1 ≤ fuel := by
        have length : (Atom.bound kind limit).tokens.length =
          (valueTokens false limit).length + 1 := rfl
        omega
      rw [parseSingleBound, (rereads_value (fine limit List.mem_cons_self)
        (noExponent limit List.mem_cons_self)).2 fuel rest errors (stops.noOperator _) shorter]
      rfl
    cases kind <;> exact bound
  | value content =>
    rcases valueTokens_front false content with ⟨token, tokens, front, begins⟩
    have range := parse_value (fine content List.mem_cons_self)
      (noExponent content List.mem_cons_self) stops errors enough
    change parsePartWithoutSubconstraint fuel ⟨valueTokens false content ++ rest, errors⟩ = _
    rw [front] at range ⊢
    exact (parsePart_range begins _ _ _).trans range
  | range min max =>
    rcases valueTokens_front false min with ⟨token, tokens, front, begins⟩
    have second : max ∈ [min, max] := List.mem_cons_of_mem _ List.mem_cons_self
    have range := parse_range (fine min List.mem_cons_self) (fine max second)
      (noExponent min List.mem_cons_self) (noExponent max second) stops errors enough
    have first : (Atom.range min max).tokens ++ rest =
        token :: (tokens ++ .keyword .upTo :: valueTokens false max ++ rest) := by
      rw [Atom.tokens, front]
      rfl
    rw [first] at range ⊢
    exact (parsePart_range begins _ _ _).trans range

theorem stopsAtom_of_stops {rest : List Token} (stops : Stops rest) : StopsAtom rest := by
  rcases stops with rfl | ⟨tokens, rfl | rfl⟩ <;>
    exact ⟨fun _ => rfl, fun _ => decide_eq_false nofun⟩

theorem stopsAtom_symbol {symbol : Symbol} (noPlus : symbol ≠ .plus) (noMinus : symbol ≠ .minus)
    (rest : List Token) : StopsAtom (.symbol symbol :: rest) := by
  refine ⟨fun _ => ?_, fun _ => decide_eq_false nofun⟩
  unfold State.operator?
  split
  · rename_i same
    cases same
    exact absurd rfl noPlus
  · rename_i same
    cases same
    exact absurd rfl noMinus
  · rfl

/-- A part is read back where nothing follows that belongs to it. -/
def RereadsPart (part : Part) : Prop :=
  ∀ fuel rest errors, Stops rest → 2 * part.tokens.length + 2 ≤ fuel →
    parsePart fuel ⟨part.tokens ++ rest, errors⟩ = some (some part.ast, ⟨rest, errors⟩)

theorem parsePart_stops {fuel : Nat} {state : State} {ast : Ast} {rest : List Token}
    {errors : List Conformance.SyntaxError}
    (parsed : parsePartWithoutSubconstraint fuel state = some (some ast, ⟨rest, errors⟩))
    (stops : Stops rest) : parsePart (fuel + 1) state = some (some ast, ⟨rest, errors⟩) := by
  rw [parsePart, parsed]
  rcases stops with rfl | ⟨tokens, rfl | rfl⟩ <;> rfl

theorem rereads_plain {atom : Atom} (fine : atom.IsFine)
    (noExponent : AllNumbers atom.expressions) : RereadsPart (.plain atom) := by
  intro fuel rest errors stops enough
  cases fuel with
  | zero => omega
  | succ fuel =>
    exact parsePart_stops (rereads_atom fine noExponent (stopsAtom_of_stops stops) errors
      (Nat.le_of_succ_le_succ enough)) stops

theorem rereads_limited {atom : Atom} {cpMax : Decimal} (fine : (limited atom cpMax).IsFine)
    (noExponent : AllNumbers atom.expressions) (limitNoExponent : NoExponent cpMax)
    (notZero : cpMax.mantissa ≠ 0) : RereadsPart (.limited atom cpMax) := by
  intro fuel rest errors stops enough
  have limit : limitTokens cpMax =
      [.symbol .openBrace, .value (.number cpMax), .symbol .closeBrace] := by
    have tokens : numberTokens .number cpMax = [.value (.number cpMax)] := by
      rw [numberTokens, if_neg (by rw [fine.2]; exact Bool.false_ne_true),
        Decimal.abs_of_not_negative fine.2]
      exact if_pos limitNoExponent
    rw [limitTokens, if_pos notZero, tokens]
    rfl
  have inOrder : (limited atom cpMax).tokens ++ rest = atom.tokens ++
      .symbol .openBrace :: .value (.number cpMax) :: .symbol .closeBrace :: rest := by
    rw [tokens, limit, List.append_assoc]
    rfl
  have length : (limited atom cpMax).tokens.length = atom.tokens.length + 3 := by
    rw [tokens, limit, List.length_append]
    rfl
  cases fuel with
  | zero => omega
  | succ fuel =>
    rw [inOrder, parsePart, rereads_atom fine.1 noExponent
      (@stopsAtom_symbol .openBrace (by simp) (by simp) _) errors (by omega), Option.bind_some]
    rfl

theorem rereads_withEntry {atom : Atom} {first : Part} {others : List Part}
    (fine : atom.IsFine) (noExponent : AllNumbers atom.expressions)
    (entry : ∀ fuel rest errors,
      2 * (first.tokens ++ otherTokens others).length + 3 ≤ fuel →
        parseParts fuel [] ⟨first.tokens ++ otherTokens others ++
          .symbol .closeBracket :: rest, errors⟩ =
            some (partsAsAst (first.ast :: asts others), ⟨.symbol .closeBracket :: rest, errors⟩)) :
    RereadsPart (.withEntry atom first others) := by
  intro fuel rest errors stops enough
  have inOrder : (withEntry atom first others).tokens ++ rest = atom.tokens ++
      .symbol .openBracket :: (first.tokens ++ otherTokens others ++
        .symbol .closeBracket :: rest) := by
    rw [tokens]
    simp
  have length : (withEntry atom first others).tokens.length =
      atom.tokens.length + ((first.tokens ++ otherTokens others).length + 1 + 1) := by
    rw [tokens, List.length_append, List.length_cons, List.length_append]
    rfl
  cases fuel with
  | zero => omega
  | succ fuel =>
    rw [inOrder, parsePart, rereads_atom fine noExponent
      (@stopsAtom_symbol .openBracket nofun nofun _) errors (by omega), Option.bind_some]
    dsimp only [State.next, List.tail_cons]
    rw [entry fuel rest errors (by omega)]
    rfl

theorem not_atComma {rest : List Token}
    (stops : rest = [] ∨ ∃ tokens, rest = .symbol .closeBracket :: tokens)
    (errors : List Conformance.SyntaxError) :
    State.atSymbol ⟨rest, errors⟩ .comma = false := by
  rcases stops with rfl | ⟨tokens, rfl⟩ <;> exact decide_eq_false nofun

theorem stops_of_end {rest : List Token}
    (stops : rest = [] ∨ ∃ tokens, rest = .symbol .closeBracket :: tokens) : Stops rest := by
  rcases stops with rfl | ⟨tokens, rfl⟩
  · exact .inl rfl
  · exact .inr ⟨tokens, .inr rfl⟩

theorem rereads_parts {others : List Part} (areOthers : ∀ part ∈ others, RereadsPart part)
    {first : Part} (isFirst : RereadsPart first) {fuel : Nat} {before : List Ast}
    {rest : List Token} (stops : rest = [] ∨ ∃ tokens, rest = .symbol .closeBracket :: tokens)
    (errors : List Conformance.SyntaxError)
    (enough : 2 * (first.tokens ++ otherTokens others).length + 3 ≤ fuel) :
    parseParts fuel before ⟨first.tokens ++ otherTokens others ++ rest, errors⟩ =
      some (partsAsAst (before ++ first.ast :: asts others), ⟨rest, errors⟩) := by
  induction others generalizing first fuel before with
  | nil =>
    rw [otherTokens, List.append_nil] at enough ⊢
    cases fuel with
    | zero => omega
    | succ fuel =>
      rw [parseParts, isFirst fuel rest errors (stops_of_end stops) (by omega), Option.bind_some]
      dsimp only
      rw [not_atComma stops]
      rfl
  | cons second others induction =>
    rcases List.forall_mem_cons.mp areOthers with ⟨isSecond, areOthers⟩
    have inOrder : first.tokens ++ otherTokens (second :: others) ++ rest =
        first.tokens ++ .symbol .comma ::
          (second.tokens ++ otherTokens others ++ rest) := List.append_assoc _ (_ :: _) _
    have length : (first.tokens ++ otherTokens (second :: others)).length =
        first.tokens.length + ((second.tokens ++ otherTokens others).length + 1) :=
      List.length_append
    cases fuel with
    | zero => omega
    | succ fuel =>
      rw [inOrder, parseParts, isFirst fuel _ errors (.inr ⟨_, .inl rfl⟩) (by omega)]
      have asts : before ++ first.ast :: asts (second :: others) =
          before ++ [first.ast] ++ second.ast :: asts others :=
        (List.append_assoc _ [_] _).symm
      rw [asts]
      exact induction areOthers isSecond (by omega)

/-! ## Numbers and limits -/

theorem numbers_plain (atom : Atom) :
    (plain atom).ast.numbers = atom.expressions.flatMap Expression.numbers := by
  refine (gather_plain atom).trans ?_
  rw [atom.expressions_ast, limits_atom]
  exact List.append_nil _

theorem numbers_limited (atom : Atom) (cpMax : Decimal) :
    (limited atom cpMax).ast.numbers =
      atom.expressions.flatMap Expression.numbers ++ [cpMax] := by
  rw [← atom.expressions_ast]
  exact gather_limited atom cpMax

theorem numbers_withEntry (atom : Atom) (first : Part) (others : List Part) :
    (withEntry atom first others).ast.numbers =
      atom.expressions.flatMap Expression.numbers ++
        (first :: others).flatMap fun part => part.ast.numbers := by
  refine (gather_withEntry rfl atom first others).trans ?_
  rw [atom.expressions_ast, limits_atom]
  exact congrArg (· ++ _) (List.append_nil _)

end Parser

/-- Each limit is written, and each number without an exponent. -/
structure Ast.IsPlain (ast : Ast) : Prop where
  limits : ∀ limit ∈ ast.limits, limit.mantissa ≠ 0
  numbers : ∀ number ∈ ast.numbers, NoExponent number

namespace Parser

theorem isPlain_withEntry {atom : Atom} {first : Part} {others : List Part}
    (isPlain : (withEntry atom first others).ast.IsPlain) :
    AllNumbers atom.expressions ∧ ∀ part ∈ first :: others, part.ast.IsPlain := by
  have numbers := isPlain.numbers
  have limits := isPlain.limits
  rw [numbers_withEntry, List.forall_mem_append] at numbers
  rw [limits_withEntry] at limits
  refine ⟨fun value member number inside => ?_, fun part member => ⟨fun limit inside => ?_,
    fun number inside => ?_⟩⟩
  · exact numbers.1 number (List.mem_flatMap_of_mem member inside)
  · exact limits limit (List.mem_flatMap_of_mem member inside)
  · exact numbers.2 number (List.mem_flatMap_of_mem member inside)

mutual
theorem rereads_part : (part : Part) → part.IsFine → part.ast.IsPlain → RereadsPart part
  | .plain atom, fine, isPlain => by
    have numbers := isPlain.numbers
    rw [numbers_plain] at numbers
    exact rereads_plain fine fun value member number inside =>
      numbers number (List.mem_flatMap_of_mem member inside)
  | .limited atom cpMax, fine, isPlain => by
    have numbers := isPlain.numbers
    have limits := isPlain.limits
    rw [numbers_limited, List.forall_mem_append] at numbers
    rw [limits_limited] at limits
    exact rereads_limited fine
      (fun value member number inside =>
        numbers.1 number (List.mem_flatMap_of_mem member inside))
      (numbers.2 cpMax List.mem_cons_self) (limits cpMax List.mem_cons_self)
  | .withEntry atom first others, fine, isPlain => by
    rcases isPlain_withEntry isPlain with ⟨numbers, parts⟩
    rcases List.forall_mem_cons.mp parts with ⟨firstPlain, othersPlain⟩
    have isFirst := rereads_part first fine.2.1 firstPlain
    have areOthers := rereads_others others fine.2.2 othersPlain
    exact rereads_withEntry fine.1 numbers fun fuel rest errors enough =>
      rereads_parts areOthers isFirst (.inr ⟨rest, rfl⟩) errors enough

theorem rereads_others : (others : List Part) → Part.AllFine others →
    (∀ part ∈ others, part.ast.IsPlain) → ∀ part ∈ others, RereadsPart part
  | [], _, _ => nofun
  | part :: others, fine, isPlain => by
    rcases List.forall_mem_cons.mp isPlain with ⟨partPlain, othersPlain⟩
    exact List.forall_mem_cons.mpr
      ⟨rereads_part part fine.1 partPlain, rereads_others others fine.2 othersPlain⟩
end

end Parser

/-! ## How many words and braces are written -/

def exponentCount (numbers : List Decimal) : Nat :=
  numbers.countP fun number => ¬NoExponent number

theorem exponentCount_append (first second : List Decimal) :
    exponentCount (first ++ second) = exponentCount first + exponentCount second :=
  List.countP_append

/-- What is written for an expression, or for a part -/
structure Counts (tokens : List Token) (names : List String) (numbers limits : List Decimal) :
    Prop where
  words : wordCount tokens = names.length + exponentCount numbers
  braces : braceCount tokens = limits.countP fun limit => limit.mantissa ≠ 0

namespace Counts

theorem nil : Counts [] [] [] [] := ⟨rfl, rfl⟩

theorem append {first second : List Token} {names others : List String}
    {numbers more limits further : List Decimal} (isFirst : Counts first names numbers limits)
    (isSecond : Counts second others more further) :
    Counts (first ++ second) (names ++ others) (numbers ++ more) (limits ++ further) := by
  refine ⟨?_, ?_⟩
  · have firstWords := isFirst.words
    have secondWords := isSecond.words
    rw [wordCount] at firstWords secondWords
    rw [wordCount, List.countP_append, List.length_append, exponentCount_append]
    omega
  · rw [braceCount, List.count_append, List.countP_append, ← isFirst.braces, ← isSecond.braces]
    rfl

theorem cons {token : Token} {tokens : List Token} {names : List String}
    {numbers limits : List Decimal} (noWord : isWord token = false)
    (noBrace : token ≠ .symbol .openBrace) (counts : Counts tokens names numbers limits) :
    Counts (token :: tokens) names numbers limits := by
  refine ⟨?_, ?_⟩
  · rw [wordCount, List.countP_cons_of_neg (by rw [noWord]; exact Bool.false_ne_true)]
    exact counts.words
  · rw [braceCount, List.count_cons_of_ne noBrace]
    exact counts.braces

theorem number (wrap : Decimal → FieldValue) (number : Decimal) :
    Counts (numberTokens wrap number) [] [number] [] := by
  have unsigned : Counts (unsignedTokens wrap number.abs) [] [number] [] := by
    rw [unsignedTokens]
    -- The sign does not count for the exponent.
    by_cases noExponent : NoExponent number.abs
    · have plain : NoExponent number := noExponent
      have none_ : exponentCount [number] = 0 :=
        List.countP_eq_zero.mpr fun other member => by
          cases List.mem_singleton.mp member
          simpa using plain
      rw [if_pos noExponent]
      exact ⟨by rw [none_]; rfl, rfl⟩
    · have exponent : ¬NoExponent number := noExponent
      have one : exponentCount [number] = 1 :=
        List.countP_eq_length.mpr fun other member => by
          cases List.mem_singleton.mp member
          simpa using exponent
      rw [if_neg noExponent]
      refine ⟨by rw [one]; rfl, ?_⟩
      split <;> rfl
  rw [numberTokens]
  split
  · exact cons rfl (by simp) unsigned
  · exact unsigned

theorem value {value : Expression} (fine : value.IsFine) (inExpr : Bool) :
    Counts (valueTokens inExpr value) value.names value.numbers [] := by
  induction value generalizing inExpr with
  | literal value =>
    cases value with
    | null => exact absurd rfl fine
    | _ => exact number _ _
  | boolean value => exact cons rfl nofun nil
  | reference name => exact ⟨rfl, rfl⟩
  | operator type lhs rhs left right =>
    have isSign : Token.symbol type.symbol ≠ .symbol .openBrace := by
      cases type <;> exact nofun
    have sum := (left fine.1 true).append (cons rfl isSign (right fine.2 true))
    cases inExpr with
    | false => exact sum
    | true =>
      have close : Counts [.symbol .closeParen] [] [] [] := cons rfl nofun nil
      have closed := sum.append close
      rw [List.append_nil, List.append_nil] at closed
      exact @cons (.symbol .openParen) _ _ _ _ rfl nofun closed

theorem atom {atom : Atom} (fine : atom.IsFine) :
    Counts atom.tokens (atom.expressions.flatMap Expression.names)
      (atom.expressions.flatMap Expression.numbers) [] := by
  -- One expression
  have single {content : Expression} (isContent : content.IsFine) :
      Counts (valueTokens false content) ([content].flatMap Expression.names)
        ([content].flatMap Expression.numbers) [] := by
    rw [List.flatMap_singleton, List.flatMap_singleton]
    exact value isContent false
  cases atom with
  | all => exact cons rfl nofun nil
  | desc => exact cons rfl nofun nil
  | bound kind limit => exact cons rfl nofun (single (fine limit List.mem_cons_self))
  | inField name => exact cons rfl nofun ⟨rfl, rfl⟩
  | value content => exact single (fine content List.mem_cons_self)
  | range min max =>
    have second : max ∈ [min, max] := List.mem_cons_of_mem _ List.mem_cons_self
    exact (value (fine min List.mem_cons_self) false).append
      (cons rfl nofun (single (fine max second)))

theorem limit (cpMax : Decimal) :
    Counts (limitTokens cpMax) [] [cpMax] [cpMax] := by
  by_cases notZero : cpMax.mantissa ≠ 0
  · have counts := number .number cpMax
    have close : Counts [.symbol .closeBrace] [] [] [] := cons rfl nofun nil
    have closed := counts.append close
    rw [limitTokens, if_pos notZero]
    refine ⟨?_, ?_⟩
    · exact closed.words
    · rw [List.cons_append, braceCount, List.count_cons_self]
      have braces := closed.braces
      rw [braceCount] at braces
      rw [braces, List.countP_cons_of_pos (by simpa using notZero)]
      rfl
  · have plain : NoExponent cpMax := .inl (not_not.mp notZero)
    have none_ : exponentCount [cpMax] = 0 :=
      List.countP_eq_zero.mpr fun other member => by
        cases List.mem_singleton.mp member
        simpa using plain
    rw [limitTokens, if_neg notZero]
    refine ⟨by rw [none_]; rfl, ?_⟩
    rw [List.countP_cons_of_neg (by simpa using notZero)]
    rfl

end Counts

open Parser in
mutual
theorem counts_part : (part : Part) → part.IsFine →
    Counts part.tokens part.ast.names part.ast.numbers part.ast.limits
  | .plain atom, fine => by
    rw [names_plain, numbers_plain, limits_plain]
    exact .atom fine
  | .limited atom cpMax, fine => by
    have counts := (Counts.atom fine.1).append (.limit cpMax)
    rw [List.append_nil] at counts
    rw [names_limited, numbers_limited, limits_limited]
    exact counts
  | .withEntry atom first others, fine => by
    have isFirst := counts_part first fine.2.1
    have areOthers := counts_others others fine.2.2
    have close : Counts [.symbol .closeBracket] [] [] [] := .cons rfl nofun .nil
    have parts := (isFirst.append areOthers).append close
    have counts := (Counts.atom fine.1).append
      (@Counts.cons (.symbol .openBracket) _ _ _ _ rfl nofun parts)
    rw [names_withEntry, numbers_withEntry, limits_withEntry, tokens]
    simpa using counts

theorem counts_others : (others : List Part) → Part.AllFine others →
    Counts (otherTokens others) (others.flatMap fun part => part.ast.names)
      (others.flatMap fun part => part.ast.numbers) (others.flatMap fun part => part.ast.limits)
  | [], _ => .nil
  | part :: others, fine => by
    have counts := (counts_part part fine.1).append (counts_others others fine.2)
    exact @Counts.cons (.symbol .comma) _ _ _ _ rfl nofun counts
end

/-! ## The round trip -/

theorem isFine_of_lex {definition : List Char}
    (fixed : ∀ name, .word name ∈ (Parser.lex definition).1 → camelize name false = name) :
    ∀ token ∈ (Parser.lex definition).1, IsFine token := by
  intro token member
  rcases List.mem_map.mp member with ⟨lexed, inside, rfl⟩
  have known := Conformance.Lexer.lex_lexed definition lexed inside
  cases lexed with
  | value value => exact known
  | symbol symbol => trivial
  | word name =>
    cases isKeyword : Parser.keywords.find? fun keyword => keyword.text = name with
    | some keyword =>
      have same : Parser.withKeywords (.word name) = .keyword keyword := by
        rw [Parser.withKeywords, isKeyword]
      rw [same]
      trivial
    | none =>
      have same : Parser.withKeywords (.word name) = .word name := by
        rw [Parser.withKeywords, isKeyword]
      rw [same] at member ⊢
      exact ⟨known, same, fixed name member⟩

theorem exists_of_noErrors {definition : List Char}
    (noErrors : (parse definition).map Prod.snd = some []) :
    ∃ ast, parse definition = some (ast, []) := by
  rw [Option.map_eq_some_iff] at noErrors
  rcases noErrors with ⟨⟨ast, errors⟩, parsed, rfl⟩
  exact ⟨ast, parsed⟩

/-- A range with a sum in a list whose entries have a limit -/
def isCamelized : Token → Bool
  | .word name => camelize name false = name
  | _ => true

end MatterJs.Model.Constraint
