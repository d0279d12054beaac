import MatterJs.Model.ConformanceLexer

/-! `ParsedAst`: the parser of conformance definitions, and the freezing of what it makes. -/

namespace MatterJs.Model.Conformance

/-- `replace(" or ", " | ")` replaces the first occurrence. -/
def replaceFirst : List Char → List Char
  | ' ' :: 'o' :: 'r' :: ' ' :: text => ' ' :: '|' :: ' ' :: text
  | char :: text => char :: replaceFirst text
  | [] => []

namespace Parser

/-- `BinaryOperatorPrecedence`, the highest precedence first -/
def binaryOperatorPrecedence : List (List Operator) :=
  [[.and], [.or, .xor], [.gt, .lt, .gte, .lte], [.eq, .ne]]

/-- One round over the elements behind `lhs`, for the operators of one precedence. What is missing
at the end is undefined. -/
def foldOperators (operators : List Operator) (lhs : Ast) : List Ast → List Ast
  | [] => [lhs]
  | .token operator :: elements =>
    if operators.contains operator then
      match elements with
      | [] => [.binary operator lhs .undefined]
      | rhs :: elements => foldOperators operators (.binary operator lhs rhs) elements
    else lhs :: foldOperators operators (.token operator) elements
  | element :: elements => lhs :: foldOperators operators element elements

def foldPrecedence (elements : List Ast) (operators : List Operator) : List Ast :=
  match elements with
  | [] => []
  | lhs :: elements => foldOperators operators lhs elements

/-- The tree of the elements of an expression, `none` for undefined -/
def foldElements (elements : List Ast) : Option Ast :=
  (binaryOperatorPrecedence.foldl foldPrecedence elements).head?

def invalidChoice (message : String) : SyntaxError := { code := "INVALID_CHOICE", message }

def extractChoiceNameAndNumber (text : List Char) : String × Nat × List SyntaxError :=
  match text with
  | [] => ("?", 1, [])
  | name :: digits =>
    if name < 'a' ∨ 'z' < name then
      ("?", 1, [invalidChoice "Choice indicator is not a lowercase letter"])
    else
      match digits with
      | [] => (String.singleton name, 1, [])
      | digit :: _ =>
        match Lexer.decimalValueOf digit with
        | some num => (String.singleton name, num, [])
        | none =>
          ("?", 1, [invalidChoice "Choice indicator may only be a single lowercase letter"])

def flagOf (name : String) : Option Flag :=
  if name = "M" then some .mandatory
  else if name = "O" then some .optional
  else if name = "P" then some .provisional
  else if name = "D" then some .deprecated
  else if name = "X" then some .disallowed
  else none

def parseWord (name : String) : Ast :=
  match flagOf name with
  | some flag => .flag flag
  | none =>
    if name.toLower = "desc" then .desc
    else if name = "null" then .value .null
    else .name name

/-- The tokens that are left, and what is reported, in its order -/
structure State where
  tokens : List Token
  errors : List SyntaxError

namespace State

variable (state : State)

def next : State := { state with tokens := state.tokens.tail }

def error (code message : String) : State :=
  { state with errors := state.errors ++ [{ code, message }] }

def atOperator (symbol : Symbol) : Bool :=
  state.tokens.head? = some (.symbol symbol)

def atEnd : Option Symbol → Bool
  | some symbol => state.atOperator symbol
  | none => false

def reportUnterminated : Option Symbol → State
  | some _ =>
    state.error "UNTERMINATED_CONFORMANCE_GROUPING" "Unterminated conformance grouping"
  | none => state

/-- A symbol that may follow, and whether it did -/
def skip (symbol : Symbol) : Bool × State :=
  if state.atOperator symbol then (true, state.next) else (false, state)

end State

def parseChoice (expr : Ast) (state : State) : Ast × State :=
  if !state.atOperator .dot then (expr, state)
  else
    let state := state.next
    let (name, num, state) :=
      match state.tokens with
      | .word text :: _ =>
        let (name, num, errors) := extractChoiceNameAndNumber text.toList
        (name, num, { state.next with errors := state.errors ++ errors })
      | _ =>
        ("?", 1, state.error "INVALID_CHOICE" "Choice indicator (\".\") not followed by identifier")
    let (orMore, state) := state.skip .plus
    let (orLess, state) := state.skip .minus
    (.choice { name, num, orMore, orLess } expr, state)

def groupAsAst : List Ast → Ast
  | [ast] => ast
  | group => .group group

/-! ## The parser -/

mutual
/-- The loop of `parseGroup`, with the members so far -/
def parseGroup : Nat → Option Symbol → List Ast → State → Option (Ast × State)
  | 0, _, _, _ => none
  | fuel + 1, closing, group, state =>
    if state.tokens.isEmpty then some (groupAsAst group, state.reportUnterminated closing)
    else
      (parseMember fuel closing state).bind fun (members, state) =>
        let group := group ++ members
        if state.atOperator .comma then parseGroup fuel closing group state.next
        else if state.atEnd closing then some (groupAsAst group, state.next)
        else parseGroup fuel closing group state

/-- What a turn of the loop pushes. Optional brackets are only allowed at the top level. -/
def parseMember : Nat → Option Symbol → State → Option (List Ast × State)
  | 0, _, _ => none
  | fuel + 1, closing, state =>
    if closing.isNone && state.atOperator .openBracket then
      (parseGroup fuel (some .closeBracket) [] state.next).map fun (param, state) =>
        let (expr, state) := parseChoice (.optionalIf param) state
        ([expr], state)
    else (parseExpression fuel state).map fun (expr, state) => (expr.toList, state)

def parseExpression : Nat → State → Option (Option Ast × State)
  | 0, _ => none
  | fuel + 1, state =>
    (parseAtomicExpression fuel state).bind fun (expr, state) =>
      (parseOperands fuel expr.toList state).map fun (elements, state) =>
        (foldElements elements, state)

/-- The loop of `parseExpression`, with the elements so far -/
def parseOperands : Nat → List Ast → State → Option (List Ast × State)
  | 0, _, _ => none
  | fuel + 1, elements, state =>
    match state.tokens with
    | .symbol (.binary operator) :: _ =>
      (parseAtomicExpression fuel state.next).bind fun (expr, state) =>
        parseOperands fuel (elements ++ .token operator :: expr.toList) state
    | _ => some (elements, state)

def parseAtomicExpression : Nat → State → Option (Option Ast × State)
  | 0, _ => none
  | fuel + 1, state =>
    (parseAtomicExpressionWithoutChoice fuel state).map fun (expr, state) =>
      match expr with
      | none => (none, state)
      | some expr =>
        let (expr, state) := parseChoice expr state
        (some expr, state)

def parseAtomicExpressionWithoutChoice : Nat → State → Option (Option Ast × State)
  | 0, _ => none
  | fuel + 1, state =>
    match state.tokens with
    | [] =>
      some (none, state.error "PREMATURE_CONFORMANCE_TERMINATION"
        "Terminated with expression expected")
    | .word name :: _ => some (some (parseWord name), state.next)
    | .value value :: _ => some (some (.value value), state.next)
    | .symbol .not :: _ =>
      (parseAtomicExpression fuel state.next).map fun (param, state) =>
        (some (.not (Option.getD param .undefined)), state)
    | .symbol .openParen :: _ =>
      (parseGroup fuel (some .closeParen) [] state.next).map fun (ast, state) =>
        (some ast, state)
    | token :: _ =>
      some (none, (state.error "UNEXPECTED_CONFORMANCE_TOKEN"
        ("Unexpected \"" ++ token.type ++ "\"")).next)
end

def fuelFor (tokens : List Token) : Nat := 5 * tokens.length + 5

end Parser

/-- What is made of a text, and what is reported on it. What the lexer reports comes first here. -/
def parseText (text : List Char) : Option (Ast × List SyntaxError) :=
  let (tokens, errors) := Lexer.lex text
  (Parser.parseGroup (Parser.fuelFor tokens) none [] { tokens, errors }).map fun (ast, state) =>
    (ast, state.errors)

def parsedAst (definition : List Char) : Option (Ast × List SyntaxError) :=
  parseText (replaceFirst definition)

inductive FreezeError where
  | typeError
  deriving DecidableEq

mutual
/-- There is no `type` of what is undefined. -/
def freezeAst : Ast → Except FreezeError Unit
  | .binary _ lhs rhs => (freezeAst lhs).bind fun _ => freezeAst rhs
  | .not param | .optionalIf param => freezeAst param
  | .choice _ expr => freezeAst expr
  | .group entries => freezeEntries entries
  | .undefined => .error .typeError
  | .empty | .desc | .flag _ | .name _ | .value _ | .token _ => .ok ()

def freezeEntries : List Ast → Except FreezeError Unit
  | [] => .ok ()
  | entry :: entries => (freezeAst entry).bind fun _ => freezeEntries entries
end

end MatterJs.Model.Conformance
