import MatterJs.Model.ConformanceLexer
import MatterJs.General.Camelize

/-! `Constraint.Ast`, and the parser of constraint definitions. -/

namespace MatterJs.Model.Constraint

open Conformance (FieldValue Symbol SyntaxError)

/-- The operators with two operands, which are signs as well -/
inductive Sign where
  | plus
  | minus
  deriving DecidableEq

def Sign.text : Sign → String
  | plus => "+"
  | minus => "-"

inductive Expression where
  | literal (value : FieldValue)
  | boolean (value : Bool)
  | reference (name : String)
  | operator (type : Sign) (lhs rhs : Expression)
  deriving DecidableEq

structure Ast where
  desc : Bool := false
  value : Option Expression := none
  min : Option Expression := none
  max : Option Expression := none
  inField : Option Expression := none
  entry : Option Ast := none
  cpMax : Option Decimal := none
  parts : Option (List Ast) := none

inductive Keyword where
  | inField
  | min
  | max
  | upTo
  | all
  | desc
  | true
  | false
  deriving DecidableEq

def Keyword.text : Keyword → String
  | inField => "in"
  | min => "min"
  | max => "max"
  | upTo => "to"
  | all => "all"
  | desc => "desc"
  | true => "true"
  | false => "false"

inductive Token where
  | keyword (kind : Keyword)
  | word (value : String)
  | value (value : FieldValue)
  | symbol (sign : Symbol)
  deriving DecidableEq

def Token.type : Token → String
  | keyword kind => kind.text
  | word _ => "word"
  | value _ => "value"
  | symbol sign => sign.text

def description : Option Token → String
  | none => "end of statement"
  | some (.word value) => "word \"" ++ value ++ "\""
  | some (.symbol symbol) => "operator \"" ++ symbol.text ++ "\""
  | some token => "keyword \"" ++ token.type ++ "\""

namespace Parser

def keywords : List Keyword := [.inField, .min, .max, .upTo, .all, .desc, .true, .false]

/-- A name is looked up among the keywords before it becomes a word. -/
def withKeywords : Conformance.Token → Token
  | .word name =>
    match keywords.find? fun keyword => keyword.text = name with
    | some keyword => .keyword keyword
    | none => .word name
  | .value value => .value value
  | .symbol symbol => .symbol symbol

def lex (definition : List Char) : List Token × List SyntaxError :=
  let (tokens, errors) := Conformance.Lexer.lex definition
  (tokens.map withKeywords, errors)

/-- The tokens that are left, and what is reported, in its order -/
structure State where
  tokens : List Token
  errors : List SyntaxError

namespace State

def next (state : State) : State := { state with tokens := state.tokens.tail }

def error (state : State) (code message : String) : State :=
  { state with errors := state.errors ++ [{ code, message }] }

def atSymbol (state : State) (symbol : Symbol) : Bool :=
  state.tokens.head? = some (.symbol symbol)

/-- What is reported where the symbol is not there that something ends with -/
def expect (state : State) (symbol : Symbol) (code message : String) : State :=
  if state.atSymbol symbol then state else state.error code message

end State

/-- A number with its sign, `none` for undefined -/
def signed : Sign → FieldValue → Option FieldValue
  | .plus, number => some number
  | .minus, .number number => some (.number number.neg)
  | .minus, .percent number => some (.percent number.neg)
  | .minus, .celsius number => some (.celsius number.neg)
  | .minus, .null => none

def missingNumber (type : Sign) (state : State) : Option Expression × State :=
  (none, state.error "MISSING_NUMBER"
    ("Unary \"" ++ type.text ++ "\" not followed by numeric value"))

def parseSigned (type : Sign) (state : State) : Option Expression × State :=
  match state.tokens with
  | .value value :: _ =>
    match signed type value with
    | some number => (some (.literal number), state.next)
    | none => missingNumber type state.next
  | _ => missingNumber type state

def State.operator? (state : State) : Option Sign :=
  match state.tokens with
  | .symbol .plus :: _ => some .plus
  | .symbol .minus :: _ => some .minus
  | _ => none

mutual
def parseExpression : Nat → State → Option (Option Expression × State)
  | 0, _ => none
  | fuel + 1, state =>
    (parseValueExpression fuel state).bind fun (value, state) =>
      match value, state.operator? with
      | some value, some type =>
        (parseValueExpression fuel state.next).map fun (rhs, state) =>
          match rhs with
          | some rhs => (some (.operator type value rhs), state)
          | none =>
            (none, state.error "MISSING_RIGHT_OPERAND"
              ("Missing operand after \"" ++ type.text ++ "\""))
      | value, _ => some (value, state)

def parseValueExpression : Nat → State → Option (Option Expression × State)
  | 0, _ => none
  | fuel + 1, state =>
    match state.tokens with
    | .value value :: _ => some (some (.literal value), state.next)
    | .keyword .true :: _ => some (some (.boolean true), state.next)
    | .keyword .false :: _ => some (some (.boolean false), state.next)
    | .word name :: _ => some (some (.reference (camelize name false)), state.next)
    | .symbol .minus :: _ => some (parseSigned .minus state.next)
    | .symbol .plus :: _ => some (parseSigned .plus state.next)
    | .symbol .openParen :: _ =>
      (parseExpression fuel state.next).map fun (result, state) =>
        (result, (state.expect .closeParen "MISSING_GROUP_END"
          "Group does not end with \")\"").next)
    | _ => some (none, state)
end

inductive Bound where
  | min
  | max
  deriving DecidableEq

def Bound.text : Bound → String
  | min => "min"
  | max => "max"

def Bound.ast (kind : Bound) (bound : Expression) : Ast :=
  match kind with
  | min => { min := some bound }
  | max => { max := some bound }

def parseSingleBound (fuel : Nat) (kind : Bound) (state : State) : Option (Option Ast × State) :=
  (parseExpression fuel state).map fun (bound, state) =>
    match bound with
    | some bound => (some (kind.ast bound), state)
    | none =>
      (none, state.error "MISSING_SINGLE_BOUND"
        ("\"" ++ kind.text ++ "\" must be followed by boundary value"))

def State.atTo (state : State) : Bool := state.tokens.head? = some (.keyword .upTo)

def parseRange (fuel : Nat) (state : State) : Option (Option Ast × State) :=
  (parseExpression fuel state).bind fun (value, state) =>
    match value, state.atTo with
    | some value, true =>
      (parseExpression fuel state.next).map fun (max, state) =>
        match max with
        | some max => (some { min := some value, max := some max }, state)
        | none =>
          (none, state.error "MISSING_UPPER_BOUND"
            "\"to\" must be followed by upper boundary value")
    | value, _ => some (some { value }, state)

def parsePartWithoutSubconstraint (fuel : Nat) (state : State) : Option (Option Ast × State) :=
  match state.tokens with
  | [] => some (none, state)
  | .keyword .desc :: _ => some (some { desc := true }, state.next)
  | .keyword .all :: _ => some (some {}, state.next)
  | .keyword .min :: _ => parseSingleBound fuel .min state.next
  | .keyword .max :: _ => parseSingleBound fuel .max state.next
  | .keyword .inField :: .word name :: _ =>
    some (some { inField := some (.reference name) }, state.next.next)
  | .keyword .inField :: _ =>
    -- The error does not end the part.
    parseRange fuel (state.next.error "MISSING_IN_FIELD" "Expected field name to follow \"in\"")
  | _ => parseRange fuel state

/-- `FieldValue.numericValue` without a name of a type -/
def numericValue : FieldValue → Option Decimal
  | .number value | .percent value => some value
  | .celsius _ | .null => none

def parseCpMax (state : State) : Option Decimal × State :=
  match state.tokens with
  | .value value :: _ => (numericValue value, state.next)
  | tokens =>
    let state := state.error "MISSING_CODEPOINT_MAX"
      "Codepoint constraint does not specify maximum codepoint length"
    (none, if tokens.tail.head? = some (.symbol .closeBrace) then state.next else state)

def partsAsAst : List Ast → Ast
  | [] => {}
  | [part] => part
  | parts => { parts := some parts }

mutual
/-- The loop of `parseParts`, with the parts so far -/
def parseParts : Nat → List Ast → State → Option (Ast × State)
  | 0, _, _ => none
  | fuel + 1, parts, state =>
    (parsePart fuel state).bind fun (part, state) =>
      let parts := parts ++ part.toList
      if state.atSymbol .comma then parseParts fuel parts state.next
      else some (partsAsAst parts, state)

def parsePart : Nat → State → Option (Option Ast × State)
  | 0, _ => none
  | fuel + 1, state =>
    (parsePartWithoutSubconstraint fuel state).bind fun (result, state) =>
      match result, state.tokens with
      | some result, .symbol .openBracket :: _ =>
        (parseParts fuel [] state.next).map fun (entry, state) =>
          (some { result with entry := some entry },
            (state.expect .closeBracket "MISSING_ENTRY_END"
              "Entry constraint does not end with \"]\"").next)
      | some result, .symbol .openBrace :: _ =>
        let (cpMax, state) := parseCpMax state.next
        some (some { result with cpMax },
          (state.expect .closeBrace "MISSING_CODEPOINT_END"
            "Codepoint constraint does not end with \"\x7d\"").next)
      | result, _ => some (result, state)
end

def reportUnexpected (state : State) : State :=
  match state.tokens with
  | [] | .symbol .comma :: _ => state
  | token :: _ =>
    state.error "UNEXPECTED_CONSTRAINT_TOKEN" ("Unexpected " ++ description (some token))

/-- Two calls of the parser for each token, and some that read none -/
def fuelFor (tokens : List Token) : Nat := 2 * tokens.length + 4

end Parser

/-- What is made of a definition, and what is reported on it. What the lexer reports comes first
here. -/
def parse (definition : List Char) : Option (Ast × List SyntaxError) :=
  let (tokens, errors) := Parser.lex definition
  (Parser.parseParts (Parser.fuelFor tokens) [] { tokens, errors }).map fun (ast, state) =>
    (ast, (Parser.reportUnexpected state).errors)

theorem parse_eq (definition : List Char) :
    parse definition =
      (Parser.parseParts (Parser.fuelFor (Parser.lex definition).1) []
        ⟨(Parser.lex definition).1, (Parser.lex definition).2⟩).map fun (ast, state) =>
          (ast, (Parser.reportUnexpected state).errors) := rfl

end MatterJs.Model.Constraint
