import MatterJs.Model.ConformanceAst

/-! The tokens of a conformance definition. -/

namespace MatterJs.Model.Conformance

/-- The operators that are written with one symbol, and those with two operands -/
inductive Symbol where
  | binary (operator : Operator)
  | not
  | dot
  | comma
  | openBracket
  | closeBracket
  | openParen
  | closeParen
  | openBrace
  | closeBrace
  | minus
  | plus
  | slash
  | star
  deriving DecidableEq

inductive Token where
  | word (value : String)
  | value (value : FieldValue)
  | symbol (symbol : Symbol)
  deriving DecidableEq

/-- What is given to `conformance.error` -/
structure SyntaxError where
  code : String
  message : String
  deriving DecidableEq

def Operator.text : Operator → String
  | .eq => "=="
  | .ne => "!="
  | .or => "|"
  | .xor => "^"
  | .and => "&"
  | .gt => ">"
  | .lt => "<"
  | .gte => ">="
  | .lte => "<="

def Symbol.text : Symbol → String
  | binary operator => operator.text
  | not => "!"
  | dot => "."
  | comma => ","
  | openBracket => "["
  | closeBracket => "]"
  | openParen => "("
  | closeParen => ")"
  | openBrace => "\x7b"
  | closeBrace => "\x7d"
  | minus => "-"
  | plus => "+"
  | slash => "/"
  | star => "*"

/-- The `type` of a token -/
def Token.type : Token → String
  | word _ => "word"
  | value _ => "value"
  | symbol sign => sign.text

namespace Lexer

def isNameChar (char : Char) : Bool :=
  ('A' ≤ char && char ≤ 'Z') || ('a' ≤ char && char ≤ 'z') || ('0' ≤ char && char ≤ '9') ||
    char = '_'

def binaryValueOf (digit : Char) : Option Nat :=
  if digit = '0' then some 0 else if digit = '1' then some 1 else none

def decimalValueOf (digit : Char) : Option Nat :=
  if '0' ≤ digit ∧ digit ≤ '9' then some (digit.toNat - '0'.toNat) else none

def hexadecimalValueOf (digit : Char) : Option Nat :=
  if '0' ≤ digit ∧ digit ≤ '9' then some (digit.toNat - '0'.toNat)
  else if 'a' ≤ digit ∧ digit ≤ 'f' then some (10 + digit.toNat - 'a'.toNat)
  else if 'A' ≤ digit ∧ digit ≤ 'F' then some (10 + digit.toNat - 'A'.toNat)
  else none

/-! ## Words and numbers

The text of a tokenizer begins with the current character, and what it leaves begins with the
character that it read last. -/

/-- What a step of the lexer yields and reports, and where it stops -/
structure Step where
  tokens : List Token
  errors : List SyntaxError
  text : List Char

def Step.token (token : Token) (text : List Char) : Step := ⟨[token], [], text⟩

def nameChars : List Char → List Char × List Char
  | current :: peeked :: text =>
    if isNameChar peeked then
      let (chars, text) := nameChars (peeked :: text)
      (current :: chars, text)
    else ([current], current :: peeked :: text)
  | text => (text, text)

variable (base : Nat) (valueOf : Char → Option Nat) (text : List Char)

def tokenizeName : Step :=
  let (chars, text) := nameChars text
  .token (.word (String.ofList chars)) text

/-- The digits behind the first one. A number that a double cannot hold stays exact here. -/
def moreDigits (base : Nat) (valueOf : Char → Option Nat) (num : Nat) :
    List Char → Nat × List Char
  | current :: peeked :: text =>
    match valueOf peeked with
    | some digitValue => moreDigits base valueOf (num * base + digitValue) (peeked :: text)
    | none => (num, current :: peeked :: text)
  | text => (num, text)

/-- The digits behind the point, which is the current character at first -/
def fractionDigits : List Char → List Char × List Char
  | current :: peeked :: text =>
    match decimalValueOf peeked with
    | some _ =>
      let (fraction, text) := fractionDigits (peeked :: text)
      (peeked :: fraction, text)
    | none => ([], current :: peeked :: text)
  | text => ([], text)

/-- The number with what follows a point -/
def withFraction (num : Nat) : List Char → Decimal × List Char
  | current :: '.' :: text =>
    if base = 10 then
      let (fraction, text) := fractionDigits ('.' :: text)
      (.normalize false (Nat.ofDigitChars 10 fraction num) (-fraction.length), text)
    else (.normalize false num 0, current :: '.' :: text)
  | text => (.normalize false num 0, text)

def withSuffix (num : Decimal) : List Char → FieldValue × List Char
  | _ :: '%' :: text => (.percent num, '%' :: text)
  | _ :: '°' :: peeked :: text =>
    (.celsius num, if peeked = 'c' ∨ peeked = 'C' then peeked :: text else '°' :: peeked :: text)
  | _ :: '°' :: [] => (.celsius num, ['°'])
  | text => (.number num, text)

def invalidNumber : SyntaxError :=
  { code := "INVALID_NUMBER", message := "Expected digit following numeric suffix" }

def tokenizeDigits : Step :=
  match text.head?.bind valueOf with
  | none => ⟨[.value (.number (.normalize false 0 0))], [invalidNumber], text⟩
  | some first =>
    let (num, text) := moreDigits base valueOf first text
    let (num, text) := withFraction base num text
    let (value, text) := withSuffix num text
    .token (.value value) text

/-! ## The lexer -/

def badEqual : SyntaxError :=
  { code := "BAD_EQUAL", message := "\"=\" must be followed by another \"=\"" }

def garbageCharacter (char : Char) : SyntaxError :=
  { code := "GARBAGE_CHARACTER", message := "Unexpected character \"" ++ char.toString ++ "\"" }

def simpleSymbol : Char → Option Symbol
  | '|' => some (.binary .or)
  | '^' => some (.binary .xor)
  | '&' => some (.binary .and)
  | '.' => some .dot
  | ',' => some .comma
  | '[' => some .openBracket
  | ']' => some .closeBracket
  | '(' => some .openParen
  | ')' => some .closeParen
  | '\x7b' => some .openBrace
  | '\x7d' => some .closeBrace
  | '-' => some .minus
  | '+' => some .plus
  | '/' => some .slash
  | '*' => some .star
  | _ => none

/-- The symbols that another `=` belongs to, without it and with it -/
def comparisonSymbol : Char → Option (Symbol × Symbol)
  | '!' => some (.not, .binary .ne)
  | '>' => some (.binary .gt, .binary .gte)
  | '<' => some (.binary .lt, .binary .lte)
  | _ => none

def tokenizeZero : List Char → Step
  | '0' :: 'x' :: text => tokenizeDigits 16 hexadecimalValueOf text
  | '0' :: 'b' :: text =>
    -- There is no `break` behind the binary number.
    let binary := tokenizeDigits 2 binaryValueOf text
    let decimal := tokenizeDigits 10 decimalValueOf binary.text
    ⟨binary.tokens ++ decimal.tokens, binary.errors ++ decimal.errors, decimal.text⟩
  | text => tokenizeDigits 10 decimalValueOf text

def tokenizeComparison (plain withEqual : Symbol) : List Char → Step
  | _ :: '=' :: text => .token (.symbol withEqual) ('=' :: text)
  | text => .token (.symbol plain) text

def tokenizeEqual : List Char → Step
  | _ :: '=' :: text => .token (.symbol (.binary .eq)) ('=' :: text)
  | text => ⟨[.symbol (.binary .eq)], [badEqual], text⟩

def isSpace (char : Char) : Bool :=
  char = '\n' || char = ' ' || char = '\t' || char = '\r' || char = '\x0b' || char = '\x0c'

def step (current : Char) (text : List Char) : Step :=
  match simpleSymbol current with
  | some symbol => .token (.symbol symbol) text
  | none =>
    if current = '0' then tokenizeZero text
    else if '1' ≤ current ∧ current ≤ '9' then tokenizeDigits 10 decimalValueOf text
    else
      match comparisonSymbol current with
      | some (plain, withEqual) => tokenizeComparison plain withEqual text
      | none =>
        if current = '=' then tokenizeEqual text
        else if isSpace current then ⟨[], [], text⟩
        else if isNameChar current then tokenizeName text
        else ⟨[], [garbageCharacter current], text⟩

/-! A step does not go back. -/

theorem nameChars_length : (nameChars text).2.length ≤ text.length := by
  fun_induction nameChars text <;> simp_all
  omega

theorem moreDigits_length (num : Nat) (text : List Char) :
    (moreDigits base valueOf num text).2.length ≤ text.length := by
  induction text generalizing num with
  | nil => exact le_rfl
  | cons current rest induction =>
    cases rest with
    | nil => exact le_rfl
    | cons peeked text =>
      rw [moreDigits]
      split
      · exact (induction _).trans (Nat.le_succ _)
      · exact le_rfl

theorem fractionDigits_length : (fractionDigits text).2.length ≤ text.length := by
  fun_induction fractionDigits text <;> simp_all
  omega

theorem withFraction_length (num : Nat) (text : List Char) :
    (withFraction base num text).2.length ≤ text.length := by
  unfold withFraction
  split
  · split
    · exact (fractionDigits_length _).trans (by simp)
    · exact le_rfl
  · exact le_rfl

theorem withSuffix_length (num : Decimal) (text : List Char) :
    (withSuffix num text).2.length ≤ text.length := by
  unfold withSuffix
  split
  · simp
  · split <;> simp
  · simp
  · exact le_rfl

theorem tokenizeDigits_length : (tokenizeDigits base valueOf text).text.length ≤ text.length := by
  unfold tokenizeDigits
  split
  · exact le_rfl
  · exact (withSuffix_length _ _).trans
      ((withFraction_length _ _ _).trans (moreDigits_length _ _ _ _))

theorem step_length (current : Char) (text : List Char) :
    (step current text).text.length ≤ text.length := by
  unfold step
  split
  · exact le_rfl
  · split
    · unfold tokenizeZero
      split
      · exact (tokenizeDigits_length _ _ _).trans (by simp; omega)
      · exact (tokenizeDigits_length _ _ _).trans
          ((tokenizeDigits_length _ _ _).trans (by simp; omega))
      · exact tokenizeDigits_length _ _ _
    · split
      · exact tokenizeDigits_length _ _ _
      · split
        · unfold tokenizeComparison
          split <;> simp [Step.token]
        · split
          · unfold tokenizeEqual
            split <;> simp [Step.token]
          · split
            · exact le_rfl
            · split
              · exact nameChars_length text
              · exact le_rfl

def lex : List Char → List Token × List SyntaxError
  | [] => ([], [])
  | current :: text =>
    let yielded := step current (current :: text)
    let (tokens, errors) := lex yielded.text.tail
    (yielded.tokens ++ tokens, yielded.errors ++ errors)
termination_by text => text.length
decreasing_by
  have notBack := step_length current (current :: text)
  simp only [List.length_tail, List.length_cons] at notBack ⊢
  omega

end Lexer

end MatterJs.Model.Conformance
