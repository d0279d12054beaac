import MatterJs.Foundation.Decimals
import MatterJs.Foundation.OrderedMap

/-! JSON texts: `JSON.stringify` for values that JSON has, and `JSON.parse`. Strings are lists
of code units, which need not be well-formed. -/

namespace MatterJs

abbrev CodeUnit := UInt16

namespace CodeUnit

def ofChar (char : Char) : CodeUnit := char.toNat.toUInt16

/-- Half of a surrogate pair is no character; it becomes one that nothing looks for. -/
def toChar (unit : CodeUnit) : Char := Char.ofNat unit.toNat

def isHighSurrogate (unit : CodeUnit) : Bool := 0xd800 ≤ unit && unit ≤ 0xdbff

def isLowSurrogate (unit : CodeUnit) : Bool := 0xdc00 ≤ unit && unit ≤ 0xdfff

end CodeUnit

def units (text : List Char) : List CodeUnit := text.map CodeUnit.ofChar

def chars (text : List CodeUnit) : List Char := text.map CodeUnit.toChar

inductive JsonValue where
  | null
  | boolean (value : Bool)
  | number (value : Decimal)
  | string (value : List CodeUnit)
  | array (elements : List JsonValue)
  | object (members : List (List CodeUnit × JsonValue))

namespace JsonText

def quotationMark : CodeUnit := 0x22
def reverseSolidus : CodeUnit := 0x5c
def leftBracket : CodeUnit := 0x5b
def rightBracket : CodeUnit := 0x5d
def leftBrace : CodeUnit := 0x7b
def rightBrace : CodeUnit := 0x7d
def comma : CodeUnit := 0x2c
def colon : CodeUnit := 0x3a
def lineFeed : CodeUnit := 0x0a
def space : CodeUnit := 0x20

def hexDigit (digit : Nat) : CodeUnit := CodeUnit.ofChar (Nat.digitChar digit)

/-- `UnicodeEscape` -/
def unicodeEscape (unit : CodeUnit) : List CodeUnit :=
  [reverseSolidus, CodeUnit.ofChar 'u', hexDigit (unit.toNat / 4096),
    hexDigit (unit.toNat / 256 % 16), hexDigit (unit.toNat / 16 % 16),
    hexDigit (unit.toNat % 16)]

def shortEscapes : List (CodeUnit × CodeUnit) :=
  [(0x08, CodeUnit.ofChar 'b'), (0x09, CodeUnit.ofChar 't'), (0x0a, CodeUnit.ofChar 'n'),
    (0x0c, CodeUnit.ofChar 'f'), (0x0d, CodeUnit.ofChar 'r'), (quotationMark, quotationMark),
    (reverseSolidus, reverseSolidus)]

def escapeUnit (unit : CodeUnit) : List CodeUnit :=
  match shortEscapes.lookup unit with
  | some short => [reverseSolidus, short]
  | none =>
    if unit < space ∨ unit.isHighSurrogate ∨ unit.isLowSurrogate then unicodeEscape unit
    else [unit]

/-- A surrogate pair stays as it is, and half of one is escaped. -/
def escape : List CodeUnit → List CodeUnit
  | [] => []
  | [unit] => escapeUnit unit
  | unit :: next :: rest =>
    if unit.isHighSurrogate ∧ next.isLowSurrogate then unit :: next :: escape rest
    else escapeUnit unit ++ escape (next :: rest)

/-- `QuoteJSONString` -/
def quote (text : List CodeUnit) : List CodeUnit :=
  quotationMark :: (escape text ++ [quotationMark])

variable (gap : List CodeUnit)

def lineBreak (depth : Nat) : List CodeUnit :=
  if gap = [] then [] else lineFeed :: (List.replicate depth gap).flatten

def colonSpace : List CodeUnit := if gap = [] then [] else [space]

def memberText (depth : Nat) (key value : List CodeUnit) : List CodeUnit :=
  lineBreak gap depth ++ (quote key ++ colon :: (colonSpace gap ++ value))

mutual
/-- `JSON.stringify` with a gap, `depth` levels inside. -/
def stringify (gap : List CodeUnit) (depth : Nat) : JsonValue → List CodeUnit
  | .null => units ['n', 'u', 'l', 'l']
  | .boolean true => units ['t', 'r', 'u', 'e']
  | .boolean false => units ['f', 'a', 'l', 's', 'e']
  | .number value => units value.text
  | .string value => quote value
  | .array [] => [leftBracket, rightBracket]
  | .array (element :: elements) =>
    leftBracket :: (lineBreak gap (depth + 1) ++ stringify gap (depth + 1) element ++
      stringifyElements gap (depth + 1) elements ++
      (lineBreak gap depth ++ [rightBracket]))
  | .object [] => [leftBrace, rightBrace]
  | .object ((key, value) :: members) =>
    leftBrace :: (memberText gap (depth + 1) key (stringify gap (depth + 1) value) ++
      stringifyMembers gap (depth + 1) members ++
      (lineBreak gap depth ++ [rightBrace]))

def stringifyElements (gap : List CodeUnit) (depth : Nat) : List JsonValue → List CodeUnit
  | [] => []
  | element :: elements =>
    comma :: (lineBreak gap depth ++ stringify gap depth element ++
      stringifyElements gap depth elements)

def stringifyMembers (gap : List CodeUnit) (depth : Nat) :
    List (List CodeUnit × JsonValue) → List CodeUnit
  | [] => []
  | (key, value) :: members =>
    comma :: (memberText gap depth key (stringify gap depth value) ++
      stringifyMembers gap depth members)
end

def isWhiteSpace (unit : CodeUnit) : Bool :=
  unit = 0x09 || unit = lineFeed || unit = 0x0d || unit = space

variable (text : List CodeUnit)

def skipWhiteSpace : List CodeUnit := text.dropWhile isWhiteSpace

def hexValue (unit : CodeUnit) : Option Nat :=
  let char := unit.toChar
  if '0' ≤ char ∧ char ≤ '9' then some (char.toNat - '0'.toNat)
  else if 'a' ≤ char ∧ char ≤ 'f' then some (char.toNat - 'a'.toNat + 10)
  else if 'A' ≤ char ∧ char ≤ 'F' then some (char.toNat - 'A'.toNat + 10)
  else none

/-- What an escape of two units stands for. A solidus may be escaped as well. -/
def unescapeShort (short : CodeUnit) : Option CodeUnit :=
  if short = CodeUnit.ofChar '/' then some short
  else (shortEscapes.find? fun (_, other) => other = short).map Prod.fst

def unescapeUnicode (first second third fourth : CodeUnit) : Option CodeUnit := do
  let first ← hexValue first
  let second ← hexValue second
  let third ← hexValue third
  let fourth ← hexValue fourth
  return (first * 4096 + second * 256 + third * 16 + fourth).toUInt16

/-- A string behind its first quotation mark, and the text behind the last. -/
def parseString : List CodeUnit → Option (List CodeUnit × List CodeUnit)
  | [] => none
  | unit :: text =>
    if unit = quotationMark then some ([], text)
    else if unit < space then none
    else if unit = reverseSolidus then
      match text with
      | [] => none
      | short :: text =>
        if short = CodeUnit.ofChar 'u' then
          match text with
          | first :: second :: third :: fourth :: text => do
            let unit ← unescapeUnicode first second third fourth
            let (value, rest) ← parseString text
            return (unit :: value, rest)
          | _ => none
        else do
          let unit ← unescapeShort short
          let (value, rest) ← parseString text
          return (unit :: value, rest)
    else do
      let (value, rest) ← parseString text
      return (unit :: value, rest)

def isNumberChar (char : Char) : Bool :=
  char.isDigit || char = '-' || char = '+' || char = '.' || char = 'e' || char = 'E'

def parseLiteral : Option (JsonValue × List CodeUnit) :=
  match dropPrefix (units ['n', 'u', 'l', 'l']) with
  | some rest => some (.null, rest)
  | none =>
    match dropPrefix (units ['t', 'r', 'u', 'e']) with
    | some rest => some (.boolean true, rest)
    | none =>
      match dropPrefix (units ['f', 'a', 'l', 's', 'e']) with
      | some rest => some (.boolean false, rest)
      | none =>
        let (number, rest) := text.span fun unit => isNumberChar unit.toChar
        (Decimal.parse (chars number)).map fun value => (.number value, rest)
where
  dropPrefix (name : List CodeUnit) : Option (List CodeUnit) :=
    if name <+: text then some (text.drop name.length) else none

/-- The members of an object: of several with one key the last counts. -/
def collectMembers (members : List (List CodeUnit × JsonValue)) :
    List (List CodeUnit × JsonValue) :=
  members.foldl (fun members (key, value) => OrderedMap.setEntries key value members) []

def parseKey : Option (List CodeUnit × List CodeUnit) :=
  match skipWhiteSpace text with
  | [] => none
  | mark :: rest =>
    if mark = quotationMark then
      match parseString rest with
      | none => none
      | some (key, rest) =>
        match skipWhiteSpace rest with
        | [] => none
        | unit :: rest => if unit = colon then some (key, rest) else none
    else none

mutual
def parseValue : (fuel : Nat) → List CodeUnit → Option (JsonValue × List CodeUnit)
  | 0, _ => none
  | fuel + 1, text =>
    match skipWhiteSpace text with
    | [] => none
    | unit :: rest =>
      if unit = quotationMark then
        (parseString rest).map fun (value, rest) => (.string value, rest)
      else if unit = leftBracket then
        match skipWhiteSpace rest with
        | [] => none
        | next :: behind =>
          if next = rightBracket then some (.array [], behind)
          else (parseElements fuel rest).map fun (elements, rest) =>
            (.array elements, rest)
      else if unit = leftBrace then
        match skipWhiteSpace rest with
        | [] => none
        | next :: behind =>
          if next = rightBrace then some (.object [], behind)
          else (parseMembers fuel rest).map fun (members, rest) =>
            (.object (collectMembers members), rest)
      else parseLiteral (unit :: rest)

/-- The elements of an array up to its bracket: at least one. -/
def parseElements : (fuel : Nat) → List CodeUnit → Option (List JsonValue × List CodeUnit)
  | 0, _ => none
  | fuel + 1, text =>
    match parseValue fuel text with
    | none => none
    | some (value, rest) =>
      match skipWhiteSpace rest with
      | [] => none
      | unit :: rest =>
        if unit = comma then
          (parseElements fuel rest).map fun (values, rest) => (value :: values, rest)
        else if unit = rightBracket then some ([value], rest)
        else none

def parseMembers :
    (fuel : Nat) → List CodeUnit → Option (List (List CodeUnit × JsonValue) × List CodeUnit)
  | 0, _ => none
  | fuel + 1, text =>
    match parseKey text with
    | none => none
    | some (key, rest) =>
      match parseValue fuel rest with
      | none => none
      | some (value, rest) =>
        match skipWhiteSpace rest with
        | [] => none
        | unit :: rest =>
          if unit = comma then
            (parseMembers fuel rest).map fun (members, rest) =>
              ((key, value) :: members, rest)
          else if unit = rightBrace then some ([(key, value)], rest)
          else none
end

/-- `JSON.parse`, `none` where it throws. No value is nested deeper than its text is long. -/
def parse (text : List CodeUnit) : Option JsonValue :=
  match parseValue (text.length + 1) text with
  | none => none
  | some (value, rest) => if skipWhiteSpace rest = [] then some value else none

end JsonText

end MatterJs
