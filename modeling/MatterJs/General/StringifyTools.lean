import MatterJs.Foundation.JsonText
import MatterJs.General.ParseInt

/-! `toJson` and `fromJson`: how storage values that JSON does not have are written as marked
strings. -/

namespace MatterJs.General.StringifyTools

open JsonText

/-- A finite number is the decimal that stands for it. Both zeros are one number. -/
inductive JsNumber where
  | nan
  | infinity (negative : Bool)
  | finite (value : Decimal)
  deriving DecidableEq

/-- `SupportedStorageTypes`. The members of an object and the entries of a map are in their
order. -/
inductive StorageValue where
  | undefined
  | null
  | boolean (value : Bool)
  | number (value : JsNumber)
  | string (value : List CodeUnit)
  | bigint (value : Int)
  | bytes (value : List UInt8)
  | array (elements : List StorageValue)
  | object (members : List (List CodeUnit × StorageValue))
  | map (entries : List (StorageValue × StorageValue))

/-- What is thrown; the language's own errors are without their messages. -/
inductive StringifyError where
  | unexpectedDataError (message : List CodeUnit)
  | syntaxError
  | typeError
  | rangeError
  deriving DecidableEq

/-- The conversions of the language to numbers that are left open. -/
structure NumberConversions where
  /-- `Uint8Array.from` an array -/
  uint8From : List StorageValue → Except StringifyError (List UInt8)
  /-- `value % 2 !== 0` -/
  isOdd : JsonValue → Except StringifyError Bool

def text (string : String) : List CodeUnit := units string.toList

def toHex (bytes : List UInt8) : List CodeUnit :=
  bytes.flatMap fun byte => units (padStart 2 (Nat.toDigits 16 byte.toNat))

def isLineTerminator (unit : CodeUnit) : Bool :=
  unit = 0x0a || unit = 0x0d || unit = 0x2028 || unit = 0x2029

/-- `match(/.{1,2}/g)` -/
def hexPairs : List CodeUnit → List (List CodeUnit)
  | [] => []
  | [unit] => if isLineTerminator unit then [] else [[unit]]
  | unit :: next :: rest =>
    if isLineTerminator unit then hexPairs (next :: rest)
    else if isLineTerminator next then [unit] :: hexPairs rest
    else [unit, next] :: hexPairs rest

/-- `Bytes.fromHex` of a string -/
def fromHexString (hexString : List CodeUnit) : Except StringifyError (List UInt8) :=
  if hexString.length = 0 then .ok []
  else if hexString.length % 2 ≠ 0 then
    .error (.unexpectedDataError (text "Hex string should have an even length."))
  else
    match hexPairs hexString with
    | [] => .error (.unexpectedDataError (text "Failed to parse the hex string."))
    | pairs => .ok (pairs.map fun pair =>
      UInt8.ofNat (((parseInt (chars pair) 16).getD 0 % 256).toNat))

/-- `Bytes.fromHex` of any value, which only looks at its length before it matches. -/
def fromHex (conversions : NumberConversions) :
    Option JsonValue → Except StringifyError (List UInt8)
  | some (.string hexString) => fromHexString hexString
  | some (.array elements) =>
    if elements.length = 0 then .ok []
    else if elements.length % 2 ≠ 0 then oddLength
    else .error .typeError
  | some (.object members) =>
    match members.lookup (text "length") with
    | none => oddLength
    | some length => do
      if let .number length := length then
        if length.mantissa = 0 then return []
      if ← conversions.isOdd length then oddLength else .error .typeError
  | some (.boolean _) | some (.number _) => oddLength
  | some .null | none => .error .typeError
where
  oddLength : Except StringifyError (List UInt8) :=
    .error (.unexpectedDataError (text "Hex string should have an even length."))

mutual
/-- The text that a value is converted to. A `toString` of its own is not a function. -/
def toText : JsonValue → Except StringifyError (List CodeUnit)
  | .null => .ok (text "null")
  | .boolean true => .ok (text "true")
  | .boolean false => .ok (text "false")
  | .number value => .ok (units value.text)
  | .string value => .ok value
  | .array elements => elementsToText elements
  | .object members =>
    if (members.map Prod.fst).contains (text "toString") then .error .typeError
    else .ok (text "[object Object]")

/-- `join` -/
def elementsToText : List JsonValue → Except StringifyError (List CodeUnit)
  | [] => .ok []
  | element :: elements => do
    let first ← match element with
      | .null => .ok []
      | other => toText other
    let others ← elementsToText elements
    return if elements.isEmpty then first else first ++ comma :: others
end

/-- `BigInt` of a string, `none` where it throws. -/
def parseBigInt (string : List Char) : Option Int :=
  match trim string with
  | [] => some 0
  | '0' :: 'x' :: digits | '0' :: 'X' :: digits => number 16 digits
  | '0' :: 'o' :: digits | '0' :: 'O' :: digits => number 8 digits
  | '0' :: 'b' :: digits | '0' :: 'B' :: digits => number 2 digits
  | '-' :: digits => (number 10 digits).map fun value => -value
  | '+' :: digits => number 10 digits
  | digits => number 10 digits
where
  trim (string : List Char) : List Char :=
    ((string.dropWhile General.isWhiteSpace).reverse.dropWhile General.isWhiteSpace).reverse
  number (radix : Nat) (digits : List Char) : Option Int :=
    if digits ≠ [] ∧ digits.all fun digit => (digitValue digit).any (· < radix) then
      (leadingNumber radix digits none).map Int.ofNat
    else none

/-- `BigInt` of any value. A number that a double cannot hold stays exact here. -/
def toBigInt : Option JsonValue → Except StringifyError Int
  | none | some .null => .error .typeError
  | some (.boolean value) => .ok (if value then 1 else 0)
  | some (.number value) =>
    if 0 ≤ value.exponent then
      .ok ((if value.negative then -1 else 1) * (value.mantissa * 10 ^ value.exponent.toNat))
    else .error .rangeError
  | some value => do
    let string ← toText value
    match parseBigInt (chars string) with
    | some value => .ok value
    | none => .error .syntaxError

/-- The values that are the same to the keys of a map. Two objects never are. -/
def sameValueZero : StorageValue → StorageValue → Bool
  | .undefined, .undefined => true
  | .null, .null => true
  | .boolean value, .boolean other => value = other
  | .number value, .number other => value = other
  | .string value, .string other => value = other
  | .bigint value, .bigint other => value = other
  | _, _ => false

/-- `Map.set` -/
def mapSet (key value : StorageValue) :
    List (StorageValue × StorageValue) → List (StorageValue × StorageValue)
  | [] => [(key, value)]
  | entry :: entries =>
    if sameValueZero entry.1 key then (entry.1, value) :: entries
    else entry :: mapSet key value entries

def ofNat (value : Nat) : StorageValue := .number (.finite (Decimal.normalize false value 0))

/-- The key and value of an element that a map is made from: its members `0` and `1`. -/
def mapEntry : StorageValue → Except StringifyError (StorageValue × StorageValue)
  | .array elements =>
    .ok (elements[0]?.getD .undefined, elements[1]?.getD .undefined)
  | .object members =>
    .ok ((members.lookup (text "0")).getD .undefined, (members.lookup (text "1")).getD .undefined)
  | .bytes value =>
    .ok ((value[0]?.map fun byte => ofNat byte.toNat).getD .undefined,
      (value[1]?.map fun byte => ofNat byte.toNat).getD .undefined)
  | .map _ => .ok (.undefined, .undefined)
  | _ => .error .typeError

/-- `new Map` -/
def newMap : StorageValue → Except StringifyError StorageValue
  | .undefined | .null => .ok (.map [])
  | .array elements => do
    let entries ← elements.mapM mapEntry
    return .map (entries.foldl (fun map (key, value) => mapSet key value map) [])
  | .map entries => .ok (.map entries)
  | .string value => if value = [] then .ok (.map []) else .error .typeError
  | .bytes value => if value = [] then .ok (.map []) else .error .typeError
  | _ => .error .typeError

/-! ## Marked strings -/

def JSON_SPECIAL_KEY_TYPE : List CodeUnit := text "__object__"
def JSON_SPECIAL_KEY_VALUE : List CodeUnit := text "__value__"

/-- A text between quotation marks in a template, with nothing escaped. -/
def quoted (string : List CodeUnit) : List CodeUnit :=
  quotationMark :: (string ++ [quotationMark])

def special (type : String) (value : List CodeUnit) : List CodeUnit :=
  leftBrace :: (quoted JSON_SPECIAL_KEY_TYPE ++ colon :: (quoted (text type) ++
    comma :: (quoted JSON_SPECIAL_KEY_VALUE ++ colon :: (value ++ [rightBrace]))))

def specialUndefined : List CodeUnit :=
  leftBrace :: (quoted JSON_SPECIAL_KEY_TYPE ++ colon :: (quoted (text "Undefined") ++
    [rightBrace]))

def bigintText (value : Int) : List Char :=
  if value < 0 then '-' :: Nat.toDigits 10 value.natAbs else Nat.toDigits 10 value.natAbs

/-- The data of an object that looks like a `Buffer` of Node.js. -/
def bufferData (members : List (List CodeUnit × StorageValue)) : Option (List StorageValue) :=
  match members.lookup (text "type"), members.lookup (text "data") with
  | some (.string type), some (.array data) => if type = text "Buffer" then some data else none
  | _, _ => none

variable (conversions : NumberConversions)

mutual
/-- A value as the replacer leaves it to `JSON.stringify`. -/
def replace : StorageValue → Except StringifyError JsonValue
  | .undefined => .ok (.string specialUndefined)
  | .null => .ok .null
  | .boolean value => .ok (.boolean value)
  | .number (.finite value) => .ok (.number value)
  | .number _ => .ok .null
  | .string value => .ok (.string value)
  | .bigint value => .ok (.string (special "BigInt" (quoted (units (bigintText value)))))
  | .bytes value => .ok (.string (special "Uint8Array" (quoted (toHex value))))
  | .array elements => do
    let elements ← replaceElements elements
    return .array elements
  | .object members => do
    match bufferData members with
    | some data =>
      let value ← conversions.uint8From data
      return .string (special "Uint8Array" (quoted (toHex value)))
    | none =>
      let members ← replaceMembers members
      return .object members
  | .map entries => do
    let entries ← replaceEntries entries
    return .string (special "Map" (quote (stringify [] 0 (.array entries))))

def replaceElements : List StorageValue → Except StringifyError (List JsonValue)
  | [] => .ok []
  | element :: elements => do
    let first ← replace element
    let others ← replaceElements elements
    return first :: others

def replaceMembers :
    List (List CodeUnit × StorageValue) → Except StringifyError (List (List CodeUnit × JsonValue))
  | [] => .ok []
  | (key, value) :: members => do
    let value ← replace value
    let others ← replaceMembers members
    return (key, value) :: others

def replaceEntries : List (StorageValue × StorageValue) → Except StringifyError (List JsonValue)
  | [] => .ok []
  | (key, value) :: entries => do
    let key ← replace key
    let value ← replace value
    let others ← replaceEntries entries
    return .array [key, value] :: others
end

/-- The gap of `JSON.stringify` for a number of spaces. -/
def gapOf (spaces : Option Nat) : List CodeUnit :=
  List.replicate (min 10 (spaces.getD 0)) space

def toJson (spaces : Option Nat) (object : StorageValue) :
    Except StringifyError (List CodeUnit) := do
  let value ← replace conversions object
  return stringify (gapOf spaces) 0 value

/-- What a string that is revived begins with. -/
def specialPrefix : List CodeUnit :=
  leftBrace :: (quoted JSON_SPECIAL_KEY_TYPE ++ [colon, quotationMark])

def isSpecial (value : List CodeUnit) : Bool :=
  specialPrefix.isPrefixOf value && value.getLast? = some rightBrace

/-- The types that once were written with a value that needs no conversion. -/
def plainTypes : List (List CodeUnit) :=
  ["AttributeId", "CaseAuthenticatedTag", "ClusterId", "CommandId", "DataVersion", "DeviceTypeId",
    "EndpointNumber", "EntryIndex", "EventId", "FabricIndex", "FieldId", "GroupId",
    "VendorId"].map text

def bigintTypes : List (List CodeUnit) := ["EventNumber", "FabricId", "NodeId"].map text

mutual
def ofJson : JsonValue → StorageValue
  | .null => .null
  | .boolean value => .boolean value
  | .number value => .number (.finite value)
  | .string value => .string value
  | .array elements => .array (ofJsonElements elements)
  | .object members => .object (ofJsonMembers members)

def ofJsonElements : List JsonValue → List StorageValue
  | [] => []
  | element :: elements => ofJson element :: ofJsonElements elements

def ofJsonMembers : List (List CodeUnit × JsonValue) → List (List CodeUnit × StorageValue)
  | [] => []
  | (key, value) :: members => (key, ofJson value) :: ofJsonMembers members
end

/-- `String(value)` -/
def toTextOrUndefined : Option JsonValue → Except StringifyError (List CodeUnit)
  | none => .ok (text "undefined")
  | some value => toText value

def unknownType (object : Option JsonValue) : Except StringifyError StorageValue := do
  let type ← toTextOrUndefined object
  .error (.unexpectedDataError (text "Unknown object type: " ++ type))

/-- The value of the special type `object`; `nested` is `fromJson`. -/
def reviveSpecial (nested : List CodeUnit → Except StringifyError StorageValue)
    (object value : Option JsonValue) : Except StringifyError StorageValue :=
  match object with
  | some (.string type) =>
    if type = text "Undefined" then .ok .undefined
    else if type = text "BigInt" then (toBigInt value).map .bigint
    else if type = text "Uint8Array" then (fromHex conversions value).map .bytes
    else if type = text "Map" then do
      let json ← toTextOrUndefined value
      let entries ← nested json
      newMap entries
    else if type ∈ plainTypes then .ok (value.elim .undefined ofJson)
    else if type ∈ bigintTypes then (toBigInt value).map .bigint
    else unknownType object
  | _ => unknownType object

def reviveString (nested : List CodeUnit → Except StringifyError StorageValue)
    (value : List CodeUnit) : Except StringifyError StorageValue :=
  if isSpecial value then
    match parse value with
    | none => .error .syntaxError
    | some (.object data) =>
      reviveSpecial conversions nested (data.lookup JSON_SPECIAL_KEY_TYPE)
        (data.lookup JSON_SPECIAL_KEY_VALUE)
    | some _ => reviveSpecial conversions nested none none
  else .ok (.string value)

mutual
/-- What the reviver makes of a value, from the inside out. -/
def revive (nested : List CodeUnit → Except StringifyError StorageValue) :
    JsonValue → Except StringifyError StorageValue
  | .null => .ok .null
  | .boolean value => .ok (.boolean value)
  | .number value => .ok (.number (.finite value))
  | .string value => reviveString conversions nested value
  | .array elements => do
    let elements ← reviveElements nested elements
    return .array elements
  | .object members => do
    let members ← reviveMembers nested members
    return .object members

def reviveElements (nested : List CodeUnit → Except StringifyError StorageValue) :
    List JsonValue → Except StringifyError (List StorageValue)
  | [] => .ok []
  | element :: elements => do
    let first ← revive nested element
    let others ← reviveElements nested elements
    return first :: others

def reviveMembers (nested : List CodeUnit → Except StringifyError StorageValue) :
    List (List CodeUnit × JsonValue) → Except StringifyError (List (List CodeUnit × StorageValue))
  | [] => .ok []
  | (key, value) :: members => do
    let value ← revive nested value
    let others ← reviveMembers nested members
    return match value with
      | .undefined => others
      | value => (key, value) :: others
end

/-- With fuel for the texts in other texts. -/
def fromJsonWithin : Nat → List CodeUnit → Except StringifyError StorageValue
  | 0, _ => .error .rangeError
  | fuel + 1, json =>
    match parse json with
    | none => .error .syntaxError
    | some value => revive conversions (fromJsonWithin fuel) value

/-- No texts are nested deeper than the outermost is long. -/
def fromJson (json : List CodeUnit) : Except StringifyError StorageValue :=
  fromJsonWithin conversions (json.length + 1) json

end MatterJs.General.StringifyTools
