import MatterJs.Foundation.OrderedMap
import MatterJs.Types.TlvAny

/-! Schemas: how the values of the language are validated, written as TLV elements and
read back. -/

namespace MatterJs.Types

open General Consumption

/-- The values schemas work on. Numbers of both kinds are one, and the properties of an
object stand in their order. -/
inductive TlvValue where
  | number (value : Rat)
  | boolean (value : Bool)
  | string (text : List Char)
  | bytes (data : Bytes)
  | null
  | array (elements : List TlvValue)
  | object (properties : List (String × TlvValue))
  | stream (elements : TlvStream)

namespace TlvValue

def typeof : TlvValue → String
  | .number _ => "number"
  | .boolean _ => "boolean"
  | .string _ => "string"
  | _ => "object"

/-- Only objects have properties, and null cannot be asked for one. -/
def property (value : TlvValue) (name : String) : Except MatterError (Option TlvValue) :=
  match value with
  | .object properties => .ok (properties.lookup name)
  | .null => .error (.typeError s!"Cannot read properties of null (reading {name})")
  | _ => .ok none

/-- The names of the properties, in their order. -/
def keys : TlvValue → Except MatterError (List String)
  | .object properties => .ok (properties.map Prod.fst)
  | .null => .error (.typeError "Cannot convert undefined or null to object")
  | _ => .ok []

end TlvValue

def mismatch : MatterError :=
  .typeError "The value is not of the type of its schema"

/-- The value a reader found. The bits of a floating point number need its format. -/
def TlvPrimitive.toValue (ofBits : Nat → Rat) : TlvPrimitive → TlvValue
  | .number value => .number value
  | .float bits => .number (ofBits bits)
  | .string text => .string text
  | .bytes data => .bytes data
  | .boolean value => .boolean value
  | .null => .null

structure TlvEncodingOptions where
  forWriteInteraction : Bool
  allowMissingFieldsForNonFabricFilteredRead : Bool
  deriving DecidableEq

def TlvEncodingOptions.none : TlvEncodingOptions where
  forWriteInteraction := false
  allowMissingFieldsForNonFabricFilteredRead := false

/-- A validation error of a part, as one of the whole. Other errors pass unchanged. -/
def inField (name : String) : MatterError → MatterError
  | .validationDatatypeMismatchError message fieldName =>
    .validationDatatypeMismatchError message (some (path fieldName))
  | .validationMandatoryFieldMissingError message fieldName =>
    .validationMandatoryFieldMissingError message (some (path fieldName))
  | .validationOutOfBoundsError message fieldName =>
    .validationOutOfBoundsError message (some (path fieldName))
  | error => error
where
  path (fieldName : Option String) : String :=
    match fieldName with
    | some inner => name ++ "." ++ inner
    | none => name

/-- How the language turns a number into the bits of a floating point format and back. -/
structure FloatFormat where
  toBits : TlvFloatLength → Rat → Nat
  ofBits : TlvFloatLength → Nat → Rat
  toBits_lt : ∀ length value, toBits length value < 256 ^ TlvCodec.getUIntByteLength length.toLength

inductive TlvNumberType where
  | unsignedInt (lengthProvider : Rat → TlvLength)
  | signedInt (lengthProvider : Rat → TlvLength)
  | float (lengthProvider : Rat → TlvFloatLength) (format : FloatFormat)

def TlvNumberType.type : TlvNumberType → Nat
  | .unsignedInt _ => 0x04
  | .signedInt _ => 0x00
  | .float _ _ => 0x0a

/-- The larger of two values, when both are defined. -/
def maxValue (first second : Option Rat) : Option Rat :=
  match first, second with
  | none, second => second
  | first, none => first
  | some first, some second => some (if first > second then first else second)

def minValue (first second : Option Rat) : Option Rat :=
  match first, second with
  | none, second => second
  | first, none => first
  | some first, some second => some (if first < second then first else second)

structure TlvNumericSchema where
  type : TlvNumberType
  min : Option Rat
  max : Option Rat

namespace TlvNumericSchema

variable (schema : TlvNumericSchema)

def encodeTlvInternal (value : TlvValue) (tag : Option TlvTag) : Except MatterError TlvStream :=
  match value with
  | .number value =>
    match schema.type with
    | .unsignedInt lengthProvider =>
      .ok [{ tag
             typeLength := .unsignedInt (lengthProvider value)
             value := some (.number value) }]
    | .signedInt lengthProvider =>
      .ok [{ tag
             typeLength := .signedInt (lengthProvider value)
             value := some (.number value) }]
    | .float lengthProvider format =>
      .ok [{ tag
             typeLength := .float (lengthProvider value)
             value := some (.float (format.toBits (lengthProvider value) value)) }]
  | _ => .error mismatch

def ofBits (schema : TlvNumericSchema) (typeLength : TlvTypeLength) (bits : Nat) : Rat :=
  match schema.type, typeLength with
  | .float _ format, .float length => format.ofBits length bits
  | _, _ => bits

def decodeTlvInternalValue {State : Type} (reader : TlvReader State)
    (schema : TlvNumericSchema) (typeLength : TlvTypeLength) :
    Action State MatterError TlvValue :=
  if typeLength.type = schema.type.type then do
    let value ← reader.readPrimitive typeLength
    return value.toValue (schema.ofBits typeLength)
  else
    throw (.unexpectedDataError
      s!"Unexpected type {typeLength.type}, was expecting {schema.type.type}.")

def validateBoundaries (value : Rat) : Except MatterError Unit := do
  if let some min := schema.min then
    if value < min then
      throw (.validationOutOfBoundsError
        s!"Invalid value: {value} is below the minimum, {min}." none)
  if let some max := schema.max then
    if value > max then
      throw (.validationOutOfBoundsError
        s!"Invalid value: {value} is above the maximum, {max}." none)

def validate (value : TlvValue) : Except MatterError Unit :=
  match value with
  | .number value => schema.validateBoundaries value
  | value =>
    .error (.validationDatatypeMismatchError s!"Expected number, got {value.typeof}." none)

/-- Restrict value range. -/
def bound (min max : Option Rat) : TlvNumericSchema where
  type := schema.type
  min := maxValue min schema.min
  max := minValue max schema.max

end TlvNumericSchema

def signedSchema (min max : Rat) : TlvNumericSchema where
  type := .signedInt TlvCodec.getIntTlvLength
  min := some min
  max := some max

def unsignedSchema (max : Rat) : TlvNumericSchema where
  type := .unsignedInt TlvCodec.getUIntTlvLength
  min := some 0
  max := some max

def TlvInt8 : TlvNumericSchema := signedSchema (-128) 127
def TlvInt16 : TlvNumericSchema := signedSchema (-32768) 32767
def TlvInt32 : TlvNumericSchema := signedSchema (-2147483648) 2147483647
def TlvInt64 : TlvNumericSchema := signedSchema (-9223372036854775808) 9223372036854775807
def TlvUInt8 : TlvNumericSchema := unsignedSchema 0xff
def TlvUInt16 : TlvNumericSchema := unsignedSchema 0xffff
def TlvUInt24 : TlvNumericSchema := unsignedSchema 0xffffff
def TlvUInt32 : TlvNumericSchema := unsignedSchema 0xffffffff
def TlvUInt64 : TlvNumericSchema := unsignedSchema 18446744073709551615

inductive TlvStringType where
  | byteString
  | utf8String
  deriving DecidableEq

namespace TlvStringType

def type : TlvStringType → Nat
  | .byteString => 0x10
  | .utf8String => 0x0c

def typeLength : TlvStringType → TlvLength → TlvTypeLength
  | .byteString => .byteString
  | .utf8String => .utf8String

end TlvStringType

def utf16Length (text : List Char) : Nat :=
  (text.map fun char => if char.toNat < 0x10000 then 1 else 2).sum

structure StringSchema where
  type : TlvStringType
  minLength : Nat
  maxLength : Nat
  /-- No string or byte array of the language is longer. -/
  maxLength_le : maxLength ≤ 9007199254740991

namespace StringSchema

variable (schema : StringSchema) (value : TlvValue)

def lengthOf : Option Nat :=
  match schema.type, value with
  | .utf8String, .string text => some (utf16Length text)
  | .byteString, .bytes data => some data.length
  | _, _ => none

def primitiveOf : TlvPrimitive :=
  match value with
  | .string text => .string text
  | .bytes data => .bytes data
  | _ => .null

def encodeTlvInternal (tag : Option TlvTag) : Except MatterError TlvStream :=
  match schema.lengthOf value with
  | some length =>
    .ok [{ tag
           typeLength := schema.type.typeLength (TlvCodec.getUIntTlvLength length)
           value := some (primitiveOf value) }]
  | none => .error mismatch

def decodeTlvInternalValue {State : Type} (reader : TlvReader State) (schema : StringSchema)
    (typeLength : TlvTypeLength) : Action State MatterError TlvValue :=
  if typeLength.type = schema.type.type then do
    let value ← reader.readPrimitive typeLength
    return value.toValue Nat.cast
  else
    throw (.unexpectedDataError s!"Unexpected type {typeLength.type}.")

def validate : Except MatterError Unit :=
  match schema.lengthOf value with
  | some length =>
    if length > schema.maxLength then
      .error (.validationOutOfBoundsError
        s!"String is too long: {length}, max {schema.maxLength}." none)
    else if length < schema.minLength then
      .error (.validationOutOfBoundsError
        s!"String is too short: {length}, min {schema.minLength}." none)
    else
      .ok ()
  | none =>
    match schema.type with
    | .utf8String =>
      .error (.validationDatatypeMismatchError s!"Expected string, got {value.typeof}." none)
    | .byteString =>
      .error (.validationDatatypeMismatchError s!"Expected Uint8Array, got {value.typeof}." none)

end StringSchema

def TlvByteString : StringSchema where
  type := .byteString
  minLength := 0
  maxLength := 1024
  maxLength_le := by decide

def TlvString : StringSchema where
  type := .utf8String
  minLength := 0
  maxLength := 1024
  maxLength_le := by decide

inductive TlvObjectType where
  | struct
  | list
  deriving DecidableEq

def TlvObjectType.typeLength : TlvObjectType → TlvTypeLength
  | .struct => .struct
  | .list => .list

/-- A field beside its name and its schema. The lengths belong to repeated fields. -/
structure FieldType where
  id : Nat
  optional : Bool
  repeated : Bool
  minLength : Option Nat
  maxLength : Option Nat
  fallback : Option TlvValue

def TlvField (id : Nat) (fallback : Option TlvValue) : FieldType where
  id := id
  optional := false
  repeated := false
  minLength := none
  maxLength := none
  fallback := fallback

def TlvOptionalField (id : Nat) : FieldType where
  id := id
  optional := true
  repeated := false
  minLength := none
  maxLength := none
  fallback := none

namespace ObjectSchema

abbrev Encoder := TlvValue → Option TlvTag → Except MatterError TlvStream

def encodeEntryToTlv (name : String) (field : FieldType) (options : TlvEncodingOptions)
    (encode : Encoder) (value : TlvValue) : Except MatterError TlvStream := do
  if options.forWriteInteraction && options.allowMissingFieldsForNonFabricFilteredRead then
    throw (.internalError "Encode options cannot indicate a write interaction and a fabric filtered read interaction at the same time.")
  let tag : TlvTag := { profile := none, id := some field.id }
  match ← value.property name with
  | none =>
    if !field.optional && !options.allowMissingFieldsForNonFabricFilteredRead then
      if options.forWriteInteraction && field.id = 254 then
        return []
      throw (.validationMandatoryFieldMissingError s!"Missing mandatory field {name}" (some name))
    return []
  | some fieldValue =>
    if field.repeated then
      match fieldValue with
      | .array elements =>
        return (← elements.mapM fun element => encode element (some tag)).flatten
      | _ =>
        throw (.validationDatatypeMismatchError
          s!"Repeated field {name} should be an array." (some name))
    else
      encode fieldValue (some tag)

abbrev EntryEncoder := String × (TlvValue → Except MatterError TlvStream)

def encodeStructure (entries : List EntryEncoder) (value : TlvValue) :
    Except MatterError TlvStream := do
  return (← entries.mapM fun entry => entry.2 value).flatten

def encodeList (entries : List EntryEncoder) (value : TlvValue) :
    Except MatterError TlvStream := do
  let names ← value.keys
  let present ← names.mapM fun name =>
    match entries.lookup name with
    | some encode => encode value
    | none => throw (.typeError "Cannot destructure property of undefined")
  let missing ← (entries.filter fun entry => entry.1 ∉ names).mapM fun entry => entry.2 value
  return present.flatten ++ missing.flatten

abbrev Properties := List (String × TlvValue)

structure FieldDecoder (State : Type) where
  name : String
  field : FieldType
  decode : TlvTypeLength → Action State MatterError TlvValue

/-- The table of the fields by their identifiers, in which later fields replace earlier
ones. -/
def fieldById {State : Type} (decoders : List (FieldDecoder State)) (id : Nat) :
    Option (FieldDecoder State) :=
  decoders.reverse.find? fun decoder => decoder.field.id = id

def assign (result : Properties) (name : String) (repeated : Bool) (decoded : TlvValue) :
    Properties :=
  if repeated then
    match result.lookup name with
    | some (.array elements) =>
      OrderedMap.setEntries name (.array (elements ++ [decoded])) result
    | _ => OrderedMap.setEntries name (.array [decoded]) result
  else
    OrderedMap.setEntries name decoded result

def decodeElement {State : Type} (reader : TlvReader State) (fuel : Nat)
    (decoders : List (FieldDecoder State)) (allowProtocolSpecificTags : Bool)
    (result : Properties) : Action State MatterError (ForInStep Properties) := do
  let (tag, elementTypeLength) ← reader.readTagType
  if elementTypeLength = .endOfContainer then
    return .done result
  if (tag.bind TlvTag.profile).isSome && !allowProtocolSpecificTags then
    throw (.unexpectedDataError "Structure element tags should be context-specific.")
  match tag.bind TlvTag.id with
  | none => throw (.unexpectedDataError "Structure element tags should have an id.")
  | some id =>
    match fieldById decoders id with
    | none =>
      -- an unknown field is decoded as raw TLV, to skip forward the proper length
      let _ ← AnySchema.decodeTlvInternalValue reader fuel elementTypeLength
      return .yield result
    | some { name, field, decode } =>
      let decoded ← decode elementTypeLength
      return .yield (assign result name field.repeated decoded)

/-- Mandatory fields that are missing get their fallback value, if there is one. -/
def fillMissing : List (String × FieldType) → Properties → Properties
  | [], result => result
  | (name, field) :: fields, result =>
    match field.optional, result.lookup name, field.fallback with
    | false, none, some fallback =>
      fillMissing fields (OrderedMap.setEntries name
        (if field.repeated then .array [fallback] else fallback) result)
    | _, _, _ => fillMissing fields result

def decodeTlvInternalValue {State : Type} (reader : TlvReader State) (fuel : Nat)
    (decoders : List (FieldDecoder State)) (type : TlvObjectType)
    (allowProtocolSpecificTags : Bool) (typeLength : TlvTypeLength) :
    Action State MatterError TlvValue :=
  if typeLength = type.typeLength then do
    let result ← loop fuelExhausted
      (decodeElement reader fuel decoders allowProtocolSpecificTags) fuel []
    return .object (fillMissing (decoders.map fun decoder => (decoder.name, decoder.field)) result)
  else
    throw (.unexpectedDataError
      s!"Unexpected type {typeLength.type} (expected {type.typeLength.type}).")

/-- The elements of a repeated field, one after the other. -/
def validateElements (validate : TlvValue → Except MatterError Unit) :
    List TlvValue → Except MatterError Unit
  | [] => .ok ()
  | element :: elements => do
    validate element
    validateElements validate elements

def validateField (name : String) (field : FieldType)
    (validate : TlvValue → Except MatterError Unit) (value : TlvValue) :
    Except MatterError Unit := do
  match ← value.property name with
  | none =>
    if field.optional then
      return ()
    throw (.validationMandatoryFieldMissingError s!"Missing mandatory field {name}" (some name))
  | some data =>
    if field.repeated then
      let minLength := field.minLength.getD 2
      let maxLength := field.maxLength.getD 65535
      match data with
      | .array elements =>
        if elements.length > maxLength then
          throw (.validationOutOfBoundsError
            s!"Repeated field list for {name} is too long: {elements.length}, max {maxLength}."
            (some name))
        if elements.length < minLength then
          throw (.validationOutOfBoundsError
            s!"Repeated field list for {name} is too short: {elements.length}, min {minLength}."
            (some name))
        (validateElements validate elements).mapError (inField name)
      | _ =>
        throw (.validationDatatypeMismatchError
          s!"Repeated field {name} should be an array." (some name))
    else
      (validate data).mapError (inField name)

end ObjectSchema

namespace ArraySchema

def decodeElement {State : Type} (reader : TlvReader State)
    (decode : TlvTypeLength → Action State MatterError TlvValue) (result : List TlvValue) :
    Action State MatterError (ForInStep (List TlvValue)) := do
  let (elementTag, elementTypeLength) ← reader.readTagType
  if elementTag.isSome then
    throw (.unexpectedDataError "Array element tags should be anonymous.")
  if elementTypeLength = .endOfContainer then
    return .done result
  let value ← decode elementTypeLength
  return .yield (result ++ [value])

def decodeTlvInternalValue {State : Type} (reader : TlvReader State) (fuel : Nat)
    (decode : TlvTypeLength → Action State MatterError TlvValue)
    (typeLength : TlvTypeLength) : Action State MatterError TlvValue :=
  if typeLength = .array then do
    let elements ← loop fuelExhausted (decodeElement reader decode) fuel []
    return .array elements
  else
    throw (.unexpectedDataError s!"Unexpected type {typeLength.type}, expected Array (22).")

def validateElements (validate : TlvValue → Except MatterError Unit) :
    Nat → List TlvValue → Except MatterError Unit
  | _, [] => .ok ()
  | index, element :: elements => do
    (validate element).mapError (inField s!"[{index}]")
    validateElements validate (index + 1) elements

def validate (minLength maxLength : Nat) (validateElement : TlvValue → Except MatterError Unit)
    (data : TlvValue) : Except MatterError Unit :=
  match data with
  | .array elements =>
    if elements.length > maxLength then
      .error (.validationOutOfBoundsError
        s!"Array is too long: {elements.length}, max {maxLength}." none)
    else if elements.length < minLength then
      .error (.validationOutOfBoundsError
        s!"Array is too short: {elements.length}, min {minLength}." none)
    else
      validateElements validateElement 0 elements
  | data =>
    .error (.validationDatatypeMismatchError s!"Expected array, got {data.typeof}." none)

end ArraySchema

mutual
inductive TlvSchema where
  | numeric (schema : TlvNumericSchema)
  | string (schema : StringSchema)
  | boolean
  | nullable (schema : TlvSchema)
  | array (elementSchema : TlvSchema) (minLength maxLength : Nat)
  | object (fieldDefinitions : TlvFields) (type : TlvObjectType)
      (allowProtocolSpecificTags : Bool)
  | any
  | wrapper (underlyingSchema : TlvSchema) (wrap unwrap : TlvValue → TlvValue)

inductive TlvFields where
  | nil
  | cons (name : String) (field : FieldType) (schema : TlvSchema) (rest : TlvFields)
end

/-! Encoding. -/

mutual
def TlvSchema.encodeTlvInternal (options : TlvEncodingOptions) :
    TlvSchema → TlvValue → Option TlvTag → Except MatterError TlvStream
  | .numeric schema, value, tag => schema.encodeTlvInternal value tag
  | .string schema, value, tag => schema.encodeTlvInternal value tag
  | .boolean, value, tag =>
    match value with
    | .boolean value => .ok [{ tag, typeLength := .boolean value, value := none }]
    | _ => .error mismatch
  | .nullable schema, value, tag =>
    match value with
    | .null => .ok [{ tag, typeLength := .null, value := none }]
    | value => schema.encodeTlvInternal options value tag
  | .array elementSchema _ _, value, tag =>
    match value with
    | .array elements => do
      let contents ← elements.mapM fun element =>
        elementSchema.encodeTlvInternal options element none
      return { tag, typeLength := .array, value := none } :: (contents.flatten ++
        [{ tag := none, typeLength := .endOfContainer, value := none }])
    | _ => .error mismatch
  | .object fieldDefinitions type _, value, tag => do
    let entries := fieldDefinitions.entryEncoders options
    let contents ←
      match type with
      | .struct => ObjectSchema.encodeStructure entries value
      | .list => ObjectSchema.encodeList entries value
    return { tag, typeLength := type.typeLength, value := none } :: (contents ++
      [{ tag := none, typeLength := .endOfContainer, value := none }])
  | .any, value, tag =>
    match value with
    | .stream elements => AnySchema.encodeTlvInternal elements tag
    | _ => .error mismatch
  | .wrapper underlyingSchema wrap _, value, tag =>
    underlyingSchema.encodeTlvInternal options (wrap value) tag

def TlvFields.entryEncoders (options : TlvEncodingOptions) :
    TlvFields → List ObjectSchema.EntryEncoder
  | .nil => []
  | .cons name field schema rest =>
    (name, ObjectSchema.encodeEntryToTlv name field options
      fun value tag => schema.encodeTlvInternal options value tag) ::
      rest.entryEncoders options
end

/-! Decoding. -/

def TlvSchema.emptyAsNull (schema : TlvSchema) (value : TlvValue) : Bool :=
  match schema, value with
  | .string { type := .byteString, .. }, .bytes data => data.isEmpty
  | .string { type := .utf8String, minLength, .. }, .string text =>
    text.isEmpty && minLength > 0
  | .array _ minLength _, .array elements => elements.isEmpty && minLength > 0
  | _, _ => false

section Decoding

variable {State : Type} (reader : TlvReader State) (fuel : Nat)

mutual
def TlvSchema.decodeTlvInternalValue :
    TlvSchema → TlvTypeLength → Action State MatterError TlvValue
  | .numeric schema, typeLength => schema.decodeTlvInternalValue reader typeLength
  | .string schema, typeLength => schema.decodeTlvInternalValue reader typeLength
  | .boolean, typeLength =>
    match typeLength with
    | .boolean value => return .boolean value
    | typeLength =>
      throw (.unexpectedDataError s!"Unexpected type {typeLength.type}.")
  | .nullable schema, typeLength =>
    if typeLength = .null then
      return .null
    else do
      let value ← schema.decodeTlvInternalValue typeLength
      return if schema.emptyAsNull value then .null else value
  | .array elementSchema _ _, typeLength =>
    ArraySchema.decodeTlvInternalValue reader fuel
      (fun typeLength => elementSchema.decodeTlvInternalValue typeLength) typeLength
  | .object fieldDefinitions type allowProtocolSpecificTags, typeLength =>
    ObjectSchema.decodeTlvInternalValue reader fuel fieldDefinitions.fieldDecoders type
      allowProtocolSpecificTags typeLength
  | .any, typeLength => do
    let elements ← AnySchema.decodeTlvInternalValue reader fuel typeLength
    return .stream elements
  | .wrapper underlyingSchema _ unwrap, typeLength => do
    let value ← underlyingSchema.decodeTlvInternalValue typeLength
    return unwrap value

def TlvFields.fieldDecoders : TlvFields → List (ObjectSchema.FieldDecoder State)
  | .nil => []
  | .cons name field schema rest =>
    { name, field
      decode := fun typeLength => schema.decodeTlvInternalValue typeLength } ::
      rest.fieldDecoders
end

def TlvSchema.decodeTlvInternal (schema : TlvSchema) :
    Action State MatterError (TlvValue × Option TlvTag) := do
  let (tag, typeLength) ← reader.readTagType
  let value ← schema.decodeTlvInternalValue reader fuel typeLength
  return (value, tag)

end Decoding

/-! Validation. -/

mutual
def TlvSchema.validate : TlvSchema → TlvValue → Except MatterError Unit
  | .numeric schema, value => schema.validate value
  | .string schema, value => schema.validate value
  | .boolean, value =>
    match value with
    | .boolean _ => .ok ()
    | value =>
      .error (.validationDatatypeMismatchError s!"Expected boolean, got {value.typeof}." none)
  | .nullable schema, value =>
    match value with
    | .null => .ok ()
    | value => schema.validate value
  | .array elementSchema minLength maxLength, value =>
    ArraySchema.validate minLength maxLength (fun element => elementSchema.validate element) value
  | .object fieldDefinitions _ _, value => fieldDefinitions.validate value
  | .any, value =>
    match value with
    | .stream _ => .ok ()
    | value =>
      .error (.validationDatatypeMismatchError s!"Expected TlvStream, got {value.typeof}." none)
  | .wrapper underlyingSchema wrap _, value => underlyingSchema.validate (wrap value)

def TlvFields.validate : TlvFields → TlvValue → Except MatterError Unit
  | .nil, _ => .ok ()
  | .cons name field schema rest, value => do
    ObjectSchema.validateField name field (fun data => schema.validate data) value
    rest.validate value
end

namespace TlvSchema

variable (schema : TlvSchema)

def encodeInternal (value : TlvValue) : Except MatterError Bytes := do
  let elements ← schema.encodeTlvInternal .none value none
  TlvByteArrayWriter.toByteArray elements

def decodeInternal (encoded : Bytes) : Except MatterError TlvValue := do
  let ((value, _), _) ← schema.decodeTlvInternal TlvByteArrayReader encoded.length
    (DataReader.new encoded .little)
  return value

def encode (value : TlvValue) : Except MatterError Bytes := do
  schema.validate value
  schema.encodeInternal value

def decode (encoded : Bytes) : Except MatterError TlvValue := do
  let result ← schema.decodeInternal encoded
  schema.validate result
  return result

end TlvSchema

end MatterJs.Types
