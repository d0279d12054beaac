import MatterJs.Foundation.Bitwise32
import MatterJs.General.DataReader

/-! TLV control bytes, tags and primitive values. -/

namespace MatterJs.Types

open General Consumption
open DataReader (reading taking)

open DataReader

inductive TlvLength where
  | oneByte
  | twoBytes
  | fourBytes
  | eightBytes
  deriving DecidableEq

namespace TlvLength

def code : TlvLength → Nat
  | .oneByte => 0
  | .twoBytes => 1
  | .fourBytes => 2
  | .eightBytes => 3

def ofCode : Nat → TlvLength
  | 0 => .oneByte
  | 1 => .twoBytes
  | 2 => .fourBytes
  | _ => .eightBytes

end TlvLength

inductive TlvFloatLength where
  | fourBytes
  | eightBytes
  deriving DecidableEq

def TlvFloatLength.toLength : TlvFloatLength → TlvLength
  | .fourBytes => .fourBytes
  | .eightBytes => .eightBytes

/-- Type and length or value, when applicable. The codes above the end of a
container are reserved. -/
inductive TlvTypeLength where
  | signedInt (length : TlvLength)
  | unsignedInt (length : TlvLength)
  | boolean (value : Bool)
  | float (length : TlvFloatLength)
  | utf8String (length : TlvLength)
  | byteString (length : TlvLength)
  | null
  | struct
  | array
  | list
  | endOfContainer
  | reserved (code : Nat)
  deriving DecidableEq

def TlvTypeLength.type : TlvTypeLength → Nat
  | .signedInt _ => 0x00
  | .unsignedInt _ => 0x04
  | .boolean _ => 0x08
  | .float _ => 0x0a
  | .utf8String _ => 0x0c
  | .byteString _ => 0x10
  | .null => 0x14
  | .struct => 0x15
  | .array => 0x16
  | .list => 0x17
  | .endOfContainer => 0x18
  | .reserved code => code

/-- A value as it stands in an element. Numbers of both kinds are one, and a floating
point number is given by the bits of its format. -/
inductive TlvPrimitive where
  | number (value : Rat)
  | float (bits : Nat)
  | string (text : List Char)
  | bytes (data : Bytes)
  | boolean (value : Bool)
  | null
  deriving DecidableEq

inductive TagControl where
  | anonymous
  | contextSpecific
  | commonProfile16
  | commonProfile32
  | implicitProfile16
  | implicitProfile32
  | fullyQualified48
  | fullyQualified64
  deriving DecidableEq

namespace TagControl

def code : TagControl → Nat
  | .anonymous => 0
  | .contextSpecific => 1
  | .commonProfile16 => 2
  | .commonProfile32 => 3
  | .implicitProfile16 => 4
  | .implicitProfile32 => 5
  | .fullyQualified48 => 6
  | .fullyQualified64 => 7

def ofCode : Nat → TagControl
  | 0 => .anonymous
  | 1 => .contextSpecific
  | 2 => .commonProfile16
  | 3 => .commonProfile32
  | 4 => .implicitProfile16
  | 5 => .implicitProfile32
  | 6 => .fullyQualified48
  | _ => .fullyQualified64

end TagControl

/-! Five bits of type and length below three bits of tag control. -/

namespace ControlByteSchema

def encode (tagControl : TagControl) (typeLength : Nat) : Nat :=
  typeLength <<< 0 ||| tagControl.code <<< 5

def decode (bitmap : Nat) : TagControl × Nat :=
  (.ofCode ((bitmap &&& 0xe0) >>> 5), (bitmap &&& 0x1f) >>> 0)

end ControlByteSchema

def MATTER_COMMON_PROFILE : Nat := 0x00000000

structure TlvTag where
  profile : Option Nat
  id : Option Nat
  deriving DecidableEq

namespace TlvCodec

def getUIntTlvLength (value : Rat) : TlvLength :=
  if value ≤ 0xff then .oneByte
  else if value ≤ 0xffff then .twoBytes
  else if value ≤ 0xffffffff then .fourBytes
  else .eightBytes

def getIntTlvLength (value : Rat) : TlvLength :=
  if value > 0 then
    if value ≤ 127 then .oneByte
    else if value ≤ 32767 then .twoBytes
    else if value ≤ 2147483647 then .fourBytes
    else .eightBytes
  else
    if value ≥ -128 then .oneByte
    else if value ≥ -32768 then .twoBytes
    else if value ≥ -2147483648 then .fourBytes
    else .eightBytes

def getUIntByteLength : TlvLength → Nat
  | .oneByte => 1
  | .twoBytes => 2
  | .fourBytes => 4
  | .eightBytes => 8

def readTag : TagControl → Action DataReader MatterError (Option TlvTag)
  | .anonymous => return none
  | .contextSpecific => do
    let id ← reading readUInt8
    return some { profile := none, id := some id }
  | .commonProfile16 => do
    let id ← reading readUInt16
    return some { profile := some MATTER_COMMON_PROFILE, id := some id }
  | .commonProfile32 => do
    let id ← reading readUInt32
    return some { profile := some MATTER_COMMON_PROFILE, id := some id }
  | .implicitProfile16 => throw (.notImplementedError "Unsupported implicit profile 4")
  | .implicitProfile32 => throw (.notImplementedError "Unsupported implicit profile 5")
  | .fullyQualified48 => do
    let profile ← reading readUInt32
    let id ← reading readUInt16
    return some { profile := some profile, id := some id }
  | .fullyQualified64 => throw (.notImplementedError "Unexpected tagControl 7")

def parseTypeLength (typeLength : Nat) : TlvTypeLength :=
  let length := TlvLength.ofCode (typeLength &&& 0x03)
  match typeLength &&& 0xfc with
  | 0x0c => .utf8String length
  | 0x10 => .byteString length
  | 0x00 => .signedInt length
  | 0x04 => .unsignedInt length
  | 0x08 =>
    match length with
    | .oneByte => .boolean false
    | .twoBytes => .boolean true
    | .fourBytes => .float .fourBytes
    | .eightBytes => .float .eightBytes
  | _ =>
    match typeLength with
    | 0x14 => .null
    | 0x15 => .struct
    | 0x16 => .array
    | 0x17 => .list
    | 0x18 => .endOfContainer
    | code => .reserved code

def readTagType : Action DataReader MatterError (Option TlvTag × TlvTypeLength) := do
  let control ← reading readUInt8
  let (tagControl, typeLength) := ControlByteSchema.decode control
  let tag ← readTag tagControl
  return (tag, parseTypeLength typeLength)

def readUInt : TlvLength → Action DataReader MatterError Nat
  | .oneByte => reading readUInt8
  | .twoBytes => reading readUInt16
  | .fourBytes => reading readUInt32
  | .eightBytes => reading readUInt64

def readInt : TlvLength → Action DataReader MatterError Int
  | .oneByte => reading readInt8
  | .twoBytes => reading readInt16
  | .fourBytes => reading readInt32
  | .eightBytes => reading readInt64

def readPrimitive : TlvTypeLength → Action DataReader MatterError TlvPrimitive
  | .signedInt length => do
    let value ← readInt length
    return .number value
  | .unsignedInt length => do
    let value ← readUInt length
    return .number value
  | .float .fourBytes => do
    let bits ← reading readFloat
    return .float bits
  | .float .eightBytes => do
    let bits ← reading readDouble
    return .float bits
  | .utf8String length => do
    let size ← readUInt length
    let text ← taking (readUtf8String · size)
    return .string text
  | .byteString length => do
    let size ← readUInt length
    let data ← taking (readByteArray · size)
    return .bytes data
  | .boolean value => return .boolean value
  | .null => return .null
  | typeLength =>
    throw (.unexpectedDataError s!"Unexpected TLV type {typeLength.type}")

def typeLengthCode : TlvTypeLength → Nat
  | .signedInt length => 0x00 ||| length.code
  | .unsignedInt length => 0x04 ||| length.code
  | .float length => 0x0a ||| length.toLength.code
  | .utf8String length => 0x0c ||| length.code
  | .byteString length => 0x10 ||| length.code
  | .boolean value => 0x08 + if value then 1 else 0
  | typeLength => typeLength.type

def writeTag (writer : DataWriter) (typeLengthValue : TlvTypeLength)
    (tag : Option TlvTag) : Except MatterError DataWriter :=
  let typeLength := typeLengthCode typeLengthValue
  let control := fun tagControl : TagControl =>
    writer.writeUInt8 (ControlByteSchema.encode tagControl typeLength)
  match tag.bind TlvTag.profile, tag.bind TlvTag.id with
  | none, none => .ok (control .anonymous)
  | none, some id => .ok ((control .contextSpecific).writeUInt8 id)
  | some profile, id =>
    if profile = MATTER_COMMON_PROFILE then
      match id with
      | none =>
        .error (.unexpectedDataError
          "Invalid TLV tag: id should be defined for a datatype profile.")
      | some id =>
        if Bitwise32.and id 0xffff0000 = 0 then
          .ok ((control .commonProfile16).writeUInt16 id)
        else
          .ok ((control .commonProfile32).writeUInt32 id)
    else
      match id with
      | none =>
        .error (.unexpectedDataError "Invalid TLV tag: id should be defined for a custom profile.")
      | some id =>
        if Bitwise32.and id 0xffff0000 = 0 then
          .ok (((control .fullyQualified48).writeUInt32 profile).writeUInt16 id)
        else
          .ok (((control .fullyQualified64).writeUInt32 profile).writeUInt32 id)

def getTagByteLength (tag : Option TlvTag) : Except MatterError Nat :=
  match tag.bind TlvTag.profile, tag.bind TlvTag.id with
  | none, none => .ok 1
  | none, some _ => .ok 2
  | some profile, id =>
    if profile = MATTER_COMMON_PROFILE then
      match id with
      | none =>
        .error (.unexpectedDataError
          "Invalid TLV tag: id should be defined for a datatype profile.")
      | some id => .ok (if Bitwise32.and id 0xffff0000 = 0 then 3 else 5)
    else
      match id with
      | none =>
        .error (.unexpectedDataError "Invalid TLV tag: id should be defined for a custom profile.")
      | some id => .ok (if Bitwise32.and id 0xffff0000 = 0 then 7 else 9)

/-- The integer a data view keeps of a number. -/
def truncate (value : Rat) : Int :=
  value.num.tdiv value.den

/-- Only an integer becomes a big integer. -/
def toBigInt (value : Rat) : Except MatterError Int :=
  if value.den = 1 then
    .ok value.num
  else
    .error (.rangeError "The number cannot be converted to a BigInt because it is not an integer")

def writeUInt (writer : DataWriter) (length : TlvLength) (value : Rat) :
    Except MatterError DataWriter :=
  match length with
  | .oneByte => .ok (writer.writeInt8 (truncate value))
  | .twoBytes => .ok (writer.writeInt16 (truncate value))
  | .fourBytes => .ok (writer.writeInt32 (truncate value))
  | .eightBytes => do return writer.writeInt64 (← toBigInt value)

/-- The value has the kind its type asks for, else the language throws. -/
def writePrimitive (writer : DataWriter) (typeLength : TlvTypeLength)
    (value : TlvPrimitive) : Except MatterError DataWriter :=
  match typeLength, value with
  | .signedInt length, .number value => writeUInt writer length value
  | .unsignedInt .oneByte, .number value => .ok (writer.writeUInt8 (truncate value))
  | .unsignedInt .twoBytes, .number value => .ok (writer.writeUInt16 (truncate value))
  | .unsignedInt .fourBytes, .number value => .ok (writer.writeUInt32 (truncate value))
  | .unsignedInt .eightBytes, .number value => do
    return writer.writeUInt64 (← toBigInt value)
  | .float .fourBytes, .float bits => .ok (writer.writeFloat bits)
  | .float .eightBytes, .float bits => .ok (writer.writeDouble bits)
  | .utf8String length, .string text => do
    let stringData := Utf8.encode text
    let writer ← writeUInt writer length stringData.length
    return writer.writeByteArray stringData
  | .byteString length, .bytes byteArray => do
    let writer ← writeUInt writer length byteArray.length
    return writer.writeByteArray byteArray
  | .boolean _, _ => .ok writer
  | .signedInt _, _ | .unsignedInt _, _ | .float _, _ | .utf8String _, _ | .byteString _, _ =>
    .error (.typeError "The value is not of the type of its element")
  | typeLength, _ =>
    .error (.unexpectedDataError s!"Unexpected TLV type {typeLength.type}")

def getPrimitiveByteLength (typeLength : TlvTypeLength) (value : TlvPrimitive) :
    Except MatterError Nat :=
  match typeLength, value with
  | .signedInt length, _ => .ok (getUIntByteLength length)
  | .unsignedInt length, _ => .ok (getUIntByteLength length)
  | .float length, _ => .ok (getUIntByteLength length.toLength)
  | .utf8String length, .string text =>
    .ok (getUIntByteLength length + (Utf8.encode text).length)
  | .byteString length, .bytes byteArray => .ok (getUIntByteLength length + byteArray.length)
  | .boolean _, _ => .ok 0
  | .utf8String _, _ | .byteString _, _ =>
    .error (.typeError "The value is not of the type of its element")
  | typeLength, _ =>
    .error (.unexpectedDataError s!"Unexpected TLV type {typeLength.type}")

end TlvCodec

end MatterJs.Types
