import MatterJs.Foundation.Totals
import MatterJs.Types.TlvCodec

/-! Streams of TLV elements, their readers and writers, and the schema that takes
any well-formed element as it is. -/

namespace MatterJs.Types

open General Consumption

structure TlvElement where
  tag : Option TlvTag
  typeLength : TlvTypeLength
  value : Option TlvPrimitive
  deriving DecidableEq

abbrev TlvStream := List TlvElement

structure TlvReader (State : Type) where
  readTagType : Action State MatterError (Option TlvTag × TlvTypeLength)
  readPrimitive : TlvTypeLength → Action State MatterError TlvPrimitive

def TlvByteArrayReader : TlvReader DataReader where
  readTagType := TlvCodec.readTagType
  readPrimitive := TlvCodec.readPrimitive

/-! The calls a schema makes on its writer are given by the elements they add to an
array writer: each is a tag, followed by a primitive when it has a value. -/

namespace TlvByteArrayWriter

def write (writer : DataWriter) (element : TlvElement) : Except MatterError DataWriter := do
  let writer ← TlvCodec.writeTag writer element.typeLength element.tag
  match element.value with
  | some value => TlvCodec.writePrimitive writer element.typeLength value
  | none => return writer

def toByteArray (stream : TlvStream) : Except MatterError Bytes := do
  let writer ← stream.foldlM write (DataWriter.new .little)
  return writer.toByteArray

end TlvByteArrayWriter

/-- What a decoder that used up its fuel would throw. With as much fuel as there are
bytes it never does. -/
def fuelExhausted : MatterError :=
  .internalError "Fuel exhausted"

namespace AnySchema

/-- One round of the encoding. Elements of an unknown type are left out. -/
def encodeElement (tag : Option TlvTag) (element : TlvElement) :
    Except MatterError TlvStream :=
  match element.typeLength with
  | .null | .boolean _ | .array | .struct | .list | .endOfContainer =>
    .ok [{ tag, typeLength := element.typeLength, value := none }]
  | .unsignedInt _ | .signedInt _ | .float _ | .utf8String _ | .byteString _ =>
    match element.value with
    | some value => .ok [{ tag, typeLength := element.typeLength, value := some value }]
    | none => .error (.typeError "The value is not of the type of its element")
  | .reserved _ => .ok []

def encodeElements : TlvStream → Except MatterError TlvStream
  | [] => .ok []
  | element :: rest => do
    let first ← encodeElement element.tag element
    let others ← encodeElements rest
    return first ++ others

def encodeTlvInternal (tlvStream : TlvStream) (tagAssigned : Option TlvTag) :
    Except MatterError TlvStream :=
  match tlvStream with
  | [] => .ok []
  | element :: rest => do
    let first ← encodeElement (tagAssigned <|> element.tag) element
    let others ← encodeElements rest
    return first ++ others

def encode (tlvStream : TlvStream) : Except MatterError Bytes := do
  let elements ← encodeTlvInternal tlvStream none
  TlvByteArrayWriter.toByteArray elements

/-- The bytes an element adds to the length. One of an unknown type adds none. -/
def getElementByteLength (element : TlvElement) : Except MatterError Nat :=
  match element.typeLength with
  | .null | .boolean _ | .array | .struct | .list | .endOfContainer =>
    TlvCodec.getTagByteLength element.tag
  | .unsignedInt _ | .signedInt _ | .float _ | .utf8String _ | .byteString _ => do
    let tagLength ← TlvCodec.getTagByteLength element.tag
    let valueLength ← TlvCodec.getPrimitiveByteLength element.typeLength (element.value.getD .null)
    return tagLength + valueLength
  | .reserved _ => .ok 0

def getEncodedByteLength (tlvStream : TlvStream) : Except MatterError Nat :=
  Totals.total getElementByteLength tlvStream

section Decoding

variable {State : Type} (reader : TlvReader State)

def decodeTlvValueRec : Nat → TlvTypeLength → TlvStream → Option TlvTag →
    Action State MatterError TlvStream
  | fuel, typeLength, tlvStream, tag =>
    match typeLength with
    | .null => return tlvStream ++ [{ tag, typeLength, value := some .null }]
    | .boolean _ | .unsignedInt _ | .signedInt _ | .float _ | .utf8String _
    | .byteString _ => do
      let value ← reader.readPrimitive typeLength
      return tlvStream ++ [{ tag, typeLength, value := some value }]
    | .array | .struct | .list =>
      match fuel with
      | 0 => throw fuelExhausted
      | fuel + 1 =>
        loop fuelExhausted
          (fun tlvStream => do
            let (elementTag, typeLengthElement) ← reader.readTagType
            let tlvStream ← decodeTlvValueRec fuel typeLengthElement tlvStream elementTag
            return if typeLengthElement = .endOfContainer then .done tlvStream
              else .yield tlvStream)
          (fuel + 1) (tlvStream ++ [{ tag, typeLength, value := none }])
    | .endOfContainer => return tlvStream ++ [{ tag, typeLength, value := none }]
    | .reserved _ => return tlvStream

def decodeTlvInternalValue (fuel : Nat) (typeLength : TlvTypeLength) :
    Action State MatterError TlvStream :=
  decodeTlvValueRec reader fuel typeLength [] none

/-- The outermost tag is handed back beside the value. -/
def decodeTlvInternal (fuel : Nat) :
    Action State MatterError (TlvStream × Option TlvTag) := do
  let (tag, typeLength) ← reader.readTagType
  let value ← decodeTlvInternalValue reader fuel typeLength
  return (value, tag)

end Decoding

def decode (encoded : Bytes) : Except MatterError TlvStream := do
  let ((value, _), _) ← decodeTlvInternal TlvByteArrayReader encoded.length
    (DataReader.new encoded .little)
  return value

end AnySchema

end MatterJs.Types
