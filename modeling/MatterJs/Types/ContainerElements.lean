import MatterJs.Types.EncodedLength
import MatterJs.Types.ReportSchemas

/-! The elements messages are put together from, and the bytes they take. -/

namespace MatterJs.Types

open General Totals TlvCodec

def contextTag (id : Nat) : Option TlvTag := some { profile := none, id := some id }

/-- A number under the tag of its field. -/
def unsignedElement (id value : Nat) : TlvElement where
  tag := contextTag id
  typeLength := .unsignedInt (TlvCodec.getUIntTlvLength value)
  value := some (.number value)

def flagElement (id : Nat) (value : Bool) : TlvElement where
  tag := contextTag id
  typeLength := .boolean value
  value := none

def containerElement (tag : Option TlvTag) (typeLength : TlvTypeLength) : TlvElement where
  tag := tag
  typeLength := typeLength
  value := none

def endElement : TlvElement := containerElement none .endOfContainer

namespace TlvByteArrayWriter

theorem bytesWritten_container (typeLength : TlvTypeLength) :
    bytesWritten (containerElement none typeLength) = .ok 1 :=
  bytesWritten_eq_ok_iff.mpr ((adds_writeUInt 1 _).andThen adds_nothing)

theorem bytesWritten_taggedContainer (id : Nat) (typeLength : TlvTypeLength) :
    bytesWritten (containerElement (contextTag id) typeLength) = .ok 2 :=
  bytesWritten_eq_ok_iff.mpr
    (((adds_writeUInt 1 _).andThen (adds_writeUInt 1 _)).andThen adds_nothing)

theorem bytesWritten_flag (id : Nat) (value : Bool) :
    bytesWritten (flagElement id value) = .ok 2 :=
  bytesWritten_taggedContainer id (.boolean value)

end TlvByteArrayWriter

namespace ObjectSchema

variable {encode : Encoder} {name : String} {value data : TlvValue} {id : Nat}

theorem encodeEntryToTlv_present {field : FieldType} (single : field.repeated = false)
    (present : value.property name = .ok (some data)) :
    encodeEntryToTlv name field .none encode value = encode data (contextTag field.id) := by
  rw [encodeEntryToTlv, present]
  simp only [single]
  rfl

theorem encodeEntryToTlv_optional {found : Option TlvValue}
    (isFound : value.property name = .ok found) :
    encodeEntryToTlv name (TlvOptionalField id) .none encode value =
      found.elim (.ok []) fun data => encode data (contextTag id) := by
  cases found with
  | none =>
    rw [encodeEntryToTlv, isFound]
    rfl
  | some data => exact encodeEntryToTlv_present rfl isFound

end ObjectSchema

/-- A structure is written as what its fields write, in the order of their definitions. -/
theorem TlvSchema.encodeTlvInternal_struct (fields : TlvFields) (options : TlvEncodingOptions)
    (value : TlvValue) (tag : Option TlvTag) :
    (TlvObject fields).encodeTlvInternal options value tag = (do
      let parts ← (fields.entryEncoders options).mapM fun entry => entry.2 value
      return containerElement tag .struct ::
        (parts.flatten ++ [endElement])) := by
  simp only [TlvObject, TlvSchema.encodeTlvInternal, ObjectSchema.encodeStructure, bind_assoc]
  rfl

namespace AnySchema

open TlvByteArrayWriter

variable {stream elements : TlvStream} {element : TlvElement} {size : Nat}

theorem encodeTlvInternal_untagged (stream : TlvStream) :
    encodeTlvInternal stream none = encodeElements stream := by
  cases stream with
  | nil => rfl
  | cons element stream => rfl

theorem bytesTaken_of_passed (passed : encodeElement element.tag element = .ok [element]) :
    bytesTaken element = bytesWritten element := by
  rw [bytesTaken, passed]
  exact total_singleton

theorem bytesTaken_container {typeLength : TlvTypeLength}
    (passed : encodeElement none (containerElement none typeLength) =
      .ok [containerElement none typeLength]) :
    bytesTaken (containerElement none typeLength) = .ok 1 :=
  (bytesTaken_of_passed passed).trans (bytesWritten_container typeLength)

end AnySchema

/-! ## Arrays of streams, and flags -/

section Parts

open TlvByteArrayWriter AnySchema

variable {streams : List TlvStream} {id size : Nat}

def streamsArray (id : Nat) (streams : List TlvStream) : Except MatterError TlvStream := do
  let contents ← streams.mapM encodeElements
  return containerElement (contextTag id) .array :: (contents.flatten ++ [endElement])

theorem encodeTlvInternal_streams (id : Nat) (streams : List TlvStream) :
    (TlvArray .any).encodeTlvInternal .none (.array (streams.map .stream)) (contextTag id) =
      streamsArray id streams := by
  have contents : (streams.map TlvValue.stream).mapM (fun element =>
      TlvSchema.any.encodeTlvInternal .none element none) = streams.mapM encodeElements := by
    rw [List.mapM_map]
    simp only [TlvSchema.encodeTlvInternal, encodeTlvInternal_untagged]
    rfl
  simp only [TlvArray, streamsArray]
  rw [← contents]
  rfl

theorem contents_iff :
    (∃ contents, streams.mapM encodeElements = .ok contents ∧
      total bytesWritten contents.flatten = .ok size) ↔
      total (total bytesTaken) streams = .ok size := by
  induction streams generalizing size with
  | nil =>
    constructor
    · rintro ⟨contents, encodes, written⟩
      cases encodes
      exact written
    · intro isZero
      exact ⟨[], rfl, isZero⟩
  | cons encoded streams induction =>
    rw [total_cons_iff]
    simp only [taken_iff, ← induction, mapM_eq_ok_iff, List.forall₂_cons_left_iff]
    constructor
    · rintro ⟨_, ⟨first, contents, encodesFirst, encodes, rfl⟩, written⟩
      rw [List.flatten_cons, total_append_iff] at written
      rcases written with ⟨one, more, firstWritten, othersWritten, isSum⟩
      exact ⟨one, more, ⟨first, encodesFirst, firstWritten⟩,
        ⟨contents, encodes, othersWritten⟩, isSum⟩
    · rintro ⟨one, more, ⟨first, encodesFirst, firstWritten⟩,
        ⟨contents, encodes, othersWritten⟩, isSum⟩
      refine ⟨first :: contents, ⟨first, contents, encodesFirst, encodes, rfl⟩, ?_⟩
      rw [← isSum]
      exact total_append firstWritten othersWritten

theorem streamsArray_iff :
    (∃ elements, streamsArray id streams = .ok elements ∧ total bytesWritten elements = .ok size) ↔
    ∃ contents, total (total bytesTaken) streams = .ok contents ∧ contents + 3 = size := by
  simp only [← contents_iff]
  have endTotal : total bytesWritten [endElement] = .ok 1 :=
    total_singleton.trans (bytesWritten_container .endOfContainer)
  constructor
  · rintro ⟨elements, encodes, written⟩
    rcases bind_eq_ok_iff.mp encodes with ⟨contents, encodesContents, encodes⟩
    cases encodes
    rcases total_cons_iff.mp written with ⟨start, rest, startWritten, restWritten, rfl⟩
    rcases total_append_iff.mp restWritten with ⟨inner, ending, innerWritten, endWritten, rfl⟩
    have twoBytes : start = 2 := Except.ok.inj
      (startWritten.symm.trans (bytesWritten_taggedContainer id .array))
    have oneByte : ending = 1 := Except.ok.inj (endWritten.symm.trans endTotal)
    exact ⟨inner, ⟨contents, encodesContents, innerWritten⟩, by omega⟩
  · rintro ⟨inner, ⟨contents, encodesContents, innerWritten⟩, rfl⟩
    refine ⟨_, bind_eq_ok_iff.mpr ⟨contents, encodesContents, rfl⟩, ?_⟩
    have whole := total_cons (bytesWritten_taggedContainer id .array)
      (total_append innerWritten endTotal)
    rw [whole]
    congr 1
    omega

def flagSize (value : Option Bool) : Nat :=
  if value.isSome then 2 else 0

theorem total_flag (id : Nat) (value : Option Bool) :
    total bytesWritten (value.toList.map (flagElement id)) = .ok (flagSize value) := by
  cases value with
  | none => rfl
  | some value => exact total_singleton.trans (bytesWritten_flag id value)

theorem elim_flag (id : Nat) (value : Option Bool) :
    ((value.map TlvValue.boolean).elim (.ok [])
      fun data => TlvSchema.boolean.encodeTlvInternal .none data (contextTag id)) =
      .ok (value.toList.map (flagElement id)) := by
  cases value <;> rfl

theorem TlvSchema.encodeInternal_iff {schema : TlvSchema} {value : TlvValue} :
    (∃ bytes, schema.encodeInternal value = .ok bytes ∧ bytes.length = size) ↔
      ∃ elements, schema.encodeTlvInternal .none value none = .ok elements ∧
        total bytesWritten elements = .ok size := by
  simp only [← toByteArray_length_iff, TlvSchema.encodeInternal, bind_eq_ok_iff]
  constructor
  · rintro ⟨bytes, ⟨elements, encodes, isBytes⟩, isSize⟩
    exact ⟨elements, encodes, bytes, isBytes, isSize⟩
  · rintro ⟨elements, encodes, bytes, isBytes, isSize⟩
    exact ⟨bytes, ⟨elements, encodes, isBytes⟩, isSize⟩

end Parts

end MatterJs.Types
