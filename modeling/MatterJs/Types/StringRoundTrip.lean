import MatterJs.Types.SchemaEvolution

/-! Text through its schema. The width of the length is chosen by the number of UTF-16
units, but what is written in it is the number of UTF-8 bytes. -/

namespace MatterJs.Types

open General ByteOrder Consumption
open DataReader (source)
open TlvCodec

namespace StringSchema

open Utf8 TlvSchema DataReader

def widthOf (text : List Char) : Nat :=
  getUIntByteLength (getUIntTlvLength (utf16Length text))

def RoundTripsAlone (schema : StringSchema) (text : List Char) : Prop :=
  ∃ encoded, (string schema).encode (.string text) = .ok encoded ∧
    (string schema).decode encoded = .ok (.string text)

/-- As one of the fields of a structure, whose other fields its encoding holds, the text
comes back with the other fields. -/
def RoundTripsInStructures (schema : StringSchema) (text : List Char) : Prop :=
  ∀ (fields : TlvFields) (name : String) (field : FieldType) (value : TlvValue)
    (encoded : Bytes), (object fields .struct false).Sound →
    fields.entries.lookup name = some (field, .string schema) → field.repeated = false →
    value.properties.lookup name = some (.string text) →
    (value.properties.map Prod.fst).Nodup →
    (∀ entry ∈ fields.entries, entry.1 ≠ name → ∀ data,
      value.properties.lookup entry.1 = some data →
        ObjectSchema.HoldsField entry.2.1.repeated (fun data => entry.2.2.Holds data) data) →
    (object fields .struct false).encode value = .ok encoded →
    ∃ decoded, (object fields .struct false).decode encoded = .ok decoded ∧
      decoded.property name = .ok (some (.string text)) ∧
      decoded = (object fields .struct false).project value

theorem holds_of_fits {schema : StringSchema} (isUtf8 : schema.type = .utf8String)
    {text : List Char} (fits : (encode text).length < 256 ^ widthOf text)
    (noMark : text.head? ≠ some byteOrderMark) : schema.Holds (.string text) := by
  intro length isLength
  have sameLength : schema.lengthOf (.string text) = some (utf16Length text) := by
    simp [lengthOf, isUtf8]
  rw [sameLength] at isLength
  cases isLength
  rw [isUtf8]
  refine ⟨fits, ?_⟩
  exact congrArg TlvPrimitive.string ((dropByteOrderMark_eq_iff text).mpr noMark)

/-! ## What is written, and what is read of it -/

section Bytes

variable {schema : StringSchema} (isUtf8 : schema.type = .utf8String) (text : List Char)

def writtenLength (text : List Char) : Nat :=
  (encode text).length % 256 ^ widthOf text

/-- Tag and length, as they stand before the text. -/
def prefixBytes (text : List Char) : Bytes :=
  tagBytes (.utf8String (getUIntTlvLength (utf16Length text))) none ++
    encode .little (widthOf text) (writtenLength text)

include isUtf8

theorem encodeInternal_eq :
    (TlvSchema.string schema).encodeInternal (.string text) =
      .ok (prefixBytes text ++ encode text) := by
  have elements : (TlvSchema.string schema).encodeTlvInternal .none (.string text) none =
      .ok [{ tag := none, typeLength := .utf8String (getUIntTlvLength (utf16Length text))
             value := some (.string text) }] := by
    simp only [TlvSchema.encodeTlvInternal, encodeTlvInternal, lengthOf, isUtf8]
    rfl
  rcases @writeTag_eq (DataWriter.new .little) rfl
    (.utf8String (getUIntTlvLength (utf16Length text))) none trivial (by simp) with
    ⟨tagged, tagRun, little, tagged_bytes⟩
  have written : TlvByteArrayWriter.toByteArray
      [{ tag := none, typeLength := .utf8String (getUIntTlvLength (utf16Length text))
         value := some (.string text) }] =
      .ok (((tagged.writeUInt (widthOf text) (encode text).length).writeByteArray
        (encode text)).toByteArray) := by
    rw [TlvByteArrayWriter.toByteArray, List.foldlM_cons, TlvByteArrayWriter.write, tagRun]
    simp only [writePrimitive, writeUInt_of_size]
    rfl
  rw [TlvSchema.encodeInternal, elements]
  show TlvByteArrayWriter.toByteArray _ = _
  rw [written, DataWriter.toByteArray_writeByteArray, DataWriter.toByteArray_writeUInt,
    tagged_bytes, little]
  rfl

theorem decodeInternal_eq :
    (TlvSchema.string schema).decodeInternal (prefixBytes text ++ encode text) =
      .ok (.string (decodeText ((encode text).take (writtenLength text)))) := by
  have lengthFits : writtenLength text < 256 ^ widthOf text :=
    Nat.mod_lt _ (Nat.pow_pos (by decide))
  have taken : ((encode text).take (writtenLength text)).length = writtenLength text := by
    rw [List.length_take]
    exact Nat.min_eq_left (Nat.mod_le _ _)
  have text_reads := (@reads_readByteArray .little
    ((encode text).take (writtenLength text))).map decodeText
  rw [taken] at text_reads
  have primitive_reads : Reads (source .little)
      (readPrimitive (.utf8String (getUIntTlvLength (utf16Length text))))
      (encode .little (widthOf text) (writtenLength text) ++
        (encode text).take (writtenLength text))
      (.string (decodeText ((encode text).take (writtenLength text)))) :=
    (reads_ofLength lengthFits).bind (text_reads.map TlvPrimitive.string)
  have value_reads (fuel : Nat) : Reads (source .little)
      ((TlvSchema.string schema).decodeTlvInternalValue TlvByteArrayReader fuel
        (.utf8String (getUIntTlvLength (utf16Length text))))
      (encode .little (widthOf text) (writtenLength text) ++
        (encode text).take (writtenLength text))
      (.string (decodeText ((encode text).take (writtenLength text)))) := by
    have sameType : (TlvTypeLength.utf8String (getUIntTlvLength (utf16Length text))).type =
        schema.type.type := by
      rw [isUtf8]
      rfl
    rw [TlvSchema.decodeTlvInternalValue, decodeTlvInternalValue, if_pos sameType]
    exact primitive_reads.map fun primitive : TlvPrimitive => primitive.toValue Nat.cast
  have split : prefixBytes text ++ encode text =
      (prefixBytes text ++ (encode text).take (writtenLength text)) ++
        (encode text).drop (writtenLength text) := by
    rw [List.append_assoc, List.take_append_drop]
  rw [split]
  apply @TlvSchema.decodeInternal_of_reads _ _ none
  rw [prefixBytes]
  have known : (TlvTypeLength.utf8String (getUIntTlvLength (utf16Length text))).Known := trivial
  exact (@reads_readTagType _ none known (by simp) (by simp)).bind ((value_reads _).map _)

end Bytes

/-! ## When text comes back -/

theorem writtenLength_of_fits {text : List Char}
    (fits : (encode text).length < 256 ^ widthOf text) :
    writtenLength text = (encode text).length :=
  Nat.mod_eq_of_lt fits

theorem encode_dropByteOrderMark_length_le (text : List Char) :
    (encode (dropByteOrderMark text)).length ≤ (encode text).length := by
  cases text with
  | nil => exact Nat.le_refl _
  | cons char text =>
    rw [dropByteOrderMark]
    split
    · rw [encode_cons, List.length_append]
      exact Nat.le_add_left _ _
    · exact Nat.le_refl _

theorem decodeText_take_ne {text : List Char}
    (tooLong : 256 ^ widthOf text ≤ (encode text).length) :
    decodeText ((encode text).take (writtenLength text)) ≠ text := by
  intro same
  have shorter : (encode text).length ≤ writtenLength text + 16 := by
    calc (encode text).length
        = (encode (decodeText ((encode text).take (writtenLength text)))).length := by rw [same]
      _ ≤ (encode (decode ((encode text).take (writtenLength text)))).length :=
          encode_dropByteOrderMark_length_le _
      _ ≤ writtenLength text + 16 := encode_decode_take_length_le _ _
  have wide : 256 ≤ 256 ^ widthOf text :=
    Nat.le_self_pow (Nat.pos_iff_ne_zero.mp (getUIntByteLength_pos _)) 256
  have lost : writtenLength text + 256 ^ widthOf text ≤ (encode text).length := by
    have parts := Nat.mod_add_div (encode text).length (256 ^ widthOf text)
    have some : 256 ^ widthOf text * 1 ≤
        256 ^ widthOf text * ((encode text).length / 256 ^ widthOf text) :=
      Nat.mul_le_mul_left _ (Nat.div_pos tooLong (Nat.pow_pos (by decide)))
    rw [writtenLength]
    omega
  omega

section RoundTrip

variable {schema : StringSchema} (isUtf8 : schema.type = .utf8String) {text : List Char}
  (accepted : schema.validate (.string text) = .ok ())

include isUtf8 accepted

theorem encode_eq : (TlvSchema.string schema).encode (.string text) =
    .ok (prefixBytes text ++ encode text) := by
  have validated : (TlvSchema.string schema).validate (.string text) = .ok () := accepted
  rw [TlvSchema.encode, validated]
  exact encodeInternal_eq isUtf8 text

theorem roundTripsAlone_iff :
    RoundTripsAlone schema text ↔
      (Utf8.encode text).length < 256 ^ widthOf text ∧
        text.head? ≠ some Utf8.byteOrderMark := by
  have read := decode_of_decodeInternal (decodeInternal_eq isUtf8 text)
  constructor
  · rintro ⟨encoded, encodes, decodes⟩
    rw [encode_eq isUtf8 accepted] at encodes
    cases encodes
    rw [read] at decodes
    rcases bind_eq_ok_iff.mp decodes with ⟨_, _, whole⟩
    have same := TlvValue.string.inj (Except.ok.inj whole)
    have fits : (Utf8.encode text).length < 256 ^ widthOf text := by
      by_contra notFits
      exact decodeText_take_ne (Nat.le_of_not_lt notFits) same
    refine ⟨fits, ?_⟩
    rwa [writtenLength_of_fits fits, List.take_length, decodeText,
      Utf8.decode_encode, dropByteOrderMark_eq_iff] at same
  · rintro ⟨fits, noMark⟩
    refine ⟨_, encode_eq isUtf8 accepted, ?_⟩
    rw [read, writtenLength_of_fits fits, List.take_length, decodeText,
      Utf8.decode_encode, (dropByteOrderMark_eq_iff text).mpr noMark]
    have validated : (string schema).validate (.string text) = .ok () := accepted
    rw [validated]
    rfl

omit accepted in
theorem roundTripsInStructures (fits : (encode text).length < 256 ^ widthOf text)
    (noMark : text.head? ≠ some byteOrderMark) : RoundTripsInStructures schema text := by
  intro fields name field value encoded sound found single present nodup others encodes
  have holds : (object fields .struct false).Holds value := by
    refine ⟨nodup, (TlvFields.holds_iff fields _).mpr ?_⟩
    intro entry member data isData
    by_cases sameName : entry.1 = name
    · have sameEntry := OrderedMap.lookup_of_mem sound.1 member
      rw [sameName, found] at sameEntry
      rw [sameName, present] at isData
      cases isData
      rw [← Option.some.inj sameEntry, single, ObjectSchema.HoldsField,
        ObjectSchema.fieldElements_single]
      refine ⟨by simp, ?_⟩
      rw [List.forall_mem_singleton]
      exact holds_of_fits isUtf8 fits noMark
    · exact others entry member sameName data isData
  have decodes := (decode_encode_newer (Extends.refl _) sound sound holds).1 encoded encodes
  refine ⟨_, decodes, ?_, rfl⟩
  rw [property_project, projected_of_known found, present]
  simp only [single]
  rfl

/-- Text comes back, alone and among the fields of a structure, exactly when its UTF-8
bytes fit the width that was chosen by its UTF-16 units and it does not begin with a byte
order mark. -/
theorem textRoundTrips_iff :
    RoundTripsAlone schema text ∧ RoundTripsInStructures schema text ↔
      (Utf8.encode text).length < 256 ^ widthOf text ∧
        text.head? ≠ some Utf8.byteOrderMark := by
  rw [roundTripsAlone_iff isUtf8 accepted]
  constructor
  · exact fun both => both.1
  · exact fun condition => ⟨condition, roundTripsInStructures isUtf8 condition.1 condition.2⟩

end RoundTrip

/-- A short text with characters beyond ASCII comes back. -/
theorem textRoundTrips_iff_short :
    RoundTripsAlone TlvString ['é', 'a'] ∧ RoundTripsInStructures TlvString ['é', 'a'] ↔
      (Utf8.encode ['é', 'a']).length < 256 ^ widthOf ['é', 'a'] ∧
        ['é', 'a'].head? ≠ some Utf8.byteOrderMark :=
  textRoundTrips_iff rfl (by rfl)

def accents : List Char :=
  List.replicate 200 'é'

theorem utf16Length_accents : utf16Length accents = 200 := by
  rw [utf16Length, accents, List.map_replicate, List.sum_replicate]
  rfl

theorem encode_accents_length : (Utf8.encode accents).length = 400 := by
  rw [Utf8.encode, accents, List.length_flatMap, List.map_replicate, List.sum_replicate]
  rfl

/-- 200 characters of two bytes are accepted, but their 400 bytes are announced in one. -/
theorem accents_not_roundTrip :
    ¬∀ (schema : StringSchema) (text : List Char), schema.type = .utf8String →
      schema.validate (.string text) = .ok () →
      RoundTripsAlone schema text ∧ RoundTripsInStructures schema text := by
  intro all
  have accepted : TlvString.validate (.string accents) = .ok () := by
    simp [validate, lengthOf, TlvString, utf16Length_accents]
  have both := all TlvString accents rfl accepted
  have fits := ((roundTripsAlone_iff rfl accepted).mp both.1).1
  have oneByte : getUIntTlvLength (utf16Length accents) = .oneByte := by
    rw [utf16Length_accents]
    rfl
  rw [encode_accents_length, widthOf, oneByte] at fits
  exact absurd fits (by decide)

end StringSchema

end MatterJs.Types
