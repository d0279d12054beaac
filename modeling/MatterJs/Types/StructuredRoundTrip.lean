import MatterJs.Types.SchemaEvolution

/-! Structured values through their schemas: integers, booleans, byte strings, nullable
values, arrays and structures, nested in any way. -/

namespace MatterJs.Types

open General
open TlvCodec

namespace TlvNumericSchema

inductive IsInteger : TlvNumericSchema → Prop
  | int8 : IsInteger TlvInt8
  | int16 : IsInteger TlvInt16
  | int32 : IsInteger TlvInt32
  | int64 : IsInteger TlvInt64
  | uint8 : IsInteger TlvUInt8
  | uint16 : IsInteger TlvUInt16
  | uint24 : IsInteger TlvUInt24
  | uint32 : IsInteger TlvUInt32
  | uint64 : IsInteger TlvUInt64
  | bound {schema : TlvNumericSchema} (min max : Option Rat) :
      IsInteger schema → IsInteger (schema.bound min max)

/-- Everything the schema accepts lies between the bounds. -/
def Within (schema : TlvNumericSchema) (lower upper : Rat) : Prop :=
  ∃ min max, schema.min = some min ∧ schema.max = some max ∧ lower ≤ min ∧ max ≤ upper

def HasIntegerType (schema : TlvNumericSchema) : Prop :=
  schema.type = .unsignedInt getUIntTlvLength ∧ schema.Within 0 18446744073709551615 ∨
    schema.type = .signedInt getIntTlvLength ∧
      schema.Within (-9223372036854775808) 9223372036854775807

theorem maxValue_some (first : Option Rat) (second : Rat) :
    ∃ value, maxValue first (some second) = some value ∧ second ≤ value := by
  cases first with
  | none => exact ⟨second, rfl, le_refl second⟩
  | some first =>
    rw [maxValue]
    split
    · rename_i above
      exact ⟨first, rfl, le_of_lt above⟩
    · exact ⟨second, rfl, le_refl second⟩

theorem minValue_some (first : Option Rat) (second : Rat) :
    ∃ value, minValue first (some second) = some value ∧ value ≤ second := by
  cases first with
  | none => exact ⟨second, rfl, le_refl second⟩
  | some first =>
    rw [minValue]
    split
    · rename_i below
      exact ⟨first, rfl, le_of_lt below⟩
    · exact ⟨second, rfl, le_refl second⟩

/-- A restricted range lies in the range it restricts. -/
theorem Within.bound {schema : TlvNumericSchema} {lower upper : Rat}
    (within : schema.Within lower upper) (min max : Option Rat) :
    (schema.bound min max).Within lower upper := by
  rcases within with ⟨oldMin, oldMax, isMin, isMax, above, below⟩
  rcases maxValue_some min oldMin with ⟨newMin, isNewMin, notBelow⟩
  rcases minValue_some max oldMax with ⟨newMax, isNewMax, notAbove⟩
  refine ⟨newMin, newMax, ?_, ?_, le_trans above notBelow, le_trans notAbove below⟩
  · rw [TlvNumericSchema.bound, isMin]
    exact isNewMin
  · rw [TlvNumericSchema.bound, isMax]
    exact isNewMax

variable {schema : TlvNumericSchema} {number : Rat}

theorem IsInteger.hasIntegerType (integer : schema.IsInteger) : schema.HasIntegerType := by
  induction integer with
  | int8 => exact .inr ⟨rfl, -128, 127, rfl, rfl, by norm_num, by norm_num⟩
  | int16 => exact .inr ⟨rfl, -32768, 32767, rfl, rfl, by norm_num, by norm_num⟩
  | int32 => exact .inr ⟨rfl, -2147483648, 2147483647, rfl, rfl, by norm_num, by norm_num⟩
  | int64 => exact .inr ⟨rfl, _, _, rfl, rfl, le_refl _, le_refl _⟩
  | uint8 => exact .inl ⟨rfl, 0, 0xff, rfl, rfl, le_refl _, by norm_num⟩
  | uint16 => exact .inl ⟨rfl, 0, 0xffff, rfl, rfl, le_refl _, by norm_num⟩
  | uint24 => exact .inl ⟨rfl, 0, 0xffffff, rfl, rfl, le_refl _, by norm_num⟩
  | uint32 => exact .inl ⟨rfl, 0, 0xffffffff, rfl, rfl, le_refl _, by norm_num⟩
  | uint64 => exact .inl ⟨rfl, _, _, rfl, rfl, le_refl _, le_refl _⟩
  | bound min max _ induction =>
    rcases induction with ⟨isType, within⟩ | ⟨isType, within⟩
    · exact .inl ⟨isType, within.bound min max⟩
    · exact .inr ⟨isType, within.bound min max⟩

theorem within_of_validate {lower upper : Rat} (within : schema.Within lower upper)
    (accepted : schema.validate (.number number) = .ok ()) : lower ≤ number ∧ number ≤ upper := by
  rcases within with ⟨min, max, isMin, isMax, above, below⟩
  rw [validate, validateBoundaries, isMin, isMax] at accepted
  by_cases tooSmall : number < min
  · simp [tooSmall, bind, Except.bind] at accepted
  · by_cases tooLarge : number > max
    · simp [tooSmall, tooLarge] at accepted
    · exact ⟨le_trans above (not_lt.mp tooSmall), le_trans (not_lt.mp tooLarge) below⟩

theorem fits_unsigned (integer : number.den = 1) (lower : 0 ≤ number)
    (upper : number ≤ 18446744073709551615) :
    (TlvPrimitive.number number).Fits (.unsignedInt (getUIntTlvLength number)) := by
  rw [← num_of_integer integer] at lower upper ⊢
  refine ⟨Rat.den_intCast _, ?_⟩
  rw [getUIntTlvLength]
  have notBelow : 0 ≤ number.num := by exact_mod_cast lower
  have notAbove : number.num ≤ 18446744073709551615 := by exact_mod_cast upper
  refine ⟨notBelow, ?_⟩
  split
  · rename_i small
    have small : number.num ≤ 0xff := by exact_mod_cast small
    exact Int.lt_of_le_of_lt small (by decide)
  · split
    · rename_i small
      have small : number.num ≤ 0xffff := by exact_mod_cast small
      exact Int.lt_of_le_of_lt small (by decide)
    · split
      · rename_i small
        have small : number.num ≤ 0xffffffff := by exact_mod_cast small
        exact Int.lt_of_le_of_lt small (by decide)
      · exact Int.lt_of_le_of_lt notAbove (by decide)

theorem fits_signed (integer : number.den = 1) (lower : -9223372036854775808 ≤ number)
    (upper : number ≤ 9223372036854775807) :
    (TlvPrimitive.number number).Fits (.signedInt (getIntTlvLength number)) := by
  rw [← num_of_integer integer] at lower upper ⊢
  refine ⟨Rat.den_intCast _, ?_⟩
  rw [Rat.num_intCast, getIntTlvLength]
  have notBelow : -9223372036854775808 ≤ number.num := by exact_mod_cast lower
  have notAbove : number.num ≤ 9223372036854775807 := by exact_mod_cast upper
  split
  · rename_i positive
    have positive : 0 < number.num := by exact_mod_cast positive
    split
    · rename_i small
      have small : number.num ≤ 127 := by exact_mod_cast small
      simp only [getUIntByteLength]
      omega
    · split
      · rename_i small
        have small : number.num ≤ 32767 := by exact_mod_cast small
        simp only [getUIntByteLength]
        omega
      · split
        · rename_i small
          have small : number.num ≤ 2147483647 := by exact_mod_cast small
          simp only [getUIntByteLength]
          omega
        · simp only [getUIntByteLength]
          omega
  · rename_i notPositive
    have notPositive : number.num ≤ 0 := by exact_mod_cast not_lt.mp notPositive
    split
    · rename_i small
      have small : -128 ≤ number.num := by exact_mod_cast small
      simp only [getUIntByteLength]
      omega
    · split
      · rename_i small
        have small : -32768 ≤ number.num := by exact_mod_cast small
        simp only [getUIntByteLength]
        omega
      · split
        · rename_i small
          have small : -2147483648 ≤ number.num := by exact_mod_cast small
          simp only [getUIntByteLength]
          omega
        · simp only [getUIntByteLength]
          omega

theorem IsInteger.holds (isInteger : schema.IsInteger)
    (accepted : schema.validate (.number number) = .ok ()) (integer : number.den = 1) :
    schema.Holds number := by
  rw [Holds]
  rcases isInteger.hasIntegerType with ⟨isType, within⟩ | ⟨isType, within⟩
  · rcases within_of_validate within accepted with ⟨lower, upper⟩
    rw [isType]
    exact fits_unsigned integer lower upper
  · rcases within_of_validate within accepted with ⟨lower, upper⟩
    rw [isType]
    exact fits_signed integer lower upper

end TlvNumericSchema

/-! ## Structured schemas and the values they hold -/

mutual
/-- Integers, booleans, byte strings, nullable values, arrays, and structures whose fields
have names and context tags of their own. -/
def TlvSchema.Structured : TlvSchema → Prop
  | .numeric schema => schema.IsInteger
  | .string schema => schema.type = .byteString
  | .boolean => True
  | .nullable schema => schema.Structured
  | .array elementSchema _ _ => elementSchema.Structured
  | .object fieldDefinitions type _ =>
    type = .struct ∧ fieldDefinitions.names.Nodup ∧ fieldDefinitions.ids.Nodup ∧
      (∀ id ∈ fieldDefinitions.ids, id < 2 ^ 8) ∧ fieldDefinitions.Structured
  | .any | .wrapper _ _ _ => False

/-- Repeated fields are only allowed in lists. -/
def TlvFields.Structured : TlvFields → Prop
  | .nil => True
  | .cons _ field schema rest =>
    field.repeated = false ∧ schema.Structured ∧ rest.Structured
end

mutual
/-- Numbers are integers, byte strings that may be null are not empty, and objects have
properties for fields of their schema only. -/
def TlvSchema.Exact : TlvSchema → TlvValue → Prop
  | .numeric _, value => ∀ number, value = .number number → number.den = 1
  | .string _, _ | .boolean, _ | .any, _ | .wrapper _ _ _, _ => True
  | .nullable schema, value => value ≠ .bytes [] ∧ schema.Exact value
  | .array elementSchema _ _, value =>
    ∀ elements, value = .array elements → ∀ element ∈ elements, elementSchema.Exact element
  | .object fieldDefinitions _ _, value =>
    ∃ properties, value = .object properties ∧ (properties.map Prod.fst).Nodup ∧
      properties.map Prod.fst ⊆ fieldDefinitions.names ∧ fieldDefinitions.Exact properties

def TlvFields.Exact : TlvFields → ObjectSchema.Properties → Prop
  | .nil, _ => True
  | .cons name _ schema rest, properties =>
    (∀ value, properties.lookup name = some value → schema.Exact value) ∧ rest.Exact properties
end

/-- Values that are equal up to the order of the properties of objects. -/
inductive TlvValue.Same : TlvValue → TlvValue → Prop
  | number (value : Rat) : Same (.number value) (.number value)
  | boolean (value : Bool) : Same (.boolean value) (.boolean value)
  | string (text : List Char) : Same (.string text) (.string text)
  | bytes (data : Bytes) : Same (.bytes data) (.bytes data)
  | null : Same .null .null
  | array {elements others : List TlvValue} :
      List.Forall₂ Same elements others → Same (.array elements) (.array others)
  | object {properties others : ObjectSchema.Properties} :
      (∀ name, (properties.lookup name).isSome = (others.lookup name).isSome) →
      (∀ name value other, properties.lookup name = some value →
        others.lookup name = some other → Same value other) →
      Same (.object properties) (.object others)
  | stream (elements : TlvStream) : Same (.stream elements) (.stream elements)

namespace TlvFields

theorem structured_iff (fields : TlvFields) :
    fields.Structured ↔ ∀ entry ∈ fields.entries,
      entry.2.1.repeated = false ∧ entry.2.2.Structured := by
  induction fields using TlvFields.induction with
  | nil => simp [Structured, entries]
  | cons name field schema rest induction =>
    rw [Structured, entries, List.forall_mem_cons, ← induction, and_assoc]

theorem exact_iff (fields : TlvFields) (properties : ObjectSchema.Properties) :
    fields.Exact properties ↔ ∀ entry ∈ fields.entries, ∀ value,
      properties.lookup entry.1 = some value → entry.2.2.Exact value := by
  induction fields using TlvFields.induction with
  | nil => simp [Exact, entries]
  | cons name field schema rest induction =>
    rw [Exact, entries, List.forall_mem_cons, ← induction]

end TlvFields

theorem validate_of_ne_null {schema : TlvSchema} {value : TlvValue} (notNull : value ≠ .null)
    (accepted : (TlvSchema.nullable schema).validate value = .ok ()) :
    schema.validate value = .ok () := by
  cases value with
  | null => exact absurd rfl notNull
  | number | boolean | string | bytes | array | object | stream => exact accepted

namespace TlvSchema

theorem Structured.sound {schema : TlvSchema} (structured : schema.Structured) :
    schema.Sound := by
  induction schema using TlvSchema.induction with
  | numeric | string | boolean => trivial
  | nullable schema induction => exact induction structured
  | array elementSchema minLength maxLength induction => exact induction structured
  | object fields type allowed induction =>
    rcases structured with ⟨_, nodupNames, nodupIds, oneByte, each⟩
    refine ⟨nodupNames, nodupIds, oneByte, (TlvFields.sound_iff fields).mpr ?_⟩
    intro entry member
    exact induction entry member (((TlvFields.structured_iff fields).mp each entry member).2)
  | any | wrapper => exact structured.elim

theorem Structured.head_ne_null {schema : TlvSchema} (structured : schema.Structured)
    {options : TlvEncodingOptions} {value : TlvValue} {tag : Option TlvTag} {stream : TlvStream}
    (notNull : value ≠ .null)
    (run : schema.encodeTlvInternal options value tag = .ok stream) :
    ∀ element ∈ stream.head?, element.typeLength ≠ .null := by
  induction schema using TlvSchema.induction with
  | numeric schema =>
    cases value with
    | number number =>
      rw [encodeTlvInternal, TlvNumericSchema.encodeTlvInternal] at run
      rcases structured.hasIntegerType with ⟨isType, _⟩ | ⟨isType, _⟩
      · simp only [isType] at run
        cases run
        simp
      · simp only [isType] at run
        cases run
        simp
    | boolean | string | bytes | null | array | object | stream => cases run
  | string schema =>
    rw [encodeTlvInternal, StringSchema.encodeTlvInternal] at run
    cases isLength : schema.lengthOf value with
    | none =>
      rw [isLength] at run
      cases run
    | some length =>
      rw [isLength] at run
      cases run
      cases schema.type <;> simp [TlvStringType.typeLength]
  | boolean =>
    cases value with
    | boolean value =>
      cases run
      simp
    | number | string | bytes | null | array | object | stream => cases run
  | nullable schema induction =>
    rw [encodeTlvInternal_nullable notNull] at run
    exact induction structured run
  | array elementSchema minLength maxLength induction =>
    rcases encodeTlvInternal_array run with ⟨elements, parts, rfl, related, rfl⟩
    simp
  | object fields type allowed induction =>
    rcases encodeTlvInternal_object structured.2.1 run with ⟨parts, related, rfl⟩
    cases type <;> simp [TlvObjectType.typeLength]
  | any | wrapper => exact structured.elim

end TlvSchema

/-! ## What is accepted is held, written, and kept -/

theorem TlvFields.accepts_of_validate {fields : TlvFields} {value : TlvValue}
    (accepted : fields.validate value = .ok ())
    {entry : String × FieldType × TlvSchema} (member : entry ∈ fields.entries) :
    ObjectSchema.Accepts entry.2.1 (fun data => entry.2.2.validate data)
      (value.properties.lookup entry.1) := by
  rcases ObjectSchema.validateField_eq_ok_iff.mp
    ((fields.validate_eq_ok_iff value).mp accepted entry member) with ⟨found, property, accepts⟩
  rwa [TlvValue.property_eq_ok property]

theorem accepts_single {field : FieldType} (single : field.repeated = false)
    {validate : TlvValue → Except MatterError Unit} {data : TlvValue}
    (accepts : ObjectSchema.Accepts field validate (some data)) : validate data = .ok () := by
  rwa [ObjectSchema.Accepts, if_neg (by simp [single])] at accepts

theorem length_fits {length : Nat} (small : length ≤ 9007199254740991) :
    length < 256 ^ getUIntByteLength (getUIntTlvLength length) := by
  have upper : (length : Rat) ≤ 18446744073709551615 := by
    have bound : (length : Rat) ≤ 9007199254740991 := by exact_mod_cast small
    exact le_trans bound (by norm_num)
  have fits := (TlvNumericSchema.fits_unsigned (Rat.den_natCast length)
    (Nat.cast_nonneg length) upper).2.2
  rw [Rat.num_natCast] at fits
  exact_mod_cast fits

variable {schema : StringSchema}

theorem StringSchema.lengthOf_of_accepted {value : TlvValue}
    (accepted : schema.validate value = .ok ()) :
    ∃ length, schema.lengthOf value = some length ∧ length ≤ schema.maxLength := by
  rw [validate] at accepted
  cases isLength : schema.lengthOf value with
  | none =>
    rw [isLength] at accepted
    cases isType : schema.type <;> simp [isType] at accepted
  | some length =>
    refine ⟨length, rfl, ?_⟩
    by_contra tooLong
    simp [isLength, Nat.lt_of_not_le tooLong] at accepted

theorem StringSchema.bytes_of_lengthOf (isBytes : schema.type = .byteString) {value : TlvValue}
    {length : Nat} (isLength : schema.lengthOf value = some length) :
    ∃ data : Bytes, value = .bytes data ∧ data.length = length := by
  cases value with
  | bytes data =>
    simp only [lengthOf, isBytes, Option.some.injEq] at isLength
    exact ⟨data, rfl, isLength⟩
  | number | boolean | string | null | array | object | stream =>
    simp [lengthOf, isBytes] at isLength

theorem StringSchema.holds_of_accepted (isBytes : schema.type = .byteString) {value : TlvValue}
    (accepted : schema.validate value = .ok ()) : schema.Holds value := by
  rcases lengthOf_of_accepted accepted with ⟨length, isLength, notTooLong⟩
  rcases bytes_of_lengthOf isBytes isLength with ⟨data, rfl, rfl⟩
  intro other isOther
  rw [isLength] at isOther
  cases isOther
  rw [isBytes]
  exact ⟨length_fits (Nat.le_trans notTooLong schema.maxLength_le), rfl⟩

theorem exists_mapM {α β : Type} {convert : α → Except MatterError β} {inputs : List α}
    (each : ∀ input ∈ inputs, ∃ output, convert input = .ok output) :
    ∃ outputs, inputs.mapM convert = .ok outputs := by
  simp only [mapM_eq_ok_iff]
  induction inputs with
  | nil => exact ⟨[], .nil⟩
  | cons input inputs induction =>
    rw [List.forall_mem_cons] at each
    rcases each.1 with ⟨output, converted⟩
    rcases induction each.2 with ⟨outputs, others⟩
    exact ⟨output :: outputs, .cons converted others⟩

namespace ObjectSchema

variable {name : String} {field : FieldType} {encode : Encoder} {value : TlvValue}

theorem encodeEntryToTlv_missing (missing : value.property name = .ok none)
    (optional : field.optional = true) :
    encodeEntryToTlv name field .none encode value = .ok [] := by
  simp [encodeEntryToTlv, missing, optional, bind, Except.bind]
  rfl

theorem encodeEntryToTlv_single {data : TlvValue} (present : value.property name = .ok (some data))
    (single : field.repeated = false) :
    encodeEntryToTlv name field .none encode value = encode data (fieldTag field) := by
  simp [encodeEntryToTlv, TlvEncodingOptions.none, present, single, bind, Except.bind, fieldTag]

end ObjectSchema

namespace TlvSchema

theorem Structured.holds {schema : TlvSchema} {value : TlvValue}
    (structured : schema.Structured) (accepted : schema.validate value = .ok ())
    (isExact : schema.Exact value) : schema.Holds value := by
  induction schema using TlvSchema.induction generalizing value with
  | numeric schema =>
    rintro number rfl
    exact TlvNumericSchema.IsInteger.holds structured accepted (isExact number rfl)
  | string schema => exact StringSchema.holds_of_accepted structured accepted
  | boolean => trivial
  | nullable schema induction =>
    by_cases isNull : value = .null
    · exact .inl isNull
    · have inner : schema.Structured := structured
      refine .inr ⟨?_, ?_⟩
      · exact induction inner (validate_of_ne_null isNull accepted) isExact.2
      · intro options tag stream run
        exact inner.head_ne_null isNull run
  | array elementSchema minLength maxLength induction =>
    rcases ArraySchema.validate_eq_ok_iff.mp accepted with ⟨elements, rfl, _, _, each⟩
    intro others same element member
    cases same
    exact induction structured (each element member) (isExact elements rfl element member)
  | object fields type allowed induction =>
    rcases isExact with ⟨properties, rfl, nodup, _, fieldsExact⟩
    refine ⟨nodup, (fields.holds_iff _).mpr ?_⟩
    intro entry member data present
    rcases (fields.structured_iff).mp structured.2.2.2.2 entry member with
      ⟨single, entryStructured⟩
    have accepts := TlvFields.accepts_of_validate accepted member
    rw [present] at accepts
    rw [single, ObjectSchema.HoldsField, ObjectSchema.fieldElements_single]
    refine ⟨by simp, List.forall_mem_singleton.mpr ?_⟩
    exact induction entry member entryStructured (accepts_single single accepts)
      ((fields.exact_iff properties).mp fieldsExact entry member data present)
  | any | wrapper => exact structured.elim

variable {schema : TlvSchema}

theorem Structured.encodes {value : TlvValue} (structured : schema.Structured)
    (accepted : schema.validate value = .ok ()) (isExact : schema.Exact value)
    (tag : Option TlvTag) :
    ∃ stream, schema.encodeTlvInternal .none value tag = .ok stream := by
  induction schema using TlvSchema.induction generalizing value tag with
  | numeric schema =>
    cases value with
    | number number =>
      rw [encodeTlvInternal, TlvNumericSchema.encodeTlvInternal]
      rcases structured.hasIntegerType with ⟨isType, _⟩ | ⟨isType, _⟩
      · simp only [isType]
        exact ⟨_, rfl⟩
      · simp only [isType]
        exact ⟨_, rfl⟩
    | boolean | string | bytes | null | array | object | stream => cases accepted
  | string schema =>
    rcases StringSchema.lengthOf_of_accepted accepted with ⟨length, isLength, _⟩
    rw [encodeTlvInternal, StringSchema.encodeTlvInternal, isLength]
    exact ⟨_, rfl⟩
  | boolean =>
    cases value with
    | boolean value => exact ⟨_, rfl⟩
    | number | string | bytes | null | array | object | stream => cases accepted
  | nullable schema induction =>
    by_cases isNull : value = .null
    · subst isNull
      exact ⟨_, rfl⟩
    · rw [encodeTlvInternal_nullable isNull]
      exact induction structured (validate_of_ne_null isNull accepted) isExact.2 tag
  | array elementSchema minLength maxLength induction =>
    rcases ArraySchema.validate_eq_ok_iff.mp accepted with ⟨elements, rfl, _, _, each⟩
    have contents : ∃ parts, elements.mapM (fun element =>
        elementSchema.encodeTlvInternal .none element none) = .ok parts :=
      exists_mapM fun element member =>
        induction structured (each element member) (isExact elements rfl element member) none
    rcases contents with ⟨parts, encoded⟩
    exact ⟨_, bind_eq_ok_iff.mpr ⟨parts, encoded, rfl⟩⟩
  | object fields type allowed induction =>
    rcases isExact with ⟨properties, rfl, _, _, fieldsExact⟩
    rcases structured with ⟨rfl, _, _, _, fieldsStructured⟩
    have contents : ∃ parts, (fields.entryEncoders .none).mapM
        (fun entry => entry.2 (.object properties)) = .ok parts := by
      apply exists_mapM
      rw [TlvFields.entryEncoders_eq, List.forall_mem_map]
      intro entry member
      have accepts := TlvFields.accepts_of_validate accepted member
      rcases (fields.structured_iff).mp fieldsStructured entry member with
        ⟨single, entryStructured⟩
      cases present : properties.lookup entry.1 with
      | none =>
        simp only [TlvValue.properties, present] at accepts
        exact ⟨[], ObjectSchema.encodeEntryToTlv_missing (congrArg Except.ok present) accepts⟩
      | some data =>
        simp only [TlvValue.properties, present] at accepts
        have property : (TlvValue.object properties).property entry.1 = .ok (some data) :=
          congrArg Except.ok present
        rcases induction entry member entryStructured (accepts_single single accepts)
          ((fields.exact_iff properties).mp fieldsExact entry member data present)
          (fieldTag entry.2.1) with ⟨stream, run⟩
        exact ⟨stream, (ObjectSchema.encodeEntryToTlv_single property single).trans run⟩
    rcases contents with ⟨parts, encoded⟩
    have structure_eq : ObjectSchema.encodeStructure (fields.entryEncoders .none)
        (.object properties) = .ok parts.flatten :=
      bind_eq_ok_iff.mpr ⟨parts, encoded, rfl⟩
    exact ⟨_, bind_eq_ok_iff.mpr ⟨parts.flatten, structure_eq, rfl⟩⟩
  | any | wrapper => exact structured.elim

theorem Structured.emptyAsNull_eq_false {value : TlvValue} (structured : schema.Structured)
    (accepted : schema.validate value = .ok ()) (notEmpty : value ≠ .bytes []) :
    schema.emptyAsNull (schema.project value) = false := by
  cases schema with
  | string schema =>
    rcases StringSchema.lengthOf_of_accepted accepted with ⟨length, isLength, _⟩
    rcases StringSchema.bytes_of_lengthOf structured isLength with ⟨data, rfl, rfl⟩
    rcases schema with ⟨type, minLength, maxLength, bound⟩
    cases structured
    cases data with
    | nil => exact absurd rfl notEmpty
    | cons => rfl
  | array elementSchema minLength maxLength =>
    rcases ArraySchema.validate_eq_ok_iff.mp accepted with ⟨elements, rfl, notTooShort, _, _⟩
    cases elements with
    | nil =>
      have none : ¬0 < minLength := Nat.not_lt.mpr notTooShort
      simp [project, emptyAsNull, none]
    | cons => rfl
  | numeric | boolean | nullable | object => rfl
  | any | wrapper => exact structured.elim

theorem Structured.same_project {value : TlvValue} (structured : schema.Structured)
    (accepted : schema.validate value = .ok ()) (isExact : schema.Exact value) :
    value.Same (schema.project value) := by
  induction schema using TlvSchema.induction generalizing value with
  | numeric schema =>
    cases value with
    | number number => exact .number number
    | boolean | string | bytes | null | array | object | stream => cases accepted
  | string schema =>
    rcases StringSchema.lengthOf_of_accepted accepted with ⟨length, isLength, _⟩
    rcases StringSchema.bytes_of_lengthOf structured isLength with ⟨data, rfl, rfl⟩
    exact .bytes data
  | boolean =>
    cases value with
    | boolean value => exact .boolean value
    | number | string | bytes | null | array | object | stream => cases accepted
  | nullable schema induction =>
    by_cases isNull : value = .null
    · subst isNull
      exact .null
    · have accepted := validate_of_ne_null isNull accepted
      have inner : schema.Structured := structured
      rw [project_nullable isNull, inner.emptyAsNull_eq_false accepted isExact.1]
      exact induction inner accepted isExact.2
  | array elementSchema minLength maxLength induction =>
    rcases ArraySchema.validate_eq_ok_iff.mp accepted with ⟨elements, rfl, _, _, each⟩
    apply TlvValue.Same.array
    rw [List.forall₂_map_right_iff, List.forall₂_same]
    exact fun element member =>
      induction structured (each element member) (isExact elements rfl element member)
  | object fields type allowed induction =>
    rcases isExact with ⟨properties, rfl, _, known, fieldsExact⟩
    rcases structured with ⟨rfl, nodupNames, _, _, fieldsStructured⟩
    have property (name : String) :
        (ObjectSchema.projectedProperties fields.projectors (fields.projectors.map Prod.fst)
          (.object properties)).lookup name =
          ObjectSchema.projected fields.projectors (.object properties) name :=
      Except.ok.inj (property_project fields .struct allowed _ name)
    apply TlvValue.Same.object
    · intro name
      rw [property]
      by_cases isName : name ∈ fields.names
      · rcases OrderedMap.mem_map_fst_iff.mp isName with ⟨entry, found⟩
        rw [projected_of_known found, Option.isSome_map]
        rfl
      · rw [OrderedMap.lookup_of_new fun member => isName (known member),
          projected_of_unknown isName]
    · intro name data other present projected
      have isName : name ∈ fields.names :=
        known (OrderedMap.mem_map_fst_iff.mpr ⟨data, present⟩)
      rcases OrderedMap.mem_map_fst_iff.mp isName with ⟨entry, found⟩
      have member := OrderedMap.mem_of_lookup found
      rcases (fields.structured_iff).mp fieldsStructured _ member with
        ⟨single, entryStructured⟩
      have accepts := TlvFields.accepts_of_validate accepted member
      simp only [TlvValue.properties, present] at accepts
      have notRepeated : entry.1.repeated = false := single
      rw [property, projected_of_known found, notRepeated] at projected
      simp only [TlvValue.properties, present, Option.map_some, Option.some.injEq] at projected
      subst projected
      exact induction _ member entryStructured (accepts_single single accepts)
        ((fields.exact_iff properties).mp fieldsExact _ member data present)
  | any | wrapper => exact structured.elim

/-- A structured value that is accepted is written, and what is written is read back as the
same value, provided that its numbers are integers, its byte strings that may be null are
not empty and its objects have no other properties than those of their fields. -/
theorem decode_encode_structured {schema : TlvSchema} {value : TlvValue}
    (structured : schema.Structured) (accepted : schema.validate value = .ok ())
    (isExact : schema.Exact value) :
    ∃ encoded decoded, schema.encode value = .ok encoded ∧ schema.decode encoded = .ok decoded ∧
      value.Same decoded := by
  have holds := structured.holds accepted isExact
  rcases structured.encodes accepted isExact none with ⟨stream, encodes⟩
  have written := toByteArray_of_emits (emits structured.sound holds properTag_none encodes)
  have encoded : schema.encode value = .ok (streamBytes stream) :=
    bind_eq_ok_iff.mpr ⟨(), accepted, bind_eq_ok_iff.mpr ⟨stream, encodes, written⟩⟩
  have decoded := (decode_encode_newer (Extends.refl schema) structured.sound structured.sound
    holds).1 _ encoded
  exact ⟨_, _, encoded, decoded, structured.same_project accepted isExact⟩

/-- A structure with an optional list of byte strings and nulls. -/
def keySetSchema : TlvSchema :=
  .object (.cons "id" (TlvField 0 none) (.numeric TlvUInt16)
    (.cons "keys" (TlvOptionalField 1) (.array (.nullable (.string TlvByteString)) 0 4) .nil))
    .struct false

def keySetValue : TlvValue :=
  .object [("keys", .array [.bytes [1, 2], .null]), ("id", .number 300)]

theorem keySetSchema_structured : keySetSchema.Structured :=
  ⟨rfl, by decide, by decide, by decide, rfl, .uint16, rfl, rfl, trivial⟩

theorem keySetValue_exact : keySetSchema.Exact keySetValue := by
  refine ⟨_, rfl, by decide, by decide, ?_⟩
  rw [TlvFields.exact_iff]
  simp [TlvFields.entries, List.lookup_cons, Exact]

theorem decode_encode_keySet :
    ∃ encoded decoded, keySetSchema.encode keySetValue = .ok encoded ∧
      keySetSchema.decode encoded = .ok decoded ∧ keySetValue.Same decoded :=
  decode_encode_structured keySetSchema_structured (by rfl) keySetValue_exact

/-- Three halves are accepted as an integer of one byte, and read back as one. -/
theorem fraction_not_kept :
    (TlvSchema.numeric TlvUInt8).Structured ∧
      (TlvSchema.numeric TlvUInt8).validate (.number ⟨3, 2, by decide, by decide⟩) = .ok () ∧
      (TlvSchema.numeric TlvUInt8).encode (.number ⟨3, 2, by decide, by decide⟩) = .ok [4, 1] ∧
      (TlvSchema.numeric TlvUInt8).decode [4, 1] = .ok (.number 1) ∧
      ¬(TlvValue.number ⟨3, 2, by decide, by decide⟩).Same (.number 1) := by
  refine ⟨.uint8, by rfl, by rfl, by rfl, ?_⟩
  intro same
  cases same

end TlvSchema

end MatterJs.Types
