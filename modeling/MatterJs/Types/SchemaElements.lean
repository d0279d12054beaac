import MatterJs.Foundation.PairedLists
import MatterJs.Types.StreamRoundTrip
import MatterJs.Types.TlvSchema

/-! The elements a schema writes for a value: one complete element that can be read. -/

namespace MatterJs.Types

open General ByteOrder Consumption
open DataReader (source)
open TlvCodec

namespace TlvFields

def entries : TlvFields → List (String × FieldType × TlvSchema)
  | .nil => []
  | .cons name field schema rest => (name, field, schema) :: rest.entries

def names (fields : TlvFields) : List String :=
  fields.entries.map Prod.fst

def ids (fields : TlvFields) : List Nat :=
  fields.entries.map fun entry => entry.2.1.id

@[elab_as_elim]
theorem induction {motive : TlvFields → Prop} (nil : motive .nil)
    (cons : ∀ name field schema rest, motive rest → motive (.cons name field schema rest)) :
    ∀ fields, motive fields
  | .nil => nil
  | .cons name field schema rest => cons name field schema rest (induction nil cons rest)

/-! What schemas make of their fields, by the entries. -/

theorem entryEncoders_eq (options : TlvEncodingOptions) (fields : TlvFields) :
    fields.entryEncoders options = fields.entries.map fun entry =>
      (entry.1, ObjectSchema.encodeEntryToTlv entry.1 entry.2.1 options
        fun value tag => entry.2.2.encodeTlvInternal options value tag) := by
  induction fields using TlvFields.induction with
  | nil => rfl
  | cons name field schema rest induction =>
    rw [entryEncoders, induction]
    rfl

theorem fieldDecoders_eq {State : Type} (reader : TlvReader State) (fuel : Nat)
    (fields : TlvFields) :
    fields.fieldDecoders reader fuel = fields.entries.map fun entry =>
      { name := entry.1, field := entry.2.1
        decode := fun typeLength =>
          entry.2.2.decodeTlvInternalValue reader fuel typeLength } := by
  induction fields using TlvFields.induction with
  | nil => rfl
  | cons name field schema rest induction =>
    rw [fieldDecoders, induction]
    rfl

theorem validate_eq_ok_iff (fields : TlvFields) (value : TlvValue) :
    fields.validate value = .ok () ↔ ∀ entry ∈ fields.entries,
      ObjectSchema.validateField entry.1 entry.2.1 (fun data => entry.2.2.validate data)
        value = .ok () := by
  induction fields using TlvFields.induction with
  | nil => simp [validate, entries]
  | cons name field schema rest induction =>
    rw [validate, bind_eq_ok_iff, entries, List.forall_mem_cons, ← induction]
    exact ⟨fun ⟨_, first, others⟩ => ⟨first, others⟩, fun ⟨first, others⟩ => ⟨(), first, others⟩⟩

end TlvFields

namespace TlvSchema

@[elab_as_elim]
theorem induction {motive : TlvSchema → Prop} (numeric : ∀ schema, motive (.numeric schema))
    (string : ∀ schema, motive (.string schema))
    (boolean : motive .boolean)
    (nullable : ∀ schema, motive schema → motive (.nullable schema))
    (array : ∀ elementSchema minLength maxLength, motive elementSchema →
      motive (.array elementSchema minLength maxLength))
    (object : ∀ fieldDefinitions type allowProtocolSpecificTags,
      (∀ entry ∈ fieldDefinitions.entries, motive entry.2.2) →
      motive (.object fieldDefinitions type allowProtocolSpecificTags))
    (any : motive .any)
    (wrapper : ∀ underlyingSchema wrap unwrap, motive underlyingSchema →
      motive (.wrapper underlyingSchema wrap unwrap))
    (schema : TlvSchema) : motive schema := by
  have none : ∀ entry ∈ TlvFields.nil.entries, motive entry.2.2 := by
    intro entry member
    cases member
  have more : ∀ name field schema (rest : TlvFields), motive schema →
      (∀ entry ∈ rest.entries, motive entry.2.2) →
      ∀ entry ∈ (TlvFields.cons name field schema rest).entries, motive entry.2.2 := by
    intro name field schema rest first others entry member
    rcases List.mem_cons.mp member with rfl | later
    · exact first
    · exact others entry later
  exact @TlvSchema.rec motive (fun fields => ∀ entry ∈ fields.entries, motive entry.2.2)
    numeric string boolean nullable array object any wrapper none more schema

end TlvSchema

/-! ## Schemas and values that fit the encoding -/

mutual
/-- Fields have names and identifiers of their own, identifiers take one byte, and
what a wrapper unwraps is accepted when it is wrapped again. -/
def TlvSchema.Sound : TlvSchema → Prop
  | .numeric _ | .string _ | .boolean | .any => True
  | .nullable schema => schema.Sound
  | .array elementSchema _ _ => elementSchema.Sound
  | .object fieldDefinitions _ _ =>
    fieldDefinitions.names.Nodup ∧ fieldDefinitions.ids.Nodup ∧
      (∀ id ∈ fieldDefinitions.ids, id < 2 ^ 8) ∧ fieldDefinitions.Sound
  | .wrapper underlyingSchema wrap unwrap =>
    underlyingSchema.Sound ∧ ∀ value, underlyingSchema.validate value = .ok () →
      underlyingSchema.validate (wrap (unwrap value)) = .ok ()

def TlvFields.Sound : TlvFields → Prop
  | .nil => True
  | .cons _ _ schema rest => schema.Sound ∧ rest.Sound
end

/-- The number is read back as it is written. -/
def TlvNumericSchema.Holds (schema : TlvNumericSchema) (value : Rat) : Prop :=
  match schema.type with
  | .unsignedInt lengthProvider =>
    (TlvPrimitive.number value).Fits (.unsignedInt (lengthProvider value))
  | .signedInt lengthProvider =>
    (TlvPrimitive.number value).Fits (.signedInt (lengthProvider value))
  | .float lengthProvider format =>
    format.ofBits (lengthProvider value) (format.toBits (lengthProvider value) value) = value

/-- The text or the bytes fit the width of their length, and no byte order mark gets
lost. -/
def StringSchema.Holds (schema : StringSchema) (value : TlvValue) : Prop :=
  ∀ length ∈ schema.lengthOf value,
    (primitiveOf value).Fits (schema.type.typeLength (TlvCodec.getUIntTlvLength length)) ∧
      (primitiveOf value).readBack = primitiveOf value

/-- One complete element without an outer tag, fit to be written and read. -/
structure AnySchema.Holds (stream : TlvStream) : Prop where
  nested : WellNested stream
  noTag : ∀ element ∈ stream.head?, element.tag = none
  wellFormed : ∀ element ∈ stream, element.WellFormed
  readable : ∀ element ∈ stream, element.Readable
  keepsText : ∀ element ∈ stream, element.KeepsText

def TlvValue.properties : TlvValue → ObjectSchema.Properties
  | .object properties => properties
  | _ => []

def ObjectSchema.fieldElements (repeated : Bool) (data : TlvValue) : List TlvValue :=
  if repeated then
    match data with
    | .array elements => elements
    | _ => []
  else
    [data]

theorem ObjectSchema.fieldElements_array (elements : List TlvValue) :
    fieldElements true (.array elements) = elements := rfl

theorem ObjectSchema.fieldElements_single (data : TlvValue) :
    fieldElements false data = [data] := rfl

def ObjectSchema.HoldsField (repeated : Bool) (holds : TlvValue → Prop) (data : TlvValue) :
    Prop :=
  fieldElements repeated data ≠ [] ∧ ∀ element ∈ fieldElements repeated data, holds element

mutual
def TlvSchema.Holds : TlvSchema → TlvValue → Prop
  | .numeric schema, value => ∀ number, value = .number number → schema.Holds number
  | .string schema, value => schema.Holds value
  | .boolean, _ => True
  | .nullable schema, value =>
    value = .null ∨ schema.Holds value ∧
      -- what is not null is not written as null either
      ∀ options tag stream, schema.encodeTlvInternal options value tag = .ok stream →
        ∀ element ∈ stream.head?, element.typeLength ≠ .null
  | .array elementSchema _ _, value =>
    ∀ elements, value = .array elements → ∀ element ∈ elements, elementSchema.Holds element
  | .object fieldDefinitions _ _, value =>
    (value.properties.map Prod.fst).Nodup ∧ fieldDefinitions.Holds value.properties
  | .any, value => ∀ stream, value = .stream stream → AnySchema.Holds stream
  | .wrapper underlyingSchema wrap _, value => underlyingSchema.Holds (wrap value)

def TlvFields.Holds : TlvFields → ObjectSchema.Properties → Prop
  | .nil, _ => True
  | .cons name field schema rest, properties =>
    (∀ value, properties.lookup name = some value →
      ObjectSchema.HoldsField field.repeated (fun data => schema.Holds data) value) ∧
      rest.Holds properties
end

namespace TlvFields

theorem sound_iff (fields : TlvFields) :
    fields.Sound ↔ ∀ entry ∈ fields.entries, entry.2.2.Sound := by
  induction fields using TlvFields.induction with
  | nil => simp [Sound, entries]
  | cons name field schema rest induction =>
    rw [Sound, entries, List.forall_mem_cons, ← induction]

theorem holds_iff (fields : TlvFields) (properties : ObjectSchema.Properties) :
    fields.Holds properties ↔ ∀ entry ∈ fields.entries, ∀ value,
      properties.lookup entry.1 = some value →
        ObjectSchema.HoldsField entry.2.1.repeated (fun data => entry.2.2.Holds data) value := by
  induction fields using TlvFields.induction with
  | nil => simp [Holds, entries]
  | cons name field schema rest induction =>
    rw [Holds, entries, List.forall_mem_cons, ← induction]

end TlvFields

/-! ## Complete elements -/

structure TlvElement.Proper (element : TlvElement) : Prop where
  wellFormed : element.WellFormed
  readable : element.Readable
  written : ∀ value ∈ element.value, value.Fits element.typeLength

def ProperTag (tag : Option TlvTag) : Prop :=
  ∀ present ∈ tag, present.WellFormed ∧ ¬present.IsFullyQualified64

/-- A sequence of complete elements, fit to be written and read. -/
structure ProperContents (stream : TlvStream) : Prop where
  contents : Contents stream
  proper : ∀ element ∈ stream, element.Proper

structure Emits (tag : Option TlvTag) (stream : TlvStream) : Prop where
  nested : WellNested stream
  outerTag : ∀ element ∈ stream.head?, element.tag = tag
  proper : ∀ element ∈ stream, element.Proper

theorem TlvElement.Proper.writable {element : TlvElement} (proper : element.Proper) :
    element.Writable :=
  ⟨proper.wellFormed.known, proper.wellFormed.tag, proper.written⟩

def fieldTag (field : FieldType) : Option TlvTag :=
  some { profile := none, id := some field.id }

theorem properTag_none : ProperTag none := nofun

theorem properTag_fieldTag {field : FieldType} (oneByte : field.id < 2 ^ 8) :
    ProperTag (fieldTag field) := by
  intro present isPresent
  cases isPresent
  exact ⟨oneByte, id⟩

theorem Contents.append {first second : TlvStream} (contents : Contents first)
    (others : Contents second) : Contents (first ++ second) := by
  induction contents with
  | nil => exact others
  | primitive isPrimitive _ induction => exact .primitive isPrimitive induction
  | container container inner ends _ _ induction =>
    rw [List.cons_append, List.append_assoc]
    exact .container container inner ends induction

theorem WellNested.contents {stream : TlvStream} (nested : WellNested stream) :
    Contents stream := by
  cases nested with
  | primitive isPrimitive => exact .primitive isPrimitive .nil
  | container container inner ends => exact .container container inner ends .nil

theorem WellNested.head_ne_end {element : TlvElement} {rest : TlvStream}
    (nested : WellNested (element :: rest)) : element.typeLength ≠ .endOfContainer := by
  cases nested with
  | primitive isPrimitive => exact isPrimitive.ne_end
  | container container inner ends => exact container.ne_end

theorem WellNested.exists_cons {stream : TlvStream} (nested : WellNested stream) :
    ∃ element rest, stream = element :: rest := by
  cases nested with
  | primitive => exact ⟨_, _, rfl⟩
  | container => exact ⟨_, _, rfl⟩

theorem Contents.map {stream : TlvStream} (contents : Contents stream)
    {change : TlvElement → TlvElement}
    (keeps : ∀ element, (change element).typeLength = element.typeLength) :
    Contents (stream.map change) := by
  induction contents with
  | nil => exact .nil
  | primitive isPrimitive _ induction =>
    rw [← keeps] at isPrimitive
    exact .primitive isPrimitive induction
  | container container _ ends _ innerInduction induction =>
    rw [← keeps] at container ends
    rw [List.map_cons, List.map_append]
    exact .container container innerInduction ends induction

theorem WellNested.map {stream : TlvStream} (nested : WellNested stream)
    {change : TlvElement → TlvElement}
    (keeps : ∀ element, (change element).typeLength = element.typeLength) :
    WellNested (stream.map change) := by
  cases nested with
  | primitive isPrimitive =>
    rw [← keeps] at isPrimitive
    exact .primitive isPrimitive
  | container container inner ends =>
    rw [← keeps] at container ends
    rw [List.map_cons, List.map_append]
    exact .container container (inner.map keeps) ends

theorem ProperContents.nil : ProperContents [] where
  contents := .nil
  proper := List.forall_mem_nil _

theorem ProperContents.flatten {parts : List TlvStream}
    (proper : ∀ part ∈ parts, ProperContents part) : ProperContents parts.flatten := by
  induction parts with
  | nil => exact ProperContents.nil
  | cons part parts induction =>
    rw [List.forall_mem_cons] at proper
    have others := induction proper.2
    exact ⟨proper.1.contents.append others.contents,
      List.forall_mem_append.mpr ⟨proper.1.proper, others.proper⟩⟩

theorem Emits.contents {tag : Option TlvTag} {stream : TlvStream} (emits : Emits tag stream) :
    ProperContents stream where
  contents := emits.nested.contents
  proper := emits.proper

section Elements

variable {tag : Option TlvTag} {typeLength : TlvTypeLength} (tagForm : ProperTag tag)

include tagForm

theorem proper_of_noValue (known : typeLength.Known) (noValue : ¬typeLength.HasValue) :
    ({ tag, typeLength, value := none } : TlvElement).Proper where
  wellFormed := AnySchema.wellFormed_of_noValue known noValue fun present isPresent =>
    (tagForm present isPresent).1
  readable present isPresent := (tagForm present isPresent).2
  written := nofun

theorem proper_of_value {value : TlvPrimitive} (known : typeLength.Known)
    (hasValue : typeLength.HasValue) (fits : value.Fits typeLength) :
    ({ tag, typeLength, value := some value } : TlvElement).Proper where
  wellFormed := AnySchema.wellFormed_of_value known fits hasValue fun present isPresent =>
    (tagForm present isPresent).1
  readable present isPresent := (tagForm present isPresent).2
  written other isOther := by
    cases isOther
    exact fits

theorem emits_value {value : TlvPrimitive} (known : typeLength.Known)
    (hasValue : typeLength.HasValue) (isPrimitive : typeLength.IsPrimitive)
    (fits : value.Fits typeLength) :
    Emits tag [{ tag, typeLength, value := some value }] where
  nested := .primitive isPrimitive
  outerTag := by simp
  proper := List.forall_mem_singleton.mpr (proper_of_value tagForm known hasValue fits)

theorem emits_noValue (known : typeLength.Known) (noValue : ¬typeLength.HasValue)
    (isPrimitive : typeLength.IsPrimitive) :
    Emits tag [{ tag, typeLength, value := none }] where
  nested := .primitive isPrimitive
  outerTag := by simp
  proper := List.forall_mem_singleton.mpr (proper_of_noValue tagForm known noValue)

theorem emits_container {inner : TlvStream} (known : typeLength.Known)
    (noValue : ¬typeLength.HasValue) (container : typeLength.IsContainer)
    (contents : ProperContents inner) :
    Emits tag ({ tag, typeLength, value := none } :: (inner ++
      [{ tag := none, typeLength := .endOfContainer, value := none }])) where
  nested := .container container contents.contents rfl
  outerTag := by simp
  proper := by
    rw [List.forall_mem_cons, List.forall_mem_append, List.forall_mem_singleton]
    exact ⟨proper_of_noValue tagForm known noValue, contents.proper,
      proper_of_noValue properTag_none trivial id⟩

end Elements

/-! ## The elements of an object -/

theorem TlvValue.property_eq_ok {value : TlvValue} {name : String} {result : Option TlvValue}
    (found : value.property name = .ok result) : value.properties.lookup name = result := by
  cases value with
  | null => cases found
  | object properties => exact Except.ok.inj found
  | number | boolean | string | bytes | array | stream => exact Except.ok.inj found

theorem TlvValue.keys_eq_ok {value : TlvValue} {names : List String}
    (found : value.keys = .ok names) : value.properties.map Prod.fst = names := by
  cases value with
  | null => cases found
  | object properties => exact Except.ok.inj found
  | number | boolean | string | bytes | array | stream => exact Except.ok.inj found

structure FieldWrites (encode : ObjectSchema.Encoder) (field : FieldType) (data : TlvValue)
    (parts : List TlvStream) : Prop where
  isArray : field.repeated = true → ∃ elements, data = .array elements
  elements : List.Forall₂ (fun element part => encode element (fieldTag field) = .ok part)
    (ObjectSchema.fieldElements field.repeated data) parts

namespace ObjectSchema

variable {options : TlvEncodingOptions} {encode : Encoder} {name : String}
  {field : FieldType} {value : TlvValue}

theorem encodeEntryToTlv_cases {part : TlvStream}
    (run : encodeEntryToTlv name field options encode value = .ok part) :
    (value.properties.lookup name = none ∧ part = [] ∧ (options = .none → field.optional = true)) ∨
      ∃ data parts, value.properties.lookup name = some data ∧
        FieldWrites encode field data parts ∧ part = parts.flatten := by
  rw [encodeEntryToTlv] at run
  split at run
  · cases run
  · rcases bind_eq_ok_iff.mp run with ⟨found, property, rest⟩
    rw [TlvValue.property_eq_ok property]
    cases found with
    | none =>
      refine .inl ⟨rfl, ?_⟩
      simp only at rest
      split at rest
      · rename_i mandatory
        split at rest
        · rename_i forWrite
          cases rest
          refine ⟨rfl, ?_⟩
          rintro rfl
          simp [TlvEncodingOptions.none] at forWrite
        · cases rest
      · rename_i allowed
        cases rest
        refine ⟨rfl, ?_⟩
        rintro rfl
        simpa [TlvEncodingOptions.none] using allowed
    | some data =>
      right
      simp only at rest
      split at rest
      · rename_i repeated
        cases data with
        | array elements =>
          rcases bind_eq_ok_iff.mp rest with ⟨parts, encoded, whole⟩
          cases whole
          refine ⟨_, parts, rfl, ⟨fun _ => ⟨elements, rfl⟩, ?_⟩, rfl⟩
          rw [repeated]
          exact mapM_eq_ok_iff.mp encoded
        | number | boolean | string | bytes | null | object | stream => cases rest
      · rename_i notRepeated
        have single : field.repeated = false := Bool.eq_false_iff.mpr notRepeated
        refine ⟨data, [part], rfl, ⟨fun repeated => absurd repeated notRepeated, ?_⟩, ?_⟩
        · rw [single]
          exact .cons rest .nil
        · simp

end ObjectSchema

namespace TlvFields

variable {fields : TlvFields} {options : TlvEncodingOptions} {value : TlvValue}

/-- The order in which the fields are written: that of their definitions, or in a list
that of the properties, followed by the fields that are missing. -/
def order (fields : TlvFields) (type : TlvObjectType) (value : TlvValue) : List String :=
  match type with
  | .struct => fields.names
  | .list =>
    value.properties.map Prod.fst ++ fields.names.filter (· ∉ value.properties.map Prod.fst)

def Encodes (fields : TlvFields) (options : TlvEncodingOptions) (value : TlvValue)
    (name : String) (part : TlvStream) : Prop :=
  ∃ field schema, fields.entries.lookup name = some (field, schema) ∧
    ObjectSchema.encodeEntryToTlv name field options
      (fun data tag => schema.encodeTlvInternal options data tag) value = .ok part

theorem lookup_entryEncoders (fields : TlvFields) (options : TlvEncodingOptions) (name : String) :
    (fields.entryEncoders options).lookup name =
      (fields.entries.lookup name).map fun entry =>
        ObjectSchema.encodeEntryToTlv name entry.1 options
          fun data tag => entry.2.encodeTlvInternal options data tag := by
  rw [entryEncoders_eq]
  exact OrderedMap.lookup_map (fun name (entry : FieldType × TlvSchema) =>
    ObjectSchema.encodeEntryToTlv name entry.1 options
      fun data tag => entry.2.encodeTlvInternal options data tag) fields.entries name

theorem encodes_of_mem (nodup : fields.names.Nodup) {entry : ObjectSchema.EntryEncoder}
    (member : entry ∈ fields.entryEncoders options) {part : TlvStream}
    (run : entry.2 value = .ok part) : fields.Encodes options value entry.1 part := by
  rw [entryEncoders_eq] at member
  rcases List.mem_map.mp member with ⟨⟨name, field, schema⟩, isField, rfl⟩
  exact ⟨field, schema, OrderedMap.lookup_of_mem nodup isField, run⟩

theorem encodes_entries (nodup : fields.names.Nodup)
    {entries : List ObjectSchema.EntryEncoder} (known : entries ⊆ fields.entryEncoders options)
    {parts : List TlvStream} (run : entries.mapM (fun entry => entry.2 value) = .ok parts) :
    List.Forall₂ (fields.Encodes options value) (entries.map Prod.fst) parts := by
  rw [List.forall₂_map_left_iff]
  have both := (List.forall₂_and_left _ _).mpr ⟨known, mapM_eq_ok_iff.mp run⟩
  apply both.imp
  rintro entry part ⟨member, encoded⟩
  exact encodes_of_mem nodup member encoded

theorem map_fst_entryEncoders (fields : TlvFields) (options : TlvEncodingOptions) :
    (fields.entryEncoders options).map Prod.fst = fields.names := by
  rw [entryEncoders_eq, List.map_map]
  rfl

theorem encodes_struct (nodup : fields.names.Nodup) {contents : TlvStream}
    (run : ObjectSchema.encodeStructure (fields.entryEncoders options) value = .ok contents) :
    ∃ parts, List.Forall₂ (fields.Encodes options value) (fields.order .struct value) parts ∧
      contents = parts.flatten := by
  rcases bind_eq_ok_iff.mp run with ⟨parts, encoded, whole⟩
  refine ⟨parts, ?_, (Except.ok.inj whole).symm⟩
  rw [order, ← map_fst_entryEncoders fields options]
  exact encodes_entries nodup (List.Subset.refl _) encoded

theorem encodes_list (nodup : fields.names.Nodup) {contents : TlvStream}
    (run : ObjectSchema.encodeList (fields.entryEncoders options) value = .ok contents) :
    ∃ parts, List.Forall₂ (fields.Encodes options value) (fields.order .list value) parts ∧
      contents = parts.flatten := by
  rcases bind_eq_ok_iff.mp run with ⟨names, keys, run⟩
  rcases bind_eq_ok_iff.mp run with ⟨present, presentRun, run⟩
  rcases bind_eq_ok_iff.mp run with ⟨missing, missingRun, whole⟩
  have isNames := TlvValue.keys_eq_ok keys
  refine ⟨present ++ missing, ?_, ?_⟩
  · rw [order, isNames]
    apply List.rel_append
    · apply (mapM_eq_ok_iff.mp presentRun).imp
      intro name part encoded
      rw [lookup_entryEncoders] at encoded
      cases found : fields.entries.lookup name with
      | none =>
        rw [found] at encoded
        cases encoded
      | some entry =>
        rw [found] at encoded
        exact ⟨entry.1, entry.2, found, encoded⟩
    · have sameNames : ((fields.entryEncoders options).filter (·.1 ∉ names)).map Prod.fst =
          fields.names.filter (· ∉ names) := by
        rw [← map_fst_entryEncoders fields options, List.filter_map]
        rfl
      rw [← sameNames]
      exact encodes_entries nodup (List.filter_subset_self _) missingRun
  · rw [List.flatten_append]
    exact (Except.ok.inj whole).symm

theorem Encodes.contents {name : String} {part : TlvStream}
    (encodes : fields.Encodes options value name part) (sound : fields.Sound)
    (oneByte : ∀ id ∈ fields.ids, id < 2 ^ 8) (holds : fields.Holds value.properties)
    (emits : ∀ entry ∈ fields.entries, ∀ {data tag stream}, entry.2.2.Sound →
      entry.2.2.Holds data → ProperTag tag →
      entry.2.2.encodeTlvInternal options data tag = .ok stream → Emits tag stream) :
    ProperContents part := by
  rcases encodes with ⟨field, schema, found, run⟩
  have member := OrderedMap.mem_of_lookup found
  rcases ObjectSchema.encodeEntryToTlv_cases run with
    ⟨_, rfl, _⟩ | ⟨data, parts, present, writes, rfl⟩
  · exact ProperContents.nil
  · apply ProperContents.flatten
    have tagForm : ProperTag (fieldTag field) :=
      properTag_fieldTag (oneByte _ (List.mem_map.mpr ⟨_, member, rfl⟩))
    have dataHolds := ((holds_iff fields value.properties).mp holds _ member data present).2
    apply PairedLists.forall_seconds ProperContents writes.elements
    intro element isElement elementPart encoded
    exact (emits _ member ((sound_iff fields).mp sound _ member) (dataHolds element isElement)
      tagForm encoded).contents

end TlvFields

namespace AnySchema

variable {element : TlvElement} {elements rest stream : TlvStream} {tag : Option TlvTag}

theorem encodeTlvInternal_assigned (noTag : element.tag = none) :
    encodeTlvInternal (element :: rest) tag = encodeElements ({ element with tag } :: rest) := by
  rw [encodeTlvInternal, noTag]
  cases tag with
  | none => rfl
  | some tag => rfl

theorem proper_passedOn (wellFormed : element.WellFormed) (readable : element.Readable) :
    (passedOn element).Proper := by
  refine ⟨?_, ?_, (writable_passedOn wellFormed).2.2⟩
  · rw [passedOn]
    split
    · exact wellFormed
    · rename_i noValue
      exact wellFormed_of_noValue wellFormed.known noValue wellFormed.tag
  · rw [passedOn]
    split
    · exact readable
    · exact readable

theorem typeLength_passedOn (element : TlvElement) :
    (passedOn element).typeLength = element.typeLength := by
  rw [passedOn]
  split <;> rfl

theorem tag_passedOn (element : TlvElement) : (passedOn element).tag = element.tag := by
  rw [passedOn]
  split <;> rfl

theorem encodeTlvInternal_eq (holds : Holds (element :: rest)) (tagForm : ProperTag tag) :
    encodeTlvInternal (element :: rest) tag =
      .ok (({ element with tag } :: rest).map passedOn) := by
  have wellFormed := holds.wellFormed
  rw [List.forall_mem_cons] at wellFormed
  rw [encodeTlvInternal_assigned (holds.noTag element rfl)]
  apply encodeElements_eq
  rw [List.forall_mem_cons]
  exact ⟨wellFormed_withTag wellFormed.1 fun present isPresent => (tagForm present isPresent).1,
    wellFormed.2⟩

theorem emits (holds : Holds elements) (tagForm : ProperTag tag)
    (run : encodeTlvInternal elements tag = .ok stream) : Emits tag stream := by
  rcases holds.nested.exists_cons with ⟨element, rest, rfl⟩
  have wellFormed := holds.wellFormed
  have readable := holds.readable
  rw [List.forall_mem_cons] at wellFormed readable
  rw [encodeTlvInternal_eq holds tagForm] at run
  cases run
  refine ⟨(wellNested_withTag holds.nested tag).map typeLength_passedOn, ?_, ?_⟩
  · intro first isFirst
    cases isFirst
    exact tag_passedOn _
  · rw [List.forall_mem_map, List.forall_mem_cons]
    refine ⟨proper_passedOn ?_ ?_, ?_⟩
    · exact wellFormed_withTag wellFormed.1 fun present isPresent => (tagForm present isPresent).1
    · exact fun present isPresent => (tagForm present isPresent).2
    · exact fun other member => proper_passedOn (wellFormed.2 other member)
        (readable.2 other member)

end AnySchema

namespace TlvSchema

variable {options : TlvEncodingOptions} {value : TlvValue} {tag : Option TlvTag}
  {stream : TlvStream}

theorem encodeTlvInternal_nullable {schema : TlvSchema} (notNull : value ≠ .null) :
    (TlvSchema.nullable schema).encodeTlvInternal options value tag =
      schema.encodeTlvInternal options value tag := by
  cases value with
  | null => exact absurd rfl notNull
  | number | boolean | string | bytes | array | object | stream => rfl

theorem encodeTlvInternal_array {elementSchema : TlvSchema} {minLength maxLength : Nat}
    (run : (TlvSchema.array elementSchema minLength maxLength).encodeTlvInternal options value
      tag = .ok stream) :
    ∃ elements parts, value = .array elements ∧
      List.Forall₂ (fun element part =>
        elementSchema.encodeTlvInternal options element none = .ok part) elements parts ∧
      stream = { tag, typeLength := .array, value := none } :: (parts.flatten ++
        [{ tag := none, typeLength := .endOfContainer, value := none }]) := by
  cases value with
  | array elements =>
    rcases bind_eq_ok_iff.mp run with ⟨parts, encoded, whole⟩
    exact ⟨elements, parts, rfl, mapM_eq_ok_iff.mp encoded, (Except.ok.inj whole).symm⟩
  | number | boolean | string | bytes | null | object | stream => cases run

theorem encodeTlvInternal_object {fields : TlvFields} {type : TlvObjectType} {allowed : Bool}
    (nodup : fields.names.Nodup)
    (run : (TlvSchema.object fields type allowed).encodeTlvInternal options value tag =
      .ok stream) :
    ∃ parts, List.Forall₂ (fields.Encodes options value) (fields.order type value) parts ∧
      stream = { tag, typeLength := type.typeLength, value := none } :: (parts.flatten ++
        [{ tag := none, typeLength := .endOfContainer, value := none }]) := by
  cases type with
  | struct =>
    rcases bind_eq_ok_iff.mp run with ⟨contents, encoded, whole⟩
    rcases TlvFields.encodes_struct nodup encoded with ⟨parts, related, rfl⟩
    exact ⟨parts, related, (Except.ok.inj whole).symm⟩
  | list =>
    rcases bind_eq_ok_iff.mp run with ⟨contents, encoded, whole⟩
    rcases TlvFields.encodes_list nodup encoded with ⟨parts, related, rfl⟩
    exact ⟨parts, related, (Except.ok.inj whole).symm⟩

theorem emits {schema : TlvSchema} (sound : schema.Sound) (holds : schema.Holds value)
    (tagForm : ProperTag tag)
    (run : schema.encodeTlvInternal options value tag = .ok stream) : Emits tag stream := by
  induction schema using TlvSchema.induction generalizing value tag stream with
  | numeric schema =>
    cases value with
    | number number =>
      have fits := holds number rfl
      rw [TlvNumericSchema.Holds] at fits
      rw [encodeTlvInternal, TlvNumericSchema.encodeTlvInternal] at run
      cases isType : schema.type with
      | unsignedInt lengthProvider =>
        simp only [isType] at run fits
        cases run
        exact emits_value tagForm trivial trivial trivial fits
      | signedInt lengthProvider =>
        simp only [isType] at run fits
        cases run
        exact emits_value tagForm trivial trivial trivial fits
      | float lengthProvider format =>
        simp only [isType] at run
        cases run
        exact emits_value tagForm trivial trivial trivial (format.toBits_lt _ _)
    | boolean | string | bytes | null | array | object | stream => cases run
  | string schema =>
    rw [encodeTlvInternal, StringSchema.encodeTlvInternal] at run
    cases isLength : schema.lengthOf value with
    | none =>
      rw [isLength] at run
      cases run
    | some length =>
      rw [isLength] at run
      cases run
      have fits := (holds length isLength).1
      cases isType : schema.type with
      | byteString =>
        rw [isType] at fits
        exact emits_value tagForm trivial trivial trivial fits
      | utf8String =>
        rw [isType] at fits
        exact emits_value tagForm trivial trivial trivial fits
  | boolean =>
    cases value with
    | boolean value =>
      cases run
      exact emits_noValue tagForm trivial id trivial
    | number | string | bytes | null | array | object | stream => cases run
  | nullable schema induction =>
    by_cases isNull : value = .null
    · subst isNull
      cases run
      exact emits_noValue tagForm trivial id trivial
    · rw [encodeTlvInternal_nullable isNull] at run
      exact induction sound (holds.resolve_left isNull).1 tagForm run
  | array elementSchema minLength maxLength induction =>
    rcases encodeTlvInternal_array run with ⟨elements, parts, rfl, related, rfl⟩
    have contents : ProperContents parts.flatten := by
      apply ProperContents.flatten
      apply PairedLists.forall_seconds ProperContents related
      intro element member part encoded
      exact (induction sound (holds elements rfl element member) properTag_none encoded).contents
    exact emits_container tagForm trivial id trivial contents
  | object fields type allowed induction =>
    rcases sound with ⟨nodup, _, oneByte, fieldsSound⟩
    rcases encodeTlvInternal_object nodup run with ⟨parts, related, rfl⟩
    have contents : ProperContents parts.flatten := by
      apply ProperContents.flatten
      apply PairedLists.forall_seconds ProperContents related
      intro name _ part encodes
      exact encodes.contents fieldsSound oneByte holds.2 induction
    cases type with
    | struct => exact emits_container tagForm trivial id trivial contents
    | list => exact emits_container tagForm trivial id trivial contents
  | any =>
    cases value with
    | stream elements => exact AnySchema.emits (holds elements rfl) tagForm run
    | number | boolean | string | bytes | null | array | object => cases run
  | wrapper underlyingSchema wrap unwrap induction =>
    exact induction sound.1 holds tagForm run

end TlvSchema

end MatterJs.Types
