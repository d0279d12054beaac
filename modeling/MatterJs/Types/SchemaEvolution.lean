import MatterJs.Types.SchemaReading
import MatterJs.Types.SchemaValidation

/-! Schemas that gained fields: what was written with the newer schema is read with the
older one as its projection to the older fields. -/

namespace MatterJs.Types

open General ByteOrder Consumption
open DataReader (source)
open TlvCodec

namespace ObjectSchema

abbrev Projector := String × (TlvValue → TlvValue)

def projected (projectors : List Projector) (value : TlvValue) (name : String) :
    Option TlvValue := do
  let data ← value.properties.lookup name
  let project ← projectors.lookup name
  return project data

def projectedProperties (projectors : List Projector) (names : List String)
    (value : TlvValue) : Properties :=
  names.filterMap fun name => (projected projectors value name).map fun data => (name, data)

end ObjectSchema

mutual
/-- What a schema keeps of a value: the fields it knows, those of a structure in the order
of their definitions. Empty values count as null where the schema handles them so. -/
def TlvSchema.project : TlvSchema → TlvValue → TlvValue
  | .numeric _, value | .string _, value | .boolean, value => value
  | .nullable schema, value =>
    match value with
    | .null => .null
    | value =>
      if schema.emptyAsNull (schema.project value) then .null else schema.project value
  | .array elementSchema _ _, value =>
    match value with
    | .array elements => .array (elements.map fun element => elementSchema.project element)
    | value => value
  | .object fieldDefinitions type _, value =>
    let projectors := fieldDefinitions.projectors
    let names :=
      match type with
      | .struct => projectors.map Prod.fst
      | .list => value.properties.map Prod.fst
    .object (ObjectSchema.projectedProperties projectors names value)
  | .any, value =>
    match value with
    | .stream elements => .stream (elements.map TlvElement.filled)
    | value => value
  | .wrapper underlyingSchema wrap unwrap, value =>
    unwrap (underlyingSchema.project (wrap value))

def TlvFields.projectors : TlvFields → List ObjectSchema.Projector
  | .nil => []
  | .cons name field schema rest =>
    (name, ObjectSchema.projectField field.repeated fun data => schema.project data) ::
      rest.projectors
end

/-- The fields of the second list are those of the first, with others in between. The
schemas of fields that were there are related. -/
inductive FieldsExtend (related : TlvSchema → TlvSchema → Prop) : TlvFields → TlvFields → Prop
  | nil : FieldsExtend related .nil .nil
  | kept {name : String} {field : FieldType} {schema newer : TlvSchema}
      {fields newerFields : TlvFields} :
      related schema newer → FieldsExtend related fields newerFields →
      FieldsExtend related (.cons name field schema fields) (.cons name field newer newerFields)
  | added {name : String} {field : FieldType} {newer : TlvSchema}
      {fields newerFields : TlvFields} :
      FieldsExtend related fields newerFields →
      FieldsExtend related fields (.cons name field newer newerFields)

/-- The second schema is the first one with fields added to its objects, at any depth. -/
inductive Extends : TlvSchema → TlvSchema → Prop
  | numeric {schema : TlvNumericSchema} : Extends (.numeric schema) (.numeric schema)
  | string {schema : StringSchema} : Extends (.string schema) (.string schema)
  | boolean : Extends .boolean .boolean
  | nullable {schema newer : TlvSchema} :
      Extends schema newer → Extends (.nullable schema) (.nullable newer)
  | array {schema newer : TlvSchema} {minLength maxLength : Nat} :
      Extends schema newer →
      Extends (.array schema minLength maxLength) (.array newer minLength maxLength)
  | object {fields newerFields : TlvFields} {type : TlvObjectType} {allowed : Bool} :
      FieldsExtend Extends fields newerFields →
      Extends (.object fields type allowed) (.object newerFields type allowed)
  | any : Extends .any .any
  | wrapper {schema newer : TlvSchema} {wrap unwrap : TlvValue → TlvValue} :
      Extends schema newer → Extends (.wrapper schema wrap unwrap) (.wrapper newer wrap unwrap)

theorem FieldsExtend.refl {related : TlvSchema → TlvSchema → Prop} {fields : TlvFields}
    (same : ∀ entry ∈ fields.entries, related entry.2.2 entry.2.2) :
    FieldsExtend related fields fields := by
  induction fields using TlvFields.induction with
  | nil => exact .nil
  | cons name field schema rest induction =>
    rw [TlvFields.entries, List.forall_mem_cons] at same
    exact .kept same.1 (induction same.2)

theorem Extends.refl (schema : TlvSchema) : Extends schema schema := by
  induction schema using TlvSchema.induction with
  | numeric => exact .numeric
  | string => exact .string
  | boolean => exact .boolean
  | nullable schema induction => exact .nullable induction
  | array schema minLength maxLength induction => exact .array induction
  | object fields type allowed induction => exact .object (FieldsExtend.refl induction)
  | any => exact .any
  | wrapper schema wrap unwrap induction => exact .wrapper induction

namespace FieldsExtend

variable {related : TlvSchema → TlvSchema → Prop} {fields newerFields : TlvFields}

variable (extend : FieldsExtend related fields newerFields)

include extend

theorem names_sublist :
    fields.names.Sublist newerFields.names := by
  induction extend with
  | nil => exact List.Sublist.refl _
  | kept _ _ induction => exact induction.cons_cons _
  | added _ induction => exact induction.cons _

theorem ids_sublist :
    fields.ids.Sublist newerFields.ids := by
  induction extend with
  | nil => exact List.Sublist.refl _
  | kept _ _ induction => exact induction.cons_cons _
  | added _ induction => exact induction.cons _

theorem newer_of_mem {entry : String × FieldType × TlvSchema} (member : entry ∈ fields.entries) :
    ∃ newer, (entry.1, entry.2.1, newer) ∈ newerFields.entries ∧ related entry.2.2 newer := by
  induction extend with
  | nil => cases member
  | kept isRelated _ induction =>
    rcases List.mem_cons.mp member with rfl | later
    · exact ⟨_, List.mem_cons_self, isRelated⟩
    · rcases induction later with ⟨newer, isNewer, related⟩
      exact ⟨newer, List.mem_cons_of_mem _ isNewer, related⟩
  | added _ induction =>
    rcases induction member with ⟨newer, isNewer, related⟩
    exact ⟨newer, List.mem_cons_of_mem _ isNewer, related⟩

theorem newer_of_lookup
    (nodup : newerFields.names.Nodup) {name : String} {field : FieldType} {schema : TlvSchema}
    (found : fields.entries.lookup name = some (field, schema)) :
    ∃ newer, newerFields.entries.lookup name = some (field, newer) ∧ related schema newer := by
  rcases extend.newer_of_mem (OrderedMap.mem_of_lookup found) with ⟨newer, isNewer, related⟩
  exact ⟨newer, OrderedMap.lookup_of_mem nodup isNewer, related⟩

theorem newer_of_name {name : String} (member : name ∈ fields.names) : name ∈ newerFields.names :=
  extend.names_sublist.subset member

theorem id_ne_of_new
    (nodupIds : newerFields.ids.Nodup) {name : String} {field : FieldType} {newer : TlvSchema}
    (isNewer : (name, field, newer) ∈ newerFields.entries)
    (notFound : fields.entries.lookup name = none) :
    ∀ entry ∈ fields.entries, entry.2.1.id ≠ field.id := by
  intro entry member sameId
  rcases extend.newer_of_mem member with ⟨other, isOther, _⟩
  have same := List.inj_on_of_nodup_map nodupIds isOther isNewer sameId
  have sameName : entry.1 = name := congrArg Prod.fst same
  have new := List.lookup_eq_none_iff.mp notFound entry member
  simp [sameName] at new

end FieldsExtend

theorem TlvFields.lookup_projectors (fields : TlvFields) (name : String) :
    fields.projectors.lookup name = (fields.entries.lookup name).map fun entry =>
      ObjectSchema.projectField entry.1.repeated fun data => entry.2.project data := by
  have asMap : fields.projectors = fields.entries.map fun entry =>
      (entry.1, ObjectSchema.projectField entry.2.1.repeated
        fun data => entry.2.2.project data) := by
    induction fields using TlvFields.induction with
    | nil => rfl
    | cons name field schema rest induction =>
      rw [projectors, induction]
      rfl
  rw [asMap]
  exact OrderedMap.lookup_map (fun _ (entry : FieldType × TlvSchema) =>
    ObjectSchema.projectField entry.1.repeated fun data => entry.2.project data)
    fields.entries name

/-! ## Reading with the older schema -/

theorem streamBytes_length_le_of_mem {parts : List TlvStream} {part : TlvStream}
    (member : part ∈ parts) :
    (streamBytes part).length ≤ (streamBytes parts.flatten).length := by
  rcases List.append_of_mem member with ⟨before, after, rfl⟩
  rw [List.flatten_append, List.flatten_cons, streamBytes_append, streamBytes_append,
    List.length_append, List.length_append]
  omega

def ReadsNewer (fuel : Nat) (newer : TlvSchema) : Prop :=
  ∀ {schema : TlvSchema} {value : TlvValue} {tag : Option TlvTag} {stream : TlvStream},
    Extends schema newer → newer.Sound → newer.Holds value → ProperTag tag →
    newer.encodeTlvInternal .none value tag = .ok stream →
    (streamBytes stream).length ≤ fuel →
    ReadsBehindTag (schema.decodeTlvInternalValue TlvByteArrayReader fuel) stream
      (schema.project value)

namespace ObjectSchema

variable {projectors : List Projector} {name : String} {names : List String}

theorem projected_of_new (new : projectors.lookup name = none) (value : TlvValue) :
    projected projectors value name = none := by
  rw [projected, new]
  cases value.properties.lookup name <;> rfl

theorem projected_of_missing {value : TlvValue} (missing : value.properties.lookup name = none)
    (projectors : List Projector) : projected projectors value name = none := by
  rw [projected, missing]
  rfl

theorem projectedProperties_cons (projectors : List Projector) (name : String)
    (names : List String) (value : TlvValue) :
    projectedProperties projectors (name :: names) value =
      projectedProperties projectors [name] value ++
        projectedProperties projectors names value := by
  rw [projectedProperties, ← List.singleton_append, List.filterMap_append]
  rfl

theorem projectedProperties_of_none {value : TlvValue}
    (none : ∀ name ∈ names, projected projectors value name = none) :
    projectedProperties projectors names value = [] := by
  rw [projectedProperties, List.filterMap_eq_nil_iff]
  intro name member
  rw [none name member]
  rfl

theorem mem_projectedProperties {value : TlvValue}
    (member : name ∈ (projectedProperties projectors names value).map Prod.fst) : name ∈ names := by
  rcases List.mem_map.mp member with ⟨property, isProperty, rfl⟩
  rcases List.mem_filterMap.mp isProperty with ⟨name, isName, made⟩
  rcases Option.map_eq_some_iff.mp made with ⟨data, _, rfl⟩
  exact isName

theorem lookup_projectedProperties (projectors : List Projector) (names : List String)
    (value : TlvValue) (name : String) :
    (projectedProperties projectors names value).lookup name =
      if name ∈ names then projected projectors value name else none := by
  induction names with
  | nil => rfl
  | cons first names induction =>
    rw [projectedProperties_cons, List.lookup_append, induction]
    by_cases same : name = first
    · subst same
      cases found : projected projectors value name with
      | none => simp [projectedProperties, found]
      | some data => simp [projectedProperties, found]
    · have different : (name == first) = false := by simpa using same
      cases found : projected projectors value first with
      | none => simp [projectedProperties, found, same]
      | some data => simp [projectedProperties, found, same, List.lookup_cons, different]

theorem projectedProperties_sublist {value : TlvValue} {moreNames : List String}
    (sublist : names.Sublist moreNames) (nodup : moreNames.Nodup)
    (none : ∀ name ∈ moreNames, name ∉ names → projected projectors value name = none) :
    projectedProperties projectors moreNames value =
      projectedProperties projectors names value := by
  induction sublist with
  | slnil => rfl
  | cons name sublist induction =>
    rw [List.nodup_cons] at nodup
    rw [List.forall_mem_cons] at none
    have nothing := none.1 fun member => nodup.1 (sublist.subset member)
    rw [projectedProperties_cons, induction nodup.2 none.2,
      projectedProperties_of_none (List.forall_mem_singleton.mpr nothing), List.nil_append]
  | @cons_cons fewer more name sublist induction =>
    rw [List.nodup_cons] at nodup
    rw [List.forall_mem_cons] at none
    rw [projectedProperties_cons projectors name more,
      projectedProperties_cons projectors name fewer, induction nodup.2]
    intro other member notFirst
    apply none.2 other member
    rw [List.mem_cons, not_or]
    refine ⟨?_, notFirst⟩
    rintro rfl
    exact nodup.1 member

theorem fillMissing_eq {fields : List (String × FieldType)} {result : Properties}
    (present : ∀ entry ∈ fields, entry.2.optional = false → (result.lookup entry.1).isSome) :
    fillMissing fields result = result := by
  induction fields with
  | nil => rfl
  | cons entry fields induction =>
    rw [List.forall_mem_cons] at present
    rw [fillMissing]
    split
    · rename_i mandatory missing _
      have found := present.1 mandatory
      rw [missing] at found
      cases found
    · exact induction present.2

end ObjectSchema

theorem TlvFields.nodup_order {fields : TlvFields} (nodup : fields.names.Nodup)
    {value : TlvValue} (nodupProperties : (value.properties.map Prod.fst).Nodup)
    (type : TlvObjectType) : (fields.order type value).Nodup := by
  cases type with
  | struct => exact nodup
  | list =>
    apply nodupProperties.append (nodup.filter _)
    intro name isProperty isMissing
    simpa [isProperty] using List.of_mem_filter isMissing

theorem TlvFields.names_subset_order (fields : TlvFields) (type : TlvObjectType)
    (value : TlvValue) : fields.names ⊆ fields.order type value := by
  intro name member
  cases type with
  | struct => exact member
  | list =>
    rw [order, List.mem_append]
    by_cases isProperty : name ∈ value.properties.map Prod.fst
    · exact .inl isProperty
    · exact .inr (List.mem_filter.mpr ⟨member, by simpa using isProperty⟩)

section Objects

variable {fields newerFields : TlvFields} {value : TlvValue} {fuel : Nat}
  {type : TlvObjectType} {allowed : Bool}
  (extend : FieldsExtend Extends fields newerFields)
  (sound : (TlvSchema.object newerFields type allowed).Sound)
  (holds : newerFields.Holds value.properties)
  (reads : ∀ entry ∈ newerFields.entries, ReadsNewer fuel entry.2.2)

include extend sound holds reads

theorem rounds_field {name : String} {part : TlvStream}
    (encodes : newerFields.Encodes .none value name part)
    (enough : (streamBytes part).length ≤ fuel) {result : ObjectSchema.Properties}
    (new : name ∉ result.map Prod.fst) :
    Rounds (source .little)
      (ObjectSchema.decodeElement TlvByteArrayReader fuel
        (fields.fieldDecoders TlvByteArrayReader fuel) allowed)
      result (streamBytes part)
      (result ++ ObjectSchema.projectedProperties fields.projectors [name] value) := by
  rcases sound with ⟨nodupNames, nodupIds, oneByte, newerSound⟩
  rcases encodes with ⟨field, newer, found, run⟩
  have member := OrderedMap.mem_of_lookup found
  rcases ObjectSchema.encodeEntryToTlv_cases run with
    ⟨missing, rfl, _⟩ | ⟨data, parts, present, writes, rfl⟩
  · have nothing : ObjectSchema.projectedProperties fields.projectors [name] value = [] :=
      ObjectSchema.projectedProperties_of_none
        (List.forall_mem_singleton.mpr (ObjectSchema.projected_of_missing missing _))
    rw [nothing, List.append_nil]
    exact .nil
  · have tagForm : ProperTag (fieldTag field) :=
      properTag_fieldTag (oneByte _ (List.mem_map.mpr ⟨_, member, rfl⟩))
    have newerSound := (TlvFields.sound_iff newerFields).mp newerSound _ member
    rcases (TlvFields.holds_iff newerFields value.properties).mp holds _ member data present with
      ⟨notEmpty, dataHolds⟩
    cases known : fields.entries.lookup name with
    | none =>
      have nothing : ObjectSchema.projectedProperties fields.projectors [name] value = [] := by
        apply ObjectSchema.projectedProperties_of_none
        rw [List.forall_mem_singleton]
        apply ObjectSchema.projected_of_new
        rw [TlvFields.lookup_projectors, known]
        rfl
      rw [nothing, List.append_nil]
      apply ObjectSchema.rounds_unknown
        (TlvFields.fieldById_eq_none (extend.id_ne_of_new nodupIds member known)) _ enough
      apply PairedLists.forall_seconds (Emits (fieldTag field)) writes.elements
      intro element isElement elementPart encoded
      exact TlvSchema.emits newerSound (dataHolds element isElement) tagForm encoded
    | some entry =>
      rcases extend.newer_of_lookup nodupNames known with ⟨other, otherFound, isNewer⟩
      rw [found] at otherFound
      cases otherFound
      have single : ObjectSchema.projectedProperties fields.projectors [name] value =
          [(name, ObjectSchema.projectField entry.1.repeated
            (fun data => entry.2.project data) data)] := by
        simp [ObjectSchema.projectedProperties, ObjectSchema.projected, present,
          TlvFields.lookup_projectors, known]
      rw [single]
      apply ObjectSchema.rounds_known new
        (TlvFields.fieldById_eq_some (extend.ids_sublist.nodup nodupIds) known)
        writes.isArray notEmpty
      apply PairedLists.imp_of_mem writes.elements
      intro element isElement elementPart isPart encoded
      have shorter := streamBytes_length_le_of_mem isPart
      exact ⟨TlvSchema.emits newerSound (dataHolds element isElement) tagForm encoded,
        reads _ member isNewer newerSound (dataHolds element isElement) tagForm encoded (by omega)⟩

theorem rounds_fields {names : List String} {parts : List TlvStream}
    (encodes : List.Forall₂ (newerFields.Encodes .none value) names parts)
    (nodup : names.Nodup) (enough : (streamBytes parts.flatten).length ≤ fuel)
    {result : ObjectSchema.Properties}
    (new : ∀ name ∈ names, name ∉ result.map Prod.fst) :
    Rounds (source .little)
      (ObjectSchema.decodeElement TlvByteArrayReader fuel
        (fields.fieldDecoders TlvByteArrayReader fuel) allowed)
      result (streamBytes parts.flatten)
      (result ++ ObjectSchema.projectedProperties fields.projectors names value) := by
  induction encodes generalizing result with
  | nil =>
    rw [ObjectSchema.projectedProperties_of_none (by simp), List.append_nil]
    exact .nil
  | @cons name part names parts head _ induction =>
    rw [List.forall_mem_cons] at new
    rw [List.nodup_cons] at nodup
    rw [List.flatten_cons, streamBytes_append, List.length_append] at enough
    rw [List.flatten_cons, streamBytes_append, ObjectSchema.projectedProperties_cons,
      ← List.append_assoc]
    apply Rounds.append (rounds_field extend sound holds reads head (by omega) new.1)
    apply induction nodup.2 (by omega)
    intro other isOther
    rw [List.map_append, List.mem_append, not_or]
    refine ⟨new.2 other isOther, ?_⟩
    intro member
    have same := List.mem_singleton.mp (ObjectSchema.mem_projectedProperties member)
    exact nodup.1 (same ▸ isOther)

end Objects

theorem TlvFields.map_fst_projectors (fields : TlvFields) :
    fields.projectors.map Prod.fst = fields.names := by
  induction fields using TlvFields.induction with
  | nil => rfl
  | cons name field schema rest induction =>
    rw [projectors, List.map_cons, induction]
    rfl

theorem projected_of_unknown {fields : TlvFields} {name : String} (unknown : name ∉ fields.names)
    (value : TlvValue) : ObjectSchema.projected fields.projectors value name = none := by
  apply ObjectSchema.projected_of_new
  exact OrderedMap.lookup_of_new (fields.map_fst_projectors ▸ unknown)

theorem projected_of_known {fields : TlvFields} {name : String} {entry : FieldType × TlvSchema}
    (known : fields.entries.lookup name = some entry) (value : TlvValue) :
    ObjectSchema.projected fields.projectors value name =
      (value.properties.lookup name).map (ObjectSchema.projectField entry.1.repeated
        fun data => entry.2.project data) := by
  rw [ObjectSchema.projected, TlvFields.lookup_projectors, known]
  cases value.properties.lookup name <;> rfl

theorem projectedProperties_order {fields newerFields : TlvFields}
    (extend : FieldsExtend Extends fields newerFields) (nodup : newerFields.names.Nodup)
    (type : TlvObjectType) (value : TlvValue) (allowed : Bool) :
    .object (ObjectSchema.projectedProperties fields.projectors (newerFields.order type value)
      value) = (TlvSchema.object fields type allowed).project value := by
  cases type with
  | struct =>
    apply congrArg TlvValue.object
    rw [TlvFields.map_fst_projectors]
    apply ObjectSchema.projectedProperties_sublist extend.names_sublist nodup
    exact fun name _ unknown => projected_of_unknown unknown value
  | list =>
    rw [TlvFields.order, ObjectSchema.projectedProperties, List.filterMap_append]
    have nothing : ObjectSchema.projectedProperties fields.projectors
        (newerFields.names.filter (· ∉ value.properties.map Prod.fst)) value = [] := by
      apply ObjectSchema.projectedProperties_of_none
      intro name member
      apply ObjectSchema.projected_of_missing
      exact OrderedMap.lookup_of_new (by simpa using List.of_mem_filter member)
    rw [ObjectSchema.projectedProperties] at nothing
    rw [nothing, List.append_nil]
    rfl

theorem projected_isSome_of_mandatory {fields newerFields : TlvFields} {value : TlvValue}
    {type : TlvObjectType} {parts : List TlvStream}
    (extend : FieldsExtend Extends fields newerFields) (nodup : newerFields.names.Nodup)
    (encodes : List.Forall₂ (newerFields.Encodes .none value) (newerFields.order type value) parts)
    {entry : String × FieldType × TlvSchema} (member : entry ∈ fields.entries)
    (mandatory : entry.2.1.optional = false) :
    (ObjectSchema.projected fields.projectors value entry.1).isSome := by
  have known := OrderedMap.lookup_of_mem (extend.names_sublist.nodup nodup) member
  have isName : entry.1 ∈ newerFields.names :=
    extend.newer_of_name (List.mem_map_of_mem member)
  rcases PairedLists.exists_second encodes
    (newerFields.names_subset_order type value isName) with ⟨part, field, newer, found, run⟩
  rcases extend.newer_of_lookup nodup known with ⟨other, otherFound, _⟩
  rw [found] at otherFound
  cases otherFound
  rcases ObjectSchema.encodeEntryToTlv_cases run with
    ⟨_, _, optional⟩ | ⟨data, _, present, _, _⟩
  · rw [optional rfl] at mandatory
    cases mandatory
  · rw [projected_of_known known, present]
    rfl

theorem reads_object {fields newerFields : TlvFields} {value : TlvValue} {fuel : Nat}
    {type : TlvObjectType} {allowed : Bool} {tag : Option TlvTag} {parts : List TlvStream}
    (extend : FieldsExtend Extends fields newerFields)
    (sound : (TlvSchema.object newerFields type allowed).Sound)
    (holds : (TlvSchema.object newerFields type allowed).Holds value)
    (reads : ∀ entry ∈ newerFields.entries, ReadsNewer fuel entry.2.2)
    (encodes : List.Forall₂ (newerFields.Encodes .none value) (newerFields.order type value) parts)
    (enough : (streamBytes parts.flatten).length < fuel) :
    ReadsBehindTag
      ((TlvSchema.object fields type allowed).decodeTlvInternalValue TlvByteArrayReader fuel)
      ({ tag, typeLength := type.typeLength, value := none } :: (parts.flatten ++
        [{ tag := none, typeLength := .endOfContainer, value := none }]))
      ((TlvSchema.object fields type allowed).project value) := by
  have nodup := sound.1
  refine ⟨_, _, rfl, ?_⟩
  rw [TlvSchema.decodeTlvInternalValue, ObjectSchema.decodeTlvInternalValue, if_pos rfl,
    streamBytes_append, ← projectedProperties_order extend nodup type value allowed]
  have complete : ObjectSchema.fillMissing
      ((fields.fieldDecoders TlvByteArrayReader fuel).map fun decoder =>
        (decoder.name, decoder.field))
      (ObjectSchema.projectedProperties fields.projectors (newerFields.order type value) value) =
      ObjectSchema.projectedProperties fields.projectors (newerFields.order type value)
        value := by
    apply ObjectSchema.fillMissing_eq
    rw [TlvFields.fieldDecoders_eq, List.map_map, List.forall_mem_map]
    intro entry member mandatory
    rw [ObjectSchema.lookup_projectedProperties, if_pos]
    · exact projected_isSome_of_mandatory extend nodup encodes member mandatory
    · exact newerFields.names_subset_order type value
        (extend.newer_of_name (List.mem_map_of_mem member))
  rw [← complete]
  apply Reads.map fun result => TlvValue.object (ObjectSchema.fillMissing
    ((fields.fieldDecoders TlvByteArrayReader fuel).map fun decoder =>
      (decoder.name, decoder.field)) result)
  apply Rounds.reads_loop _ ObjectSchema.reads_closing enough
  apply rounds_fields extend sound holds.2 reads encodes
    (TlvFields.nodup_order nodup holds.1 type) (Nat.le_of_lt enough)
  simp

/-! ## Values that are no objects -/

theorem toValue_primitiveOf {schema : StringSchema} {value : TlvValue} {length : Nat}
    (isLength : schema.lengthOf value = some length) :
    (StringSchema.primitiveOf value).toValue Nat.cast = value := by
  rcases schema with ⟨_ | _, minLength, maxLength, _⟩ <;> cases value <;> first
    | rfl
    | cases isLength

theorem project_nullable {schema : TlvSchema} {value : TlvValue} (notNull : value ≠ .null) :
    (TlvSchema.nullable schema).project value =
      if schema.emptyAsNull (schema.project value) then .null else schema.project value := by
  cases value with
  | null => exact absurd rfl notNull
  | number | boolean | string | bytes | array | object | stream => rfl

section Leaves

variable {value : TlvValue} {tag : Option TlvTag} {stream : TlvStream} {fuel : Nat}

theorem reads_numeric {schema : TlvNumericSchema} (holds : (TlvSchema.numeric schema).Holds value)
    (run : (TlvSchema.numeric schema).encodeTlvInternal .none value tag = .ok stream) :
    ReadsBehindTag ((TlvSchema.numeric schema).decodeTlvInternalValue TlvByteArrayReader fuel)
      stream value := by
  cases value with
  | number number =>
    have fits := holds number rfl
    rw [TlvNumericSchema.Holds] at fits
    rw [TlvSchema.encodeTlvInternal, TlvNumericSchema.encodeTlvInternal] at run
    have reads {typeLength : TlvTypeLength} {primitive : TlvPrimitive}
        (sameType : typeLength.type = schema.type.type) (fits : primitive.Fits typeLength)
        (sameValue : primitive.readBack.toValue (schema.ofBits typeLength) = .number number) :
        ReadsBehindTag
          ((TlvSchema.numeric schema).decodeTlvInternalValue TlvByteArrayReader fuel)
          [{ tag, typeLength, value := some primitive }] (.number number) := by
      refine ⟨_, _, rfl, ?_⟩
      rw [TlvSchema.decodeTlvInternalValue, TlvNumericSchema.decodeTlvInternalValue,
        if_pos sameType, streamBytes_nil, List.append_nil, ← sameValue]
      exact (reads_readPrimitive fits).map _
    cases isType : schema.type with
    | unsignedInt lengthProvider =>
      simp only [isType] at run fits
      cases run
      exact reads (by rw [isType]; rfl) fits rfl
    | signedInt lengthProvider =>
      simp only [isType] at run fits
      cases run
      exact reads (by rw [isType]; rfl) fits rfl
    | float lengthProvider format =>
      simp only [isType] at run fits
      cases run
      have bitsFit : (TlvPrimitive.float (format.toBits (lengthProvider number) number)).Fits
          (.float (lengthProvider number)) := format.toBits_lt _ _
      apply reads (by rw [isType]; rfl) bitsFit
      simp [TlvPrimitive.readBack, TlvPrimitive.toValue, TlvNumericSchema.ofBits, isType, fits]
  | boolean | string | bytes | null | array | object | stream => cases run

theorem reads_string {schema : StringSchema} (holds : (TlvSchema.string schema).Holds value)
    (run : (TlvSchema.string schema).encodeTlvInternal .none value tag = .ok stream) :
    ReadsBehindTag ((TlvSchema.string schema).decodeTlvInternalValue TlvByteArrayReader fuel)
      stream value := by
  rw [TlvSchema.encodeTlvInternal, StringSchema.encodeTlvInternal] at run
  cases isLength : schema.lengthOf value with
  | none =>
    rw [isLength] at run
    cases run
  | some length =>
    rw [isLength] at run
    cases run
    rcases holds length isLength with ⟨fits, sameValue⟩
    have sameType : (schema.type.typeLength (getUIntTlvLength length)).type =
        schema.type.type := by
      cases schema.type <;> rfl
    refine ⟨_, _, rfl, ?_⟩
    rw [TlvSchema.decodeTlvInternalValue, StringSchema.decodeTlvInternalValue,
      if_pos sameType, streamBytes_nil, List.append_nil]
    have reads := (reads_readPrimitive fits).map fun primitive =>
      primitive.toValue Nat.cast
    rw [sameValue, toValue_primitiveOf isLength] at reads
    exact reads

theorem readBack_eq_filled {element : TlvElement} (keepsText : element.KeepsText) :
    element.readBack = element.filled := by
  by_cases hasValue : element.typeLength.HasValue
  · cases isValue : element.value with
    | none =>
      rw [TlvElement.readBack, TlvElement.filled, if_pos hasValue, isValue, Option.map_none,
        ← isValue]
    | some value =>
      have kept : value.readBack = value :=
        (TlvElement.readBack_eq_self_iff value).mpr fun text isText =>
          keepsText text (isText ▸ isValue)
      rw [AnySchema.readBack_of_hasValue hasValue isValue, kept, TlvElement.filled,
        if_pos hasValue, ← isValue]
  · rw [AnySchema.readBack_of_noValue hasValue, TlvElement.filled, if_neg hasValue]

theorem readBack_passedOn (element : TlvElement) :
    (AnySchema.passedOn element).readBack = element.readBack := by
  rw [AnySchema.passedOn]
  split
  · rfl
  · rename_i noValue
    rw [AnySchema.readBack_of_noValue noValue, AnySchema.readBack_of_noValue]
    exact noValue

theorem reads_stream {elements : TlvStream} (holds : AnySchema.Holds elements)
    (tagForm : ProperTag tag)
    (run : AnySchema.encodeTlvInternal elements tag = .ok stream)
    (enough : (streamBytes stream).length ≤ fuel) :
    ReadsBehindTag (TlvSchema.any.decodeTlvInternalValue TlvByteArrayReader fuel)
      stream (.stream (elements.map TlvElement.filled)) := by
  have reads := (reads_any (AnySchema.emits holds tagForm run) enough).map TlvValue.stream
  rcases holds.nested.exists_cons with ⟨element, rest, rfl⟩
  have keepsText := holds.keepsText
  rw [List.forall_mem_cons] at keepsText
  rw [AnySchema.encodeTlvInternal_eq holds tagForm] at run
  cases run
  have first : ({ AnySchema.passedOn { element with tag } with tag := none } :
      TlvElement).readBack = element.filled := by
    have sameElement : ({ AnySchema.passedOn { element with tag } with tag := none } :
        TlvElement) = AnySchema.passedOn element := by
      have noTag := holds.noTag element rfl
      by_cases hasValue : element.typeLength.HasValue
      · simp [AnySchema.passedOn, if_pos hasValue, ← noTag]
      · simp [AnySchema.passedOn, if_neg hasValue, ← noTag]
    rw [sameElement, readBack_passedOn, readBack_eq_filled keepsText.1]
  have others : (rest.map AnySchema.passedOn).map TlvElement.readBack =
      rest.map TlvElement.filled := by
    rw [List.map_map]
    apply List.map_congr_left
    intro other member
    exact (readBack_passedOn other).trans (readBack_eq_filled (keepsText.2 other member))
  rw [List.map_cons, AnySchema.withoutOuterTag, List.map_cons, first, others] at reads
  exact reads

end Leaves

theorem readsNewer (fuel : Nat) (newer : TlvSchema) : ReadsNewer fuel newer := by
  induction newer using TlvSchema.induction with
  | numeric schema =>
    intro _ value tag stream extend _ holds _ run _
    cases extend
    exact reads_numeric holds run
  | string schema =>
    intro _ value tag stream extend _ holds _ run _
    cases extend
    exact reads_string holds run
  | boolean =>
    intro _ value tag stream extend _ _ _ run _
    cases extend
    cases value with
    | boolean value =>
      cases run
      exact ⟨_, _, rfl, Reads.pure _⟩
    | number | string | bytes | null | array | object | stream => cases run
  | nullable newer induction =>
    intro _ value tag stream extend sound holds tagForm run enough
    cases extend with
    | @nullable schema _ extend =>
      by_cases isNull : value = .null
      · subst isNull
        cases run
        exact ⟨_, _, rfl, Reads.pure _⟩
      · rcases holds.resolve_left isNull with ⟨holds, notNull⟩
        rw [TlvSchema.encodeTlvInternal_nullable isNull] at run
        rw [project_nullable isNull]
        rcases induction extend sound holds tagForm run enough with
          ⟨element, rest, rfl, reads⟩
        refine ⟨element, rest, rfl, ?_⟩
        rw [TlvSchema.decodeTlvInternalValue, if_neg (notNull _ _ _ run element rfl)]
        exact reads.map fun value => if schema.emptyAsNull value then .null else value
  | array newer minLength maxLength induction =>
    intro _ value tag stream extend sound holds tagForm run enough
    cases extend with
    | @array schema _ _ _ extend =>
      rcases TlvSchema.encodeTlvInternal_array run with
        ⟨elements, parts, rfl, related, rfl⟩
      rw [streamBytes_cons, List.length_append, streamBytes_append, List.length_append] at enough
      have positive := TlvElement.bytes_length_pos { tag, typeLength := .array, value := none }
      apply ArraySchema.reads_array _ (by omega)
      apply PairedLists.imp_of_mem related
      intro element isElement part isPart encoded
      have shorter := streamBytes_length_le_of_mem isPart
      have elementHolds := holds elements rfl element isElement
      have newerSound : newer.Sound := sound
      exact ⟨TlvSchema.emits newerSound elementHolds properTag_none encoded,
        induction extend newerSound elementHolds properTag_none encoded (by omega)⟩
  | object newerFields type allowed induction =>
    intro _ value tag stream extend sound holds tagForm run enough
    cases extend with
    | object extend =>
      rcases TlvSchema.encodeTlvInternal_object sound.1 run with ⟨parts, related, rfl⟩
      rw [streamBytes_cons, List.length_append, streamBytes_append, List.length_append] at enough
      have positive := TlvElement.bytes_length_pos
        { tag, typeLength := type.typeLength, value := none }
      exact reads_object extend sound holds induction related (by omega)
  | any =>
    intro _ value tag stream extend _ holds tagForm run enough
    cases extend
    cases value with
    | stream elements => exact reads_stream (holds elements rfl) tagForm run enough
    | number | boolean | string | bytes | null | array | object => cases run
  | wrapper newer wrap unwrap induction =>
    intro _ value tag stream extend sound holds tagForm run enough
    cases extend with
    | wrapper extend =>
      exact (induction extend sound.1 holds tagForm run enough).map unwrap

/-! ## Validation of projections -/

theorem property_project (fields : TlvFields) (type : TlvObjectType) (allowed : Bool)
    (value : TlvValue) (name : String) :
    ((TlvSchema.object fields type allowed).project value).property name =
      .ok (ObjectSchema.projected fields.projectors value name) := by
  cases type with
  | struct =>
    apply congrArg Except.ok
    rw [ObjectSchema.lookup_projectedProperties, TlvFields.map_fst_projectors]
    by_cases isName : name ∈ fields.names
    · exact if_pos isName
    · rw [if_neg isName, projected_of_unknown isName]
  | list =>
    apply congrArg Except.ok
    rw [ObjectSchema.lookup_projectedProperties]
    by_cases isProperty : name ∈ value.properties.map Prod.fst
    · exact if_pos isProperty
    · rw [if_neg isProperty, ObjectSchema.projected_of_missing]
      exact OrderedMap.lookup_of_new isProperty

theorem accepts_projectField {field : FieldType} {data : TlvValue}
    {validate validateNewer : TlvValue → Except MatterError Unit} {project : TlvValue → TlvValue}
    (keeps : ∀ data, validateNewer data = .ok () → validate (project data) = .ok ())
    (accepts : ObjectSchema.Accepts field validateNewer (some data)) :
    ObjectSchema.Accepts field validate
      (some (ObjectSchema.projectField field.repeated project data)) := by
  rw [ObjectSchema.Accepts] at accepts ⊢
  cases repeated : field.repeated with
  | false =>
    simp only [repeated] at accepts ⊢
    exact keeps data accepts
  | true =>
    simp only [repeated] at accepts ⊢
    rcases accepts with ⟨elements, rfl, notTooShort, notTooLong, each⟩
    refine ⟨elements.map project, rfl, by simpa using notTooShort, by simpa using notTooLong, ?_⟩
    rw [List.forall_mem_map]
    exact fun element member => keeps element (each element member)

theorem validate_project {schema newer : TlvSchema} {value : TlvValue}
    (extend : Extends schema newer) (sound : schema.Sound)
    (accepted : newer.validate value = .ok ()) :
    schema.validate (schema.project value) = .ok () := by
  induction newer using TlvSchema.induction generalizing schema value with
  | numeric | string | boolean =>
    cases extend
    exact accepted
  | nullable newer induction =>
    cases extend with
    | @nullable schema _ extend =>
      by_cases isNull : value = .null
      · rw [isNull]
        rfl
      · have inner : newer.validate value = .ok () := by
          cases value with
          | null => exact absurd rfl isNull
          | number | boolean | string | bytes | array | object | stream => exact accepted
        have kept := induction extend sound inner
        rw [project_nullable isNull]
        split
        · rfl
        · cases projected : schema.project value with
          | null => rfl
          | number | boolean | string | bytes | array | object | stream =>
            rwa [projected] at kept
  | array newer minLength maxLength induction =>
    cases extend with
    | array extend =>
      rcases ArraySchema.validate_eq_ok_iff.mp accepted with
        ⟨elements, rfl, notTooShort, notTooLong, each⟩
      apply ArraySchema.validate_eq_ok_iff.mpr
      refine ⟨_, rfl, by simpa using notTooShort, by simpa using notTooLong, ?_⟩
      rw [List.forall_mem_map]
      exact fun element member => induction extend sound (each element member)
  | object newerFields type allowed induction =>
    cases extend with
    | @object fields _ _ _ extend =>
      apply (fields.validate_eq_ok_iff _).mpr
      intro entry member
      rcases extend.newer_of_mem member with ⟨newer, isNewer, extend⟩
      rcases ObjectSchema.validateField_eq_ok_iff.mp
        ((newerFields.validate_eq_ok_iff value).mp accepted _ isNewer) with
        ⟨found, property, accepts⟩
      apply ObjectSchema.validateField_eq_ok_iff.mpr
      refine ⟨_, property_project fields type allowed value entry.1, ?_⟩
      rw [projected_of_known (OrderedMap.lookup_of_mem sound.1 member),
        TlvValue.property_eq_ok property]
      cases found with
      | none => exact accepts
      | some data =>
        have entrySound := (fields.sound_iff).mp sound.2.2.2 entry member
        exact accepts_projectField
          (fun _ accepted => induction _ isNewer extend entrySound accepted) accepts
  | any =>
    cases extend
    cases value with
    | stream elements => rfl
    | number | boolean | string | bytes | null | array | object => cases accepted
  | wrapper newer wrap unwrap induction =>
    cases extend with
    | wrapper extend => exact sound.2 _ (induction extend sound.1 accepted)

/-! ## The whole encoding -/

namespace TlvSchema

variable {schema newer : TlvSchema} {value : TlvValue} {tag : Option TlvTag}
  {stream : TlvStream} {fuel : Nat}

/-- Whatever follows the element, the reader is left where it ends. -/
theorem reads_decodeTlvInternal (emits : Emits tag stream)
    (reads : ReadsBehindTag (schema.decodeTlvInternalValue TlvByteArrayReader fuel) stream value) :
    Reads (source .little) (schema.decodeTlvInternal TlvByteArrayReader fuel)
      (streamBytes stream) (value, tag) := by
  rcases reads with ⟨element, rest, rfl, reads⟩
  rw [decodeTlvInternal]
  apply reads_element emits
  exact reads.map fun value => (value, tag)

variable {encoded : Bytes}

/-- What follows the outermost element is not looked at. -/
theorem decodeInternal_of_reads {rest : Bytes} (reads : Reads (source .little)
      (schema.decodeTlvInternal TlvByteArrayReader (encoded ++ rest).length) encoded (value, tag)) :
    schema.decodeInternal (encoded ++ rest) = .ok value := by
  rcases reads (DataReader.new (encoded ++ rest) .little) rest rfl rfl with ⟨next, run, _, _⟩
  rw [decodeInternal, run]
  rfl

theorem decode_of_decodeInternal (read : schema.decodeInternal encoded = .ok value) :
    schema.decode encoded = schema.validate value >>= fun _ => pure value := by
  rw [decode, read]
  rfl

theorem decode_of_reads (reads : Reads (source .little)
      (schema.decodeTlvInternal TlvByteArrayReader encoded.length) encoded (value, tag))
    (accepted : schema.validate value = .ok ()) : schema.decode encoded = .ok value := by
  rw [← List.append_nil encoded] at reads ⊢
  rw [decode_of_decodeInternal (decodeInternal_of_reads (by simpa using reads)), accepted]
  rfl

theorem encode_eq_ok (run : schema.encode value = .ok encoded) :
    schema.validate value = .ok () ∧ ∃ stream,
      schema.encodeTlvInternal .none value none = .ok stream ∧
      TlvByteArrayWriter.toByteArray stream = .ok encoded := by
  rcases bind_eq_ok_iff.mp run with ⟨_, accepted, run⟩
  rcases bind_eq_ok_iff.mp run with ⟨stream, encodes, written⟩
  exact ⟨accepted, stream, encodes, written⟩

theorem toByteArray_of_emits (emits : Emits tag stream) :
    TlvByteArrayWriter.toByteArray stream = .ok (streamBytes stream) :=
  toByteArray_eq fun element member => (emits.proper element member).writable

theorem decode_encode_newer (extend : Extends schema newer) (sound : schema.Sound)
    (newerSound : newer.Sound) (holds : newer.Holds value) :
    (∀ encoded, newer.encode value = .ok encoded →
      schema.decode encoded = .ok (schema.project value)) ∧
    ∀ tag stream encoded fuel, ProperTag tag →
      newer.encodeTlvInternal .none value tag = .ok stream →
      TlvByteArrayWriter.toByteArray stream = .ok encoded → encoded.length ≤ fuel →
      Reads (source .little) (schema.decodeTlvInternal TlvByteArrayReader fuel) encoded
        (schema.project value, tag) := by
  have behaves : ∀ tag stream encoded fuel, ProperTag tag →
      newer.encodeTlvInternal .none value tag = .ok stream →
      TlvByteArrayWriter.toByteArray stream = .ok encoded → encoded.length ≤ fuel →
      Reads (source .little) (schema.decodeTlvInternal TlvByteArrayReader fuel) encoded
        (schema.project value, tag) := by
    intro tag stream encoded fuel tagForm encodes written enough
    have emits := emits newerSound holds tagForm encodes
    rw [toByteArray_of_emits emits] at written
    cases written
    exact reads_decodeTlvInternal emits
      (readsNewer fuel newer extend newerSound holds tagForm encodes enough)
  refine ⟨?_, behaves⟩
  intro encoded run
  rcases encode_eq_ok run with ⟨accepted, stream, encodes, written⟩
  exact decode_of_reads (behaves none stream encoded _ properTag_none encodes written (le_refl _))
    (validate_project extend sound accepted)

end TlvSchema

namespace ObjectSchema

def levelFields : TlvFields :=
  .cons "level" (TlvField 1 none) (.numeric TlvUInt8) .nil

def newerLevelFields : TlvFields :=
  .cons "flags" (TlvField 0 none) (.array .boolean 0 10)
    (.cons "level" (TlvField 1 none) (.numeric TlvUInt8)
      (.cons "limits" (TlvOptionalField 2)
        (.object (.cons "low" (TlvField 0 none) (.nullable .boolean) .nil) .struct false) .nil))

def levelValue (level : Rat) : TlvValue :=
  .object [("level", .number level), ("flags", .array [.boolean true]),
    ("limits", .object [("low", .null)])]

theorem levelFields_extend : FieldsExtend Extends levelFields newerLevelFields :=
  .added (.kept .numeric (.added .nil))

theorem levelFields_sound : (TlvSchema.object levelFields .struct false).Sound := by
  refine ⟨by decide, by decide, by decide, ?_⟩
  simp [levelFields, TlvFields.Sound, TlvSchema.Sound]

theorem newerLevelFields_sound : (TlvSchema.object newerLevelFields .struct false).Sound := by
  refine ⟨by decide, by decide, by decide, ?_⟩
  simp [newerLevelFields, TlvFields.Sound, TlvSchema.Sound, TlvFields.names, TlvFields.ids,
    TlvFields.entries, TlvField]

theorem levelValue_holds {level : Rat} (holds : TlvUInt8.Holds level) :
    (TlvSchema.object newerLevelFields .struct false).Holds (levelValue level) := by
  simp [newerLevelFields, levelValue, TlvValue.properties, List.lookup_cons, HoldsField,
    fieldElements, TlvField, TlvOptionalField, TlvSchema.Holds, TlvFields.Holds, holds]

theorem uint8_holds {number : Nat} (fits : number < 256) : TlvUInt8.Holds number := by
  have small : (number : Rat) ≤ 0xff := by exact_mod_cast Nat.le_of_lt_succ fits
  refine ⟨Rat.den_natCast number, ?_, ?_⟩
  · rw [Rat.num_natCast]
    exact Int.natCast_nonneg number
  · rw [Rat.num_natCast, getUIntTlvLength, if_pos small]
    exact_mod_cast fits

end ObjectSchema

end MatterJs.Types
