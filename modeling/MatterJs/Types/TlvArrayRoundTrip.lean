import MatterJs.Types.StructuredRoundTrip
import MatterJs.Types.TlvArrayReader

/-! Values that are written as elements and read back from them. -/

namespace MatterJs.Types

open General

namespace TlvSchema

/-! ## What is written keeps its text -/

def KeepText (stream : TlvStream) : Prop :=
  ∀ element ∈ stream, element.KeepsText

theorem keepsText_of_noValue {element : TlvElement} (noValue : element.value = none) :
    element.KeepsText := by
  intro text isText
  rw [noValue] at isText
  cases isText

theorem keepText_single {tag : Option TlvTag} {typeLength : TlvTypeLength} :
    KeepText [{ tag, typeLength, value := none }] :=
  List.forall_mem_singleton.mpr (keepsText_of_noValue rfl)

theorem keepText_container {tag : Option TlvTag} {typeLength : TlvTypeLength}
    {inner : TlvStream} (contents : KeepText inner) :
    KeepText ({ tag, typeLength, value := none } :: (inner ++
      [{ tag := none, typeLength := .endOfContainer, value := none }])) := by
  rw [KeepText, List.forall_mem_cons, List.forall_mem_append]
  exact ⟨keepsText_of_noValue rfl, contents, keepText_single⟩

theorem keepText_flatten {parts : List TlvStream} (each : ∀ part ∈ parts, KeepText part) :
    KeepText parts.flatten := by
  intro element member
  rcases List.mem_flatten.mp member with ⟨part, isPart, inPart⟩
  exact each part isPart element inPart

theorem keepText_passedOn {elements : TlvStream} (keep : KeepText elements) :
    KeepText (elements.map AnySchema.passedOn) := by
  rw [KeepText, List.forall_mem_map]
  intro element member
  rw [AnySchema.passedOn]
  split
  · exact keep element member
  · exact keepsText_of_noValue rfl

theorem keepText {schema : TlvSchema} {options : TlvEncodingOptions} {value : TlvValue}
    {tag : Option TlvTag} {stream : TlvStream} (sound : schema.Sound)
    (holds : schema.Holds value) (tagForm : ProperTag tag)
    (run : schema.encodeTlvInternal options value tag = .ok stream) : KeepText stream := by
  induction schema using TlvSchema.induction generalizing value tag stream with
  | numeric schema =>
    cases value with
    | number number =>
      rw [encodeTlvInternal, TlvNumericSchema.encodeTlvInternal] at run
      cases isType : schema.type with
      | unsignedInt | signedInt | float =>
        simp only [isType] at run
        cases run
        rw [KeepText, List.forall_mem_singleton]
        intro text isText
        exact TlvPrimitive.noConfusion (Option.some.inj isText)
    | boolean | string | bytes | null | array | object | stream => cases run
  | string schema =>
    rw [encodeTlvInternal, StringSchema.encodeTlvInternal] at run
    cases isLength : schema.lengthOf value with
    | none =>
      rw [isLength] at run
      cases run
    | some length =>
      rw [isLength] at run
      cases run
      rw [KeepText, List.forall_mem_singleton]
      intro text isText
      exact (TlvElement.readBack_eq_self_iff _).mp (holds length isLength).2 text
        (Option.some.inj isText)
  | boolean =>
    cases value with
    | boolean value =>
      cases run
      exact keepText_single
    | number | string | bytes | null | array | object | stream => cases run
  | nullable schema induction =>
    by_cases isNull : value = .null
    · subst isNull
      cases run
      exact keepText_single
    · rw [encodeTlvInternal_nullable isNull] at run
      exact induction sound (holds.resolve_left isNull).1 tagForm run
  | array elementSchema minLength maxLength induction =>
    rcases encodeTlvInternal_array run with ⟨elements, parts, rfl, related, rfl⟩
    apply keepText_container
    apply keepText_flatten
    apply PairedLists.forall_seconds KeepText related
    intro element member part encoded
    exact induction sound (holds elements rfl element member) properTag_none encoded
  | object fields type allowed induction =>
    rcases sound with ⟨nodup, _, oneByte, fieldsSound⟩
    rcases encodeTlvInternal_object nodup run with ⟨parts, related, rfl⟩
    apply keepText_container
    apply keepText_flatten
    apply PairedLists.forall_seconds KeepText related
    rintro name _ part ⟨field, schema, found, encoded⟩
    have member := OrderedMap.mem_of_lookup found
    rcases ObjectSchema.encodeEntryToTlv_cases encoded with
      ⟨_, rfl, _⟩ | ⟨data, elementParts, present, writes, rfl⟩
    · exact List.forall_mem_nil _
    · have dataHolds :=
        ((TlvFields.holds_iff fields value.properties).mp holds.2 _ member data present).2
      apply keepText_flatten
      apply PairedLists.forall_seconds KeepText writes.elements
      intro element isElement elementPart elementEncoded
      exact induction _ member ((TlvFields.sound_iff fields).mp fieldsSound _ member)
        (dataHolds element isElement)
        (properTag_fieldTag (oneByte _ (List.mem_map.mpr ⟨_, member, rfl⟩))) elementEncoded
  | any =>
    cases value with
    | stream elements =>
      have elementsHold := holds elements rfl
      rcases elementsHold.nested.exists_cons with ⟨element, rest, rfl⟩
      have encoded := AnySchema.encodeTlvInternal_eq elementsHold tagForm
      rw [encodeTlvInternal, encoded] at run
      cases run
      apply keepText_passedOn
      have keep := elementsHold.keepsText
      rw [List.forall_mem_cons] at keep
      exact List.forall_mem_cons.mpr keep
    | number | boolean | string | bytes | null | array | object => cases run
  | wrapper schema wrap unwrap induction => exact induction sound.1 holds tagForm run

theorem decodeTlv_encodeTlv {schema : TlvSchema} {value : TlvValue} {stream : TlvStream}
    (sound : schema.Sound) (holds : schema.Holds value)
    (run : schema.encodeTlv value .none = .ok stream) :
    schema.decodeTlv stream = .ok (schema.project value) := by
  have emits := emits sound holds properTag_none run
  have keeps := keepText sound holds properTag_none run
  apply decodeTlv_of_decodeInternal fun element member =>
    ⟨emits.proper element member, keeps element member⟩
  have reads := readsNewer (streamBytes stream).length schema (Extends.refl schema) sound holds
    properTag_none run (Nat.le_refl _)
  have decoded := @decodeInternal_of_reads schema (schema.project value) none
    (streamBytes stream) []
  rw [List.append_nil] at decoded
  exact decoded (reads_decodeTlvInternal emits reads)

/-- The value comes back from the elements it is written as, up to the order of the
properties of objects. -/
def ComesBack (schema : TlvSchema) (options : TlvEncodingOptions) (value : TlvValue) : Prop :=
  ∃ stream decoded, schema.encodeTlv value options = .ok stream ∧
    schema.decodeTlv stream = .ok decoded ∧ value.Same decoded

theorem Structured.comesBack {schema : TlvSchema} {value : TlvValue}
    (structured : schema.Structured) (accepted : schema.validate value = .ok ())
    (isExact : schema.Exact value) : schema.ComesBack .none value := by
  rcases structured.encodes accepted isExact none with ⟨stream, encodes⟩
  exact ⟨stream, schema.project value, encodes,
    decodeTlv_encodeTlv structured.sound (structured.holds accepted isExact) encodes,
    structured.same_project accepted isExact⟩

end TlvSchema

end MatterJs.Types
