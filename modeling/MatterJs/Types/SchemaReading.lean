import MatterJs.Types.SchemaElements

/-! How the decoders of schemas read complete elements, behind their outer tag. -/

namespace MatterJs.Types

open General ByteOrder Consumption
open DataReader (source)
open TlvCodec

/-- Behind the tag of the element that stands first, the decoder reads a value from exactly
the bytes of the stream. -/
def ReadsBehindTag {α : Type} (decode : TlvTypeLength → Action DataReader MatterError α)
    (stream : TlvStream) (value : α) : Prop :=
  ∃ element rest, stream = element :: rest ∧
    Reads (source .little) (decode element.typeLength)
      (element.contentBytes ++ streamBytes rest) value

theorem ReadsBehindTag.map {α β : Type} (transform : α → β) {stream : TlvStream} {value : α}
    {decode : TlvTypeLength → Action DataReader MatterError α}
    (reads : ReadsBehindTag decode stream value) :
    ReadsBehindTag (fun typeLength => decode typeLength >>= fun value => pure (transform value))
      stream (transform value) := by
  rcases reads with ⟨element, rest, rfl, reads⟩
  exact ⟨element, rest, rfl, reads.map transform⟩

theorem reads_any {tag : Option TlvTag} {stream : TlvStream} {fuel : Nat}
    (emits : Emits tag stream) (enough : (streamBytes stream).length ≤ fuel) :
    ReadsBehindTag (AnySchema.decodeTlvInternalValue TlvByteArrayReader fuel) stream
      ((AnySchema.withoutOuterTag stream).map TlvElement.readBack) := by
  rcases emits.nested.exists_cons with ⟨element, rest, rfl⟩
  have proper := emits.proper
  rw [List.forall_mem_cons] at proper
  have positive := element.bytes_length_pos
  rw [streamBytes_cons, List.length_append] at enough
  refine ⟨element, rest, rfl, ?_⟩
  have wellFormed : ∀ other ∈ { element with tag := none } :: rest, other.WellFormed :=
    List.forall_mem_cons.mpr ⟨AnySchema.wellFormed_withTag proper.1.wellFormed nofun,
      fun other member => (proper.2 other member).wellFormed⟩
  have readable : ∀ other ∈ { element with tag := none } :: rest, other.Readable :=
    List.forall_mem_cons.mpr ⟨nofun, fun other member => (proper.2 other member).readable⟩
  exact @AnySchema.reads_wellNested fuel [] _ rest
    (AnySchema.wellNested_withTag emits.nested none) wellFormed readable (by omega)

theorem reads_element {β : Type} {element : TlvElement} {tag : Option TlvTag}
    {rest : TlvStream} {body : Option TlvTag × TlvTypeLength → Action DataReader MatterError β}
    {result : β} (emits : Emits tag (element :: rest))
    (reads : Reads (source .little) (body (tag, element.typeLength))
      (element.contentBytes ++ streamBytes rest) result) :
    Reads (source .little) (readTagType >>= body) (streamBytes (element :: rest)) result := by
  have proper := emits.proper element List.mem_cons_self
  rw [← emits.outerTag element rfl] at reads
  rw [streamBytes_cons, TlvElement.bytes, List.append_assoc]
  exact (reads_tag proper.wellFormed proper.readable).bind reads

theorem reads_end {β : Type}
    {body : Option TlvTag × TlvTypeLength → Action DataReader MatterError β} {result : β}
    (last : body (none, .endOfContainer) = pure result) :
    Reads (source .little) (readTagType >>= body)
      (streamBytes [{ tag := none, typeLength := .endOfContainer, value := none }]) result := by
  have proper : ({ tag := none, typeLength := .endOfContainer, value := none } :
      TlvElement).Proper := proper_of_noValue properTag_none trivial id
  apply Reads.bind (reads_tag proper.wellFormed proper.readable)
  rw [last]
  exact Reads.pure result

theorem streamBytes_ne_nil {tag : Option TlvTag} {stream : TlvStream}
    (emits : Emits tag stream) : streamBytes stream ≠ [] := by
  rcases emits.nested.exists_cons with ⟨element, rest, rfl⟩
  have positive := element.bytes_length_pos
  intro empty
  have lengths := congrArg List.length empty
  rw [streamBytes_cons, List.length_append, List.length_nil] at lengths
  omega

namespace ArraySchema

variable {decode : TlvTypeLength → Action DataReader MatterError TlvValue}
  {result : List TlvValue} {stream : TlvStream}

theorem reads_decodeElement (emits : Emits none stream) {value : TlvValue}
    (reads : ReadsBehindTag decode stream value) :
    Reads (source .little) (decodeElement TlvByteArrayReader decode result)
      (streamBytes stream) (.yield (result ++ [value])) := by
  rcases reads with ⟨element, rest, rfl, reads⟩
  rw [decodeElement]
  apply reads_element emits
  simp only [if_neg emits.nested.head_ne_end]
  exact reads.map fun value => ForInStep.yield (result ++ [value])

theorem reads_closing :
    Reads (source .little) (decodeElement TlvByteArrayReader decode result)
      (streamBytes [{ tag := none, typeLength := .endOfContainer, value := none }])
      (.done result) := by
  exact reads_end rfl

theorem rounds {elements : List TlvValue} {parts : List TlvStream} {project : TlvValue → TlvValue}
    (reads : List.Forall₂ (fun element part =>
      Emits none part ∧ ReadsBehindTag decode part (project element)) elements parts) :
    Rounds (source .little) (decodeElement TlvByteArrayReader decode) result
      (streamBytes parts.flatten) (result ++ elements.map project) := by
  induction reads generalizing result with
  | nil =>
    rw [List.map_nil, List.append_nil]
    exact .nil
  | @cons element part elements parts head _ induction =>
    rw [List.flatten_cons, streamBytes_append, List.map_cons, List.append_cons]
    exact .cons (reads_decodeElement head.1 head.2) (streamBytes_ne_nil head.1) induction

theorem reads_array {elements : List TlvValue} {parts : List TlvStream}
    {project : TlvValue → TlvValue} {tag : Option TlvTag} {fuel : Nat}
    (reads : List.Forall₂ (fun element part =>
      Emits none part ∧ ReadsBehindTag decode part (project element)) elements parts)
    (enough : (streamBytes parts.flatten).length < fuel) :
    ReadsBehindTag (decodeTlvInternalValue TlvByteArrayReader fuel decode)
      ({ tag, typeLength := .array, value := none } :: (parts.flatten ++
        [{ tag := none, typeLength := .endOfContainer, value := none }]))
      (.array (elements.map project)) := by
  refine ⟨_, _, rfl, ?_⟩
  rw [decodeTlvInternalValue, streamBytes_append, TlvElement.contentBytes, List.nil_append]
  apply Reads.map
  exact Rounds.reads_loop (rounds reads) reads_closing enough

end ArraySchema

theorem ObjectSchema.fieldById_eq_some {State : Type} {decoders : List (FieldDecoder State)}
    (nodup : (decoders.map fun decoder => decoder.field.id).Nodup)
    {decoder : FieldDecoder State} (member : decoder ∈ decoders) :
    fieldById decoders decoder.field.id = some decoder := by
  rw [fieldById]
  cases search : decoders.reverse.find? fun other => other.field.id = decoder.field.id with
  | none =>
    rw [List.find?_eq_none] at search
    simpa using search decoder (List.mem_reverse.mpr member)
  | some other =>
    have sameId : other.field.id = decoder.field.id := by simpa using List.find?_some search
    have otherMember := List.mem_reverse.mp (List.mem_of_find?_eq_some search)
    rw [List.inj_on_of_nodup_map nodup otherMember member sameId]

namespace TlvFields

variable {State : Type} {reader : TlvReader State} {fuel : Nat} {fields : TlvFields}

theorem fieldById_eq_some {name : String} {field : FieldType} {schema : TlvSchema}
    (nodup : fields.ids.Nodup) (found : fields.entries.lookup name = some (field, schema)) :
    ObjectSchema.fieldById (fields.fieldDecoders reader fuel) field.id =
      some { name, field
             decode := fun typeLength =>
               schema.decodeTlvInternalValue reader fuel typeLength } := by
  have sameIds : (fields.fieldDecoders reader fuel).map (fun decoder => decoder.field.id) =
      fields.ids := by
    rw [fieldDecoders_eq, List.map_map]
    rfl
  have member : { name, field
                  decode := fun typeLength =>
                    schema.decodeTlvInternalValue reader fuel typeLength } ∈
      fields.fieldDecoders reader fuel := by
    rw [fieldDecoders_eq, List.mem_map]
    exact ⟨_, OrderedMap.mem_of_lookup found, rfl⟩
  exact ObjectSchema.fieldById_eq_some (sameIds ▸ nodup) member

theorem fieldById_eq_none {id : Nat} (unknown : ∀ entry ∈ fields.entries, entry.2.1.id ≠ id) :
    ObjectSchema.fieldById (fields.fieldDecoders reader fuel) id = none := by
  rw [ObjectSchema.fieldById, fieldDecoders_eq, List.find?_eq_none]
  intro decoder member
  rw [List.mem_reverse, List.mem_map] at member
  rcases member with ⟨entry, isEntry, rfl⟩
  simpa using unknown entry isEntry

end TlvFields

namespace ObjectSchema

variable {decoders : List (FieldDecoder DataReader)} {fuel : Nat} {allowed : Bool}
  {result : Properties} {field : FieldType} {stream : TlvStream}

theorem reads_known (emits : Emits (fieldTag field) stream) {name : String}
    {decode : TlvTypeLength → Action DataReader MatterError TlvValue}
    (found : fieldById decoders field.id = some { name, field, decode }) {value : TlvValue}
    (reads : ReadsBehindTag decode stream value) :
    Reads (source .little) (decodeElement TlvByteArrayReader fuel decoders allowed result)
      (streamBytes stream) (.yield (assign result name field.repeated value)) := by
  rcases reads with ⟨element, rest, rfl, reads⟩
  rw [decodeElement]
  apply reads_element emits
  simp only [if_neg emits.nested.head_ne_end, fieldTag, Option.bind_some, found]
  exact reads.map fun value => ForInStep.yield (assign result name field.repeated value)

theorem reads_unknown (emits : Emits (fieldTag field) stream)
    (unknown : fieldById decoders field.id = none)
    (enough : (streamBytes stream).length ≤ fuel) :
    Reads (source .little) (decodeElement TlvByteArrayReader fuel decoders allowed result)
      (streamBytes stream) (.yield result) := by
  rcases reads_any emits enough with ⟨element, rest, rfl, reads⟩
  apply reads_element emits
  simp only [if_neg emits.nested.head_ne_end, fieldTag, Option.bind_some, unknown]
  exact reads.map fun _ => ForInStep.yield result

theorem reads_closing :
    Reads (source .little) (decodeElement TlvByteArrayReader fuel decoders allowed result)
      (streamBytes [{ tag := none, typeLength := .endOfContainer, value := none }])
      (.done result) := by
  exact reads_end rfl

theorem rounds_unknown (unknown : fieldById decoders field.id = none)
    {parts : List TlvStream} (emits : ∀ part ∈ parts, Emits (fieldTag field) part)
    (enough : (streamBytes parts.flatten).length ≤ fuel) :
    Rounds (source .little) (decodeElement TlvByteArrayReader fuel decoders allowed) result
      (streamBytes parts.flatten) result := by
  induction parts with
  | nil => exact .nil
  | cons part parts induction =>
    rw [List.forall_mem_cons] at emits
    rw [List.flatten_cons, streamBytes_append, List.length_append] at enough
    rw [List.flatten_cons, streamBytes_append]
    exact .cons (reads_unknown emits.1 unknown (by omega)) (streamBytes_ne_nil emits.1)
      (induction emits.2 (by omega))

/-- What the object holds when some elements of a repeated field have been read. -/
def collected (result : Properties) (name : String) (done : List TlvValue) : Properties :=
  if done = [] then result else result ++ [(name, .array done)]

theorem collected_nil (result : Properties) (name : String) :
    collected result name [] = result := rfl

theorem collected_of_ne {done : List TlvValue} (notEmpty : done ≠ []) (result : Properties)
    (name : String) : collected result name done = result ++ [(name, .array done)] :=
  if_neg notEmpty

theorem assign_collected {name : String} (new : name ∉ result.map Prod.fst)
    (done : List TlvValue) (value : TlvValue) :
    assign (collected result name done) name true value =
      collected result name (done ++ [value]) := by
  rw [assign, collected_of_ne (List.append_ne_nil_of_right_ne_nil _ (by simp))]
  by_cases first : done = []
  · rw [first, collected_nil, OrderedMap.lookup_of_new new]
    exact OrderedMap.setEntries_of_new new _
  · rw [collected_of_ne first, OrderedMap.lookup_of_last new]
    exact OrderedMap.setEntries_of_last new _ _

def projectField (repeated : Bool) (project : TlvValue → TlvValue) (data : TlvValue) :
    TlvValue :=
  if repeated then
    match data with
    | .array elements => .array (elements.map project)
    | data => data
  else
    project data

theorem rounds_collected {name : String} (new : name ∉ result.map Prod.fst)
    (repeated : field.repeated = true)
    {decode : TlvTypeLength → Action DataReader MatterError TlvValue}
    (found : fieldById decoders field.id = some { name, field, decode })
    {project : TlvValue → TlvValue} {elements : List TlvValue} {parts : List TlvStream}
    (reads : List.Forall₂ (fun element part =>
      Emits (fieldTag field) part ∧ ReadsBehindTag decode part (project element)) elements parts)
    (done : List TlvValue) :
    Rounds (source .little) (decodeElement TlvByteArrayReader fuel decoders allowed)
      (collected result name done) (streamBytes parts.flatten)
      (collected result name (done ++ elements.map project)) := by
  induction reads generalizing done with
  | nil =>
    rw [List.map_nil, List.append_nil]
    exact .nil
  | @cons element part elements parts head _ induction =>
    have round := @reads_known decoders fuel allowed (collected result name done) _ _ head.1 _ _
      found _ head.2
    rw [repeated, assign_collected new] at round
    rw [List.flatten_cons, streamBytes_append, List.map_cons, List.append_cons]
    exact .cons round (streamBytes_ne_nil head.1) (induction _)

theorem rounds_known {name : String} (new : name ∉ result.map Prod.fst)
    {decode : TlvTypeLength → Action DataReader MatterError TlvValue}
    (found : fieldById decoders field.id = some { name, field, decode })
    {project : TlvValue → TlvValue} {data : TlvValue} {parts : List TlvStream}
    (isArray : field.repeated = true → ∃ elements, data = .array elements)
    (notEmpty : fieldElements field.repeated data ≠ [])
    (reads : List.Forall₂ (fun element part =>
      Emits (fieldTag field) part ∧ ReadsBehindTag decode part (project element))
      (fieldElements field.repeated data) parts) :
    Rounds (source .little) (decodeElement TlvByteArrayReader fuel decoders allowed) result
      (streamBytes parts.flatten)
      (result ++ [(name, projectField field.repeated project data)]) := by
  cases repeated : field.repeated with
  | true =>
    rcases isArray repeated with ⟨elements, rfl⟩
    rw [repeated, fieldElements_array] at reads notEmpty
    have rounds := @rounds_collected decoders fuel allowed result field name new repeated
      decode found project elements parts reads []
    rw [collected_nil, collected_of_ne (by simpa using notEmpty)] at rounds
    exact rounds
  | false =>
    rw [repeated] at reads
    cases reads with
    | cons head tail =>
      cases tail
      have round := @reads_known decoders fuel allowed result _ _ head.1 _ _ found _ head.2
      rw [repeated, assign, if_neg (by simp), OrderedMap.setEntries_of_new new] at round
      rw [List.flatten_cons, List.flatten_nil, List.append_nil]
      exact .single round (streamBytes_ne_nil head.1)

end ObjectSchema

end MatterJs.Types
