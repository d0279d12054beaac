import MatterJs.Foundation.Following
import MatterJs.Types.SchemaReading

/-! Decoding with a reader that follows another one. -/

namespace MatterJs.Types

open General Consumption

variable {State Other : Type}

/-- Where `other` reads tags and values, `reader` reads the same ones. -/
structure FollowingReader (reader : TlvReader State) (other : TlvReader Other) where
  correspondence : Correspondence State Other
  /-- The states behind the tag of an element, whose value may still be to come -/
  entered : TlvTypeLength → State → Other → Prop
  follows_tag : ∀ {state otherState otherNext tag typeLength},
    correspondence.related state otherState →
    other.readTagType otherState = .ok ((tag, typeLength), otherNext) →
    ∃ next, reader.readTagType state = .ok ((tag, typeLength), next) ∧
      entered typeLength next otherNext ∧ correspondence.left next < correspondence.left state
  follows_primitive : ∀ {typeLength state otherState}, entered typeLength state otherState →
    Follows correspondence (correspondence.left state + 1) (reader.readPrimitive typeLength)
      (other.readPrimitive typeLength) state otherState
  related_of_noValue : ∀ {typeLength state otherState}, entered typeLength state otherState →
    ¬typeLength.HasValue → correspondence.related state otherState

namespace FollowingReader

variable {reader : TlvReader State} {other : TlvReader Other}
  (following : FollowingReader reader other) {state : State} {otherState : Other}
  {typeLength : TlvTypeLength} {fuel otherFuel : Nat}

theorem follows_readTagType {α : Type}
    {body : Option TlvTag × TlvTypeLength → Action State MatterError α}
    {otherBody : Option TlvTag × TlvTypeLength → Action Other MatterError α} {bound : Nat}
    (related : following.correspondence.related state otherState)
    (within : following.correspondence.left state ≤ bound)
    (follows : ∀ tag typeLength next otherNext, following.entered typeLength next otherNext →
      following.correspondence.left next < following.correspondence.left state →
      Follows following.correspondence (following.correspondence.left next + 1)
        (body (tag, typeLength)) (otherBody (tag, typeLength)) next otherNext) :
    Follows following.correspondence bound (reader.readTagType >>= body)
      (other.readTagType >>= otherBody) state otherState := by
  intro value last run
  rw [run_bind] at run
  cases otherRun : other.readTagType otherState with
  | error failure =>
    rw [otherRun] at run
    cases run
  | ok pair =>
    rcases pair with ⟨⟨tag, typeLength⟩, otherNext⟩
    rw [otherRun] at run
    rcases following.follows_tag related otherRun with ⟨next, arrives, entered, fewer⟩
    rw [run_bind_ok arrives]
    rcases follows tag typeLength next otherNext entered fewer value last run with
      ⟨after, arrivesAfter, afterRelated, notMore⟩
    exact ⟨after, arrivesAfter, afterRelated, by omega⟩

/-- Nothing is read behind the tag of an element without a value. -/
theorem follows_pure {α : Type} (entered : following.entered typeLength state otherState)
    (noValue : ¬typeLength.HasValue) (value : α) :
    Follows following.correspondence (following.correspondence.left state + 1)
      (pure value : Action State MatterError α) (pure value) state otherState :=
  Follows.pure (following.related_of_noValue entered noValue) (Nat.lt_succ_self _) value

/-! ## Any element -/

theorem decodeTlvValueRec_of_container (reader : TlvReader State) (depth : Nat)
    (container : typeLength.IsContainer) (tlvStream : TlvStream) (tag : Option TlvTag) :
    AnySchema.decodeTlvValueRec reader (depth + 1) typeLength tlvStream tag =
      AnySchema.decodeContents reader depth (depth + 1)
        (tlvStream ++ [{ tag, typeLength, value := none }]) := by
  cases typeLength with
  | struct | array | list => rfl
  | _ => exact container.elim

theorem not_hasValue_of_container (container : typeLength.IsContainer) :
    ¬typeLength.HasValue := by
  cases typeLength with
  | struct | array | list => exact id
  | _ => exact container.elim

theorem follows_leaf (entered : following.entered typeLength state otherState)
    (leaf : ¬typeLength.IsContainer) (tlvStream : TlvStream) (tag : Option TlvTag) :
    Follows following.correspondence (following.correspondence.left state + 1)
      (AnySchema.decodeTlvValueRec reader fuel typeLength tlvStream tag)
      (AnySchema.decodeTlvValueRec other otherFuel typeLength tlvStream tag) state
      otherState := by
  have primitive := (following.follows_primitive entered).map fun value =>
    tlvStream ++ [{ tag, typeLength, value := some value }]
  have nothing (noValue : ¬typeLength.HasValue) (tlvStream : TlvStream) :=
    following.follows_pure entered noValue tlvStream
  cases typeLength with
  | signedInt | unsignedInt | float | utf8String | byteString | boolean =>
    cases fuel <;> cases otherFuel <;> exact primitive
  | null | endOfContainer | reserved =>
    cases fuel <;> cases otherFuel <;> exact nothing id _
  | struct | array | list => exact absurd trivial leaf

theorem follows_decodeTlvValueRec (entered : following.entered typeLength state otherState)
    (enough : following.correspondence.left state < fuel) (tlvStream : TlvStream)
    (tag : Option TlvTag) :
    Follows following.correspondence (following.correspondence.left state + 1)
      (AnySchema.decodeTlvValueRec reader fuel typeLength tlvStream tag)
      (AnySchema.decodeTlvValueRec other otherFuel typeLength tlvStream tag) state
      otherState := by
  induction otherFuel generalizing typeLength state otherState fuel tlvStream tag with
  | zero =>
    by_cases container : typeLength.IsContainer
    · apply Follows.of_error
      cases typeLength with
      | struct | array | list => rfl
      | _ => exact container.elim
    · exact following.follows_leaf entered container tlvStream tag
  | succ otherFuel induction =>
    by_cases container : typeLength.IsContainer
    · cases fuel with
      | zero => exact absurd enough (Nat.not_lt_zero _)
      | succ fuel =>
        rw [decodeTlvValueRec_of_container _ _ container,
          decodeTlvValueRec_of_container _ _ container]
        apply Follows.loop _ (following.related_of_noValue entered
          (not_hasValue_of_container container)) (Nat.lt_succ_self _) enough
        intro tlvStream inner otherInner related notMore
        apply following.follows_readTagType related (Nat.le_refl _)
        intro tag typeLength next otherNext nextEntered fewer
        exact (induction nextEntered (by omega) tlvStream tag).map fun tlvStream =>
          if typeLength = .endOfContainer then ForInStep.done tlvStream
          else .yield tlvStream
    · exact following.follows_leaf entered container tlvStream tag

/-- The schema decodes with `reader` what it decodes with `other`. -/
def FollowsSchema (schema : TlvSchema) : Prop :=
  ∀ {fuel otherFuel : Nat} {typeLength : TlvTypeLength} {state : State} {otherState : Other},
    following.entered typeLength state otherState →
    following.correspondence.left state < fuel →
    Follows following.correspondence (following.correspondence.left state + 1)
      (schema.decodeTlvInternalValue reader fuel typeLength)
      (schema.decodeTlvInternalValue other otherFuel typeLength) state otherState

theorem follows_arrayElement {elementSchema : TlvSchema}
    (follows : following.FollowsSchema elementSchema)
    (enough : following.correspondence.left state ≤ fuel)
    (related : following.correspondence.related state otherState) (result : List TlvValue) :
    Follows following.correspondence (following.correspondence.left state)
      (ArraySchema.decodeElement reader
        (fun typeLength => elementSchema.decodeTlvInternalValue reader fuel typeLength) result)
      (ArraySchema.decodeElement other
        (fun typeLength => elementSchema.decodeTlvInternalValue other otherFuel typeLength)
        result) state otherState := by
  apply following.follows_readTagType related (Nat.le_refl _)
  intro tag typeLength next otherNext entered fewer
  dsimp only
  split
  · exact Follows.of_error rfl
  · split
    · rename_i ends
      subst ends
      exact following.follows_pure entered id _
    · exact (follows entered (by omega)).map fun value => ForInStep.yield (result ++ [value])

theorem fieldById_fieldDecoders (reader : TlvReader State) (fuel : Nat) (fields : TlvFields)
    (id : Nat) :
    ObjectSchema.fieldById (fields.fieldDecoders reader fuel) id =
      (fields.entries.reverse.find? fun entry => entry.2.1.id = id).map fun entry =>
        { name := entry.1, field := entry.2.1
          decode := fun typeLength =>
            entry.2.2.decodeTlvInternalValue reader fuel typeLength } := by
  rw [ObjectSchema.fieldById, TlvFields.fieldDecoders_eq, ← List.map_reverse, List.find?_map]
  rfl

theorem map_fieldDecoders (reader : TlvReader State) (fuel : Nat) (fields : TlvFields) :
    ((fields.fieldDecoders reader fuel).map fun decoder => (decoder.name, decoder.field)) =
      fields.entries.map fun entry => (entry.1, entry.2.1) := by
  rw [TlvFields.fieldDecoders_eq, List.map_map]
  rfl

theorem follows_objectElement {fields : TlvFields}
    (follows : ∀ entry ∈ fields.entries, following.FollowsSchema entry.2.2)
    (enough : following.correspondence.left state ≤ fuel)
    (related : following.correspondence.related state otherState) (allowed : Bool)
    (result : ObjectSchema.Properties) :
    Follows following.correspondence (following.correspondence.left state)
      (ObjectSchema.decodeElement reader fuel (fields.fieldDecoders reader fuel) allowed result)
      (ObjectSchema.decodeElement other otherFuel (fields.fieldDecoders other otherFuel) allowed
        result) state otherState := by
  apply following.follows_readTagType related (Nat.le_refl _)
  intro tag typeLength next otherNext entered fewer
  dsimp only
  split
  · rename_i ends
    subst ends
    exact following.follows_pure entered id _
  · split
    · exact Follows.of_error rfl
    · cases tag.bind TlvTag.id with
      | none => exact Follows.of_error rfl
      | some id =>
        dsimp only
        rw [fieldById_fieldDecoders, fieldById_fieldDecoders]
        cases found : fields.entries.reverse.find? fun entry => entry.2.1.id = id with
        | none =>
          exact (following.follows_decodeTlvValueRec entered (by omega) [] none).map fun _ =>
            ForInStep.yield result
        | some field =>
          have member := List.mem_reverse.mp (List.mem_of_find?_eq_some found)
          exact (follows field member entered (by omega)).map fun decoded =>
            ForInStep.yield (ObjectSchema.assign result field.1 field.2.1.repeated decoded)

theorem followsSchema (schema : TlvSchema) : following.FollowsSchema schema := by
  induction schema using TlvSchema.induction with
  | numeric schema =>
    intro fuel otherFuel typeLength state otherState entered _
    rw [TlvSchema.decodeTlvInternalValue, TlvSchema.decodeTlvInternalValue,
      TlvNumericSchema.decodeTlvInternalValue, TlvNumericSchema.decodeTlvInternalValue]
    split
    · exact (following.follows_primitive entered).map fun value =>
        value.toValue (schema.ofBits typeLength)
    · exact Follows.of_error rfl
  | string schema =>
    intro fuel otherFuel typeLength state otherState entered _
    rw [TlvSchema.decodeTlvInternalValue, TlvSchema.decodeTlvInternalValue,
      StringSchema.decodeTlvInternalValue, StringSchema.decodeTlvInternalValue]
    split
    · exact (following.follows_primitive entered).map fun value => value.toValue Nat.cast
    · exact Follows.of_error rfl
  | boolean =>
    intro fuel otherFuel typeLength state otherState entered _
    cases typeLength with
    | boolean flag => exact following.follows_pure entered id _
    | _ => exact Follows.of_error rfl
  | nullable schema induction =>
    intro fuel otherFuel typeLength state otherState entered enough
    rw [TlvSchema.decodeTlvInternalValue, TlvSchema.decodeTlvInternalValue]
    split
    · rename_i isNull
      subst isNull
      exact following.follows_pure entered id _
    · exact (induction entered enough).map fun value =>
        if schema.emptyAsNull value then .null else value
  | array elementSchema minLength maxLength induction =>
    intro fuel otherFuel typeLength state otherState entered enough
    rw [TlvSchema.decodeTlvInternalValue, TlvSchema.decodeTlvInternalValue,
      ArraySchema.decodeTlvInternalValue, ArraySchema.decodeTlvInternalValue]
    split
    · rename_i isArray
      subst isArray
      refine Follows.map TlvValue.array ?_
      apply Follows.loop _ (following.related_of_noValue entered id) (Nat.lt_succ_self _) enough
      intro result next otherNext related notMore
      exact following.follows_arrayElement induction (by omega) related result
    · exact Follows.of_error rfl
  | object fields type allowed induction =>
    intro fuel otherFuel typeLength state otherState entered enough
    rw [TlvSchema.decodeTlvInternalValue, TlvSchema.decodeTlvInternalValue,
      ObjectSchema.decodeTlvInternalValue, ObjectSchema.decodeTlvInternalValue]
    split
    · rename_i isObject
      subst isObject
      rw [map_fieldDecoders, map_fieldDecoders]
      refine Follows.map (fun result => TlvValue.object (ObjectSchema.fillMissing
        (fields.entries.map fun entry => (entry.1, entry.2.1)) result)) ?_
      have noValue : ¬type.typeLength.HasValue := by cases type <;> exact id
      apply Follows.loop _ (following.related_of_noValue entered noValue)
        (Nat.lt_succ_self _) enough
      intro result next otherNext related notMore
      exact following.follows_objectElement induction (by omega) related allowed result
    · exact Follows.of_error rfl
  | any =>
    intro fuel otherFuel typeLength state otherState entered enough
    exact (following.follows_decodeTlvValueRec entered enough [] none).map TlvValue.stream
  | wrapper schema wrap unwrap induction =>
    intro fuel otherFuel typeLength state otherState entered enough
    exact (induction entered enough).map unwrap

theorem follows_decodeTlvInternal (schema : TlvSchema)
    (related : following.correspondence.related state otherState)
    (enough : following.correspondence.left state ≤ fuel) :
    Follows following.correspondence (following.correspondence.left state)
      (schema.decodeTlvInternal reader fuel) (schema.decodeTlvInternal other otherFuel) state
      otherState := by
  apply following.follows_readTagType related (Nat.le_refl _)
  intro tag typeLength next otherNext entered fewer
  exact (following.followsSchema schema entered (by omega)).map fun value => (value, tag)

end FollowingReader

end MatterJs.Types
