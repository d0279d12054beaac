import MatterJs.Types.FollowingReaders

/-! Schemas on streams of elements, which are read as their bytes are. -/

namespace MatterJs.Types

open General Consumption
open DataReader (source)

structure TlvArrayPosition where
  /-- The element at the index, which stands before the first one at the start -/
  current : Option TlvElement
  behind : TlvStream

def TlvArrayPosition.start (tlvElements : TlvStream) : TlvArrayPosition where
  current := none
  behind := tlvElements

namespace TlvArrayReader

def readTagType : Action TlvArrayPosition MatterError (Option TlvTag × TlvTypeLength) :=
  fun position =>
    match position.behind with
    | [] => .error (.typeError "Cannot destructure property 'tag' of undefined")
    | element :: behind =>
      .ok ((element.tag, element.typeLength), { current := some element, behind })

/-- The value of an element that is written without one is what its type says. -/
def readPrimitive (_typeLength : TlvTypeLength) :
    Action TlvArrayPosition MatterError TlvPrimitive :=
  fun position =>
    match position.current with
    | none => .error (.typeError "Cannot read properties of undefined (reading 'value')")
    | some element =>
      match element.value <|> element.typeLength.impliedValue with
      | some value => .ok (value, position)
      | none => .error (.typeError "The value is not of the type of its element")

end TlvArrayReader

def TlvArrayReader : TlvReader TlvArrayPosition where
  readTagType := TlvArrayReader.readTagType
  readPrimitive := TlvArrayReader.readPrimitive

namespace TlvSchema

def encodeTlv (schema : TlvSchema) (value : TlvValue) (options : TlvEncodingOptions) :
    Except MatterError TlvStream :=
  schema.encodeTlvInternal options value none

def decodeTlv (schema : TlvSchema) (encoded : TlvStream) : Except MatterError TlvValue := do
  let ((value, _), _) ← schema.decodeTlvInternal TlvArrayReader encoded.length
    (TlvArrayPosition.start encoded)
  return value

end TlvSchema

namespace TlvArrayReader

theorem left_readPrimitive (typeLength : TlvTypeLength) {position next : TlvArrayPosition}
    {value : TlvPrimitive} (run : readPrimitive typeLength position = .ok (value, next)) :
    next = position := by
  rw [readPrimitive] at run
  split at run
  · cases run
  · split at run
    · cases run
      rfl
    · cases run

def followsItself : FollowingReader TlvArrayReader TlvArrayReader where
  correspondence := { related := Eq, left := fun position => position.behind.length }
  entered _ position other := position = other
  follows_tag := by
    rintro ⟨current, behind⟩ _ next tag typeLength rfl run
    cases behind with
    | nil => cases run
    | cons element behind =>
      cases run
      exact ⟨_, rfl, rfl, Nat.lt_succ_self _⟩
  follows_primitive := by
    rintro typeLength position _ rfl value next run
    cases left_readPrimitive typeLength run
    exact ⟨position, run, rfl, Nat.lt_succ_self _⟩
  related_of_noValue same _ := same

end TlvArrayReader

theorem TlvSchema.decodeTlv_of_decodeTlvInternal {schema : TlvSchema} {encoded : TlvStream}
    {fuel : Nat} {value : TlvValue} {tag : Option TlvTag} {last : TlvArrayPosition}
    (run : schema.decodeTlvInternal TlvArrayReader fuel (TlvArrayPosition.start encoded) =
      .ok ((value, tag), last)) : schema.decodeTlv encoded = .ok value := by
  have follows : Follows TlvArrayReader.followsItself.correspondence encoded.length
      (schema.decodeTlvInternal TlvArrayReader encoded.length)
      (schema.decodeTlvInternal TlvArrayReader fuel) (TlvArrayPosition.start encoded)
      (TlvArrayPosition.start encoded) :=
    TlvArrayReader.followsItself.follows_decodeTlvInternal schema (Eq.refl _) (Nat.le_refl _)
  rcases follows _ _ run with ⟨next, arrives, _⟩
  rw [decodeTlv, arrives]
  rfl

/-! ## Following the byte reader -/

/-- The elements that are left are fit to be written and read, and their bytes are left to
the byte reader. -/
structure TlvArrayPosition.Corresponds (position : TlvArrayPosition) (reader : DataReader) :
    Prop where
  usable : (source .little).usable reader
  sameRest : (source .little).remaining reader = streamBytes position.behind
  proper : ∀ element ∈ position.behind, element.Proper ∧ element.KeepsText

/-- Behind the tag of an element: the byte reader has its value still to come. -/
structure TlvArrayPosition.Entered (element : TlvElement) (position : TlvArrayPosition)
    (reader : DataReader) : Prop where
  current : position.current = some element
  usable : (source .little).usable reader
  sameRest : (source .little).remaining reader = element.contentBytes ++ streamBytes position.behind
  isProper : element.Proper ∧ element.KeepsText
  proper : ∀ element ∈ position.behind, element.Proper ∧ element.KeepsText

namespace TlvArrayPosition

variable {element : TlvElement} {position : TlvArrayPosition} {reader : DataReader}

theorem Entered.corresponds (entered : Entered element position reader)
    (noValue : ¬element.typeLength.HasValue) : Corresponds position reader where
  usable := entered.usable
  sameRest := by
    rw [entered.sameRest,
      TlvElement.contentBytes_of_noValue entered.isProper.1.wellFormed noValue, List.nil_append]
  proper := entered.proper

theorem Corresponds.enters (corresponds : Corresponds position reader)
    {next : DataReader} {read : Option TlvTag × TlvTypeLength}
    (run : TlvCodec.readTagType reader = .ok (read, next)) :
    ∃ element behind, position.behind = element :: behind ∧
      read = (element.tag, element.typeLength) ∧
      Entered element { current := some element, behind } next := by
  rcases position with ⟨current, _ | ⟨element, behind⟩⟩
  · rcases failsAtEnd_readTagType reader corresponds.usable corresponds.sameRest with
      ⟨failure, failed⟩
    rw [failed] at run
    cases run
  · have proper := corresponds.proper
    rw [List.forall_mem_cons] at proper
    have sameRest := corresponds.sameRest
    rw [streamBytes_cons, TlvElement.bytes, List.append_assoc] at sameRest
    rcases reads_tag proper.1.1.wellFormed proper.1.1.readable reader _ corresponds.usable
      sameRest with ⟨behindTag, byteRun, usable, left⟩
    rw [byteRun] at run
    cases run
    exact ⟨element, behind, rfl, rfl, { current := rfl, usable, sameRest := left,
                                        isProper := proper.1, proper := proper.2 }⟩

theorem Entered.reads (entered : Entered element position reader) {next : DataReader}
    {value : TlvPrimitive}
    (run : TlvCodec.readPrimitive element.typeLength reader = .ok (value, next)) :
    TlvArrayReader.readPrimitive element.typeLength position = .ok (value, position) ∧
      Corresponds position next := by
  have wellFormed := entered.isProper.1.wellFormed
  by_cases hasValue : element.typeLength.HasValue
  · rcases wellFormed.value hasValue with ⟨present, isValue, fits⟩
    have kept : present.readBack = present :=
      (TlvElement.readBack_eq_self_iff present).mpr fun text isText =>
        entered.isProper.2 text (isText ▸ isValue)
    have sameRest := entered.sameRest
    rw [TlvElement.contentBytes, isValue] at sameRest
    rcases reads_readPrimitive fits reader _ entered.usable sameRest with
      ⟨behindValue, byteRun, usable, left⟩
    rw [kept] at byteRun
    rw [byteRun] at run
    cases run
    refine ⟨?_, usable, left, entered.proper⟩
    simp [TlvArrayReader.readPrimitive, entered.current, isValue]
  · have implied (value : TlvPrimitive)
        (isImplied : element.typeLength.impliedValue = some value) :
        TlvArrayReader.readPrimitive element.typeLength position = .ok (value, position) := by
      rcases wellFormed.noValue hasValue with absent | present
      · simp [TlvArrayReader.readPrimitive, entered.current, absent, isImplied]
      · simp [TlvArrayReader.readPrimitive, entered.current, present, isImplied]
    have corresponds := entered.corresponds hasValue
    cases isType : element.typeLength with
    | boolean | null =>
      rw [isType] at run implied
      cases run
      exact ⟨implied _ rfl, corresponds⟩
    | signedInt | unsignedInt | float | utf8String | byteString =>
      rw [isType] at hasValue
      exact absurd trivial hasValue
    | struct | array | list | endOfContainer | reserved =>
      rw [isType] at run
      cases run

end TlvArrayPosition

def TlvArrayReader.followsByteReader : FollowingReader TlvArrayReader TlvByteArrayReader where
  correspondence :=
    { related := TlvArrayPosition.Corresponds
      left := fun position => position.behind.length }
  entered typeLength position reader :=
    ∃ element, element.typeLength = typeLength ∧ TlvArrayPosition.Entered element position reader
  follows_tag := by
    intro position reader next tag typeLength corresponds run
    rcases corresponds.enters run with ⟨element, behind, isBehind, same, entered⟩
    cases same
    refine ⟨_, ?_, ⟨element, rfl, entered⟩, ?_⟩
    · change readTagType position = _
      rw [readTagType, isBehind]
    · change behind.length < position.behind.length
      rw [isBehind]
      exact Nat.lt_succ_self _
  follows_primitive := by
    rintro _ position reader ⟨element, rfl, entered⟩ value next run
    rcases entered.reads run with ⟨arrives, corresponds⟩
    exact ⟨position, arrives, corresponds, Nat.lt_succ_self _⟩
  related_of_noValue := by
    rintro _ position reader ⟨element, rfl, entered⟩ noValue
    exact entered.corresponds noValue

theorem TlvSchema.decodeTlv_of_decodeInternal {schema : TlvSchema} {stream : TlvStream}
    (fit : ∀ element ∈ stream, element.Proper ∧ element.KeepsText) {value : TlvValue}
    (read : schema.decodeInternal (streamBytes stream) = .ok value) :
    schema.decodeTlv stream = .ok value := by
  rcases bind_eq_ok_iff.mp read with ⟨⟨⟨result, tag⟩, reader⟩, run, same⟩
  cases same
  have corresponds : TlvArrayPosition.Corresponds (TlvArrayPosition.start stream)
      (DataReader.new (streamBytes stream) .little) :=
    { usable := rfl, sameRest := rfl, proper := fit }
  have follows : Follows TlvArrayReader.followsByteReader.correspondence stream.length
      (schema.decodeTlvInternal TlvArrayReader stream.length)
      (schema.decodeTlvInternal TlvByteArrayReader (streamBytes stream).length)
      (TlvArrayPosition.start stream) (DataReader.new (streamBytes stream) .little) :=
    TlvArrayReader.followsByteReader.follows_decodeTlvInternal schema corresponds (Nat.le_refl _)
  rcases follows _ _ run with ⟨next, arrives, _⟩
  exact decodeTlv_of_decodeTlvInternal arrives

end MatterJs.Types
