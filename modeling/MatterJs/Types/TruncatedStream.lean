import MatterJs.Types.StreamRoundTrip

/-! Encodings that were cut off. Inside a container the next element is missed, while
a single string is taken as far as it goes. -/

namespace MatterJs.Types

open General ByteOrder Consumption
open DataReader (reading taking source)
open TlvCodec

namespace AnySchema

open TlvElement

variable {element closing : TlvElement} {depth fuel : Nat} {tlvStream inner : TlvStream}

theorem keeps_ofPrimitive {typeLength : TlvTypeLength} (plain : ¬typeLength.IsContainer)
    (tag : Option TlvTag) :
    Keeps (source .little)
      (decodeTlvValueRec TlvByteArrayReader depth typeLength tlvStream tag) := by
  by_cases hasValue : typeLength.HasValue
  · rw [decodeTlvValueRec_hasValue _ _ hasValue]
    exact (keeps_readPrimitive typeLength).bind fun _ => Keeps.pure _
  · cases typeLength with
    | signedInt | unsignedInt | float | utf8String | byteString => exact absurd trivial hasValue
    | struct | array | list => exact absurd trivial plain
    | boolean | null | endOfContainer | reserved => cases depth <;> exact Keeps.pure _

theorem advances_round {decodeElement : TlvTypeLength → TlvStream → Option TlvTag →
      Action DataReader MatterError TlvStream}
    (keeps : ∀ typeLength tlvStream tag,
      Keeps (source .little) (decodeElement typeLength tlvStream tag)) (tlvStream : TlvStream) :
    Advances (source .little) (do
      let (elementTag, typeLengthElement) ← TlvByteArrayReader.readTagType
      let tlvStream ← decodeElement typeLengthElement tlvStream elementTag
      return if typeLengthElement = .endOfContainer then ForInStep.done tlvStream
        else .yield tlvStream) := by
  apply advances_readTagType.bind
  intro read
  exact (keeps _ _ _).bind fun _ => Keeps.pure _

theorem keeps_decodeTlvValueRec (depth : Nat) (typeLength : TlvTypeLength)
    (tlvStream : TlvStream) (tag : Option TlvTag) :
    Keeps (source .little)
      (decodeTlvValueRec TlvByteArrayReader depth typeLength tlvStream tag) := by
  induction depth generalizing typeLength tlvStream tag with
  | zero =>
    cases typeLength with
    | struct | array | list => exact Keeps.throw _
    | _ => exact keeps_ofPrimitive id tag
  | succ depth induction =>
    cases typeLength with
    | struct | array | list =>
      exact Keeps.loop (fun tlvStream => (advances_round induction tlvStream).keeps) _
    | _ => exact keeps_ofPrimitive id tag

theorem decodeTlvValueRec_fuel {moreDepth : Nat} {reader : DataReader}
    (usable : reader.endian = .little) (enough : reader.remainingBytes.length < depth)
    (moreEnough : reader.remainingBytes.length < moreDepth) (typeLength : TlvTypeLength)
    (tlvStream : TlvStream) (tag : Option TlvTag) :
    decodeTlvValueRec TlvByteArrayReader depth typeLength tlvStream tag reader =
      decodeTlvValueRec TlvByteArrayReader moreDepth typeLength tlvStream tag reader := by
  induction depth generalizing moreDepth reader typeLength tlvStream tag with
  | zero => exact absurd enough (Nat.not_lt_zero _)
  | succ depth induction =>
    cases moreDepth with
    | zero => exact absurd moreEnough (Nat.not_lt_zero _)
    | succ moreDepth =>
      have loops : decodeContents TlvByteArrayReader depth (depth + 1)
            (tlvStream ++ [{ tag, typeLength, value := none }]) reader =
          decodeContents TlvByteArrayReader moreDepth (moreDepth + 1)
            (tlvStream ++ [{ tag, typeLength, value := none }]) reader := by
        apply @loop_congr _ _ _ _ (source .little) _ _ _ _
          (advances_round (keeps_decodeTlvValueRec depth)) _ _ _ usable enough moreEnough
        intro accumulated after afterUsable shorter
        apply run_bind_congr
        intro read next run
        have left := advances_readTagType after read next afterUsable run
        have lengths : next.remainingBytes.length < after.remainingBytes.length := left.2
        have total : after.remainingBytes.length ≤ reader.remainingBytes.length := shorter
        dsimp only
        rw [run_bind, run_bind, @induction moreDepth next left.1 (by omega) (by omega)]
      cases typeLength with
      | struct | array | list => exact loops
      | _ => rfl

theorem rejects_tag (wellFormed : element.WellFormed) :
    Rejects (source .little) readTagType (tagBytes element.typeLength element.tag) :=
  rejects_readTagType wellFormed.known wellFormed.tag

theorem exhausts_primitive (wellFormed : element.WellFormed) :
    Exhausts (source .little)
      (decodeTlvValueRec TlvByteArrayReader depth element.typeLength tlvStream element.tag)
      element.contentBytes := by
  by_cases hasValue : element.typeLength.HasValue
  · rcases wellFormed.value hasValue with ⟨value, isValue, fits⟩
    rw [decodeTlvValueRec_hasValue _ _ hasValue, contentBytes, isValue]
    exact (exhausts_readPrimitive fits).map _
  · rw [contentBytes_of_noValue wellFormed hasValue]
    exact Exhausts.nothing

theorem failsAtEnd_contents :
    FailsAtEnd (source .little) (decodeContents TlvByteArrayReader depth fuel tlvStream) := by
  cases fuel with
  | zero => exact fun _ _ _ => ⟨_, rfl⟩
  | succ fuel =>
    rw [decodeContents_succ]
    exact failsAtEnd_readTagType.bind

theorem rejects_round_of_unreadable (wellFormed : element.WellFormed)
    (unreadable : ¬element.Readable) (items : Bytes) :
    Rejects (source .little) (decodeContents TlvByteArrayReader depth fuel tlvStream)
      (element.bytes ++ items) := by
  cases fuel with
  | zero => exact Rejects.throw _
  | succ fuel =>
    rw [decodeContents_succ, bytes, List.append_assoc]
    exact (fails_tag wellFormed unreadable).rejects_bind (rejects_tag wellFormed)

theorem rejects_closing (wellFormed : closing.WellFormed)
    (ends : closing.typeLength = .endOfContainer) :
    Rejects (source .little) (decodeContents TlvByteArrayReader depth fuel tlvStream)
      closing.bytes := by
  have noValue : ¬closing.typeLength.HasValue := by simp [ends, TlvTypeLength.HasValue]
  by_cases readable : closing.Readable
  · cases fuel with
    | zero => exact Rejects.throw _
    | succ fuel =>
      rw [decodeContents_succ, bytes, contentBytes_of_noValue wellFormed noValue]
      exact (rejects_tag wellFormed).bind (reads_tag wellFormed readable) Rejects.nothing
  · rw [← List.append_nil closing.bytes]
    exact rejects_round_of_unreadable wellFormed readable []

theorem rejects_round_primitive (wellFormed : element.WellFormed)
    (isPrimitive : element.typeLength.IsPrimitive) {items : Bytes}
    (following : Rejects (source .little)
      (decodeContents TlvByteArrayReader depth fuel (tlvStream ++ [element.readBack])) items) :
    Rejects (source .little) (decodeContents TlvByteArrayReader depth (fuel + 1) tlvStream)
      (element.bytes ++ items) := by
  by_cases readable : element.Readable
  · rw [decodeContents_succ, bytes, List.append_assoc]
    apply (rejects_tag wellFormed).bind (reads_tag wellFormed readable)
    simp only [if_neg isPrimitive.ne_end]
    exact (exhausts_primitive wellFormed).bind_rejects (reads_primitive wellFormed isPrimitive)
      (fun _ => failsAtEnd_contents) following
  · exact rejects_round_of_unreadable wellFormed readable items

theorem rejects_round_container (wellFormed : element.WellFormed)
    (container : element.typeLength.IsContainer) (contents : Contents inner)
    (ends : closing.typeLength = .endOfContainer)
    (innerWellFormed : ∀ other ∈ inner ++ [closing], other.WellFormed)
    (deep : (streamBytes inner).length < depth) {items : Bytes}
    (within : Rejects (source .little)
      (decodeContents TlvByteArrayReader depth (depth + 1) (tlvStream ++ [element.readBack]))
      (streamBytes (inner ++ [closing])))
    (following : ∀ tlvStream, Rejects (source .little)
      (decodeContents TlvByteArrayReader (depth + 1) fuel tlvStream) items) :
    Rejects (source .little)
      (decodeContents TlvByteArrayReader (depth + 1) (fuel + 1) tlvStream)
      (element.bytes ++ streamBytes (inner ++ [closing]) ++ items) := by
  have enough := length_le_streamBytes inner
  by_cases readable : element.Readable
  · rw [decodeContents_succ, bytes, contentBytes_of_container wellFormed container,
      List.append_nil, List.append_assoc]
    apply (rejects_tag wellFormed).bind (reads_tag wellFormed readable)
    simp only [if_neg container.ne_end]
    rw [decodeTlvValueRec_of_container container]
    by_cases innerReadable : ∀ other ∈ inner ++ [closing], other.Readable
    · exact within.bind (reads_contents contents ends innerWellFormed innerReadable deep
        (by omega)) (following _)
    · exact (fails_inner contents innerWellFormed innerReadable deep (by omega)).rejects_bind within
  · rw [List.append_assoc]
    exact rejects_round_of_unreadable wellFormed readable _

theorem rejects_contents {stream : TlvStream} (contents : Contents stream)
    (wellFormed : ∀ element ∈ stream, element.WellFormed)
    (deep : (streamBytes stream).length < depth) {items : Bytes}
    (last : ∀ fuel tlvStream, Rejects (source .little)
      (decodeContents TlvByteArrayReader depth fuel tlvStream) items) :
    Rejects (source .little) (decodeContents TlvByteArrayReader depth fuel tlvStream)
      (streamBytes stream ++ items) := by
  induction contents generalizing depth fuel tlvStream items with
  | nil => exact last fuel tlvStream
  | @primitive element rest isPrimitive _ induction =>
    rw [List.forall_mem_cons] at wellFormed
    rw [streamBytes_cons, List.length_append] at deep
    rw [streamBytes_cons, List.append_assoc]
    cases fuel with
    | zero => exact Rejects.throw _
    | succ fuel =>
      exact rejects_round_primitive wellFormed.1 isPrimitive
        (induction wellFormed.2 (by omega) last)
  | @container element closing inner rest container contents ends _ innerInduction
      restInduction =>
      simp only [List.forall_mem_cons, List.forall_mem_append] at wellFormed
      rcases wellFormed with ⟨elementWellFormed, innerWellFormed, closingWellFormed, restWellFormed⟩
      have openingLength := element.bytes_length_pos
      simp only [streamBytes_cons, streamBytes_append, List.length_append] at deep
      have bytes : streamBytes (element :: (inner ++ closing :: rest)) ++ items =
          element.bytes ++ streamBytes (inner ++ [closing]) ++ (streamBytes rest ++ items) := by
        simp
      rw [bytes]
      cases fuel with
      | zero => exact Rejects.throw _
      | succ fuel =>
        cases depth with
        | zero => exact absurd deep (Nat.not_lt_zero _)
        | succ depth =>
          have within : Rejects (source .little)
              (decodeContents TlvByteArrayReader depth (depth + 1)
                (tlvStream ++ [element.readBack]))
              (streamBytes (inner ++ [closing])) := by
            rw [streamBytes_append, streamBytes_cons, streamBytes_nil, List.append_nil]
            exact innerInduction innerWellFormed (by omega)
              (fun _ _ => rejects_closing closingWellFormed ends)
          apply rejects_round_container elementWellFormed container contents ends _
            (by omega) within
          · intro tlvStream
            exact restInduction restWellFormed (by omega) last
          · rw [List.forall_mem_append, List.forall_mem_singleton]
            exact ⟨innerWellFormed, closingWellFormed⟩

/-! ## A single element -/

theorem decodeTlvInternal_fuel {reader : DataReader} (usable : reader.endian = .little)
    (enough : reader.remainingBytes.length ≤ depth) :
    decodeTlvInternal TlvByteArrayReader reader.remainingBytes.length reader =
      decodeTlvInternal TlvByteArrayReader depth reader := by
  apply run_bind_congr
  intro read next run
  have left := advances_readTagType reader read next usable run
  have shorter : next.remainingBytes.length < reader.remainingBytes.length := left.2
  dsimp only
  rw [run_bind, run_bind, decodeTlvInternalValue, decodeTlvInternalValue,
    @decodeTlvValueRec_fuel _ depth next left.1 shorter (by omega)]

theorem decode_eq_decodeTlvInternal {encoded : Bytes} (enough : encoded.length ≤ depth) :
    decode encoded =
      (decodeTlvInternal TlvByteArrayReader depth (DataReader.new encoded .little)).map
        (fun pair => pair.1.1) := by
  have fuel := @decodeTlvInternal_fuel depth (DataReader.new encoded .little) rfl enough
  rw [DataReader.remainingBytes_new] at fuel
  rw [decode, fuel]
  cases decodeTlvInternal TlvByteArrayReader depth (DataReader.new encoded .little) <;> rfl

/-- The stream is a single string or byte string with a tag the reader knows, and it is
cut off at or behind the end of its size. -/
def CutInPayload (stream : TlvStream) (left : Bytes) : Prop :=
  ∃ element length, stream = [element] ∧ element.typeLength.sizeLength = some length ∧
    element.Readable ∧
    (tagBytes element.typeLength element.tag).length + getUIntByteLength length ≤ left.length

theorem decode_fails_of_rejects {encoded left missing : Bytes}
    (rejects : ∀ depth, encoded.length ≤ depth →
      Rejects (source .little) (decodeTlvInternal TlvByteArrayReader depth) encoded)
    (notEmpty : missing ≠ []) (cut : left ++ missing = encoded) :
    ∃ failure, decode left = .error failure := by
  rcases rejects encoded.length (Nat.le_refl _) (DataReader.new left .little) missing rfl notEmpty
    cut with ⟨failure, failed⟩
  have shorter : left.length ≤ encoded.length := by
    rw [← cut, List.length_append]
    omega
  refine ⟨failure, ?_⟩
  rw [decode_eq_decodeTlvInternal shorter, failed]
  rfl

theorem rejects_internal_of_value (wellFormed : element.WellFormed) {items : Bytes}
    (value : element.Readable → Rejects (source .little)
      (decodeTlvInternalValue TlvByteArrayReader depth element.typeLength) items) :
    Rejects (source .little) (decodeTlvInternal TlvByteArrayReader depth)
      (tagBytes element.typeLength element.tag ++ items) := by
  by_cases readable : element.Readable
  · exact (rejects_tag wellFormed).bind (reads_tag wellFormed readable) (value readable).andThen
  · exact (fails_tag wellFormed readable).rejects_bind (rejects_tag wellFormed)

theorem rejects_wellNestedContainer (wellFormed : element.WellFormed)
    (container : element.typeLength.IsContainer) (contents : Contents inner)
    (ends : closing.typeLength = .endOfContainer)
    (innerWellFormed : ∀ other ∈ inner ++ [closing], other.WellFormed)
    (deep : (streamBytes (element :: (inner ++ [closing]))).length ≤ depth) :
    Rejects (source .little) (decodeTlvInternal TlvByteArrayReader depth)
      (streamBytes (element :: (inner ++ [closing]))) := by
  have openingLength := element.bytes_length_pos
  have closingLength := closing.bytes_length_pos
  rw [List.forall_mem_append, List.forall_mem_singleton] at innerWellFormed
  simp only [streamBytes_cons, streamBytes_append, List.length_append] at deep
  rw [streamBytes_cons, bytes, List.append_assoc,
    contentBytes_of_container wellFormed container, streamBytes_append, streamBytes_cons,
    streamBytes_nil, List.append_nil]
  apply rejects_internal_of_value wellFormed
  intro _
  cases depth with
  | zero => omega
  | succ depth =>
    have value := @decodeTlvValueRec_of_container { element with tag := none } depth [] container
    rw [decodeTlvInternalValue]
    rw [value]
    exact rejects_contents contents innerWellFormed.1 (by omega)
      (fun _ _ => rejects_closing innerWellFormed.2 ends)

theorem rejects_single (wellFormed : element.WellFormed)
    (noSize : element.typeLength.sizeLength = none) :
    Rejects (source .little) (decodeTlvInternal TlvByteArrayReader depth) element.bytes := by
  apply rejects_internal_of_value wellFormed
  intro _
  rw [decodeTlvInternalValue]
  by_cases hasValue : element.typeLength.HasValue
  · rcases wellFormed.value hasValue with ⟨value, isValue, fits⟩
    rw [decodeTlvValueRec_hasValue _ _ hasValue, contentBytes, isValue]
    exact (rejects_readPrimitive fits noSize).andThen
  · rw [contentBytes_of_noValue wellFormed hasValue]
    exact Rejects.nothing

theorem decode_ofSize {length : TlvLength} {size : Nat} (wellFormed : element.WellFormed)
    (readable : element.Readable) (hasValue : element.typeLength.HasValue)
    (sizeFits : size < 256 ^ getUIntByteLength length)
    {take : Nat → Action DataReader MatterError TlvPrimitive}
    (isTake : readPrimitive element.typeLength = readUInt length >>= take)
    (takes : ∀ reader, ∃ result, take size reader = .ok result) (more : Bytes) :
    ∃ decoded, decode (tagBytes element.typeLength element.tag ++
      ByteOrder.encode .little (getUIntByteLength length) size ++ more) = .ok decoded := by
  generalize isLeft : tagBytes element.typeLength element.tag ++
    ByteOrder.encode .little (getUIntByteLength length) size ++ more = left
  rw [List.append_assoc] at isLeft
  rcases reads_tag wellFormed readable (DataReader.new left .little) _ rfl isLeft.symm with
    ⟨tagged, tagRun, taggedUsable, taggedLeft⟩
  rcases reads_ofLength sizeFits tagged _ taggedUsable taggedLeft with
    ⟨sized, sizeRun, sizedUsable, sizedLeft⟩
  rcases takes sized with ⟨result, takeRun⟩
  have read : decodeTlvInternal TlvByteArrayReader left.length (DataReader.new left .little) =
      .ok (([{ tag := none, typeLength := element.typeLength, value := some result.1 }],
        element.tag), result.2) := by
    have valueRun : TlvByteArrayReader.readPrimitive element.typeLength tagged =
        .ok result := by
      show readPrimitive element.typeLength tagged = .ok result
      rw [isTake, run_bind_ok sizeRun, takeRun]
    refine (run_bind_ok tagRun _).trans ?_
    dsimp only
    rw [run_bind, decodeTlvInternalValue, decodeTlvValueRec_hasValue _ _ hasValue,
      run_bind_ok valueRun]
    rfl
  exact ⟨_, by rw [decode, read]; rfl⟩

theorem hasValue_of_sizeLength {typeLength : TlvTypeLength} {length : TlvLength}
    (hasSize : typeLength.sizeLength = some length) : typeLength.HasValue := by
  cases typeLength with
  | utf8String | byteString => trivial
  | _ => cases hasSize

theorem decode_cutString_iff {length : TlvLength} {left missing : Bytes}
    (wellFormed : element.WellFormed) (readable : element.Readable)
    (hasSize : element.typeLength.sizeLength = some length)
    (cut : left ++ missing = element.bytes) :
    (∃ failure, decode left = .error failure) ↔
      left.length < (tagBytes element.typeLength element.tag).length +
        getUIntByteLength length := by
  have hasValue := hasValue_of_sizeLength hasSize
  rcases wellFormed.value hasValue with ⟨value, isValue, fits⟩
  rcases readPrimitive_ofSize fits hasSize with ⟨bytes, sizeFits, take, isTake, _, takes⟩
  rw [TlvElement.bytes, TlvElement.contentBytes, isValue] at cut
  simp only [bytes] at cut
  rw [← List.append_assoc] at cut
  rcases prefix_append_cases cut with ⟨lacking, lacks, within⟩ | ⟨more, rfl, _⟩
  · -- the cut lies in the tag or in the size
    have lengths := congrArg List.length within
    have lackingLength := List.length_pos_iff.mpr lacks
    simp only [List.length_append, encode_length] at lengths
    apply iff_of_true _ (by omega)
    apply decode_fails_of_rejects _ lacks within
    intro depth _
    apply rejects_internal_of_value wellFormed
    intro _
    rw [decodeTlvInternalValue, decodeTlvValueRec_hasValue _ _ hasValue]
    apply Rejects.andThen
    show Rejects _ (readPrimitive element.typeLength) _
    rw [isTake]
    exact (rejects_ofLength length _).andThen
  · rcases decode_ofSize wellFormed readable hasValue sizeFits isTake takes more with
      ⟨decoded, returns⟩
    apply iff_of_false
    · rintro ⟨failure, failed⟩
      rw [returns] at failed
      cases failed
    · simp

/-- Every strict prefix of an encoding is rejected, except for a single string or byte
string that is cut off behind its size. -/
theorem decode_cut_fails_iff {stream : TlvStream} {encoded left missing : Bytes}
    (nested : WellNested stream) (wellFormed : ∀ element ∈ stream, element.WellFormed)
    (encodes : encode stream = .ok encoded) (notEmpty : missing ≠ [])
    (cut : left ++ missing = encoded) :
    (∃ failure, decode left = .error failure) ↔ ¬CutInPayload stream left := by
  rw [encode_eq wellFormed] at encodes
  cases encodes
  cases nested with
  | @primitive element isPrimitive =>
    rw [List.forall_mem_singleton] at wellFormed
    rw [streamBytes_cons, streamBytes_nil, List.append_nil] at cut
    by_cases readable : element.Readable
    · cases hasSize : element.typeLength.sizeLength with
      | none =>
        apply iff_of_true
        · exact decode_fails_of_rejects (fun _ _ => rejects_single wellFormed hasSize) notEmpty cut
        · rintro ⟨other, length, isOther, otherSize, _⟩
          cases isOther
          rw [hasSize] at otherSize
          cases otherSize
      | some length =>
        rw [decode_cutString_iff wellFormed readable hasSize cut, ← Nat.not_le, not_iff_not]
        constructor
        · intro behind
          exact ⟨element, length, rfl, hasSize, readable, behind⟩
        · rintro ⟨other, otherLength, isOther, otherSize, _, behind⟩
          cases isOther
          rw [hasSize] at otherSize
          cases otherSize
          exact behind
    · apply iff_of_true
      · apply decode_fails_of_rejects _ notEmpty cut
        intro depth _
        exact rejects_internal_of_value wellFormed fun isReadable => absurd isReadable readable
      · rintro ⟨other, length, isOther, _, otherReadable, _⟩
        cases isOther
        exact readable otherReadable
  | @container element closing inner container contents ends =>
    rw [List.forall_mem_cons] at wellFormed
    apply iff_of_true
    · apply decode_fails_of_rejects _ notEmpty cut
      intro depth deep
      exact rejects_wellNestedContainer wellFormed.1 container contents ends wellFormed.2 deep
    · rintro ⟨single, length, isSingle, _⟩
      simp at isSingle

def byteStream : TlvStream :=
  [{ tag := none, typeLength := .byteString .oneByte, value := some (.bytes [1, 2]) }]

theorem byteStream_nested : WellNested byteStream :=
  .primitive trivial

theorem byteStream_wellFormed : ∀ element ∈ byteStream, element.WellFormed := by
  have fits : (TlvPrimitive.bytes [1, 2]).Fits (.byteString .oneByte) := by
    rw [TlvPrimitive.Fits]
    decide
  rw [byteStream, List.forall_mem_singleton]
  exact wellFormed_of_value trivial fits trivial (by simp)

/-- Cut off in its size, the byte string is rejected. -/
theorem decode_cut_fails_iff_byteStream :
    (∃ failure, decode [0x10] = .error failure) ↔ ¬CutInPayload byteStream [0x10] :=
  decode_cut_fails_iff byteStream_nested byteStream_wellFormed
    (show encode byteStream = .ok [0x10, 2, 1, 2] from rfl)
    (List.cons_ne_nil 2 [1, 2]) rfl

/-- Cut off in its payload, it is decoded as a shorter one. -/
theorem cutByteStream_decodes :
    ¬∀ stream encoded left missing, WellNested stream →
      (∀ element ∈ stream, element.WellFormed) → encode stream = .ok encoded →
      missing ≠ [] → left ++ missing = encoded → ∃ failure, decode left = .error failure := by
  intro all
  rcases all byteStream [0x10, 2, 1, 2] [0x10, 2, 1] [2] byteStream_nested
    byteStream_wellFormed rfl (List.cons_ne_nil _ _) rfl with ⟨failure, failed⟩
  cases failed

end AnySchema

end MatterJs.Types
