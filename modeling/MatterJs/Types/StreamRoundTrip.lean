import MatterJs.Types.CodecRoundTrip

/-! Well-nested streams of TLV elements, written to bytes and read back. -/

namespace MatterJs.Types

open General ByteOrder Consumption
open DataReader (reading taking source)
open TlvCodec

namespace TlvTypeLength

def IsContainer : TlvTypeLength → Prop
  | .struct | .array | .list => True
  | _ => False

def IsPrimitive : TlvTypeLength → Prop
  | .struct | .array | .list | .endOfContainer | .reserved _ => False
  | _ => True

def HasValue : TlvTypeLength → Prop
  | .signedInt _ | .unsignedInt _ | .float _ | .utf8String _ | .byteString _ => True
  | _ => False

def impliedValue : TlvTypeLength → Option TlvPrimitive
  | .boolean value => some (.boolean value)
  | .null => some .null
  | _ => none

instance : DecidablePred IsContainer := fun typeLength => by
  cases typeLength <;> unfold IsContainer <;> infer_instance

instance : DecidablePred IsPrimitive := fun typeLength => by
  cases typeLength <;> unfold IsPrimitive <;> infer_instance

instance : DecidablePred HasValue := fun typeLength => by
  cases typeLength <;> unfold HasValue <;> infer_instance

theorem IsContainer.ne_end {typeLength : TlvTypeLength} (container : typeLength.IsContainer) :
    typeLength ≠ .endOfContainer := by
  rintro rfl
  exact container

theorem IsPrimitive.ne_end {typeLength : TlvTypeLength} (isPrimitive : typeLength.IsPrimitive) :
    typeLength ≠ .endOfContainer := by
  rintro rfl
  exact isPrimitive

end TlvTypeLength

namespace TlvElement

variable (element : TlvElement)

def filled : TlvElement :=
  if element.typeLength.HasValue then element
  else { element with value := element.typeLength.impliedValue }

def readBack (element : TlvElement) : TlvElement :=
  { element.filled with value := element.filled.value.map TlvPrimitive.readBack }

/-- The element has a known type, one of the tag forms, and a value of its type within
the declared width. A boolean or null may leave its value to the type. -/
structure WellFormed (element : TlvElement) : Prop where
  known : element.typeLength.Known
  tag : ∀ tag ∈ element.tag, tag.WellFormed
  value : element.typeLength.HasValue →
    ∃ value, element.value = some value ∧ value.Fits element.typeLength
  noValue : ¬element.typeLength.HasValue →
    element.value = none ∨ element.value = element.typeLength.impliedValue

def contentBytes : Bytes :=
  match element.value with
  | some value => primitiveBytes element.typeLength value
  | none => []

def bytes : Bytes :=
  tagBytes element.typeLength element.tag ++ element.contentBytes

def Readable : Prop :=
  ∀ tag ∈ element.tag, ¬tag.IsFullyQualified64

def KeepsText : Prop :=
  ∀ text, element.value = some (.string text) → text.head? ≠ some Utf8.byteOrderMark

theorem readBack_eq_self_iff (value : TlvPrimitive) :
    value.readBack = value ↔
      ∀ text, value = .string text → text.head? ≠ some Utf8.byteOrderMark := by
  cases value with
  | string text =>
    rw [TlvPrimitive.readBack, TlvPrimitive.string.injEq, DataReader.dropByteOrderMark_eq_iff]
    simp
  | number | float | bytes | boolean | null => simp [TlvPrimitive.readBack]

theorem filled_readBack_iff {element : TlvElement} (wellFormed : element.WellFormed) :
    element.readBack.filled = element.filled ↔ element.KeepsText := by
  by_cases hasValue : element.typeLength.HasValue
  · rcases wellFormed.value hasValue with ⟨value, isValue, _⟩
    rcases element with ⟨tag, typeLength, present⟩
    subst isValue
    simp [readBack, filled, hasValue, KeepsText, readBack_eq_self_iff]
  · rcases element with ⟨tag, typeLength, present⟩
    simp only [readBack, filled, if_neg hasValue, true_iff]
    rintro text rfl
    rcases wellFormed.noValue hasValue with absent | implied
    · cases absent
    · cases typeLength <;> cases implied

theorem contentBytes_of_noValue {element : TlvElement} (wellFormed : element.WellFormed)
    (noValue : ¬element.typeLength.HasValue) : element.contentBytes = [] := by
  rw [contentBytes]
  rcases wellFormed.noValue noValue with absent | implied
  · rw [absent]
  · rw [implied]
    cases element.typeLength <;> rfl

theorem bytes_length_pos : 0 < element.bytes.length := by
  simp [bytes, tagBytes]

end TlvElement

def streamBytes (stream : TlvStream) : Bytes :=
  stream.flatMap TlvElement.bytes

@[simp] theorem streamBytes_nil : streamBytes [] = [] := rfl

@[simp] theorem streamBytes_cons (element : TlvElement) (stream : TlvStream) :
    streamBytes (element :: stream) = element.bytes ++ streamBytes stream := rfl

@[simp] theorem streamBytes_append (first second : TlvStream) :
    streamBytes (first ++ second) = streamBytes first ++ streamBytes second :=
  List.flatMap_append

theorem length_le_streamBytes (stream : TlvStream) :
    stream.length ≤ (streamBytes stream).length := by
  induction stream with
  | nil => simp
  | cons element stream induction =>
    have positive := element.bytes_length_pos
    rw [streamBytes_cons, List.length_append, List.length_cons]
    omega

/-! ## Writing a stream -/

/-- The value of the element, if it has one, can be written. -/
def TlvElement.Writable (element : TlvElement) : Prop :=
  element.typeLength.Known ∧ (∀ tag ∈ element.tag, tag.WellFormed) ∧
    ∀ value ∈ element.value, value.Fits element.typeLength

theorem write_eq {writer : DataWriter} (little : writer.endian = .little)
    {element : TlvElement} (writable : element.Writable) :
    ∃ next, TlvByteArrayWriter.write writer element = .ok next ∧ next.endian = .little ∧
      next.toByteArray = writer.toByteArray ++ element.bytes := by
  rcases writable with ⟨known, tag, value⟩
  rcases writeTag_eq little known tag with ⟨tagged, tagRun, taggedLittle, taggedBytes⟩
  cases present : element.value with
  | none =>
    refine ⟨tagged, ?_, taggedLittle, ?_⟩
    · rw [TlvByteArrayWriter.write, tagRun, present]
      rfl
    · rw [taggedBytes, TlvElement.bytes, TlvElement.contentBytes, present, List.append_nil]
  | some primitive =>
    rcases writePrimitive_eq taggedLittle (value primitive present) with
      ⟨next, run, nextLittle, nextBytes⟩
    refine ⟨next, ?_, nextLittle, ?_⟩
    · rw [TlvByteArrayWriter.write, tagRun, present]
      exact run
    · rw [nextBytes, taggedBytes, TlvElement.bytes, TlvElement.contentBytes, present,
        List.append_assoc]

theorem foldlM_write_eq {stream : TlvStream} (writable : ∀ element ∈ stream, element.Writable)
    {writer : DataWriter} (little : writer.endian = .little) :
    ∃ next, stream.foldlM TlvByteArrayWriter.write writer = .ok next ∧
      next.toByteArray = writer.toByteArray ++ streamBytes stream := by
  induction stream generalizing writer with
  | nil => exact ⟨writer, rfl, (List.append_nil _).symm⟩
  | cons element stream induction =>
    rcases write_eq little (writable element List.mem_cons_self) with
      ⟨middle, run, middleLittle, middleBytes⟩
    rcases induction (fun other member => writable other (List.mem_cons_of_mem _ member))
      middleLittle with ⟨next, rest, nextBytes⟩
    refine ⟨next, ?_, ?_⟩
    · rw [List.foldlM_cons, run]
      exact rest
    · rw [nextBytes, middleBytes, streamBytes_cons, List.append_assoc]

theorem toByteArray_eq {stream : TlvStream} (writable : ∀ element ∈ stream, element.Writable) :
    TlvByteArrayWriter.toByteArray stream = .ok (streamBytes stream) := by
  rcases foldlM_write_eq writable (DataWriter.endian_new .little) with ⟨next, run, bytes⟩
  rw [TlvByteArrayWriter.toByteArray, run]
  exact congrArg Except.ok bytes

namespace AnySchema

def passedOn (element : TlvElement) : TlvElement :=
  if element.typeLength.HasValue then element else { element with value := none }

theorem encodeElement_eq {element : TlvElement} (wellFormed : element.WellFormed) :
    encodeElement element.tag element = .ok [passedOn element] := by
  rcases element with ⟨tag, typeLength, value⟩
  have value := wellFormed.value
  have known := wellFormed.known
  cases typeLength with
  | reserved code => exact known.elim
  | signedInt | unsignedInt | float | utf8String | byteString =>
    rcases value trivial with ⟨present, isPresent, _⟩
    subst isPresent
    rfl
  | boolean | null | struct | array | list | endOfContainer => rfl

theorem encodeElements_eq {stream : TlvStream}
    (wellFormed : ∀ element ∈ stream, element.WellFormed) :
    encodeElements stream = .ok (stream.map passedOn) := by
  induction stream with
  | nil => rfl
  | cons element stream induction =>
    rw [encodeElements, encodeElement_eq (wellFormed element List.mem_cons_self),
      induction (fun other member => wellFormed other (List.mem_cons_of_mem _ member))]
    rfl

theorem encodeTlvInternal_none (stream : TlvStream) :
    encodeTlvInternal stream none = encodeElements stream := by
  cases stream <;> rfl

theorem writable_passedOn {element : TlvElement} (wellFormed : element.WellFormed) :
    (passedOn element).Writable := by
  rw [passedOn]
  split
  · rename_i hasValue
    rcases wellFormed.value hasValue with ⟨value, isValue, fits⟩
    refine ⟨wellFormed.known, wellFormed.tag, ?_⟩
    intro other isOther
    rw [isValue] at isOther
    cases isOther
    exact fits
  · exact ⟨wellFormed.known, wellFormed.tag, nofun⟩

theorem bytes_passedOn {element : TlvElement} (wellFormed : element.WellFormed) :
    (passedOn element).bytes = element.bytes := by
  rw [passedOn]
  split
  · rfl
  · rename_i noValue
    rw [TlvElement.bytes, TlvElement.bytes, TlvElement.contentBytes_of_noValue wellFormed noValue]
    rfl

theorem encode_eq {stream : TlvStream} (wellFormed : ∀ element ∈ stream, element.WellFormed) :
    encode stream = .ok (streamBytes stream) := by
  have writable : ∀ element ∈ stream.map passedOn, element.Writable := by
    intro element member
    rcases List.mem_map.mp member with ⟨origin, isOrigin, rfl⟩
    exact writable_passedOn (wellFormed origin isOrigin)
  have sameBytes : streamBytes (stream.map passedOn) = streamBytes stream := by
    rw [streamBytes, List.flatMap_map]
    apply List.flatMap_congr
    intro element member
    exact bytes_passedOn (wellFormed element member)
  rw [encode, encodeTlvInternal_none, encodeElements_eq wellFormed, ← sameBytes]
  exact toByteArray_eq writable

end AnySchema

/-- A sequence of complete elements. -/
inductive Contents : TlvStream → Prop
  | nil : Contents []
  | primitive {element : TlvElement} {rest : TlvStream} :
      element.typeLength.IsPrimitive → Contents rest → Contents (element :: rest)
  | container {element closing : TlvElement} {inner rest : TlvStream} :
      element.typeLength.IsContainer → Contents inner →
      closing.typeLength = .endOfContainer → Contents rest →
      Contents (element :: (inner ++ closing :: rest))

/-- One complete element. -/
inductive WellNested : TlvStream → Prop
  | primitive {element : TlvElement} :
      element.typeLength.IsPrimitive → WellNested [element]
  | container {element closing : TlvElement} {inner : TlvStream} :
      element.typeLength.IsContainer → Contents inner →
      closing.typeLength = .endOfContainer →
      WellNested (element :: (inner ++ [closing]))

/-! ## Reading a stream -/

section Reading

variable {element : TlvElement}

theorem reads_tag (wellFormed : element.WellFormed) (readable : element.Readable) :
    Reads (source .little) readTagType (tagBytes element.typeLength element.tag)
      (element.tag, element.typeLength) :=
  reads_readTagType wellFormed.known wellFormed.tag readable

end Reading

namespace AnySchema

/-- The loop over the elements of a container. -/
def decodeContents {State : Type} (reader : TlvReader State) (depth fuel : Nat)
    (tlvStream : TlvStream) : Action State MatterError TlvStream :=
  loop fuelExhausted
    (fun tlvStream => do
      let (elementTag, typeLengthElement) ← reader.readTagType
      let tlvStream ← decodeTlvValueRec reader depth typeLengthElement tlvStream elementTag
      return if typeLengthElement = .endOfContainer then .done tlvStream
        else .yield tlvStream)
    fuel tlvStream

theorem decodeContents_succ {State : Type} (reader : TlvReader State) (depth fuel : Nat)
    (tlvStream : TlvStream) :
    decodeContents reader depth (fuel + 1) tlvStream =
      reader.readTagType >>= fun read =>
        decodeTlvValueRec reader depth read.2 tlvStream read.1 >>= fun tlvStream =>
          if read.2 = .endOfContainer then pure tlvStream
          else decodeContents reader depth fuel tlvStream := by
  rw [decodeContents, loop]
  simp only [bind_assoc]
  apply bind_congr
  intro read
  by_cases ends : read.2 = .endOfContainer
  · simp [ends]
  · simp [ends, decodeContents]

theorem decodeTlvValueRec_hasValue {State : Type} (reader : TlvReader State) (depth : Nat)
    {typeLength : TlvTypeLength} (hasValue : typeLength.HasValue) (tlvStream : TlvStream)
    (tag : Option TlvTag) :
    decodeTlvValueRec reader depth typeLength tlvStream tag =
      reader.readPrimitive typeLength >>= fun value =>
        pure (tlvStream ++ [{ tag, typeLength, value := some value }]) := by
  cases typeLength with
  | signedInt | unsignedInt | float | utf8String | byteString => cases depth <;> rfl
  | _ => exact hasValue.elim

variable {element closing : TlvElement} {depth fuel : Nat} {tlvStream inner : TlvStream}

theorem readBack_of_hasValue {value : TlvPrimitive} (hasValue : element.typeLength.HasValue)
    (isValue : element.value = some value) :
    element.readBack = { element with value := some value.readBack } := by
  rw [TlvElement.readBack, TlvElement.filled, if_pos hasValue, isValue]
  rfl

theorem readBack_of_noValue (noValue : ¬element.typeLength.HasValue) :
    element.readBack = { element with value := element.typeLength.impliedValue } := by
  rw [TlvElement.readBack, TlvElement.filled, if_neg noValue]
  cases element.typeLength <;> rfl

theorem reads_primitive (wellFormed : element.WellFormed)
    (isPrimitive : element.typeLength.IsPrimitive) :
    Reads (source .little)
      (decodeTlvValueRec TlvByteArrayReader depth element.typeLength tlvStream element.tag)
      element.contentBytes (tlvStream ++ [element.readBack]) := by
  by_cases hasValue : element.typeLength.HasValue
  · rcases wellFormed.value hasValue with ⟨value, isValue, fits⟩
    rw [decodeTlvValueRec_hasValue _ _ hasValue, readBack_of_hasValue hasValue isValue,
      TlvElement.contentBytes, isValue]
    exact (reads_readPrimitive fits).map _
  · rw [TlvElement.contentBytes_of_noValue wellFormed hasValue]
    rcases element with ⟨tag, typeLength, value⟩
    cases typeLength with
    | boolean | null => cases depth <;> exact Reads.pure _
    | signedInt | unsignedInt | float | utf8String | byteString => exact absurd trivial hasValue
    | struct | array | list | endOfContainer | reserved => exact isPrimitive.elim

theorem reads_closing (wellFormed : closing.WellFormed) (readable : closing.Readable)
    (ends : closing.typeLength = .endOfContainer) (enough : 0 < fuel) :
    Reads (source .little) (decodeContents TlvByteArrayReader depth fuel tlvStream)
      closing.bytes (tlvStream ++ [closing.readBack]) := by
  cases fuel with
  | zero => exact absurd enough (Nat.lt_irrefl 0)
  | succ fuel =>
    have noValue : ¬closing.typeLength.HasValue := by simp [ends, TlvTypeLength.HasValue]
    rw [decodeContents_succ]
    apply Reads.bind (reads_tag wellFormed readable)
    rw [TlvElement.contentBytes_of_noValue wellFormed noValue]
    rcases closing with ⟨tag, typeLength, value⟩
    subst ends
    cases depth <;> exact (Reads.pure _).map _

theorem contentBytes_of_container (wellFormed : element.WellFormed)
    (container : element.typeLength.IsContainer) : element.contentBytes = [] := by
  apply TlvElement.contentBytes_of_noValue wellFormed
  cases isType : element.typeLength <;> simp_all [TlvTypeLength.IsContainer,
    TlvTypeLength.HasValue]

theorem decodeTlvValueRec_of_container (container : element.typeLength.IsContainer) :
    decodeTlvValueRec TlvByteArrayReader (depth + 1) element.typeLength tlvStream element.tag =
      decodeContents TlvByteArrayReader depth (depth + 1) (tlvStream ++ [element.readBack]) := by
  rcases element with ⟨tag, typeLength, value⟩
  cases typeLength with
  | struct | array | list => rfl
  | _ => exact container.elim

theorem reads_container (wellFormed : element.WellFormed)
    (container : element.typeLength.IsContainer) {items : Bytes} {result : TlvStream}
    (contents : Reads (source .little)
      (decodeContents TlvByteArrayReader depth (depth + 1) (tlvStream ++ [element.readBack]))
      items result) :
    Reads (source .little)
      (decodeTlvValueRec TlvByteArrayReader (depth + 1) element.typeLength tlvStream
        element.tag) (element.contentBytes ++ items) result := by
  rw [contentBytes_of_container wellFormed container, decodeTlvValueRec_of_container container]
  exact contents

variable {property : Action DataReader MatterError TlvStream → Bytes → Prop}

theorem round_carriesBack (carries : CarriesBack (source .little) property)
    (wellFormed : element.WellFormed) (readable : element.Readable)
    (notEnd : element.typeLength ≠ .endOfContainer) {items moreItems : Bytes}
    {after : TlvStream}
    (value : Reads (source .little)
      (decodeTlvValueRec TlvByteArrayReader depth element.typeLength tlvStream element.tag)
      (element.contentBytes ++ items) after)
    (following : property (decodeContents TlvByteArrayReader depth fuel after) moreItems) :
    property (decodeContents TlvByteArrayReader depth (fuel + 1) tlvStream)
      (element.bytes ++ items ++ moreItems) := by
  rw [decodeContents_succ, TlvElement.bytes, List.append_assoc, List.append_assoc,
    ← List.append_assoc element.contentBytes]
  apply carries.bind (reads_tag wellFormed readable)
  simp only [if_neg notEnd]
  exact carries.bind value following

theorem contents_carriesBack {stream : TlvStream} (contents : Contents stream)
    (carries : CarriesBack (source .little) property)
    (wellFormed : ∀ element ∈ stream, element.WellFormed)
    (readable : ∀ element ∈ stream, element.Readable)
    (deep : (streamBytes stream).length < depth) (enough : stream.length < fuel)
    {items : Bytes}
    (last : ∀ fuel, 0 < fuel → property
      (decodeContents TlvByteArrayReader depth fuel
        (tlvStream ++ stream.map TlvElement.readBack)) items) :
    property (decodeContents TlvByteArrayReader depth fuel tlvStream)
      (streamBytes stream ++ items) := by
  induction contents generalizing depth fuel tlvStream items property with
  | nil =>
    rw [List.map_nil, List.append_nil] at last
    exact last fuel enough
  | @primitive element rest isPrimitive _ induction =>
    simp only [List.forall_mem_cons] at wellFormed readable
    rw [streamBytes_cons, List.length_append] at deep
    cases fuel with
    | zero => exact absurd enough (Nat.not_lt_zero _)
    | succ fuel =>
      have value := @reads_primitive _ depth tlvStream wellFormed.1 isPrimitive
      rw [← List.append_nil element.contentBytes] at value
      rw [streamBytes_cons, List.append_assoc, ← List.append_nil element.bytes]
      apply round_carriesBack carries wellFormed.1 readable.1 isPrimitive.ne_end value
      apply induction carries wellFormed.2 readable.2 (by omega) (Nat.lt_of_succ_lt_succ enough)
      simpa using last
  | @container element closing inner rest container _ ends _ innerInduction restInduction =>
    simp only [List.forall_mem_cons, List.forall_mem_append] at wellFormed readable
    rcases wellFormed with ⟨elementWellFormed, innerWellFormed, closingWellFormed, restWellFormed⟩
    rcases readable with ⟨elementReadable, innerReadable, closingReadable, restReadable⟩
    have openingLength := element.bytes_length_pos
    have innerLength := length_le_streamBytes inner
    simp only [streamBytes_cons, streamBytes_append, List.length_append] at deep
    simp only [List.length_cons, List.length_append] at enough
    cases fuel with
    | zero => exact absurd enough (Nat.not_lt_zero _)
    | succ fuel =>
      cases depth with
      | zero => exact absurd deep (Nat.not_lt_zero _)
      | succ depth =>
        -- what is nested is read by the induction, up to where its container ends
        have innerReads : Reads (source .little)
            (decodeContents TlvByteArrayReader depth (depth + 1) (tlvStream ++ [element.readBack]))
            (streamBytes inner ++ closing.bytes)
            (tlvStream ++ [element.readBack] ++ inner.map TlvElement.readBack ++
              [closing.readBack]) :=
          innerInduction (Reads.carriesBack _) innerWellFormed innerReadable (by omega)
            (by omega) (fun _ => reads_closing closingWellFormed closingReadable ends)
        have bytes : streamBytes (element :: (inner ++ closing :: rest)) ++ items =
            element.bytes ++ (streamBytes inner ++ closing.bytes) ++
              (streamBytes rest ++ items) := by
          simp
        rw [bytes]
        apply round_carriesBack carries elementWellFormed elementReadable
          container.ne_end (reads_container elementWellFormed container innerReads)
        apply restInduction carries restWellFormed restReadable (by omega) (by omega)
        simpa using last

theorem reads_contents (contents : Contents inner) (ends : closing.typeLength = .endOfContainer)
    (wellFormed : ∀ element ∈ inner ++ [closing], element.WellFormed)
    (readable : ∀ element ∈ inner ++ [closing], element.Readable)
    (deep : (streamBytes inner).length < depth) (enough : inner.length < fuel) :
    Reads (source .little) (decodeContents TlvByteArrayReader depth fuel tlvStream)
      (streamBytes (inner ++ [closing]))
      (tlvStream ++ (inner ++ [closing]).map TlvElement.readBack) := by
  simp only [List.forall_mem_append, List.forall_mem_singleton] at wellFormed readable
  rw [streamBytes_append, streamBytes_cons, streamBytes_nil, List.append_nil, List.map_append,
    ← List.append_assoc]
  exact contents_carriesBack contents (Reads.carriesBack _) wellFormed.1 readable.1 deep enough
    (fun _ => reads_closing wellFormed.2 readable.2 ends)

theorem reads_wellNested {element : TlvElement} {rest : TlvStream}
    (nested : WellNested (element :: rest))
    (wellFormed : ∀ other ∈ element :: rest, other.WellFormed)
    (readable : ∀ other ∈ element :: rest, other.Readable)
    (deep : (streamBytes rest).length < depth) :
    Reads (source .little)
      (decodeTlvValueRec TlvByteArrayReader depth element.typeLength tlvStream element.tag)
      (element.contentBytes ++ streamBytes rest)
      (tlvStream ++ (element :: rest).map TlvElement.readBack) := by
  simp only [List.forall_mem_cons] at wellFormed readable
  cases nested with
  | primitive isPrimitive =>
    rw [streamBytes_nil, List.append_nil]
    exact reads_primitive wellFormed.1 isPrimitive
  | @container _ closing inner container contents ends =>
    have innerLength := length_le_streamBytes inner
    have closingLength := closing.bytes_length_pos
    have restLength : (streamBytes (inner ++ [closing])).length =
        (streamBytes inner).length + closing.bytes.length := by simp
    cases depth with
    | zero => exact absurd deep (Nat.not_lt_zero _)
    | succ depth =>
      apply reads_container wellFormed.1 container
      have contentsRead := @reads_contents closing depth (depth + 1)
        (tlvStream ++ [element.readBack]) inner contents ends wellFormed.2 readable.2
        (by omega) (by omega)
      rwa [List.append_assoc] at contentsRead

/-! ## Tags beyond the reader -/

theorem fails_tag (wellFormed : element.WellFormed) (unreadable : ¬element.Readable) :
    Fails (source .little) readTagType (tagBytes element.typeLength element.tag) := by
  simp only [TlvElement.Readable, not_forall, not_not] at unreadable
  rcases unreadable with ⟨tag, isTag, long⟩
  rw [Option.mem_def.mp isTag]
  exact fails_readTagType wellFormed.known long

theorem fails_round (wellFormed : element.WellFormed) (unreadable : ¬element.Readable)
    (items : Bytes) :
    Fails (source .little) (decodeContents TlvByteArrayReader depth fuel tlvStream)
      (element.bytes ++ items) := by
  cases fuel with
  | zero => exact Fails.throw _
  | succ fuel =>
    rw [decodeContents_succ, TlvElement.bytes, List.append_assoc]
    exact (fails_tag wellFormed unreadable).bind

theorem unreadable_cons_cases {stream : TlvStream}
    (unreadable : ¬∀ other ∈ element :: stream, other.Readable) :
    ¬element.Readable ∨ element.Readable ∧ ¬∀ other ∈ stream, other.Readable := by
  rw [List.forall_mem_cons] at unreadable
  tauto

theorem unreadable_append_cases {first second : TlvStream}
    (unreadable : ¬∀ other ∈ first ++ second, other.Readable) :
    (¬∀ other ∈ first, other.Readable) ∨
      (∀ other ∈ first, other.Readable) ∧ ¬∀ other ∈ second, other.Readable := by
  rw [List.forall_mem_append] at unreadable
  tauto

theorem fails_value (wellFormed : element.WellFormed) (readable : element.Readable)
    (container : element.typeLength.IsContainer) {items : Bytes} (moreItems : Bytes)
    (contents : Fails (source .little)
      (decodeContents TlvByteArrayReader depth (depth + 1) (tlvStream ++ [element.readBack]))
      items) :
    Fails (source .little) (decodeContents TlvByteArrayReader (depth + 1) fuel tlvStream)
      (element.bytes ++ items ++ moreItems) := by
  cases fuel with
  | zero => exact Fails.throw _
  | succ fuel =>
    rw [decodeContents_succ, TlvElement.bytes, contentBytes_of_container wellFormed container,
      List.append_nil, List.append_assoc]
    apply Reads.bind_fails (reads_tag wellFormed readable)
    rw [decodeTlvValueRec_of_container container]
    exact contents.bind

theorem fails_closing (wellFormed : closing.WellFormed) (unreadable : ¬closing.Readable) :
    Fails (source .little) (decodeContents TlvByteArrayReader depth fuel tlvStream)
      closing.bytes := by
  rw [← List.append_nil closing.bytes]
  exact fails_round wellFormed unreadable []

/-- The loop does not get past an element it cannot read, nested or not. -/
theorem fails_contents {stream : TlvStream} (contents : Contents stream)
    (wellFormed : ∀ element ∈ stream, element.WellFormed)
    (unreadable : ¬∀ element ∈ stream, element.Readable)
    (deep : (streamBytes stream).length < depth) (enough : stream.length < fuel)
    (items : Bytes) :
    Fails (source .little) (decodeContents TlvByteArrayReader depth fuel tlvStream)
      (streamBytes stream ++ items) := by
  induction contents generalizing depth fuel tlvStream items with
  | nil => exact absurd (by simp) unreadable
  | @primitive element rest isPrimitive _ induction =>
    simp only [List.forall_mem_cons] at wellFormed
    rw [streamBytes_cons, List.length_append] at deep
    rw [streamBytes_cons, List.append_assoc]
    rcases unreadable_cons_cases unreadable with atTag | ⟨readable, later⟩
    · exact fails_round wellFormed.1 atTag _
    · cases fuel with
      | zero => exact Fails.throw _
      | succ fuel =>
        have value := @reads_primitive _ depth tlvStream wellFormed.1 isPrimitive
        rw [← List.append_nil element.contentBytes] at value
        rw [← List.append_nil element.bytes]
        exact round_carriesBack Fails.carriesBack wellFormed.1 readable
          isPrimitive.ne_end value (induction wellFormed.2 later (by omega)
            (Nat.lt_of_succ_lt_succ enough) items)
  | @container element closing inner rest container contents ends _ innerInduction
      restInduction =>
      simp only [List.forall_mem_cons, List.forall_mem_append] at wellFormed
      rcases wellFormed with ⟨elementWellFormed, innerWellFormed, closingWellFormed, restWellFormed⟩
      have openingLength := element.bytes_length_pos
      have innerLength := length_le_streamBytes inner
      simp only [streamBytes_cons, streamBytes_append, List.length_append] at deep
      simp only [List.length_cons, List.length_append] at enough
      rcases unreadable_cons_cases unreadable with atTag | ⟨readable, later⟩
      · rw [streamBytes_cons, List.append_assoc]
        exact fails_round elementWellFormed atTag _
      cases fuel with
      | zero => exact Fails.throw _
      | succ fuel =>
        cases depth with
        | zero => exact absurd deep (Nat.not_lt_zero _)
        | succ depth =>
          have bytes : streamBytes (element :: (inner ++ closing :: rest)) ++ items =
              element.bytes ++ (streamBytes inner ++ closing.bytes) ++
                (streamBytes rest ++ items) := by
            simp
          rw [bytes]
          rcases unreadable_append_cases later with inInner | ⟨innerReadable, behind⟩
          · apply fails_value elementWellFormed readable container
            exact innerInduction innerWellFormed inInner (by omega) (by omega) _
          rcases unreadable_cons_cases behind with atClosing | ⟨closingReadable, inRest⟩
          · apply fails_value elementWellFormed readable container
            exact contents_carriesBack contents Fails.carriesBack innerWellFormed
              innerReadable (by omega) (by omega)
              (fun _ _ => fails_closing closingWellFormed atClosing)
          · have innerReads : Reads (source .little)
                (decodeContents TlvByteArrayReader depth (depth + 1)
                  (tlvStream ++ [element.readBack]))
                (streamBytes inner ++ closing.bytes)
                (tlvStream ++ [element.readBack] ++ inner.map TlvElement.readBack ++
                  [closing.readBack]) :=
              contents_carriesBack contents (Reads.carriesBack _) innerWellFormed
                innerReadable (by omega) (by omega)
                (fun _ => reads_closing closingWellFormed closingReadable ends)
            exact round_carriesBack Fails.carriesBack elementWellFormed readable
              container.ne_end (reads_container elementWellFormed container innerReads)
              (restInduction restWellFormed inRest (by omega) (by omega) items)

/-- The loop does not get to the end of a container with such an element in it. -/
theorem fails_inner (contents : Contents inner)
    (wellFormed : ∀ element ∈ inner ++ [closing], element.WellFormed)
    (unreadable : ¬∀ element ∈ inner ++ [closing], element.Readable)
    (deep : (streamBytes inner).length < depth) (enough : inner.length < fuel) :
    Fails (source .little) (decodeContents TlvByteArrayReader depth fuel tlvStream)
      (streamBytes (inner ++ [closing])) := by
  simp only [List.forall_mem_append, List.forall_mem_singleton] at wellFormed
  rw [streamBytes_append, streamBytes_cons, streamBytes_nil, List.append_nil]
  rcases unreadable_append_cases unreadable with inInner | ⟨readable, atClosing⟩
  · exact fails_contents contents wellFormed.1 inInner deep enough _
  · rw [List.forall_mem_singleton] at atClosing
    exact contents_carriesBack contents Fails.carriesBack wellFormed.1 readable deep enough
      (fun _ _ => fails_closing wellFormed.2 atClosing)

/-! ## The stream that comes back -/

def SameStream (first second : TlvStream) : Prop :=
  first.map TlvElement.filled = second.map TlvElement.filled

/-- The stream as the schema hands it out, without the tag of the outermost element. -/
def withoutOuterTag : TlvStream → TlvStream
  | [] => []
  | element :: rest => { element with tag := none } :: rest

def RoundTrips (stream : TlvStream) : Prop :=
  ∃ encoded decoded, encode stream = .ok encoded ∧ decode encoded = .ok decoded ∧
    SameStream decoded (withoutOuterTag stream)

theorem decode_of_reads {encoded : Bytes} {value : TlvStream} {tag : Option TlvTag}
    (reads : Reads (source .little) (decodeTlvInternal TlvByteArrayReader encoded.length)
      encoded (value, tag)) : decode encoded = .ok value := by
  rcases reads (DataReader.new encoded .little) [] rfl (List.append_nil _).symm with
    ⟨next, run, _, _⟩
  rw [decode, run]
  rfl

theorem decode_of_error {encoded : Bytes} {failure : MatterError}
    (failed : decodeTlvInternal TlvByteArrayReader encoded.length
      (DataReader.new encoded .little) = .error failure) :
    decode encoded = .error failure := by
  rw [decode, failed]
  rfl

theorem wellNested_withTag {element : TlvElement} {rest : TlvStream}
    (nested : WellNested (element :: rest)) (tag : Option TlvTag) :
    WellNested ({ element with tag } :: rest) := by
  cases nested with
  | primitive isPrimitive => exact .primitive isPrimitive
  | container container contents ends => exact .container container contents ends

theorem wellFormed_withTag (wellFormed : element.WellFormed) {tag : Option TlvTag}
    (tagForm : ∀ present ∈ tag, present.WellFormed) :
    ({ element with tag } : TlvElement).WellFormed where
  known := wellFormed.known
  tag := tagForm
  value := wellFormed.value
  noValue := wellFormed.noValue

theorem decode_streamBytes {stream : TlvStream} (nested : WellNested stream)
    (wellFormed : ∀ element ∈ stream, element.WellFormed)
    (readable : ∀ element ∈ stream, element.Readable) :
    decode (streamBytes stream) = .ok ((withoutOuterTag stream).map TlvElement.readBack) := by
  cases stream with
  | nil => cases nested
  | cons element rest =>
    simp only [List.forall_mem_cons] at wellFormed readable
    have tagLength : 0 < (tagBytes element.typeLength element.tag).length := by
      simp [tagBytes]
    have deep : (streamBytes rest).length < (streamBytes (element :: rest)).length := by
      rw [streamBytes_cons, TlvElement.bytes]
      simp only [List.length_append]
      omega
    have value := @reads_wellNested (streamBytes (element :: rest)).length [] _ _
      (wellNested_withTag nested none)
      (List.forall_mem_cons.mpr ⟨wellFormed_withTag wellFormed.1 (by simp), wellFormed.2⟩)
      (List.forall_mem_cons.mpr ⟨(fun _ isTag => by cases isTag), readable.2⟩) deep
    apply decode_of_reads
    conv =>
      arg 3
      rw [streamBytes_cons, TlvElement.bytes, List.append_assoc]
    exact (reads_tag wellFormed.1 readable.1).bind (value.map _)

/-- Nothing is handed out when an element is beyond the reader. -/
theorem decode_fails {stream : TlvStream} (nested : WellNested stream)
    (wellFormed : ∀ element ∈ stream, element.WellFormed)
    (unreadable : ¬∀ element ∈ stream, element.Readable) :
    ∃ failure, decode (streamBytes stream) = .error failure := by
  have fails : Fails (source .little)
      (decodeTlvInternal TlvByteArrayReader (streamBytes stream).length)
      (streamBytes stream) := by
    cases nested with
    | @primitive element isPrimitive =>
      simp only [List.forall_mem_singleton] at wellFormed unreadable
      rw [streamBytes_cons, TlvElement.bytes, List.append_assoc]
      exact (fails_tag wellFormed unreadable).bind
    | @container element closing inner container contents ends =>
      rw [List.forall_mem_cons] at wellFormed
      have openingLength := element.bytes_length_pos
      have innerLength := length_le_streamBytes inner
      have closingLength := length_le_streamBytes [closing]
      rw [List.length_singleton] at closingLength
      generalize depthEq : (streamBytes (element :: (inner ++ [closing]))).length = depth
      rw [streamBytes_cons, List.length_append, streamBytes_append, List.length_append] at depthEq
      rw [streamBytes_cons, TlvElement.bytes, List.append_assoc,
        contentBytes_of_container wellFormed.1 container]
      rcases unreadable_cons_cases unreadable with atTag | ⟨readable, later⟩
      · exact (fails_tag wellFormed.1 atTag).bind
      · apply Reads.bind_fails (reads_tag wellFormed.1 readable)
        apply Fails.map
        cases depth with
        | zero => omega
        | succ depth =>
          have value := @decodeTlvValueRec_of_container { element with tag := none }
            depth [] container
          simp only [decodeTlvInternalValue]
          rw [value]
          exact fails_inner contents wellFormed.2 later (by omega) (by omega)
  rcases fails (DataReader.new (streamBytes stream) .little) [] rfl
    (List.append_nil _).symm with ⟨failure, failed⟩
  exact ⟨failure, decode_of_error failed⟩

theorem sameStream_readBack_iff {stream : TlvStream}
    (wellFormed : ∀ element ∈ stream, element.WellFormed) :
    SameStream ((withoutOuterTag stream).map TlvElement.readBack) (withoutOuterTag stream) ↔
      ∀ element ∈ stream, element.KeepsText := by
  have elementwise {elements : TlvStream} (all : ∀ element ∈ elements, element.WellFormed) :
      SameStream (elements.map TlvElement.readBack) elements ↔
        ∀ element ∈ elements, element.KeepsText := by
    rw [SameStream, List.map_map, List.map_inj_left]
    exact forall₂_congr fun element member =>
      TlvElement.filled_readBack_iff (all element member)
  cases stream with
  | nil => exact elementwise wellFormed
  | cons element rest =>
    rw [List.forall_mem_cons] at wellFormed
    have untagged : ({ element with tag := none } : TlvElement).WellFormed :=
      wellFormed_withTag wellFormed.1 nofun
    rw [withoutOuterTag, elementwise (List.forall_mem_cons.mpr ⟨untagged, wellFormed.2⟩),
      List.forall_mem_cons, List.forall_mem_cons]
    rfl

/-- A well-nested stream comes back exactly when no element has the longest tag form,
which the writer emits but the reader does not know, and no text begins with a byte
order mark. -/
theorem roundTrips_iff {stream : TlvStream} (nested : WellNested stream)
    (wellFormed : ∀ element ∈ stream, element.WellFormed) :
    RoundTrips stream ↔ ∀ element ∈ stream, element.Readable ∧ element.KeepsText := by
  have encoded := encode_eq wellFormed
  by_cases readable : ∀ element ∈ stream, element.Readable
  · have decoded := decode_streamBytes nested wellFormed readable
    have same := sameStream_readBack_iff wellFormed
    constructor
    · rintro ⟨bytes, result, encodes, decodes, sameStream⟩ element member
      rw [encoded] at encodes
      cases encodes
      rw [decoded] at decodes
      cases decodes
      exact ⟨readable element member, same.mp sameStream element member⟩
    · intro all
      exact ⟨_, _, encoded, decoded, same.mpr fun element member => (all element member).2⟩
  · rcases decode_fails nested wellFormed readable with ⟨failure, failed⟩
    constructor
    · rintro ⟨bytes, decoded, encodes, decodes, _⟩
      rw [encoded] at encodes
      cases encodes
      rw [failed] at decodes
      cases decodes
    · intro all
      exact absurd (fun element member => (all element member).1) readable

theorem wellFormed_of_noValue {tag : Option TlvTag} {typeLength : TlvTypeLength}
    (known : typeLength.Known) (noValue : ¬typeLength.HasValue)
    (tagForm : ∀ present ∈ tag, present.WellFormed) :
    ({ tag, typeLength, value := none } : TlvElement).WellFormed where
  known := known
  tag := tagForm
  value hasValue := absurd hasValue noValue
  noValue _ := .inl rfl

theorem wellFormed_of_value {tag : Option TlvTag} {typeLength : TlvTypeLength}
    {value : TlvPrimitive} (known : typeLength.Known) (fits : value.Fits typeLength)
    (hasValue : typeLength.HasValue) (tagForm : ∀ present ∈ tag, present.WellFormed) :
    ({ tag, typeLength, value := some value } : TlvElement).WellFormed where
  known := known
  tag := tagForm
  value _ := ⟨value, rfl, fits⟩
  noValue absent := absurd hasValue absent

def fieldStream (tag : TlvTag) : TlvStream :=
  [{ tag := none, typeLength := .struct, value := none },
    { tag := some tag, typeLength := .unsignedInt .oneByte, value := some (.number 7) },
    { tag := none, typeLength := .endOfContainer, value := none }]

theorem fieldStream_nested (tag : TlvTag) : WellNested (fieldStream tag) :=
  @WellNested.container _ _ [_] trivial (@Contents.primitive _ [] trivial .nil) rfl

theorem fieldStream_wellFormed {tag : TlvTag} (tagForm : tag.WellFormed) :
    ∀ element ∈ fieldStream tag, element.WellFormed := by
  have fits : (TlvPrimitive.number 7).Fits (.unsignedInt .oneByte) := by
    rw [TlvPrimitive.Fits]
    decide
  have present : ∀ other ∈ some tag, other.WellFormed := by simpa using tagForm
  simp only [fieldStream, List.forall_mem_cons, List.not_mem_nil]
  exact ⟨wellFormed_of_noValue trivial id nofun, wellFormed_of_value trivial fits trivial present,
    wellFormed_of_noValue trivial id nofun, nofun⟩

/-- With a context specific tag the structure comes back. -/
theorem roundTrips_iff_fieldStream :
    RoundTrips (fieldStream { profile := none, id := some 1 }) ↔
      ∀ element ∈ fieldStream { profile := none, id := some 1 },
        element.Readable ∧ element.KeepsText :=
  roundTrips_iff (fieldStream_nested _) (fieldStream_wellFormed (by decide))

/-- With a fully qualified tag of the longest form it does not. -/
theorem longTag_not_roundTrips :
    ¬∀ stream, WellNested stream → (∀ element ∈ stream, element.WellFormed) →
      RoundTrips stream := by
  intro all
  rcases all (fieldStream { profile := some 0xfff1, id := some 0x10000 })
    (fieldStream_nested _) (fieldStream_wellFormed (by decide)) with
    ⟨encoded, decoded, encodes, decodes, _⟩
  cases encodes
  cases decodes

end AnySchema

end MatterJs.Types
