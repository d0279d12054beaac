import MatterJs.Types.TlvArrayRoundTrip

/-! Arrays in chunks: one that replaces the whole array, and then one for each element. -/

namespace MatterJs.Types

open General

/-- `listIndex` is undefined for the whole array and null for an element behind the last
one. -/
structure ArrayChunkData where
  listIndex : Option (Option Nat)
  element : TlvStream

namespace ArraySchema

variable (elementSchema : TlvSchema) (minLength maxLength : Nat)

/-- A place that nothing was put at is undefined. -/
def setAt (currentValue : List (Option TlvValue)) (listIndex : Nat) (value : TlvValue) :
    List (Option TlvValue) :=
  List.takeD listIndex currentValue none ++ some value :: currentValue.drop (listIndex + 1)

/-- One round of `decodeFromChunkedArray` -/
def applyChunk (currentValue : List (Option TlvValue)) (chunk : ArrayChunkData) :
    Except MatterError (List (Option TlvValue)) :=
  match chunk.listIndex with
  | none => do
    -- not set means "Override the whole array"
    match ← (TlvSchema.array elementSchema minLength maxLength).decodeTlv chunk.element with
    | .array elements => return elements.map some
    | _ => throw mismatch
  | some none => do
    -- null means "Append to the array"
    let decodedElement ← elementSchema.decodeTlv chunk.element
    return currentValue ++ [some decodedElement]
  | some (some listIndex) =>
    match chunk.element with
    | [] => throw (.typeError "Cannot read properties of undefined (reading 'typeLength')")
    | element :: _ =>
      -- null element means "Remove from the array"
      if element.typeLength = .null then
        return currentValue.eraseIdx listIndex
      else do
        let decodedElement ← elementSchema.decodeTlv chunk.element
        return setAt currentValue listIndex decodedElement

def decodeFromChunkedArray (chunks : List ArrayChunkData)
    (currentValue : Option (List (Option TlvValue))) :
    Except MatterError (List (Option TlvValue)) := do
  if currentValue.isNone then
    match chunks.head? with
    | none => throw (.typeError "Cannot read properties of undefined (reading 'listIndex')")
    | some { listIndex := none, .. } => pure ()
    | some { listIndex := some listIndex, .. } =>
      let received := match listIndex with
        | none => "null"
        | some index => toString index
      throw (.unexpectedDataError
        s!"When no current value is supplied the first chunked element needs to have a list index of undefined, but received {received}.")
  chunks.foldlM (applyChunk elementSchema minLength maxLength) (currentValue.getD [])

def encodeAsChunkedArray (value : List TlvValue) (options : TlvEncodingOptions) :
    Except MatterError (List ArrayChunkData) := do
  let empty ← (TlvSchema.array elementSchema minLength maxLength).encodeTlv (.array []) options
  let chunks ← value.mapM fun element => do
    let elementStream ← elementSchema.encodeTlv element options
    return { listIndex := some none, element := elementStream }
  return { listIndex := none, element := empty } :: chunks

/-! ## What becomes of the chunks -/

variable {elementSchema minLength maxLength}

def emptyStream : TlvStream :=
  [{ tag := none, typeLength := .array, value := none },
    { tag := none, typeLength := .endOfContainer, value := none }]

theorem encodeTlv_nil (options : TlvEncodingOptions) :
    (TlvSchema.array elementSchema minLength maxLength).encodeTlv (.array []) options =
      .ok emptyStream := rfl

/-- The chunks that a list is taken apart into, with the elements of its values -/
def chunksOf (streams : List TlvStream) : List ArrayChunkData :=
  { listIndex := none, element := emptyStream } ::
    streams.map fun element => { listIndex := some none, element }

variable {value : List TlvValue} {options : TlvEncodingOptions} {streams : List TlvStream}

theorem mapM_appended_eq_ok_iff {chunks : List ArrayChunkData} :
    (value.mapM fun element => do
      let elementStream ← elementSchema.encodeTlv element options
      return ({ listIndex := some none, element := elementStream } : ArrayChunkData)) = .ok chunks ↔
      ∃ streams, List.Forall₂ (fun element stream =>
        elementSchema.encodeTlv element options = .ok stream) value streams ∧
        chunks = streams.map fun element => { listIndex := some none, element } := by
  rw [mapM_eq_ok_iff]
  constructor
  · intro related
    induction related with
    | nil => exact ⟨[], .nil, rfl⟩
    | cons head _ induction =>
      rcases bind_eq_ok_iff.mp head with ⟨stream, encodes, same⟩
      cases same
      rcases induction with ⟨streams, others, rfl⟩
      exact ⟨stream :: streams, .cons encodes others, rfl⟩
  · rintro ⟨streams, related, rfl⟩
    rw [List.forall₂_map_right_iff]
    refine related.imp ?_
    intro element stream encodes
    exact bind_eq_ok_iff.mpr ⟨stream, encodes, rfl⟩

theorem encodeAsChunkedArray_eq_ok_iff {chunks : List ArrayChunkData} :
    encodeAsChunkedArray elementSchema minLength maxLength value options = .ok chunks ↔
      ∃ streams, List.Forall₂ (fun element stream =>
        elementSchema.encodeTlv element options = .ok stream) value streams ∧
        chunks = chunksOf streams := by
  rw [encodeAsChunkedArray, bind_eq_ok_iff]
  constructor
  · rintro ⟨empty, isEmpty, run⟩
    cases isEmpty
    rcases bind_eq_ok_iff.mp run with ⟨appended, encoded, same⟩
    cases same
    rcases mapM_appended_eq_ok_iff.mp encoded with ⟨streams, related, rfl⟩
    exact ⟨streams, related, rfl⟩
  · rintro ⟨streams, related, rfl⟩
    exact ⟨emptyStream, rfl,
      bind_eq_ok_iff.mpr ⟨_, mapM_appended_eq_ok_iff.mpr ⟨streams, related, rfl⟩, rfl⟩⟩

theorem foldlM_applyChunk_eq_ok_iff {currentValue result : List (Option TlvValue)} :
    (streams.map fun element =>
      ({ listIndex := some none, element } : ArrayChunkData)).foldlM
        (applyChunk elementSchema minLength maxLength) currentValue = .ok result ↔
      ∃ decoded, List.Forall₂ (fun stream value =>
        elementSchema.decodeTlv stream = .ok value) streams decoded ∧
        result = currentValue ++ decoded.map some := by
  induction streams generalizing currentValue with
  | nil =>
    rw [List.map_nil]
    constructor
    · intro same
      cases same
      exact ⟨[], .nil, (List.append_nil _).symm⟩
    · rintro ⟨decoded, related, rfl⟩
      cases related
      rw [List.map_nil, List.append_nil]
      rfl
  | cons stream streams induction =>
    rw [List.map_cons, List.foldlM_cons, bind_eq_ok_iff]
    constructor
    · rintro ⟨appended, run, rest⟩
      rcases bind_eq_ok_iff.mp run with ⟨value, decodes, same⟩
      cases same
      rcases induction.mp rest with ⟨decoded, related, rfl⟩
      refine ⟨value :: decoded, .cons decodes related, ?_⟩
      rw [List.map_cons, List.append_assoc, List.singleton_append]
    · rintro ⟨decoded, related, rfl⟩
      cases related with
      | @cons _ value _ decoded decodes related =>
        refine ⟨currentValue ++ [some value], bind_eq_ok_iff.mpr ⟨value, decodes, rfl⟩,
          induction.mpr ⟨decoded, related, ?_⟩⟩
        rw [List.map_cons, List.append_assoc, List.singleton_append]

theorem decodeFromChunkedArray_eq_ok_iff {currentValue : Option (List (Option TlvValue))}
    {result : List (Option TlvValue)} :
    decodeFromChunkedArray elementSchema minLength maxLength (chunksOf streams) currentValue =
        .ok result ↔
      ∃ decoded, List.Forall₂ (fun stream value =>
        elementSchema.decodeTlv stream = .ok value) streams decoded ∧
        result = decoded.map some := by
  have emptied (before : List (Option TlvValue)) :
      applyChunk elementSchema minLength maxLength before
        { listIndex := none, element := emptyStream } = .ok [] := rfl
  have whole : decodeFromChunkedArray elementSchema minLength maxLength (chunksOf streams)
      currentValue = (streams.map fun element =>
        ({ listIndex := some none, element } : ArrayChunkData)).foldlM
          (applyChunk elementSchema minLength maxLength) [] := by
    rw [decodeFromChunkedArray, chunksOf]
    cases currentValue <;> rfl
  rw [whole, foldlM_applyChunk_eq_ok_iff]
  rfl

/-- The list comes back from its chunks, up to the order of the properties of objects. -/
def Reassembles (elementSchema : TlvSchema) (minLength maxLength : Nat)
    (options : TlvEncodingOptions) (currentValue : Option (List (Option TlvValue)))
    (value : List TlvValue) : Prop :=
  ∃ chunks decoded,
    encodeAsChunkedArray elementSchema minLength maxLength value options = .ok chunks ∧
      decodeFromChunkedArray elementSchema minLength maxLength chunks currentValue =
        .ok (decoded.map some) ∧
      List.Forall₂ TlvValue.Same value decoded

theorem comesBack_iff {elements : List TlvValue} (written : List.Forall₂ (fun element stream =>
      elementSchema.encodeTlv element options = .ok stream) elements streams) :
    (∃ decoded, List.Forall₂ (fun stream value =>
      elementSchema.decodeTlv stream = .ok value) streams decoded ∧
      List.Forall₂ TlvValue.Same elements decoded) ↔
      ∀ element ∈ elements, elementSchema.ComesBack options element := by
  induction written with
  | nil => exact iff_of_true ⟨[], .nil, .nil⟩ nofun
  | @cons element stream elements streams encodes _ induction =>
    rw [List.forall_mem_cons, ← induction]
    constructor
    · rintro ⟨decoded, reads, same⟩
      cases reads with
      | @cons _ value _ decoded decodes reads =>
        cases same with
        | cons sameValue same =>
          exact ⟨⟨stream, value, encodes, decodes, sameValue⟩, decoded, reads, same⟩
    · rintro ⟨⟨other, value, otherEncodes, decodes, sameValue⟩, decoded, reads, same⟩
      rw [encodes] at otherEncodes
      cases otherEncodes
      exact ⟨value :: decoded, .cons decodes reads, .cons sameValue same⟩

theorem reassembles_iff {currentValue : Option (List (Option TlvValue))} :
    Reassembles elementSchema minLength maxLength options currentValue value ↔
      ∀ element ∈ value, elementSchema.ComesBack options element := by
  constructor
  · rintro ⟨chunks, decoded, encodes, decodes, same⟩
    rcases encodeAsChunkedArray_eq_ok_iff.mp encodes with ⟨streams, written, rfl⟩
    rcases decodeFromChunkedArray_eq_ok_iff.mp decodes with ⟨others, reads, sameDecoded⟩
    rw [List.map_inj_right fun _ _ equal => Option.some.inj equal] at sameDecoded
    subst sameDecoded
    exact (comesBack_iff written).mp ⟨decoded, reads, same⟩
  · intro comeBack
    have encodes : ∃ streams, value.mapM (fun element =>
        elementSchema.encodeTlv element options) = .ok streams := by
      apply exists_mapM
      intro element member
      rcases comeBack element member with ⟨stream, _, run, _⟩
      exact ⟨stream, run⟩
    rcases encodes with ⟨streams, encodes⟩
    have written := mapM_eq_ok_iff.mp encodes
    rcases (comesBack_iff written).mpr comeBack with ⟨decoded, reads, same⟩
    exact ⟨chunksOf streams, decoded,
      encodeAsChunkedArray_eq_ok_iff.mpr ⟨streams, written, rfl⟩,
      decodeFromChunkedArray_eq_ok_iff.mpr ⟨decoded, reads, rfl⟩, same⟩

end ArraySchema

end MatterJs.Types
