import MatterJs.Types.SchemaElements

/-! The length of a stream as it is predicted, and as it is written. -/

namespace MatterJs.Types

open General Totals TlvCodec

namespace TlvCodec

def Adds (write : DataWriter → Except MatterError DataWriter) (size : Nat) : Prop :=
  ∀ writer, ∃ after, write writer = .ok after ∧ after.length = writer.length + size

def Refuses (write : DataWriter → Except MatterError DataWriter) : Prop :=
  ∀ writer, ∃ failure, write writer = .error failure

theorem adds_nothing : Adds .ok 0 :=
  fun writer => ⟨writer, rfl, rfl⟩

theorem adds_writeByteArray (value : Bytes) :
    Adds (fun writer => .ok (writer.writeByteArray value)) value.length :=
  fun _ => ⟨_, rfl, rfl⟩

theorem adds_writeUInt (width : Nat) (value : Int) :
    Adds (fun writer => .ok (writer.writeUInt width value)) width := by
  intro writer
  refine ⟨_, rfl, ?_⟩
  show writer.length + _ = _
  rw [ByteOrder.encode_length]

section Writes

variable {first second : DataWriter → Except MatterError DataWriter} {size more : Nat}

theorem Adds.andThen (adds : Adds first size) (others : Adds second more) :
    Adds (fun writer => first writer >>= second) (size + more) := by
  intro writer
  rcases adds writer with ⟨middle, firstRun, firstLength⟩
  rcases others middle with ⟨after, secondRun, secondLength⟩
  refine ⟨after, ?_, ?_⟩
  · show first writer >>= second = _
    rw [firstRun]
    exact secondRun
  · rw [secondLength, firstLength, Nat.add_assoc]

theorem Refuses.andThen (refuses : Refuses first)
    (second : DataWriter → Except MatterError DataWriter) :
    Refuses fun writer => first writer >>= second := by
  intro writer
  rcases refuses writer with ⟨failure, run⟩
  refine ⟨failure, ?_⟩
  show first writer >>= second = _
  rw [run]
  rfl

theorem Adds.andRefuse (adds : Adds first size) (refuses : Refuses second) :
    Refuses fun writer => first writer >>= second := by
  intro writer
  rcases adds writer with ⟨middle, firstRun, _⟩
  rcases refuses middle with ⟨failure, secondRun⟩
  refine ⟨failure, ?_⟩
  show first writer >>= second = _
  rw [firstRun]
  exact secondRun

theorem Adds.unique {other : Nat} (adds : Adds first size) (others : Adds first other) :
    size = other := by
  rcases adds (DataWriter.new .little) with ⟨after, run, length⟩
  rcases others (DataWriter.new .little) with ⟨same, sameRun, sameLength⟩
  rw [run, Except.ok.injEq] at sameRun
  subst sameRun
  omega

theorem Refuses.not_adds (refuses : Refuses first) : ¬Adds first size := by
  intro adds
  rcases refuses (DataWriter.new .little) with ⟨failure, refused⟩
  rcases adds (DataWriter.new .little) with ⟨after, run, _⟩
  rw [refused] at run
  cases run

def Uniform (write : DataWriter → Except MatterError DataWriter) : Prop :=
  Refuses write ∨ ∃ size, Adds write size

theorem Uniform.andThen (firstUniform : Uniform first) (secondUniform : Uniform second) :
    Uniform fun writer => first writer >>= second := by
  rcases firstUniform with refuses | ⟨size, adds⟩
  · exact .inl (refuses.andThen second)
  · rcases secondUniform with refuses | ⟨more, others⟩
    · exact .inl (adds.andRefuse refuses)
    · exact .inr ⟨size + more, adds.andThen others⟩

theorem adds_andThen_iff (firstUniform : Uniform first) (secondUniform : Uniform second) :
    Adds (fun writer => first writer >>= second) size ↔
      ∃ one more, Adds first one ∧ Adds second more ∧ one + more = size := by
  constructor
  · intro adds
    rcases firstUniform with refuses | ⟨one, firstAdds⟩
    · exact ((refuses.andThen second).not_adds adds).elim
    · rcases secondUniform with refuses | ⟨more, secondAdds⟩
      · exact ((firstAdds.andRefuse refuses).not_adds adds).elim
      · exact ⟨one, more, firstAdds, secondAdds, (firstAdds.andThen secondAdds).unique adds⟩
  · rintro ⟨one, more, firstAdds, secondAdds, rfl⟩
    exact firstAdds.andThen secondAdds

def added (write : DataWriter → Except MatterError DataWriter) : Except MatterError Nat := do
  let writer ← write (DataWriter.new .little)
  return writer.length

theorem added_eq_ok_iff (uniform : Uniform first) : added first = .ok size ↔ Adds first size := by
  constructor
  · intro isAdded
    rw [added] at isAdded
    rcases uniform with refuses | ⟨other, adds⟩
    · rcases refuses (DataWriter.new .little) with ⟨failure, run⟩
      rw [run] at isAdded
      cases isAdded
    · rcases adds (DataWriter.new .little) with ⟨after, run, length⟩
      rw [run] at isAdded
      cases isAdded
      rw [length]
      show Adds _ (0 + other)
      rwa [Nat.zero_add]
  · intro adds
    rcases adds (DataWriter.new .little) with ⟨after, run, length⟩
    rw [added, run]
    show Except.ok after.length = _
    rw [length]
    show Except.ok (0 + size) = _
    rw [Nat.zero_add]

end Writes

theorem writeTag_cases (typeLength : TlvTypeLength) (tag : Option TlvTag) :
    (Refuses fun writer => writeTag writer typeLength tag) ∨
    ∃ size, getTagByteLength tag = .ok size ∧ 0 < size ∧ size ≤ 9 ∧
      Adds (fun writer => writeTag writer typeLength tag) size := by
  have one (control value : Int) (width : Nat) :
      Adds (fun writer => .ok ((writer.writeUInt 1 control).writeUInt width value))
        (1 + width) :=
    (adds_writeUInt 1 control).andThen (adds_writeUInt width value)
  have two (control profile value : Int) (width : Nat) :
      Adds (fun writer => .ok (((writer.writeUInt 1 control).writeUInt 4 profile).writeUInt
        width value)) (1 + 4 + width) :=
    ((adds_writeUInt 1 control).andThen (adds_writeUInt 4 profile)).andThen
      (adds_writeUInt width value)
  match tag with
  | none => exact .inr ⟨1, rfl, by decide, by decide, adds_writeUInt 1 _⟩
  | some { profile := none, id := none } =>
    exact .inr ⟨1, rfl, by decide, by decide, adds_writeUInt 1 _⟩
  | some { profile := none, id := some id } =>
    exact .inr ⟨2, rfl, by decide, by decide, one _ _ 1⟩
  | some { profile := some profile, id := none } =>
    left
    intro writer
    simp only [writeTag, Option.bind_some]
    split
    · exact ⟨_, rfl⟩
    · exact ⟨_, rfl⟩
  | some { profile := some profile, id := some id } =>
    right
    simp only [getTagByteLength, writeTag, Option.bind_some]
    split
    · split
      · exact ⟨3, rfl, by decide, by decide, one _ _ 2⟩
      · exact ⟨5, rfl, by decide, by decide, one _ _ 4⟩
    · split
      · exact ⟨7, rfl, by decide, by decide, two _ _ _ 2⟩
      · exact ⟨9, rfl, by decide, by decide, two _ _ _ 4⟩

theorem writeUInt_cases (length : TlvLength) (value : Rat) :
    (Refuses fun writer => writeUInt writer length value) ∨
      Adds (fun writer => writeUInt writer length value) (getUIntByteLength length) := by
  cases length with
  | oneByte => exact .inr (adds_writeUInt 1 _)
  | twoBytes => exact .inr (adds_writeUInt 2 _)
  | fourBytes => exact .inr (adds_writeUInt 4 _)
  | eightBytes =>
    simp only [writeUInt]
    cases toBigInt value with
    | error failure => exact .inl fun _ => ⟨failure, rfl⟩
    | ok value => exact .inr (adds_writeUInt 8 value)

theorem adds_writeSized (length : TlvLength) (data : Bytes) :
    Adds (fun writer => do
      let writer ← writeUInt writer length data.length
      return writer.writeByteArray data) (getUIntByteLength length + data.length) := by
  have size : Adds (fun writer => writeUInt writer length data.length)
      (getUIntByteLength length) := by
    simp only [writeUInt_of_size]
    exact adds_writeUInt _ _
  exact size.andThen (adds_writeByteArray data)

theorem writePrimitive_cases (typeLength : TlvTypeLength) (value : TlvPrimitive) :
    (Refuses fun writer => writePrimitive writer typeLength value) ∨
    ∃ size, getPrimitiveByteLength typeLength value = .ok size ∧
      Adds (fun writer => writePrimitive writer typeLength value) size := by
  have refused (failure : MatterError) :
      Refuses fun _ => (.error failure : Except MatterError DataWriter) :=
    fun _ => ⟨failure, rfl⟩
  cases typeLength with
  | signedInt length =>
    cases value with
    | number value => exact (writeUInt_cases length value).imp_right fun adds => ⟨_, rfl, adds⟩
    | _ => exact .inl (refused _)
  | unsignedInt length =>
    cases value with
    | number value =>
      cases length with
      | oneByte => exact .inr ⟨1, rfl, adds_writeUInt 1 _⟩
      | twoBytes => exact .inr ⟨2, rfl, adds_writeUInt 2 _⟩
      | fourBytes => exact .inr ⟨4, rfl, adds_writeUInt 4 _⟩
      | eightBytes =>
        simp only [writePrimitive]
        cases toBigInt value with
        | error failure => exact .inl (refused failure)
        | ok value => exact .inr ⟨8, rfl, adds_writeUInt 8 value⟩
    | _ => cases length <;> exact .inl (refused _)
  | float length =>
    cases value with
    | float bits =>
      cases length with
      | fourBytes => exact .inr ⟨4, rfl, adds_writeUInt 4 bits⟩
      | eightBytes => exact .inr ⟨8, rfl, adds_writeUInt 8 bits⟩
    | _ => cases length <;> exact .inl (refused _)
  | utf8String length =>
    cases value with
    | string text => exact .inr ⟨_, rfl, adds_writeSized length (Utf8.encode text)⟩
    | _ => exact .inl (refused _)
  | byteString length =>
    cases value with
    | bytes data => exact .inr ⟨_, rfl, adds_writeSized length data⟩
    | _ => exact .inl (refused _)
  | boolean flag => exact .inr ⟨0, rfl, adds_nothing⟩
  | _ => exact .inl (refused _)

end TlvCodec

namespace TlvByteArrayWriter

theorem write_cases (element : TlvElement) :
    (Refuses (write · element)) ∨ ∃ size, 0 < size ∧ Adds (write · element) size := by
  rcases element with ⟨tag, typeLength, value⟩
  rcases writeTag_cases typeLength tag with refuses | ⟨tagSize, _, positive, _, addsTag⟩
  · exact .inl (refuses.andThen _)
  · cases value with
    | none => exact .inr ⟨tagSize + 0, positive, addsTag.andThen adds_nothing⟩
    | some value =>
      rcases writePrimitive_cases typeLength value with refuses | ⟨valueSize, _, addsValue⟩
      · exact .inl (addsTag.andRefuse refuses)
      · exact .inr ⟨tagSize + valueSize, by omega, addsTag.andThen addsValue⟩

theorem uniform_write (element : TlvElement) : Uniform (write · element) :=
  (write_cases element).imp_right fun ⟨size, _, adds⟩ => ⟨size, adds⟩

theorem uniform_foldlM (stream : TlvStream) : Uniform (stream.foldlM write ·) := by
  induction stream with
  | nil => exact .inr ⟨0, adds_nothing⟩
  | cons element stream induction =>
    exact (uniform_write element).andThen induction

def bytesWritten (element : TlvElement) : Except MatterError Nat :=
  added (write · element)

theorem bytesWritten_eq_ok_iff {element : TlvElement} {size : Nat} :
    bytesWritten element = .ok size ↔ Adds (write · element) size :=
  added_eq_ok_iff (uniform_write element)

theorem adds_foldlM_iff {stream : TlvStream} {size : Nat} :
    Adds (stream.foldlM write ·) size ↔ total bytesWritten stream = .ok size := by
  induction stream generalizing size with
  | nil =>
    rw [total_nil, Except.ok.injEq]
    constructor
    · exact adds_nothing.unique
    · rintro rfl
      exact adds_nothing
  | cons element stream induction =>
    simp only [List.foldlM_cons]
    rw [adds_andThen_iff (uniform_write element) (uniform_foldlM stream), total_cons_iff]
    simp only [bytesWritten_eq_ok_iff, induction]

section Parts

variable {tag : Option TlvTag} {typeLength : TlvTypeLength} {size : Nat}

theorem getTagByteLength_of_written
    (written : bytesWritten { tag, typeLength, value := none } = .ok size) :
    getTagByteLength tag = .ok size := by
  have adds := bytesWritten_eq_ok_iff.mp written
  rcases writeTag_cases typeLength tag with refuses | ⟨tagSize, tagLength, _, _, addsTag⟩
  · exact ((refuses.andThen _).not_adds adds).elim
  · rw [tagLength, adds.unique (addsTag.andThen adds_nothing)]
    rfl

theorem getByteLengths_of_written {value : TlvPrimitive}
    (written : bytesWritten { tag, typeLength, value := some value } = .ok size) :
    ∃ tagSize valueSize, getTagByteLength tag = .ok tagSize ∧
      getPrimitiveByteLength typeLength value = .ok valueSize ∧ tagSize + valueSize = size := by
  have adds := bytesWritten_eq_ok_iff.mp written
  rcases writeTag_cases typeLength tag with refuses | ⟨tagSize, tagLength, _, _, addsTag⟩
  · exact ((refuses.andThen _).not_adds adds).elim
  · rcases writePrimitive_cases typeLength value with refuses | ⟨valueSize, valueLength, addsValue⟩
    · exact ((addsTag.andRefuse refuses).not_adds adds).elim
    · exact ⟨tagSize, valueSize, tagLength, valueLength, (addsTag.andThen addsValue).unique adds⟩

end Parts

theorem toByteArray_length_iff {stream : TlvStream} {size : Nat} :
    (∃ bytes, toByteArray stream = .ok bytes ∧ bytes.length = size) ↔
      total bytesWritten stream = .ok size := by
  rw [← adds_foldlM_iff, ← added_eq_ok_iff (uniform_foldlM stream), added, toByteArray]
  cases stream.foldlM write (DataWriter.new .little) with
  | error failure =>
    constructor
    · rintro ⟨bytes, run, _⟩
      cases run
    · intro run
      cases run
  | ok writer =>
    constructor
    · rintro ⟨bytes, run, rfl⟩
      cases run
      rw [DataWriter.toByteArray_length]
      rfl
    · intro run
      cases run
      exact ⟨writer.toByteArray, rfl, writer.toByteArray_length⟩

end TlvByteArrayWriter

/-! ## Streams in a message -/

namespace AnySchema

open TlvByteArrayWriter

def bytesTaken (element : TlvElement) : Except MatterError Nat := do
  let written ← encodeElement element.tag element
  total bytesWritten written

variable {element : TlvElement} {stream elements : TlvStream} {size : Nat}

/-- Nothing is predicted that is not written. -/
theorem getElementByteLength_of_taken (taken : bytesTaken element = .ok size) :
    getElementByteLength element = .ok size := by
  rcases element with ⟨tag, typeLength, value⟩
  rw [bytesTaken] at taken
  cases typeLength <;> simp only [encodeElement] at taken
  case reserved code =>
    cases taken
    rfl
  case null | boolean | array | struct | list | endOfContainer =>
    exact getTagByteLength_of_written (total_singleton.symm.trans taken)
  all_goals
    cases value with
    | none => cases taken
    | some value =>
      rcases getByteLengths_of_written (total_singleton.symm.trans taken) with
        ⟨tagSize, valueSize, tagLength, valueLength, rfl⟩
      rw [getElementByteLength, tagLength]
      simp only [Option.getD_some, valueLength]
      rfl

theorem getEncodedByteLength_of_taken (taken : total bytesTaken stream = .ok size) :
    getEncodedByteLength stream = .ok size :=
  total_mono (fun _ _ _ costs => getElementByteLength_of_taken costs) taken

theorem taken_iff : total bytesTaken stream = .ok size ↔
    ∃ elements, encodeElements stream = .ok elements ∧
      total bytesWritten elements = .ok size := by
  induction stream generalizing size with
  | nil =>
    constructor
    · intro isZero
      exact ⟨[], rfl, isZero⟩
    · rintro ⟨elements, encoded, written⟩
      cases encoded
      exact written
  | cons element stream induction =>
    rw [total_cons_iff, encodeElements, bytesTaken]
    constructor
    · rintro ⟨first, rest, taken, others, rfl⟩
      rcases induction.mp others with ⟨elements, encoded, written⟩
      rcases bind_eq_ok_iff.mp taken with ⟨one, firstEncoded, firstWritten⟩
      rw [firstEncoded, encoded]
      exact ⟨one ++ elements, rfl, total_append firstWritten written⟩
    · rintro ⟨elements, encoded, written⟩
      rcases bind_eq_ok_iff.mp encoded with ⟨one, firstEncoded, encoded⟩
      rcases bind_eq_ok_iff.mp encoded with ⟨others, othersEncoded, encoded⟩
      cases encoded
      rcases total_append_iff.mp written with ⟨first, rest, firstWritten, restWritten, rfl⟩
      rw [firstEncoded]
      exact ⟨first, rest, firstWritten, induction.mpr ⟨others, othersEncoded, restWritten⟩, rfl⟩

/-- The predicted length is that of the bytes, whenever a stream is written, and every stream
of well-formed elements is. -/
theorem getEncodedByteLength_encode (tlvStream : TlvStream) :
    (∀ bytes, encode tlvStream = .ok bytes → getEncodedByteLength tlvStream = .ok bytes.length) ∧
    ((∀ element ∈ tlvStream, element.WellFormed) →
      ∃ bytes, encode tlvStream = .ok bytes) := by
  constructor
  · intro bytes encodes
    rw [encode, encodeTlvInternal_none] at encodes
    rcases bind_eq_ok_iff.mp encodes with ⟨elements, encoded, written⟩
    have lengths := toByteArray_length_iff.mp ⟨bytes, written, rfl⟩
    exact getEncodedByteLength_of_taken (taken_iff.mpr ⟨elements, encoded, lengths⟩)
  · intro wellFormed
    exact ⟨streamBytes tlvStream, encode_eq wellFormed⟩

/-- A structure with a field takes a control byte, three bytes for the field and a closing
byte. -/
theorem getEncodedByteLength_encode_fieldStream :
    getEncodedByteLength (fieldStream { profile := none, id := some 1 }) = .ok 5 :=
  (getEncodedByteLength_encode (fieldStream { profile := none, id := some 1 })).1
    [0x15, 0x24, 1, 7, 0x18] (by rfl)

end AnySchema

end MatterJs.Types
