import MatterJs.General.DataReader

/-! The reader of `DataReader` where the sizes it is given may be negative. -/

namespace MatterJs.General

open ByteOrder

/-- `subarray` of the language: a position below zero counts from the end. -/
def subarrayPosition (length : Nat) (position : Int) : Nat :=
  if position < 0 then (length + position).toNat else min position.toNat length

def subarray (data : Bytes) (start stop : Int) : Bytes :=
  let start := subarrayPosition data.length start
  (data.drop start).take (subarrayPosition data.length stop - start)

/-- The reader where the sizes it is given may be negative. Its offset then is, too. -/
structure SignedReader where
  buffer : Bytes
  offset : Int
  offset_le : offset ≤ buffer.length

namespace SignedReader

def new (buffer : Bytes) : SignedReader where
  buffer := buffer
  offset := 0
  offset_le := Int.natCast_nonneg _

variable (reader : SignedReader)

def getOffsetAndAdvance (size : Int) : Int × SignedReader :=
  (reader.offset,
    { buffer := reader.buffer
      offset := min (reader.offset + size) reader.buffer.length
      offset_le := Int.min_le_right _ _ })

/-- The byte of a data view at an offset, `none` where it throws. -/
def getUint8 (data : Bytes) (offset : Int) : Option UInt8 :=
  if offset < 0 then none else data[offset.toNat]?

def readUInt8 : Except MatterError (Nat × SignedReader) :=
  let (offset, next) := reader.getOffsetAndAdvance 1
  match getUint8 reader.buffer offset with
  | some byte => .ok (byte.toNat, next)
  | none => .error (.rangeError "Offset is outside the bounds of the DataView")

def readByteArray (length : Int) : Bytes × SignedReader :=
  let (offset, next) := reader.getOffsetAndAdvance length
  (subarray reader.buffer offset (offset + length), next)

def remainingBytesCount : Int :=
  reader.buffer.length - reader.offset

end SignedReader

/-! ## What the reads take -/

namespace SignedReader

def rest (reader : SignedReader) : Bytes := reader.buffer.drop reader.offset.toNat

/-- What lies between two positions of a reader. -/
structure Took (reader : SignedReader) (bytes : Bytes) (next : SignedReader) : Prop where
  inside : 0 ≤ reader.offset
  buffer : next.buffer = reader.buffer
  offset : next.offset = reader.offset + bytes.length
  rest : reader.rest = bytes ++ next.rest

variable {reader middle next : SignedReader} {bytes more : Bytes}

theorem Took.trans (first : Took reader bytes middle) (second : Took middle more next) :
    Took reader (bytes ++ more) next where
  inside := first.inside
  buffer := second.buffer.trans first.buffer
  offset := by
    rw [second.offset, first.offset, List.length_append]
    omega
  rest := by rw [first.rest, second.rest, List.append_assoc]

theorem Took.split (took : Took reader (bytes ++ more) next) (first : Took reader bytes middle) :
    Took middle more next where
  inside := by
    have := first.inside
    have := first.offset
    omega
  buffer := took.buffer.trans first.buffer.symm
  offset := by
    rw [took.offset, first.offset, List.length_append]
    omega
  rest := by
    have same := first.rest.symm.trans took.rest
    rw [List.append_assoc] at same
    exact List.append_cancel_left same

theorem Took.of_rest (inside : 0 ≤ reader.offset) {later : Bytes}
    (rest : reader.rest = bytes ++ later) :
    ∃ next, Took reader bytes next ∧ next.rest = later := by
  have lengths := congrArg List.length rest
  rw [SignedReader.rest, List.length_drop, List.length_append] at lengths
  by_cases empty : bytes = []
  · subst empty
    exact ⟨reader, ⟨inside, rfl, by simp, rfl⟩, rest⟩
  · have positive := List.length_pos_iff.mpr empty
    have dropped : reader.buffer.drop (reader.offset + bytes.length).toNat = later := by
      have position : (reader.offset + bytes.length).toNat =
          reader.offset.toNat + bytes.length := by omega
      rw [position, ← List.drop_drop]
      exact (congrArg (List.drop bytes.length) rest).trans (List.drop_left' rfl)
    exact ⟨⟨reader.buffer, reader.offset + bytes.length, by omega⟩,
      ⟨inside, rfl, rfl, by rw [rest]; exact congrArg (bytes ++ ·) dropped.symm⟩, dropped⟩

theorem Took.length_le (took : Took reader bytes next) :
    reader.offset.toNat + bytes.length + next.rest.length = reader.buffer.length := by
  have lengths := congrArg List.length took.rest
  rw [SignedReader.rest, List.length_drop, List.length_append] at lengths
  have offset := took.offset
  have nextBound := next.offset_le
  rw [took.buffer] at nextBound
  omega

theorem eq_of_fields {other : SignedReader} (buffer : reader.buffer = other.buffer)
    (offset : reader.offset = other.offset) : reader = other := by
  cases other
  cases buffer
  cases offset
  rfl

theorem getUint8_of_inside (data : Bytes) {offset : Int} (inside : 0 ≤ offset) :
    getUint8 data offset = (data.drop offset.toNat).head? := by
  rw [getUint8, if_neg (Int.not_lt.mpr inside), List.head?_drop]

theorem readUInt8_of_took {byte : UInt8} (took : Took reader [byte] next) :
    reader.readUInt8 = .ok (byte.toNat, next) := by
  have here : getUint8 reader.buffer reader.offset = some byte := by
    rw [getUint8_of_inside _ took.inside]
    exact congrArg List.head? took.rest
  have advanced : (reader.getOffsetAndAdvance 1).2 = next := by
    have nextBound := next.offset_le
    rw [took.buffer, took.offset] at nextBound
    exact eq_of_fields took.buffer.symm ((Int.min_eq_left nextBound).trans took.offset.symm)
  rw [readUInt8, ← advanced]
  simp [getOffsetAndAdvance, here]

theorem readUInt8_eq_ok_iff {value : Nat} :
    reader.readUInt8 = .ok (value, next) ↔
      ∃ byte, value = byte.toNat ∧ Took reader [byte] next := by
  constructor
  · intro reads
    cases here : getUint8 reader.buffer reader.offset with
    | none =>
      rw [readUInt8] at reads
      simp only [getOffsetAndAdvance, here] at reads
      cases reads
    | some byte =>
      by_cases outside : reader.offset < 0
      · rw [getUint8, if_pos outside] at here
        cases here
      · have inside := Int.not_lt.mp outside
        rw [getUint8_of_inside _ inside] at here
        rcases List.head?_eq_some_iff.mp here with ⟨later, rest⟩
        rcases @Took.of_rest reader [byte] inside later rest with ⟨after, took, _⟩
        rw [readUInt8_of_took took] at reads
        cases reads
        exact ⟨byte, rfl, took⟩
  · rintro ⟨byte, rfl, took⟩
    exact readUInt8_of_took took

theorem subarray_ofNat (data : Bytes) {start : Nat} (inside : start ≤ data.length) (length : Nat) :
    subarray data start (start + length) = (data.drop start).take length := by
  have first : subarrayPosition data.length start = start := by
    rw [subarrayPosition, if_neg (by omega)]
    omega
  have last : subarrayPosition data.length (start + length) = min (start + length) data.length := by
    rw [subarrayPosition, if_neg (by omega)]
    omega
  rw [subarray, first, last]
  rcases Nat.le_total (start + length) data.length with fits | short
  · rw [Nat.min_eq_left fits, Nat.add_sub_cancel_left]
  · rw [Nat.min_eq_right short, List.take_of_length_le, List.take_of_length_le]
    · rw [List.length_drop]
      omega
    · rw [List.length_drop]

end SignedReader

end MatterJs.General
