import MatterJs.Foundation.Bitwise32
import MatterJs.General.SignedReader

namespace MatterJs.General

open ByteOrder

/-! Decoding of the ASN.1 elements certificates are made of: when the decoder comes to an
end. -/

inductive DerNode where
  | bitString (bytes : Bytes) (padding : Option UInt8)
  | primitive (tag : Nat) (bytes : Bytes)
  | constructed (tag : Nat) (bytes : Bytes) (elements : List DerNode)

namespace DerCodec

/-- `DerType.BitString`. -/
def bitString : Nat := 0x03

def constructed : Nat := 0x20

/-- The bytes of a length that has `lengthLength` of them. -/
def readLength : Nat → Int → SignedReader → Except MatterError (Int × SignedReader)
  | 0, length, reader => .ok (length, reader)
  | lengthLength + 1, length, reader => do
    let (byte, next) ← reader.readUInt8
    readLength lengthLength (Bitwise32.shiftLeft length 8 + byte) next

/-- The length that the first byte of a length field stands for or announces. -/
def decodeLength (length : Nat) (reader : SignedReader) :
    Except MatterError (Int × SignedReader) :=
  if length &&& 0x80 ≠ 0 then readLength (length &&& 0x7f) 0 reader
  else .ok (length, reader)

def decodeAsn1 (reader : SignedReader) :
    Except MatterError ((Nat × Bytes) × SignedReader) := do
  let (tag, reader) ← reader.readUInt8
  let (length, reader) ← reader.readUInt8
  let (length, reader) ← decodeLength length reader
  let (bytes, reader) := reader.readByteArray length
  return ((tag, bytes), reader)

mutual

/-- `none` when the fuel runs out. -/
def decodeRec : Nat → SignedReader → Option (Except MatterError (DerNode × SignedReader))
  | 0, _ => none
  | fuel + 1, reader =>
    match decodeAsn1 reader with
    | .error error => some (.error error)
    | .ok ((tag, bytes), next) =>
      if tag = bitString then
        some (.ok (.bitString (bytes.drop 1) bytes.head?, next))
      else if tag &&& constructed = 0 then
        some (.ok (.primitive tag bytes, next))
      else
        match decodeElements fuel (.new bytes) [] with
        | none => none
        | some (.error error) => some (.error error)
        | some (.ok elements) => some (.ok (.constructed tag bytes elements, next))

def decodeElements : Nat → SignedReader → List DerNode → Option (Except MatterError (List DerNode))
  | 0, _, _ => none
  | fuel + 1, reader, elements =>
    if reader.remainingBytesCount > 0 then
      match decodeRec fuel reader with
      | none => none
      | some (.error error) => some (.error error)
      | some (.ok (element, next)) => decodeElements fuel next (elements ++ [element])
    else some (.ok elements)

end

def decode (fuel : Nat) (data : Bytes) : Option (Except MatterError DerNode) :=
  (decodeRec fuel (.new data)).map fun result => result.map Prod.fst

def signedLength (bytes : Bytes) : Int :=
  bytes.foldl (fun length byte => Bitwise32.shiftLeft length 8 + byte.toNat) 0

open SignedReader

/-! ## The header of an element -/

inductive LengthField : Bytes → Int → Prop where
  | short (first : UInt8) (isShort : first.toNat < 0x80) : LengthField [first] first.toNat
  | long (first : UInt8) (bytes : Bytes) (count : first.toNat = 0x80 + bytes.length) :
      LengthField (first :: bytes) (signedLength bytes)

theorem isLong_iff {first : Nat} (isByte : first < 256) : first &&& 0x80 ≠ 0 ↔ 0x80 ≤ first := by
  revert first
  decide +kernel

theorem lengthLength_eq {first : Nat} (isByte : first < 256) (isLong : 0x80 ≤ first) :
    first &&& 0x7f = first - 0x80 := by
  revert first
  decide +kernel

theorem readLength_eq_ok_iff {lengthLength : Nat} {length found : Int}
    {reader next : SignedReader} (inside : 0 ≤ reader.offset) :
    readLength lengthLength length reader = .ok (found, next) ↔
      ∃ bytes, bytes.length = lengthLength ∧ Took reader bytes next ∧
        found = bytes.foldl (fun length byte => Bitwise32.shiftLeft length 8 + byte.toNat)
          length := by
  induction lengthLength generalizing length reader with
  | zero =>
    constructor
    · intro reads
      cases reads
      exact ⟨[], rfl, ⟨inside, rfl, by simp, rfl⟩, rfl⟩
    · rintro ⟨bytes, isEmpty, took, rfl⟩
      rw [List.length_eq_zero_iff.mp isEmpty] at took ⊢
      have same : reader = next := eq_of_fields took.buffer.symm (by simp [took.offset])
      rw [same]
      rfl
  | succ lengthLength induction =>
    rw [readLength]
    constructor
    · intro reads
      rcases bind_eq_ok_iff.mp reads with ⟨⟨byte, middle⟩, first, later⟩
      rcases readUInt8_eq_ok_iff.mp first with ⟨byte, rfl, tookFirst⟩
      have middleInside : 0 ≤ middle.offset := by
        rw [tookFirst.offset]
        omega
      rcases (induction middleInside).mp later with ⟨bytes, count, took, rfl⟩
      exact ⟨byte :: bytes, by rw [List.length_cons, count], tookFirst.trans took, rfl⟩
    · rintro ⟨bytes, count, took, rfl⟩
      cases bytes with
      | nil => cases count
      | cons byte bytes =>
        have rest : reader.rest = [byte] ++ (bytes ++ next.rest) := took.rest
        rcases Took.of_rest inside rest with ⟨middle, tookFirst, _⟩
        have tookLater : Took middle bytes next := Took.split took tookFirst
        have middleInside : 0 ≤ middle.offset := tookLater.inside
        apply bind_eq_ok_iff.mpr
        refine ⟨(byte.toNat, middle), readUInt8_of_took tookFirst, ?_⟩
        exact (induction middleInside).mpr ⟨bytes, Nat.succ.inj count, tookLater, rfl⟩

theorem decodeAsn1_eq_ok_iff {reader next : SignedReader} {tag : Nat} {bytes : Bytes} :
    decodeAsn1 reader = .ok ((tag, bytes), next) ↔
      ∃ tagByte field length middle, tag = UInt8.toNat tagByte ∧ LengthField field length ∧
        Took reader (tagByte :: field) middle ∧
        middle.readByteArray length = (bytes, next) := by
  rw [decodeAsn1]
  constructor
  · intro reads
    rcases bind_eq_ok_iff.mp reads with ⟨⟨_, afterTag⟩, tagReads, reads⟩
    rcases readUInt8_eq_ok_iff.mp tagReads with ⟨tagByte, rfl, tookTag⟩
    rcases bind_eq_ok_iff.mp reads with ⟨⟨_, afterFirst⟩, firstReads, reads⟩
    rcases readUInt8_eq_ok_iff.mp firstReads with ⟨first, rfl, tookFirst⟩
    rcases bind_eq_ok_iff.mp reads with ⟨⟨length, middle⟩, lengthReads, reads⟩
    have tookHeader : Took reader [tagByte, first] afterFirst := tookTag.trans tookFirst
    have isByte := first.toNat_lt
    cases reads
    by_cases isLong : 0x80 ≤ first.toNat
    · rw [decodeLength, if_pos ((isLong_iff isByte).mpr isLong),
        lengthLength_eq isByte isLong] at lengthReads
      have inside : 0 ≤ afterFirst.offset := by
        rw [tookHeader.offset]
        have := tookHeader.inside
        omega
      rcases (readLength_eq_ok_iff inside).mp lengthReads with ⟨bytes, count, tookBytes, rfl⟩
      exact ⟨tagByte, first :: bytes, _, middle, rfl, .long first bytes (by omega),
        tookHeader.trans tookBytes, rfl⟩
    · rw [decodeLength, if_neg (mt (isLong_iff isByte).mp isLong)] at lengthReads
      cases lengthReads
      exact ⟨tagByte, [first], _, afterFirst, rfl, .short first (by omega), tookHeader, rfl⟩
  · rintro ⟨tagByte, field, length, middle, rfl, isField, took, taken⟩
    have inside := took.inside
    cases isField with
    | short first isShort =>
      have rest : reader.rest = [tagByte] ++ (first :: middle.rest) := took.rest
      rcases Took.of_rest inside rest with ⟨afterTag, tookTag, _⟩
      have tookFirst : Took afterTag [first] middle := Took.split took tookTag
      apply bind_eq_ok_iff.mpr
      refine ⟨(tagByte.toNat, afterTag), readUInt8_of_took tookTag, ?_⟩
      apply bind_eq_ok_iff.mpr
      refine ⟨(first.toNat, middle), readUInt8_of_took tookFirst, ?_⟩
      apply bind_eq_ok_iff.mpr
      refine ⟨((first.toNat : Int), middle), ?_, ?_⟩
      · exact if_neg (mt (isLong_iff first.toNat_lt).mp (Nat.not_le.mpr isShort))
      · cases taken
        rfl
    | long first lengthBytes count =>
      have isLong : 0x80 ≤ first.toNat := by omega
      have rest : reader.rest = [tagByte] ++ ([first] ++ (lengthBytes ++ middle.rest)) :=
        took.rest
      rcases Took.of_rest inside rest with ⟨afterTag, tookTag, restTag⟩
      have tookField : Took afterTag ([first] ++ lengthBytes) middle := Took.split took tookTag
      rcases Took.of_rest tookField.inside restTag with ⟨afterFirst, tookFirst, _⟩
      have tookBytes : Took afterFirst lengthBytes middle := Took.split tookField tookFirst
      apply bind_eq_ok_iff.mpr
      refine ⟨(tagByte.toNat, afterTag), readUInt8_of_took tookTag, ?_⟩
      apply bind_eq_ok_iff.mpr
      refine ⟨(first.toNat, afterFirst), readUInt8_of_took tookFirst, ?_⟩
      apply bind_eq_ok_iff.mpr
      refine ⟨(signedLength lengthBytes, middle), ?_, ?_⟩
      · rw [decodeLength, if_pos ((isLong_iff first.toNat_lt).mpr isLong),
          lengthLength_eq first.toNat_lt isLong]
        exact (readLength_eq_ok_iff tookBytes.inside).mpr ⟨lengthBytes, by omega, tookBytes, rfl⟩
      · cases taken
        rfl

end DerCodec

end MatterJs.General
