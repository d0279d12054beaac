import Mathlib.Tactic.Positivity
import Mathlib.Tactic.Zify
import MatterJs.Foundation.Consumption
import MatterJs.Foundation.Utf8
import MatterJs.General.DataWriter
import MatterJs.General.MatterError

/-! Reader that auto-increments its offset after each read. -/

namespace MatterJs.General

open ByteOrder

structure DataReader where
  endian : Endian
  buffer : Bytes
  offset : Nat
  offset_le : offset ≤ buffer.length

namespace DataReader

def new (buffer : Bytes) (endian : Endian) : DataReader where
  endian := endian
  buffer := buffer
  offset := 0
  offset_le := Nat.zero_le _

variable (reader : DataReader)

/-- The offset a read starts at, and the reader behind it. The offset never
leaves the buffer. -/
def getOffsetAndAdvance (size : Nat) : Nat × DataReader :=
  (reader.offset,
    { reader with
      offset := min (reader.offset + size) reader.buffer.length
      offset_le := Nat.min_le_right _ _ })

/-- The unsigned reads. A data view throws when the number does not lie in it. -/
def readUInt (width : Nat) : Except MatterError (Nat × DataReader) :=
  let (offset, next) := reader.getOffsetAndAdvance width
  if offset + width ≤ reader.buffer.length then
    .ok (decode reader.endian ((reader.buffer.drop offset).take width), next)
  else
    .error (.rangeError "Offset is outside the bounds of the DataView")

def readUInt8 : Except MatterError (Nat × DataReader) :=
  reader.readUInt 1

def readUInt16 : Except MatterError (Nat × DataReader) :=
  reader.readUInt 2

def readUInt32 : Except MatterError (Nat × DataReader) :=
  reader.readUInt 4

def readUInt64 : Except MatterError (Nat × DataReader) :=
  reader.readUInt 8

def readInt (width : Nat) : Except MatterError (Int × DataReader) := do
  let (value, next) ← reader.readUInt width
  return (toSigned width value, next)

def readInt8 : Except MatterError (Int × DataReader) :=
  reader.readInt 1

def readInt16 : Except MatterError (Int × DataReader) :=
  reader.readInt 2

def readInt32 : Except MatterError (Int × DataReader) :=
  reader.readInt 4

def readInt64 : Except MatterError (Int × DataReader) :=
  reader.readInt 8

/-- A floating point number as the bits of its format. -/
def readFloat : Except MatterError (Nat × DataReader) :=
  reader.readUInt 4

def readDouble : Except MatterError (Nat × DataReader) :=
  reader.readUInt 8

/-- A part of the buffer, cut off at its end. -/
def readByteArray (length : Nat) : Bytes × DataReader :=
  let (offset, next) := reader.getOffsetAndAdvance length
  ((reader.buffer.drop offset).take length, next)

def dropByteOrderMark : List Char → List Char
  | [] => []
  | char :: text => if char = Utf8.byteOrderMark then text else char :: text

def decodeText (data : Bytes) : List Char :=
  dropByteOrderMark (Utf8.decode data)

def readUtf8String (length : Nat) : List Char × DataReader :=
  let (data, next) := reader.readByteArray length
  (decodeText data, next)

theorem dropByteOrderMark_eq_iff (text : List Char) :
    dropByteOrderMark text = text ↔ text.head? ≠ some Utf8.byteOrderMark := by
  cases text with
  | nil => simp [dropByteOrderMark]
  | cons char text =>
    rw [dropByteOrderMark]
    split
    · simp_all
    · simp_all

def remainingBytes : Bytes :=
  reader.buffer.drop reader.offset

def remainingBytesCount : Nat :=
  reader.buffer.length - reader.offset

def setOffset (offset : Nat) : Except MatterError DataReader :=
  if isInside : offset ≤ reader.buffer.length then
    .ok { reader with offset := offset, offset_le := isInside }
  else .error (.error s!"Offset {offset} is out of bounds.")

@[simp] theorem remainingBytes_new (buffer : Bytes) (endian : Endian) :
    (new buffer endian).remainingBytes = buffer := rfl

theorem readUInt_of_remaining {reader : DataReader} {width : Nat} {value : Int}
    {rest : Bytes} (remaining : reader.remainingBytes =
      encode reader.endian width (value % 256 ^ width).toNat ++ rest) :
    ∃ next, reader.readUInt width = .ok ((value % 256 ^ width).toNat, next) ∧
      next.endian = reader.endian ∧ next.remainingBytes = rest := by
  have lengths := congrArg List.length remaining
  simp only [remainingBytes, List.length_drop, List.length_append, encode_length] at lengths
  have offsetBound := reader.offset_le
  refine ⟨(reader.getOffsetAndAdvance width).2, ?_, rfl, ?_⟩
  · have inside : reader.offset + width ≤ reader.buffer.length := by omega
    have bytes : (reader.buffer.drop reader.offset).take width =
        encode reader.endian width (value % 256 ^ width).toNat := by
      have taken := congrArg (List.take width) remaining
      rwa [List.take_left' (encode_length _ _ _)] at taken
    have fits : (value % 256 ^ width).toNat < 256 ^ width := by
      have positive : (0 : Int) < 256 ^ width := by positivity
      have bound := Int.emod_lt_of_pos value positive
      have nonnegative := Int.emod_nonneg value positive.ne'
      zify
      rwa [Int.toNat_of_nonneg nonnegative]
    simp only [readUInt, getOffsetAndAdvance, if_pos inside, bytes, decode_encode,
      Nat.mod_eq_of_lt fits]
  · have advanced : min (reader.offset + width) reader.buffer.length =
        reader.offset + width := by omega
    have dropped := congrArg (List.drop width) remaining
    rw [List.drop_left' (encode_length _ _ _)] at dropped
    rw [← dropped]
    simp [remainingBytes, getOffsetAndAdvance]

theorem readUInt_of_fits {reader : DataReader} {width value : Nat} {rest : Bytes}
    (fits : value < 256 ^ width)
    (remaining : reader.remainingBytes = encode reader.endian width value ++ rest) :
    ∃ next, reader.readUInt width = .ok (value, next) ∧
      next.endian = reader.endian ∧ next.remainingBytes = rest := by
  have unchanged := toNat_emod_of_lt fits
  rw [← unchanged] at remaining
  have reads := readUInt_of_remaining remaining
  rwa [unchanged] at reads

theorem readUInt_lt {reader next : DataReader} {width value : Nat}
    (run : reader.readUInt width = .ok (value, next)) : value < 256 ^ width := by
  rw [readUInt] at run
  dsimp only [getOffsetAndAdvance] at run
  split at run
  · rename_i inside
    cases run
    have bound := decode_lt reader.endian ((reader.buffer.drop reader.offset).take width)
    rwa [List.length_take, List.length_drop, Nat.min_eq_left (by omega)] at bound
  · cases run

/-! ## What the reads consume -/

open Consumption

def source (endian : Endian) : Source DataReader UInt8 where
  usable reader := reader.endian = endian
  remaining := remainingBytes

def reading {α : Type} (read : DataReader → Except MatterError (α × DataReader)) :
    Action DataReader MatterError α :=
  read

def taking {α : Type} (take : DataReader → α × DataReader) :
    Action DataReader MatterError α :=
  fun reader => .ok (take reader)

variable {endian : Endian} {width : Nat}

theorem remainingBytes_length :
    reader.remainingBytes.length = reader.buffer.length - reader.offset :=
  List.length_drop

theorem reads_readUInt {value : Nat} (fits : value < 256 ^ width) :
    Reads (source endian) (reading (readUInt · width)) (encode endian width value) value := by
  intro reader rest usable remaining
  rcases readUInt_of_fits fits (usable ▸ remaining) with ⟨next, run, sameEndian, left⟩
  exact ⟨next, run, sameEndian.trans usable, left⟩

theorem rejects_readUInt {bytes : Bytes} (length : bytes.length = width) :
    Rejects (source endian) (reading (readUInt · width)) bytes := by
  intro reader missing _ notEmpty cut
  have lengths := congrArg List.length cut
  have lacking := List.length_pos_iff.mpr notEmpty
  have left : (source endian).remaining reader = reader.remainingBytes := rfl
  rw [List.length_append, left, remainingBytes_length] at lengths
  have outside : ¬reader.offset + width ≤ reader.buffer.length := by omega
  exact ⟨_, if_neg outside⟩

theorem advances_readUInt (positive : 0 < width) :
    Advances (source endian) (reading (readUInt · width)) := by
  intro reader value next usable run
  by_cases inside : reader.offset + width ≤ reader.buffer.length
  · have taken : reading (readUInt · width) reader =
        .ok (_, (reader.getOffsetAndAdvance width).2) := if_pos inside
    rw [taken] at run
    cases run
    refine ⟨usable, ?_⟩
    show (remainingBytes _).length < (remainingBytes reader).length
    rw [remainingBytes_length, remainingBytes_length]
    simp only [getOffsetAndAdvance]
    omega
  · have failed : reading (readUInt · width) reader = .error _ := if_neg inside
    rw [failed] at run
    cases run

theorem reads_readByteArray (data : Bytes) :
    Reads (source endian) (taking (readByteArray · data.length)) data data := by
  intro reader rest usable remaining
  have left : reader.remainingBytes = data ++ rest := remaining
  have bytes : (reader.buffer.drop reader.offset).take data.length = data := by
    have taken := congrArg (List.take data.length) left
    rwa [List.take_left' rfl] at taken
  have dropped := congrArg (List.drop data.length) left
  rw [List.drop_left' rfl] at dropped
  refine ⟨(reader.getOffsetAndAdvance data.length).2, ?_, usable, ?_⟩
  · simp [taking, readByteArray, getOffsetAndAdvance, bytes]
  · rw [← dropped]
    simp [source, remainingBytes, getOffsetAndAdvance]

theorem reads_readUtf8String (text : List Char) :
    Reads (source endian) (taking (readUtf8String · (Utf8.encode text).length))
      (Utf8.encode text) (dropByteOrderMark text) := by
  have reads := (@reads_readByteArray endian (Utf8.encode text)).map decodeText
  rw [decodeText, Utf8.decode_encode] at reads
  exact reads

theorem readByteArray_of_short {reader : DataReader} {length : Nat}
    (short : reader.remainingBytes.length ≤ length) :
    ∃ next, reader.readByteArray length = (reader.remainingBytes, next) ∧
      next.endian = reader.endian ∧ next.remainingBytes = [] := by
  rw [remainingBytes_length] at short
  refine ⟨(reader.getOffsetAndAdvance length).2, ?_, rfl, ?_⟩
  · simp only [readByteArray, getOffsetAndAdvance]
    rw [List.take_of_length_le (by rw [List.length_drop]; omega)]
    rfl
  · simp only [remainingBytes, getOffsetAndAdvance]
    rw [Nat.min_eq_right (by omega), List.drop_length]

theorem keeps_readByteArray (length : Nat) :
    Keeps (source endian) (taking (readByteArray · length)) := by
  intro reader value next usable run
  cases run
  refine ⟨usable, ?_⟩
  show (remainingBytes _).length ≤ (remainingBytes reader).length
  rw [remainingBytes_length, remainingBytes_length]
  dsimp only
  omega

end DataReader

end MatterJs.General
