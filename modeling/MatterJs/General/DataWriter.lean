import MatterJs.Foundation.ByteOrder

/-! Writer that auto-increments its offset after each write. -/

namespace MatterJs.General

open ByteOrder

abbrev Bytes := List UInt8

structure DataWriter where
  endian : Endian
  length : Nat
  chunks : List Bytes
  length_eq : length = chunks.flatten.length

namespace DataWriter

def new (endian : Endian) : DataWriter where
  endian := endian
  length := 0
  chunks := []
  length_eq := rfl

variable (writer : DataWriter) (value : Int)

def writeByteArray (value : Bytes) : DataWriter where
  endian := writer.endian
  length := writer.length + value.length
  chunks := writer.chunks ++ [value]
  length_eq := by simp [writer.length_eq]

/-- The unsigned writes. A number that does not fit is reduced modulo the
width, as the setters of a data view do. -/
def writeUInt (width : Nat) (value : Int) : DataWriter :=
  writer.writeByteArray (encode writer.endian width (value % 256 ^ width).toNat)

def writeUInt8 : DataWriter :=
  writer.writeUInt 1 value

def writeUInt16 : DataWriter :=
  writer.writeUInt 2 value

def writeUInt32 : DataWriter :=
  writer.writeUInt 4 value

def writeUInt64 : DataWriter :=
  writer.writeUInt 8 value

/-! The signed writes leave the same pattern. A floating point number is given by
the bits of its format. -/

def writeInt8 : DataWriter :=
  writer.writeUInt 1 value

def writeInt16 : DataWriter :=
  writer.writeUInt 2 value

def writeInt32 : DataWriter :=
  writer.writeUInt 4 value

def writeInt64 : DataWriter :=
  writer.writeUInt 8 value

def writeFloat (bits : Nat) : DataWriter :=
  writer.writeUInt 4 bits

def writeDouble (bits : Nat) : DataWriter :=
  writer.writeUInt 8 bits

def toByteArray : Bytes :=
  writer.chunks.flatten

@[simp] theorem toByteArray_new (endian : Endian) : (new endian).toByteArray = [] := rfl

@[simp] theorem toByteArray_writeByteArray (value : Bytes) :
    (writer.writeByteArray value).toByteArray = writer.toByteArray ++ value := by
  simp [toByteArray, writeByteArray]

@[simp] theorem endian_new (endian : Endian) : (new endian).endian = endian := rfl

@[simp] theorem endian_writeByteArray (value : Bytes) :
    (writer.writeByteArray value).endian = writer.endian := rfl

@[simp] theorem endian_writeUInt (width : Nat) (value : Int) :
    (writer.writeUInt width value).endian = writer.endian := rfl

@[simp] theorem toByteArray_writeUInt (width : Nat) (value : Int) :
    (writer.writeUInt width value).toByteArray =
      writer.toByteArray ++ encode writer.endian width (value % 256 ^ width).toNat :=
  toByteArray_writeByteArray _ _

theorem toByteArray_writeUInt_of_fits {width value : Nat} (fits : value < 256 ^ width) :
    (writer.writeUInt width value).toByteArray =
      writer.toByteArray ++ encode writer.endian width value := by
  rw [toByteArray_writeUInt, toNat_emod_of_lt fits]

theorem toByteArray_length : writer.toByteArray.length = writer.length :=
  writer.length_eq.symm

end DataWriter

end MatterJs.General
