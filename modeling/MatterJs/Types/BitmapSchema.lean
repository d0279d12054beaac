import MatterJs.Foundation.Bitwise32
import MatterJs.General.MatterError
import Mathlib.Data.List.Nodup

/-! `BitmapSchema` and `ByteArrayBitmapSchema`: flags and numbers at bit positions. -/

namespace MatterJs.Types

open Bitwise32

inductive BitRangeType where
  | flag
  | number
  | enum
  deriving DecidableEq

structure BitRange where
  type : BitRangeType
  offset : Nat
  length : Nat
  flag_length : type = .flag → length = 1

def BitFlag (offset : Nat) : BitRange := ⟨.flag, offset, 1, fun _ => rfl⟩

def BitField (offset length : Nat) : BitRange := ⟨.number, offset, length, nofun⟩

def BitFieldEnum (offset length : Nat) : BitRange := ⟨.enum, offset, length, nofun⟩

/-- The fields in their order, each with another name -/
structure BitSchema where
  ranges : List (String × BitRange)
  nodup : (ranges.map Prod.fst).Nodup

inductive BitValue where
  | boolean (value : Bool)
  | number (value : Int)
  deriving DecidableEq

/-- The values by their names, `none` for undefined -/
abbrev BitValues := String → Option BitValue

namespace BitValue

def isTruthy : Option BitValue → Bool
  | none => false
  | some (boolean value) => value
  | some (number value) => value ≠ 0

/-- The operand of a bitwise operator -/
def toNumber : Option BitValue → Int
  | none => 0
  | some (boolean value) => value.toInt
  | some (number value) => value

def bits : BitValue → Nat
  | boolean value => value.toNat
  | number value => value.toNat

end BitValue

namespace BitSchema

/-- `result[name] = …` -/
def assign (field : BitRange → BitValue) (result : BitValues) (entry : String × BitRange) :
    BitValues :=
  Function.update result entry.1 (some (field entry.2))

def object (schema : BitSchema) (field : BitRange → BitValue) : BitValues :=
  schema.ranges.foldl (assign field) fun _ => none

end BitSchema

namespace BitmapSchemaInternal

open Bitwise32

def mask (range : BitRange) : Int :=
  shiftLeft (shiftLeft 1 range.length - 1) range.offset

def encodeField (values : BitValues) (result : Int) (entry : String × BitRange) : Int :=
  match entry.2.type with
  | .flag =>
    if BitValue.isTruthy (values entry.1) then Bitwise32.or result (mask entry.2) else result
  | .enum | .number =>
    Bitwise32.or result (shiftLeft (BitValue.toNumber (values entry.1)) entry.2.offset)

def encode (schema : BitSchema) (values : BitValues) : Int :=
  schema.ranges.foldl (encodeField values) 0

def decodeField (bitmap : Int) (range : BitRange) : BitValue :=
  match range.type with
  | .flag => .boolean (Bitwise32.and bitmap (mask range) ≠ 0)
  | .enum | .number => .number (signedShiftRight (Bitwise32.and bitmap (mask range)) range.offset)

def decode (schema : BitSchema) (bitmap : Int) : BitValues :=
  schema.object (decodeField bitmap)

end BitmapSchemaInternal

/-! ## Schemas and their values -/

namespace BitRange

def covers (range : BitRange) (position : Nat) : Bool :=
  range.offset ≤ position && position < range.offset + range.length

def Admits (range : BitRange) : BitValue → Prop
  | .boolean _ => range.type = .flag
  | .number value => range.type ≠ .flag ∧ 0 ≤ value ∧ value < 2 ^ range.length

theorem Admits.bits_lt {range : BitRange} {value : BitValue} (admits : range.Admits value) :
    value.bits < 2 ^ range.length := by
  cases value with
  | boolean value =>
    rw [range.flag_length admits]
    exact Bool.toNat_lt value
  | number value =>
    have bound := admits.2.2
    change value.toNat < 2 ^ range.length
    rw [Int.toNat_lt admits.2.1]
    exact_mod_cast bound

theorem testBit_shifted (range : BitRange) {value : Nat} (fits : value < 2 ^ range.length)
    (position : Nat) : (range.covers position && value.testBit (position - range.offset)) =
      (value <<< range.offset).testBit position := by
  rw [covers, Nat.testBit_shiftLeft]
  by_cases inField : position < range.offset + range.length
  · rw [decide_eq_true inField, Bool.and_true]
  · have above : value.testBit (position - range.offset) = false := Nat.testBit_lt_two_pow
      (Nat.lt_of_lt_of_le fits (Nat.pow_le_pow_right (by decide) (by omega)))
    rw [above, Bool.and_false, Bool.and_false]

end BitRange

variable {schema : BitSchema} {values : BitValues} {entry : String × BitRange} {value : BitValue}

namespace BitSchema

def Disjoint (schema : BitSchema) : Prop :=
  ∀ entry ∈ schema.ranges, ∀ other ∈ schema.ranges, entry.1 ≠ other.1 →
    ∀ position, entry.2.covers position = true → other.2.covers position = false

def Within (schema : BitSchema) (width : Nat) : Prop :=
  ∀ entry ∈ schema.ranges, entry.2.offset + entry.2.length ≤ width

/-- Each field has a value in its range, and there are no other values. -/
structure IsAssignment (schema : BitSchema) (values : BitValues) : Prop where
  admits : ∀ entry ∈ schema.ranges, ∃ value, values entry.1 = some value ∧ entry.2.Admits value
  noOthers : ∀ name, name ∉ schema.ranges.map Prod.fst → values name = none

def fieldBit (values : BitValues) (position : Nat) (entry : String × BitRange) : Bool :=
  entry.2.covers position &&
    ((values entry.1).elim 0 BitValue.bits).testBit (position - entry.2.offset)

def bit (schema : BitSchema) (values : BitValues) (position : Nat) : Bool :=
  schema.ranges.any (fieldBit values position)

theorem foldl_assign {field : BitRange → BitValue} {ranges : List (String × BitRange)}
    (nodup : (ranges.map Prod.fst).Nodup) (start : BitValues) :
    (∀ entry ∈ ranges, ranges.foldl (assign field) start entry.1 = some (field entry.2)) ∧
      ∀ name, name ∉ ranges.map Prod.fst →
        ranges.foldl (assign field) start name = start name := by
  induction ranges generalizing start with
  | nil => exact ⟨List.forall_mem_nil _, fun _ _ => rfl⟩
  | cons entry ranges induction =>
    rw [List.map_cons, List.nodup_cons] at nodup
    rcases induction nodup.2 (assign field start entry) with ⟨assigned, kept⟩
    refine ⟨List.forall_mem_cons.mpr ⟨?_, assigned⟩, ?_⟩
    · rw [List.foldl_cons, kept _ nodup.1, assign, Function.update_self]
    · intro name others
      rw [List.map_cons, List.mem_cons, not_or] at others
      rw [List.foldl_cons, kept _ others.2, assign, Function.update_of_ne others.1]

theorem object_eq_iff (assignment : schema.IsAssignment values) (field : BitRange → BitValue) :
    schema.object field = values ↔
      ∀ entry ∈ schema.ranges, values entry.1 = some (field entry.2) := by
  rcases @foldl_assign field _ schema.nodup fun _ => none with ⟨assigned, kept⟩
  constructor
  · intro equal entry inside
    rw [← equal]
    exact assigned entry inside
  · intro each
    funext name
    by_cases named : name ∈ schema.ranges.map Prod.fst
    · rcases List.mem_map.mp named with ⟨entry, inside, rfl⟩
      rw [each entry inside]
      exact assigned entry inside
    · rw [assignment.noOthers name named]
      exact kept name named

theorem bit_of_mem (disjoint : schema.Disjoint) (inside : entry ∈ schema.ranges)
    (isValue : values entry.1 = some value) {position : Nat}
    (covered : entry.2.covers position = true) :
    schema.bit values position = value.bits.testBit (position - entry.2.offset) := by
  have here : fieldBit values position entry =
      value.bits.testBit (position - entry.2.offset) := by
    rw [fieldBit, covered, isValue, Bool.true_and, Option.elim_some]
  rw [← here]
  cases atEntry : fieldBit values position entry with
  | true => exact List.any_eq_true.mpr ⟨entry, inside, atEntry⟩
  | false =>
    refine List.any_eq_false.mpr fun other isOther => ?_
    rw [Bool.not_eq_true]
    by_cases same : other = entry
    · rw [same, atEntry]
    · have named : entry.1 ≠ other.1 := fun equal =>
        same (List.inj_on_of_nodup_map schema.nodup isOther inside equal.symm)
      rw [fieldBit, disjoint entry inside other isOther named position covered, Bool.false_and]

end BitSchema

/-! ## Bits of numbers -/

namespace BitmapSchemaInternal

open Bitwise32

theorem shiftAmount_offset {range : BitRange} (notEmpty : 0 < range.length)
    (within : range.offset + range.length ≤ 32) : shiftAmount range.offset = range.offset := by
  rw [shiftAmount_eq (by omega) (by omega)]
  omega

theorem testBit_mask {range : BitRange} (short : range.length < 32)
    (within : range.offset + range.length ≤ 32) (position : Nat) :
    testBit (mask range) position = range.covers position := by
  rw [mask, testBit_shiftLeft, testBit_ones short, BitRange.covers, Bool.eq_iff_iff]
  simp only [Bool.and_eq_true, Bool.not_eq_true', decide_eq_true_eq, decide_eq_false_iff_not]
  by_cases notEmpty : 0 < range.length
  · rw [shiftAmount_offset notEmpty within]
    omega
  · omega

theorem testBit_number {range : BitRange} (within : range.offset + range.length ≤ 32) {value : Nat}
    (fits : value < 2 ^ range.length) (position : Nat) :
    testBit (shiftLeft value range.offset) position =
      (range.covers position && value.testBit (position - range.offset)) := by
  have wide : value < 2 ^ 32 := Nat.lt_of_lt_of_le fits
    (Nat.pow_le_pow_right (by decide) (Nat.le_trans (Nat.le_add_left _ _) within))
  rw [testBit_shiftLeft, testBit_natCast wide, range.testBit_shifted fits]
  by_cases notEmpty : 0 < range.length
  · rw [shiftAmount_offset notEmpty within, Nat.testBit_shiftLeft]
    by_cases inWord : position < 32
    · rw [decide_eq_true inWord]
      simp [← decide_not]
    · have above : value.testBit (position - range.offset) = false := Nat.testBit_lt_two_pow
        (Nat.lt_of_lt_of_le fits (Nat.pow_le_pow_right (by decide) (by omega)))
      rw [above, Bool.and_false, Bool.and_false]
  · have isZero : value = 0 := by
      rw [Nat.eq_zero_of_not_pos notEmpty] at fits
      exact Nat.lt_one_iff.mp fits
    rw [isZero, Nat.zero_shiftLeft, Nat.zero_testBit, Nat.zero_testBit, Bool.and_false]

theorem testBit_encodeField (isValue : values entry.1 = some value) (admits : entry.2.Admits value)
    (within : entry.2.offset + entry.2.length ≤ 32) (result : Int) (position : Nat) :
    testBit (encodeField values result entry) position =
      (testBit result position || BitSchema.fieldBit values position entry) := by
  unfold encodeField BitSchema.fieldBit
  rw [isValue]
  cases value with
  | boolean value =>
    have one := entry.2.flag_length admits
    have isMask := testBit_mask (one ▸ by decide) within position
    rw [admits]
    cases value with
    | true =>
      change testBit (Bitwise32.or result (mask entry.2)) position = _
      rw [testBit_or, isMask]
      cases covered : entry.2.covers position with
      | false => rfl
      | true =>
        rw [BitRange.covers, Bool.and_eq_true, decide_eq_true_iff, decide_eq_true_iff] at covered
        have first : position - entry.2.offset = 0 := by omega
        rw [first]
        rfl
    | false =>
      change testBit result position = (testBit result position || (_ && Nat.testBit 0 _))
      rw [Nat.zero_testBit, Bool.and_false, Bool.or_false]
  | number value =>
    have isNatural : ((value.toNat : Nat) : Int) = value := Int.toNat_of_nonneg admits.2.1
    have number := testBit_number within admits.bits_lt position
    have orNumber : testBit (Bitwise32.or result (shiftLeft value entry.2.offset)) position =
        (testBit result position ||
          (entry.2.covers position && value.toNat.testBit (position - entry.2.offset))) := by
      rw [testBit_or]
      conv_lhs => rw [← isNatural]
      exact congrArg (testBit result position || ·) number
    cases isType : entry.2.type with
    | flag => exact absurd isType admits.1
    | number => exact orNumber
    | enum => exact orNumber

theorem testBit_encode (assignment : schema.IsAssignment values) (within : schema.Within 32)
    (position : Nat) : testBit (encode schema values) position = schema.bit values position := by
  have folded (ranges : List (String × BitRange))
      (inSchema : ∀ entry ∈ ranges, entry ∈ schema.ranges)
      (result : Int) : testBit (ranges.foldl (encodeField values) result) position =
        (testBit result position || ranges.any (BitSchema.fieldBit values position)) := by
    induction ranges generalizing result with
    | nil => exact (Bool.or_false _).symm
    | cons entry ranges induction =>
      rcases List.forall_mem_cons.mp inSchema with ⟨isEntry, others⟩
      rcases assignment.admits entry isEntry with ⟨value, isValue, admits⟩
      rw [List.foldl_cons, induction others,
        testBit_encodeField isValue admits (within entry isEntry), List.any_cons,
        Bool.or_assoc]
  have start : testBit 0 position = false := by simp [testBit, low]
  rw [encode, folded schema.ranges (fun _ => id), start]
  rfl

theorem encode_isWord (schema : BitSchema) (values : BitValues) :
    (low (encode schema values)).toInt = encode schema values := by
  have folded (ranges : List (String × BitRange)) (result : Int)
      (isWord : (low result).toInt = result) :
      (low (ranges.foldl (encodeField values) result)).toInt =
        ranges.foldl (encodeField values) result := by
    induction ranges generalizing result with
    | nil => exact isWord
    | cons entry ranges induction =>
      apply induction
      have joined (other : Int) :
          (low (Bitwise32.or result other)).toInt = Bitwise32.or result other := by
        rw [Bitwise32.or, low_toInt]
      unfold encodeField
      split
      · split
        · exact joined _
        · exact isWord
      · exact joined _
      · exact joined _
  exact folded schema.ranges 0 (by decide)

theorem encode_nonneg_iff (assignment : schema.IsAssignment values) (within : schema.Within 32) :
    0 ≤ encode schema values ↔ schema.bit values 31 = false := by
  rw [← encode_isWord, toInt_nonneg_iff, ← testBit_encode assignment within]
  rfl

theorem and_mask_encode (disjoint : schema.Disjoint) (assignment : schema.IsAssignment values)
    (within : schema.Within 32) (inside : entry ∈ schema.ranges)
    (isValue : values entry.1 = some value) (admits : entry.2.Admits value)
    (short : entry.2.length < 32) (positive : value.bits <<< entry.2.offset < 2 ^ 31) :
    Bitwise32.and (encode schema values) (mask entry.2) =
      (value.bits <<< entry.2.offset : Nat) := by
  have bits : (low (encode schema values) &&& low (mask entry.2)).toNat =
      value.bits <<< entry.2.offset := by
    apply Nat.eq_of_testBit_eq
    intro position
    change (low (encode schema values) &&& low (mask entry.2)).getLsbD position = _
    rw [BitVec.getLsbD_and, ← entry.2.testBit_shifted admits.bits_lt]
    change (testBit (encode schema values) position && testBit (mask entry.2) position) = _
    rw [testBit_encode assignment within, testBit_mask short (within entry inside), Bool.and_comm]
    cases covered : entry.2.covers position with
    | false => rfl
    | true => rw [BitSchema.bit_of_mem disjoint inside isValue covered]
  rw [Bitwise32.and, toInt_of_toNat_lt (bits ▸ positive), bits]

theorem decodeField_encode (disjoint : schema.Disjoint) (assignment : schema.IsAssignment values)
    (within : schema.Within 32) (inside : entry ∈ schema.ranges)
    (isValue : values entry.1 = some value) (admits : entry.2.Admits value)
    (short : entry.2.length < 32) (positive : value.bits <<< entry.2.offset < 2 ^ 31) :
    decodeField (encode schema values) entry.2 = value := by
  have field := and_mask_encode disjoint assignment within inside isValue admits short positive
  unfold decodeField
  rw [field]
  cases value with
  | boolean value =>
    rw [admits]
    refine congrArg BitValue.boolean ?_
    cases value with
    | true =>
      have notZero : 0 < 1 <<< entry.2.offset := by
        rw [Nat.one_shiftLeft]
        exact Nat.pow_pos (by decide)
      exact decide_eq_true (Int.natCast_ne_zero.mpr (Nat.ne_of_gt notZero))
    | false =>
      refine decide_eq_false (not_not.mpr ?_)
      exact congrArg Nat.cast (Nat.zero_shiftLeft entry.2.offset)
  | number value =>
    have shifted : signedShiftRight ((BitValue.number value).bits <<< entry.2.offset : Nat)
        entry.2.offset = value := by
      have isNatural : ((value.toNat : Nat) : Int) = value := Int.toNat_of_nonneg admits.2.1
      by_cases inWord : entry.2.offset < 32
      · rw [signedShiftRight_natCast positive inWord, Nat.shiftLeft_shiftRight]
        exact isNatural
      · have noBits := admits.bits_lt
        have fits := within entry inside
        have isEmpty : entry.2.length = 0 := by omega
        rw [isEmpty, Nat.pow_zero, Nat.lt_one_iff] at noBits
        rw [noBits, Nat.zero_shiftLeft]
        exact (signedShiftRight_zero _).trans ((congrArg Nat.cast noBits).symm.trans isNatural)
    cases isType : entry.2.type with
    | flag => exact absurd isType admits.1
    | number => exact congrArg BitValue.number shifted
    | enum => exact congrArg BitValue.number shifted

/-- The number is an unsigned one of 32 bits, and the values are read back of it. -/
structure RoundTrips (schema : BitSchema) (values : BitValues) : Prop where
  isUnsigned : 0 ≤ encode schema values ∧ encode schema values < 2 ^ 32
  decoded : decode schema (encode schema values) = values

/-- A value does not set the last bit, and is zero where its field is the whole number. -/
def Kept (range : BitRange) (value : BitValue) : Prop :=
  (range.offset + range.length = 32 → value.bits < 2 ^ (range.length - 1)) ∧
    (range.length = 32 → value.bits = 0)

def AllKept (schema : BitSchema) (values : BitValues) : Prop :=
  ∀ entry ∈ schema.ranges, ∀ value, values entry.1 = some value → Kept entry.2 value

theorem bit_last (assignment : schema.IsAssignment values) (within : schema.Within 32)
    (kept : AllKept schema values) : schema.bit values 31 = false := by
  refine List.any_eq_false.mpr fun entry inside => ?_
  rcases assignment.admits entry inside with ⟨value, isValue, admits⟩
  have fits := within entry inside
  rw [BitSchema.fieldBit, isValue, Option.elim_some, entry.2.testBit_shifted admits.bits_lt,
    Bool.not_eq_true, Nat.testBit_shiftLeft]
  by_cases atEnd : entry.2.offset + entry.2.length = 32
  · have small := (kept entry inside value isValue).1 atEnd
    have above : value.bits.testBit (31 - entry.2.offset) = false := by
      refine Nat.testBit_lt_two_pow (Nat.lt_of_lt_of_le small ?_)
      exact Nat.pow_le_pow_right (by decide) (by omega)
    rw [above, Bool.and_false]
  · have above : value.bits.testBit (31 - entry.2.offset) = false := by
      refine Nat.testBit_lt_two_pow (Nat.lt_of_lt_of_le admits.bits_lt ?_)
      exact Nat.pow_le_pow_right (by decide) (by omega)
    rw [above, Bool.and_false]

theorem shifted_lt {range : BitRange} (admits : range.Admits value)
    (within : range.offset + range.length ≤ 32) (kept : Kept range value) :
    value.bits <<< range.offset < 2 ^ 31 := by
  by_cases atEnd : range.offset + range.length = 32
  · by_cases notEmpty : 0 < range.length
    · exact shifted_lt_word (kept.1 atEnd) (by omega)
    · have noBits := admits.bits_lt
      rw [Nat.eq_zero_of_not_pos notEmpty, Nat.pow_zero, Nat.lt_one_iff] at noBits
      rw [noBits, Nat.zero_shiftLeft]
      exact Nat.pow_pos (by decide)
  · exact shifted_lt_word admits.bits_lt (by omega)

theorem decodeField_whole {range : BitRange} (whole : range.length = 32) (bitmap : Int) :
    decodeField bitmap range = .number 0 := by
  have noFlag : range.type ≠ .flag := fun isFlag => by
    have one := range.flag_length isFlag
    omega
  have noMask : mask range = 0 := by
    have ones : shiftLeft 1 (32 : Nat) - 1 = 0 := ones_width
    rw [mask, whole, ones]
    simp [shiftLeft, low]
  have nothing : Bitwise32.and bitmap (mask range) = 0 := by
    rw [noMask]
    simp [Bitwise32.and, low]
  unfold decodeField
  rw [nothing, signedShiftRight_zero]
  cases isType : range.type with
  | flag => exact absurd isType noFlag
  | number => rfl
  | enum => rfl

theorem kept_of_roundTrips (disjoint : schema.Disjoint) (assignment : schema.IsAssignment values)
    (within : schema.Within 32) (roundTrips : RoundTrips schema values) :
    AllKept schema values := by
  intro entry inside value isValue
  have lastBit := (encode_nonneg_iff assignment within).mp roundTrips.isUnsigned.1
  rcases assignment.admits entry inside with ⟨admitted, isAdmitted, admits⟩
  cases Option.some.inj (isAdmitted.symm.trans isValue)
  constructor
  · intro atEnd
    refine Nat.lt_of_not_le fun big => ?_
    have notEmpty : 0 < entry.2.length := Nat.pos_of_ne_zero fun isEmpty => by
      have noBits := admits.bits_lt
      rw [isEmpty] at noBits big
      exact absurd (Nat.lt_of_lt_of_le noBits big) (Nat.lt_irrefl _)
    have covered : entry.2.covers 31 = true := by
      rw [BitRange.covers, Bool.and_eq_true, decide_eq_true_iff, decide_eq_true_iff]
      omega
    have isSet : value.bits.testBit (entry.2.length - 1) = true := by
      apply Nat.testBit_of_two_pow_le_and_two_pow_add_one_gt big
      rw [Nat.sub_add_cancel notEmpty]
      exact admits.bits_lt
    have position : 31 - entry.2.offset = entry.2.length - 1 := by omega
    rw [BitSchema.bit_of_mem disjoint inside isValue covered, position, isSet] at lastBit
    cases lastBit
  · intro whole
    have decoded := (BitSchema.object_eq_iff assignment _).mp roundTrips.decoded entry inside
    rw [decodeField_whole whole, isValue] at decoded
    cases decoded
    rfl

theorem roundTrips_of_kept (disjoint : schema.Disjoint) (assignment : schema.IsAssignment values)
    (within : schema.Within 32) (kept : AllKept schema values) : RoundTrips schema values := by
  refine ⟨⟨?_, ?_⟩, (BitSchema.object_eq_iff assignment _).mpr fun entry inside => ?_⟩
  · exact (encode_nonneg_iff assignment within).mpr (bit_last assignment within kept)
  · rw [← encode_isWord]
    exact Int.lt_trans (BitVec.toInt_lt) (by decide)
  · rcases assignment.admits entry inside with ⟨value, isValue, admits⟩
    have isKept := kept entry inside value isValue
    have fits := within entry inside
    by_cases whole : entry.2.length = 32
    · have noBits := isKept.2 whole
      rw [decodeField_whole whole, isValue]
      cases value with
      | boolean value =>
        have one := entry.2.flag_length admits
        omega
      | number value =>
        have isZero : value = 0 := by
          change value.toNat = 0 at noBits
          have notNegative := admits.2.1
          omega
        rw [isZero]
    · rw [decodeField_encode disjoint assignment within inside isValue admits (by omega)
        (shifted_lt admits fits isKept), isValue]

end BitmapSchemaInternal

/-! ## Byte arrays -/

def bitOf (bytes : List UInt8) (position : Nat) : Bool :=
  (bytes.getD (position / 8) 0).toNat.testBit (position % 8)

namespace ByteArrayBitmapSchemaInternal

open Bitwise32 General

def mask (range : BitRange) : Int :=
  match range.type with
  | .flag => shiftLeft 1 (range.offset % 8 : Nat)
  | .enum | .number => shiftLeft 1 range.length - 1

def byteArrayLength (schema : BitSchema) : Nat :=
  (schema.ranges.foldl (fun length entry => max length (entry.2.offset + entry.2.length)) 0 + 7) / 8

/-- `bytes[index] |= value`, which is nothing behind the end -/
def orAt (bytes : List UInt8) (index : Nat) (value : Int) : List UInt8 :=
  bytes.modify index fun byte => UInt8.ofInt (Bitwise32.or byte.toNat value)

def writeNumber (numValue : Nat) (bitOffset : Fin 8) (byteOffset : Nat) (result : List UInt8) :
    List UInt8 :=
  if numValue = 0 then result
  else
    writeNumber (numValue >>> (8 - bitOffset.val)) 0 (byteOffset + 1)
      (orAt result byteOffset (numValue <<< bitOffset.val &&& 0xff : Nat))
termination_by numValue
decreasing_by
  have positive : 0 < numValue := Nat.pos_of_ne_zero ‹_›
  rw [Nat.shiftRight_eq_div_pow]
  exact Nat.div_lt_self positive (Nat.one_lt_two_pow (by omega))

def bitOffset (range : BitRange) : Fin 8 := ⟨range.offset % 8, Nat.mod_lt _ (by decide)⟩

def encodeField (values : BitValues) (result : List UInt8) (entry : String × BitRange) :
    List UInt8 :=
  match entry.2.type with
  | .flag =>
    if BitValue.isTruthy (values entry.1) then
      orAt result (entry.2.offset / 8) (mask entry.2)
    else result
  | .enum | .number =>
    writeNumber (Bitwise32.and (BitValue.toNumber (values entry.1)) (mask entry.2)).toNat
      (bitOffset entry.2) (entry.2.offset / 8) result

def encode (schema : BitSchema) (values : BitValues) : List UInt8 :=
  schema.ranges.foldl (encodeField values) (List.replicate (byteArrayLength schema) 0)

/-- The loop that reads a number. The operators see the low bits of the mask, which are zero where
it is. -/
def readNumber (bitmap : List UInt8) (mask : Nat) (bitOffset : Fin 8) (byteOffset : Nat)
    (value : Int) (valueBitOffset : Nat) : Int :=
  if mask = 0 then value
  else
    readNumber bitmap (mask >>> (8 - bitOffset.val)) 0 (byteOffset + 1)
      (Bitwise32.or value (shiftLeft
        ((bitmap.getD byteOffset 0).toNat >>> bitOffset.val &&& mask : Nat) valueBitOffset))
      (valueBitOffset + (8 - bitOffset.val))
termination_by mask
decreasing_by
  have positive : 0 < mask := Nat.pos_of_ne_zero ‹_›
  rw [Nat.shiftRight_eq_div_pow]
  exact Nat.div_lt_self positive (Nat.one_lt_two_pow (by omega))

def decodeField (bitmap : List UInt8) (range : BitRange) : BitValue :=
  match range.type with
  | .flag =>
    .boolean (Bitwise32.and (bitmap.getD (range.offset / 8) 0).toNat (mask range) ≠ 0)
  | .enum | .number =>
    .number (readNumber bitmap (low (mask range)).toNat (bitOffset range) (range.offset / 8) 0 0)

def decode (schema : BitSchema) (bitmap : List UInt8) : Except MatterError BitValues :=
  if bitmap.length ≠ byteArrayLength schema then
    throw (.unexpectedDataError ("Unexpected length: " ++ toString bitmap.length ++ ". Expected " ++
      toString (byteArrayLength schema)))
  else
    return schema.object (decodeField bitmap)

/-! What the loops do to the bits -/

theorem bitOf_replicate (length position : Nat) :
    bitOf (List.replicate length 0) position = false := by
  have noByte : (List.replicate length (0 : UInt8)).getD (position / 8) 0 = 0 := by
    rw [List.getD_eq_getElem?_getD, List.getElem?_replicate]
    split <;> rfl
  rw [bitOf, noByte]
  exact Nat.zero_testBit _

structure Sets (bits : Nat → Bool) (before after : List UInt8) : Prop where
  length : after.length = before.length
  bit (position : Nat) : bitOf after position = (bitOf before position || bits position)

theorem Sets.refl {bits : Nat → Bool} (noBits : ∀ position, bits position = false)
    (bytes : List UInt8) : Sets bits bytes bytes :=
  ⟨rfl, fun position => by rw [noBits, Bool.or_false]⟩

theorem Sets.trans {first second both : Nat → Bool} {before between after : List UInt8}
    (sets : Sets first before between) (others : Sets second between after)
    (joined : ∀ position, (first position || second position) = both position) :
    Sets both before after :=
  ⟨others.length.trans sets.length, fun position => by
    rw [others.bit, sets.bit, Bool.or_assoc, joined]⟩

theorem sets_orAt {bytes : List UInt8} {index value : Nat} (inside : index < bytes.length)
    (isByte : value < 256) : Sets
      (fun position => decide (position / 8 = index) && value.testBit (position % 8)) bytes
      (orAt bytes index value) := by
  refine ⟨List.length_modify _ _ _, fun position => ?_⟩
  rw [bitOf, bitOf, orAt, List.getD_eq_getElem?_getD, List.getD_eq_getElem?_getD,
    List.getElem?_modify]
  by_cases here : index = position / 8
  · simp only [if_pos here]
    rw [decide_eq_true here.symm, ← here, List.getElem?_eq_getElem inside]
    have small : bytes[index].toNat < 256 := UInt8.toNat_lt _
    have joined : bytes[index].toNat ||| value < 2 ^ 8 := Nat.or_lt_two_pow small isByte
    have byte : (UInt8.ofInt (Bitwise32.or bytes[index].toNat value)).toNat =
        bytes[index].toNat ||| value := by
      rw [or_natCast (by omega) (by omega)]
      change (UInt8.ofNat (Int.toNat (_ % 2 ^ 8))).toNat = _
      rw [UInt8.toNat_ofNat']
      omega
    change (UInt8.ofInt (Bitwise32.or bytes[index].toNat value)).toNat.testBit _ = _
    rw [byte, Nat.testBit_or]
    rfl
  · simp only [if_neg here]
    rw [decide_eq_false fun same => here same.symm, Bool.false_and, Bool.or_false, id_map']

theorem shiftRight_lt {value width : Nat} (fits : value < 2 ^ width) (distance : Nat) :
    value >>> distance < 2 ^ (width - distance) := by
  rw [Nat.shiftRight_eq_div_pow]
  apply Nat.div_lt_of_lt_mul
  rw [← Nat.pow_add]
  exact Nat.lt_of_lt_of_le fits (Nat.pow_le_pow_right (by decide) (by omega))

theorem testBit_split (numValue byteOffset position : Nat) (bitOffset : Fin 8) :
    (decide (position / 8 = byteOffset) &&
        (numValue <<< bitOffset.val &&& 0xff).testBit (position % 8) ||
      decide (8 * (byteOffset + 1) ≤ position) &&
        (numValue >>> (8 - bitOffset.val)).testBit (position - 8 * (byteOffset + 1))) =
      (decide (8 * byteOffset + bitOffset.val ≤ position) &&
        numValue.testBit (position - (8 * byteOffset + bitOffset.val))) := by
  by_cases here : position / 8 = byteOffset
  · have ones : Nat.testBit 0xff (position % 8) = true := by
      rw [show 0xff = 2 ^ 8 - 1 from rfl, Nat.testBit_two_pow_sub_one]
      exact decide_eq_true (Nat.mod_lt _ (by decide))
    have before : ¬8 * (byteOffset + 1) ≤ position := by omega
    rw [decide_eq_true here, decide_eq_false before, Nat.testBit_and, Nat.testBit_shiftLeft, ones,
      Bool.true_and, Bool.false_and, Bool.or_false, Bool.and_true]
    by_cases from_ : 8 * byteOffset + bitOffset.val ≤ position
    · have inside : position % 8 ≥ bitOffset.val := by omega
      have same : position % 8 - bitOffset.val =
          position - (8 * byteOffset + bitOffset.val) := by omega
      rw [decide_eq_true from_, decide_eq_true inside, same]
    · have outside : ¬position % 8 ≥ bitOffset.val := by omega
      rw [decide_eq_false from_, decide_eq_false outside]
      rfl
  · rw [decide_eq_false here, Bool.false_and, Bool.false_or]
    by_cases behind : 8 * (byteOffset + 1) ≤ position
    · have from_ : 8 * byteOffset + bitOffset.val ≤ position := by omega
      have same : 8 - bitOffset.val + (position - 8 * (byteOffset + 1)) =
          position - (8 * byteOffset + bitOffset.val) := by omega
      rw [decide_eq_true behind, decide_eq_true from_, Nat.testBit_shiftRight, same]
    · have before : ¬8 * byteOffset + bitOffset.val ≤ position := by omega
      rw [decide_eq_false behind, decide_eq_false before]
      rfl

theorem sets_writeNumber {numValue : Nat} {bitOffset : Fin 8} {byteOffset width : Nat}
    {result : List UInt8} (fits : numValue < 2 ^ width)
    (inside : 8 * byteOffset + bitOffset.val + width ≤ 8 * result.length) : Sets
      (fun position => decide (8 * byteOffset + bitOffset.val ≤ position) &&
        numValue.testBit (position - (8 * byteOffset + bitOffset.val))) result
      (writeNumber numValue bitOffset byteOffset result) := by
  fun_induction writeNumber numValue bitOffset byteOffset result generalizing width with
  | case1 bitOffset byteOffset result =>
    refine .refl (fun position => ?_) result
    rw [Nat.zero_testBit, Bool.and_false]
  | case2 numValue bitOffset byteOffset result notZero induction =>
    have notEmpty : 0 < width := Nat.pos_of_ne_zero fun isEmpty => by
      rw [isEmpty, Nat.pow_zero, Nat.lt_one_iff] at fits
      exact notZero fits
    have isByte : numValue <<< bitOffset.val &&& 0xff < 256 :=
      @Nat.and_lt_two_pow _ _ 8 (by decide)
    have first := @sets_orAt result byteOffset _ (by omega) isByte
    have others := @induction (width - (8 - bitOffset.val)) (shiftRight_lt fits _) (by
      rw [first.length]
      omega)
    exact first.trans others fun position => testBit_split numValue byteOffset position _

def FieldsFit (schema : BitSchema) : Prop := ∀ entry ∈ schema.ranges, entry.2.length ≤ 31

theorem le_foldl_max (ranges : List (String × BitRange)) (start : Nat) :
    start ≤ ranges.foldl (fun length entry => max length (entry.2.offset + entry.2.length)) start ∧
      ∀ entry ∈ ranges, entry.2.offset + entry.2.length ≤
        ranges.foldl (fun length entry => max length (entry.2.offset + entry.2.length)) start := by
  induction ranges generalizing start with
  | nil => exact ⟨Nat.le_refl _, List.forall_mem_nil _⟩
  | cons entry ranges induction =>
    rcases induction (max start (entry.2.offset + entry.2.length)) with ⟨started, others⟩
    exact ⟨Nat.le_trans (Nat.le_max_left _ _) started,
      List.forall_mem_cons.mpr ⟨Nat.le_trans (Nat.le_max_right _ _) started, others⟩⟩

theorem within_byteArrayLength (schema : BitSchema) :
    schema.Within (8 * byteArrayLength schema) := by
  intro entry inside
  have least := (le_foldl_max schema.ranges 0).2 entry inside
  rw [byteArrayLength]
  omega

theorem low_mask {range : BitRange} (noFlag : range.type ≠ .flag) (short : range.length ≤ 31) :
    (low (mask range)).toNat = 2 ^ range.length - 1 := by
  have ones := low_ones (Nat.lt_succ_of_le short)
  unfold mask
  cases isType : range.type with
  | flag => exact absurd isType noFlag
  | number => exact ones
  | enum => exact ones

theorem and_mask {range : BitRange} (noFlag : range.type ≠ .flag) (short : range.length ≤ 31)
    {value : Nat} (fits : value < 2 ^ range.length) : Bitwise32.and value (mask range) = value := by
  have bound : value < 2 ^ 31 :=
    Nat.lt_of_lt_of_le fits (Nat.pow_le_pow_right (by decide) short)
  have bits : (low value &&& low (mask range)).toNat = value := by
    rw [BitVec.toNat_and, low_natCast_toNat (by omega), low_mask noFlag short,
      Nat.and_two_pow_sub_one_eq_mod, Nat.mod_eq_of_lt fits]
  rw [Bitwise32.and, toInt_of_toNat_lt (by rw [bits]; exact bound), bits]

theorem mask_flag {range : BitRange} (isFlag : range.type = .flag) :
    mask range = (1 <<< (range.offset % 8) : Nat) := by
  rw [mask, isFlag]
  apply shiftLeft_natCast _ (by omega)
  rw [Nat.one_shiftLeft]
  exact Nat.pow_lt_pow_right (by decide) (by omega)

theorem sets_encodeField (isValue : values entry.1 = some value) (admits : entry.2.Admits value)
    (short : entry.2.length ≤ 31) {result : List UInt8}
    (within : entry.2.offset + entry.2.length ≤ 8 * result.length) :
    Sets (BitSchema.fieldBit values · entry) result (encodeField values result entry) := by
  have position_eq : 8 * (entry.2.offset / 8) + (bitOffset entry.2).val = entry.2.offset :=
    Nat.div_add_mod _ _
  have atField (position : Nat) : BitSchema.fieldBit values position entry =
      (value.bits <<< entry.2.offset).testBit position := by
    rw [BitSchema.fieldBit, isValue, Option.elim_some, entry.2.testBit_shifted admits.bits_lt]
  simp only [atField]
  unfold encodeField
  rw [isValue]
  cases value with
  | boolean value =>
    have one := entry.2.flag_length admits
    rw [admits]
    cases value with
    | true =>
      have inByte : entry.2.offset % 8 < 8 := Nat.mod_lt _ (by decide)
      have isByte : 1 <<< (entry.2.offset % 8) < 256 := by
        rw [Nat.one_shiftLeft]
        exact Nat.pow_lt_pow_right (by decide) inByte
      have sets := @sets_orAt result (entry.2.offset / 8) _ (by omega) isByte
      rw [← mask_flag admits] at sets
      refine ⟨sets.length, fun position => (sets.bit position).trans ?_⟩
      refine congrArg (bitOf result position || ·) ?_
      change _ = (1 <<< entry.2.offset).testBit position
      rw [Nat.one_shiftLeft, Nat.one_shiftLeft, Nat.testBit_two_pow, Nat.testBit_two_pow,
        Bool.eq_iff_iff]
      simp only [Bool.and_eq_true, decide_eq_true_eq]
      omega
    | false =>
      refine .refl (fun position => ?_) result
      change (0 <<< _).testBit position = false
      rw [Nat.zero_shiftLeft, Nat.zero_testBit]
  | number value =>
    have isNatural : ((value.toNat : Nat) : Int) = value := Int.toNat_of_nonneg admits.2.1
    have masked : (Bitwise32.and value (mask entry.2)).toNat = value.toNat := by
      have natural := and_mask admits.1 short admits.bits_lt
      change Bitwise32.and (value.toNat : Int) (mask entry.2) = (value.toNat : Int) at natural
      rw [isNatural] at natural
      rw [natural]
    have sets := @sets_writeNumber value.toNat (bitOffset entry.2) (entry.2.offset / 8)
      entry.2.length result admits.bits_lt (by rw [position_eq]; exact within)
    simp only [position_eq, ← Nat.testBit_shiftLeft] at sets
    cases isType : entry.2.type with
    | flag => exact absurd isType admits.1
    | number => exact masked ▸ sets
    | enum => exact masked ▸ sets

theorem sets_encode (assignment : schema.IsAssignment values) (fit : FieldsFit schema) :
    Sets (schema.bit values) (List.replicate (byteArrayLength schema) 0)
      (encode schema values) := by
  have folded (ranges : List (String × BitRange))
      (inSchema : ∀ entry ∈ ranges, entry ∈ schema.ranges)
      (result : List UInt8) (length : result.length = byteArrayLength schema) :
      Sets (fun position => ranges.any (BitSchema.fieldBit values position)) result
        (ranges.foldl (encodeField values) result) := by
    induction ranges generalizing result with
    | nil => exact .refl (fun _ => rfl) result
    | cons entry ranges induction =>
      rcases List.forall_mem_cons.mp inSchema with ⟨isEntry, others⟩
      rcases assignment.admits entry isEntry with ⟨value, isValue, admits⟩
      have within := within_byteArrayLength schema entry isEntry
      rw [← length] at within
      have first := sets_encodeField isValue admits (fit entry isEntry) within
      exact first.trans (induction others _ (first.length.trans length)) fun _ => rfl
  exact folded schema.ranges (fun _ => id) _ List.length_replicate

theorem encode_bits (assignment : schema.IsAssignment values) (fit : FieldsFit schema) :
    (encode schema values).length = byteArrayLength schema ∧
      ∀ position, bitOf (encode schema values) position = schema.bit values position := by
  have sets := sets_encode assignment fit
  refine ⟨sets.length.trans List.length_replicate, fun position => ?_⟩
  rw [sets.bit, bitOf_replicate, Bool.false_or]

theorem testBit_join (bitmap : List UInt8) (byteOffset valueBitOffset width position : Nat)
    (bitOffset : Fin 8) :
    ((((bitmap.getD byteOffset 0).toNat >>> bitOffset.val &&& (2 ^ width - 1)) <<<
        valueBitOffset).testBit position ||
      decide (valueBitOffset + (8 - bitOffset.val) ≤ position) &&
        decide (position < valueBitOffset + (8 - bitOffset.val) + (width - (8 - bitOffset.val))) &&
        bitOf bitmap (8 * (byteOffset + 1) + (position - (valueBitOffset + (8 - bitOffset.val))))) =
      (decide (valueBitOffset ≤ position) && decide (position < valueBitOffset + width) &&
        bitOf bitmap (8 * byteOffset + bitOffset.val + (position - valueBitOffset))) := by
  rw [Nat.testBit_shiftLeft, Nat.testBit_and, Nat.testBit_shiftRight, Nat.testBit_two_pow_sub_one]
  by_cases before : valueBitOffset ≤ position
  · rw [decide_eq_true before, Bool.true_and, Bool.true_and]
    by_cases here : position < valueBitOffset + (8 - bitOffset.val)
    · have sameByte : (8 * byteOffset + bitOffset.val + (position - valueBitOffset)) / 8 =
          byteOffset := by omega
      have sameBit : (8 * byteOffset + bitOffset.val + (position - valueBitOffset)) % 8 =
          bitOffset.val + (position - valueBitOffset) := by omega
      have inWidth : position - valueBitOffset < width ↔ position < valueBitOffset + width := by
        omega
      rw [decide_eq_false (Nat.not_le.mpr here), Bool.false_and, Bool.false_and, Bool.or_false,
        bitOf, sameByte, sameBit, Bool.and_comm, decide_eq_decide.mpr inWidth]
    · have noBit : (bitmap.getD byteOffset 0).toNat.testBit
          (bitOffset.val + (position - valueBitOffset)) = false := by
        refine Nat.testBit_lt_two_pow (Nat.lt_of_lt_of_le (UInt8.toNat_lt _) ?_)
        exact Nat.pow_le_pow_right (by decide) (by omega)
      have sameBit : 8 * (byteOffset + 1) + (position - (valueBitOffset + (8 - bitOffset.val))) =
          8 * byteOffset + bitOffset.val + (position - valueBitOffset) := by omega
      have sameEnd : position < valueBitOffset + (8 - bitOffset.val) +
          (width - (8 - bitOffset.val)) ↔ position < valueBitOffset + width := by omega
      rw [noBit, Bool.false_and, Bool.false_or, decide_eq_true (Nat.not_lt.mp here),
        Bool.true_and, sameBit, decide_eq_decide.mpr sameEnd]
  · have notBehind : ¬valueBitOffset + (8 - bitOffset.val) ≤ position := by omega
    rw [decide_eq_false before, decide_eq_false notBehind]
    rfl

theorem ones_shiftRight (width distance : Nat) :
    (2 ^ width - 1) >>> distance = 2 ^ (width - distance) - 1 := by
  apply Nat.eq_of_testBit_eq
  intro position
  rw [Nat.testBit_shiftRight, Nat.testBit_two_pow_sub_one, Nat.testBit_two_pow_sub_one]
  exact decide_eq_decide.mpr (by omega)

theorem readNumber_bits {bitmap : List UInt8} {mask : Nat} {bitOffset : Fin 8}
    {byteOffset valueBitOffset width value : Nat} {found : Int} (isValue : found = value)
    (isMask : mask = 2 ^ width - 1) (fits : value < 2 ^ 31)
    (short : 0 < width → valueBitOffset + width ≤ 31) :
    ∃ number : Nat, readNumber bitmap mask bitOffset byteOffset found valueBitOffset = number ∧
      ∀ position, number.testBit position =
        (value.testBit position || (decide (valueBitOffset ≤ position) &&
          decide (position < valueBitOffset + width) &&
            bitOf bitmap (8 * byteOffset + bitOffset.val + (position - valueBitOffset)))) := by
  fun_induction readNumber bitmap mask bitOffset byteOffset found valueBitOffset
    generalizing width value with
  | case1 bitOffset byteOffset found valueBitOffset =>
    refine ⟨value, isValue, fun position => ?_⟩
    have isEmpty : width = 0 := by
      have power := Nat.lt_two_pow_self (n := width)
      omega
    rw [isEmpty]
    by_cases before : valueBitOffset ≤ position
    · rw [decide_eq_false (show ¬position < valueBitOffset + 0 by omega), Bool.and_false,
        Bool.false_and, Bool.or_false]
    · rw [decide_eq_false before, Bool.false_and, Bool.false_and, Bool.or_false]
  | case2 mask bitOffset byteOffset found valueBitOffset notZero induction =>
    have notEmpty : 0 < width := Nat.pos_of_ne_zero fun isEmpty => by
      rw [isEmpty] at isMask
      exact notZero isMask
    have within := short notEmpty
    subst isMask isValue
    have chunk : (bitmap.getD byteOffset 0).toNat >>> bitOffset.val &&& (2 ^ width - 1) <
        2 ^ width :=
      Nat.and_lt_two_pow _ (Nat.sub_one_lt (Nat.ne_of_gt (Nat.pow_pos (by decide))))
    have placed := shifted_lt_word chunk (show width + valueBitOffset ≤ 31 by omega)
    rcases @induction (width - (8 - bitOffset.val))
      (value ||| ((bitmap.getD byteOffset 0).toNat >>> bitOffset.val &&& (2 ^ width - 1)) <<<
        valueBitOffset)
      (by rw [shiftLeft_natCast placed (by omega), or_natCast fits placed])
      (ones_shiftRight _ _) (Nat.or_lt_two_pow fits placed) (by omega) with
      ⟨number, isNumber, bits⟩
    refine ⟨number, isNumber, fun position => ?_⟩
    rw [bits position, Nat.testBit_or, Bool.or_assoc]
    exact congrArg (value.testBit position || ·)
      (testBit_join bitmap byteOffset valueBitOffset width position bitOffset)

theorem decodeField_encode (disjoint : schema.Disjoint) (assignment : schema.IsAssignment values)
    (fit : FieldsFit schema) (inside : entry ∈ schema.ranges)
    (isValue : values entry.1 = some value) (admits : entry.2.Admits value) :
    decodeField (encode schema values) entry.2 = value := by
  have bits := (encode_bits assignment fit).2
  have position_eq : 8 * (entry.2.offset / 8) + (bitOffset entry.2).val = entry.2.offset :=
    Nat.div_add_mod _ _
  unfold decodeField
  cases value with
  | boolean value =>
    have one := entry.2.flag_length admits
    have covered : entry.2.covers entry.2.offset = true := by
      rw [BitRange.covers, Bool.and_eq_true, decide_eq_true_iff, decide_eq_true_iff]
      omega
    have atOffset := bits entry.2.offset
    rw [BitSchema.bit_of_mem disjoint inside isValue covered, Nat.sub_self, bitOf] at atOffset
    have distance : shiftAmount (entry.2.offset % 8 : Nat) = entry.2.offset % 8 := by
      rw [shiftAmount_eq (by omega) (by omega)]
      omega
    have small : ((encode schema values).getD (entry.2.offset / 8) 0).toNat < 2 ^ 32 :=
      Nat.lt_trans (UInt8.toNat_lt _) (by decide)
    have tested := and_mask_eq_zero_iff
      ((encode schema values).getD (entry.2.offset / 8) 0).toNat (entry.2.offset % 8 : Nat)
    rw [distance, testBit_natCast small, atOffset] at tested
    have isMask : mask entry.2 = shiftLeft 1 (entry.2.offset % 8 : Nat) := by
      rw [mask, admits]
    rw [admits, isMask]
    refine congrArg BitValue.boolean ?_
    cases value with
    | true => exact decide_eq_true fun isZero => nomatch tested.mp isZero
    | false => exact decide_eq_false (not_not.mpr (tested.mpr rfl))
  | number value =>
    have isNatural : ((value.toNat : Nat) : Int) = value := Int.toNat_of_nonneg admits.2.1
    have short := fit entry inside
    rcases @readNumber_bits (encode schema values) (low (mask entry.2)).toNat (bitOffset entry.2)
      (entry.2.offset / 8) 0 entry.2.length 0 0 rfl (low_mask admits.1 short)
      (by decide) (by omega) with ⟨number, isNumber, readBits⟩
    have same : number = value.toNat := by
      apply Nat.eq_of_testBit_eq
      intro position
      rw [readBits position, position_eq, bits, Nat.zero_testBit, Bool.false_or, Nat.sub_zero,
        decide_eq_true (Nat.zero_le _), Bool.true_and, Nat.zero_add]
      by_cases inWidth : position < entry.2.length
      · have covered : entry.2.covers (entry.2.offset + position) = true := by
          rw [BitRange.covers, Bool.and_eq_true, decide_eq_true_iff, decide_eq_true_iff]
          omega
        rw [decide_eq_true inWidth, BitSchema.bit_of_mem disjoint inside isValue covered,
          Nat.add_sub_cancel_left]
        rfl
      · have above : value.toNat.testBit position = false := by
          refine Nat.testBit_lt_two_pow (Nat.lt_of_lt_of_le admits.bits_lt ?_)
          exact Nat.pow_le_pow_right (by decide) (by omega)
        rw [decide_eq_false inWidth, above, Bool.false_and]
    have decoded := isNumber.trans ((congrArg Nat.cast same).trans isNatural)
    cases isType : entry.2.type with
    | flag => exact absurd isType admits.1
    | number => exact congrArg BitValue.number decoded
    | enum => exact congrArg BitValue.number decoded

theorem decode_encode (disjoint : schema.Disjoint) (assignment : schema.IsAssignment values)
    (fit : FieldsFit schema) : decode schema (encode schema values) = .ok values := by
  rw [decode, if_neg (not_not.mpr (encode_bits assignment fit).1)]
  refine congrArg Except.ok ((BitSchema.object_eq_iff assignment _).mpr fun entry inside => ?_)
  rcases assignment.admits entry inside with ⟨value, isValue, admits⟩
  rw [decodeField_encode disjoint assignment fit inside isValue admits, isValue]

end ByteArrayBitmapSchemaInternal

/-- A number is encoded without a sign and read back where no field sets its last bit or is all of
it. A byte array is read back in any case. -/
theorem bitmap_roundTrips_iff (disjoint : schema.Disjoint)
    (assignment : schema.IsAssignment values) :
    (schema.Within 32 → (BitmapSchemaInternal.RoundTrips schema values ↔
      BitmapSchemaInternal.AllKept schema values)) ∧
    (ByteArrayBitmapSchemaInternal.FieldsFit schema →
      ByteArrayBitmapSchemaInternal.decode schema
        (ByteArrayBitmapSchemaInternal.encode schema values) = .ok values) :=
  ⟨fun within => ⟨BitmapSchemaInternal.kept_of_roundTrips disjoint assignment within,
      BitmapSchemaInternal.roundTrips_of_kept disjoint assignment within⟩,
    ByteArrayBitmapSchemaInternal.decode_encode disjoint assignment⟩

def specificationVersion : BitSchema where
  ranges := [("major", BitField 0 8), ("minor", BitField 8 8), ("patch", BitField 16 8),
    ("reserved", BitField 24 8)]
  nodup := by decide

def versionValues (major minor patch reserved : Int) : BitValues
  | "major" => some (.number major)
  | "minor" => some (.number minor)
  | "patch" => some (.number patch)
  | "reserved" => some (.number reserved)
  | _ => none

theorem specificationVersion_disjoint : specificationVersion.Disjoint := by
  simp only [BitSchema.Disjoint, specificationVersion, List.forall_mem_cons, BitRange.covers,
    BitField, Bool.and_eq_true, Bool.and_eq_false_iff, decide_eq_true_iff, decide_eq_false_iff_not]
  refine ⟨⟨?_, ?_, ?_, ?_, List.forall_mem_nil _⟩, ⟨?_, ?_, ?_, ?_, List.forall_mem_nil _⟩,
    ⟨?_, ?_, ?_, ?_, List.forall_mem_nil _⟩, ⟨?_, ?_, ?_, ?_, List.forall_mem_nil _⟩,
    List.forall_mem_nil _⟩ <;> first | exact fun same => absurd rfl same | (intro _ _; omega)

theorem versionValues_isAssignment {reserved : Int} (isByte : 0 ≤ reserved ∧ reserved < 2 ^ 8) :
    specificationVersion.IsAssignment (versionValues 1 4 0 reserved) := by
  refine ⟨List.forall_mem_cons.mpr ⟨⟨_, rfl, nofun, by decide⟩, List.forall_mem_cons.mpr
    ⟨⟨_, rfl, nofun, by decide⟩, List.forall_mem_cons.mpr ⟨⟨_, rfl, nofun, by decide⟩,
      List.forall_mem_singleton.mpr ⟨_, rfl, nofun, isByte⟩⟩⟩⟩, fun name others => ?_⟩
  unfold versionValues
  split <;> first | rfl | exact absurd (by decide) others

/-- With the last eight bits zero the version is read back of a number. -/
theorem bitmap_roundTrips_iff_version :
    BitmapSchemaInternal.RoundTrips specificationVersion (versionValues 1 4 0 0) ∧
      ByteArrayBitmapSchemaInternal.decode specificationVersion
        (ByteArrayBitmapSchemaInternal.encode specificationVersion (versionValues 1 4 0 0)) =
          .ok (versionValues 1 4 0 0) := by
  rcases bitmap_roundTrips_iff specificationVersion_disjoint
    (versionValues_isAssignment ⟨Int.le_refl 0, by decide⟩) with ⟨number, bytes⟩
  refine ⟨(number ?_).mpr ?_, bytes ?_⟩
  · simp [BitSchema.Within, specificationVersion, BitField]
  · simp [BitmapSchemaInternal.AllKept, BitmapSchemaInternal.Kept, specificationVersion,
      BitField, versionValues, BitValue.bits]
  · simp [ByteArrayBitmapSchemaInternal.FieldsFit, specificationVersion, BitField]

/-- A version with its last bit set is encoded as a negative number. -/
theorem bitmap_roundTrips_false :
    ¬∀ (schema : BitSchema) (values : BitValues), schema.Disjoint → schema.IsAssignment values →
      schema.Within 32 → BitmapSchemaInternal.RoundTrips schema values := by
  intro all
  have within : specificationVersion.Within 32 := by
    simp [BitSchema.Within, specificationVersion, BitField]
  have roundTrips := all specificationVersion (versionValues 1 4 0 128)
    specificationVersion_disjoint (versionValues_isAssignment ⟨by decide, by decide⟩) within
  exact absurd roundTrips.isUnsigned.1 (by decide)

end MatterJs.Types
