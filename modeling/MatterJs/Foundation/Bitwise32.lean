import Mathlib.Algebra.Ring.Int.Defs
import Mathlib.Algebra.Ring.Nat

namespace MatterJs.Bitwise32

/-! Bitwise operators over unbounded integers that work on the low 32 bits of
their operands: shift amounts are taken modulo 32, and every result but the one
of an unsigned shift is read back as a signed 32 bit number. -/

variable (value amount : Int) (index : Nat) (bits : BitVec 32)

def low : BitVec 32 :=
  BitVec.ofInt 32 value

/-- The distance a shift by `amount` really moves. -/
def shiftAmount : Nat :=
  (low amount).toNat % 32

def shiftLeft : Int :=
  (low value <<< shiftAmount amount).toInt

def signedShiftRight : Int :=
  ((low value).sshiftRight (shiftAmount amount)).toInt

def unsignedShiftRight : Int :=
  (low value >>> shiftAmount amount).toNat

def or (left right : Int) : Int :=
  (low left ||| low right).toInt

def and (left right : Int) : Int :=
  (low left &&& low right).toInt

/-- Bit `index` of the low 32 bits, least significant first. -/
def testBit : Bool :=
  (low value).getLsbD index

@[simp] theorem low_toInt : low bits.toInt = bits := by
  simp [low]

@[simp] theorem low_toNat : low (bits.toNat : Int) = bits := by
  simp [low]

theorem shiftAmount_eq {amount : Int} (nonnegative : 0 ≤ amount)
    (inWord : amount < 32) : shiftAmount amount = amount.toNat := by
  simp only [shiftAmount, low, BitVec.toNat_ofInt]
  omega

@[simp] theorem testBit_or (left right : Int) (index : Nat) :
    testBit (or left right) index = (testBit left index || testBit right index) := by
  rw [testBit, or, low_toInt, BitVec.getLsbD_or]
  rfl

@[simp] theorem testBit_shiftLeft :
    testBit (shiftLeft value amount) index =
      (decide (index < 32) && !decide (index < shiftAmount amount) &&
        testBit value (index - shiftAmount amount)) := by
  rw [testBit, shiftLeft, low_toInt, BitVec.getLsbD_shiftLeft]
  rfl

@[simp] theorem testBit_unsignedShiftRight_zero :
    testBit (unsignedShiftRight value 0) index = testBit value index := by
  have noShift : shiftAmount 0 = 0 := by decide
  simp [testBit, unsignedShiftRight, noShift]

theorem testBit_one : testBit 1 index = decide (index = 0) := by
  simp [testBit, low]

theorem testBit_mask :
    testBit (shiftLeft 1 amount) index = decide (index = shiftAmount amount) := by
  have inWord : shiftAmount amount < 32 := Nat.mod_lt _ (by decide)
  rw [testBit_shiftLeft, testBit_one, Bool.eq_iff_iff]
  simp only [Bool.and_eq_true, Bool.not_eq_true', decide_eq_true_eq, decide_eq_false_iff_not]
  omega

theorem eq_zero_iff_testBit : bits.toInt = 0 ↔ ∀ index, bits.getLsbD index = false := by
  constructor
  · intro isZero index
    have bitsZero : bits = 0#32 := by
      rw [← BitVec.toInt_inj]
      simpa using isZero
    simp [bitsZero]
  · intro allFalse
    have bitsZero : bits = 0#32 := by
      apply BitVec.eq_of_getLsbD_eq
      intro index inside
      simp [allFalse index]
    simp [bitsZero]

theorem and_mask_eq_zero_iff :
    and value (shiftLeft 1 amount) = 0 ↔
      testBit value (shiftAmount amount) = false := by
  rw [and, eq_zero_iff_testBit]
  have masked (index : Nat) :
      (low value &&& low (shiftLeft 1 amount)).getLsbD index =
        (testBit value index && decide (index = shiftAmount amount)) := by
    rw [BitVec.getLsbD_and, ← testBit_mask]
    rfl
  simp only [masked]
  constructor
  · intro allFalse
    simpa using allFalse (shiftAmount amount)
  · intro bitFalse index
    by_cases equal : index = shiftAmount amount
    · simp [equal, bitFalse]
    · simp [equal]

theorem toInt_emod_word : bits.toInt % 2 ^ 32 = bits.toNat := by
  rw [BitVec.toInt_eq_toNat_bmod]
  change (bits.toNat : Int).bmod (2 ^ 32) % ((2 ^ 32 : Nat) : Int) = bits.toNat
  rw [Int.bmod_emod]
  omega

theorem low_natCast_toNat {value : Nat} (fits : value < 2 ^ 32) :
    (low value).toNat = value := by
  rw [low, BitVec.toNat_ofInt]
  omega

/-! ## Numbers below 2^31

Their words are read back as they are, so that the operators are those of natural numbers. -/

theorem toInt_of_toNat_lt {bits : BitVec 32} (small : bits.toNat < 2 ^ 31) :
    bits.toInt = bits.toNat :=
  BitVec.toInt_eq_toNat_of_lt (by omega)

theorem and_natCast {left right : Nat} (leftFits : left < 2 ^ 31) (rightFits : right < 2 ^ 31) :
    and left right = (left &&& right : Nat) := by
  have bits : (low left &&& low right).toNat = left &&& right := by
    rw [BitVec.toNat_and, low_natCast_toNat (by omega), low_natCast_toNat (by omega)]
  rw [and, toInt_of_toNat_lt (by rw [bits]; exact Nat.and_lt_two_pow _ rightFits), bits]

theorem or_natCast {left right : Nat} (leftFits : left < 2 ^ 31) (rightFits : right < 2 ^ 31) :
    or left right = (left ||| right : Nat) := by
  have bits : (low left ||| low right).toNat = left ||| right := by
    rw [BitVec.toNat_or, low_natCast_toNat (by omega), low_natCast_toNat (by omega)]
  rw [or, toInt_of_toNat_lt (by rw [bits]; exact Nat.or_lt_two_pow leftFits rightFits), bits]

theorem signedShiftRight_natCast {value amount : Nat} (fits : value < 2 ^ 31)
    (inWord : amount < 32) : signedShiftRight value amount = (value >>> amount : Nat) := by
  have bits : (low value).toNat = value := low_natCast_toNat (by omega)
  have positive : (low value).msb = false := by
    rw [BitVec.msb_eq_false_iff_two_mul_lt]
    omega
  have distance : shiftAmount amount = amount := by
    rw [shiftAmount_eq (by omega) (by omega)]
    omega
  have shifted : ((low value).sshiftRight amount).toNat = value >>> amount := by
    rw [BitVec.sshiftRight_eq_of_msb_false positive, BitVec.toNat_ushiftRight, bits]
  have smaller : value >>> amount ≤ value := Nat.shiftRight_le value amount
  rw [signedShiftRight, distance, toInt_of_toNat_lt (by omega), shifted]

theorem shiftLeft_natCast {value amount : Nat} (fits : value <<< amount < 2 ^ 31)
    (inWord : amount < 32) : shiftLeft value amount = (value <<< amount : Nat) := by
  have smaller : value ≤ value <<< amount := Nat.le_shiftLeft
  have distance : shiftAmount amount = amount := by
    rw [shiftAmount_eq (by omega) (by omega)]
    omega
  have shifted : (low value <<< amount).toNat = value <<< amount := by
    rw [BitVec.toNat_shiftLeft, low_natCast_toNat (by omega), Nat.mod_eq_of_lt (by omega)]
  rw [shiftLeft, distance, toInt_of_toNat_lt (by omega), shifted]

theorem or_shiftLeft_halves {upper lower : Nat} (upperFits : upper < 2 ^ 16)
    (lowerFits : lower < 2 ^ 16) :
    or (shiftLeft upper 16) lower % 2 ^ 32 = upper * 2 ^ 16 + lower := by
  have distance : shiftAmount 16 = 16 := by decide
  have joined : (low upper <<< 16 ||| low lower).toNat = upper * 2 ^ 16 + lower := by
    rw [BitVec.toNat_or, BitVec.toNat_shiftLeft, low_natCast_toNat (by omega),
      low_natCast_toNat (by omega), Nat.mod_eq_of_lt (by rw [Nat.shiftLeft_eq]; omega),
      ← Nat.shiftLeft_add_eq_or_of_lt lowerFits, Nat.shiftLeft_eq]
  rw [or, shiftLeft, low_toInt, toInt_emod_word]
  norm_cast

theorem getLsbD_low {value : Nat} (fits : value < 2 ^ 32) (index : Nat) :
    (low value).getLsbD index = value.testBit index := by
  rw [BitVec.getLsbD, low_natCast_toNat fits]

theorem getLsbD_upperHalf {index : Nat} (inside : index < 32) :
    (low 0xffff0000).getLsbD index = decide (16 ≤ index) := by
  revert index
  decide

theorem and_upperHalf_eq_zero_iff {value : Nat} (fits : value < 2 ^ 32) :
    and value 0xffff0000 = 0 ↔ value < 2 ^ 16 := by
  rw [and, eq_zero_iff_testBit]
  constructor
  · intro allFalse
    apply Nat.lt_pow_two_of_testBit
    intro index above
    by_cases inside : index < 32
    · have masked := allFalse index
      rw [BitVec.getLsbD_and, getLsbD_low fits, getLsbD_upperHalf inside] at masked
      simpa [above] using masked
    · exact Nat.testBit_lt_two_pow (Nat.lt_of_lt_of_le fits
        (Nat.pow_le_pow_right (by decide) (by omega)))
  · intro lower index
    rw [BitVec.getLsbD_and]
    by_cases above : 16 ≤ index
    · rw [getLsbD_low fits, Nat.testBit_lt_two_pow
        (Nat.lt_of_lt_of_le lower (Nat.pow_le_pow_right (by decide) above)), Bool.false_and]
    · rw [getLsbD_upperHalf (by omega), decide_eq_false above, Bool.and_false]

theorem upperHalf_eq_zero_iff {value : Nat} (fits : value < 2 ^ 32) :
    signedShiftRight (and value 0xffff0000) 16 = 0 ↔ value < 2 ^ 16 := by
  have distance : shiftAmount 16 = 16 := by decide
  constructor
  · intro shifted
    rw [signedShiftRight, and, low_toInt, distance, eq_zero_iff_testBit] at shifted
    apply Nat.lt_pow_two_of_testBit
    intro index above
    by_cases inside : index < 32
    · have shiftedBit := shifted (index - 16)
      rw [BitVec.getLsbD_sshiftRight, if_pos (by omega), BitVec.getLsbD_and,
        show 16 + (index - 16) = index by omega, getLsbD_low fits,
        getLsbD_upperHalf inside] at shiftedBit
      simpa [show ¬32 ≤ index - 16 by omega, above] using shiftedBit
    · exact Nat.testBit_lt_two_pow (Nat.lt_of_lt_of_le fits
        (Nat.pow_le_pow_right (by decide) (by omega)))
  · intro lower
    rw [(and_upperHalf_eq_zero_iff fits).mpr lower]
    decide

theorem testBit_natCast {value : Nat} (fits : value < 2 ^ 32) (index : Nat) :
    testBit value index = value.testBit index :=
  getLsbD_low fits index

/-- The lowest bits, as many as are less than the width -/
theorem low_ones {length : Nat} (inWord : length < 32) :
    (low (shiftLeft 1 length - 1)).toNat = 2 ^ length - 1 := by
  have distance : shiftAmount length = length := by
    rw [shiftAmount_eq (by omega) (by omega)]
    omega
  have power : 2 ^ length < 2 ^ 32 := Nat.pow_lt_pow_right (by decide) inWord
  have positive : 0 < 2 ^ length := Nat.pow_pos (by decide)
  have one : (1#32 <<< length).toNat = 2 ^ length := by
    rw [BitVec.toNat_shiftLeft, Nat.shiftLeft_eq]
    change 1 * 2 ^ length % 2 ^ 32 = 2 ^ length
    rw [Nat.one_mul, Nat.mod_eq_of_lt power]
  have word : shiftLeft 1 length % 2 ^ 32 = (2 ^ length : Nat) := by
    rw [shiftLeft, distance, toInt_emod_word]
    exact congrArg Nat.cast one
  rw [low, BitVec.toNat_ofInt]
  omega

theorem testBit_ones {length : Nat} (inWord : length < 32) (index : Nat) :
    testBit (shiftLeft 1 length - 1) index = decide (index < length) := by
  rw [testBit, BitVec.getLsbD, low_ones inWord, Nat.testBit_two_pow_sub_one]

theorem ones_width : shiftLeft 1 32 - 1 = 0 := by decide

theorem shifted_lt_word {bits width offset : Nat} (fits : bits < 2 ^ width)
    (within : width + offset ≤ 31) : bits <<< offset < 2 ^ 31 :=
  calc
    bits <<< offset = bits * 2 ^ offset := Nat.shiftLeft_eq _ _
    _ < 2 ^ width * 2 ^ offset := Nat.mul_lt_mul_of_pos_right fits (Nat.pow_pos (by decide))
    _ = 2 ^ (width + offset) := (Nat.pow_add _ _ _).symm
    _ ≤ 2 ^ 31 := Nat.pow_le_pow_right (by decide) within

theorem signedShiftRight_zero : signedShiftRight 0 amount = 0 := by
  simp [signedShiftRight, low]

theorem toInt_nonneg_iff : 0 ≤ bits.toInt ↔ bits.getLsbD 31 = false := by
  have sign := @BitVec.msb_eq_toInt _ bits
  change bits.getLsbD 31 = _ at sign
  rw [sign, decide_eq_false_iff_not, Int.not_lt]

end MatterJs.Bitwise32
