import Mathlib.Algebra.Order.Ring.Int
import Mathlib.Tactic.Ring

namespace MatterJs.ByteOrder

/-! Fixed-width unsigned numbers as byte sequences, in either byte order. -/

inductive Endian where
  | little
  | big
  deriving DecidableEq

/-- The low `width` bytes of a number, least significant first. -/
def digits : (width value : Nat) → List UInt8
  | 0, _ => []
  | width + 1, value => UInt8.ofNat value :: digits width (value / 256)

/-- The number with the given bytes, least significant first. -/
def ofDigits : List UInt8 → Nat
  | [] => 0
  | digit :: rest => digit.toNat + 256 * ofDigits rest

variable (endian : Endian) (width value : Nat)

@[simp] theorem digits_length : (digits width value).length = width := by
  induction width generalizing value with
  | zero => rfl
  | succ width induction => simp [digits, induction]

theorem digits_add (low high value : Nat) :
    digits (low + high) value = digits low value ++ digits high (value / 256 ^ low) := by
  induction low generalizing value with
  | zero => simp [digits]
  | succ low induction =>
    rw [Nat.succ_add, digits, digits, induction, List.cons_append,
      Nat.div_div_eq_div_mul, Nat.pow_succ']

theorem digits_mul_add (high low : Nat) :
    digits width (high * 256 ^ width + low) = digits width low := by
  induction width generalizing low with
  | zero => rfl
  | succ width induction =>
    rw [Nat.pow_succ, ← Nat.mul_assoc]
    have lowByte : UInt8.ofNat (high * 256 ^ width * 256 + low) = UInt8.ofNat low := by
      apply UInt8.toNat_inj.mp
      simp only [UInt8.toNat_ofNat']
      omega
    have highBytes : (high * 256 ^ width * 256 + low) / 256 =
        high * 256 ^ width + low / 256 := by omega
    rw [digits, digits, lowByte, highBytes, induction]

theorem digits_zero : digits width 0 = List.replicate width 0 := by
  induction width with
  | zero => rfl
  | succ width induction => simp [digits, induction, List.replicate_succ]

theorem ofDigits_digits : ofDigits (digits width value) = value % 256 ^ width := by
  induction width generalizing value with
  | zero => simp [digits, ofDigits, Nat.mod_one]
  | succ width induction =>
    rw [digits, ofDigits, induction, Nat.pow_succ']
    have split : value % (256 * 256 ^ width) =
        value % 256 + 256 * (value / 256 % 256 ^ width) := Nat.mod_mul
    simp [split]

theorem toNat_emod_of_lt {width value : Nat} (fits : value < 256 ^ width) :
    ((value : Int) % 256 ^ width).toNat = value := by
  have power : ((256 : Int) ^ width) = ((256 ^ width : Nat) : Int) := by norm_cast
  rw [power, ← Int.natCast_emod, Int.toNat_natCast, Nat.mod_eq_of_lt fits]

def encode : List UInt8 :=
  match endian with
  | .little => digits width value
  | .big => (digits width value).reverse

def decode (bytes : List UInt8) : Nat :=
  match endian with
  | .little => ofDigits bytes
  | .big => ofDigits bytes.reverse

@[simp] theorem encode_length : (encode endian width value).length = width := by
  cases endian <;> simp [encode]

@[simp] theorem decode_encode :
    decode endian (encode endian width value) = value % 256 ^ width := by
  cases endian <;> simp [decode, encode, ofDigits_digits]

theorem ofDigits_lt (bytes : List UInt8) : ofDigits bytes < 256 ^ bytes.length := by
  induction bytes with
  | nil => exact Nat.one_pos
  | cons digit rest induction =>
    have := digit.toNat_lt
    rw [ofDigits, List.length_cons]
    omega

theorem ofDigits_append (low high : List UInt8) :
    ofDigits (low ++ high) = ofDigits low + 256 ^ low.length * ofDigits high := by
  induction low with
  | nil => simp [ofDigits]
  | cons digit low induction =>
    rw [List.cons_append, ofDigits, ofDigits, induction, List.length_cons]
    ring

theorem decode_big_cons (byte : UInt8) (bytes : List UInt8) :
    decode .big (byte :: bytes) = byte.toNat * 256 ^ bytes.length + decode .big bytes := by
  change ofDigits (byte :: bytes).reverse = _ + ofDigits bytes.reverse
  rw [List.reverse_cons, ofDigits_append, List.length_reverse, ofDigits, ofDigits]
  ring

theorem decode_lt (bytes : List UInt8) : decode endian bytes < 256 ^ bytes.length := by
  cases endian with
  | little => exact ofDigits_lt bytes
  | big => simpa [decode] using ofDigits_lt bytes.reverse

/-- The number a two's complement pattern of `width` bytes stands for. -/
def toSigned : Int :=
  if 2 * value < 256 ^ width then value else value - 256 ^ width

theorem toSigned_emod {width : Nat} {value : Int} (lower : -(256 ^ width) ≤ 2 * value)
    (upper : 2 * value < 256 ^ width) :
    toSigned width (value % 256 ^ width).toNat = value := by
  have power : ((256 : Int) ^ width) = ((256 ^ width : Nat) : Int) := by norm_cast
  rw [power] at lower upper ⊢
  rw [toSigned, power]
  generalize 256 ^ width = modulus at lower upper ⊢
  by_cases nonnegative : 0 ≤ value
  · have unchanged : value % (modulus : Int) = value :=
      Int.emod_eq_of_lt nonnegative (by omega)
    omega
  · have wrapped : value % (modulus : Int) = value + modulus := by
      rw [← Int.add_emod_right]
      exact Int.emod_eq_of_lt (by omega) (by omega)
    omega

end MatterJs.ByteOrder
