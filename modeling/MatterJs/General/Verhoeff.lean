import Mathlib.GroupTheory.SpecificGroups.Dihedral
import MatterJs.Foundation.CheckDigits
import MatterJs.General.ParseInt
import MatterJs.General.MatterError

/-! The check digit of the Verhoeff algorithm. The digits stand for the rotations and
reflections of a pentagon, and the table multiplies them. -/

namespace MatterJs.General.Verhoeff

open CheckDigits

def multiply : List (List Nat) :=
  [[0, 1, 2, 3, 4, 5, 6, 7, 8, 9],
    [1, 2, 3, 4, 0, 6, 7, 8, 9, 5],
    [2, 3, 4, 0, 1, 7, 8, 9, 5, 6],
    [3, 4, 0, 1, 2, 8, 9, 5, 6, 7],
    [4, 0, 1, 2, 3, 9, 5, 6, 7, 8],
    [5, 9, 8, 7, 6, 0, 4, 3, 2, 1],
    [6, 5, 9, 8, 7, 1, 0, 4, 3, 2],
    [7, 6, 5, 9, 8, 2, 1, 0, 4, 3],
    [8, 7, 6, 5, 9, 3, 2, 1, 0, 4],
    [9, 8, 7, 6, 5, 4, 3, 2, 1, 0]]

def inverse : List Nat := [0, 4, 3, 2, 1, 5, 6, 7, 8, 9]

def permute : List (List Nat) :=
  [[0, 1, 2, 3, 4, 5, 6, 7, 8, 9],
    [1, 5, 7, 6, 2, 8, 3, 0, 9, 4],
    [5, 8, 0, 3, 7, 9, 6, 1, 4, 2],
    [8, 9, 1, 6, 0, 4, 3, 5, 2, 7],
    [9, 4, 5, 3, 1, 2, 6, 8, 7, 0],
    [4, 2, 8, 6, 5, 7, 3, 9, 0, 1],
    [2, 7, 9, 3, 8, 0, 6, 4, 1, 5],
    [7, 0, 4, 6, 9, 1, 3, 2, 5, 8]]

/-- An entry of a table, `none` for one that is undefined. -/
def entry (table : List (List Nat)) (row : Nat) (column : Option Nat) : Option Nat := do
  let row ← table[row]?
  row[← column]?

/-- The loop of `computeChecksum` over the digits from the last one on. A checksum that is
undefined is an error as soon as it is looked up. -/
def checksumLoop (index : Nat) (checksum : Option Nat) :
    List Char → Except MatterError (Option Nat)
  | [] => .ok checksum
  | char :: digits => do
    let digit := (parseInt [char] 10).map Int.toNat
    match checksum with
    | none => throw (.error "Cannot read properties of undefined")
    | some checksum =>
      checksumLoop (index + 1) (entry multiply checksum (entry permute (index % 8) digit)) digits

def computeChecksum (digits : List Char) : Except MatterError (Option Nat) := do
  let checksum ← checksumLoop 1 (some 0) digits.reverse
  return checksum.bind (inverse[·]?)

/-! ## The symmetries of a pentagon -/

def symmetry (digit : Nat) : DihedralGroup 5 :=
  if digit < 5 then .r digit else .sr (10 - digit : Nat)

def weightOf (row digit : Nat) : DihedralGroup 5 :=
  ((entry permute row (some digit)).map symmetry).getD 1

/-- The weight of a character at a position, which counts from the check digit on -/
def weight (position : Nat) (char : Char) : DihedralGroup 5 :=
  weightOf (position % 8) (char.toNat - '0'.toNat)

theorem symmetry_multiply : ∀ first < 10, ∀ second < 10, ∀ product,
    entry multiply first (some second) = some product →
      symmetry product = symmetry first * symmetry second := by
  have products : ∀ first < 10, ∀ second < 10,
      (entry multiply first (some second)).map symmetry =
        some (symmetry first * symmetry second) := by decide +kernel
  intro first isFirst second isSecond product multiplies
  have same := products first isFirst second isSecond
  rw [multiplies] at same
  exact Option.some.inj same

theorem symmetry_inverse : ∀ final < 10, ∀ checksum, inverse[final]? = some checksum →
    symmetry checksum = (symmetry final)⁻¹ := by
  have inverses : ∀ final < 10, inverse[final]?.map symmetry = some (symmetry final)⁻¹ := by
    decide +kernel
  intro final isDigit checksum inverts
  have same := inverses final isDigit
  rw [inverts] at same
  exact Option.some.inj same

theorem symmetry_injective : ∀ first < 10, ∀ second < 10,
    symmetry first = symmetry second → first = second := by
  decide +kernel

theorem weightOf_zero : ∀ digit < 10, weightOf 0 digit = symmetry digit := by
  decide +kernel

theorem weightOf_injective : ∀ row < 8, ∀ first < 10, ∀ second < 10,
    weightOf row first = weightOf row second → first = second := by
  decide +kernel

theorem weightOf_apart : ∀ row < 8, ∀ first < 10, ∀ second < 10, first ≠ second →
    weightOf row first * weightOf ((row + 1) % 8) second ≠
      weightOf row second * weightOf ((row + 1) % 8) first := by
  decide +kernel

theorem value_injective {first second : Char} (isFirst : first.isDigit = true)
    (isSecond : second.isDigit = true)
    (same : first.toNat - '0'.toNat = second.toNat - '0'.toNat) : first = second := by
  rcases Char.isDigit_iff_toNat.mp isFirst with ⟨firstLower, _⟩
  rcases Char.isDigit_iff_toNat.mp isSecond with ⟨secondLower, _⟩
  apply Char.toNat_inj.mp
  change 48 ≤ first.toNat at firstLower
  change 48 ≤ second.toNat at secondLower
  change first.toNat - 48 = second.toNat - 48 at same
  omega

theorem weight_separates : Separates weight {char | char.isDigit = true} where
  injective position first isFirst second isSecond same := by
    apply value_injective isFirst isSecond
    exact weightOf_injective _ (Nat.mod_lt _ (by decide)) _ (digitValue_of_isDigit isFirst).2 _
      (digitValue_of_isDigit isSecond).2 same
  apart position first isFirst second isSecond differs := by
    have next : (position + 1) % 8 = (position % 8 + 1) % 8 := by omega
    rw [weight, weight, weight, weight, next]
    apply weightOf_apart _ (Nat.mod_lt _ (by decide)) _ (digitValue_of_isDigit isFirst).2 _
      (digitValue_of_isDigit isSecond).2
    intro same
    exact differs (value_injective isFirst isSecond same)

/-! ## The checksum is a product -/

theorem entry_permute {index digit : Nat} (isDigit : digit < 10) :
    ∃ permuted < 10, entry permute (index % 8) (some digit) = some permuted := by
  have entries : ∀ row < 8, ∀ digit < 10,
      ∃ permuted < 10, entry permute row (some digit) = some permuted := by decide
  exact entries (index % 8) (Nat.mod_lt _ (by decide)) digit isDigit

theorem entry_multiply {checksum digit : Nat} (isChecksum : checksum < 10) (isDigit : digit < 10) :
    ∃ product < 10, entry multiply checksum (some digit) = some product := by
  have entries : ∀ checksum < 10, ∀ digit < 10,
      ∃ product < 10, entry multiply checksum (some digit) = some product := by decide
  exact entries checksum isChecksum digit isDigit

theorem parseInt_char {char : Char} (isDigit : char.isDigit = true) :
    parseInt [char] 10 = some ((char.toNat - '0'.toNat : Nat) : Int) := by
  have isDecimal : IsDecimal [char] := List.forall_mem_singleton.mpr isDigit
  rw [parseInt_of_isDecimal isDecimal (List.cons_ne_nil _ _), Nat.ofDigitChars_cons]
  simp

theorem checksumLoop_eq {digits : List Char} (isDecimal : IsDecimal digits) {index : Nat}
    {checksum : Nat} (isChecksum : checksum < 10) :
    ∃ final < 10, checksumLoop index (some checksum) digits = .ok (some final) ∧
      symmetry final = symmetry checksum * product weight index digits := by
  induction digits generalizing index checksum with
  | nil => exact ⟨checksum, isChecksum, rfl, (mul_one _).symm⟩
  | cons char digits induction =>
    rcases List.forall_mem_cons.mp isDecimal with ⟨isDigit, others⟩
    have small := (digitValue_of_isDigit isDigit).2
    rcases @entry_permute index _ small with ⟨permuted, isPermuted, permutes⟩
    rcases entry_multiply isChecksum isPermuted with ⟨next, isNext, multiplies⟩
    rcases induction others isNext with ⟨final, isFinal, loops, isProduct⟩
    have weighs : weight index char = symmetry permuted := by
      rw [weight, weightOf, permutes]
      rfl
    refine ⟨final, isFinal, ?_, ?_⟩
    · rw [checksumLoop, parseInt_char isDigit, Option.map_some, Int.toNat_natCast, permutes]
      rw [multiplies]
      exact loops
    · rw [isProduct, symmetry_multiply _ isChecksum _ isPermuted _ multiplies, product, weighs,
        mul_assoc]

theorem computeChecksum_eq {digits : List Char} (isDecimal : IsDecimal digits) :
    ∃ checksum < 10, computeChecksum digits = .ok (some checksum) ∧
      symmetry checksum = (product weight 1 digits.reverse)⁻¹ := by
  have reversed : IsDecimal digits.reverse := fun char member =>
    isDecimal char (List.mem_reverse.mp member)
  rcases @checksumLoop_eq _ reversed 1 0 (by decide) with ⟨final, small, loops, isProduct⟩
  have inverted : ∀ final < 10, ∃ checksum < 10, inverse[final]? = some checksum := by decide
  rcases inverted final small with ⟨checksum, isDigit, inverts⟩
  refine ⟨checksum, isDigit, ?_, ?_⟩
  · rw [computeChecksum, loops, ← inverts]
    rfl
  · rw [symmetry_inverse final small checksum inverts, isProduct]
    change (1 * _)⁻¹ = _
    rw [one_mul]

end MatterJs.General.Verhoeff
