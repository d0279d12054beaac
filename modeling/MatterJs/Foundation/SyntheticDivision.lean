import Mathlib.Algebra.Polynomial.Eval.Degree
import Mathlib.Data.List.GetD
import Mathlib.LinearAlgebra.Vandermonde

/-! Polynomials as lists of coefficients, the highest first: products with linear factors, and
division by a monic polynomial. -/

namespace MatterJs.SyntheticDivision

open Polynomial

variable {R : Type} [CommRing R]

noncomputable def polynomial : List R → R[X]
  | [] => 0
  | coefficient :: rest => C coefficient * X ^ rest.length + polynomial rest

theorem polynomial_append (front back : List R) :
    polynomial (front ++ back) = polynomial front * X ^ back.length + polynomial back := by
  induction front with
  | nil => simp [polynomial]
  | cons coefficient front induction =>
    rw [List.cons_append, polynomial, polynomial, induction, List.length_append]
    ring

theorem polynomial_replicate_zero (count : ℕ) :
    polynomial (List.replicate count (0 : R)) = 0 := by
  induction count with
  | zero => rfl
  | succ count induction => rw [List.replicate_succ, polynomial, induction, C_0]; ring

theorem ext_getD {first second : List R} (length : first.length = second.length)
    (same : ∀ index, first.getD index 0 = second.getD index 0) : first = second := by
  apply List.ext_getElem length
  intro index inFirst inSecond
  have here := same index
  rwa [List.getD_eq_getElem first 0 inFirst, List.getD_eq_getElem second 0 inSecond] at here

/-- The coefficients of a product with `X + C a`, behind a coefficient of the other factor -/
def timesLinear (a : R) (before : R) : List R → List R
  | [] => [before * a]
  | coefficient :: rest => (coefficient + before * a) :: timesLinear a coefficient rest

theorem length_timesLinear (a before : R) (coefficients : List R) :
    (timesLinear a before coefficients).length = coefficients.length + 1 := by
  induction coefficients generalizing before with
  | nil => rfl
  | cons coefficient rest induction =>
    rw [timesLinear, List.length_cons, induction, List.length_cons]

theorem polynomial_timesLinear_behind (a before : R) (coefficients : List R) :
    polynomial (timesLinear a before coefficients) =
      C before * X ^ coefficients.length * C a + polynomial coefficients * (X + C a) := by
  induction coefficients generalizing before with
  | nil => simp [timesLinear, polynomial]
  | cons coefficient rest induction =>
    rw [timesLinear, polynomial, polynomial, induction, length_timesLinear, List.length_cons,
      C_add, C_mul]
    ring

theorem polynomial_timesLinear (a : R) (coefficients : List R) :
    polynomial (timesLinear a 0 coefficients) = polynomial coefficients * (X + C a) := by
  rw [polynomial_timesLinear_behind, C_0, zero_mul, zero_mul, zero_add]

theorem getD_timesLinear (a before : R) (coefficients : List R) (index : ℕ) :
    (timesLinear a before coefficients).getD index 0 =
      coefficients.getD index 0 + (before :: coefficients).getD index 0 * a := by
  induction coefficients generalizing before index with
  | nil => cases index <;> simp [timesLinear]
  | cons coefficient rest induction =>
    cases index with
    | zero => rfl
    | succ index => exact induction coefficient index

/-! ## Division -/

def subtractScaled (factor : R) : List R → List R → List R
  | divisor :: divisors, dividend :: dividends =>
    (dividend - divisor * factor) :: subtractScaled factor divisors dividends
  | _, dividends => dividends

/-- What is left after so many steps of a division by a monic polynomial -/
def remainder (divisor : List R) : ℕ → List R → List R
  | 0, dividend => dividend
  | _ + 1, [] => []
  | steps + 1, factor :: dividend =>
    remainder divisor steps (subtractScaled factor divisor.tail dividend)

theorem length_subtractScaled (factor : R) (divisor dividend : List R) :
    (subtractScaled factor divisor dividend).length = dividend.length := by
  induction divisor generalizing dividend with
  | nil => rfl
  | cons coefficient divisor induction =>
    cases dividend with
    | nil => rfl
    | cons first dividend => rw [subtractScaled, List.length_cons, induction, List.length_cons]

theorem subtractScaled_zero (divisor dividend : List R) :
    subtractScaled 0 divisor dividend = dividend := by
  induction divisor generalizing dividend with
  | nil => rfl
  | cons coefficient divisor induction =>
    cases dividend with
    | nil => rfl
    | cons first dividend => rw [subtractScaled, induction, mul_zero, sub_zero]

theorem polynomial_subtractScaled (factor : R) {divisor dividend : List R} {gap : ℕ}
    (long : dividend.length = divisor.length + gap) :
    polynomial (subtractScaled factor divisor dividend) =
      polynomial dividend - C factor * polynomial divisor * X ^ gap := by
  induction divisor generalizing dividend with
  | nil => simp [subtractScaled, polynomial]
  | cons coefficient divisor induction =>
    cases dividend with
    | nil =>
      rw [List.length_nil, List.length_cons] at long
      omega
    | cons first dividend =>
      have rest : dividend.length = divisor.length + gap := by
        rw [List.length_cons, List.length_cons] at long
        omega
      rw [subtractScaled, polynomial, polynomial, polynomial, induction rest, length_subtractScaled, rest, C_sub, C_mul]
      ring

theorem remainder_spec {divisor : List R} (steps : ℕ) {dividend : List R}
    (long : dividend.length = steps + divisor.length) :
    (remainder (1 :: divisor) steps dividend).length = divisor.length ∧
      polynomial (1 :: divisor) ∣
        polynomial dividend - polynomial (remainder (1 :: divisor) steps dividend) := by
  induction steps generalizing dividend with
  | zero =>
    rw [remainder, sub_self]
    exact ⟨long.trans (Nat.zero_add _), dvd_zero _⟩
  | succ steps induction =>
    cases dividend with
    | nil =>
      rw [List.length_nil] at long
      omega
    | cons factor dividend =>
      have rest : dividend.length = divisor.length + steps := by
        rw [List.length_cons] at long
        omega
      rcases @induction (subtractScaled factor divisor dividend)
        (by rw [length_subtractScaled, rest, Nat.add_comm]) with ⟨length, divides⟩
      refine ⟨length, ?_⟩
      have step : polynomial (factor :: dividend) -
          polynomial (subtractScaled factor divisor dividend) =
            polynomial (1 :: divisor) * (C factor * X ^ steps) := by
        rw [polynomial_subtractScaled factor rest, polynomial, polynomial, rest, C_1]
        ring
      have both := dvd_add (Dvd.intro _ step.symm) divides
      rwa [sub_add_sub_cancel] at both

theorem dvd_append_neg_remainder (data divisor : List R) :
    polynomial (1 :: divisor) ∣
      polynomial (data ++ (remainder (1 :: divisor) data.length
        (data ++ List.replicate divisor.length 0)).map Neg.neg) := by
  rcases @remainder_spec R _ divisor data.length (data ++ List.replicate divisor.length 0)
    (by rw [List.length_append, List.length_replicate]) with ⟨length, divides⟩
  have negated (coefficients : List R) :
      polynomial (coefficients.map Neg.neg) = -polynomial coefficients := by
    induction coefficients with
    | nil => exact neg_zero.symm
    | cons coefficient rest induction =>
      rw [List.map_cons, polynomial, polynomial, induction, List.length_map, C_neg]
      ring
  rw [polynomial_append, List.length_replicate, polynomial_replicate_zero, add_zero] at divides
  rwa [polynomial_append, List.length_map, length, negated, ← sub_eq_add_neg]

/-! ## Roots -/

theorem eval_polynomial {R : Type} [CommRing R] (x : R) (coefficients : List R) :
    (polynomial coefficients).eval x = ∑ index ∈ Finset.range coefficients.length,
      coefficients.getD index 0 * x ^ (coefficients.length - 1 - index) := by
  induction coefficients with
  | nil => exact eval_zero
  | cons coefficient rest induction =>
    rw [polynomial, eval_add, induction, eval_mul, eval_C, eval_pow, eval_X, List.length_cons,
      Finset.sum_range_succ', add_comm]
    congr 1
    refine Finset.sum_congr rfl fun index inside => ?_
    rw [List.getD_cons_succ,
      show rest.length + 1 - 1 - (index + 1) = rest.length - 1 - index by omega]

/-- As many power sums as there are points are zero only where every weight is. -/
theorem eq_zero_of_powerSums {F Place : Type} [Field F] (places : Finset Place)
    {weight point : Place → F} (injective : Set.InjOn point places)
    (sums : ∀ power < places.card, ∑ place ∈ places, weight place * point place ^ power = 0)
    {place : Place} (member : place ∈ places) : weight place = 0 := by
  let enumerated : Fin places.card ≃ places := places.equivFin.symm
  have distinct : Function.Injective fun index => point (enumerated index) :=
    fun first second same => enumerated.injective
      (Subtype.ext (injective (enumerated first).2 (enumerated second).2 same))
  have zero := Matrix.eq_zero_of_forall_pow_sum_mul_pow_eq_zero distinct
    (fun power => (enumerated.sum_comp fun place => weight place * point place ^ (power : ℕ)).trans
      ((Finset.sum_coe_sort places fun place => weight place * point place ^ (power : ℕ)).trans
        (sums power power.2)))
  have here := congrFun zero (enumerated.symm ⟨place, member⟩)
  rwa [Equiv.apply_symm_apply] at here

end MatterJs.SyntheticDivision
