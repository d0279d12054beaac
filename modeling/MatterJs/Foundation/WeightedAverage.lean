import Mathlib.Algebra.Order.BigOperators.Group.List
import Mathlib.Algebra.Order.Field.Basic
import Mathlib.Tactic.Linarith
import Mathlib.Tactic.Ring

namespace MatterJs

/-! Weighted sums divided by a total that need not be the sum of the weights, and
when such a quotient respects a bound of the values. -/

universe u v

variable {Item : Type u} {Scalar : Type v} [Field Scalar] [LinearOrder Scalar]
  [IsStrictOrderedRing Scalar]

def weightedSum (items : List Item) (value weight : Item → Scalar) : Scalar :=
  (items.map fun item => value item * weight item).sum

section Bounds

variable (items : List Item) (value weight : Item → Scalar) {total : Scalar}
  (positive : 0 < total) (bound : Scalar)

omit [LinearOrder Scalar] [IsStrictOrderedRing Scalar] in
theorem weightedSum_sub_bound :
    weightedSum items (fun item => value item - bound) weight =
      weightedSum items value weight - bound * (items.map weight).sum := by
  induction items with
  | nil => simp [weightedSum]
  | cons item items induction =>
    simp only [weightedSum] at induction
    simp only [weightedSum, List.map_cons, List.sum_cons, induction]
    ring

omit [LinearOrder Scalar] [IsStrictOrderedRing Scalar] in
theorem weightedSum_bound_sub :
    weightedSum items (fun item => bound - value item) weight =
      bound * (items.map weight).sum - weightedSum items value weight := by
  induction items with
  | nil => simp [weightedSum]
  | cons item items induction =>
    simp only [weightedSum] at induction
    simp only [weightedSum, List.map_cons, List.sum_cons, induction]
    ring

include positive

theorem le_weightedSum_div_iff :
    bound ≤ weightedSum items value weight / total ↔
      bound * (total - (items.map weight).sum) ≤
        weightedSum items (fun item => value item - bound) weight := by
  rw [le_div_iff₀ positive, weightedSum_sub_bound]
  constructor <;> intro atMost <;> linarith only [atMost]

theorem weightedSum_div_le_iff :
    weightedSum items value weight / total ≤ bound ↔
      bound * ((items.map weight).sum - total) ≤
        weightedSum items (fun item => bound - value item) weight := by
  rw [div_le_iff₀ positive, weightedSum_bound_sub]
  constructor <;> intro atMost <;> linarith only [atMost]

end Bounds

end MatterJs
