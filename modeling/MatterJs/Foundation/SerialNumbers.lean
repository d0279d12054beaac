import Mathlib.Data.Int.ModEq
import Mathlib.Data.List.Basic

namespace MatterJs.SerialNumbers

/-! Numbers given out in turn, modulo a fixed number: which of them are still out once those
up to one of them have come back. -/

section

variable {Item : Type} [DecidableEq Item]

/-- What follows the first occurrence of an item, everything when there is none. -/
def dropThrough (item : Item) (items : List Item) : List Item :=
  if item ∈ items then (items.dropWhile (· ≠ item)).tail else items

@[simp] theorem dropThrough_cons_self (item : Item) (items : List Item) :
    dropThrough item (item :: items) = items := by
  simp [dropThrough]

theorem dropThrough_cons_of_ne {item head : Item} {items : List Item} (different : head ≠ item)
    (member : item ∈ items) : dropThrough item (head :: items) = dropThrough item items := by
  rw [dropThrough, dropThrough, if_pos (List.mem_cons_of_mem _ member), if_pos member,
    List.dropWhile_cons, if_pos (decide_eq_true different)]

theorem length_dropThrough_le (item : Item) (items : List Item) :
    (dropThrough item items).length ≤ items.length := by
  rw [dropThrough]
  split
  · rw [List.length_tail]
    have := (List.dropWhile_sublist (l := items) (· ≠ item)).length_le
    omega
  · exact Nat.le_refl _

end

/-- The numbers that follow `number`, as many as asked for. -/
def successors (modulus number : Int) : Nat → List Int
  | 0 => []
  | count + 1 => (number + 1) % modulus :: successors modulus ((number + 1) % modulus) count

/-- How many numbers come between `number` and `value`. -/
def distance (modulus number value : Int) : Int := (value - (number + 1)) % modulus

variable {modulus number value : Int} {count : Nat}

@[simp] theorem length_successors : (successors modulus number count).length = count := by
  induction count generalizing number with
  | zero => rfl
  | succ count induction => rw [successors, List.length_cons, induction]

theorem successors_succ : successors modulus number (count + 1) =
    successors modulus number count ++ [(number + (count + 1)) % modulus] := by
  induction count generalizing number with
  | zero => simp [successors]
  | succ count induction =>
    have last : ((number + 1) % modulus + (count + 1)) % modulus =
        (number + (↑(count + 1) + 1)) % modulus := by
      rw [Int.emod_add_emod]
      congr 1
      omega
    rw [successors, induction, successors, last, List.cons_append]

theorem bounds_of_mem_successors (positive : 0 < modulus)
    (member : value ∈ successors modulus number count) : 0 ≤ value ∧ value < modulus := by
  induction count generalizing number with
  | zero => exact absurd member List.not_mem_nil
  | succ count induction =>
    rcases List.mem_cons.mp member with rfl | later
    · exact ⟨Int.emod_nonneg _ positive.ne', Int.emod_lt_of_pos _ positive⟩
    · exact induction later

theorem distance_eq_zero_iff (nonneg : 0 ≤ value) (small : value < modulus) :
    distance modulus number value = 0 ↔ value = (number + 1) % modulus := by
  rw [distance, Int.emod_eq_emod_iff_emod_sub_eq_zero.symm, Int.emod_eq_of_lt nonneg small]

theorem distance_succ (nonneg : 0 ≤ value) (small : value < modulus)
    (other : value ≠ (number + 1) % modulus) :
    distance modulus number value = distance modulus ((number + 1) % modulus) value + 1 := by
  have positive : 0 < modulus := by omega
  have apart : distance modulus number value ≠ 0 :=
    mt (distance_eq_zero_iff nonneg small).mp other
  have atLeast : 0 ≤ distance modulus number value := Int.emod_nonneg _ positive.ne'
  have below : distance modulus number value < modulus := Int.emod_lt_of_pos _ positive
  have shifted : distance modulus ((number + 1) % modulus) value =
      (distance modulus number value - 1) % modulus := by
    have swapped : value - ((number + 1) % modulus + 1) =
        value - 1 - (number + 1) % modulus := by omega
    rw [distance, distance, Int.emod_sub_emod, swapped, Int.sub_emod_emod]
    congr 1
    omega
  rw [shifted, Int.emod_eq_of_lt (by omega) (by omega)]
  omega

/-- A number is among those that follow exactly when it comes soon enough. -/
theorem mem_successors_iff (nonneg : 0 ≤ value) (small : value < modulus) :
    value ∈ successors modulus number count ↔ distance modulus number value < count := by
  have atLeast (number : Int) : 0 ≤ distance modulus number value :=
    Int.emod_nonneg _ (by omega)
  induction count generalizing number with
  | zero => exact iff_of_false List.not_mem_nil (by have := atLeast number; omega)
  | succ count induction =>
    rw [successors, List.mem_cons, ← distance_eq_zero_iff nonneg small]
    by_cases first : value = (number + 1) % modulus
    · have here := (distance_eq_zero_iff nonneg small).mpr first
      exact iff_of_true (.inl here) (by omega)
    · have further := distance_succ nonneg small first
      refine (or_congr_right induction).trans ?_
      omega

theorem dropThrough_successors (nonneg : 0 ≤ value) (small : value < modulus)
    (member : value ∈ successors modulus number count) :
    ∃ left : Nat, left + distance modulus number value + 1 = count ∧
      dropThrough value (successors modulus number count) = successors modulus value left := by
  induction count generalizing number with
  | zero => exact absurd member List.not_mem_nil
  | succ count induction =>
    by_cases first : value = (number + 1) % modulus
    · have here := (distance_eq_zero_iff nonneg small).mpr first
      refine ⟨count, by omega, ?_⟩
      rw [successors, ← first, dropThrough_cons_self]
    · have further := distance_succ nonneg small first
      have later := (List.mem_cons.mp member).resolve_left first
      rcases induction later with ⟨left, total, dropped⟩
      refine ⟨left, by omega, ?_⟩
      rw [successors, dropThrough_cons_of_ne (Ne.symm first) later, dropped]

end MatterJs.SerialNumbers
