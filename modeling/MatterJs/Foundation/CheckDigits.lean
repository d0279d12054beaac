import Mathlib.Algebra.Group.Basic
import Mathlib.Data.Set.Function

/-! Check digits over a group. Each digit has a weight, which depends on its position, and a
text is right when the product of the weights is one. -/

namespace MatterJs.CheckDigits

variable {Digit Weight : Type} {digits others : List Digit}

/-- One digit was taken for another, or two neighbours changed places. -/
inductive Mistyped : List Digit → List Digit → Prop
  | changed (before after : List Digit) {digit other : Digit} (differs : digit ≠ other) :
      Mistyped (before ++ digit :: after) (before ++ other :: after)
  | swapped (before after : List Digit) {first second : Digit} (differs : first ≠ second) :
      Mistyped (before ++ first :: second :: after) (before ++ second :: first :: after)

theorem Mistyped.reverse (mistyped : Mistyped digits others) :
    Mistyped digits.reverse others.reverse := by
  cases mistyped with
  | changed before after differs =>
    simpa using Mistyped.changed after.reverse before.reverse differs
  | swapped before after differs =>
    simpa using Mistyped.swapped after.reverse before.reverse differs.symm

theorem Mistyped.length_eq (mistyped : Mistyped digits others) :
    others.length = digits.length := by
  cases mistyped <;> simp

variable [Group Weight] (weight : ℕ → Digit → Weight)

def product (position : ℕ) : List Digit → Weight
  | [] => 1
  | digit :: digits => weight position digit * product (position + 1) digits

theorem product_append (before after : List Digit) (position : ℕ) :
    product weight position (before ++ after) =
      product weight position before * product weight (position + before.length) after := by
  induction before generalizing position with
  | nil => simp [product]
  | cons digit before induction =>
    have next : position + 1 + before.length = position + (digit :: before).length := by
      simp only [List.length_cons]
      omega
    rw [List.cons_append, product, product, induction, mul_assoc, next]

/-- Weights that tell digits apart at each position, and pairs of digits from their swap -/
structure Separates (allowed : Set Digit) : Prop where
  injective : ∀ position, Set.InjOn (weight position) allowed
  apart : ∀ position, ∀ first ∈ allowed, ∀ second ∈ allowed, first ≠ second →
    weight position first * weight (position + 1) second ≠
      weight position second * weight (position + 1) first

theorem Separates.product_ne {weight : ℕ → Digit → Weight} {allowed : Set Digit}
    (separates : Separates weight allowed) (mistyped : Mistyped digits others)
    (digitsAllowed : ∀ digit ∈ digits, digit ∈ allowed)
    (othersAllowed : ∀ digit ∈ others, digit ∈ allowed) (position : ℕ) :
    product weight position digits ≠ product weight position others := by
  intro same
  cases mistyped with
  | @changed before after digit other differs =>
    rw [product_append, product_append] at same
    apply differs
    apply separates.injective _ (digitsAllowed digit (by simp)) (othersAllowed other (by simp))
    exact mul_right_cancel (mul_left_cancel same)
  | @swapped before after first second differs =>
    rw [product_append, product_append, product, product, product, product] at same
    have behind := mul_left_cancel same
    rw [← mul_assoc, ← mul_assoc] at behind
    apply separates.apart _ first (digitsAllowed first (by simp)) second
      (digitsAllowed second (by simp)) differs
    exact mul_right_cancel behind

end MatterJs.CheckDigits
