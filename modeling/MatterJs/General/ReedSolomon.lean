import MatterJs.Foundation.SyntheticDivision
import MatterJs.General.GaloisField
import MatterJs.General.MatterError

/-! The parity of a Reed-Solomon code word. -/

namespace MatterJs.General

open GaloisField SyntheticDivision

namespace ReedSolomon

/-- The loop of `generatePolynom`, after so many rounds -/
def generatePolynom : Nat → List (Option Word)
  | 0 => [some 1]
  | i + 1 => multiplyPolynom (generatePolynom i) [some 1, power ⟨2, by decide⟩ i]

/-- The inner loop of `computeErrorCorrection`, over the buffer from `i` on. What would be
written behind its end is ignored. -/
def addScaled (coef : Word) : List (Option Word) → List Word → List Word
  | term :: generator, word :: buffer =>
    (word + (multiply term coef).getD 0) :: addScaled coef generator buffer
  | _, buffer => buffer

/-- The outer loop with the buffer from `i` on, of which only what is behind the data is
returned in the end. -/
def divide (generator : List (Option Word)) : Nat → List Word → List Word
  | 0, buffer => buffer
  | _ + 1, [] => []
  | count + 1, coef :: buffer =>
    if coef = 0 then divide generator count buffer
    else divide generator count (addScaled coef generator (coef :: buffer)).tail

def computeErrorCorrection (data : List Word) (ecLength : Nat) : Except MatterError (List Word) :=
  if data.length + ecLength > size then .error (.unexpectedDataError "Message is too long")
  else
    let generator := generatePolynom ecLength
    .ok (divide generator data.length (data ++ List.replicate (generator.length - 1) 0))

def termAt (terms : List (Option Word)) (index : Nat) : Word := (terms[index]?.join).getD 0

theorem termAt_cons (x : Option Word) (terms : List (Option Word)) (index : Nat) :
    termAt (x :: terms) index = if index = 0 then x.getD 0 else termAt terms (index - 1) := by
  cases index <;> rfl

theorem length_xorAt (result : List (Option Word)) (index : Nat) (value : Option Word) :
    (xorAt result index value).length = max result.length (index + 1) := by
  rw [xorAt, List.length_set, List.length_append, List.length_replicate]
  omega

theorem termAt_xorAt (result : List (Option Word)) (index : Nat) (value : Option Word)
    (other : Nat) :
    termAt (xorAt result index value) other =
      termAt result other + if other = index then value.getD 0 else 0 := by
  have reaches (other : Nat) : termAt (result ++ List.replicate (index + 1 - result.length) none)
      other = termAt result other := by
    rcases Nat.lt_or_ge other result.length with inside | outside
    · rw [termAt, termAt, List.getElem?_append_left inside]
    · rw [termAt, termAt, List.getElem?_append_right outside, List.getElem?_eq_none outside,
        List.getElem?_replicate]
      split <;> rfl
  have room : index < (result ++ List.replicate (index + 1 - result.length) none).length := by
    rw [List.length_append, List.length_replicate]
    omega
  by_cases here : other = index
  · rw [here, if_pos rfl, termAt, xorAt, List.getElem?_set_self room]
    exact congrArg (· + value.getD 0) (reaches index)
  · rw [if_neg here, add_zero, ← reaches other, termAt, termAt, xorAt,
      List.getElem?_set_ne (Ne.symm here)]

/-- A term of the inner loop is a product, also where a factor is not there. -/
theorem term_eq (x : Option Word) (y : Word) (notZero : x ≠ some 0) (nonzero : y ≠ 0) :
    (do exp[(← x.bind log) + (← log y)]?).getD 0 = x.getD 0 * y := by
  cases x with
  | none => exact (zero_mul y).symm
  | some x =>
    have xNonzero : x ≠ 0 := fun zero => notZero (congrArg some zero)
    rcases exists_iterate_lt xNonzero with ⟨count, small, rfl⟩
    rcases exists_iterate_lt nonzero with ⟨other, otherSmall, rfl⟩
    rw [Option.bind_some, log_iterate, log_iterate, Nat.mod_eq_of_lt small,
      Nat.mod_eq_of_lt otherSmall]
    simp only [Option.bind_eq_bind, Option.bind_some]
    rw [exp_getElem (by omega), Function.iterate_add_apply, ← Word.iterate_mul,
      Option.getD_some, Option.getD_some]

theorem addTerms_spec {y : Word} (nonzero : y ≠ 0) (j : Nat) (result : List (Option Word))
    (i : Nat) (p : List (Option Word)) :
    (∀ index, termAt (addTerms (log y) j result i p) index =
        termAt result index + if i + j ≤ index then termAt p (index - (i + j)) * y else 0) ∧
      (addTerms (log y) j result i p).length ≤ max result.length (i + j + p.length) := by
  induction p generalizing i result with
  | nil =>
    refine ⟨?_, le_max_left _ _⟩
    intro index
    change termAt result index = termAt result index + if _ then 0 * y else 0
    rw [zero_mul, ite_self, add_zero]
  | cons x p induction =>
    have behind (index : Nat) :
        (if i + j ≤ index then termAt (x :: p) (index - (i + j)) * y else 0) =
          (if index = i + j then x.getD 0 * y else 0) +
            if i + 1 + j ≤ index then termAt p (index - (i + 1 + j)) * y else 0 := by
      rcases Nat.lt_trichotomy index (i + j) with before | here | after
      · rw [if_neg (by omega), if_neg (by omega), if_neg (by omega), add_zero]
      · rw [if_pos (by omega), if_pos here, if_neg (by omega), add_zero, termAt_cons,
          if_pos (by omega)]
      · rw [if_pos (by omega), if_neg (by omega), if_pos (by omega), zero_add, termAt_cons,
          if_neg (by omega), show index - (i + j) - 1 = index - (i + 1 + j) by omega]
    by_cases zero : x = some 0
    · rw [addTerms, if_pos zero]
      rcases induction result (i + 1) with ⟨terms, length⟩
      refine ⟨?_, ?_⟩
      · intro index
        rw [terms, behind, zero]
        change _ = _ + ((if _ then 0 * y else 0) + _)
        rw [zero_mul, ite_self, zero_add]
      · rw [List.length_cons]
        omega
    · rw [addTerms, if_neg zero]
      rcases induction (xorAt result (i + j) (do exp[(← x.bind log) + (← log y)]?)) (i + 1) with
        ⟨terms, length⟩
      refine ⟨?_, ?_⟩
      · intro index
        rw [terms, behind, termAt_xorAt, term_eq x y zero nonzero, add_assoc]
      · rw [length_xorAt] at length
        rw [List.length_cons]
        apply length.trans
        omega

theorem multiplyPolynom_linear {a : Word} (nonzero : a ≠ 0) {p : List (Option Word)} {degree : Nat}
    (length : p.length = degree + 1) (last : termAt p degree ≠ 0) :
    (multiplyPolynom p [some 1, some a]).length = p.length + 1 ∧
      ∀ index, termAt (multiplyPolynom p [some 1, some a]) index =
        termAt p index + if 1 ≤ index then termAt p (index - 1) * a else 0 := by
  have unfolds : multiplyPolynom p [some 1, some a] =
      addTerms (log a) 1 (addTerms (log 1) 0 [] 0 p) 0 p := by
    have one : some (1 : Word) ≠ some 0 := by decide
    rw [multiplyPolynom, addProducts, if_neg one, addProducts,
      if_neg (fun zero => nonzero (Option.some.inj zero)), addProducts, Option.bind_some,
      Option.bind_some]
  rcases addTerms_spec (by decide : (1 : Word) ≠ 0) 0 [] 0 p with ⟨firstTerms, firstLength⟩
  rcases addTerms_spec nonzero 1 (addTerms (log 1) 0 [] 0 p) 0 p with ⟨terms, short⟩
  have products (index : Nat) : termAt (multiplyPolynom p [some 1, some a]) index =
      termAt p index + if 1 ≤ index then termAt p (index - 1) * a else 0 := by
    rw [unfolds, terms, firstTerms, mul_one]
    exact congrArg (· + _) (zero_add _)
  refine ⟨?_, products⟩
  have reaches : p.length < (multiplyPolynom p [some 1, some a]).length := by
    by_contra outside
    have noTerm := products p.length
    rw [termAt, List.getElem?_eq_none (Nat.le_of_not_lt outside), termAt,
      List.getElem?_eq_none (le_refl _), length] at noTerm
    apply mul_ne_zero last nonzero
    rw [← zero_add (termAt p degree * a)]
    exact noTerm.symm
  rw [← unfolds] at short
  rw [List.length_nil] at firstLength
  omega

def words (terms : List (Option Word)) : List Word := terms.map (·.getD 0)

theorem getD_words (terms : List (Option Word)) (index : Nat) :
    (words terms).getD index 0 = termAt terms index := by
  rw [words, List.getD_eq_getElem?_getD, List.getElem?_map, termAt]
  cases terms[index]? <;> rfl

open Polynomial in
structure IsGenerator (ecLength : Nat) (generator : List (Option Word)) : Prop where
  length : generator.length = ecLength + 1
  first : termAt generator 0 = 1
  last : termAt generator ecLength ≠ 0
  isProduct : polynomial (words generator) = ∏ i ∈ Finset.range ecLength, (X - C (Word.alpha ^ i))

theorem generatePolynom_isGenerator (ecLength : Nat) :
    IsGenerator ecLength (generatePolynom ecLength) := by
  induction ecLength with
  | zero =>
    refine ⟨rfl, rfl, by decide, ?_⟩
    simp [words, generatePolynom, polynomial]
  | succ ecLength induction =>
    have nonzero : Word.alpha ^ ecLength ≠ 0 := by
      rw [Word.alpha_pow]
      exact iterate_ne_zero ecLength
    rcases multiplyPolynom_linear nonzero induction.length induction.last with ⟨length, terms⟩
    have step : generatePolynom (ecLength + 1) =
        multiplyPolynom (generatePolynom ecLength) [some 1, some (Word.alpha ^ ecLength)] := by
      rw [← Word.power_eq]
      rfl
    rw [← step] at length terms
    have factored : words (generatePolynom (ecLength + 1)) =
        timesLinear (Word.alpha ^ ecLength) 0 (words (generatePolynom ecLength)) := by
      apply ext_getD
      · rw [words, List.length_map, length, length_timesLinear, words, List.length_map]
      · intro index
        rw [getD_words, terms, getD_timesLinear, getD_words]
        cases index with
        | zero => rw [if_neg (by decide), List.getD_cons_zero, zero_mul]
        | succ index =>
          rw [if_pos (Nat.le_add_left _ _), List.getD_cons_succ, getD_words, Nat.add_sub_cancel]
    refine ⟨by rw [length, induction.length], ?_, ?_, ?_⟩
    · rw [terms, induction.first, if_neg (by decide), add_zero]
    · have outside : termAt (generatePolynom ecLength) (ecLength + 1) = 0 := by
        rw [termAt, List.getElem?_eq_none (Nat.le_of_eq induction.length)]
        rfl
      rw [terms, outside, zero_add]
      exact mul_ne_zero induction.last nonzero
    · rw [factored, polynomial_timesLinear, induction.isProduct, Finset.prod_range_succ,
        sub_eq_add_neg, ← Polynomial.C_neg, Word.neg_eq]

/-! ## The remainder -/

theorem addScaled_eq (coef : Word) (generator : List (Option Word)) (buffer : List Word) :
    addScaled coef generator buffer = subtractScaled coef (words generator) buffer := by
  induction generator generalizing buffer with
  | nil => rfl
  | cons term generator induction =>
    have scaled : (multiply term coef).getD 0 = term.getD 0 * coef := by
      cases term with
      | none =>
        rw [multiply]
        split <;> rfl
      | some term => rw [Word.multiply_eq, Option.getD_some, Option.getD_some]
    cases buffer with
    | nil => rfl
    | cons word buffer =>
      change _ = (word - term.getD 0 * coef) :: subtractScaled coef (words generator) buffer
      rw [addScaled, induction, scaled, sub_eq_add_neg, Word.neg_eq]

theorem divide_eq (term : Option Word) (generator : List (Option Word)) (count : Nat)
    (buffer : List Word) :
    divide (term :: generator) count buffer =
      remainder (words (term :: generator)) count buffer := by
  induction count generalizing buffer with
  | zero => rfl
  | succ count induction =>
    cases buffer with
    | nil => rfl
    | cons coef buffer =>
      change _ = remainder _ count (subtractScaled coef (words generator) buffer)
      by_cases zero : coef = 0
      · rw [divide, if_pos zero, induction, zero, subtractScaled_zero]
      · rw [divide, if_neg zero, induction, addScaled, List.tail_cons, addScaled_eq]

/-- Data and a length of the parity that fit into a code word -/
structure Message where
  data : List Word
  ecLength : Nat
  short : data.length + ecLength ≤ size

open Polynomial in
theorem Message.codeWord_isMultiple (message : Message) :
    ∃ parity, computeErrorCorrection message.data message.ecLength = .ok parity ∧
      parity.length = message.ecLength ∧
      (∏ i ∈ Finset.range message.ecLength, (X - C (Word.alpha ^ i))) ∣
        polynomial (message.data ++ parity) ∧
      ∀ i < message.ecLength, (polynomial (message.data ++ parity)).eval (Word.alpha ^ i) = 0 := by
  have isGenerator := generatePolynom_isGenerator message.ecLength
  cases form : generatePolynom message.ecLength with
  | nil =>
    have length := isGenerator.length
    rw [form] at length
    nomatch length
  | cons term generator =>
    rw [form] at isGenerator
    have first : term.getD 0 = 1 := isGenerator.first
    have length : generator.length = message.ecLength := Nat.succ.inj isGenerator.length
    have monic : words (term :: generator) = 1 :: words generator := by
      rw [words, List.map_cons, first]
      rfl
    have wordsLength : (words generator).length = message.ecLength := by
      rw [words, List.length_map, length]
    have same (parity : List Word) : parity.map Neg.neg = parity := List.map_id parity
    have divides := dvd_append_neg_remainder message.data (words generator)
    rw [same, ← monic, isGenerator.isProduct, wordsLength] at divides
    have computes : computeErrorCorrection message.data message.ecLength =
        .ok (remainder (words (term :: generator)) message.data.length
          (message.data ++ List.replicate message.ecLength 0)) := by
      rw [computeErrorCorrection, if_neg (Nat.not_lt.mpr message.short), form]
      dsimp only
      rw [divide_eq, List.length_cons, Nat.add_sub_cancel, length]
    refine ⟨_, computes, ?_, divides, ?_⟩
    · rw [monic]
      exact (remainder_spec message.data.length (by
        rw [List.length_append, List.length_replicate, wordsLength])).1.trans wordsLength
    · intro i inside
      apply eval_eq_zero_of_dvd_of_eval_eq_zero divides
      rw [eval_prod]
      apply Finset.prod_eq_zero (Finset.mem_range.mpr inside)
      rw [eval_sub, eval_X, eval_C, sub_self]

open Polynomial in
theorem Message.codeWord_roots (message : Message) {parity : List Word}
    (computes : computeErrorCorrection message.data message.ecLength = .ok parity) :
    parity.length = message.ecLength ∧ ∀ i < message.ecLength,
      (polynomial (message.data ++ parity)).eval (Word.alpha ^ i) = 0 := by
  have isGenerator := generatePolynom_isGenerator message.ecLength
  rw [computeErrorCorrection, if_neg (Nat.not_lt.mpr message.short)] at computes
  cases form : generatePolynom message.ecLength with
  | nil => cases form.symm ▸ isGenerator.length
  | cons term generator =>
    rw [form] at isGenerator
    have length : generator.length = message.ecLength := Nat.succ.inj isGenerator.length
    have wordsLength : (words generator).length = message.ecLength := by
      rw [words, List.length_map, length]
    have monic : words (term :: generator) = 1 :: words generator :=
      congrArg (· :: words generator) isGenerator.first
    have divides := dvd_append_neg_remainder message.data (words generator)
    have same (parity : List Word) : parity.map Neg.neg = parity := List.map_id parity
    rw [same, ← monic, isGenerator.isProduct, wordsLength] at divides
    have isRemainder : remainder (words (term :: generator)) message.data.length
        (message.data ++ List.replicate message.ecLength 0) = parity := by
      rw [← divide_eq]
      simpa [form, length] using computes
    rw [isRemainder] at divides
    refine ⟨?_, fun i inside => eval_eq_zero_of_dvd_of_eval_eq_zero divides ?_⟩
    · rw [← isRemainder, monic]
      exact (remainder_spec message.data.length (by
        rw [List.length_append, List.length_replicate, wordsLength])).1.trans wordsLength
    · rw [eval_prod]
      exact Finset.prod_eq_zero (Finset.mem_range.mpr inside)
        (by rw [eval_sub, eval_X, eval_C, sub_self])

/-- In how many places the words of two messages of one length are different -/
def distance (first second : List Word) : Nat :=
  ((Finset.range first.length).filter fun index =>
    first.getD index 0 ≠ second.getD index 0).card

theorem codeWords_apart {first second : Message} {firstParity secondParity : List Word}
    (sameLength : first.data.length = second.data.length)
    (sameParity : first.ecLength = second.ecLength)
    (firstComputes : computeErrorCorrection first.data first.ecLength = .ok firstParity)
    (secondComputes : computeErrorCorrection second.data second.ecLength = .ok secondParity)
    (different : first.data ≠ second.data) :
    first.ecLength < distance (first.data ++ firstParity) (second.data ++ secondParity) := by
  rcases first.codeWord_roots firstComputes with ⟨firstLength, firstRoots⟩
  rcases second.codeWord_roots secondComputes with ⟨secondLength, secondRoots⟩
  by_contra few
  have length : (first.data ++ firstParity).length = (second.data ++ secondParity).length := by
    rw [List.length_append, List.length_append, firstLength, secondLength, sameLength, sameParity]
  have short := first.short
  rw [← firstLength, ← List.length_append] at short
  refine different (List.append_inj_left (ext_getD length fun index => ?_) sameLength)
  generalize first.data ++ firstParity = one, second.data ++ secondParity = other at *
  let places := (Finset.range one.length).filter fun index =>
    one.getD index 0 ≠ other.getD index 0
  have few : places.card ≤ first.ecLength := Nat.le_of_not_lt few
  by_contra differs
  have inside : index < one.length := by
    by_contra outside
    rw [List.getD_eq_default _ _ (by omega), List.getD_eq_default _ _ (by omega)] at differs
    exact differs rfl
  refine differs (sub_eq_zero.mp (@eq_zero_of_powerSums Word ℕ _ places
    (fun index => one.getD index 0 - other.getD index 0)
    (fun index => Word.alpha ^ (one.length - 1 - index)) ?_ ?_ _
    (Finset.mem_filter.mpr ⟨Finset.mem_range.mpr inside, differs⟩)))
  · intro place member otherPlace otherMember same
    have placeInside := Finset.mem_range.mp (Finset.mem_filter.mp member).1
    have otherInside := Finset.mem_range.mp (Finset.mem_filter.mp otherMember).1
    have := Word.alpha_pow_injOn (Set.mem_Iio.mpr (by omega)) (Set.mem_Iio.mpr (by omega)) same
    omega
  · intro power small
    have root := sub_eq_zero.mpr ((firstRoots power (by omega)).trans
      (secondRoots power (by omega)).symm)
    rw [eval_polynomial, eval_polynomial, ← length, ← Finset.sum_sub_distrib] at root
    rw [Finset.sum_filter_of_ne]
    · refine (Finset.sum_congr rfl fun index _ => ?_).trans root
      rw [sub_mul, ← pow_mul, ← pow_mul, Nat.mul_comm]
    · intro index _ nonzero same
      exact nonzero (by rw [same, sub_self, zero_mul])

theorem codeWords_apart_parity : 1 < distance ([1] ++ [1]) ([0] ++ [0]) :=
  @codeWords_apart ⟨[1], 1, by decide⟩ ⟨[0], 1, by decide⟩ [1] [0] rfl rfl
    (by decide +kernel) (by decide +kernel) (by decide)

end ReedSolomon

end MatterJs.General
