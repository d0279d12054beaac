import Mathlib.Algebra.Field.Basic
import Mathlib.Data.Set.Function
import Mathlib.Dynamics.PeriodicPts.Defs

/-! The field of the Reed-Solomon code: its numbers are bytes, added by `^` and multiplied with
tables of powers and logarithms. -/

namespace MatterJs.General

structure Word where
  value : Nat
  isByte : value < 256
  deriving DecidableEq

namespace Word

@[ext] theorem ext {first second : Word} (same : first.value = second.value) : first = second := by
  cases first
  cases second
  cases same
  rfl

instance : Zero Word := ⟨⟨0, by decide⟩⟩
instance : One Word := ⟨⟨1, by decide⟩⟩

/-- `first ^ second` -/
instance : Add Word :=
  ⟨fun first second =>
    { value := first.value ^^^ second.value
      isByte := @Nat.xor_lt_two_pow first.value second.value 8 first.isByte second.isByte }⟩

end Word

namespace GaloisField

def prime : Nat := 0x11d

def size : Nat := 2 ^ 8 - 1

/-- The loop of `multiplyNoLut`. Each round halves `y`, so that it has no more than `y`. -/
def multiplyNoLutLoop : Nat → Nat → Nat → Nat → Nat
  | 0, result, _, _ => result
  | fuel + 1, result, x, y =>
    if y = 0 then result
    else
      let added := if y &&& 1 ≠ 0 then result ^^^ x else result
      let moved := if x <<< 1 > size then x <<< 1 ^^^ prime else x <<< 1
      multiplyNoLutLoop fuel added moved (y >>> 1)

def multiplyNoLut (x y : Nat) : Nat := multiplyNoLutLoop y 0 x y

theorem multiplyNoLut_lt : ∀ x < 256, multiplyNoLut x 2 < 256 := by decide +kernel

/-- The next power of the generator, which is 2 -/
def double (x : Word) : Word := ⟨multiplyNoLut x.value 2, multiplyNoLut_lt x.value x.isByte⟩

/-- The loop of the constructor, with what it writes to `exp` -/
def expLoop : Nat → Word → List Word
  | 0, _ => []
  | count + 1, x => x :: expLoop count (double x)

/-- The same loop, with what it writes to `log` -/
def logLoop (i : Nat) (log : Word → Option Nat) : List Word → Word → Option Nat
  | [] => log
  | x :: others => logLoop (i + 1) (Function.update log x (some i)) others

def exp : List Word := expLoop size 1 ++ expLoop size 1

def log : Word → Option Nat := logLoop 0 (fun _ => none) (expLoop size 1)

/-- `multiply`. A number that is not there, like a logarithm that is not, is undefined. -/
def multiply (x : Option Word) (y : Word) : Option Word :=
  if x = some 0 ∨ y = 0 then some 0
  else do exp[((← log (← x)) + (← log y)) % size]?

def power (x : Word) (power : Nat) : Option Word := do exp[((← log x) * power) % size]?

/-- `result[index] ^= value`, where both may be undefined -/
def xorAt (result : List (Option Word)) (index : Nat) (value : Option Word) :
    List (Option Word) :=
  let reaching := result ++ List.replicate (index + 1 - result.length) none
  reaching.set index (some ((reaching[index]?.join).getD 0 + value.getD 0))

/-- The inner loop of `multiplyPolynom`, over `p` from `i` on -/
def addTerms (lq : Option Nat) (j : Nat) (result : List (Option Word)) (i : Nat) :
    List (Option Word) → List (Option Word)
  | [] => result
  | x :: p =>
    if x = some 0 then addTerms lq j result (i + 1) p
    else
      let logP := x.bind log
      addTerms lq j (xorAt result (i + j) (do exp[(← logP) + (← lq)]?)) (i + 1) p

/-- The outer loop, over `q` from `j` on -/
def addProducts (p result : List (Option Word)) (j : Nat) :
    List (Option Word) → List (Option Word)
  | [] => result
  | y :: q =>
    if y = some 0 then addProducts p result (j + 1) q
    else addProducts p (addTerms (y.bind log) j result 0 p) (j + 1) q

def multiplyPolynom (p q : List (Option Word)) : List (Option Word) := addProducts p [] 0 q

theorem double_value : ∀ x < 256,
    multiplyNoLut x 2 = x <<< 1 ^^^ if x.testBit 7 then 0x11d else 0 := by
  decide +kernel

theorem double_add (first second : Word) :
    double (first + second) = double first + double second := by
  apply Word.ext
  change multiplyNoLut (first.value ^^^ second.value) 2 =
    multiplyNoLut first.value 2 ^^^ multiplyNoLut second.value 2
  have isByte : first.value ^^^ second.value < 256 := (first + second).isByte
  rw [double_value _ isByte,
    double_value _ first.isByte, double_value _ second.isByte, Nat.shiftLeft_xor_distrib,
    Nat.testBit_xor]
  have swap (a b c : Nat) : a ^^^ b ^^^ c = a ^^^ c ^^^ b := by
    rw [Nat.xor_assoc, Nat.xor_comm b c, Nat.xor_assoc]
  have cancel (a b : Nat) : a ^^^ b ^^^ b = a := by
    rw [Nat.xor_assoc, Nat.xor_self, Nat.xor_zero]
  cases first.value.testBit 7 <;> cases second.value.testBit 7
  · simp
  · simp [Nat.xor_assoc]
  · simp [swap]
  · simp [← Nat.xor_assoc, swap _ 285, cancel]

variable (count : Nat)

theorem iterate_add (first second : Word) :
    double^[count] (first + second) = double^[count] first + double^[count] second := by
  induction count with
  | zero => rfl
  | succ count induction =>
    rw [Function.iterate_succ_apply', Function.iterate_succ_apply',
      Function.iterate_succ_apply', induction, double_add]

theorem iterate_zero : double^[count] 0 = 0 := by
  apply Function.iterate_fixed
  rfl

theorem length_expLoop (x : Word) : (expLoop count x).length = count := by
  induction count generalizing x with
  | zero => rfl
  | succ count induction => rw [expLoop, List.length_cons, induction]

theorem getElem?_expLoop {count index : Nat} (inside : index < count) (x : Word) :
    (expLoop count x)[index]? = some (double^[index] x) := by
  induction count generalizing index x with
  | zero => omega
  | succ count induction =>
    cases index with
    | zero => rfl
    | succ index =>
      rw [expLoop, List.getElem?_cons_succ, induction (by omega), Function.iterate_succ_apply]

/-- The powers go around, and pass every number but 0 once. -/
theorem double_period : double^[size] 1 = 1 := by decide +kernel

theorem expLoop_complete : ∀ x < 256, x ≠ 0 → x ∈ (expLoop size 1).map Word.value := by
  decide +kernel

theorem expLoop_nodup : (expLoop size 1).Nodup := by
  have inside : List.range' 1 size ⊆ (expLoop size 1).map Word.value := by
    intro x member
    obtain ⟨above, below⟩ := List.mem_range'_1.mp member
    exact expLoop_complete x below (by omega)
  have isPerm := (List.subperm_of_subset List.nodup_range' inside).perm_of_length_le (by
    rw [List.length_map, length_expLoop, List.length_range'])
  exact (isPerm.nodup List.nodup_range').of_map _

theorem iterate_mod : double^[count % size] 1 = double^[count] 1 :=
  (show Function.IsPeriodicPt double size 1 from double_period).iterate_mod_apply count

theorem logLoop_of_notMem {x : Word} {xs : List Word} (absent : x ∉ xs) (i : Nat)
    (log : Word → Option Nat) : logLoop i log xs x = log x := by
  induction xs generalizing i log with
  | nil => rfl
  | cons other xs induction =>
    rw [List.mem_cons, not_or] at absent
    rw [logLoop, induction absent.2, Function.update_of_ne absent.1]

theorem logLoop_getElem {xs : List Word} (nodup : xs.Nodup) (i : Nat) (log : Word → Option Nat)
    {index : Nat} {x : Word} (found : xs[index]? = some x) :
    logLoop i log xs x = some (i + index) := by
  induction xs generalizing i log index with
  | nil => nomatch found
  | cons first xs induction =>
    rw [List.nodup_cons] at nodup
    cases index with
    | zero =>
      cases found
      rw [logLoop, logLoop_of_notMem nodup.1, Function.update_self, Nat.add_zero]
    | succ index =>
      rw [logLoop, induction nodup.2 _ _ found]
      congr 1
      omega

theorem log_iterate : log (double^[count] 1) = some (count % size) := by
  have inside : count % size < size := Nat.mod_lt _ (by decide)
  rw [log, ← iterate_mod, logLoop_getElem expLoop_nodup 0 _ (getElem?_expLoop inside 1),
    Nat.zero_add]

theorem log_zero : log 0 = none := by
  have absent : (0 : Word) ∉ expLoop size 1 := by decide +kernel
  rw [log, logLoop_of_notMem absent]

theorem exp_getElem {index : Nat} (inside : index < size * 2) :
    exp[index]? = some (double^[index] 1) := by
  rcases Nat.lt_or_ge index size with first | second
  · rw [exp, List.getElem?_append_left (by rwa [length_expLoop]), getElem?_expLoop first]
  · rw [exp, List.getElem?_append_right (by rwa [length_expLoop]), length_expLoop,
      getElem?_expLoop (by omega), ← iterate_mod index, ← iterate_mod (index - size),
      ← Nat.mod_eq_sub_mod second]

theorem exists_iterate_lt {x : Word} (nonzero : x ≠ 0) :
    ∃ count < size, x = double^[count] 1 := by
  have notZero : x.value ≠ 0 := fun same => nonzero (Word.ext same)
  rcases List.mem_map.mp (expLoop_complete x.value x.isByte notZero) with ⟨power, member, same⟩
  rcases List.mem_iff_getElem?.mp member with ⟨index, found⟩
  have inside : index < size := by
    rw [← length_expLoop size 1]
    exact (List.getElem?_eq_some_iff.mp found).1
  rw [getElem?_expLoop inside] at found
  exact ⟨index, inside, by rw [← Word.ext same, Option.some.inj found]⟩

theorem exists_iterate {x : Word} (nonzero : x ≠ 0) : ∃ count, x = double^[count] 1 :=
  (exists_iterate_lt nonzero).imp fun _ => And.right

theorem iterate_ne_zero : double^[count] 1 ≠ 0 := by
  intro zero
  have noLog := log_iterate count
  rw [zero, log_zero] at noLog
  nomatch noLog

/-- Multiplication by a power of the generator doubles as many times. -/
theorem multiply_iterate (y : Word) :
    multiply (some (double^[count] 1)) y = some (double^[count] y) := by
  by_cases zero : y = 0
  · rw [multiply, if_pos (Or.inr zero), zero, iterate_zero]
  · rcases exists_iterate zero with ⟨other, rfl⟩
    have notZero : ¬(some (double^[count] 1) = some 0 ∨ double^[other] 1 = 0) := by
      rw [Option.some_inj, not_or]
      exact ⟨iterate_ne_zero count, iterate_ne_zero other⟩
    have inside : (count % size + other % size) % size < size * 2 :=
      Nat.lt_of_lt_of_le (Nat.mod_lt _ (by decide)) (by decide)
    rw [multiply, if_neg notZero]
    change (do exp[((← log (double^[count] 1)) + (← log (double^[other] 1))) % size]?) = _
    rw [log_iterate, log_iterate]
    change exp[(count % size + other % size) % size]? = _
    rw [exp_getElem inside, ← Nat.add_mod, iterate_mod, Function.iterate_add_apply]

end GaloisField

/-! ## The field -/

namespace Word

open GaloisField

instance : Mul Word := ⟨fun x y => (multiply (some x) y).getD 0⟩

theorem iterate_mul (count : Nat) (y : Word) : double^[count] 1 * y = double^[count] y := by
  change (multiply (some (double^[count] 1)) y).getD 0 = _
  rw [multiply_iterate]
  rfl

theorem multiply_eq (x y : Word) : multiply (some x) y = some (x * y) := by
  by_cases zero : x = 0
  · rw [zero]
    rfl
  · rcases exists_iterate zero with ⟨count, rfl⟩
    rw [multiply_iterate, iterate_mul]

theorem word_zero_mul (x : Word) : 0 * x = 0 := rfl

theorem word_mul_comm (x y : Word) : x * y = y * x := by
  have zero_right (x : Word) : x * 0 = 0 := by
    change (multiply (some x) 0).getD 0 = 0
    rw [multiply, if_pos (Or.inr rfl)]
    rfl
  by_cases xZero : x = 0
  · rw [xZero, zero_right]
    rfl
  · by_cases yZero : y = 0
    · rw [yZero, zero_right]
      rfl
    · rcases exists_iterate xZero with ⟨count, rfl⟩
      rcases exists_iterate yZero with ⟨other, rfl⟩
      rw [iterate_mul, iterate_mul, ← Function.iterate_add_apply, ← Function.iterate_add_apply,
        Nat.add_comm]

theorem word_mul_assoc (x y z : Word) : x * y * z = x * (y * z) := by
  by_cases xZero : x = 0
  · rw [xZero]
    rfl
  · by_cases yZero : y = 0
    · rw [yZero, word_mul_comm x 0]
      exact (word_mul_comm x 0).symm
    · rcases exists_iterate xZero with ⟨count, rfl⟩
      rcases exists_iterate yZero with ⟨other, rfl⟩
      rw [iterate_mul, iterate_mul, iterate_mul, ← Function.iterate_add_apply, iterate_mul,
        Function.iterate_add_apply]

theorem word_mul_add (x y z : Word) : x * (y + z) = x * y + x * z := by
  by_cases zero : x = 0
  · rw [zero, word_zero_mul, word_zero_mul, word_zero_mul]
    rfl
  · rcases exists_iterate zero with ⟨count, rfl⟩
    rw [iterate_mul, iterate_mul, iterate_mul, iterate_add]

/-- The inverse is as many doublings as are left until 1. -/
instance : Inv Word := ⟨fun x => ((log x).map fun count => double^[size - count] 1).getD 0⟩

theorem word_mul_inv {x : Word} (nonzero : x ≠ 0) : x * x⁻¹ = 1 := by
  rcases exists_iterate nonzero with ⟨count, rfl⟩
  have inside : count % size < size := Nat.mod_lt _ (by decide)
  have inverse : (double^[count] 1)⁻¹ = double^[size - count % size] 1 := by
    change ((log (double^[count] 1)).map fun count => double^[size - count] 1).getD 0 = _
    rw [log_iterate]
    rfl
  rw [inverse, ← iterate_mod count, iterate_mul, ← Function.iterate_add_apply,
    Nat.add_sub_cancel' (Nat.le_of_lt inside), double_period]

instance : Neg Word := ⟨id⟩

instance : CommRing Word where
  add_assoc first second third := ext (Nat.xor_assoc ..)
  zero_add first := ext (Nat.zero_xor _)
  add_zero first := ext (Nat.xor_zero _)
  add_comm first second := ext (Nat.xor_comm ..)
  neg_add_cancel first := ext (Nat.xor_self _)
  nsmul := nsmulRec
  zsmul := zsmulRec
  mul_assoc := word_mul_assoc
  mul_comm := word_mul_comm
  one_mul := iterate_mul 0
  mul_one x := (word_mul_comm x 1).trans (iterate_mul 0 x)
  zero_mul := word_zero_mul
  mul_zero x := (word_mul_comm x 0).trans (word_zero_mul x)
  left_distrib := word_mul_add
  right_distrib x y z := by
    rw [word_mul_comm, word_mul_add, word_mul_comm z x, word_mul_comm z y]

instance : Field Word where
  exists_pair_ne := ⟨0, 1, by decide⟩
  mul_inv_cancel x := word_mul_inv
  inv_zero := by
    change ((log 0).map _).getD 0 = 0
    rw [log_zero]
    rfl
  nnqsmul := _
  qsmul := _

theorem neg_eq (x : Word) : -x = x := rfl

def alpha : Word := double 1

theorem alpha_pow (count : Nat) : alpha ^ count = double^[count] 1 := by
  induction count with
  | zero => rfl
  | succ count induction =>
    rw [pow_succ', induction, Function.iterate_succ_apply']
    exact iterate_mul 1 _

theorem power_eq (count : Nat) : power alpha count = some (alpha ^ count) := by
  have isLog : log alpha = some (1 % size) := log_iterate 1
  have inside : 1 % size * count % size < size * 2 :=
    Nat.lt_of_lt_of_le (Nat.mod_lt _ (by decide)) (by decide)
  rw [power, isLog]
  change exp[1 % size * count % size]? = _
  rw [exp_getElem inside, iterate_mod, alpha_pow, show 1 % size = 1 from rfl, Nat.one_mul]

theorem alpha_pow_injOn : Set.InjOn (alpha ^ ·) (Set.Iio size) := by
  intro count inside other otherInside same
  have logs := congrArg log same
  dsimp only at logs
  rw [alpha_pow, alpha_pow, log_iterate, log_iterate, Nat.mod_eq_of_lt inside,
    Nat.mod_eq_of_lt otherInside] at logs
  exact Option.some.inj logs

end Word

end MatterJs.General
