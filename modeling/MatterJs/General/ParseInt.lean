import Mathlib.Data.Nat.Digits.Lemmas

namespace MatterJs.General

/-! The numbers that texts begin with. -/

def isWhiteSpace (char : Char) : Bool :=
  [0x09, 0x0a, 0x0b, 0x0c, 0x0d, 0x20, 0xa0, 0x1680, 0x2028, 0x2029, 0x202f, 0x205f, 0x3000,
    0xfeff].contains char.toNat || (0x2000 ≤ char.toNat && char.toNat ≤ 0x200a)

def digitValue (char : Char) : Option Nat :=
  if '0' ≤ char ∧ char ≤ '9' then some (char.toNat - '0'.toNat)
  else if 'a' ≤ char ∧ char ≤ 'z' then some (char.toNat - 'a'.toNat + 10)
  else if 'A' ≤ char ∧ char ≤ 'Z' then some (char.toNat - 'A'.toNat + 10)
  else none

/-- The number that the digits at the front of a text make, `none` without any. -/
def leadingNumber (radix : Nat) (text : List Char) (number : Option Nat) : Option Nat :=
  match text with
  | [] => number
  | char :: text =>
    match digitValue char with
    | some digit =>
      if digit < radix then leadingNumber radix text (some (number.getD 0 * radix + digit))
      else number
    | none => number

/-- `parseInt` of the language, `none` for NaN. A number that a double cannot hold stays
exact here. -/
def parseInt (text : List Char) (radix : Nat) : Option Int :=
  let unsigned (text : List Char) : Option Nat :=
    match text with
    | '0' :: 'x' :: digits | '0' :: 'X' :: digits => leadingNumber 16 digits none
    | digits => leadingNumber radix digits none
  match text.dropWhile isWhiteSpace with
  | '-' :: digits => (unsigned digits).map fun number => -(number : Int)
  | '+' :: digits => (unsigned digits).map Int.ofNat
  | digits => (unsigned digits).map Int.ofNat

def IsDecimal (text : List Char) : Prop := ∀ char ∈ text, char.isDigit = true

variable {char : Char} {text : List Char}

theorem digitValue_of_isDigit (isDigit : char.isDigit = true) :
    digitValue char = some (char.toNat - '0'.toNat) ∧ char.toNat - '0'.toNat < 10 := by
  rw [Char.isDigit, Bool.and_eq_true, decide_eq_true_iff, decide_eq_true_iff] at isDigit
  refine ⟨if_pos isDigit, ?_⟩
  have upper : char.toNat ≤ 57 := isDigit.2
  change char.toNat - 48 < 10
  omega

theorem leadingNumber_of_digits {radix : Nat} (isDecimal : IsDecimal text)
    (inRadix : ∀ char ∈ text, char.toNat - '0'.toNat < radix) (notEmpty : text ≠ [])
    (number : Option Nat) :
    leadingNumber radix text number = some (Nat.ofDigitChars radix text (number.getD 0)) := by
  induction text generalizing number with
  | nil => exact absurd rfl notEmpty
  | cons char text induction =>
    rcases List.forall_mem_cons.mp isDecimal with ⟨isDigit, others⟩
    rcases List.forall_mem_cons.mp inRadix with ⟨small, othersSmall⟩
    rw [leadingNumber, (digitValue_of_isDigit isDigit).1, Nat.ofDigitChars_cons]
    simp only [small]
    rw [Nat.mul_comm radix]
    cases text with
    | nil => rfl
    | cons next rest => exact induction others othersSmall (List.cons_ne_nil _ _) _

theorem leadingNumber_of_isDecimal (isDecimal : IsDecimal text) (notEmpty : text ≠ [])
    (number : Option Nat) :
    leadingNumber 10 text number = some (Nat.ofDigitChars 10 text (number.getD 0)) :=
  leadingNumber_of_digits isDecimal
    (fun char member => (digitValue_of_isDigit (isDecimal char member)).2) notEmpty number

theorem isWhiteSpace_of_isDigit (isDigit : char.isDigit = true) : isWhiteSpace char = false := by
  rcases Char.isDigit_iff_toNat.mp isDigit with ⟨lower, upper⟩
  change 48 ≤ char.toNat at lower
  change char.toNat ≤ 57 at upper
  simp [isWhiteSpace]
  omega

/-- A digit is none of the characters that are looked for before the number. -/
theorem parseInt_of_digits {radix : Nat} (isDecimal : IsDecimal text)
    (inRadix : ∀ char ∈ text, char.toNat - '0'.toNat < radix) (notEmpty : text ≠ []) :
    parseInt text radix = some (Nat.ofDigitChars radix text 0 : Int) := by
  have number := leadingNumber_of_digits isDecimal inRadix notEmpty none
  have noSpace : text.dropWhile isWhiteSpace = text := by
    cases text with
    | nil => rfl
    | cons char text =>
      exact List.dropWhile_cons_of_neg
        (by rw [isWhiteSpace_of_isDigit (isDecimal char (List.mem_cons_self ..))]; nofun)
  rw [parseInt, noSpace]
  split
  · exact absurd (isDecimal '-' (List.mem_cons_self ..)) (by decide)
  · exact absurd (isDecimal '+' (List.mem_cons_self ..)) (by decide)
  · dsimp only
    split
    · exact absurd (isDecimal 'x' (by simp)) (by decide)
    · exact absurd (isDecimal 'X' (by simp)) (by decide)
    · rw [number]
      rfl

theorem parseInt_of_isDecimal (isDecimal : IsDecimal text) (notEmpty : text ≠ []) :
    parseInt text 10 = some (Nat.ofDigitChars 10 text 0 : Int) :=
  parseInt_of_digits isDecimal
    (fun char member => (digitValue_of_isDigit (isDecimal char member)).2) notEmpty

theorem parseInt_toDigits (number : Nat) :
    parseInt (Nat.toDigits 10 number) 10 = some (number : Int) := by
  have isDecimal : IsDecimal (Nat.toDigits 10 number) := fun char member =>
    Nat.isDigit_of_mem_toDigits (by decide) (by decide) member
  rw [parseInt_of_isDecimal isDecimal (List.ne_nil_of_length_pos Nat.length_toDigits_pos),
    Nat.ofDigitChars_ten_toDigits]

/-- `padStart` with zeros. -/
def padStart (width : Nat) (text : List Char) : List Char :=
  List.replicate (width - text.length) '0' ++ text

theorem padStart_toDigits {number width : Nat} (fits : number < 10 ^ width) (wide : 0 < width) :
    let text := padStart width (Nat.toDigits 10 number)
    text.length = width ∧ IsDecimal text ∧ parseInt text 10 = some (number : Int) := by
  intro text
  have same : text = List.replicate (width - (Nat.toDigits 10 number).length) '0' ++
      Nat.toDigits 10 number := rfl
  have isDecimal : IsDecimal text := by
    intro char member
    rcases List.mem_append.mp member with zero | digit
    · rw [List.eq_of_mem_replicate zero]
      rfl
    · exact Nat.isDigit_of_mem_toDigits (by decide) (by decide) digit
  have short : (Nat.toDigits 10 number).length ≤ width :=
    (Nat.length_toDigits_le_iff (by decide) wide).mpr fits
  have length : text.length = width := by
    rw [same, List.length_append, List.length_replicate]
    omega
  have notEmpty : text ≠ [] := List.ne_nil_of_length_pos (by omega)
  refine ⟨length, isDecimal, ?_⟩
  rw [parseInt_of_isDecimal isDecimal notEmpty, same, Nat.ofDigitChars_append,
    Nat.ofDigitChars_replicate_zero, Nat.mul_zero, Nat.ofDigitChars_ten_toDigits]

/-! ## Hexadecimal numbers -/

def IsHexDigit (char : Char) : Prop := ∃ digit < 16, char = digit.digitChar

theorem digitChar_facts {digit : Nat} (small : digit < 16) :
    digitValue digit.digitChar = some digit ∧ isWhiteSpace digit.digitChar = false ∧
      digit.digitChar ∉ ['-', '+', 'x', 'X', ':'] := by
  decide +revert

theorem IsHexDigit.value (isHexDigit : IsHexDigit char) :
    ∃ digit < 16, digitValue char = some digit := by
  rcases isHexDigit with ⟨digit, small, rfl⟩
  exact ⟨digit, small, (digitChar_facts small).1⟩

theorem IsHexDigit.notMark (isHexDigit : IsHexDigit char) : char ∉ ['-', '+', 'x', 'X', ':'] := by
  rcases isHexDigit with ⟨digit, small, rfl⟩
  exact (digitChar_facts small).2.2

theorem leadingNumber_append {rest : List Char} (hexadecimal : ∀ char ∈ text, IsHexDigit char)
    (number : Option Nat) :
    leadingNumber 16 (text ++ rest) number =
      leadingNumber 16 rest (leadingNumber 16 text number) := by
  induction text generalizing number with
  | nil => rfl
  | cons char text induction =>
    rw [List.forall_mem_cons] at hexadecimal
    rcases hexadecimal.1.value with ⟨digit, small, value⟩
    rw [List.cons_append, leadingNumber, leadingNumber, value]
    simp only [small]
    exact induction hexadecimal.2 _

theorem leadingNumber_toDigits (number : Nat) :
    (∀ char ∈ Nat.toDigits 16 number, IsHexDigit char) ∧
      leadingNumber 16 (Nat.toDigits 16 number) none = some number := by
  induction number using Nat.strong_induction_on with
  | _ number induction =>
    rcases Nat.lt_or_ge number 16 with small | large
    · rw [Nat.toDigits_of_lt_base small]
      refine ⟨?_, by simp [leadingNumber, (digitChar_facts small).1, small]⟩
      intro char member
      exact ⟨number, small, List.mem_singleton.mp member⟩
    · rcases induction (number / 16) (by omega) with ⟨hexadecimal, front⟩
      have last : number % 16 < 16 := Nat.mod_lt _ (by decide)
      rw [Nat.toDigits_of_base_le (by decide) large]
      refine ⟨?_, ?_⟩
      · intro char member
        rcases List.mem_append.mp member with earlier | isLast
        · exact hexadecimal char earlier
        · exact ⟨_, last, List.mem_singleton.mp isLast⟩
      · rw [leadingNumber_append hexadecimal, front]
        simp [leadingNumber, (digitChar_facts last).1, last, Nat.div_add_mod']

theorem parseInt_toDigits_hex (number : Nat) :
    parseInt (Nat.toDigits 16 number) 16 = some (number : Int) := by
  rcases leadingNumber_toDigits number with ⟨hexadecimal, value⟩
  have noSpace : (Nat.toDigits 16 number).dropWhile isWhiteSpace = Nat.toDigits 16 number := by
    cases text : Nat.toDigits 16 number with
    | nil => rfl
    | cons char rest =>
      rcases hexadecimal char (by simp [text]) with ⟨digit, small, rfl⟩
      exact List.dropWhile_cons_of_neg (by rw [(digitChar_facts small).2.1]; nofun)
  have notMarked (mark : Char) (isMark : mark ∈ ['-', '+', 'x', 'X', ':']) :
      mark ∉ Nat.toDigits 16 number :=
    fun member => (hexadecimal mark member).notMark isMark
  rw [parseInt, noSpace]
  split
  · rename_i text
    exact absurd (text ▸ List.mem_cons_self) (notMarked '-' (by decide))
  · rename_i text
    exact absurd (text ▸ List.mem_cons_self) (notMarked '+' (by decide))
  · dsimp only
    split
    · rename_i text
      exact absurd (text ▸ List.mem_cons_of_mem _ List.mem_cons_self) (notMarked 'x' (by decide))
    · rename_i text
      exact absurd (text ▸ List.mem_cons_of_mem _ List.mem_cons_self) (notMarked 'X' (by decide))
    · rw [value]
      rfl

/-! ## Binary numerals -/

def IsBinary (text : List Char) : Prop := ∀ char ∈ text, char = '0' ∨ char = '1'

theorem parseInt_of_isBinary (isBinary : IsBinary text) (notEmpty : text ≠ []) :
    parseInt text 2 = some (Nat.ofDigitChars 2 text 0 : Int) := by
  apply parseInt_of_digits _ _ notEmpty
  · intro char member
    rcases isBinary char member with rfl | rfl <;> rfl
  · intro char member
    rcases isBinary char member with rfl | rfl <;> decide

theorem ofDigitChars_div (isBinary : IsBinary text) (front : Nat) :
    Nat.ofDigitChars 2 text front / 2 ^ text.length = front := by
  induction text generalizing front with
  | nil => simp
  | cons char text induction =>
    rcases List.forall_mem_cons.mp isBinary with ⟨isBit, others⟩
    have small : char.toNat - '0'.toNat < 2 := by
      rcases isBit with rfl | rfl <;> decide
    rw [Nat.ofDigitChars_cons, List.length_cons, Nat.pow_succ, ← Nat.div_div_eq_div_mul,
      induction others]
    omega

theorem IsBinary.ext {first second : List Char} (isFirst : IsBinary first)
    (isSecond : IsBinary second) (sameLength : first.length = second.length) {front back : Nat}
    (same : Nat.ofDigitChars 2 first front = Nat.ofDigitChars 2 second back) :
    first = second := by
  induction first generalizing second front back with
  | nil => exact (List.length_eq_zero_iff.mp sameLength.symm).symm
  | cons char first induction =>
    cases second with
    | nil => nomatch sameLength
    | cons other second =>
      rcases List.forall_mem_cons.mp isFirst with ⟨isChar, firstOthers⟩
      rcases List.forall_mem_cons.mp isSecond with ⟨isOther, secondOthers⟩
      have length := Nat.succ.inj sameLength
      rw [Nat.ofDigitChars_cons, Nat.ofDigitChars_cons] at same
      have heads := ofDigitChars_div firstOthers (2 * front + (char.toNat - '0'.toNat))
      rw [same, length, ofDigitChars_div secondOthers] at heads
      rw [induction firstOthers secondOthers length same]
      rcases isChar with rfl | rfl <;> rcases isOther with rfl | rfl <;>
        first | rfl | (simp at heads; omega)

theorem isBinary_toDigits (number : Nat) : IsBinary (Nat.toDigits 2 number) := by
  induction number using Nat.strong_induction_on with
  | _ number induction =>
    have bit (digit : Nat) (small : digit < 2) : IsBinary [digit.digitChar] := by
      intro char member
      rw [List.mem_singleton.mp member]
      interval_cases digit <;> simp [Nat.digitChar]
    rcases Nat.lt_or_ge number 2 with small | large
    · rw [Nat.toDigits_of_lt_base small]
      exact bit number small
    · rw [Nat.toDigits_of_base_le (by decide) large]
      intro char member
      rcases List.mem_append.mp member with earlier | last
      · exact induction (number / 2) (by omega) char earlier
      · exact bit _ (Nat.mod_lt _ (by decide)) char last

structure IsBits (text : List Char) (width number : Nat) : Prop where
  length : text.length = width
  isBinary : IsBinary text
  isNumber : Nat.ofDigitChars 2 text 0 = number

theorem padStart_isBits {number width : Nat} (fits : number < 2 ^ width) (wide : 0 < width) :
    IsBits (padStart width (Nat.toDigits 2 number)) width number := by
  have short : (Nat.toDigits 2 number).length ≤ width :=
    (Nat.length_toDigits_le_iff (by decide) wide).mpr fits
  constructor
  · rw [padStart, List.length_append, List.length_replicate]
    omega
  · intro char member
    rcases List.mem_append.mp member with zero | digit
    · exact Or.inl (List.eq_of_mem_replicate zero)
    · exact isBinary_toDigits number char digit
  · rw [padStart, Nat.ofDigitChars_append, Nat.ofDigitChars_replicate_zero, Nat.mul_zero,
      Nat.ofDigitChars_toDigits (by decide) (by decide)]

theorem padStart_ofDigitChars (isBinary : IsBinary text) (wide : text ≠ []) :
    padStart text.length (Nat.toDigits 2 (Nat.ofDigitChars 2 text 0)) = text := by
  have fits : Nat.ofDigitChars 2 text 0 < 2 ^ text.length :=
    (Nat.div_eq_zero_iff_lt (Nat.two_pow_pos _)).mp (ofDigitChars_div isBinary 0)
  have bits := padStart_isBits fits (List.length_pos_iff.mpr wide)
  exact bits.isBinary.ext isBinary bits.length bits.isNumber

end MatterJs.General
