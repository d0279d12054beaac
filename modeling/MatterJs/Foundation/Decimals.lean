import Mathlib.Data.Nat.Digits.Lemmas

namespace MatterJs

/-! Decimal numbers, the texts that `Number::toString` writes for them, and reading such texts
by the grammar of JSON. -/

/-- The number is written with its fewest digits. Zero has no sign. -/
structure Decimal where
  negative : Bool
  mantissa : Nat
  exponent : Int
  canonical : if mantissa = 0 then negative = false ∧ exponent = 0 else mantissa % 10 ≠ 0
  deriving DecidableEq

namespace Decimal

/-- The number without the zeros at the end of its mantissa. -/
def normalize (negative : Bool) (mantissa : Nat) (exponent : Int) : Decimal :=
  if isZero : mantissa = 0 then
    { negative := false
      mantissa := 0
      exponent := 0
      canonical := by rw [if_pos rfl]; exact ⟨rfl, rfl⟩ }
  else if more : mantissa % 10 = 0 then normalize negative (mantissa / 10) (exponent + 1)
  else
    { negative, mantissa, exponent
      canonical := by rw [if_neg isZero]; exact more }
termination_by mantissa
decreasing_by omega

variable (number : Decimal)

/-- The number times -1. Zero stays the same. -/
def neg : Decimal :=
  normalize (!number.negative) number.mantissa number.exponent

def abs : Decimal :=
  { number with
    negative := false
    canonical := by
      have canonical := number.canonical
      split at canonical
      · rename_i isZero
        rw [if_pos isZero]
        exact ⟨rfl, canonical.2⟩
      · rename_i notZero
        rwa [if_neg notZero] }

/-- The digits behind the point, with it. -/
def fractionText : List Char → List Char
  | [] => []
  | digits => '.' :: digits

def digits : List Char := Nat.toDigits 10 number.mantissa

def point : Int := number.digits.length + number.exponent

def unsignedText : List Char :=
  let digits := number.digits
  let point := number.point
  if digits.length ≤ point ∧ point ≤ 21 then
    digits ++ List.replicate number.exponent.toNat '0'
  else if 0 < point ∧ point ≤ 21 then
    digits.take point.toNat ++ fractionText (digits.drop point.toNat)
  else if -6 < point ∧ point ≤ 0 then
    '0' :: fractionText (List.replicate (-point).toNat '0' ++ digits)
  else
    digits.take 1 ++ (fractionText (digits.drop 1) ++
      'e' :: (if point < 0 then '-' else '+') :: Nat.toDigits 10 (point - 1).natAbs)

/-- `Number::toString` -/
def text : List Char :=
  if number.negative then '-' :: number.unsignedText else number.unsignedText

def parseSign : List Char → Bool × List Char
  | '-' :: text => (true, text)
  | text => (false, text)

/-- The digits before the point: there is one, and no zero in front of others. -/
def parseInteger (text : List Char) : Option (List Char × List Char) :=
  match text.span Char.isDigit with
  | ([], _) => none
  | ('0' :: _ :: _, _) => none
  | (digits, rest) => some (digits, rest)

def parseFraction : List Char → Option (List Char × List Char)
  | '.' :: text =>
    match text.span Char.isDigit with
    | ([], _) => none
    | (digits, rest) => some (digits, rest)
  | text => some ([], text)

def parseExponent : List Char → Option Int
  | [] => some 0
  | mark :: text =>
    if mark = 'e' ∨ mark = 'E' then
      match text with
      | '-' :: digits => (exponentDigits digits).map fun exponent => -exponent
      | '+' :: digits => exponentDigits digits
      | digits => exponentDigits digits
    else none
where
  exponentDigits (digits : List Char) : Option Int :=
    if digits ≠ [] ∧ digits.all Char.isDigit then some (Nat.ofDigitChars 10 digits 0 : Int)
    else none

/-- The number of a text that is nothing else. A number that a double cannot hold stays exact
here. -/
def parse (text : List Char) : Option Decimal := do
  let (negative, text) := parseSign text
  let (integer, text) ← parseInteger text
  let (fraction, text) ← parseFraction text
  let exponent ← parseExponent text
  return normalize negative (Nat.ofDigitChars 10 (integer ++ fraction) 0)
    (exponent - fraction.length)

/-! ## What is written is read back -/

theorem normalize_zero (negative : Bool) (exponent : Int) :
    normalize negative 0 exponent = normalize false 0 0 := by
  rw [normalize, dif_pos rfl, normalize, dif_pos rfl]

theorem normalize_mul_pow (negative : Bool) (mantissa zeros : Nat) (exponent : Int) :
    normalize negative (mantissa * 10 ^ zeros) exponent =
      normalize negative mantissa (exponent + zeros) := by
  rcases Nat.eq_zero_or_pos mantissa with rfl | positive
  · rw [Nat.zero_mul, normalize_zero, normalize_zero negative (exponent + zeros)]
  · induction zeros generalizing exponent with
    | zero => simp
    | succ zeros induction =>
      have more : mantissa * 10 ^ (zeros + 1) = mantissa * 10 ^ zeros * 10 := by
        rw [pow_succ, Nat.mul_assoc]
      have notZero : mantissa * 10 ^ (zeros + 1) ≠ 0 := by positivity
      have divides : mantissa * 10 ^ (zeros + 1) % 10 = 0 := by
        rw [more, Nat.mul_mod_left]
      rw [normalize, dif_neg notZero, dif_pos divides, more, Nat.mul_div_cancel _ (by decide),
        induction]
      congr 1
      omega

theorem normalize_self : normalize number.negative number.mantissa number.exponent = number := by
  rcases number with ⟨negative, mantissa, exponent, canonical⟩
  by_cases isZero : mantissa = 0
  · subst isZero
    rcases canonical with ⟨rfl, rfl⟩
    rw [normalize, dif_pos rfl]
  · have lastDigit : mantissa % 10 ≠ 0 := by rwa [if_neg isZero] at canonical
    rw [normalize, dif_neg isZero, dif_neg lastDigit]

theorem normalize_not_negative (mantissa : Nat) (exponent : Int) :
    (normalize false mantissa exponent).negative = false := by
  induction mantissa using Nat.strongRecOn generalizing exponent with
  | _ mantissa induction =>
    rw [normalize]
    split
    · rfl
    · split
      · exact induction _ (by omega) _
      · rfl

theorem neg_abs {number : Decimal} (negative : number.negative = true) :
    number.abs.neg = number := by
  refine Eq.trans ?_ (normalize_self number)
  rw [negative]
  rfl

theorem abs_of_not_negative {number : Decimal} (notNegative : number.negative = false) :
    number.abs = number := by
  rcases number with ⟨negative, mantissa, exponent, canonical⟩
  cases notNegative
  rfl

theorem text_eq_abs : number.text = (if number.negative then ['-'] else []) ++ number.abs.text := by
  rw [text]
  split <;> rfl

def IsDigits (text : List Char) : Prop := ∀ char ∈ text, char.isDigit = true

theorem isDigits_toDigits (number : Nat) : IsDigits (Nat.toDigits 10 number) := fun _ member =>
  Nat.isDigit_of_mem_toDigits (by decide) (by decide) member

theorem toDigits_head (number : Nat) (positive : 0 < number) :
    (Nat.toDigits 10 number).head? ≠ some '0' := by
  induction number using Nat.strongRecOn with
  | _ number induction =>
    by_cases small : number < 10
    · rw [Nat.toDigits_of_lt_base small]
      interval_cases number <;> decide
    · rw [Nat.toDigits_of_base_le (by decide) (by omega)]
      have fromFront := induction (number / 10) (by omega) (by omega)
      cases digits : Nat.toDigits 10 (number / 10) with
      | nil => exact absurd digits Nat.toDigits_ne_nil
      | cons digit digits =>
        rw [digits] at fromFront
        exact fromFront

def NoDigitNext (rest : List Char) : Prop := ∀ char ∈ rest.head?, char.isDigit = false

theorem span_isDigits {digits rest : List Char} (isDigits : IsDigits digits)
    (ends : NoDigitNext rest) : (digits ++ rest).span Char.isDigit = (digits, rest) := by
  rw [List.span_eq_takeWhile_dropWhile, List.takeWhile_append_of_pos isDigits,
    List.dropWhile_append_of_pos isDigits]
  cases rest with
  | nil => simp
  | cons char rest =>
    have notDigit : char.isDigit = false := ends char rfl
    simp [notDigit]

structure IsInteger (digits : List Char) : Prop where
  isDigits : IsDigits digits
  notEmpty : digits ≠ []
  noLeadingZero : digits.head? = some '0' → digits = ['0']

theorem parseInteger_append {digits rest : List Char} (isInteger : IsInteger digits)
    (ends : NoDigitNext rest) : parseInteger (digits ++ rest) = some (digits, rest) := by
  rw [parseInteger, span_isDigits isInteger.isDigits ends]
  split
  · rename_i same
    exact absurd (Prod.mk.inj same).1 isInteger.notEmpty
  · rename_i digit digits others same
    have isCons := (Prod.mk.inj same).1
    have zero := isInteger.noLeadingZero (by rw [isCons]; rfl)
    rw [zero] at isCons
    cases isCons
  · rename_i same
    cases same
    rfl

/-- What follows the digits is neither one of them nor a point. -/
structure EndsDigits (rest : List Char) : Prop where
  noDigit : NoDigitNext rest
  noPoint : rest.head? ≠ some '.'

theorem parseFraction_append {digits rest : List Char} (isDigits : IsDigits digits)
    (ends : EndsDigits rest) :
    parseFraction (fractionText digits ++ rest) = some (digits, rest) := by
  cases digits with
  | nil =>
    rw [fractionText, List.nil_append, parseFraction.eq_def]
    split
    · exact absurd rfl ends.noPoint
    · rfl
  | cons digit digits =>
    show (match (digit :: digits ++ rest).span Char.isDigit with
      | ([], _) => none
      | (digits, rest) => some (digits, rest)) = some (digit :: digits, rest)
    rw [span_isDigits isDigits ends.noDigit]

theorem noDigitNext_fractionText {digits rest : List Char} (ends : EndsDigits rest) :
    NoDigitNext (fractionText digits ++ rest) := by
  cases digits with
  | nil => exact ends.noDigit
  | cons digit digits =>
    intro char isNext
    cases isNext
    rfl

theorem parse_parts (negative : Bool) {integer fraction rest : List Char} {exponent : Int}
    (isInteger : IsInteger integer) (isFraction : IsDigits fraction) (ends : EndsDigits rest)
    (exponentRead : parseExponent rest = some exponent) :
    parse ((if negative then ['-'] else []) ++ (integer ++ (fractionText fraction ++ rest))) =
      some (normalize negative (Nat.ofDigitChars 10 (integer ++ fraction) 0)
        (exponent - fraction.length)) := by
  have signRead : parseSign ((if negative then ['-'] else []) ++
      (integer ++ (fractionText fraction ++ rest))) =
        (negative, integer ++ (fractionText fraction ++ rest)) := by
    cases negative with
    | true => rfl
    | false =>
      cases digits : integer with
      | nil => exact absurd digits isInteger.notEmpty
      | cons digit others =>
        have isDigit := isInteger.isDigits digit (by rw [digits]; exact List.mem_cons_self)
        rw [parseSign.eq_def]
        split
        · rename_i same
          cases same
          cases isDigit
        · rfl
  rw [parse, signRead]
  dsimp only
  rw [parseInteger_append isInteger (noDigitNext_fractionText ends)]
  simp only [Option.bind_eq_bind, Option.bind_some]
  rw [parseFraction_append isFraction ends]
  simp only [Option.bind_some]
  rw [exponentRead]
  rfl

theorem IsDigits.append {first second : List Char} (isFirst : IsDigits first)
    (isSecond : IsDigits second) : IsDigits (first ++ second) :=
  List.forall_mem_append.mpr ⟨isFirst, isSecond⟩

theorem isDigits_zeros (count : Nat) : IsDigits (List.replicate count '0') := by
  intro char member
  rw [List.eq_of_mem_replicate member]
  rfl

theorem endsDigits_nil : EndsDigits [] := ⟨nofun, nofun⟩

theorem exponentDigits_toDigits (number : Nat) :
    parseExponent.exponentDigits (Nat.toDigits 10 number) = some (number : Int) := by
  have all : (Nat.toDigits 10 number).all Char.isDigit = true :=
    List.all_eq_true.mpr (isDigits_toDigits number)
  rw [parseExponent.exponentDigits, if_pos ⟨Nat.toDigits_ne_nil, all⟩,
    Nat.ofDigitChars_ten_toDigits]

theorem parseExponent_text {point : Int} (large : point ≤ -6 ∨ 21 < point) :
    parseExponent ('e' :: (if point < 0 then '-' else '+') ::
      Nat.toDigits 10 (point - 1).natAbs) = some (point - 1) := by
  have number := exponentDigits_toDigits (point - 1).natAbs
  by_cases below : point < 0
  · rw [if_pos below]
    show (parseExponent.exponentDigits _).map _ = _
    rw [number]
    show some (-((point - 1).natAbs : Int)) = _
    congr 1
    omega
  · rw [if_neg below]
    show parseExponent.exponentDigits _ = _
    rw [number]
    congr 1
    omega

theorem isInteger_zero : IsInteger ['0'] :=
  ⟨List.forall_mem_singleton.mpr rfl, List.cons_ne_nil _ _, fun _ => rfl⟩

section Text

variable {number : Decimal}

theorem isDigits_digits : IsDigits number.digits := isDigits_toDigits number.mantissa

theorem ofDigitChars_digits : Nat.ofDigitChars 10 number.digits 0 = number.mantissa :=
  Nat.ofDigitChars_ten_toDigits

theorem isInteger_of_head (positive : 0 < number.mantissa) {front : List Char}
    (isDigits : IsDigits front) (sameHead : front.head? = number.digits.head?) :
    IsInteger front := by
  have noZero : front.head? ≠ some '0' := sameHead ▸ toDigits_head number.mantissa positive
  refine ⟨isDigits, ?_, fun zero => absurd zero noZero⟩
  rintro rfl
  exact Nat.toDigits_ne_nil (List.head?_eq_none_iff.mp sameHead.symm)

structure InParts (number : Decimal) (integer fraction rest : List Char) (exponent : Int) :
    Prop where
  isText : number.unsignedText = integer ++ (fractionText fraction ++ rest)
  isInteger : IsInteger integer
  isFraction : IsDigits fraction
  isNumber : normalize number.negative (Nat.ofDigitChars 10 (integer ++ fraction) 0)
    (exponent - fraction.length) = number

theorem parse_text_of_parts {integer fraction rest : List Char} {exponent : Int}
    (inParts : InParts number integer fraction rest exponent) (ends : EndsDigits rest)
    (exponentRead : parseExponent rest = some exponent) : parse number.text = some number := by
  have isText : number.text = (if number.negative then ['-'] else []) ++
      (integer ++ (fractionText fraction ++ rest)) := by
    rw [text, inParts.isText]
    split <;> rfl
  rw [isText, parse_parts number.negative inParts.isInteger inParts.isFraction ends exponentRead,
    inParts.isNumber]

theorem inParts_of_zero (isZero : number.mantissa = 0) : InParts number ['0'] [] [] 0 := by
  have noExponent : number.exponent = 0 := by
    have canonical := number.canonical
    rw [if_pos isZero] at canonical
    exact canonical.2
  refine ⟨?_, isInteger_zero, List.forall_mem_nil _, ?_⟩
  · rw [unsignedText, point, digits, isZero, noExponent]
    rfl
  · refine Eq.trans ?_ (normalize_self number)
    rw [isZero, noExponent]
    rfl

theorem inParts_of_whole (positive : 0 < number.mantissa)
    (whole : number.digits.length ≤ number.point ∧ number.point ≤ 21) :
    InParts number (number.digits ++ List.replicate number.exponent.toNat '0') [] [] 0 := by
  refine ⟨?_, ?_, List.forall_mem_nil _, ?_⟩
  · rw [unsignedText, if_pos whole]
    exact (List.append_nil _).symm
  · apply isInteger_of_head positive (isDigits_digits.append (isDigits_zeros _))
    exact List.head?_append_of_ne_nil _ Nat.toDigits_ne_nil
  · have exponentIs : (0 : Int) - ([] : List Char).length + number.exponent.toNat =
        number.exponent := by
      rw [point] at whole
      simp
      omega
    rw [List.append_nil, Nat.ofDigitChars_append, ofDigitChars_digits,
      Nat.ofDigitChars_replicate_zero, Nat.mul_comm, normalize_mul_pow, exponentIs, normalize_self]

theorem inParts_of_inside (positive : 0 < number.mantissa)
    (notWhole : ¬(number.digits.length ≤ number.point ∧ number.point ≤ 21))
    (inside : 0 < number.point ∧ number.point ≤ 21) :
    InParts number (number.digits.take number.point.toNat)
      (number.digits.drop number.point.toNat) [] 0 := by
  refine ⟨?_, ?_, fun char member => isDigits_digits char (List.mem_of_mem_drop member), ?_⟩
  · rw [unsignedText, if_neg notWhole, if_pos inside, List.append_nil]
  · apply isInteger_of_head positive
    · exact fun char member => isDigits_digits char (List.mem_of_mem_take member)
    · rw [List.head?_take, if_neg (by omega)]
  · have exponentIs : (0 : Int) - (number.digits.drop number.point.toNat).length =
        number.exponent := by
      rw [List.length_drop]
      rw [point] at *
      omega
    rw [List.take_append_drop, ofDigitChars_digits, exponentIs, normalize_self]

theorem inParts_of_small (notWhole : ¬(number.digits.length ≤ number.point ∧ number.point ≤ 21))
    (notInside : ¬(0 < number.point ∧ number.point ≤ 21))
    (small : -6 < number.point ∧ number.point ≤ 0) :
    InParts number ['0'] (List.replicate (-number.point).toNat '0' ++ number.digits) [] 0 := by
  refine ⟨?_, isInteger_zero, (isDigits_zeros _).append isDigits_digits, ?_⟩
  · rw [unsignedText, if_neg notWhole, if_neg notInside, if_pos small, List.append_nil]
    rfl
  · have exponentIs : (0 : Int) -
        (List.replicate (-number.point).toNat '0' ++ number.digits).length = number.exponent := by
      rw [List.length_append, List.length_replicate]
      rw [point] at *
      omega
    have value : Nat.ofDigitChars 10
        (['0'] ++ (List.replicate (-number.point).toNat '0' ++ number.digits)) 0 =
          number.mantissa := by
      rw [Nat.ofDigitChars_append, Nat.ofDigitChars_append, Nat.ofDigitChars_replicate_zero]
      exact ofDigitChars_digits
    rw [value, exponentIs, normalize_self]

/-- A text without an exponent -/
theorem exists_inParts (plain : number.mantissa = 0 ∨ -6 < number.point ∧ number.point ≤ 21) :
    ∃ integer fraction, InParts number integer fraction [] 0 := by
  rcases Nat.eq_zero_or_pos number.mantissa with isZero | positive
  · exact ⟨_, _, inParts_of_zero isZero⟩
  · have bounds := plain.resolve_left (by omega)
    by_cases whole : number.digits.length ≤ number.point ∧ number.point ≤ 21
    · exact ⟨_, _, inParts_of_whole positive whole⟩
    · by_cases inside : 0 < number.point ∧ number.point ≤ 21
      · exact ⟨_, _, inParts_of_inside positive whole inside⟩
      · exact ⟨_, _, inParts_of_small whole inside (by omega)⟩

theorem parse_text_of_exponent (positive : 0 < number.mantissa)
    (large : number.point ≤ -6 ∨ 21 < number.point)
    (isExponent : number.unsignedText = number.digits.take 1 ++
      (fractionText (number.digits.drop 1) ++ 'e' :: (if number.point < 0 then '-' else '+') ::
        Nat.toDigits 10 (number.point - 1).natAbs)) : parse number.text = some number := by
  have notEmpty : 0 < number.digits.length := Nat.length_toDigits_pos
  have isInteger : IsInteger (number.digits.take 1) := by
    apply isInteger_of_head positive
    · exact fun char member => isDigits_digits char (List.mem_of_mem_take member)
    · rw [List.head?_take, if_neg Nat.one_ne_zero]
  have isFraction : IsDigits (number.digits.drop 1) := fun char member =>
    isDigits_digits char (List.mem_of_mem_drop member)
  have ends : EndsDigits ('e' :: (if number.point < 0 then '-' else '+') ::
      Nat.toDigits 10 (number.point - 1).natAbs) := by
    refine ⟨fun char isNext => ?_, by simp⟩
    cases isNext
    rfl
  have exponentIs : number.point - 1 - (number.digits.drop 1).length = number.exponent := by
    rw [List.length_drop]
    rw [point] at *
    omega
  refine parse_text_of_parts ⟨isExponent, isInteger, isFraction, ?_⟩ ends (parseExponent_text large)
  rw [List.take_append_drop, ofDigitChars_digits, exponentIs, normalize_self]

theorem parse_text (number : Decimal) : parse number.text = some number := by
  by_cases plain : number.mantissa = 0 ∨ -6 < number.point ∧ number.point ≤ 21
  · rcases exists_inParts plain with ⟨integer, fraction, inParts⟩
    exact parse_text_of_parts inParts endsDigits_nil rfl
  · rw [not_or] at plain
    apply parse_text_of_exponent (by omega) (by omega)
    rw [unsignedText, if_neg (by omega), if_neg (by omega), if_neg (by omega)]

theorem mem_fractionText {digits : List Char} {char : Char}
    (member : char ∈ fractionText digits) : char = '.' ∨ char ∈ digits := by
  cases digits with
  | nil => cases member
  | cons digit digits => exact List.mem_cons.mp member

theorem text_chars {char : Char} (member : char ∈ number.text) :
    char.isDigit = true ∨ char ∈ ['-', '+', '.', 'e'] := by
  have unsigned {char : Char} (member : char ∈ number.unsignedText) :
      char.isDigit = true ∨ char ∈ ['-', '+', '.', 'e'] := by
    have inDigits {part : List Char} (isPart : part ⊆ number.digits) (char : Char)
        (member : char ∈ part) : char.isDigit = true := isDigits_digits char (isPart member)
    rw [unsignedText] at member
    split_ifs at member
    · exact .inl (isDigits_digits.append (isDigits_zeros _) char member)
    · rcases List.mem_append.mp member with front | behind
      · exact .inl (inDigits (List.take_subset _ _) char front)
      · rcases mem_fractionText behind with rfl | fraction
        · exact .inr (by decide)
        · exact .inl (inDigits (List.drop_subset _ _) char fraction)
    · rcases List.mem_cons.mp member with rfl | behind
      · exact .inl rfl
      · rcases mem_fractionText behind with rfl | fraction
        · exact .inr (by decide)
        · exact .inl ((isDigits_zeros _).append isDigits_digits char fraction)
    all_goals
      rcases List.mem_append.mp member with front | behind
      · exact .inl (inDigits (List.take_subset _ _) char front)
      · rcases List.mem_append.mp behind with point | exponent
        · rcases mem_fractionText point with rfl | fraction
          · exact .inr (by decide)
          · exact .inl (inDigits (List.drop_subset _ _) char fraction)
        · rcases List.mem_cons.mp exponent with rfl | signed
          · exact .inr (by decide)
          · rcases List.mem_cons.mp signed with rfl | digit
            · exact .inr (by decide)
            · exact .inl (isDigits_toDigits _ char digit)
  rw [text] at member
  split_ifs at member
  · rcases List.mem_cons.mp member with rfl | behind
    · exact .inr (by decide)
    · exact unsigned behind
  · exact unsigned member

end Text

theorem head_of_parse {text : List Char} {number : Decimal} (isNumber : parse text = some number) :
    ∃ char rest, text = char :: rest ∧ (char.isDigit = true ∨ char = '-') := by
  cases text with
  | nil => cases isNumber
  | cons char rest =>
    refine ⟨char, rest, rfl, ?_⟩
    by_cases isSign : char = '-'
    · exact .inr isSign
    · by_cases isDigit : char.isDigit = true
      · exact .inl isDigit
      · have noSign : parseSign (char :: rest) = (false, char :: rest) := by
          rw [parseSign.eq_def]
          split
          · rename_i same
            cases same
            exact absurd rfl isSign
          · rfl
        have noInteger : parseInteger (char :: rest) = none := by
          rw [parseInteger, List.span_eq_takeWhile_dropWhile, List.takeWhile_cons_of_neg isDigit]
        rw [parse, noSign] at isNumber
        dsimp only at isNumber
        rw [noInteger] at isNumber
        cases isNumber

end Decimal

end MatterJs
