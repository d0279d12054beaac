import MatterJs.Model.ConformanceParser

/-! How tokens are written, and how the lexer reads them back. -/

namespace MatterJs.Model.Conformance

def FieldValue.serialize : FieldValue → List Char
  | null => "null".toList
  | celsius value => value.text ++ "°C".toList
  | percent value => value.text ++ "%".toList
  | number value => value.text

/-- How a token is written, with the spaces around an operator and behind a comma -/
def Token.spell : Token → List Char
  | word text => text.toList
  | value literal => literal.serialize
  | symbol (.binary operator) => ' ' :: operator.text.toList ++ [' ']
  | symbol .comma => [',', ' ']
  | symbol sign => sign.text.toList

def NoExponent (number : Decimal) : Prop :=
  number.mantissa = 0 ∨ -6 < number.point ∧ number.point ≤ 21

instance (number : Decimal) : Decidable (NoExponent number) :=
  inferInstanceAs (Decidable (_ ∨ _))

def IsWord (text : List Char) : Prop :=
  ∃ first rest, text = first :: rest ∧ first.isDigit = false ∧
    ∀ char ∈ text, Lexer.isNameChar char = true

/-- Whether a point behind a literal is none of its own -/
def endsBeforePoint : FieldValue → Bool
  | .number number => number.exponent < 0
  | _ => true

def Delimits : Token → List Char → Prop
  | .word _, rest => ∀ char ∈ rest.head?, Lexer.isNameChar char = false
  | .value value, rest => ∀ char ∈ rest.head?, Lexer.isNameChar char = false ∧ char ≠ '%' ∧
      char ≠ '°' ∧ (char = '.' → endsBeforePoint value = true)
  | .symbol .not, rest => rest.head? ≠ some '='
  | .symbol _, _ => True

namespace Lexer

theorem lex_step (tokens : List Token) {current last : Char} {text rest : List Char}
    (stepped : step current (current :: text) = ⟨tokens, [], last :: rest⟩) :
    lex (current :: text) = (tokens ++ (lex rest).1, (lex rest).2) := by
  rw [lex, stepped]
  rfl

theorem lex_space (rest : List Char) : lex (' ' :: rest) = lex rest :=
  lex_step [] rfl

theorem nameChars_append {rest : List Char}
    (ends : ∀ char ∈ rest.head?, isNameChar char = false) (chars : List Char) (first : Char)
    (names : ∀ char ∈ chars, isNameChar char = true) :
    ∃ last, nameChars (first :: (chars ++ rest)) = (first :: chars, last :: rest) := by
  induction chars generalizing first with
  | nil =>
    cases rest with
    | nil => exact ⟨first, rfl⟩
    | cons next rest =>
      refine ⟨first, ?_⟩
      rw [List.nil_append, nameChars, if_neg (by simp [ends next rfl])]
  | cons char chars induction =>
    rcases List.forall_mem_cons.mp names with ⟨name, names⟩
    rcases induction char names with ⟨last, read⟩
    refine ⟨last, ?_⟩
    rw [List.cons_append, nameChars, if_pos name, read]

/-- A character that begins a word begins nothing else. -/
theorem step_word {first : Char} (isName : isNameChar first = true)
    (notDigit : first.isDigit = false) (text : List Char) :
    step first text = tokenizeName text := by
  have other (char : Char) (noName : isNameChar char = false) : first ≠ char := by
    rintro rfl
    exact absurd (isName.symm.trans noName) nofun
  have noSymbol : simpleSymbol first = none := by
    unfold simpleSymbol
    split <;> first | rfl | exact absurd rfl (other _ rfl)
  have noComparison : comparisonSymbol first = none := by
    unfold comparisonSymbol
    split <;> first | rfl | exact absurd rfl (other _ rfl)
  have noZero : first ≠ '0' := by
    rintro rfl
    cases notDigit
  have noNumber : ¬('1' ≤ first ∧ first ≤ '9') := by
    intro digit
    have isDigit : first.isDigit = true := by
      rw [Char.isDigit, Bool.and_eq_true, decide_eq_true_iff, decide_eq_true_iff]
      exact ⟨UInt32.le_trans (by decide) digit.1, digit.2⟩
    exact absurd (isDigit.symm.trans notDigit) nofun
  have noSpace : isSpace first = false := by
    simp [isSpace, other '\n' rfl, other ' ' rfl, other '\t' rfl, other '\r' rfl,
      other '\x0b' rfl, other '\x0c' rfl]
  rw [step, noSymbol]
  rw [if_neg noZero, if_neg noNumber, noComparison]
  rw [if_neg (other '=' rfl), if_neg (by simp [noSpace]), if_pos isName]

theorem lex_word {word : String} (isWord : IsWord word.toList) {rest : List Char}
    (delimits : Delimits (.word word) rest) :
    lex ((Token.word word).spell ++ rest) = (.word word :: (lex rest).1, (lex rest).2) := by
  rcases isWord with ⟨first, chars, isText, notDigit, names⟩
  rw [isText] at names
  rcases List.forall_mem_cons.mp names with ⟨isName, names⟩
  rcases nameChars_append delimits chars first names with ⟨last, read⟩
  have stepped : step first (first :: (chars ++ rest)) = ⟨[.word word], [], last :: rest⟩ := by
    rw [step_word isName notDigit, tokenizeName, read]
    dsimp only
    rw [← isText, String.ofList_toList]
    rfl
  rw [Token.spell, isText]
  exact lex_step _ stepped

theorem decimalValueOf_of_isDigit {char : Char} (isDigit : char.isDigit = true) :
    decimalValueOf char = some (char.toNat - '0'.toNat) := by
  rw [Char.isDigit, Bool.and_eq_true, decide_eq_true_iff, decide_eq_true_iff] at isDigit
  exact if_pos isDigit

theorem decimalValueOf_of_not_isDigit {char : Char} (notDigit : char.isDigit = false) :
    decimalValueOf char = none := by
  refine if_neg fun digit => ?_
  have isDigit : char.isDigit = true := by
    rw [Char.isDigit, Bool.and_eq_true, decide_eq_true_iff, decide_eq_true_iff]
    exact digit
  exact absurd (isDigit.symm.trans notDigit) nofun

theorem moreDigits_append {digits rest : List Char} (isDigits : Decimal.IsDigits digits)
    (ends : Decimal.NoDigitNext rest) (first : Char) (num : Nat) :
    ∃ last, moreDigits 10 decimalValueOf num (first :: (digits ++ rest)) =
      (Nat.ofDigitChars 10 digits num, last :: rest) := by
  induction digits generalizing first num with
  | nil =>
    cases rest with
    | nil => exact ⟨first, rfl⟩
    | cons next rest =>
      refine ⟨first, ?_⟩
      rw [List.nil_append, moreDigits, decimalValueOf_of_not_isDigit (ends next rfl)]
      rfl
  | cons digit digits induction =>
    rcases List.forall_mem_cons.mp isDigits with ⟨isDigit, isDigits⟩
    rcases induction isDigits digit (num * 10 + (digit.toNat - '0'.toNat)) with ⟨last, read⟩
    refine ⟨last, ?_⟩
    rw [List.cons_append, moreDigits, decimalValueOf_of_isDigit isDigit, Nat.ofDigitChars_cons,
      Nat.mul_comm 10 num]
    exact read

theorem fractionDigits_append {digits rest : List Char} (isDigits : Decimal.IsDigits digits)
    (ends : Decimal.NoDigitNext rest) (first : Char) :
    ∃ last, fractionDigits (first :: (digits ++ rest)) = (digits, last :: rest) := by
  induction digits generalizing first with
  | nil =>
    cases rest with
    | nil => exact ⟨first, rfl⟩
    | cons next rest =>
      refine ⟨first, ?_⟩
      rw [List.nil_append, fractionDigits, decimalValueOf_of_not_isDigit (ends next rfl)]
  | cons digit digits induction =>
    rcases List.forall_mem_cons.mp isDigits with ⟨isDigit, isDigits⟩
    rcases induction isDigits digit with ⟨last, read⟩
    refine ⟨last, ?_⟩
    rw [List.cons_append, fractionDigits, decimalValueOf_of_isDigit isDigit, read]

theorem withFraction_append {fraction rest : List Char} (isDigits : Decimal.IsDigits fraction)
    (ends : Decimal.NoDigitNext rest) (noPoint : fraction = [] → rest.head? ≠ some '.')
    (current : Char) (num : Nat) :
    ∃ last, withFraction 10 num (current :: (Decimal.fractionText fraction ++ rest)) =
      (.normalize false (Nat.ofDigitChars 10 fraction num) (-fraction.length), last :: rest) := by
  cases fraction with
  | nil =>
    refine ⟨current, ?_⟩
    have point := noPoint rfl
    unfold withFraction
    split
    · rename_i equal
      cases equal
      exact absurd rfl point
    · rfl
  | cons digit digits =>
    rcases fractionDigits_append isDigits ends '.' with ⟨last, read⟩
    refine ⟨last, ?_⟩
    change withFraction 10 num (current :: '.' :: (digit :: digits ++ rest)) = _
    rw [withFraction, if_pos rfl, read]

theorem zero_or_digit {char : Char} (isDigit : char.isDigit = true) :
    char = '0' ∨ '1' ≤ char ∧ char ≤ '9' := by
  rw [Char.isDigit, Bool.and_eq_true, decide_eq_true_iff, decide_eq_true_iff] at isDigit
  by_cases isZero : char = '0'
  · exact .inl isZero
  · refine .inr ⟨?_, isDigit.2⟩
    have notZero : char.val ≠ 48 := fun equal => isZero (Char.ext equal)
    have lower : 48 ≤ char.val.toNat := isDigit.1
    have different : char.val.toNat ≠ 48 := fun equal => notZero (UInt32.toNat.inj equal)
    change 49 ≤ char.val.toNat
    omega

theorem step_digit {first : Char} (isDigit : first.isDigit = true) {text : List Char}
    (zero : first = '0' → ∀ char ∈ text.head?, isNameChar char = false) :
    step first (first :: text) = tokenizeDigits 10 decimalValueOf (first :: text) := by
  have other (char : Char) (noDigit : char.isDigit = false) : first ≠ char := by
    rintro rfl
    exact absurd (isDigit.symm.trans noDigit) nofun
  have noSymbol : simpleSymbol first = none := by
    unfold simpleSymbol
    split <;> first | rfl | exact absurd rfl (other _ rfl)
  rw [step, noSymbol]
  by_cases isZero : first = '0'
  · subst isZero
    rw [if_pos rfl, tokenizeZero]
    · intro rest equal
      cases equal
      exact nomatch zero rfl 'x' rfl
    · intro rest equal
      cases equal
      exact nomatch zero rfl 'b' rfl
  · rw [if_neg isZero, if_pos ((zero_or_digit isDigit).resolve_left isZero)]

theorem noDigitNext_of_noName {text : List Char}
    (ends : ∀ char ∈ text.head?, isNameChar char = false) : Decimal.NoDigitNext text := by
  intro char next
  cases isDigit : char.isDigit with
  | false => rfl
  | true =>
    have notName := ends char next
    rw [Char.isDigit, Bool.and_eq_true, decide_eq_true_iff, decide_eq_true_iff] at isDigit
    have isName : isNameChar char = true := by
      simp only [isNameChar, Bool.or_eq_true, Bool.and_eq_true, decide_eq_true_iff]
      exact .inl (.inr isDigit)
    exact absurd (isName.symm.trans notName) nofun

theorem lex_parts {integer fraction after rest : List Char} {value : FieldValue}
    (isInteger : Decimal.IsInteger integer) (isFraction : Decimal.IsDigits fraction)
    (noDigit : Decimal.NoDigitNext after)
    (zero : integer = ['0'] → ∀ char ∈ (Decimal.fractionText fraction ++ after).head?,
      isNameChar char = false)
    (noPoint : fraction = [] → after.head? ≠ some '.')
    (suffix : ∀ current, ∃ last,
      withSuffix (.normalize false (Nat.ofDigitChars 10 (integer ++ fraction) 0)
        (-fraction.length)) (current :: after) = (value, last :: rest)) :
    lex (integer ++ (Decimal.fractionText fraction ++ after)) =
      (.value value :: (lex rest).1, (lex rest).2) := by
  have behind : Decimal.NoDigitNext (Decimal.fractionText fraction ++ after) := by
    cases fraction with
    | nil => exact noDigit
    | cons digit digits =>
      intro char next
      cases next
      rfl
  cases same : integer with
  | nil => exact absurd same isInteger.notEmpty
  | cons first others =>
    have digits := isInteger.isDigits
    rw [same] at digits
    rcases List.forall_mem_cons.mp digits with ⟨isDigit, areDigits⟩
    have zeroFirst : first = '0' →
        ∀ char ∈ (others ++ (Decimal.fractionText fraction ++ after)).head?,
          isNameChar char = false := by
      intro isZero
      have alone := isInteger.noLeadingZero (by rw [same, isZero]; rfl)
      have nothing : others = [] := by
        rw [same] at alone
        exact (List.cons.inj alone).2
      rw [nothing]
      exact zero alone
    rcases moreDigits_append areDigits behind first (first.toNat - '0'.toNat) with
      ⟨last, wholeRead⟩
    rcases withFraction_append isFraction noDigit noPoint last
      (Nat.ofDigitChars 10 others (first.toNat - '0'.toNat)) with ⟨behindPoint, fractionRead⟩
    have isNumber : Nat.ofDigitChars 10 (integer ++ fraction) 0 =
        Nat.ofDigitChars 10 fraction
          (Nat.ofDigitChars 10 others (first.toNat - '0'.toNat)) := by
      rw [same, List.cons_append, Nat.ofDigitChars_cons, Nat.ofDigitChars_append, Nat.zero_add]
    rw [isNumber] at suffix
    rcases suffix behindPoint with ⟨end_, suffixRead⟩
    have stepped : step first (first :: (others ++ (Decimal.fractionText fraction ++ after))) =
        ⟨[.value value], [], end_ :: rest⟩ := by
      rw [step_digit isDigit zeroFirst, tokenizeDigits, List.head?_cons, Option.bind_some,
        decimalValueOf_of_isDigit isDigit]
      dsimp only
      rw [wholeRead]
      rw [fractionRead]
      rw [suffixRead]
      rfl
    exact lex_step _ stepped

theorem lex_digits {integer fraction after rest : List Char} {number : Decimal}
    {value : FieldValue} (inParts : Decimal.InParts number integer fraction [] 0)
    (notNegative : number.negative = false)
    (ends : ∀ char ∈ after.head?, isNameChar char = false)
    (noPoint : fraction = [] → after.head? ≠ some '.')
    (suffix : ∀ current, ∃ last, withSuffix number (current :: after) = (value, last :: rest)) :
    lex (number.text ++ after) = (.value value :: (lex rest).1, (lex rest).2) := by
  have isText : number.text ++ after =
      integer ++ (Decimal.fractionText fraction ++ after) := by
    rw [Decimal.text, notNegative, if_neg Bool.false_ne_true, inParts.isText, List.append_nil,
      List.append_assoc]
  have isNumber := inParts.isNumber
  rw [notNegative, Int.zero_sub] at isNumber
  rw [isText]
  refine lex_parts inParts.isInteger inParts.isFraction (noDigitNext_of_noName ends) ?_ noPoint ?_
  · intro _
    cases fraction with
    | nil => exact ends
    | cons digit digits =>
      intro char next
      cases next
      rfl
  · rw [isNumber]
    exact suffix

theorem withSuffix_number {number : Decimal} {after : List Char}
    (noPercent : after.head? ≠ some '%') (noDegree : after.head? ≠ some '°') (current : Char) :
    withSuffix number (current :: after) = (.number number, current :: after) := by
  unfold withSuffix
  split
  · rename_i equal
    cases equal
    exact absurd rfl noPercent
  · rename_i equal
    cases equal
    exact absurd rfl noDegree
  · rename_i equal
    cases equal
    exact absurd rfl noDegree
  · rfl

end Lexer

/-! ## What the lexer makes -/

def IsUnsigned : FieldValue → Prop
  | .number value | .percent value | .celsius value => value.negative = false
  | .null => False

def IsLexed : Token → Prop
  | .word name => IsWord name.toList
  | .value value => IsUnsigned value
  | .symbol _ => True

namespace Lexer

theorem withSuffix_unsigned {number : Decimal} (notNegative : number.negative = false)
    (text : List Char) : IsUnsigned (withSuffix number text).1 := by
  unfold withSuffix
  split <;> exact notNegative

theorem withFraction_not_negative (base num : Nat) (text : List Char) :
    (withFraction base num text).1.negative = false := by
  unfold withFraction
  split
  · split <;> exact Decimal.normalize_not_negative _ _
  · exact Decimal.normalize_not_negative _ _

theorem tokenizeDigits_lexed (base : Nat) (valueOf : Char → Option Nat) (text : List Char) :
    ∀ token ∈ (tokenizeDigits base valueOf text).tokens, IsLexed token := by
  unfold tokenizeDigits
  split
  · exact List.forall_mem_singleton.mpr (Decimal.normalize_not_negative _ _)
  · exact List.forall_mem_singleton.mpr (withSuffix_unsigned (withFraction_not_negative _ _ _) _)

theorem nameChars_names {first : Char} {text : List Char} (isName : isNameChar first = true) :
    ∃ chars, (nameChars (first :: text)).1 = first :: chars ∧
      ∀ char ∈ first :: chars, isNameChar char = true := by
  induction text generalizing first with
  | nil => exact ⟨[], rfl, List.forall_mem_singleton.mpr isName⟩
  | cons next text induction =>
    rw [nameChars]
    split
    · rename_i more
      rcases induction more with ⟨chars, same, names⟩
      exact ⟨next :: chars, by rw [← same], List.forall_mem_cons.mpr ⟨isName, names⟩⟩
    · exact ⟨[], rfl, List.forall_mem_singleton.mpr isName⟩

theorem step_lexed (current : Char) (text : List Char) :
    ∀ token ∈ (step current (current :: text)).tokens, IsLexed token := by
  unfold step
  split
  · exact List.forall_mem_singleton.mpr trivial
  · split
    · unfold tokenizeZero
      split
      · exact tokenizeDigits_lexed _ _ _
      · exact List.forall_mem_append.mpr ⟨tokenizeDigits_lexed _ _ _, tokenizeDigits_lexed _ _ _⟩
      · exact tokenizeDigits_lexed _ _ _
    · rename_i noZero
      split
      · exact tokenizeDigits_lexed _ _ _
      · rename_i noDigit
        split
        · unfold tokenizeComparison
          split <;> exact List.forall_mem_singleton.mpr trivial
        · split
          · unfold tokenizeEqual
            split <;> exact List.forall_mem_singleton.mpr trivial
          · split
            · exact List.forall_mem_nil _
            · split
              · rename_i isName
                rcases @nameChars_names current text isName with ⟨chars, same, names⟩
                have noNumber : current.isDigit = false := by
                  cases isDigit : current.isDigit with
                  | false => rfl
                  | true => exact ((zero_or_digit isDigit).elim noZero noDigit).elim
                refine List.forall_mem_singleton.mpr ⟨current, chars, ?_, noNumber, ?_⟩
                · rw [String.toList_ofList, same]
                · rw [String.toList_ofList, same]
                  exact names
              · exact List.forall_mem_nil _

theorem lex_lexed (text : List Char) : ∀ token ∈ (lex text).1, IsLexed token := by
  fun_induction lex text with
  | case1 => exact List.forall_mem_nil _
  | case2 current text yielded tokens errors rest induction =>
    rw [rest] at induction
    exact List.forall_mem_append.mpr ⟨step_lexed current text, induction⟩

end Lexer

end MatterJs.Model.Conformance
