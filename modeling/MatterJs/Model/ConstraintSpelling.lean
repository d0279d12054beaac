import Mathlib.Data.Bool.AllAny
import MatterJs.Model.ConstraintReading

/-! The tokens that the text of a serialized constraint is read as. -/

namespace MatterJs.Model.Constraint

open Conformance (FieldValue Symbol NoExponent)

open Serializer Parser

/-- A number with an exponent is read as two numbers, with a word and a sign between them. -/
def unsignedTokens (wrap : Decimal → FieldValue) (number : Decimal) : List Token :=
  if NoExponent number then [.value (wrap number)]
  else
    [.value (.number (.normalize false number.mantissa (-(number.digits.drop 1).length))),
      .word "e", .symbol (if number.point < 0 then .minus else .plus),
      .value (wrap (.normalize false (number.point - 1).natAbs 0))]

def numberTokens (wrap : Decimal → FieldValue) (number : Decimal) : List Token :=
  (if number.negative then [.symbol .minus] else []) ++ unsignedTokens wrap number.abs

def literalTokens : FieldValue → List Token
  | .number value => numberTokens .number value
  | .percent value => numberTokens .percent value
  | .celsius value => numberTokens .celsius value
  | .null => [.word "null"]

def Sign.symbol : Sign → Symbol
  | plus => .plus
  | minus => .minus

def valueTokens (inExpr : Bool) : Expression → List Token
  | .operator type lhs rhs =>
    let sum := valueTokens true lhs ++ .symbol type.symbol :: valueTokens true rhs
    if inExpr then .symbol .openParen :: sum ++ [.symbol .closeParen] else sum
  | .literal value => literalTokens value
  | .boolean value => [.keyword (if value then .true else .false)]
  | .reference name => [.word name]

def Parser.Bound.keyword : Parser.Bound → Keyword
  | min => .min
  | max => .max

namespace Atom

def tokens : Atom → List Token
  | all => [.keyword .all]
  | desc => [.keyword .desc]
  | bound kind limit => .keyword kind.keyword :: valueTokens false limit
  | inField name => [.keyword .inField, .word name]
  | value content => valueTokens false content
  | range min max => valueTokens false min ++ .keyword .upTo :: valueTokens false max

end Atom

def limitTokens (cpMax : Decimal) : List Token :=
  if cpMax.mantissa ≠ 0 then
    .symbol .openBrace :: numberTokens .number cpMax ++ [.symbol .closeBrace]
  else []

namespace Part

mutual
def tokens : Part → List Token
  | plain atom => atom.tokens
  | limited atom cpMax => atom.tokens ++ limitTokens cpMax
  | withEntry atom first others =>
    atom.tokens ++ .symbol .openBracket ::
      (first.tokens ++ otherTokens others ++ [.symbol .closeBracket])

def otherTokens : List Part → List Token
  | [] => []
  | part :: parts => .symbol .comma :: (part.tokens ++ otherTokens parts)
end

end Part

/-! ## Texts and what they are read as -/

def EndsToken (char : Char) : Prop :=
  Conformance.Lexer.isNameChar char = false ∧ char ≠ '%' ∧ char ≠ '°' ∧ char ≠ '.'

instance (char : Char) : Decidable (EndsToken char) := inferInstanceAs (Decidable (_ ∧ _))

def Ends (rest : List Char) : Prop := ∀ char ∈ rest.head?, EndsToken char

def prepend {α : Type} (tokens : List Token) (read : List Token × α) : List Token × α :=
  (tokens ++ read.1, read.2)

theorem prepend_append {α : Type} (first second : List Token) (read : List Token × α) :
    prepend (first ++ second) read = prepend first (prepend second read) := by
  rw [prepend, List.append_assoc]
  rfl

def Spells (text : List Char) (tokens : List Token) : Prop :=
  ∀ rest, Ends rest → lex (text ++ rest) = prepend tokens (lex rest)

def Opens (text : List Char) (tokens : List Token) : Prop :=
  ∀ rest, lex (text ++ rest) = prepend tokens (lex rest)

section Texts

variable {first second : List Char} {firstTokens secondTokens : List Token}

theorem Opens.spells (opens : Opens first firstTokens) : Spells first firstTokens :=
  fun rest _ => opens rest

theorem Opens.append (opens : Opens first firstTokens) (then_ : Opens second secondTokens) :
    Opens (first ++ second) (firstTokens ++ secondTokens) := by
  intro rest
  rw [List.append_assoc, opens, then_, prepend_append]

theorem Opens.append_spells (opens : Opens first firstTokens)
    (spells : Spells second secondTokens) :
    Spells (first ++ second) (firstTokens ++ secondTokens) := by
  intro rest ends
  rw [List.append_assoc, opens, spells rest ends, prepend_append]

theorem Spells.append_opens {char : Char} (spells : Spells first firstTokens)
    (ends : EndsToken char) (opens : Opens (char :: second) secondTokens) :
    Opens (first ++ char :: second) (firstTokens ++ secondTokens) := by
  intro rest
  rw [List.append_assoc, spells, opens, prepend_append]
  intro other next
  cases next
  exact ends

end Texts

theorem opens_space : Opens [' '] [] := fun rest => by
  change lex (' ' :: rest) = _
  rw [lex, Conformance.Lexer.lex_space]
  rfl

theorem opens_symbol {char : Char} {symbol : Symbol}
    (isSymbol : Conformance.Lexer.simpleSymbol char = some symbol) :
    Opens [char] [.symbol symbol] := fun rest => by
  have stepped : Conformance.Lexer.step char (char :: rest) =
      ⟨[.symbol symbol], [], char :: rest⟩ := by
    rw [Conformance.Lexer.step, isSymbol]
    rfl
  change lex (char :: rest) = _
  rw [lex, Conformance.Lexer.lex_step _ stepped]
  rfl

theorem spells_word {name : String} (isWord : Conformance.IsWord name.toList) :
    Spells name.toList [withKeywords (.word name)] := fun rest ends => by
  have read := Conformance.Lexer.lex_word isWord (fun char next => (ends char next).1)
  change Conformance.Lexer.lex (name.toList ++ rest) = _ at read
  rw [lex, read]
  rfl

theorem isWord_keyword (keyword : Keyword) : Conformance.IsWord keyword.text.toList := by
  cases keyword <;> exact ⟨_, _, rfl, by decide, List.all_iff_forall_prop.mp (by decide)⟩

theorem spells_keyword (keyword : Keyword) :
    Spells keyword.text.toList [.keyword keyword] := by
  have same : withKeywords (.word keyword.text) = .keyword keyword := by
    cases keyword <;> decide
  rw [← same]
  exact spells_word (isWord_keyword keyword)

structure IsSuffix (wrap : Decimal → FieldValue) (suffix : List Char) : Prop where
  isRead : ∀ (number : Decimal) (current : Char) (rest : List Char), Ends rest →
    ∃ last, Conformance.Lexer.withSuffix number (current :: (suffix ++ rest)) =
      (wrap number, last :: rest)
  ends : ∀ rest, Ends rest → ∀ char ∈ (suffix ++ rest).head?,
    Conformance.Lexer.isNameChar char = false ∧ char ≠ '.'

theorem isSuffix_number : IsSuffix .number [] := by
  refine ⟨fun number current rest ends => ⟨current, ?_⟩, fun rest ends char next => ?_⟩
  · exact Conformance.Lexer.withSuffix_number (fun next => (ends _ next).2.1 rfl)
      (fun next => (ends _ next).2.2.1 rfl) current
  · exact ⟨(ends char next).1, (ends char next).2.2.2⟩

theorem isSuffix_percent : IsSuffix .percent ['%'] := by
  refine ⟨fun _ _ rest _ => ⟨'%', rfl⟩, fun rest _ char next => ?_⟩
  cases next
  decide

theorem isSuffix_celsius : IsSuffix .celsius ['°', 'C'] := by
  refine ⟨fun _ _ rest _ => ⟨'C', rfl⟩, fun rest _ char next => ?_⟩
  cases next
  decide

section Numbers

variable {wrap : Decimal → FieldValue} {suffix : List Char} {number : Decimal}

theorem spells_noExponent (isSuffix : IsSuffix wrap suffix)
    (notNegative : number.negative = false) (noExponent : NoExponent number) :
    Spells (number.text ++ suffix) [.value (wrap number)] := fun rest ends => by
  rcases Decimal.exists_inParts noExponent with ⟨integer, fraction, inParts⟩
  have read := Conformance.Lexer.lex_digits inParts notNegative
    (fun char next => (isSuffix.ends rest ends char next).1)
    (fun _ next => (isSuffix.ends rest ends '.' next).2 rfl)
    (fun current => isSuffix.isRead number current rest ends)
  rw [lex, List.append_assoc, read]
  rfl

theorem isInteger_toDigits (number : Nat) : Decimal.IsInteger (Nat.toDigits 10 number) := by
  refine ⟨Decimal.isDigits_toDigits number, Nat.toDigits_ne_nil, fun zero => ?_⟩
  rcases Nat.eq_zero_or_pos number with rfl | positive
  · rfl
  · exact absurd zero (Decimal.toDigits_head number positive)

theorem spells_natural (isSuffix : IsSuffix wrap suffix) (number : Nat) :
    Spells (Nat.toDigits 10 number ++ suffix) [.value (wrap (.normalize false number 0))] :=
  fun rest ends => by
    have behind := isSuffix.ends rest ends
    have read := @Conformance.Lexer.lex_parts (Nat.toDigits 10 number) [] (suffix ++ rest) rest
      (wrap (.normalize false number 0)) (isInteger_toDigits number) (List.forall_mem_nil _)
      (Conformance.Lexer.noDigitNext_of_noName fun char next => (behind char next).1)
      (fun _ char next => (behind char next).1) (fun _ next => (behind '.' next).2 rfl) (by
        rw [List.append_nil, Nat.ofDigitChars_ten_toDigits]
        exact fun current => isSuffix.isRead _ current rest ends)
    rw [lex, List.append_assoc]
    change Conformance.Lexer.lex (Nat.toDigits 10 number ++ (suffix ++ rest)) = _ at read
    rw [read]
    rfl

/-- What is in front of an exponent -/
theorem lex_mantissa (positive : 0 < number.mantissa) (rest : List Char) :
    Conformance.Lexer.lex (number.digits.take 1 ++
      (Decimal.fractionText (number.digits.drop 1) ++ 'e' :: rest)) =
        (.value (.number (.normalize false number.mantissa (-(number.digits.drop 1).length))) ::
          (Conformance.Lexer.lex ('e' :: rest)).1, (Conformance.Lexer.lex ('e' :: rest)).2) := by
  have noZero : number.digits.head? ≠ some '0' := Decimal.toDigits_head number.mantissa positive
  have isInteger : Decimal.IsInteger (number.digits.take 1) := by
    apply Decimal.isInteger_of_head positive
    · exact fun char member => Decimal.isDigits_digits char (List.mem_of_mem_take member)
    · rw [List.head?_take, if_neg Nat.one_ne_zero]
  refine Conformance.Lexer.lex_parts isInteger
    (fun char member => Decimal.isDigits_digits char (List.mem_of_mem_drop member)) ?_ ?_ ?_ ?_
  · intro char next
    cases next
    rfl
  · intro isZero
    have head : (number.digits.take 1).head? = some '0' := by rw [isZero]; rfl
    rw [List.head?_take] at head
    exact absurd head noZero
  · exact fun _ => by simp
  · intro current
    rw [List.take_append_drop, Decimal.ofDigitChars_digits]
    exact ⟨current, Conformance.Lexer.withSuffix_number (by simp) (by simp) current⟩

theorem spells_exponent (isSuffix : IsSuffix wrap suffix)
    (notNegative : number.negative = false) (exponent : ¬NoExponent number) :
    Spells (number.text ++ suffix) (unsignedTokens wrap number) := fun rest ends => by
  rw [NoExponent, not_or] at exponent
  have isText : number.text = number.digits.take 1 ++
      (Decimal.fractionText (number.digits.drop 1) ++
        'e' :: (if number.point < 0 then '-' else '+') ::
          Nat.toDigits 10 (number.point - 1).natAbs) := by
    rw [Decimal.text, notNegative, if_neg Bool.false_ne_true, Decimal.unsignedText,
      if_neg (by omega), if_neg (by omega), if_neg (by omega)]
  have sign : Opens [if number.point < 0 then '-' else '+']
      [.symbol (if number.point < 0 then .minus else .plus)] := by
    split
    · exact opens_symbol rfl
    · exact opens_symbol rfl
  have signEnds : EndsToken (if number.point < 0 then '-' else '+') := by
    split <;> decide
  have word : Spells ['e'] [.word "e"] :=
    @spells_word "e" ⟨'e', [], rfl, rfl, List.all_iff_forall_prop.mp (by decide)⟩
  have digits := (word.append_opens signEnds sign).append_spells
    (spells_natural isSuffix (number.point - 1).natAbs) rest ends
  have mantissa := @lex_mantissa number (by omega)
  have inOrder : number.text ++ suffix ++ rest = number.digits.take 1 ++
      (Decimal.fractionText (number.digits.drop 1) ++
        'e' :: (if number.point < 0 then '-' else '+') ::
          (Nat.toDigits 10 (number.point - 1).natAbs ++ suffix ++ rest)) := by
    rw [isText]
    simp
  have front : lex (number.text ++ suffix ++ rest) =
      prepend [.value (.number (.normalize false number.mantissa (-(number.digits.drop 1).length)))]
        (lex ('e' :: (if number.point < 0 then '-' else '+') ::
          (Nat.toDigits 10 (number.point - 1).natAbs ++ suffix ++ rest))) := by
    rw [inOrder, lex, mantissa]
    rfl
  change lex ('e' :: (if number.point < 0 then '-' else '+') ::
    (Nat.toDigits 10 (number.point - 1).natAbs ++ suffix ++ rest)) = _ at digits
  rw [unsignedTokens, if_neg (by rw [NoExponent, not_or]; exact exponent), front, digits]
  rfl

theorem spells_number (isSuffix : IsSuffix wrap suffix) (number : Decimal) :
    Spells (number.text ++ suffix) (numberTokens wrap number) := by
  have unsigned : Spells (number.abs.text ++ suffix) (unsignedTokens wrap number.abs) := by
    by_cases noExponent : NoExponent number.abs
    · rw [unsignedTokens, if_pos noExponent]
      exact spells_noExponent isSuffix rfl noExponent
    · exact spells_exponent isSuffix rfl noExponent
  rw [number.text_eq_abs, numberTokens]
  by_cases negative : number.negative = true
  · rw [if_pos negative, if_pos negative]
    exact (@opens_symbol '-' .minus rfl).append_spells unsigned
  · rw [if_neg negative, if_neg negative]
    exact unsigned

end Numbers

theorem spells_literal {value : FieldValue} (notNull : value ≠ .null) :
    Spells value.serialize (literalTokens value) := by
  cases value with
  | null => exact absurd rfl notNull
  | number value =>
    have spells := spells_number isSuffix_number value
    rw [List.append_nil] at spells
    exact spells
  | percent value => exact spells_number isSuffix_percent value
  | celsius value => exact spells_number isSuffix_celsius value

/-! ## Expressions and parts -/

theorem spells_value {value : Expression} (fine : value.IsFine) (inExpr : Bool) :
    Spells (serializeValue inExpr value) (valueTokens inExpr value) := by
  induction value generalizing inExpr with
  | literal value => exact spells_literal fine
  | boolean value => cases value with
    | true => exact spells_keyword .true
    | false => exact spells_keyword .false
  | reference name =>
    have spells := spells_word fine.isWord
    rw [fine.noKeyword] at spells
    exact spells
  | operator type lhs rhs left right =>
    have sign : Opens (' ' :: (type.text.toList ++ [' '])) [.symbol type.symbol] := by
      have symbol : Opens type.text.toList [.symbol type.symbol] := by
        cases type with
        | plus => exact opens_symbol rfl
        | minus => exact opens_symbol rfl
      exact opens_space.append (symbol.append opens_space)
    have sum := ((left fine.1 true).append_opens (by decide) sign).append_spells (right fine.2 true)
    have sumText : serializeValue true lhs ++
        (' ' :: type.text.toList ++ ' ' :: serializeValue true rhs) =
          serializeValue true lhs ++ ' ' :: (type.text.toList ++ [' ']) ++
            serializeValue true rhs := by
      simp
    have sumTokens : valueTokens true lhs ++ .symbol type.symbol :: valueTokens true rhs =
        valueTokens true lhs ++ [.symbol type.symbol] ++ valueTokens true rhs :=
      (List.append_assoc _ [_] _).symm
    rw [← sumText, ← sumTokens] at sum
    cases inExpr with
    | false => exact sum
    | true =>
      have open_ := @opens_symbol '(' .openParen rfl
      have close := @opens_symbol ')' .closeParen rfl
      exact (open_.append_spells sum).append_opens (by decide) close |>.spells

theorem present_of_fine {value : Expression} (fine : value.IsFine) :
    present (some value) = some value := by
  cases value with
  | literal value => cases value with
    | null => exact absurd rfl fine
    | _ => rfl
  | _ => rfl

theorem opens_keyword (keyword : Keyword) :
    Opens (keyword.text.toList ++ [' ']) [.keyword keyword] :=
  (spells_keyword keyword).append_opens (by decide) opens_space

@[simp] theorem present_none : present none = none := rfl

theorem spells_atom {atom : Atom} (fine : atom.IsFine) :
    Spells (serializeAtom atom.ast) atom.tokens := by
  cases atom with
  | all => exact spells_keyword .all
  | desc => exact spells_keyword .desc
  | bound kind limit =>
    have isLimit := fine limit List.mem_cons_self
    have text : serializeAtom (Atom.bound kind limit).ast =
        kind.keyword.text.toList ++ [' '] ++ serializeValue false limit := by
      cases kind <;>
        simp [serializeAtom, Atom.ast, Parser.Bound.ast, present_of_fine isLimit,
          Parser.Bound.keyword, Keyword.text]
    rw [text]
    exact (opens_keyword kind.keyword).append_spells (spells_value isLimit false)
  | inField name =>
    have isName := fine (.reference name) List.mem_cons_self
    have text : serializeAtom (Atom.inField name).ast =
        Keyword.inField.text.toList ++ [' '] ++
          serializeValue false (.reference name) := by
      simp [serializeAtom, Atom.ast, Keyword.text]
    rw [text]
    exact (opens_keyword .inField).append_spells (spells_value isName false)
  | value content =>
    have isContent := fine content List.mem_cons_self
    have text : serializeAtom (Atom.value content).ast =
        serializeValue false content := by
      simp [serializeAtom, Atom.ast, present_of_fine isContent]
    rw [text]
    exact spells_value isContent false
  | range min max =>
    have isMin := fine min List.mem_cons_self
    have isMax := fine max (List.mem_cons_of_mem _ List.mem_cons_self)
    have text : serializeAtom (Atom.range min max).ast =
        serializeValue false min ++
          ' ' :: (Keyword.upTo.text.toList ++ [' ']) ++
            serializeValue false max := by
      simp [serializeAtom, Atom.ast, present_of_fine isMin, present_of_fine isMax, Keyword.text]
    have tokens : (Atom.range min max).tokens =
        valueTokens false min ++ [.keyword .upTo] ++ valueTokens false max :=
      (List.append_assoc _ [_] _).symm
    rw [text, tokens]
    exact ((spells_value isMin false).append_opens (by decide)
      (opens_space.append (opens_keyword .upTo))).append_spells (spells_value isMax false)

theorem serialize_plain (atom : Atom) :
    serialize (Part.plain atom).ast = serializeAtom atom.ast := by
  cases atom with
  | bound kind limit => cases kind <;> exact List.append_nil _
  | _ => exact List.append_nil _

theorem serialize_limited (atom : Atom) (cpMax : Decimal) :
    serialize (Part.limited atom cpMax).ast =
      serializeAtom atom.ast ++ serializeCpMax (some cpMax) := by
  cases atom with
  | bound kind limit => cases kind <;> rfl
  | _ => rfl

theorem serialize_withEntry (atom : Atom) (first : Part) (others : List Part) :
    serialize (Part.withEntry atom first others).ast =
      serializeAtom atom.ast ++
        '[' :: serialize
          (partsAsAst (first.ast :: Part.asts others)) ++ [']'] := by
  cases atom with
  | bound kind limit => cases kind <;> rfl
  | _ => rfl

theorem serialize_partsAsAst (first : Ast) (others : List Ast) :
    serialize (partsAsAst (first :: others)) =
      serializeParts (first :: others) := by
  cases others with
  | nil => rfl
  | cons second others => rfl

mutual
theorem spells_part : (part : Part) → part.IsFine → Spells (serialize part.ast) part.tokens
  | .plain atom, fine => by
    rw [serialize_plain]
    exact spells_atom fine
  | .limited atom cpMax, fine => by
    rw [serialize_limited, Part.tokens, serializeCpMax, limitTokens]
    by_cases notZero : cpMax.mantissa ≠ 0
    · rw [if_pos notZero, if_pos notZero]
      have spells := spells_number isSuffix_number cpMax
      rw [List.append_nil] at spells
      have open_ := @opens_symbol '\x7b' .openBrace rfl
      have close := @opens_symbol '\x7d' .closeBrace rfl
      have limit := (open_.append_spells spells).append_opens (by decide) close
      exact ((spells_atom fine.1).append_opens (by decide) limit).spells
    · rw [if_neg notZero, if_neg notZero, List.append_nil, List.append_nil]
      exact spells_atom fine.1
  | .withEntry atom first others, fine => by
    have open_ := @opens_symbol '[' .openBracket rfl
    have close := @opens_symbol ']' .closeBracket rfl
    have parts := spells_parts others fine.2.2 (spells_part first fine.2.1)
    have entry := (open_.append_spells parts).append_opens (by decide) close
    rw [serialize_withEntry, serialize_partsAsAst, List.append_assoc]
    exact ((spells_atom fine.1).append_opens (by decide) entry).spells

theorem spells_parts : (others : List Part) → Part.AllFine others →
    ∀ {first : Ast} {tokens : List Token}, Spells (serialize first) tokens →
      Spells (serializeParts (first :: Part.asts others)) (tokens ++ Part.otherTokens others)
  | [], _, first, tokens, spells => by
    rw [Part.otherTokens, List.append_nil]
    exact spells
  | second :: others, fine, first, tokens, spells => by
    have comma := (@opens_symbol ',' .comma rfl).append opens_space
    have behind := spells_parts others fine.2 (spells_part second fine.1)
    have text : serializeParts (first :: Part.asts (second :: others)) =
        serialize first ++ [',', ' '] ++
          serializeParts (second.ast :: Part.asts others) := by
      rw [serializeParts, List.append_assoc]
      · rfl
      · exact nofun
    have inOrder : tokens ++ Part.otherTokens (second :: others) =
        tokens ++ [.symbol .comma] ++ (second.tokens ++ Part.otherTokens others) :=
      (List.append_assoc _ [_] _).symm
    rw [text, inOrder]
    exact (spells.append_opens (by decide) comma).append_spells behind
end

theorem lex_serialize {first : Part} {others : List Part} (isFirst : first.IsFine)
    (areOthers : Part.AllFine others) :
    lex (serialize (partsAsAst (first.ast :: Part.asts others))) =
      (first.tokens ++ Part.otherTokens others, []) := by
  have read := spells_parts others areOthers (spells_part first isFirst) [] nofun
  rw [List.append_nil] at read
  have nothing : lex [] = ([], []) := by
    rw [lex, Conformance.Lexer.lex]
    rfl
  rw [serialize_partsAsAst, read, nothing, prepend, List.append_nil]

end MatterJs.Model.Constraint
