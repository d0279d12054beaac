import Mathlib.Data.Bool.AllAny
import MatterJs.Foundation.JsonText

/-! A value is read back from its text. -/

namespace MatterJs.JsonText

theorem parseString_plain {unit : CodeUnit} (notMark : unit ≠ quotationMark)
    (notControl : ¬unit < space) (notSolidus : unit ≠ reverseSolidus) (text : List CodeUnit) :
    parseString (unit :: text) =
      (parseString text).map fun (value, rest) => (unit :: value, rest) := by
  rw [parseString.eq_def]
  dsimp only
  rw [if_neg notMark, if_neg notControl, if_neg notSolidus]
  cases parseString text <;> rfl

theorem shortEscapes_unescape :
    ∀ escape ∈ shortEscapes, escape.2 ≠ CodeUnit.ofChar 'u' ∧
      unescapeShort escape.2 = some escape.1 :=
  List.all_iff_forall_prop.mp (by decide)

theorem parseString_short {unit short : CodeUnit} (isShort : (unit, short) ∈ shortEscapes)
    (text : List CodeUnit) :
    parseString (reverseSolidus :: short :: text) =
      (parseString text).map fun (value, rest) => (unit :: value, rest) := by
  rcases shortEscapes_unescape _ isShort with ⟨notUnicode, unescapes⟩
  rw [parseString.eq_def]
  dsimp only
  rw [if_neg notUnicode, unescapes]
  cases parseString text <;> rfl

theorem hexValue_hexDigit {digit : Nat} (small : digit < 16) :
    hexValue (hexDigit digit) = some digit := by
  interval_cases digit <;> decide

theorem unescapeUnicode_hexDigits (unit : CodeUnit) :
    unescapeUnicode (hexDigit (unit.toNat / 4096)) (hexDigit (unit.toNat / 256 % 16))
      (hexDigit (unit.toNat / 16 % 16)) (hexDigit (unit.toNat % 16)) = some unit := by
  have fits : unit.toNat < 65536 := unit.toNat_lt
  rw [unescapeUnicode, hexValue_hexDigit (by omega), hexValue_hexDigit (by omega),
    hexValue_hexDigit (by omega), hexValue_hexDigit (by omega)]
  show some (unit.toNat / 4096 * 4096 + unit.toNat / 256 % 16 * 256 +
    unit.toNat / 16 % 16 * 16 + unit.toNat % 16).toUInt16 = some unit
  have sum : unit.toNat / 4096 * 4096 + unit.toNat / 256 % 16 * 256 +
      unit.toNat / 16 % 16 * 16 + unit.toNat % 16 = unit.toNat := by omega
  rw [sum]
  exact congrArg some UInt16.ofNat_toNat

theorem parseString_unicode (unit : CodeUnit) (text : List CodeUnit) :
    parseString (unicodeEscape unit ++ text) =
      (parseString text).map fun (value, rest) => (unit :: value, rest) := by
  show parseString (reverseSolidus :: CodeUnit.ofChar 'u' :: _) = _
  rw [parseString.eq_def]
  dsimp only
  rw [if_neg (by decide), if_pos rfl, if_pos rfl]
  show (unescapeUnicode (hexDigit (unit.toNat / 4096)) (hexDigit (unit.toNat / 256 % 16))
    (hexDigit (unit.toNat / 16 % 16)) (hexDigit (unit.toNat % 16))).bind _ = _
  rw [unescapeUnicode_hexDigits]
  show (parseString text).bind (fun (value, rest) => some (unit :: value, rest)) = _
  cases parseString text <;> rfl

theorem parseString_escapeUnit (unit : CodeUnit) (text : List CodeUnit) :
    parseString (escapeUnit unit ++ text) =
      (parseString text).map fun (value, rest) => (unit :: value, rest) := by
  rw [escapeUnit]
  cases short : shortEscapes.lookup unit with
  | some short => exact parseString_short (OrderedMap.mem_of_lookup short) text
  | none =>
    split_ifs with escaped
    · exact parseString_unicode unit text
    · rw [not_or] at escaped
      apply parseString_plain
      · rintro rfl
        cases short
      · exact escaped.1
      · rintro rfl
        cases short

theorem parseString_surrogate {unit : CodeUnit}
    (isSurrogate : unit.isHighSurrogate ∨ unit.isLowSurrogate) (text : List CodeUnit) :
    parseString (unit :: text) =
      (parseString text).map fun (value, rest) => (unit :: value, rest) := by
  have high : 0xd800 ≤ unit.toNat := by
    rcases isSurrogate with isHigh | isLow
    · rw [CodeUnit.isHighSurrogate, Bool.and_eq_true, decide_eq_true_iff] at isHigh
      exact isHigh.1
    · rw [CodeUnit.isLowSurrogate, Bool.and_eq_true, decide_eq_true_iff] at isLow
      exact Nat.le_trans (by decide) (UInt16.le_iff_toNat_le.mp isLow.1)
  apply parseString_plain
  · rintro rfl
    exact absurd high (by decide)
  · intro isControl
    have low : unit.toNat < 32 := UInt16.lt_iff_toNat_lt.mp isControl
    omega
  · rintro rfl
    exact absurd high (by decide)

theorem parseString_end (rest : List CodeUnit) :
    parseString (quotationMark :: rest) = some ([], rest) := by
  rw [parseString.eq_def]
  exact if_pos rfl

theorem parseString_escape (value rest : List CodeUnit) :
    parseString (escape value ++ quotationMark :: rest) = some (value, rest) := by
  fun_induction escape value with
  | case1 => exact parseString_end rest
  | case2 unit =>
    rw [parseString_escapeUnit, parseString_end]
    rfl
  | case3 unit next others isPair induction =>
    show parseString (unit :: next :: (escape others ++ quotationMark :: rest)) = _
    rw [parseString_surrogate (.inl isPair.1), parseString_surrogate (.inr isPair.2), induction]
    rfl
  | case4 unit next others notPair induction =>
    rw [List.append_assoc, parseString_escapeUnit, induction]
    rfl

def EndsNumber (rest : List CodeUnit) : Prop :=
  ∀ unit ∈ rest.head?, isNumberChar unit.toChar = false

theorem endsNumber_cons {unit : CodeUnit} (ends : isNumberChar unit.toChar = false)
    (rest : List CodeUnit) : EndsNumber (unit :: rest) := by
  intro other isNext
  cases isNext
  exact ends

theorem toChar_ofChar {char : Char} (ascii : char.toNat < 128) :
    (CodeUnit.ofChar char).toChar = char := by
  have fits : (CodeUnit.ofChar char).toNat = char.toNat := by
    simp [CodeUnit.ofChar]
    omega
  rw [CodeUnit.toChar, fits, Char.ofNat_toNat]

theorem chars_units {text : List Char} (ascii : ∀ char ∈ text, char.toNat < 128) :
    chars (units text) = text := by
  rw [chars, units, List.map_map]
  calc
    text.map (CodeUnit.toChar ∘ CodeUnit.ofChar) = text.map id :=
      List.map_congr_left fun char member => toChar_ofChar (ascii char member)
    _ = text := List.map_id text

theorem isNumberChar_of_mem_text {number : Decimal} {char : Char} (member : char ∈ number.text) :
    isNumberChar char = true := by
  rcases Decimal.text_chars member with isDigit | isMark
  · simp [isNumberChar, isDigit]
  · simp only [List.mem_cons, List.not_mem_nil, or_false] at isMark
    rcases isMark with rfl | rfl | rfl | rfl <;> decide

theorem ascii_of_isNumberChar {char : Char} (isNumber : isNumberChar char = true) :
    char.toNat < 128 := by
  simp only [isNumberChar, Bool.or_eq_true, decide_eq_true_iff] at isNumber
  rcases isNumber with ((((isDigit | rfl) | rfl) | rfl) | rfl) | rfl
  · have upper : char.toNat ≤ 57 := (Char.isDigit_iff_toNat.mp isDigit).2
    omega
  all_goals decide

def IsNumberStart (unit : CodeUnit) : Prop :=
  ∃ char, unit = CodeUnit.ofChar char ∧ (char.isDigit = true ∨ char = '-')

theorem exists_numberStart (number : Decimal) :
    ∃ unit rest, units number.text = unit :: rest ∧ IsNumberStart unit := by
  rcases Decimal.head_of_parse number.parse_text with ⟨char, rest, isText, isStart⟩
  exact ⟨_, units rest, by rw [isText]; rfl, char, rfl, isStart⟩

theorem ne_of_isNumberStart {unit other : CodeUnit} (isStart : IsNumberStart unit)
    (notStart : other.toChar.isDigit = false ∧ other.toChar ≠ '-') : unit ≠ other := by
  rintro rfl
  rcases isStart with ⟨char, rfl, isStart⟩
  have ascii : char.toNat < 128 := by
    apply ascii_of_isNumberChar
    rcases isStart with isDigit | rfl
    · simp [isNumberChar, isDigit]
    · decide
  rw [toChar_ofChar ascii] at notStart
  rcases isStart with isDigit | isSign
  · exact Bool.false_ne_true (notStart.1.symm.trans isDigit)
  · exact notStart.2 isSign

theorem dropPrefix_of_number {unit : CodeUnit} (isStart : IsNumberStart unit)
    {first : Char} {name : List Char} (rest : List CodeUnit)
    (notStart : (CodeUnit.ofChar first).toChar.isDigit = false ∧
      (CodeUnit.ofChar first).toChar ≠ '-') :
    parseLiteral.dropPrefix (unit :: rest) (units (first :: name)) = none := by
  apply if_neg
  intro isPrefix
  have same := (List.cons_prefix_cons.mp isPrefix).1
  exact ne_of_isNumberStart isStart notStart same.symm

theorem span_number {number : Decimal} {rest : List CodeUnit} (ends : EndsNumber rest) :
    (units number.text ++ rest).span (fun unit => isNumberChar unit.toChar) =
      (units number.text, rest) := by
  have inNumber : ∀ unit ∈ units number.text, isNumberChar unit.toChar = true := by
    intro unit member
    rcases List.mem_map.mp member with ⟨char, inText, rfl⟩
    have isNumber := isNumberChar_of_mem_text inText
    rwa [toChar_ofChar (ascii_of_isNumberChar isNumber)]
  rw [List.span_eq_takeWhile_dropWhile, List.takeWhile_append_of_pos inNumber,
    List.dropWhile_append_of_pos inNumber]
  cases rest with
  | nil => simp
  | cons unit rest => simp [ends unit rfl]

theorem parseLiteral_number (number : Decimal) {rest : List CodeUnit} (ends : EndsNumber rest) :
    parseLiteral (units number.text ++ rest) = some (.number number, rest) := by
  have ascii : ∀ char ∈ number.text, char.toNat < 128 := fun char member =>
    ascii_of_isNumberChar (isNumberChar_of_mem_text member)
  rw [parseLiteral, span_number ends]
  dsimp only
  rw [chars_units ascii, number.parse_text]
  rcases exists_numberStart number with ⟨unit, others, isText, isStart⟩
  rw [isText, List.cons_append, dropPrefix_of_number isStart _ (by decide),
    dropPrefix_of_number isStart _ (by decide), dropPrefix_of_number isStart _ (by decide)]
  rfl

theorem skipWhiteSpace_append {before : List CodeUnit}
    (isSpace : ∀ unit ∈ before, isWhiteSpace unit = true) (text : List CodeUnit) :
    skipWhiteSpace (before ++ text) = skipWhiteSpace text :=
  List.dropWhile_append_of_pos isSpace

theorem skipWhiteSpace_cons {unit : CodeUnit} (notSpace : isWhiteSpace unit = false)
    (text : List CodeUnit) : skipWhiteSpace (unit :: text) = unit :: text :=
  List.dropWhile_cons_of_neg (by rw [notSpace]; exact Bool.false_ne_true)

theorem isWhiteSpace_lineBreak {gap : List CodeUnit}
    (gapIsSpace : ∀ unit ∈ gap, isWhiteSpace unit = true) (depth : Nat) :
    ∀ unit ∈ lineBreak gap depth, isWhiteSpace unit = true := by
  intro unit member
  rw [lineBreak] at member
  split_ifs at member
  · cases member
  · rcases List.mem_cons.mp member with rfl | inGap
    · rfl
    · rcases List.mem_flatten.mp inGap with ⟨other, isGap, inGap⟩
      rw [List.eq_of_mem_replicate isGap] at inGap
      exact gapIsSpace unit inGap

theorem endsNumber_lineBreak {gap rest : List CodeUnit} (ends : EndsNumber rest) (depth : Nat) :
    EndsNumber (lineBreak gap depth ++ rest) := by
  rw [lineBreak]
  split_ifs
  · exact ends
  · exact endsNumber_cons (by decide) _

theorem parseValue_congr {text other : List CodeUnit}
    (same : skipWhiteSpace text = skipWhiteSpace other) (fuel : Nat) :
    parseValue fuel text = parseValue fuel other := by
  cases fuel with
  | zero => rw [parseValue, parseValue]
  | succ fuel => rw [parseValue, parseValue, same]

theorem parseValue_cons {unit : CodeUnit} (notSpace : isWhiteSpace unit = false) (fuel : Nat)
    (text : List CodeUnit) :
    parseValue (fuel + 1) (unit :: text) =
      if unit = quotationMark then
        (parseString text).map fun (value, rest) => (.string value, rest)
      else if unit = leftBracket then
        match skipWhiteSpace text with
        | [] => none
        | next :: behind =>
          if next = rightBracket then some (.array [], behind)
          else (parseElements fuel text).map fun (elements, rest) => (.array elements, rest)
      else if unit = leftBrace then
        match skipWhiteSpace text with
        | [] => none
        | next :: behind =>
          if next = rightBrace then some (.object [], behind)
          else (parseMembers fuel text).map fun (members, rest) =>
            (.object (collectMembers members), rest)
      else parseLiteral (unit :: text) := by
  rewrite [parseValue, skipWhiteSpace_cons notSpace]
  rfl

theorem parseValue_quote (fuel : Nat) (value rest : List CodeUnit) :
    parseValue (fuel + 1) (quote value ++ rest) = some (.string value, rest) := by
  show parseValue (fuel + 1) (quotationMark :: (escape value ++ [quotationMark] ++ rest)) = _
  rw [parseValue_cons (by decide), List.append_assoc, List.singleton_append, parseString_escape]
  rfl

theorem parseValue_number (fuel : Nat) (number : Decimal) {rest : List CodeUnit}
    (ends : EndsNumber rest) :
    parseValue (fuel + 1) (units number.text ++ rest) = some (.number number, rest) := by
  have literal := parseLiteral_number number ends
  rcases exists_numberStart number with ⟨unit, others, isText, isStart⟩
  rw [isText, List.cons_append] at literal ⊢
  have notSpace : isWhiteSpace unit = false := by
    simp only [isWhiteSpace, Bool.or_eq_false_iff, decide_eq_false_iff_not]
    refine ⟨⟨⟨?_, ?_⟩, ?_⟩, ?_⟩ <;> exact ne_of_isNumberStart isStart (by decide)
  rw [parseValue_cons notSpace, if_neg (ne_of_isNumberStart isStart (by decide)),
    if_neg (ne_of_isNumberStart isStart (by decide)),
    if_neg (ne_of_isNumberStart isStart (by decide)), literal]

/-- Nothing that is written begins with a space or closes an array. -/
theorem exists_stringify_head (gap : List CodeUnit) (depth : Nat) (value : JsonValue) :
    ∃ unit rest, stringify gap depth value = unit :: rest ∧ isWhiteSpace unit = false ∧
      unit ≠ rightBracket := by
  rcases value with _ | _ | number | value | elements | members
  · exact ⟨_, _, rfl, by decide, by decide⟩
  · rename_i value
    cases value <;> exact ⟨_, _, rfl, by decide, by decide⟩
  · rcases exists_numberStart number with ⟨unit, rest, isText, isStart⟩
    refine ⟨unit, rest, isText, ?_, ne_of_isNumberStart isStart (by decide)⟩
    simp only [isWhiteSpace, Bool.or_eq_false_iff, decide_eq_false_iff_not]
    refine ⟨⟨⟨?_, ?_⟩, ?_⟩, ?_⟩ <;> exact ne_of_isNumberStart isStart (by decide)
  · exact ⟨_, _, rfl, by decide, by decide⟩
  · cases elements <;> exact ⟨_, _, rfl, by decide, by decide⟩
  · rcases members with _ | ⟨⟨key, value⟩, members⟩ <;> exact ⟨_, _, rfl, by decide, by decide⟩

/-- Wherever a number may end, the value is read back from its text. -/
def ParsesBack (gap : List CodeUnit) (value : JsonValue) : Prop :=
  ∀ depth fuel rest, (stringify gap depth value).length ≤ fuel → EndsNumber rest →
    parseValue fuel (stringify gap depth value ++ rest) = some (value, rest)

theorem parsesBack_of_succ {gap : List CodeUnit} {value : JsonValue}
    (parses : ∀ depth fuel rest, (stringify gap depth value).length ≤ fuel + 1 →
      EndsNumber rest → parseValue (fuel + 1) (stringify gap depth value ++ rest) =
        some (value, rest)) : ParsesBack gap value := by
  intro depth fuel rest enough ends
  cases fuel with
  | zero =>
    rcases exists_stringify_head gap depth value with ⟨unit, others, isText, _⟩
    rw [isText] at enough
    cases enough
  | succ fuel => exact parses depth fuel rest enough ends

section RoundTrip

variable {gap : List CodeUnit} (gapIsSpace : ∀ unit ∈ gap, isWhiteSpace unit = true)

include gapIsSpace in
theorem parseElements_append {depth fuel : Nat} {element : JsonValue}
    {elements : List JsonValue} {close rest : List CodeUnit}
    (parsesFirst : ParsesBack gap element) (parsesOthers : ∀ other ∈ elements, ParsesBack gap other)
    (closes : skipWhiteSpace close = rightBracket :: rest) (endsClose : EndsNumber close)
    (enough : (lineBreak gap depth ++ stringify gap depth element ++
      stringifyElements gap depth elements).length < fuel) :
    parseElements fuel (lineBreak gap depth ++ stringify gap depth element ++
      stringifyElements gap depth elements ++ close) = some (element :: elements, rest) := by
  induction elements generalizing element fuel with
  | nil =>
    cases fuel with
    | zero => cases enough
    | succ fuel =>
      rw [stringifyElements, List.append_nil] at enough ⊢
      rw [List.length_append] at enough
      rw [parseElements, List.append_assoc, parseValue_congr
        (skipWhiteSpace_append (isWhiteSpace_lineBreak gapIsSpace depth) _),
        parsesFirst depth fuel close (by omega) endsClose]
      dsimp only
      rw [closes]
      dsimp only
      rw [if_neg (by decide), if_pos rfl]
  | cons second elements induction =>
    cases fuel with
    | zero => cases enough
    | succ fuel =>
      rw [List.forall_mem_cons] at parsesOthers
      rw [stringifyElements] at enough ⊢
      simp only [List.length_append, List.length_cons] at enough
      have others := @induction fuel second parsesOthers.1 parsesOthers.2
        (by simp only [List.length_append]; omega)
      rw [parseElements, List.append_assoc, List.append_assoc, parseValue_congr
        (skipWhiteSpace_append (isWhiteSpace_lineBreak gapIsSpace depth) _), List.cons_append,
        parsesFirst depth fuel _ (by omega) (endsNumber_cons (by decide) _)]
      dsimp only
      rw [skipWhiteSpace_cons (by decide)]
      dsimp only
      rw [others]
      rfl

theorem isWhiteSpace_colonSpace (gap : List CodeUnit) :
    ∀ unit ∈ colonSpace gap, isWhiteSpace unit = true := by
  rw [colonSpace]
  split_ifs
  · exact nofun
  · exact List.forall_mem_singleton.mpr rfl

include gapIsSpace in
theorem parseKey_memberText (depth : Nat) (key value rest : List CodeUnit) :
    parseKey (memberText gap depth key value ++ rest) =
      some (key, colonSpace gap ++ value ++ rest) := by
  have isText : memberText gap depth key value ++ rest = lineBreak gap depth ++
      (quotationMark :: (escape key ++ quotationMark ::
        (colon :: (colonSpace gap ++ value ++ rest)))) := by
    rw [memberText, quote]
    simp
  rw [isText, parseKey, skipWhiteSpace_append (isWhiteSpace_lineBreak gapIsSpace depth),
    skipWhiteSpace_cons (by decide)]
  dsimp only
  rw [parseString_escape]
  exact if_pos rfl

theorem length_lt_memberText (depth : Nat) (key value : List CodeUnit) :
    value.length < (memberText gap depth key value).length := by
  simp only [memberText, List.length_append, List.length_cons]
  omega

include gapIsSpace in
theorem parseMembers_append {depth fuel : Nat} {key : List CodeUnit} {value : JsonValue}
    {members : List (List CodeUnit × JsonValue)} {close rest : List CodeUnit}
    (parsesFirst : ParsesBack gap value) (parsesOthers : ∀ other ∈ members, ParsesBack gap other.2)
    (closes : skipWhiteSpace close = rightBrace :: rest) (endsClose : EndsNumber close)
    (enough : (memberText gap depth key (stringify gap depth value) ++
      stringifyMembers gap depth members).length < fuel) :
    parseMembers fuel (memberText gap depth key (stringify gap depth value) ++
      stringifyMembers gap depth members ++ close) = some ((key, value) :: members, rest) := by
  induction members generalizing key value fuel with
  | nil =>
    cases fuel with
    | zero => cases enough
    | succ fuel =>
      rw [stringifyMembers, List.append_nil] at enough ⊢
      have inside := @length_lt_memberText gap depth key (stringify gap depth value)
      rw [parseMembers, parseKey_memberText gapIsSpace]
      dsimp only
      rw [List.append_assoc, parseValue_congr
        (skipWhiteSpace_append (isWhiteSpace_colonSpace gap) _),
        parsesFirst depth fuel close (by omega) endsClose]
      dsimp only
      rw [closes]
      dsimp only
      rw [if_neg (by decide), if_pos rfl]
  | cons second members induction =>
    rcases second with ⟨secondKey, second⟩
    cases fuel with
    | zero => cases enough
    | succ fuel =>
      rw [List.forall_mem_cons] at parsesOthers
      rw [stringifyMembers] at enough ⊢
      simp only [List.length_append, List.length_cons] at enough
      have others := @induction fuel secondKey second parsesOthers.1 parsesOthers.2
        (by simp only [List.length_append]; omega)
      have inside := @length_lt_memberText gap depth key (stringify gap depth value)
      rw [List.append_assoc, parseMembers, parseKey_memberText gapIsSpace]
      dsimp only
      rw [List.append_assoc, parseValue_congr
        (skipWhiteSpace_append (isWhiteSpace_colonSpace gap) _), List.cons_append,
        parsesFirst depth fuel _ (by omega) (endsNumber_cons (by decide) _)]
      dsimp only
      rw [skipWhiteSpace_cons (by decide)]
      dsimp only
      rw [others]
      rfl

theorem foldl_setEntries {Value : Type*} {entries collected : List (List CodeUnit × Value)}
    (nodupKeys : ((collected ++ entries).map Prod.fst).Nodup) :
    entries.foldl (fun members (key, value) => OrderedMap.setEntries key value members)
      collected = collected ++ entries := by
  induction entries generalizing collected with
  | nil => exact (List.append_nil _).symm
  | cons entry entries induction =>
    rcases entry with ⟨key, value⟩
    have isNew : key ∉ collected.map Prod.fst := by
      rw [List.map_append, List.nodup_append] at nodupKeys
      exact fun member => nodupKeys.2.2 key member key List.mem_cons_self rfl
    rw [List.foldl_cons]
    dsimp only
    rw [OrderedMap.setEntries_of_new isNew, induction (by simpa using nodupKeys), List.append_assoc]
    rfl

theorem collectMembers_of_nodup {members : List (List CodeUnit × JsonValue)}
    (nodupKeys : (members.map Prod.fst).Nodup) : collectMembers members = members :=
  foldl_setEntries nodupKeys

include gapIsSpace in
theorem parsesBack_array {elements : List JsonValue}
    (parsesAll : ∀ element ∈ elements, ParsesBack gap element) :
    ParsesBack gap (.array elements) := by
  apply parsesBack_of_succ
  intro depth fuel rest enough _
  cases elements with
  | nil =>
    show parseValue (fuel + 1) (leftBracket :: rightBracket :: rest) = _
    rw [parseValue_cons (by decide), if_neg (by decide)]
    exact if_pos rfl
  | cons element elements =>
    rw [List.forall_mem_cons] at parsesAll
    rw [stringify] at enough ⊢
    simp only [List.length_cons, List.length_append] at enough
    have closes : skipWhiteSpace (lineBreak gap depth ++ rightBracket :: rest) =
        rightBracket :: rest := by
      rw [skipWhiteSpace_append (isWhiteSpace_lineBreak gapIsSpace depth),
        skipWhiteSpace_cons (by decide)]
    have elementsParse := @parseElements_append gap gapIsSpace (depth + 1) fuel element
      elements _ rest parsesAll.1 parsesAll.2 closes
      (endsNumber_lineBreak (endsNumber_cons (by decide) _) depth)
      (by simp only [List.length_append]; omega)
    rw [List.cons_append, parseValue_cons (by decide), List.append_assoc,
      List.append_assoc (lineBreak gap depth), List.singleton_append, elementsParse]
    rcases exists_stringify_head gap (depth + 1) element with
      ⟨unit, others, isText, notSpace, notBracket⟩
    rw [isText, List.append_assoc, List.append_assoc,
      skipWhiteSpace_append (isWhiteSpace_lineBreak gapIsSpace (depth + 1)),
      List.cons_append, skipWhiteSpace_cons notSpace]
    dsimp only
    rw [if_neg notBracket]
    rfl

include gapIsSpace in
theorem parsesBack_object {members : List (List CodeUnit × JsonValue)}
    (nodupKeys : (members.map Prod.fst).Nodup)
    (parsesAll : ∀ member ∈ members, ParsesBack gap member.2) :
    ParsesBack gap (.object members) := by
  apply parsesBack_of_succ
  intro depth fuel rest enough _
  cases members with
  | nil =>
    show parseValue (fuel + 1) (leftBrace :: rightBrace :: rest) = _
    rw [parseValue_cons (by decide), if_neg (by decide), if_neg (by decide)]
    exact if_pos rfl
  | cons member members =>
    rcases member with ⟨key, value⟩
    rw [List.forall_mem_cons] at parsesAll
    rw [stringify] at enough ⊢
    simp only [List.length_cons, List.length_append] at enough
    have closes : skipWhiteSpace (lineBreak gap depth ++ rightBrace :: rest) =
        rightBrace :: rest := by
      rw [skipWhiteSpace_append (isWhiteSpace_lineBreak gapIsSpace depth),
        skipWhiteSpace_cons (by decide)]
    have membersParse := @parseMembers_append gap gapIsSpace (depth + 1) fuel key value
      members _ rest parsesAll.1 parsesAll.2 closes
      (endsNumber_lineBreak (endsNumber_cons (by decide) _) depth)
      (by simp only [List.length_append]; omega)
    rw [List.cons_append, parseValue_cons (by decide), List.append_assoc,
      List.append_assoc (lineBreak gap depth), List.singleton_append, membersParse]
    have atKey : skipWhiteSpace (memberText gap (depth + 1) key
        (stringify gap (depth + 1) value) ++ stringifyMembers gap (depth + 1) members ++
        (lineBreak gap depth ++ rightBrace :: rest)) =
          quotationMark :: (escape key ++ [quotationMark] ++ colon :: (colonSpace gap ++
            stringify gap (depth + 1) value) ++ stringifyMembers gap (depth + 1) members ++
            (lineBreak gap depth ++ rightBrace :: rest)) := by
      rw [memberText, List.append_assoc, List.append_assoc,
        skipWhiteSpace_append (isWhiteSpace_lineBreak gapIsSpace (depth + 1)), quote,
        List.cons_append, List.cons_append, skipWhiteSpace_cons (by decide)]
      simp
    rw [atKey]
    show some (JsonValue.object (collectMembers ((key, value) :: members)), rest) = _
    rw [collectMembers_of_nodup nodupKeys]

end RoundTrip

mutual
def HasOwnKeys : JsonValue → Prop
  | .array elements => ElementsHaveOwnKeys elements
  | .object members => (members.map Prod.fst).Nodup ∧ MembersHaveOwnKeys members
  | _ => True

def ElementsHaveOwnKeys : List JsonValue → Prop
  | [] => True
  | element :: elements => HasOwnKeys element ∧ ElementsHaveOwnKeys elements

def MembersHaveOwnKeys : List (List CodeUnit × JsonValue) → Prop
  | [] => True
  | (_, value) :: members => HasOwnKeys value ∧ MembersHaveOwnKeys members
end

mutual
theorem parsesBack_of_hasOwnKeys {gap : List CodeUnit}
    (gapIsSpace : ∀ unit ∈ gap, isWhiteSpace unit = true) :
    (value : JsonValue) → HasOwnKeys value → ParsesBack gap value
  | .null, _ => parsesBack_of_succ fun _ _ _ _ _ => rfl
  | .boolean true, _ => parsesBack_of_succ fun _ _ _ _ _ => rfl
  | .boolean false, _ => parsesBack_of_succ fun _ _ _ _ _ => rfl
  | .number number, _ =>
    parsesBack_of_succ fun _ fuel _ _ ends => parseValue_number fuel number ends
  | .string value, _ => parsesBack_of_succ fun _ fuel rest _ _ => parseValue_quote fuel value rest
  | .array elements, ownKeys =>
    parsesBack_array gapIsSpace (elements_parseBack gapIsSpace elements ownKeys)
  | .object members, ownKeys =>
    parsesBack_object gapIsSpace ownKeys.1 (members_parseBack gapIsSpace members ownKeys.2)

theorem elements_parseBack {gap : List CodeUnit}
    (gapIsSpace : ∀ unit ∈ gap, isWhiteSpace unit = true) :
    (elements : List JsonValue) → ElementsHaveOwnKeys elements →
      ∀ element ∈ elements, ParsesBack gap element
  | [], _ => List.forall_mem_nil _
  | element :: elements, ownKeys =>
    List.forall_mem_cons.mpr ⟨parsesBack_of_hasOwnKeys gapIsSpace element ownKeys.1,
      elements_parseBack gapIsSpace elements ownKeys.2⟩

theorem members_parseBack {gap : List CodeUnit}
    (gapIsSpace : ∀ unit ∈ gap, isWhiteSpace unit = true) :
    (members : List (List CodeUnit × JsonValue)) → MembersHaveOwnKeys members →
      ∀ member ∈ members, ParsesBack gap member.2
  | [], _ => List.forall_mem_nil _
  | (_, value) :: members, ownKeys =>
    List.forall_mem_cons.mpr ⟨parsesBack_of_hasOwnKeys gapIsSpace value ownKeys.1,
      members_parseBack gapIsSpace members ownKeys.2⟩
end

theorem parse_stringify {gap : List CodeUnit}
    (gapIsSpace : ∀ unit ∈ gap, isWhiteSpace unit = true) {value : JsonValue}
    (ownKeys : HasOwnKeys value) : parse (stringify gap 0 value) = some value := by
  have noRest : EndsNumber [] := nofun
  have parses := parsesBack_of_hasOwnKeys gapIsSpace value ownKeys 0
    ((stringify gap 0 value).length + 1) [] (Nat.le_succ _) noRest
  rw [List.append_nil] at parses
  rw [parse, parses]
  rfl

/-! ## Nothing that is read is longer than its text -/

theorem length_of_unit {unit : CodeUnit} {text value rest : List CodeUnit}
    (shorter : ∀ {value rest : List CodeUnit}, parseString text = some (value, rest) →
      value.length + rest.length < text.length)
    (read : (do
      let (value, rest) ← parseString text
      return (unit :: value, rest)) = some (value, rest)) :
    value.length + rest.length < text.length + 1 := by
  rcases Option.bind_eq_some_iff.mp read with ⟨⟨others, otherRest⟩, readOthers, same⟩
  cases same
  have fits := shorter readOthers
  rw [List.length_cons]
  omega

theorem length_of_parseString {text value rest : List CodeUnit}
    (read : parseString text = some (value, rest)) :
    value.length + rest.length < text.length := by
  fun_induction parseString text generalizing value rest with
  | case1 => cases read
  | case2 =>
    cases read
    rw [List.length_nil, List.length_cons]
    omega
  | case3 => cases read
  | case4 => cases read
  | case5 first second third fourth text _ _ shorter =>
    rcases Option.bind_eq_some_iff.mp read with ⟨unit, _, read⟩
    have fits := length_of_unit shorter read
    simp only [List.length_cons]
    omega
  | case6 => cases read
  | case7 short text _ _ _ shorter =>
    rcases Option.bind_eq_some_iff.mp read with ⟨unit, _, read⟩
    have fits := length_of_unit shorter read
    simp only [List.length_cons]
    omega
  | case8 unit text _ _ _ shorter => exact length_of_unit shorter read

/-- A value that is a string has fewer units than `bound`. -/
def ShorterThan (bound : Nat) (value : JsonValue) : Prop :=
  ∀ text, value = .string text → text.length < bound

theorem parseLiteral_spec {text rest : List CodeUnit} {value : JsonValue}
    (read : parseLiteral text = some (value, rest)) :
    rest.length ≤ text.length ∧ (∀ string, value ≠ .string string) ∧
      ∀ members, value ≠ .object members := by
  have dropped {name rest : List CodeUnit}
      (isPrefix : parseLiteral.dropPrefix text name = some rest) : rest.length ≤ text.length := by
    rw [parseLiteral.dropPrefix] at isPrefix
    split_ifs at isPrefix
    cases isPrefix
    rw [List.length_drop]
    omega
  rw [parseLiteral] at read
  split at read
  · rename_i isNull
    cases read
    exact ⟨dropped isNull, nofun, nofun⟩
  · split at read
    · rename_i isTrue
      cases read
      exact ⟨dropped isTrue, nofun, nofun⟩
    · split at read
      · rename_i isFalse
        cases read
        exact ⟨dropped isFalse, nofun, nofun⟩
      · rw [List.span_eq_takeWhile_dropWhile] at read
        rcases Option.map_eq_some_iff.mp read with ⟨number, _, same⟩
        cases same
        exact ⟨(List.dropWhile_sublist _).length_le, nofun, nofun⟩

theorem length_skipWhiteSpace_le (text : List CodeUnit) :
    (skipWhiteSpace text).length ≤ text.length :=
  (List.dropWhile_sublist _).length_le

theorem length_of_skipWhiteSpace {text rest : List CodeUnit} {unit : CodeUnit}
    (skipped : skipWhiteSpace text = unit :: rest) : rest.length < text.length := by
  have shorter := length_skipWhiteSpace_le text
  rw [skipped] at shorter
  exact shorter

/-- What reading with some fuel leaves, and the strings it finds. -/
structure ReadSpec (fuel : Nat) : Prop where
  value : ∀ {text value rest}, parseValue fuel text = some (value, rest) →
    rest.length ≤ text.length ∧ ShorterThan text.length value ∧
      ∀ members, value = .object members → ∀ member ∈ members, ShorterThan text.length member.2
  elements : ∀ {text elements rest}, parseElements fuel text = some (elements, rest) →
    rest.length ≤ text.length
  members : ∀ {text members rest}, parseMembers fuel text = some (members, rest) →
    rest.length ≤ text.length ∧ ∀ member ∈ members, ShorterThan text.length member.2

theorem ShorterThan.mono {bound larger : Nat} {value : JsonValue}
    (shorter : ShorterThan bound value) (le : bound ≤ larger) : ShorterThan larger value :=
  fun text isText => Nat.lt_of_lt_of_le (shorter text isText) le

theorem readSpec_zero : ReadSpec 0 where
  value read := by
    cases read
  elements read := by
    cases read
  members read := by
    cases read

theorem length_of_parseKey {text key rest : List CodeUnit}
    (read : parseKey text = some (key, rest)) : rest.length ≤ text.length := by
  rw [parseKey] at read
  split at read
  · cases read
  · rename_i mark behind skipped
    have behindMark := length_of_skipWhiteSpace skipped
    split_ifs at read
    split at read
    · cases read
    · rename_i found others readKey
      have behindKey := length_of_parseString readKey
      split at read
      · cases read
      · rename_i unit behindColon skippedAgain
        have behindIt := length_of_skipWhiteSpace skippedAgain
        split_ifs at read
        cases read
        omega

theorem mem_setEntries {Value : Type*} {key : List CodeUnit} {value : Value}
    {entries : List (List CodeUnit × Value)} {member : List CodeUnit × Value}
    (isMember : member ∈ OrderedMap.setEntries key value entries) :
    member = (key, value) ∨ member ∈ entries := by
  induction entries with
  | nil => exact .inl (List.mem_singleton.mp isMember)
  | cons entry entries induction =>
    rw [OrderedMap.setEntries] at isMember
    split_ifs at isMember
    · rcases List.mem_cons.mp isMember with isNew | later
      · exact .inl isNew
      · exact .inr (List.mem_cons_of_mem _ later)
    · rcases List.mem_cons.mp isMember with rfl | later
      · exact .inr List.mem_cons_self
      · rcases induction later with isNew | later
        · exact .inl isNew
        · exact .inr (List.mem_cons_of_mem _ later)

theorem mem_of_mem_foldl_setEntries {Value : Type*} {member : List CodeUnit × Value}
    {entries collected : List (List CodeUnit × Value)}
    (isMember : member ∈ entries.foldl (fun members (key, value) =>
      OrderedMap.setEntries key value members) collected) :
    member ∈ collected ∨ member ∈ entries := by
  induction entries generalizing collected with
  | nil => exact .inl isMember
  | cons entry entries induction =>
    rcases induction isMember with earlier | later
    · rcases mem_setEntries earlier with rfl | earlier
      · exact .inr List.mem_cons_self
      · exact .inl earlier
    · exact .inr (List.mem_cons_of_mem _ later)

theorem mem_of_mem_collectMembers {members : List (List CodeUnit × JsonValue)}
    {member : List CodeUnit × JsonValue} (isMember : member ∈ collectMembers members) :
    member ∈ members :=
  (mem_of_mem_foldl_setEntries isMember).resolve_left List.not_mem_nil

theorem ReadSpec.value_succ {fuel : Nat} (spec : ReadSpec fuel) {text rest : List CodeUnit}
    {value : JsonValue} (read : parseValue (fuel + 1) text = some (value, rest)) :
    rest.length ≤ text.length ∧ ShorterThan text.length value ∧
      ∀ members, value = .object members →
        ∀ member ∈ members, ShorterThan text.length member.2 := by
  rw [parseValue] at read
  split at read
  · cases read
  · rename_i unit behind skipped
    have behindUnit := length_of_skipWhiteSpace skipped
    split_ifs at read
    · rcases Option.map_eq_some_iff.mp read with ⟨⟨string, others⟩, readString, same⟩
      cases same
      have fits := length_of_parseString readString
      refine ⟨by omega, ?_, nofun⟩
      intro other isOther
      cases isOther
      omega
    · split at read
      · cases read
      · rename_i next others skippedAgain
        have behindNext := length_of_skipWhiteSpace skippedAgain
        split_ifs at read
        · cases read
          exact ⟨by omega, nofun, nofun⟩
        · rcases Option.map_eq_some_iff.mp read with ⟨⟨elements, others⟩, readElements, same⟩
          cases same
          have fits := spec.elements readElements
          exact ⟨by omega, nofun, nofun⟩
    · split at read
      · cases read
      · rename_i next others skippedAgain
        have behindNext := length_of_skipWhiteSpace skippedAgain
        split_ifs at read
        · cases read
          refine ⟨by omega, nofun, ?_⟩
          intro members isObject
          cases isObject
          exact List.forall_mem_nil _
        · rcases Option.map_eq_some_iff.mp read with ⟨⟨members, others⟩, readMembers, same⟩
          cases same
          rcases spec.members readMembers with ⟨fits, shorter⟩
          refine ⟨by omega, nofun, ?_⟩
          intro collected isObject
          cases isObject
          intro member isMember
          exact (shorter member (mem_of_mem_collectMembers isMember)).mono (by omega)
    · rcases parseLiteral_spec read with ⟨fits, notString, notObject⟩
      rw [List.length_cons] at fits
      exact ⟨by omega, fun string isString => absurd isString (notString string),
        fun members isObject => absurd isObject (notObject members)⟩

theorem ReadSpec.elements_succ {fuel : Nat} (spec : ReadSpec fuel) {text rest : List CodeUnit}
    {elements : List JsonValue} (read : parseElements (fuel + 1) text = some (elements, rest)) :
    rest.length ≤ text.length := by
  rw [parseElements] at read
  split at read
  · cases read
  · rename_i value behind readValue
    have behindValue := (spec.value readValue).1
    split at read
    · cases read
    · rename_i unit others skipped
      have behindUnit := length_of_skipWhiteSpace skipped
      split_ifs at read
      · rcases Option.map_eq_some_iff.mp read with ⟨⟨values, others⟩, readOthers, same⟩
        cases same
        have fits := spec.elements readOthers
        omega
      · cases read
        omega

theorem ReadSpec.members_succ {fuel : Nat} (spec : ReadSpec fuel) {text rest : List CodeUnit}
    {members : List (List CodeUnit × JsonValue)}
    (read : parseMembers (fuel + 1) text = some (members, rest)) :
    rest.length ≤ text.length ∧ ∀ member ∈ members, ShorterThan text.length member.2 := by
  rw [parseMembers] at read
  split at read
  · cases read
  · rename_i key behind readKey
    have behindKey := length_of_parseKey readKey
    split at read
    · cases read
    · rename_i value behindIt readValue
      rcases spec.value readValue with ⟨behindValue, shorter, _⟩
      split at read
      · cases read
      · rename_i unit others skipped
        have behindUnit := length_of_skipWhiteSpace skipped
        split_ifs at read
        · rcases Option.map_eq_some_iff.mp read with ⟨⟨members, others⟩, readOthers, same⟩
          cases same
          rcases spec.members readOthers with ⟨fits, shorterOthers⟩
          refine ⟨by omega, List.forall_mem_cons.mpr ⟨shorter.mono behindKey, ?_⟩⟩
          exact fun member isMember => (shorterOthers member isMember).mono (by omega)
        · cases read
          exact ⟨by omega, List.forall_mem_singleton.mpr (shorter.mono behindKey)⟩

theorem readSpec (fuel : Nat) : ReadSpec fuel := by
  induction fuel with
  | zero => exact readSpec_zero
  | succ fuel induction =>
    exact ⟨induction.value_succ, induction.elements_succ, induction.members_succ⟩

theorem shorterThan_of_parse {text : List CodeUnit} {members : List (List CodeUnit × JsonValue)}
    (read : parse text = some (.object members)) :
    ∀ member ∈ members, ShorterThan text.length member.2 := by
  rw [parse] at read
  split at read
  · cases read
  · rename_i value rest readValue
    split_ifs at read
    cases read
    exact ((readSpec _).value readValue).2.2 members rfl

end MatterJs.JsonText
