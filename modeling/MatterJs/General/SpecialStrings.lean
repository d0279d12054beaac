import MatterJs.Foundation.JsonRoundTrip
import MatterJs.General.StringifyTools

/-! The marked strings that `toJson` writes are read back by their type. -/

namespace MatterJs.General.StringifyTools

open JsonText

def IsPlain (unit : CodeUnit) : Prop :=
  escapeUnit unit = [unit] ∧ unit.isHighSurrogate = false

theorem quote_of_isPlain {string : List CodeUnit} (isPlain : ∀ unit ∈ string, IsPlain unit) :
    quote string = quoted string := by
  have escaped : escape string = string := by
    fun_induction escape string with
    | case1 => rfl
    | case2 unit => exact (isPlain unit List.mem_cons_self).1
    | case3 unit next rest isPair _ =>
      have notHigh := (isPlain unit List.mem_cons_self).2
      rw [notHigh] at isPair
      cases isPair.1
    | case4 unit next rest _ induction =>
      rw [List.forall_mem_cons] at isPlain
      rw [isPlain.1.1, induction isPlain.2]
      rfl
  rw [quote, escaped, quoted]

instance (unit : CodeUnit) : Decidable (IsPlain unit) := inferInstanceAs (Decidable (_ ∧ _))

theorem isPlain_ofChar {char : Char} (isDigit : char.isDigit = true) :
    IsPlain (CodeUnit.ofChar char) := by
  rcases Char.isDigit_iff_toNat.mp isDigit with ⟨lower, upper⟩
  change 48 ≤ char.toNat at lower
  change char.toNat ≤ 57 at upper
  rw [CodeUnit.ofChar]
  generalize char.toNat = code at lower upper
  interval_cases code <;> decide

theorem mem_bigintText {value : Int} {char : Char} (member : char ∈ bigintText value) :
    char.isDigit = true ∨ char = '-' := by
  have digits (isMember : char ∈ Nat.toDigits 10 value.natAbs) : char.isDigit = true :=
    Nat.isDigit_of_mem_toDigits (by decide) (by decide) isMember
  rw [bigintText] at member
  split_ifs at member
  · rcases List.mem_cons.mp member with rfl | isMember
    · exact .inr rfl
    · exact .inl (digits isMember)
  · exact .inl (digits member)

theorem isPlain_bigintText (value : Int) :
    ∀ unit ∈ units (bigintText value), IsPlain unit := by
  intro unit member
  rcases List.mem_map.mp member with ⟨char, isMember, rfl⟩
  rcases mem_bigintText isMember with isDigit | rfl
  · exact isPlain_ofChar isDigit
  · decide

variable (byte : UInt8) (bytes : List UInt8)

theorem padStart_toDigits_byte :
    padStart 2 (Nat.toDigits 16 byte.toNat) =
      [Nat.digitChar (byte.toNat / 16), Nat.digitChar (byte.toNat % 16)] := by
  have fits : byte.toNat < 256 := byte.toNat_lt
  by_cases small : byte.toNat < 16
  · rw [Nat.toDigits_of_lt_base small, Nat.div_eq_of_lt small, Nat.mod_eq_of_lt small]
    rfl
  · rw [Nat.toDigits_of_base_le (by decide) (by omega), Nat.toDigits_of_lt_base (by omega)]
    rfl

theorem isPlain_hexDigit {digit : Nat} (small : digit < 16) :
    IsPlain (CodeUnit.ofChar (Nat.digitChar digit)) := by
  interval_cases digit <;> decide

theorem isPlain_toHex : ∀ unit ∈ toHex bytes, IsPlain unit := by
  intro unit member
  rcases List.mem_flatMap.mp member with ⟨byte, _, inByte⟩
  have fits : byte.toNat < 256 := byte.toNat_lt
  rw [padStart_toDigits_byte] at inByte
  simp only [units, List.map_cons, List.map_nil, List.mem_cons, List.not_mem_nil,
    or_false] at inByte
  rcases inByte with rfl | rfl
  · exact isPlain_hexDigit (by omega)
  · exact isPlain_hexDigit (by omega)

def specialObject (type : String) (value : List CodeUnit) : JsonValue :=
  .object [(JSON_SPECIAL_KEY_TYPE, .string (text type)), (JSON_SPECIAL_KEY_VALUE, .string value)]

theorem special_quote {type : String} (isPlain : ∀ unit ∈ text type, IsPlain unit)
    (value : List CodeUnit) :
    special type (quote value) = stringify [] 0 (specialObject type value) := by
  have typeKey : quote JSON_SPECIAL_KEY_TYPE = quoted JSON_SPECIAL_KEY_TYPE :=
    quote_of_isPlain (List.all_iff_forall_prop.mp (by decide))
  have valueKey : quote JSON_SPECIAL_KEY_VALUE = quoted JSON_SPECIAL_KEY_VALUE :=
    quote_of_isPlain (List.all_iff_forall_prop.mp (by decide))
  have typeText := quote_of_isPlain isPlain
  rw [specialObject]
  simp only [stringify, stringifyMembers, memberText, typeKey, valueKey, typeText, lineBreak,
    colonSpace, if_true, List.nil_append, List.append_assoc, List.cons_append]
  rw [special]

theorem parse_special {type : String} (isPlain : ∀ unit ∈ text type, IsPlain unit)
    (value : List CodeUnit) :
    parse (special type (quote value)) = some (specialObject type value) := by
  have ownKey : JSON_SPECIAL_KEY_TYPE ∉ [JSON_SPECIAL_KEY_VALUE] := by decide
  rw [special_quote isPlain]
  apply parse_stringify (List.forall_mem_nil _)
  exact ⟨List.nodup_cons.mpr ⟨ownKey, List.nodup_singleton _⟩, trivial, trivial, trivial⟩

theorem isSpecial_special (type : String) (value : List CodeUnit) :
    isSpecial (special type value) = true := by
  have startsWith : special type value = specialPrefix ++ (text type ++ quotationMark ::
      comma :: (quoted JSON_SPECIAL_KEY_VALUE ++ colon :: (value ++ [rightBrace]))) := by
    simp [special, specialPrefix, quoted]
  have endsWith : special type value = (specialPrefix ++ (text type ++ quotationMark ::
      comma :: (quoted JSON_SPECIAL_KEY_VALUE ++ colon :: value))) ++ [rightBrace] := by
    rw [startsWith]
    simp
  rw [isSpecial, Bool.and_eq_true, List.isPrefixOf_iff_prefix]
  constructor
  · rw [startsWith]
    exact List.prefix_append _ _
  · rw [endsWith, List.getLast?_append]
    rfl

variable {conversions : NumberConversions}
  {nested : List CodeUnit → Except StringifyError StorageValue}

theorem reviveString_special {type : String} (isPlain : ∀ unit ∈ text type, IsPlain unit)
    (value : List CodeUnit) :
    reviveString conversions nested (special type (quote value)) =
      reviveSpecial conversions nested (some (.string (text type))) (some (.string value)) := by
  have typeFound : List.lookup JSON_SPECIAL_KEY_TYPE
      [(JSON_SPECIAL_KEY_TYPE, JsonValue.string (text type)),
        (JSON_SPECIAL_KEY_VALUE, .string value)] = some (.string (text type)) :=
    List.lookup_cons_self
  have valueFound : List.lookup JSON_SPECIAL_KEY_VALUE
      [(JSON_SPECIAL_KEY_TYPE, JsonValue.string (text type)),
        (JSON_SPECIAL_KEY_VALUE, .string value)] = some (.string value) := by
    have otherKey : (JSON_SPECIAL_KEY_VALUE == JSON_SPECIAL_KEY_TYPE) = false := by decide
    rw [List.lookup_cons, otherKey]
    exact List.lookup_cons_self
  rw [reviveString, if_pos (isSpecial_special type _), parse_special isPlain, specialObject]
  dsimp only
  rw [typeFound, valueFound]

/-! ## Big integers -/

theorem dropWhile_isWhiteSpace {string : List Char}
    (noSpace : ∀ char ∈ string, General.isWhiteSpace char = false) :
    string.dropWhile General.isWhiteSpace = string := by
  cases string with
  | nil => rfl
  | cons char string =>
    exact List.dropWhile_cons_of_neg
      (by rw [noSpace char List.mem_cons_self]; exact Bool.false_ne_true)

theorem trim_of_noSpace {string : List Char}
    (noSpace : ∀ char ∈ string, General.isWhiteSpace char = false) :
    parseBigInt.trim string = string := by
  have reversed : ∀ char ∈ string.reverse, General.isWhiteSpace char = false :=
    fun char member => noSpace char (List.mem_reverse.mp member)
  rw [parseBigInt.trim, dropWhile_isWhiteSpace noSpace, dropWhile_isWhiteSpace reversed,
    List.reverse_reverse]

theorem number_of_isDecimal {digits : List Char} (isDecimal : IsDecimal digits)
    (notEmpty : digits ≠ []) :
    parseBigInt.number 10 digits = some (Nat.ofDigitChars 10 digits 0 : Int) := by
  have allDigits : (digits.all fun digit => (digitValue digit).any (· < 10)) = true := by
    rw [List.all_eq_true]
    intro digit member
    rcases digitValue_of_isDigit (isDecimal digit member) with ⟨value, small⟩
    rw [value]
    exact decide_eq_true small
  rw [parseBigInt.number, if_pos ⟨notEmpty, allDigits⟩,
    leadingNumber_of_isDecimal isDecimal notEmpty]
  rfl

theorem parseBigInt_of_isDecimal {digits : List Char} (isDecimal : IsDecimal digits)
    (notEmpty : digits ≠ []) :
    parseBigInt digits = some (Nat.ofDigitChars 10 digits 0 : Int) := by
  have noSpace : ∀ char ∈ digits, General.isWhiteSpace char = false := fun char member =>
    isWhiteSpace_of_isDigit (isDecimal char member)
  have notIn {char : Char} (notDigit : char.isDigit = false) : char ∉ digits := fun member =>
    Bool.false_ne_true (notDigit.symm.trans (isDecimal char member))
  have number := number_of_isDecimal isDecimal notEmpty
  rw [parseBigInt, trim_of_noSpace noSpace]
  split
  · exact absurd rfl notEmpty
  · exact absurd (by simp) (notIn (show 'x'.isDigit = false from rfl))
  · exact absurd (by simp) (notIn (show 'X'.isDigit = false from rfl))
  · exact absurd (by simp) (notIn (show 'o'.isDigit = false from rfl))
  · exact absurd (by simp) (notIn (show 'O'.isDigit = false from rfl))
  · exact absurd (by simp) (notIn (show 'b'.isDigit = false from rfl))
  · exact absurd (by simp) (notIn (show 'B'.isDigit = false from rfl))
  · exact absurd (by simp) (notIn (show '-'.isDigit = false from rfl))
  · exact absurd (by simp) (notIn (show '+'.isDigit = false from rfl))
  · exact number

theorem parseBigInt_bigintText (value : Int) : parseBigInt (bigintText value) = some value := by
  have isDecimal : IsDecimal (Nat.toDigits 10 value.natAbs) := fun char member =>
    Nat.isDigit_of_mem_toDigits (by decide) (by decide) member
  have notEmpty : Nat.toDigits 10 value.natAbs ≠ [] := Nat.toDigits_ne_nil
  rw [bigintText]
  split_ifs with negative
  · have noSpace : ∀ char ∈ '-' :: Nat.toDigits 10 value.natAbs,
        General.isWhiteSpace char = false :=
      List.forall_mem_cons.mpr ⟨by decide, fun char member =>
        isWhiteSpace_of_isDigit (isDecimal char member)⟩
    rw [parseBigInt, trim_of_noSpace noSpace]
    show (parseBigInt.number 10 (Nat.toDigits 10 value.natAbs)).map (fun value => -value) = _
    rw [number_of_isDecimal isDecimal notEmpty, Nat.ofDigitChars_ten_toDigits]
    show some (-(value.natAbs : Int)) = some value
    congr 1
    omega
  · rw [parseBigInt_of_isDecimal isDecimal notEmpty, Nat.ofDigitChars_ten_toDigits]
    congr 1
    omega

theorem toBigInt_bigintText (value : Int) :
    toBigInt (some (.string (units (bigintText value)))) = .ok value := by
  have ascii : ∀ char ∈ bigintText value, char.toNat < 128 := by
    intro char member
    apply ascii_of_isNumberChar
    rcases mem_bigintText member with isDigit | rfl
    · simp [isNumberChar, isDigit]
    · rfl
  have read : parseBigInt (chars (units (bigintText value))) = some value := by
    rw [chars_units ascii, parseBigInt_bigintText]
  simp [toBigInt, toText, bind, Except.bind, read]

theorem parseInt_hexDigits :
    ∀ high < 16, ∀ low < 16,
      parseInt [Nat.digitChar high, Nat.digitChar low] 16 =
        some ((high * 16 + low : Nat) : Int) := by
  decide

def hexPair : List Char :=
  [Nat.digitChar (byte.toNat / 16), Nat.digitChar (byte.toNat % 16)]

theorem isLineTerminator_hexDigit {digit : Nat} (small : digit < 16) :
    isLineTerminator (CodeUnit.ofChar (Nat.digitChar digit)) = false := by
  interval_cases digit <;> decide

theorem toHex_cons : toHex (byte :: bytes) = units (hexPair byte) ++ toHex bytes := by
  rw [toHex, List.flatMap_cons, padStart_toDigits_byte]
  rfl

theorem length_toHex : (toHex bytes).length = 2 * bytes.length := by
  induction bytes with
  | nil => rfl
  | cons byte bytes induction =>
    rw [toHex_cons, List.length_append, induction, List.length_cons]
    show 2 + 2 * bytes.length = _
    omega

theorem hexPairs_toHex : hexPairs (toHex bytes) = bytes.map fun byte => units (hexPair byte) := by
  induction bytes with
  | nil => rfl
  | cons byte bytes induction =>
    have fits : byte.toNat < 256 := byte.toNat_lt
    rw [toHex_cons, List.map_cons, ← induction]
    show hexPairs (_ :: _ :: toHex bytes) = _
    rw [hexPairs, isLineTerminator_hexDigit (by omega), isLineTerminator_hexDigit (by omega)]
    rfl

theorem parseInt_hexPair :
    UInt8.ofNat (((parseInt (chars (units (hexPair byte))) 16).getD 0 % 256).toNat) = byte := by
  have fits : byte.toNat < 256 := byte.toNat_lt
  have ascii : ∀ char ∈ hexPair byte, char.toNat < 128 := by
    have small : ∀ digit < 16, (Nat.digitChar digit).toNat < 128 := by decide
    exact List.forall_mem_cons.mpr ⟨small _ (by omega),
      List.forall_mem_singleton.mpr (small _ (by omega))⟩
  have value : byte.toNat / 16 * 16 + byte.toNat % 16 = byte.toNat := by omega
  rw [chars_units ascii, hexPair, parseInt_hexDigits _ (by omega) _ (by omega), value]
  have same : ((some (byte.toNat : Int)).getD 0 % 256).toNat = byte.toNat := by
    rw [Option.getD_some]
    omega
  rw [same]
  exact UInt8.ofNat_toNat

theorem fromHexString_toHex : fromHexString (toHex bytes) = .ok bytes := by
  rw [fromHexString, length_toHex]
  cases bytes with
  | nil => rfl
  | cons byte bytes =>
    rw [if_neg (by simp), if_neg (by omega), hexPairs_toHex]
    show Except.ok (((byte :: bytes).map fun byte => units (hexPair byte)).map _) = _
    rw [List.map_map]
    have same : (byte :: bytes).map _ = (byte :: bytes).map id :=
      List.map_congr_left fun byte _ => parseInt_hexPair byte
    exact congrArg Except.ok (same.trans (List.map_id _))

theorem parse_specialUndefined :
    parse specialUndefined =
      some (.object [(JSON_SPECIAL_KEY_TYPE, .string (text "Undefined"))]) := by
  have typeKey : quote JSON_SPECIAL_KEY_TYPE = quoted JSON_SPECIAL_KEY_TYPE :=
    quote_of_isPlain (List.all_iff_forall_prop.mp (by decide))
  have typeText : quote (text "Undefined") = quoted (text "Undefined") :=
    quote_of_isPlain (List.all_iff_forall_prop.mp (by decide))
  have isText : specialUndefined =
      stringify [] 0 (.object [(JSON_SPECIAL_KEY_TYPE, .string (text "Undefined"))]) := by
    simp only [stringify, stringifyMembers, memberText, typeKey, typeText, lineBreak, colonSpace,
      if_true, List.nil_append, List.append_assoc, List.cons_append]
    rw [specialUndefined]
  rw [isText]
  apply parse_stringify (List.forall_mem_nil _)
  exact ⟨List.nodup_singleton _, trivial, trivial⟩

theorem reviveString_undefined :
    reviveString conversions nested specialUndefined = .ok .undefined := by
  have special : isSpecial specialUndefined = true := by decide
  have typeFound : List.lookup JSON_SPECIAL_KEY_TYPE
      [(JSON_SPECIAL_KEY_TYPE, JsonValue.string (text "Undefined"))] =
        some (.string (text "Undefined")) := List.lookup_cons_self
  rw [reviveString, if_pos special, parse_specialUndefined]
  dsimp only
  rw [typeFound, reviveSpecial, if_pos rfl]

theorem reviveString_bigint (value : Int) :
    reviveString conversions nested (special "BigInt" (quoted (units (bigintText value)))) =
      .ok (.bigint value) := by
  rw [← quote_of_isPlain (isPlain_bigintText value),
    reviveString_special (List.all_iff_forall_prop.mp (by decide)),
    reviveSpecial]
  rw [toBigInt_bigintText]
  rfl

theorem reviveString_bytes (value : List UInt8) :
    reviveString conversions nested (special "Uint8Array" (quoted (toHex value))) =
      .ok (.bytes value) := by
  rw [← quote_of_isPlain (isPlain_toHex value),
    reviveString_special (List.all_iff_forall_prop.mp (by decide)), reviveSpecial]
  rw [if_pos rfl, fromHex, fromHexString_toHex]
  rfl

theorem reviveString_map (entries : List CodeUnit) :
    reviveString conversions nested (special "Map" (quote entries)) =
      nested entries >>= newMap := by
  rw [reviveString_special (List.all_iff_forall_prop.mp (by decide))]
  rfl

end MatterJs.General.StringifyTools
