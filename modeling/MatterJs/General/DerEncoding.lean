import MatterJs.General.DerTermination
import MatterJs.General.ParseInt

/-! Encoding of the ASN.1 elements certificates are made of, and what the decoder makes of
them. -/

namespace MatterJs.General

open ByteOrder SignedReader

inductive DerStringType where
  | utf8
  | printable
  | ia5
  deriving DecidableEq

/-- What is encoded. Of an object the values of its properties matter, in their order. -/
inductive DerValue where
  | boolean (bool : Bool)
  | integer (value : Nat)
  /-- `DatatypeOverride(DerType.Integer, bytes)` -/
  | integerBytes (bytes : Bytes)
  /-- A string, or the override of one with another type -/
  | string (type : DerStringType) (text : List Char)
  | octetString (bytes : Bytes)
  | bitByteArray (data : Bytes) (padding : UInt8)
  /-- `DatatypeOverride(DerType.BitString, value)` -/
  | bits (value : Nat)
  | objectId (bytes : Bytes)
  | object (values : List DerValue)
  | array (elements : List DerValue)

namespace DerStringType

/-- The `DerType` -/
def tag : DerStringType → UInt8
  | utf8 => 0x0c
  | printable => 0x13
  | ia5 => 0x16

def allows : DerStringType → Char → Bool
  | utf8, _ => true
  | printable, char => char.isAlphanum || " '()+,-./:=?".toList.contains char
  | ia5, char => char.toNat ≤ 0x7f

def refusal (text : List Char) : DerStringType → String
  | utf8 => ""
  | printable => "String " ++ String.ofList text ++ " is not a printable string."
  | ia5 => "String " ++ String.ofList text ++ " is not an IA5 string."

end DerStringType

namespace DerCodec

def toHex (value : Nat) : List Char :=
  let hex := Nat.toDigits 16 value
  if hex.length % 2 = 0 then hex else '0' :: hex

/-- `Bytes.fromHex`, for an even number of digits -/
def fromHex : List Char → Bytes
  | first :: second :: rest => .ofNat ((parseInt [first, second] 16).getD 0).toNat :: fromHex rest
  | _ => []

/-- The loop of `encodeLengthBytes`, from the first byte that may not be zero on -/
def significant : Bytes → Bytes
  | first :: second :: rest =>
    if first = 0 then significant (second :: rest) else first :: second :: rest
  | bytes => bytes

def encodeLengthBytes (value : Nat) : Bytes :=
  let bytes := significant (ByteOrder.encode .big 4 value)
  if bytes.length > 1 ∨ bytes.headD 0 ≥ 0x80 then .ofNat (0x80 + bytes.length) :: bytes else bytes

def encodeAsn1 (tag : UInt8) (data : Bytes) : Bytes :=
  tag :: (encodeLengthBytes data.length ++ data)

/-- The loop of `encodeInteger` over `byteArray` from `start` on, up to `byteArray.slice(start)` -/
def sliceInteger : Bytes → Except MatterError Bytes
  | first :: second :: rest =>
    if first ≠ 0 then .ok (first :: second :: rest)
    else if second ≥ 0x80 then .ok (first :: second :: rest)
    else if rest = [] then .ok [second]
    else sliceInteger (second :: rest)
  | [first] =>
    if first ≠ 0 then .ok [first]
    else .error (.rangeError "Offset is outside the bounds of the DataView")
  | [] => .error (.rangeError "Offset is outside the bounds of the DataView")

def encodeInteger (valueBytes : Bytes) : Except MatterError Bytes := do
  return encodeAsn1 0x02 (← sliceInteger (0 :: valueBytes))

def encodeString (type : DerStringType) (text : List Char) : Except MatterError Bytes :=
  if text.all type.allows then .ok (encodeAsn1 type.tag (Utf8.encode text))
  else .error (.unexpectedDataError (type.refusal text))

/-- The object of `BitByteArray` -/
def encodeBitByteArray (data : Bytes) (padding : UInt8) : Bytes := encodeAsn1 0x03 (padding :: data)

def encodeBitString (value : Nat) : Bytes :=
  let reversedBits := padStart 8 (Nat.toDigits 2 value)
  let unusedBits := reversedBits.idxOf? '1'
  let bitByteArray := [.ofNat ((parseInt reversedBits.reverse 2).getD 0).toNat]
  encodeBitByteArray bitByteArray (.ofNat (unusedBits.getD 8))

mutual

def encode : DerValue → Except MatterError Bytes
  | .boolean bool => .ok (encodeAsn1 0x01 [if bool then 0xff else 0])
  | .integer value => encodeInteger (fromHex (toHex value))
  | .integerBytes bytes => encodeInteger bytes
  | .string type text => encodeString type text
  | .octetString bytes => .ok (encodeAsn1 0x04 bytes)
  | .bitByteArray data padding => .ok (encodeBitByteArray data padding)
  | .bits value => .ok (encodeBitString value)
  | .objectId bytes => .ok (encodeAsn1 0x06 bytes)
  | .object values => do return encodeAsn1 0x30 (← encodeAll values)
  | .array elements => do return encodeAsn1 0x31 (← encodeAll elements)

def encodeAll : List DerValue → Except MatterError Bytes
  | [] => .ok []
  | value :: values => do
    let bytes ← encode value
    return bytes ++ (← encodeAll values)

end

/-- Two's complement of a number that is not negative, the highest byte first -/
structure IsInteger (bytes : Bytes) (value : Nat) : Prop where
  isValue : ByteOrder.decode .big bytes = value
  isPositive : ∃ first rest, bytes = first :: rest ∧ first < 0x80

structure IsShortestInteger (bytes : Bytes) (value : Nat) : Prop
    extends IsInteger bytes value where
  shortest : ∀ others, IsInteger others value → bytes.length ≤ others.length

/-- The number that named bits stand for, the first of which is the highest of the first byte -/
def namedBits (bytes : Bytes) (unused : Nat) : Nat :=
  let bits := bytes.flatMap fun byte => (List.range 8).map fun i => byte.toNat.testBit (7 - i)
  (bits.take (bits.length - unused)).foldr (fun bit number => bit.toNat + 2 * number) 0

mutual

def Matches : DerValue → DerNode → Prop
  | .boolean bool, .primitive tag bytes => tag = 0x01 ∧ bytes = [if bool then 0xff else 0]
  | .integer value, .primitive tag bytes => tag = 0x02 ∧ IsShortestInteger bytes value
  | .integerBytes valueBytes, .primitive tag bytes =>
    tag = 0x02 ∧ IsShortestInteger bytes (ByteOrder.decode .big valueBytes)
  | .string type text, .primitive tag bytes => tag = type.tag.toNat ∧ bytes = Utf8.encode text
  | .octetString content, .primitive tag bytes => tag = 0x04 ∧ bytes = content
  | .bitByteArray data unused, .bitString bytes padding => bytes = data ∧ padding = some unused
  | .bits value, .bitString bytes padding =>
    ∃ unused, padding = some unused ∧ namedBits bytes unused.toNat = value
  | .objectId content, .primitive tag bytes => tag = 0x06 ∧ bytes = content
  | .object values, .constructed tag bytes elements =>
    tag = 0x30 ∧ encodeAll values = .ok bytes ∧ MatchesAll values elements
  | .array values, .constructed tag bytes elements =>
    tag = 0x31 ∧ encodeAll values = .ok bytes ∧ MatchesAll values elements
  | _, _ => False

def MatchesAll : List DerValue → List DerNode → Prop
  | [], [] => True
  | value :: values, node :: nodes => Matches value node ∧ MatchesAll values nodes
  | _, _ => False

end

mutual

def BitsFit : DerValue → Prop
  | .bits value => value < 256
  | .object values => AllBitsFit values
  | .array elements => AllBitsFit elements
  | _ => True

def AllBitsFit : List DerValue → Prop
  | [] => True
  | value :: values => BitsFit value ∧ AllBitsFit values

end

theorem decode_significant (bytes : Bytes) :
    ByteOrder.decode .big (significant bytes) = ByteOrder.decode .big bytes := by
  induction bytes with
  | nil => rfl
  | cons first rest induction =>
    cases rest with
    | nil => rfl
    | cons second rest =>
      rw [significant]
      split
      · rename_i zero
        rw [induction, decode_big_cons first, zero]
        exact (Nat.zero_add _).symm.trans (congrArg (· + _) (Nat.zero_mul _).symm)
      · rfl

theorem length_significant {bytes : Bytes} (notEmpty : bytes ≠ []) :
    0 < (significant bytes).length ∧ (significant bytes).length ≤ bytes.length := by
  induction bytes with
  | nil => exact absurd rfl notEmpty
  | cons first rest induction =>
    cases rest with
    | nil => exact ⟨Nat.one_pos, le_refl _⟩
    | cons second rest =>
      rw [significant]
      split
      · rcases induction (List.cons_ne_nil _ _) with ⟨positive, short⟩
        exact ⟨positive, short.trans (Nat.le_succ _)⟩
      · exact ⟨Nat.succ_pos _, le_refl _⟩

theorem encodeLengthBytes_isField {length : Nat} (short : length < 2 ^ 31) :
    LengthField (encodeLengthBytes length) length := by
  have wide := ByteOrder.encode_length .big 4 length
  have notEmpty : ByteOrder.encode .big 4 length ≠ [] := List.ne_nil_of_length_pos (by omega)
  have value := decode_significant (ByteOrder.encode .big 4 length)
  rcases length_significant notEmpty with ⟨positive, atMost⟩
  rw [decode_encode, Nat.mod_eq_of_lt (by omega)] at value
  rw [encodeLengthBytes]
  generalize significant (ByteOrder.encode .big 4 length) = bytes at value positive atMost
  split
  · have signed : signedLength bytes = length := by
      rw [signedLength_eq]
      simp only [Int.bmod]
      omega
    rw [← signed]
    apply LengthField.long
    rw [UInt8.toNat_ofNat']
    omega
  · rename_i isShort
    rw [not_or] at isShort
    rcases List.length_eq_one_iff.mp (by omega : bytes.length = 1) with ⟨byte, rfl⟩
    have byteValue : byte.toNat = length := by
      rw [← value]
      exact (Nat.add_zero _).symm
    rw [← byteValue]
    exact .short byte (UInt8.lt_iff_toNat_lt.mp (UInt8.not_le.mp isShort.2))

theorem decodeAsn1_encodeAsn1 {reader : SignedReader} {tag : UInt8} {data later : Bytes}
    (short : data.length < 2 ^ 31) (inside : 0 ≤ reader.offset)
    (rest : reader.rest = encodeAsn1 tag data ++ later) :
    ∃ next, decodeAsn1 reader = .ok ((tag.toNat, data), next) ∧
      Took reader (encodeAsn1 tag data) next ∧ next.rest = later := by
  have split : reader.rest = (tag :: encodeLengthBytes data.length) ++ (data ++ later) := by
    rw [rest, encodeAsn1, List.cons_append, List.append_assoc, List.cons_append]
  rcases Took.of_rest inside split with ⟨middle, tookHeader, middleRest⟩
  have middleInside : 0 ≤ middle.offset := by
    rw [tookHeader.offset]
    omega
  rcases Took.of_rest middleInside middleRest with ⟨next, tookData, nextRest⟩
  have reads : middle.readByteArray data.length = (data, next) := by
    have bound := next.offset_le
    have offset := tookData.offset
    have start : (middle.offset.toNat : Int) = middle.offset := Int.toNat_of_nonneg middleInside
    rw [tookData.buffer] at bound
    apply Prod.ext
    · change subarray middle.buffer middle.offset (middle.offset + data.length) = data
      rw [← start, subarray_ofNat _ (by omega)]
      exact (congrArg (List.take _) middleRest).trans (List.take_left' rfl)
    · have advanced : min (middle.offset + data.length) (middle.buffer.length : Int) =
          next.offset := by omega
      exact @eq_of_fields (middle.getOffsetAndAdvance data.length).2 next tookData.buffer.symm
        advanced
  refine ⟨next, ?_, tookHeader.trans tookData, nextRest⟩
  exact decodeAsn1_eq_ok_iff.mpr
    ⟨tag, _, _, middle, rfl, encodeLengthBytes_isField short, tookHeader, reads⟩

theorem IsInteger.behind {first second : UInt8} {rest : Bytes} {value : Nat}
    (isInteger : IsInteger (first :: second :: rest) value) (zero : first = 0)
    (positive : second < 0x80) : IsInteger (second :: rest) value := by
  refine ⟨?_, second, rest, rfl, positive⟩
  rw [← isInteger.isValue, decode_big_cons first, zero]
  exact (Nat.zero_add _).symm.trans (congrArg (· + _) (Nat.zero_mul _).symm)

theorem IsInteger.lt {bytes : Bytes} {value : Nat} (isInteger : IsInteger bytes value) :
    value < 128 * 256 ^ (bytes.length - 1) := by
  rcases isInteger.isPositive with ⟨first, rest, rfl, positive⟩
  have upper := decode_lt .big rest
  have small : first.toNat ≤ 127 := Nat.le_of_lt_succ (UInt8.lt_iff_toNat_lt.mp positive)
  have scaled := Nat.mul_le_mul_right (256 ^ rest.length) small
  rw [← isInteger.isValue, decode_big_cons, List.length_cons, Nat.add_sub_cancel]
  omega

theorem IsInteger.isShortest {first second : UInt8} {rest : Bytes} {value : Nat}
    (isInteger : IsInteger (first :: second :: rest) value)
    (needed : first ≠ 0 ∨ second ≥ 0x80) : IsShortestInteger (first :: second :: rest) value := by
  refine ⟨isInteger, ?_⟩
  intro others isOther
  by_contra fewer
  have upper := isOther.lt
  have power : 256 ^ (others.length - 1) ≤ 256 ^ rest.length := by
    apply Nat.pow_le_pow_right (by decide)
    rw [List.length_cons, List.length_cons] at fewer
    omega
  have isValue := isInteger.isValue
  rw [decode_big_cons, decode_big_cons, List.length_cons, Nat.pow_succ] at isValue
  rcases needed with nonzero | high
  · have positive : 1 ≤ first.toNat := by
      apply Nat.one_le_iff_ne_zero.mpr
      intro zero
      exact nonzero (UInt8.toNat_inj.mp zero)
    have scaled := Nat.mul_le_mul_right (256 ^ rest.length * 256) positive
    omega
  · have large : 128 ≤ second.toNat := UInt8.le_iff_toNat_le.mp high
    have scaled := Nat.mul_le_mul_right (256 ^ rest.length) large
    omega

theorem sliceInteger_isShortest {value : Nat} : ∀ {rest : Bytes} {first second : UInt8},
    IsInteger (first :: second :: rest) value →
      ∃ bytes, sliceInteger (first :: second :: rest) = .ok bytes ∧ IsShortestInteger bytes value
  | rest, first, second, isInteger => by
    rw [sliceInteger]
    by_cases nonzero : first ≠ 0
    · exact ⟨_, if_pos nonzero, isInteger.isShortest (Or.inl nonzero)⟩
    · by_cases high : second ≥ 0x80
      · rw [if_neg nonzero, if_pos high]
        exact ⟨_, rfl, isInteger.isShortest (Or.inr high)⟩
      · have behind := isInteger.behind (not_not.mp nonzero) (UInt8.not_le.mp high)
        rw [if_neg nonzero, if_neg high]
        cases rest with
        | nil =>
          refine ⟨_, rfl, behind, ?_⟩
          intro others isOther
          rcases isOther.isPositive with ⟨head, tail, rfl, _⟩
          exact Nat.succ_le_succ (Nat.zero_le _)
        | cons third rest => exact sliceInteger_isShortest behind

theorem encodeInteger_isShortest {valueBytes encoded : Bytes}
    (encodes : encodeInteger valueBytes = .ok encoded) :
    ∃ bytes, encoded = encodeAsn1 0x02 bytes ∧
      IsShortestInteger bytes (ByteOrder.decode .big valueBytes) := by
  cases valueBytes with
  | nil => nomatch encodes
  | cons first rest =>
    have isInteger : IsInteger (0 :: first :: rest) (ByteOrder.decode .big (first :: rest)) := by
      refine ⟨?_, 0, _, rfl, by decide⟩
      rw [decode_big_cons]
      exact (congrArg (· + _) (Nat.zero_mul _)).trans (Nat.zero_add _)
    rcases sliceInteger_isShortest isInteger with ⟨bytes, slices, isShortest⟩
    rw [encodeInteger, slices] at encodes
    exact ⟨bytes, (Except.ok.inj encodes).symm, isShortest⟩

theorem parseInt_pair : ∀ high < 16, ∀ low < 16,
    parseInt [Nat.digitChar high, Nat.digitChar low] 16 = some ((16 * high + low : Nat) : Int) := by
  decide +kernel

theorem fromHex_append {front back : List Char} (even : front.length % 2 = 0) :
    fromHex (front ++ back) = fromHex front ++ fromHex back := by
  induction front using fromHex.induct with
  | case1 first second rest induction =>
    rw [List.length_cons, List.length_cons] at even
    rw [List.cons_append, List.cons_append, fromHex, induction (by omega)]
    rfl
  | case2 text short =>
    match text with
    | [] => rfl
    | first :: second :: rest => exact absurd rfl (short first second rest)

theorem toHex_even (value : Nat) : (toHex value).length % 2 = 0 := by
  rw [toHex]
  split
  · assumption
  · rw [List.length_cons]
    omega

theorem toHex_of_large {value : Nat} (large : 256 ≤ value) :
    toHex value = toHex (value / 256) ++
      [Nat.digitChar (value / 16 % 16), Nat.digitChar (value % 16)] := by
  have digits : Nat.toDigits 16 value = Nat.toDigits 16 (value / 256) ++
      [Nat.digitChar (value / 16 % 16), Nat.digitChar (value % 16)] := by
    rw [Nat.toDigits_of_base_le (by decide) (by omega : 16 ≤ value),
      Nat.toDigits_of_base_le (by decide) (by omega : 16 ≤ value / 16), Nat.div_div_eq_div_mul,
      List.append_assoc]
    rfl
  rw [toHex, toHex, digits, List.length_append, List.length_cons, List.length_singleton,
    Nat.add_mod_right]
  split <;> rfl

theorem decode_fromHex_toHex (value : Nat) :
    ByteOrder.decode .big (fromHex (toHex value)) = value := by
  have pair {high low : Nat} (isHigh : high < 16) (isLow : low < 16) :
      fromHex [high.digitChar, low.digitChar] = [.ofNat (16 * high + low)] := by
    rw [fromHex, parseInt_pair high isHigh low isLow]
    rfl
  induction value using Nat.strong_induction_on with
  | _ value induction =>
    rcases Nat.lt_or_ge value 256 with small | large
    · have digits : toHex value = [Nat.digitChar (value / 16), Nat.digitChar (value % 16)] := by
        rcases Nat.lt_or_ge value 16 with single | double
        · rw [toHex, Nat.toDigits_of_lt_base single, Nat.div_eq_of_lt single,
            Nat.mod_eq_of_lt single]
          rfl
        · rw [toHex, Nat.toDigits_of_base_le (by decide) double,
            Nat.toDigits_of_lt_base (by omega : value / 16 < 16)]
          simp
      rw [digits, pair (by omega) (by omega), Nat.div_add_mod, decode_big_cons,
        UInt8.toNat_ofNat', Nat.mod_eq_of_lt small]
      exact Nat.mul_one _
    · have byte : 16 * (value / 16 % 16) + value % 16 = value % 256 := by omega
      rw [toHex_of_large large, fromHex_append (toHex_even _), pair (by omega) (by omega), byte]
      change ofDigits (fromHex (toHex (value / 256)) ++ [_]).reverse = value
      rw [List.reverse_append, List.reverse_singleton, List.singleton_append, ofDigits,
        UInt8.toNat_ofNat']
      have front : ofDigits (fromHex (toHex (value / 256))).reverse = value / 256 :=
        induction (value / 256) (by omega)
      omega

theorem namedBits_lt (bytes : Bytes) (unused : Nat) :
    namedBits bytes unused < 2 ^ (bytes.length * 8) := by
  have number (bits : List Bool) :
      bits.foldr (fun bit number => bit.toNat + 2 * number) 0 < 2 ^ bits.length := by
    induction bits with
    | nil => exact Nat.one_pos
    | cons bit bits induction =>
      have isBit := Bool.toNat_lt bit
      rw [List.foldr_cons, List.length_cons]
      omega
  apply Nat.lt_of_lt_of_le (number _)
  apply Nat.pow_le_pow_right (by decide)
  rw [List.length_take]
  apply (Nat.min_le_right _ _).trans
  simp

theorem encodeBitString_eq (value : Nat) :
    ∃ byte unused, encodeBitString value = encodeBitByteArray [byte] unused ∧
      (namedBits [byte] unused.toNat = value ↔ value < 256) := by
  have small : ∀ value < 256,
      namedBits [.ofNat ((parseInt (padStart 8 (Nat.toDigits 2 value)).reverse 2).getD 0).toNat]
        (UInt8.ofNat (((padStart 8 (Nat.toDigits 2 value)).idxOf? '1').getD 8)).toNat = value := by
    decide +kernel
  refine ⟨_, _, rfl, ?_, small value⟩
  intro same
  rw [← same]
  apply Nat.lt_of_lt_of_le (namedBits_lt _ _)
  rw [List.length_singleton]
  decide

/-! ## The decoder reads what was encoded -/

/-- The bytes are read as a node, with fuel for each of them, and the node is that of the value
exactly when its bit strings fit. -/
def Decodes (value : DerValue) (encoded : Bytes) : Prop :=
  ∀ reader later, 0 ≤ reader.offset → reader.rest = encoded ++ later →
    ∃ node next, Took reader encoded next ∧ next.rest = later ∧
      (∀ fuel, encoded.length ≤ fuel → decodeRec fuel reader = some (.ok (node, next))) ∧
      (Matches value node ↔ BitsFit value)

def DecodesAll (values : List DerValue) (content : Bytes) : Prop :=
  ∀ reader nodes, 0 ≤ reader.offset → reader.rest = content →
    ∃ elements, (∀ fuel, content.length < fuel →
        decodeElements fuel reader nodes = some (.ok (nodes ++ elements))) ∧
      (MatchesAll values elements ↔ AllBitsFit values)

variable {value : DerValue} {tag : UInt8} {data : Bytes}

theorem length_encodeAsn1 (tag : UInt8) {data : Bytes} (short : data.length < 2 ^ 31) :
    data.length + 2 ≤ (encodeAsn1 tag data).length := by
  have positive : 0 < (encodeLengthBytes data.length).length := by
    have isField := encodeLengthBytes_isField short
    generalize encodeLengthBytes data.length = field, (data.length : Int) = length at isField
    cases isField <;> exact Nat.succ_pos _
  rw [encodeAsn1, List.length_cons, List.length_append]
  omega

theorem lt_of_encodeAsn1 (short : (encodeAsn1 tag data).length < 2 ^ 31) :
    data.length < 2 ^ 31 := by
  rw [encodeAsn1, List.length_cons, List.length_append] at short
  omega

theorem decodes_of_content (short : data.length < 2 ^ 31) {node : DerNode}
    (reads : ∀ {fuel reader next}, decodeAsn1 reader = .ok ((tag.toNat, data), next) →
      data.length < fuel → decodeRec (fuel + 1) reader = some (.ok (node, next)))
    (isNode : Matches value node ↔ BitsFit value) : Decodes value (encodeAsn1 tag data) := by
  intro reader later inside rest
  rcases decodeAsn1_encodeAsn1 short inside rest with ⟨next, header, took, behind⟩
  refine ⟨node, next, took, behind, ?_, isNode⟩
  intro fuel enough
  have long := length_encodeAsn1 tag short
  cases fuel with
  | zero => omega
  | succ fuel => exact reads header (by omega)

theorem decodes_primitive (short : data.length < 2 ^ 31) (notBits : tag.toNat ≠ bitString)
    (isPrimitive : tag.toNat &&& constructed = 0)
    (isNode : Matches value (.primitive tag.toNat data) ↔ BitsFit value) :
    Decodes value (encodeAsn1 tag data) := by
  apply decodes_of_content short _ isNode
  intro fuel reader next header _
  rw [decodeRec, header]
  simp [if_neg notBits, if_pos isPrimitive]

theorem decodes_bitString {padding : UInt8} (short : (padding :: data).length < 2 ^ 31)
    (isNode : Matches value (.bitString data (some padding)) ↔ BitsFit value) :
    Decodes value (encodeBitByteArray data padding) := by
  apply decodes_of_content short _ isNode
  intro fuel reader next header _
  rw [decodeRec, header]
  rfl

theorem decodes_constructed {values : List DerValue} {encoded : Bytes}
    (encodes : (do return encodeAsn1 tag (← encodeAll values)) = Except.ok encoded)
    (short : encoded.length < 2 ^ 31)
    (notBits : tag.toNat ≠ bitString) (isConstructed : tag.toNat &&& constructed ≠ 0)
    (decodes : ∀ {content}, encodeAll values = .ok content → content.length < 2 ^ 31 →
      DecodesAll values content)
    (isNode : ∀ content elements, Matches value (.constructed tag.toNat content elements) ↔
      encodeAll values = .ok content ∧ MatchesAll values elements)
    (fits : BitsFit value ↔ AllBitsFit values) : Decodes value encoded := by
  cases all : encodeAll values with
  | error error =>
    rw [all] at encodes
    nomatch encodes
  | ok content =>
    rw [all] at encodes
    cases encodes
    have contentShort := lt_of_encodeAsn1 short
    rcases decodes all contentShort (.new content) [] (le_refl _) rfl with
      ⟨elements, reads, matched⟩
    apply decodes_of_content contentShort _
    · rw [isNode, fits, ← matched, and_iff_right all]
    · intro fuel reader next header enough
      rw [decodeRec, header]
      simp only [if_neg notBits, if_neg isConstructed, reads fuel enough]
      rfl

theorem decodesAll_cons {values : List DerValue} {first content : Bytes}
    (isFirst : Decodes value first) (others : DecodesAll values content) :
    DecodesAll (value :: values) (first ++ content) := by
  intro reader nodes inside rest
  rcases isFirst reader content inside rest with ⟨node, next, took, behind, reads, isNode⟩
  have nextInside : 0 ≤ next.offset := by
    rw [took.offset]
    omega
  have notEmpty : 0 < first.length := by
    by_contra empty
    nomatch reads 0 (Nat.le_of_not_lt empty)
  rcases others next (nodes ++ [node]) nextInside behind with ⟨elements, readOthers, areNodes⟩
  refine ⟨node :: elements, ?_, and_congr isNode areNodes⟩
  intro fuel enough
  rw [List.length_append] at enough
  have remains : reader.remainingBytesCount > 0 := by
    have lengths := took.length_le
    rw [remainingBytesCount]
    omega
  cases fuel with
  | zero => omega
  | succ fuel =>
    rw [decodeElements, if_pos remains, reads fuel (by omega)]
    change decodeElements fuel next (nodes ++ [node]) = _
    rw [readOthers fuel (by omega), List.append_assoc]
    rfl

theorem decodes_integer {valueBytes encoded : Bytes} {number : Nat}
    (encodes : encodeInteger valueBytes = .ok encoded) (short : encoded.length < 2 ^ 31)
    (isNumber : ByteOrder.decode .big valueBytes = number)
    (isNode : ∀ bytes, IsShortestInteger bytes number → Matches value (.primitive 0x02 bytes))
    (fits : BitsFit value) : Decodes value encoded := by
  rcases encodeInteger_isShortest encodes with ⟨bytes, rfl, isShortest⟩
  rw [isNumber] at isShortest
  apply decodes_primitive (lt_of_encodeAsn1 short) (by decide) (by decide)
  exact iff_of_true (isNode bytes isShortest) fits

mutual

theorem decodes_encode : ∀ (value : DerValue) {encoded : Bytes}, encode value = .ok encoded →
    encoded.length < 2 ^ 31 → Decodes value encoded
  | .boolean bool, _, encodes, short => by
    cases encodes
    apply decodes_primitive (lt_of_encodeAsn1 short) (by decide) (by decide)
    exact iff_of_true ⟨rfl, rfl⟩ trivial
  | .integer value, _, encodes, short =>
    decodes_integer encodes short (decode_fromHex_toHex value) (fun _ => And.intro rfl) trivial
  | .integerBytes bytes, _, encodes, short =>
    decodes_integer encodes short rfl (fun _ => And.intro rfl) trivial
  | .string type text, _, encodes, short => by
    rw [encode, encodeString] at encodes
    split at encodes
    · cases encodes
      apply decodes_primitive (lt_of_encodeAsn1 short) (by cases type <;> decide)
        (by cases type <;> decide)
      exact iff_of_true ⟨rfl, rfl⟩ trivial
    · cases encodes
  | .octetString bytes, _, encodes, short => by
    cases encodes
    apply decodes_primitive (lt_of_encodeAsn1 short) (by decide) (by decide)
    exact iff_of_true ⟨rfl, rfl⟩ trivial
  | .bitByteArray data padding, _, encodes, short => by
    cases encodes
    apply decodes_bitString (lt_of_encodeAsn1 short)
    exact iff_of_true ⟨rfl, rfl⟩ trivial
  | .bits value, _, encodes, short => by
    cases encodes
    rcases encodeBitString_eq value with ⟨byte, unused, encodes, isValue⟩
    rw [encodes] at short ⊢
    apply decodes_bitString (lt_of_encodeAsn1 short)
    rw [BitsFit, ← isValue, Matches]
    simp
  | .objectId bytes, _, encodes, short => by
    cases encodes
    apply decodes_primitive (lt_of_encodeAsn1 short) (by decide) (by decide)
    exact iff_of_true ⟨rfl, rfl⟩ trivial
  | .object values, _, encodes, short => by
    apply decodes_constructed (by rwa [encode] at encodes) short (by decide) (by decide)
      (decodesAll_encodeAll values) _ Iff.rfl
    intro content elements
    exact and_iff_right rfl
  | .array elements, _, encodes, short => by
    apply decodes_constructed (by rwa [encode] at encodes) short (by decide) (by decide)
      (decodesAll_encodeAll elements) _ Iff.rfl
    intro content nodes
    exact and_iff_right rfl

theorem decodesAll_encodeAll : ∀ (values : List DerValue) {content : Bytes},
    encodeAll values = .ok content → content.length < 2 ^ 31 → DecodesAll values content
  | [], _, encodes, _ => by
    cases encodes
    intro reader nodes inside rest
    refine ⟨[], ?_, iff_of_true trivial trivial⟩
    intro fuel enough
    cases fuel with
    | zero => nomatch enough
    | succ fuel =>
      have atEnd : ¬reader.remainingBytesCount > 0 := by
        have empty := List.drop_eq_nil_iff.mp rest
        rw [remainingBytesCount]
        omega
      rw [decodeElements, if_neg atEnd, List.append_nil]
  | value :: values, _, encodes, short => by
    rw [encodeAll] at encodes
    cases isFirst : encode value with
    | error error =>
      rw [isFirst] at encodes
      nomatch encodes
    | ok first =>
      cases areOthers : encodeAll values with
      | error error =>
        rw [isFirst, areOthers] at encodes
        nomatch encodes
      | ok others =>
        rw [isFirst, areOthers] at encodes
        cases encodes
        rw [List.length_append] at short
        exact decodesAll_cons (decodes_encode value isFirst (by omega))
          (decodesAll_encodeAll values areOthers (by omega))

end

theorem decode_encoded_iff {value : DerValue} {encoded : Bytes}
    (encodes : encode value = .ok encoded) (short : encoded.length < 2 ^ 31) :
    (∃ node, (∀ fuel, encoded.length ≤ fuel → decode fuel encoded = some (.ok node)) ∧
      Matches value node) ↔ BitsFit value := by
  rcases decodes_encode value encodes short (.new encoded) [] (le_refl _)
    (List.append_nil _).symm with ⟨node, next, _, _, reads, isNode⟩
  have decodes (fuel : Nat) (enough : encoded.length ≤ fuel) :
      decode fuel encoded = some (.ok node) := by
    rw [decode, reads fuel enough]
    rfl
  rw [← isNode]
  constructor
  · intro found
    rcases found with ⟨other, same, matched⟩
    have isSame := same _ (le_refl _)
    rw [decodes _ (le_refl _)] at isSame
    cases isSame
    exact matched
  · intro matched
    exact ⟨node, decodes, matched⟩

theorem decode_encoded_iff_sequence :
    (∃ node, (∀ fuel, 8 ≤ fuel →
        decode fuel [0x30, 0x06, 0x01, 0x01, 0xff, 0x04, 0x01, 0x05] = some (.ok node)) ∧
      Matches (.object [.boolean true, .octetString [5]]) node) ↔
      BitsFit (.object [.boolean true, .octetString [5]]) :=
  @decode_encoded_iff (.object [.boolean true, .octetString [5]])
    [0x30, 0x06, 0x01, 0x01, 0xff, 0x04, 0x01, 0x05] rfl (by decide)

/-- The ninth named bit comes back as the first one. -/
theorem decode_encoded_false : ¬∀ value encoded, encode value = .ok encoded →
    encoded.length ≤ 65535 →
      ∃ node, (∀ fuel, encoded.length ≤ fuel → decode fuel encoded = some (.ok node)) ∧
        Matches value node := by
  intro decoded
  have encodes : encode (.bits 256) = .ok [0x03, 0x02, 0x00, 0x01] := rfl
  rcases decoded _ _ encodes (by decide) with ⟨node, reads, matched⟩
  have read : decode 4 [0x03, 0x02, 0x00, 0x01] = some (.ok (.bitString [0x01] (some 0))) := rfl
  rw [reads 4 (le_refl _)] at read
  cases read
  rcases matched with ⟨unused, isUnused, isValue⟩
  cases isUnused
  revert isValue
  decide

end DerCodec

end MatterJs.General
