import MatterJs.Foundation.Bitwise32
import MatterJs.General.Verhoeff

/-! Manual pairing codes: a discriminator, a passcode and the ids of a product in decimal
digits. -/

namespace MatterJs.Types

open General Bitwise32

/-- The check of `VendorId`. -/
def VendorId (vendorId : Int) : Except MatterError Int :=
  if vendorId ≥ 0 ∧ vendorId ≤ 0xfff4 then .ok vendorId
  else .error (.validationOutOfBoundsError s!"Invalid vendor ID: {vendorId}" none)

structure ManualPairingData where
  discriminator : Option Int
  shortDiscriminator : Option Int
  passcode : Int
  vendorId : Option Int
  productId : Option Int
  deriving DecidableEq

namespace ManualPairingCode

def decimalText : Int → List Char
  | .ofNat number => Nat.toDigits 10 number
  | .negSucc number => '-' :: Nat.toDigits 10 (number + 1)

def encodeDigits (discriminator passcode : Int) (ids : Option (Int × Int)) : List Char :=
  let hasVendorProductIds := ids.isSome
  decimalText (Bitwise32.or (signedShiftRight discriminator 10)
      (if hasVendorProductIds then shiftLeft 1 2 else 0)) ++
    padStart 5 (decimalText (Bitwise32.or
      (shiftLeft (Bitwise32.and discriminator 0x300) 6)
      (Bitwise32.and passcode 0x3fff))) ++
    padStart 4 (decimalText (signedShiftRight passcode 14)) ++
    match ids with
    | some (vendorId, productId) =>
      padStart 5 (decimalText vendorId) ++ padStart 5 (decimalText productId)
    | none => []

def encode (data : ManualPairingData) : Except MatterError (List Char) :=
  match data.discriminator with
  | none => .error (.unexpectedDataError "discriminator is required")
  | some discriminator =>
    if discriminator > 4095 then
      .error (.unexpectedDataError "discriminator value must be less than 4096")
    else do
      let ids := do return (← data.vendorId, ← data.productId)
      let result := encodeDigits discriminator data.passcode ids
      match ← Verhoeff.computeChecksum result with
      | some checksum => return result ++ Nat.toDigits 10 checksum
      | none => return result ++ "undefined".toList

/-- `parseInt` on a text of digits, which is not empty where it is called. -/
def number (digits : List Char) : Int := (parseInt digits 10).getD 0

def slice (text : List Char) (start stop : Nat) : List Char := (text.drop start).take (stop - start)

def decodeDigits (encoded : List Char) : Except MatterError ManualPairingData :=
  let first := number (encoded.take 1)
  let hasVendorProductIds := Bitwise32.and first (shiftLeft 1 2) ≠ 0
  let shortDiscriminator :=
    Bitwise32.or (shiftLeft (Bitwise32.and first 0x03) 2)
      (Bitwise32.and (signedShiftRight (number (slice encoded 1 6)) 14) 0x3)
  let passcode :=
    Bitwise32.or (Bitwise32.and (number (slice encoded 1 6)) 0x3fff)
      (shiftLeft (number (slice encoded 6 10)) 14)
  let data :=
    { discriminator := none
      shortDiscriminator := some shortDiscriminator
      passcode
      vendorId := none
      productId := none }
  if hasVendorProductIds then do
    let vendorId ← VendorId (number (slice encoded 10 15))
    return { data with
             vendorId := some vendorId
             productId := some (number (slice encoded 15 20)) }
  else .ok data

def decode (encoded : List Char) : Except MatterError ManualPairingData :=
  -- we SHALL be robust against other characters
  let encoded := encoded.filter Char.isDigit
  if encoded.length ≠ 11 ∧ encoded.length ≠ 21 then
    .error (.unexpectedDataError "Invalid pairing code")
  else do
    let checksum ← Verhoeff.computeChecksum encoded.dropLast
    if checksum.map Int.ofNat ≠ parseInt (encoded.drop (encoded.length - 1)) 10 then
      .error (.unexpectedDataError "Invalid checksum")
    else decodeDigits encoded

/-! ## The numbers in the digits -/

def firstDigit (discriminator : Nat) (hasVendorProductIds : Bool) : Nat :=
  discriminator >>> 10 ||| if hasVendorProductIds then 4 else 0

def secondNumber (discriminator passcode : Nat) : Nat :=
  (discriminator &&& 0x300) <<< 6 ||| passcode &&& 0x3fff

variable {discriminator passcode : Nat}

theorem firstDigit_lt (fits : discriminator < 2 ^ 12) (hasVendorProductIds : Bool) :
    firstDigit discriminator hasVendorProductIds < 2 ^ 3 := by
  have upper : discriminator >>> 10 < 2 ^ 3 := by
    omega
  apply Nat.or_lt_two_pow upper
  cases hasVendorProductIds <;> decide

theorem secondNumber_lt : secondNumber discriminator passcode < 2 ^ 16 := by
  have middle : (discriminator &&& 0x300) <<< 6 < 2 ^ 16 := by
    have masked : discriminator &&& 0x300 ≤ 0x300 := Nat.and_le_right
    omega
  exact Nat.or_lt_two_pow middle (Nat.and_lt_two_pow _ (by decide))

theorem encodeDigits_eq (fits : discriminator < 2 ^ 12) (passcodeFits : passcode < 2 ^ 27)
    (ids : Option (Int × Int)) :
    encodeDigits discriminator passcode ids =
      Nat.toDigits 10 (firstDigit discriminator ids.isSome) ++
        padStart 5 (Nat.toDigits 10 (secondNumber discriminator passcode)) ++
        padStart 4 (Nat.toDigits 10 (passcode >>> 14)) ++
        match ids with
        | some (vendorId, productId) =>
          padStart 5 (decimalText vendorId) ++ padStart 5 (decimalText productId)
        | none => [] := by
  have masked : discriminator &&& 0x300 ≤ 0x300 := Nat.and_le_right
  have shifted : (discriminator &&& 0x300) <<< 6 < 2 ^ 31 := by
    omega
  have lower : passcode &&& 0x3fff ≤ 0x3fff := Nat.and_le_right
  have first : Bitwise32.or (signedShiftRight discriminator 10)
      (if ids.isSome then shiftLeft 1 2 else 0) =
        (firstDigit discriminator ids.isSome : Nat) := by
    have top : signedShiftRight discriminator 10 = (discriminator >>> 10 : Nat) :=
      @signedShiftRight_natCast discriminator 10 (by omega) (by decide)
    have flag : (if ids.isSome then shiftLeft 1 2 else 0) =
        ((if ids.isSome then 4 else 0 : Nat) : Int) := by
      cases ids <;> rfl
    rw [top, flag, or_natCast (by omega) (by split <;> decide)]
    rfl
  have second : Bitwise32.or (shiftLeft (Bitwise32.and discriminator 0x300) 6)
      (Bitwise32.and passcode 0x3fff) = (secondNumber discriminator passcode : Nat) := by
    have middle : Bitwise32.and discriminator 0x300 = (discriminator &&& 0x300 : Nat) :=
      @and_natCast discriminator 0x300 (by omega) (by decide)
    have moved : shiftLeft (discriminator &&& 0x300 : Nat) 6 =
        ((discriminator &&& 0x300) <<< 6 : Nat) :=
      @shiftLeft_natCast (discriminator &&& 0x300) 6 shifted (by decide)
    have rest : Bitwise32.and passcode 0x3fff = (passcode &&& 0x3fff : Nat) :=
      @and_natCast passcode 0x3fff (by omega) (by decide)
    rw [middle, moved, rest, or_natCast shifted (by omega)]
    rfl
  have third : signedShiftRight passcode 14 = (passcode >>> 14 : Nat) :=
    @signedShiftRight_natCast passcode 14 (by omega) (by decide)
  unfold encodeDigits
  dsimp only
  rw [first, second, third]
  rfl

theorem firstDigit_eq (fits : discriminator < 2 ^ 12) (hasVendorProductIds : Bool) :
    firstDigit discriminator hasVendorProductIds =
      (if hasVendorProductIds then 4 else 0) + discriminator / 2 ^ 10 := by
  have upper : discriminator / 2 ^ 10 < 2 ^ 2 := by omega
  rw [firstDigit, Nat.shiftRight_eq_div_pow]
  cases hasVendorProductIds with
  | false => simp
  | true =>
    have joined := Nat.shiftLeft_add_eq_or_of_lt upper 1
    rw [Nat.or_comm]
    exact joined.symm

theorem secondNumber_eq : secondNumber discriminator passcode =
    discriminator / 2 ^ 8 % 2 ^ 2 * 2 ^ 14 + passcode % 2 ^ 14 := by
  have masked : discriminator &&& 0x300 = (discriminator >>> 8 &&& 2 ^ 2 - 1) <<< 8 := by
    apply Nat.eq_of_testBit_eq
    intro index
    rw [show 0x300 = (2 ^ 2 - 1) <<< 8 from rfl, Nat.testBit_and, Nat.testBit_shiftLeft]
    by_cases inside : 8 ≤ index
    · simp [inside]
    · simp [inside]
  have lower : passcode % 2 ^ 14 < 2 ^ 14 := Nat.mod_lt _ (by decide)
  have rest : passcode &&& 0x3fff = passcode % 2 ^ 14 := Nat.and_two_pow_sub_one_eq_mod passcode 14
  rw [secondNumber, masked, ← Nat.shiftLeft_add, rest, ← Nat.shiftLeft_add_eq_or_of_lt lower,
    Nat.and_two_pow_sub_one_eq_mod, Nat.shiftRight_eq_div_pow, Nat.shiftLeft_eq]

theorem shortDiscriminator_eq (fits : discriminator < 2 ^ 12) (hasVendorProductIds : Bool) :
    (firstDigit discriminator hasVendorProductIds &&& 0x03) <<< 2 |||
        secondNumber discriminator passcode >>> 14 &&& 0x3 =
      discriminator >>> 8 := by
  have lower : secondNumber discriminator passcode >>> 14 % 2 ^ 2 < 2 ^ 2 :=
    Nat.mod_lt _ (by decide)
  rw [show 0x03 = 2 ^ 2 - 1 from rfl, Nat.and_two_pow_sub_one_eq_mod,
    Nat.and_two_pow_sub_one_eq_mod, ← Nat.shiftLeft_add_eq_or_of_lt lower, firstDigit_eq fits,
    secondNumber_eq]
  split <;> omega

theorem passcode_eq : secondNumber discriminator passcode &&& 0x3fff |||
    passcode >>> 14 <<< 14 = passcode := by
  have lower : secondNumber discriminator passcode % 2 ^ 14 < 2 ^ 14 := Nat.mod_lt _ (by decide)
  rw [show 0x3fff = 2 ^ 14 - 1 from rfl, Nat.and_two_pow_sub_one_eq_mod, Nat.or_comm,
    ← Nat.shiftLeft_add_eq_or_of_lt lower, secondNumber_eq]
  omega

theorem firstDigit_and (fits : discriminator < 2 ^ 12) (hasVendorProductIds : Bool) :
    firstDigit discriminator hasVendorProductIds &&& 4 =
      if hasVendorProductIds then 4 else 0 := by
  have upper : discriminator / 2 ^ 10 < 4 := by omega
  have digits : ∀ digit < 4, (4 + digit) &&& 4 = 4 ∧ (0 + digit) &&& 4 = 0 := by decide
  rw [firstDigit_eq fits]
  cases hasVendorProductIds with
  | false => exact (digits _ upper).2
  | true => exact (digits _ upper).1

/-! ## The operators of the decoder -/

theorem decoded_hasVendorProductIds (fits : discriminator < 2 ^ 12) (hasVendorProductIds : Bool) :
    Bitwise32.and (firstDigit discriminator hasVendorProductIds) (shiftLeft 1 2) ≠ 0 ↔
      hasVendorProductIds = true := by
  have small := firstDigit_lt fits hasVendorProductIds
  have masked : Bitwise32.and (firstDigit discriminator hasVendorProductIds)
      (shiftLeft 1 2) = (firstDigit discriminator hasVendorProductIds &&& 4 : Nat) :=
    @and_natCast (firstDigit discriminator hasVendorProductIds) 4 (by omega) (by decide)
  rw [masked, firstDigit_and fits]
  cases hasVendorProductIds <;> simp

theorem decoded_shortDiscriminator (fits : discriminator < 2 ^ 12) (hasVendorProductIds : Bool) :
    Bitwise32.or
        (shiftLeft (Bitwise32.and (firstDigit discriminator hasVendorProductIds) 0x03) 2)
        (Bitwise32.and (signedShiftRight (secondNumber discriminator passcode) 14) 0x3) =
      (discriminator >>> 8 : Nat) := by
  have firstSmall := firstDigit_lt fits hasVendorProductIds
  have secondSmall := @secondNumber_lt discriminator passcode
  have upper : Bitwise32.and (firstDigit discriminator hasVendorProductIds) 0x03 =
      (firstDigit discriminator hasVendorProductIds &&& 0x03 : Nat) :=
    @and_natCast (firstDigit discriminator hasVendorProductIds) 0x03 (by omega) (by decide)
  have upperSmall : (firstDigit discriminator hasVendorProductIds &&& 0x03) <<< 2 < 2 ^ 31 := by
    have masked : firstDigit discriminator hasVendorProductIds &&& 0x03 ≤ 0x03 := Nat.and_le_right
    omega
  have moved : shiftLeft (firstDigit discriminator hasVendorProductIds &&& 0x03 : Nat) 2 =
      ((firstDigit discriminator hasVendorProductIds &&& 0x03) <<< 2 : Nat) :=
    shiftLeft_natCast upperSmall (by decide)
  have shifted : signedShiftRight (secondNumber discriminator passcode) 14 =
      (secondNumber discriminator passcode >>> 14 : Nat) :=
    @signedShiftRight_natCast (secondNumber discriminator passcode) 14 (by omega) (by decide)
  have lower : Bitwise32.and (secondNumber discriminator passcode >>> 14 : Nat) 0x3 =
      (secondNumber discriminator passcode >>> 14 &&& 0x3 : Nat) :=
    @and_natCast (secondNumber discriminator passcode >>> 14) 0x3 (by omega) (by decide)
  have lowerSmall : secondNumber discriminator passcode >>> 14 &&& 0x3 ≤ 0x3 := Nat.and_le_right
  rw [upper, moved, shifted, lower, or_natCast upperSmall (by omega), shortDiscriminator_eq fits]

theorem decoded_passcode (fits : passcode < 2 ^ 27) :
    Bitwise32.or (Bitwise32.and (secondNumber discriminator passcode) 0x3fff)
        (shiftLeft (passcode >>> 14 : Nat) 14) = passcode := by
  have secondSmall := @secondNumber_lt discriminator passcode
  have lower : Bitwise32.and (secondNumber discriminator passcode) 0x3fff =
      (secondNumber discriminator passcode &&& 0x3fff : Nat) :=
    @and_natCast (secondNumber discriminator passcode) 0x3fff (by omega) (by decide)
  have lowerSmall : secondNumber discriminator passcode &&& 0x3fff ≤ 0x3fff := Nat.and_le_right
  have upperSmall : passcode >>> 14 <<< 14 < 2 ^ 31 := by
    omega
  have upper : shiftLeft (passcode >>> 14 : Nat) 14 =
      (passcode >>> 14 <<< 14 : Nat) :=
    shiftLeft_natCast upperSmall (by decide)
  rw [lower, upper, or_natCast (by omega) upperSmall, passcode_eq]

/-! ## The groups of digits -/

structure Group (text : List Char) (width value : Nat) : Prop where
  length : text.length = width
  isDecimal : IsDecimal text
  isNumber : number text = value

theorem Group.padded {value width : Nat} (fits : value < 10 ^ width) (wide : 0 < width) :
    Group (padStart width (Nat.toDigits 10 value)) width value := by
  rcases padStart_toDigits fits wide with ⟨length, isDecimal, parsed⟩
  refine ⟨length, isDecimal, ?_⟩
  rw [number, parsed]
  rfl

theorem Group.digit {value : Nat} (small : value < 10) : Group (Nat.toDigits 10 value) 1 value := by
  have group := @Group.padded value 1 small Nat.one_pos
  rw [Nat.toDigits_of_lt_base small] at group
  rw [Nat.toDigits_of_lt_base small]
  exact group

theorem slice_append (before text after : List Char) {start stop : Nat}
    (starts : before.length = start) (stops : start + text.length = stop) :
    slice (before ++ (text ++ after)) start stop = text := by
  subst starts stops
  rw [slice, List.drop_left, Nat.add_sub_cancel_left, List.take_left]

structure IsCode (digits : List Char) (discriminator passcode : Nat)
    (ids : Option (Nat × Nat)) : Prop where
  isDecimal : IsDecimal digits
  length : digits.length = if ids.isSome then 20 else 10
  first : number (digits.take 1) = firstDigit discriminator ids.isSome
  second : number (slice digits 1 6) = secondNumber discriminator passcode
  third : number (slice digits 6 10) = (passcode >>> 14 : Nat)
  ids : ∀ vendorId productId, ids = some (vendorId, productId) →
    number (slice digits 10 15) = vendorId ∧ number (slice digits 15 20) = productId

theorem isCode_append {first second third rest : List Char} {ids : Option (Nat × Nat)}
    (isFirst : Group first 1 (firstDigit discriminator ids.isSome))
    (isSecond : Group second 5 (secondNumber discriminator passcode))
    (isThird : Group third 4 (passcode >>> 14))
    (restDecimal : IsDecimal rest) (restLength : rest.length = if ids.isSome then 10 else 0)
    (restIds : ∀ vendorId productId, ids = some (vendorId, productId) →
      number (rest.take 5) = vendorId ∧ number (rest.drop 5) = productId) :
    IsCode (first ++ second ++ third ++ rest) discriminator passcode ids where
  isDecimal char member := by
    rcases List.mem_append.mp member with inThree | inRest
    · rcases List.mem_append.mp inThree with inTwo | inThird
      · rcases List.mem_append.mp inTwo with inFirst | inSecond
        · exact isFirst.isDecimal char inFirst
        · exact isSecond.isDecimal char inSecond
      · exact isThird.isDecimal char inThird
    · exact restDecimal char inRest
  length := by
    rw [List.length_append, List.length_append, List.length_append, isFirst.length,
      isSecond.length, isThird.length, restLength]
    split <;> rfl
  first := by
    rw [List.append_assoc, List.append_assoc, List.take_left' isFirst.length, isFirst.isNumber]
  second := by
    rw [List.append_assoc, List.append_assoc, slice_append _ _ _ isFirst.length
      (by rw [isSecond.length]), isSecond.isNumber]
  third := by
    rw [List.append_assoc, slice_append _ _ _ (by rw [List.length_append, isFirst.length,
      isSecond.length]) (by rw [isThird.length]), isThird.isNumber]
  ids vendorId productId isIds := by
    have before : (first ++ second ++ third).length = 10 := by
      rw [List.length_append, List.length_append, isFirst.length, isSecond.length, isThird.length]
    have ten : rest.length = 10 := by
      rw [restLength, isIds]
      rfl
    have dropped : (first ++ second ++ third ++ rest).drop 10 = rest := List.drop_left' before
    have last : slice (first ++ second ++ third ++ rest) 15 20 = rest.drop 5 := by
      rw [slice, ← List.drop_drop (i := 5) (j := 10), dropped]
      exact List.take_of_length_le (by rw [List.length_drop, ten])
    rw [slice, dropped, last]
    exact restIds vendorId productId isIds

theorem encodeDigits_isCode (fits : discriminator < 2 ^ 12) (passcodeFits : passcode < 2 ^ 27)
    {ids : Option (Nat × Nat)}
    (idsFit : ∀ vendorId productId, ids = some (vendorId, productId) →
      vendorId < 2 ^ 16 ∧ productId < 2 ^ 16) :
    IsCode (encodeDigits discriminator passcode (ids.map (Prod.map Nat.cast Nat.cast)))
      discriminator passcode ids := by
  have isFirst := Group.digit (Nat.lt_of_lt_of_le (firstDigit_lt fits ids.isSome) (by decide))
  have isSecond := @Group.padded (secondNumber discriminator passcode) 5
    (Nat.lt_of_lt_of_le secondNumber_lt (by decide)) (by decide)
  have isThird := @Group.padded (passcode >>> 14) 4
    (by rw [Nat.shiftRight_eq_div_pow]; omega) (by decide)
  rw [encodeDigits_eq fits passcodeFits]
  cases ids with
  | none => exact isCode_append isFirst isSecond isThird nofun rfl nofun
  | some ids =>
    rcases ids with ⟨vendorId, productId⟩
    rcases idsFit vendorId productId rfl with ⟨vendorFits, productFits⟩
    have isVendor := @Group.padded vendorId 5 (by omega) (by decide)
    have isProduct := @Group.padded productId 5 (by omega) (by decide)
    apply isCode_append isFirst isSecond isThird
    · intro char member
      exact (List.mem_append.mp member).elim (isVendor.isDecimal char) (isProduct.isDecimal char)
    · show List.length (_ ++ _) = 10
      rw [List.length_append]
      exact congrArg₂ (· + ·) isVendor.length isProduct.length
    · rintro _ _ ⟨⟩
      constructor
      · rw [← isVendor.isNumber]
        exact congrArg number (List.take_left' isVendor.length)
      · rw [← isProduct.isNumber]
        exact congrArg number (List.drop_left' isVendor.length)

theorem slice_append_left (text after : List Char) {start stop : Nat} (ordered : start ≤ stop)
    (inside : stop ≤ text.length) : slice (text ++ after) start stop = slice text start stop := by
  rw [slice, List.drop_append_of_le_length (by omega),
    List.take_append_of_le_length (by rw [List.length_drop]; omega)]
  rfl

theorem decode_isCode {digits : List Char} {ids : Option (Nat × Nat)} {checksum : Nat}
    (fits : discriminator < 2 ^ 12) (passcodeFits : passcode < 2 ^ 27)
    (isCode : IsCode digits discriminator passcode ids)
    (checks : Verhoeff.computeChecksum digits = .ok (some checksum)) (small : checksum < 10) :
    decode (digits ++ Nat.toDigits 10 checksum) =
      match ids with
      | none =>
        .ok { discriminator := none
              shortDiscriminator := some (discriminator >>> 8 : Nat)
              passcode
              vendorId := none
              productId := none }
      | some (vendorId, productId) => do
        let vendorId ← VendorId vendorId
        return { discriminator := none
                 shortDiscriminator := some (discriminator >>> 8 : Nat)
                 passcode
                 vendorId := some vendorId
                 productId := some productId } := by
  rw [Nat.toDigits_of_lt_base small]
  have isDigit : checksum.digitChar.isDigit = true := by
    have digits : ∀ checksum < 10, (Nat.digitChar checksum).isDigit = true := by decide
    exact digits checksum small
  have parsed : parseInt [checksum.digitChar] 10 = some (checksum : Int) := by
    rw [← Nat.toDigits_of_lt_base small]
    exact parseInt_toDigits checksum
  have ten : 10 ≤ digits.length := by
    rw [isCode.length]
    split <;> decide
  have robust : (digits ++ [checksum.digitChar]).filter Char.isDigit =
      digits ++ [checksum.digitChar] := by
    rw [List.filter_eq_self]
    intro char member
    rcases List.mem_append.mp member with before | last
    · exact isCode.isDecimal char before
    · rw [List.mem_singleton.mp last]
      exact isDigit
  have length : ¬((digits ++ [checksum.digitChar]).length ≠ 11 ∧
      (digits ++ [checksum.digitChar]).length ≠ 21) := by
    rw [List.length_append, isCode.length, List.length_singleton]
    split <;> decide
  have last : (digits ++ [checksum.digitChar]).drop
      ((digits ++ [checksum.digitChar]).length - 1) = [checksum.digitChar] := by
    rw [List.length_append, List.length_singleton, Nat.add_sub_cancel, List.drop_left]
  have first : (digits ++ [checksum.digitChar]).take 1 = digits.take 1 :=
    List.take_append_of_le_length (by omega)
  have second : slice (digits ++ [checksum.digitChar]) 1 6 = slice digits 1 6 :=
    slice_append_left _ _ (by decide) (by omega)
  have third : slice (digits ++ [checksum.digitChar]) 6 10 = slice digits 6 10 :=
    slice_append_left _ _ (by decide) (by omega)
  rw [decode, robust, if_neg length, List.dropLast_concat, checks, last, parsed]
  change (if some (checksum : Int) ≠ some (checksum : Int) then _ else _) = _
  rw [if_neg (not_not.mpr rfl), decodeDigits, first, second, third, isCode.first, isCode.second,
    isCode.third]
  rw [decoded_shortDiscriminator fits, decoded_passcode passcodeFits]
  have hasIds := decoded_hasVendorProductIds fits ids.isSome
  cases ids with
  | none => exact if_neg fun flag => Bool.false_ne_true (hasIds.mp flag)
  | some ids =>
    rcases ids with ⟨vendorId, productId⟩
    have twenty : digits.length = 20 := isCode.length
    rcases isCode.ids vendorId productId rfl with ⟨isVendor, isProduct⟩
    rw [if_pos (hasIds.mpr rfl), slice_append_left _ _ (by decide) (by omega),
      slice_append_left _ _ (by decide) (by omega), isVendor, isProduct]

/-! ## Round trip -/

def pairingData (discriminator passcode : Nat) (shortDiscriminator : Option Int)
    (ids : Option (Nat × Nat)) : ManualPairingData where
  discriminator := some discriminator
  shortDiscriminator
  passcode
  vendorId := ids.map (Nat.cast ·.1)
  productId := ids.map (Nat.cast ·.2)

theorem encode_pairingData (fits : discriminator < 2 ^ 12) (passcodeFits : passcode < 2 ^ 27)
    (shortDiscriminator : Option Int) {ids : Option (Nat × Nat)}
    (idsFit : ∀ vendorId productId, ids = some (vendorId, productId) →
      vendorId < 2 ^ 16 ∧ productId < 2 ^ 16) :
    ∃ digits checksum, IsCode digits discriminator passcode ids ∧
      Verhoeff.computeChecksum digits = .ok (some checksum) ∧ checksum < 10 ∧
      encode (pairingData discriminator passcode shortDiscriminator ids) =
        .ok (digits ++ Nat.toDigits 10 checksum) := by
  have isCode := encodeDigits_isCode fits passcodeFits idsFit
  rcases Verhoeff.computeChecksum_eq isCode.isDecimal with ⟨checksum, small, computes, _⟩
  refine ⟨_, checksum, isCode, computes, small, ?_⟩
  have sameIds : (do return (← ids.map fun ids => (Nat.cast ids.1 : Int),
      ← ids.map fun ids => (Nat.cast ids.2 : Int)) : Option (Int × Int)) =
      ids.map (Prod.map Nat.cast Nat.cast) := by
    cases ids <;> rfl
  rw [encode, pairingData]
  dsimp only
  rw [if_neg (by omega), sameIds, computes]
  rfl

/-- A code is decoded to the upper four bits of the discriminator, and to the passcode and the
ids it was made of. -/
theorem decode_encode_pairingData (fits : discriminator < 2 ^ 12)
    (passcodeFits : passcode < 2 ^ 27) (shortDiscriminator : Option Int)
    {ids : Option (Nat × Nat)}
    (idsFit : ∀ vendorId productId, ids = some (vendorId, productId) →
      vendorId ≤ 0xfff4 ∧ productId < 2 ^ 16) :
    ∃ code, encode (pairingData discriminator passcode shortDiscriminator ids) = .ok code ∧
      decode code = .ok
        { pairingData discriminator passcode (some (discriminator / 2 ^ 8 : Nat)) ids with
          discriminator := none } := by
  rcases encode_pairingData fits passcodeFits shortDiscriminator
    (fun vendorId productId isIds => (idsFit vendorId productId isIds).imp_left (by omega)) with
    ⟨digits, checksum, isCode, computes, small, encodes⟩
  refine ⟨_, encodes, ?_⟩
  rw [decode_isCode fits passcodeFits isCode computes small, Nat.shiftRight_eq_div_pow]
  cases ids with
  | none => rfl
  | some ids =>
    rcases ids with ⟨vendorId, productId⟩
    have isValid : VendorId vendorId = .ok vendorId :=
      if_pos ⟨by omega, by have := (idsFit vendorId productId rfl).1; omega⟩
    dsimp only
    rw [isValid]
    rfl

theorem decode_encode_testProduct :
    ∃ code, encode (pairingData 2976 34567890 none (some (0xfff1, 0x8000))) = .ok code ∧
      decode code = .ok
        { pairingData 2976 34567890 (some (2976 / 2 ^ 8 : Nat)) (some (0xfff1, 0x8000)) with
          discriminator := none } := by
  apply decode_encode_pairingData (by decide) (by decide)
  rintro _ _ ⟨⟩
  decide

/-- The largest ids of 16 bits are none that a vendor can have, and no code with them is
decoded. -/
theorem decode_invalidVendor :
    ∃ code, encode (pairingData 2976 34567890 none (some (0xffff, 0x8000))) = .ok code ∧
      decode code = .error (.validationOutOfBoundsError "Invalid vendor ID: 65535" none) := by
  exact ⟨"663186210965535327685".toList, by decide, by decide⟩

end ManualPairingCode

end MatterJs.Types
