import MatterJs.General.DataWriter
import MatterJs.General.MatterError

/-! Base 38: groups of three bytes as five characters, with shorter groups at the end. -/

namespace MatterJs.Types.Base38

open General

def alphabet : List Char :=
  "0123456789ABCDEFGHIJKLMNOPQRSTUVWXYZ-.".toList

def charOf (remainder : Nat) : Char :=
  alphabet.getD remainder '.'

def encodeBase38 (value : Nat) : Nat → List Char
  | 0 => []
  | charCount + 1 =>
    let remainder := value % 38
    charOf remainder :: encodeBase38 ((value - remainder) / 38) charCount

def encode : Bytes → List Char
  | [] => []
  | [first] => encodeBase38 first.toNat 2
  | [first, second] => encodeBase38 (first.toNat ||| second.toNat <<< 8) 4
  | first :: second :: third :: bytes =>
    encodeBase38 (first.toNat ||| second.toNat <<< 8 ||| third.toNat <<< 16) 5 ++ encode bytes

/-- The characters are read from the last one on. One that lies behind the end of the
string is undefined. -/
def decodeBase38 (offset : Nat) : List (Option Char) → Except MatterError Nat
  | [] => .ok 0
  | char :: chars => do
    let result ← decodeBase38 (offset + 1) chars
    match char.bind alphabet.idxOf? with
    | some code => return result * 38 + code
    | none =>
      throw (.unexpectedDataError
        ("Unexpected character " ++ (char.map Char.toString).getD "undefined" ++ s!" at {offset}"))

def decodeGroups (encodedOffset : Nat) : List Char → Except MatterError Bytes
  | first :: second :: third :: fourth :: fifth :: sixth :: encoded => do
    let value ← decodeBase38 encodedOffset
      [some first, some second, some third, some fourth, some fifth]
    let others ← decodeGroups (encodedOffset + 5) (sixth :: encoded)
    return [.ofNat (value &&& 0xff), .ofNat (value >>> 8 &&& 0xff),
      .ofNat (value >>> 16 &&& 0xff)] ++ others
  | [first, second, third, fourth] => do
    let value ← decodeBase38 encodedOffset [some first, some second, some third, some fourth]
    return [.ofNat (value &&& 0xff), .ofNat (value >>> 8 &&& 0xff)]
  | [] => .ok []
  | first :: encoded => do
    let value ← decodeBase38 encodedOffset [some first, encoded.head?]
    return [.ofNat (value &&& 0xff)]

def decodeLength (encodedLength : Nat) : Except MatterError Nat :=
  let remainderEncodedLength := encodedLength % 5
  let decodeLength := (encodedLength - remainderEncodedLength) / 5 * 3
  match remainderEncodedLength with
  | 4 => .ok (decodeLength + 2)
  | 2 => .ok (decodeLength + 1)
  | _ => .error (.unexpectedDataError s!"Invalid base38 encoded string length: {encodedLength}")

/-- The bytes are written into an array of zeros. -/
def decode (encoded : List Char) : Except MatterError Bytes := do
  let decodeLength ← decodeLength encoded.length
  let bytes ← decodeGroups 0 encoded
  return (bytes ++ List.replicate decodeLength 0).take decodeLength

theorem idxOf_charOf {code : Nat} (isCode : code < 38) :
    alphabet.idxOf? (charOf code) = some code := by
  revert code
  decide

theorem decodeBase38_encodeBase38 (offset charCount : Nat) {value : Nat}
    (fits : value < 38 ^ charCount) :
    decodeBase38 offset ((encodeBase38 value charCount).map some) = .ok value := by
  induction charCount generalizing offset value with
  | zero =>
    have isZero : value = 0 := by simpa using fits
    rw [isZero]
    rfl
  | succ charCount induction =>
    have isCode : value % 38 < 38 := Nat.mod_lt _ (by decide)
    have quotient : (value - value % 38) / 38 * 38 + value % 38 = value := by omega
    have smaller : (value - value % 38) / 38 < 38 ^ charCount := by
      omega
    rw [encodeBase38, List.map_cons, decodeBase38, induction (offset + 1) smaller]
    rw [Option.bind_some, idxOf_charOf isCode]
    exact congrArg Except.ok quotient

theorem encodeBase38_length (value charCount : Nat) :
    (encodeBase38 value charCount).length = charCount := by
  induction charCount generalizing value with
  | zero => rfl
  | succ charCount induction => rw [encodeBase38, List.length_cons, induction]

section Bytes

variable (first second third : UInt8)

theorem or_two_bytes : first.toNat ||| second.toNat <<< 8 = first.toNat + 256 * second.toNat := by
  rw [Nat.or_comm, ← Nat.shiftLeft_add_eq_or_of_lt (by exact first.toNat_lt)]
  omega

theorem or_three_bytes : first.toNat ||| second.toNat <<< 8 ||| third.toNat <<< 16 =
    first.toNat + 256 * second.toNat + 65536 * third.toNat := by
  have firstLt := first.toNat_lt
  have secondLt := second.toNat_lt
  rw [or_two_bytes, Nat.or_comm, ← Nat.shiftLeft_add_eq_or_of_lt (by omega)]
  omega

variable {first} in
theorem ofNat_and {value : Nat} (isByte : value % 256 = first.toNat) :
    UInt8.ofNat (value &&& 0xff) = first := by
  rw [show 0xff = 2 ^ 8 - 1 from rfl, Nat.and_two_pow_sub_one_eq_mod]
  apply UInt8.toNat_inj.mp
  rw [isByte]
  exact Nat.mod_eq_of_lt first.toNat_lt

end Bytes

theorem encode_ne_nil {bytes : Bytes} (nonempty : bytes ≠ []) : encode bytes ≠ [] := by
  match bytes with
  | [first] => exact nofun
  | [first, second] => exact nofun
  | first :: second :: third :: bytes => exact nofun

theorem decodeGroups_encode (offset : Nat) {bytes : Bytes} (short : bytes.length % 3 ≠ 0) :
    decodeGroups offset (encode bytes) = .ok bytes := by
  match bytes with
  | [first] =>
    have firstLt := first.toNat_lt
    have value := decodeBase38_encodeBase38 offset 2 (show first.toNat < 38 ^ 2 by omega)
    refine bind_eq_ok_iff.mpr ⟨first.toNat, value, ?_⟩
    show Except.ok [UInt8.ofNat (first.toNat &&& 0xff)] = _
    rw [ofNat_and (Nat.mod_eq_of_lt firstLt)]
  | [first, second] =>
    have firstLt := first.toNat_lt
    have secondLt := second.toNat_lt
    have value := decodeBase38_encodeBase38 offset 4
      (show first.toNat + 256 * second.toNat < 38 ^ 4 by omega)
    rw [encode, or_two_bytes]
    refine bind_eq_ok_iff.mpr ⟨_, value, ?_⟩
    show Except.ok [UInt8.ofNat _, UInt8.ofNat _] = _
    rw [@ofNat_and first _ (by omega),
      @ofNat_and second _ (by rw [Nat.shiftRight_eq_div_pow]; omega)]
  | first :: second :: third :: bytes =>
    have firstLt := first.toNat_lt
    have secondLt := second.toNat_lt
    have thirdLt := third.toNat_lt
    have value := decodeBase38_encodeBase38 offset 5
      (show first.toNat + 256 * second.toNat + 65536 * third.toNat < 38 ^ 5 by omega)
    have shorter : bytes.length % 3 ≠ 0 := by
      simp only [List.length_cons] at short
      omega
    have others := decodeGroups_encode (offset + 5) shorter
    rw [encode, or_three_bytes]
    cases rest : encode bytes with
    | nil =>
      refine absurd rest (encode_ne_nil ?_)
      rintro rfl
      exact shorter rfl
    | cons char chars =>
      rw [rest] at others
      refine bind_eq_ok_iff.mpr ⟨_, value, ?_⟩
      refine bind_eq_ok_iff.mpr ⟨bytes, others, ?_⟩
      rw [@ofNat_and first _ (by omega),
        @ofNat_and second _ (by rw [Nat.shiftRight_eq_div_pow]; omega),
        @ofNat_and third _ (by rw [Nat.shiftRight_eq_div_pow]; omega)]
      rfl

/-- Two characters for the first byte of a group, four for two and five for three. -/
theorem encode_length (bytes : Bytes) :
    (encode bytes).length = bytes.length / 3 * 5 + bytes.length % 3 * 2 := by
  match bytes with
  | [] => rfl
  | [first] => simp [encode, encodeBase38_length]
  | [first, second] => simp [encode, encodeBase38_length]
  | first :: second :: third :: bytes =>
    rw [encode, List.length_append, encodeBase38_length, encode_length bytes]
    simp only [List.length_cons]
    omega

theorem decodeLength_encode {bytes : Bytes} (short : bytes.length % 3 ≠ 0) :
    decodeLength (encode bytes).length = .ok bytes.length := by
  rw [encode_length, decodeLength]
  have cases : bytes.length % 3 = 1 ∨ bytes.length % 3 = 2 := by omega
  rcases cases with one | two
  · have remainder : (bytes.length / 3 * 5 + bytes.length % 3 * 2) % 5 = 2 := by omega
    simp only [remainder]
    congr 1
    omega
  · have remainder : (bytes.length / 3 * 5 + bytes.length % 3 * 2) % 5 = 4 := by omega
    simp only [remainder]
    congr 1
    omega

theorem decodeLength_of_whole {bytes : Bytes} (whole : bytes.length % 3 = 0) :
    ∃ failure, decodeLength (encode bytes).length = .error failure := by
  rw [encode_length, decodeLength]
  have remainder : (bytes.length / 3 * 5 + bytes.length % 3 * 2) % 5 = 0 := by omega
  simp only [remainder]
  exact ⟨_, rfl⟩

/-- Bytes are read back exactly when their number is no multiple of three. -/
theorem decode_encode_iff (bytes : Bytes) :
    decode (encode bytes) = .ok bytes ↔ bytes.length % 3 ≠ 0 := by
  constructor
  · intro reads whole
    rcases decodeLength_of_whole whole with ⟨failure, refused⟩
    rw [decode, refused] at reads
    cases reads
  · intro short
    refine bind_eq_ok_iff.mpr ⟨_, decodeLength_encode short, ?_⟩
    refine bind_eq_ok_iff.mpr ⟨bytes, decodeGroups_encode 0 short, ?_⟩
    show Except.ok _ = _
    rw [List.take_left]

example : decode "-MOA57ZU02IT2L2BJ00".toList =
    .ok [0x88, 0xff, 0xa7, 0x91, 0x50, 0x40, 0x00, 0x47, 0x51, 0xdd, 0x02] := by decide

/-- Three bytes become five characters, which are refused. -/
theorem threeBytes_notReadBack : ¬decode (encode [0x01, 0x02, 0x03]) = .ok [0x01, 0x02, 0x03] := by
  decide

end MatterJs.Types.Base38
