import MatterJs.Foundation.ByteOrder

namespace MatterJs.Utf8

/-! Text as UTF-8 bytes. The decoder never fails: each ill-formed sequence becomes
one replacement character, and the byte that broke it is looked at again. -/

/-- The bytes of one character. -/
def encodeChar (char : Char) : List UInt8 :=
  let code := char.toNat
  if code < 0x80 then
    [UInt8.ofNat code]
  else if code < 0x800 then
    [UInt8.ofNat (0xc0 + code / 64), UInt8.ofNat (0x80 + code % 64)]
  else if code < 0x10000 then
    [UInt8.ofNat (0xe0 + code / 4096), UInt8.ofNat (0x80 + code / 64 % 64),
      UInt8.ofNat (0x80 + code % 64)]
  else
    [UInt8.ofNat (0xf0 + code / 262144), UInt8.ofNat (0x80 + code / 4096 % 64),
      UInt8.ofNat (0x80 + code / 64 % 64), UInt8.ofNat (0x80 + code % 64)]

variable (text : List Char)

def encode : List UInt8 :=
  text.flatMap encodeChar

def replacement : Char := Char.ofNat 0xfffd

def byteOrderMark : Char := Char.ofNat 0xfeff

/-- A sequence of which the last `needed` bytes have not been seen. The next one has
to lie between `lower` and `upper`. -/
structure Pending where
  codePoint : Nat
  needed : Nat
  lower : Nat
  upper : Nat

/-- What a byte outside of any sequence is: a character, or the lead of a sequence. -/
def lead (byte : Nat) : Char ⊕ Pending :=
  if byte < 0x80 then
    .inl (Char.ofNat byte)
  else if 0xc2 ≤ byte ∧ byte ≤ 0xdf then
    .inr { codePoint := byte - 0xc0, needed := 1, lower := 0x80, upper := 0xbf }
  else if 0xe0 ≤ byte ∧ byte ≤ 0xef then
    .inr { codePoint := byte - 0xe0
           needed := 2
           lower := if byte = 0xe0 then 0xa0 else 0x80
           upper := if byte = 0xed then 0x9f else 0xbf }
  else if 0xf0 ≤ byte ∧ byte ≤ 0xf4 then
    .inr { codePoint := byte - 0xf0
           needed := 3
           lower := if byte = 0xf0 then 0x90 else 0x80
           upper := if byte = 0xf4 then 0x8f else 0xbf }
  else
    .inl replacement

def Pending.continue (pending : Pending) (byte : Nat) : Option (Char ⊕ Pending) :=
  if pending.lower ≤ byte ∧ byte ≤ pending.upper then
    let codePoint := pending.codePoint * 64 + (byte - 0x80)
    if pending.needed = 1 then
      some (.inl (Char.ofNat codePoint))
    else
      some (.inr { codePoint, needed := pending.needed - 1, lower := 0x80, upper := 0xbf })
  else
    none

def decodeFrom : Option Pending → List UInt8 → List Char
  | none, [] => []
  | some _, [] => [replacement]
  | none, byte :: rest =>
    match lead byte.toNat with
    | .inl char => char :: decodeFrom none rest
    | .inr pending => decodeFrom (some pending) rest
  | some pending, byte :: rest =>
    match pending.continue byte.toNat with
    | some (.inl char) => char :: decodeFrom none rest
    | some (.inr pending) => decodeFrom (some pending) rest
    | none =>
      replacement ::
        match lead byte.toNat with
        | .inl char => char :: decodeFrom none rest
        | .inr pending => decodeFrom (some pending) rest

def decode (bytes : List UInt8) : List Char :=
  decodeFrom none bytes

theorem encodeChar_length_le (char : Char) : (encodeChar char).length ≤ 4 := by
  rw [encodeChar]
  split
  · simp
  · split
    · simp
    · split <;> simp

@[simp] theorem encode_nil : encode [] = [] := rfl

@[simp] theorem encode_cons (char : Char) (text : List Char) :
    encode (char :: text) = encodeChar char ++ encode text := rfl

theorem decodeFrom_lead {byte : UInt8} {pending : Pending} (leads : lead byte.toNat = .inr pending)
    (rest : List UInt8) : decodeFrom none (byte :: rest) = decodeFrom (some pending) rest := by
  rw [decodeFrom, leads]

theorem decodeFrom_continue {pending after : Pending} {byte : UInt8}
    (continues : pending.continue byte.toNat = some (.inr after)) (rest : List UInt8) :
    decodeFrom (some pending) (byte :: rest) = decodeFrom (some after) rest := by
  rw [decodeFrom, continues]

theorem decodeFrom_last {pending : Pending} {byte : UInt8} {char : Char}
    (ends : pending.continue byte.toNat = some (.inl char)) (rest : List UInt8) :
    decodeFrom (some pending) (byte :: rest) = char :: decodeFrom none rest := by
  rw [decodeFrom, ends]

theorem toNat_byte {value : Nat} (fits : value < 256) : (UInt8.ofNat value).toNat = value := by
  exact Nat.mod_eq_of_lt fits

theorem lead_oneMore {byte : Nat} (lower : 0xc2 ≤ byte) (upper : byte ≤ 0xdf) :
    lead byte = .inr { codePoint := byte - 0xc0, needed := 1, lower := 0x80, upper := 0xbf } := by
  rw [lead, if_neg (by omega), if_pos ⟨lower, upper⟩]

theorem lead_twoMore {byte : Nat} (lower : 0xe0 ≤ byte) (upper : byte ≤ 0xef) :
    lead byte = .inr
      { codePoint := byte - 0xe0
        needed := 2
        lower := if byte = 0xe0 then 0xa0 else 0x80
        upper := if byte = 0xed then 0x9f else 0xbf } := by
  rw [lead, if_neg (by omega), if_neg (by omega), if_pos ⟨lower, upper⟩]

theorem lead_threeMore {byte : Nat} (lower : 0xf0 ≤ byte) (upper : byte ≤ 0xf4) :
    lead byte = .inr
      { codePoint := byte - 0xf0
        needed := 3
        lower := if byte = 0xf0 then 0x90 else 0x80
        upper := if byte = 0xf4 then 0x8f else 0xbf } := by
  rw [lead, if_neg (by omega), if_neg (by omega), if_neg (by omega), if_pos ⟨lower, upper⟩]

theorem continue_last {codePoint lower upper byte : Nat} (above : lower ≤ byte)
    (below : byte ≤ upper) :
    Pending.continue { codePoint, needed := 1, lower, upper } byte =
      some (.inl (Char.ofNat (codePoint * 64 + (byte - 0x80)))) := by
  rw [Pending.continue, if_pos ⟨above, below⟩, if_pos rfl]

theorem continue_more {codePoint needed lower upper byte : Nat} (above : lower ≤ byte)
    (below : byte ≤ upper) :
    Pending.continue { codePoint, needed := needed + 2, lower, upper } byte =
      some (.inr
        { codePoint := codePoint * 64 + (byte - 0x80)
          needed := needed + 1
          lower := 0x80
          upper := 0xbf }) := by
  rw [Pending.continue, if_pos ⟨above, below⟩]
  rfl

/-- The bytes of a character are one complete sequence. -/
theorem decodeFrom_encodeChar (char : Char) (rest : List UInt8) :
    decodeFrom none (encodeChar char ++ rest) = char :: decodeFrom none rest := by
  have valid : char.toNat < 0xd800 ∨ 0xdfff < char.toNat ∧ char.toNat < 0x110000 := char.valid
  have whole : Char.ofNat char.toNat = char := Char.ofNat_toNat char
  simp only [encodeChar]
  generalize char.toNat = code at valid whole ⊢
  by_cases one : code < 0x80
  · rw [if_pos one, List.singleton_append, decodeFrom, toNat_byte (by omega), lead, if_pos one,
      whole]
  rw [if_neg one]
  by_cases two : code < 0x800
  · have joined : (0xc0 + code / 64 - 0xc0) * 64 + (0x80 + code % 64 - 0x80) = code := by omega
    rw [if_pos two, List.cons_append, List.cons_append, List.nil_append, decodeFrom_lead
      (by rw [toNat_byte (by omega)]; exact lead_oneMore (by omega) (by omega)),
      decodeFrom_last (by rw [toNat_byte (by omega)]; exact continue_last (by omega) (by omega)),
      joined, whole]
  rw [if_neg two]
  by_cases three : code < 0x10000
  · have joined : ((0xe0 + code / 4096 - 0xe0) * 64 + (0x80 + code / 64 % 64 - 0x80)) * 64 +
        (0x80 + code % 64 - 0x80) = code := by omega
    rw [if_pos three, List.cons_append, List.cons_append, List.cons_append, List.nil_append,
      decodeFrom_lead (by rw [toNat_byte (by omega)]; exact lead_twoMore (by omega) (by omega)),
      decodeFrom_continue
        (by
          rw [toNat_byte (by omega)]
          exact continue_more (by split <;> omega) (by split <;> omega)),
      decodeFrom_last (by rw [toNat_byte (by omega)]; exact continue_last (by omega) (by omega)),
      joined, whole]
  · have joined : (((0xf0 + code / 262144 - 0xf0) * 64 + (0x80 + code / 4096 % 64 - 0x80)) * 64 +
        (0x80 + code / 64 % 64 - 0x80)) * 64 + (0x80 + code % 64 - 0x80) = code := by omega
    rw [if_neg three, List.cons_append, List.cons_append, List.cons_append, List.cons_append,
      List.nil_append,
      decodeFrom_lead (by rw [toNat_byte (by omega)]; exact lead_threeMore (by omega) (by omega)),
      decodeFrom_continue
        (by
          rw [toNat_byte (by omega)]
          exact continue_more (by split <;> omega) (by split <;> omega)),
      decodeFrom_continue
        (by rw [toNat_byte (by omega)]; exact continue_more (by omega) (by omega)),
      decodeFrom_last (by rw [toNat_byte (by omega)]; exact continue_last (by omega) (by omega)),
      joined, whole]

theorem decodeFrom_encode (rest : List UInt8) :
    decodeFrom none (encode text ++ rest) = text ++ decodeFrom none rest := by
  induction text with
  | nil => rfl
  | cons char text induction =>
    rw [encode_cons, List.append_assoc, decodeFrom_encodeChar, induction, List.cons_append]

theorem decode_encode : decode (encode text) = text := by
  have decoded := decodeFrom_encode text []
  rwa [List.append_nil, decodeFrom, List.append_nil] at decoded

theorem decodeFrom_length_le (pending : Option Pending) (bytes : List UInt8) :
    (decodeFrom pending bytes).length ≤ bytes.length + pending.elim 0 (fun _ => 1) := by
  fun_induction decodeFrom pending bytes with
  | case1 => simp
  | case2 => simp
  | case3 byte rest char leads induction => simp_all
  | case4 byte rest pending leads induction => simp_all
  | case5 pending byte rest char ends induction => simp_all; omega
  | case6 pending byte rest after continues induction => simp_all; omega
  | case7 pending byte rest breaks inductionChar inductionPending =>
    cases lead byte.toNat with
    | inl char => simp_all
    | inr after => simp_all

theorem encode_length_le : (encode text).length ≤ 4 * text.length := by
  induction text with
  | nil => simp
  | cons char text induction =>
    have charLength := encodeChar_length_le char
    rw [encode_cons, List.length_append, List.length_cons]
    omega

/-- Cutting well-formed text off adds at most replacements for the character that was
cut through. -/
theorem encode_decode_take_length_le (count : Nat) :
    (encode (decode ((encode text).take count))).length ≤ count + 16 := by
  induction text generalizing count with
  | nil => simp [decode, decodeFrom]
  | cons char text induction =>
    by_cases whole : (encodeChar char).length ≤ count
    · have rest := induction (count - (encodeChar char).length)
      rw [encode_cons, List.take_append, List.take_of_length_le whole, decode,
        decodeFrom_encodeChar, encode_cons, List.length_append, ← decode]
      omega
    · have charLength := encodeChar_length_le char
      have decoded := decodeFrom_length_le none ((encode (char :: text)).take count)
      have encoded := encode_length_le (decode ((encode (char :: text)).take count))
      rw [List.length_take] at decoded
      rw [decode] at encoded ⊢
      simp only [Option.elim_none] at decoded
      omega

end MatterJs.Utf8
