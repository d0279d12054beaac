import MatterJs.General.DerCodec

namespace MatterJs.General.DerCodec

open SignedReader Relation

/-! The decoder comes to an end when every element takes it forward, and an element does as
long as its length is not read as a negative number that takes back its own header. -/

theorem shiftLeft_eight (length : Int) :
    Bitwise32.shiftLeft length 8 = (length * 256).bmod (2 ^ 32) := by
  have distance : Bitwise32.shiftAmount 8 = 8 := by decide
  rw [Bitwise32.shiftLeft, distance, Bitwise32.low, BitVec.toInt_shiftLeft]
  rw [BitVec.toNat_ofInt]
  simp only [Int.bmod]
  omega

theorem signedLength_eq (bytes : Bytes) :
    signedLength bytes = (ByteOrder.decode .big bytes : Int).bmod (2 ^ 32) := by
  induction bytes using List.reverseRecOn with
  | nil => rfl
  | append_singleton bytes byte induction =>
    have value : ByteOrder.decode .big (bytes ++ [byte]) =
        byte.toNat + 256 * ByteOrder.decode .big bytes := by
      rw [ByteOrder.decode, List.reverse_append]
      rfl
    have isByte := byte.toNat_lt
    rw [signedLength] at induction ⊢
    rw [List.foldl_append, List.foldl_cons, List.foldl_nil, induction, shiftLeft_eight]
    simp only [Int.bmod]
    omega

/-- The element at the reader has a length of four bytes or more whose top bit is set and
which is, as a negative number, at least as far below zero as its header is long. -/
def TopBitLength (reader : SignedReader) : Prop :=
  0 ≤ reader.offset ∧ ∃ tag first lengthBytes later,
    reader.rest = tag :: first :: (lengthBytes ++ later) ∧
    first.toNat = 0x80 + lengthBytes.length ∧
    2 ^ 31 ≤ ByteOrder.decode .big lengthBytes % 2 ^ 32 ∧
    ByteOrder.decode .big lengthBytes % 2 ^ 32 + (2 + lengthBytes.length) ≤ 2 ^ 32

theorem signedLength_backward_iff (bytes : Bytes) :
    2 + bytes.length + signedLength bytes ≤ 0 ↔
      2 ^ 31 ≤ ByteOrder.decode .big bytes % 2 ^ 32 ∧
        ByteOrder.decode .big bytes % 2 ^ 32 + (2 + bytes.length) ≤ 2 ^ 32 := by
  rw [signedLength_eq]
  simp only [Int.bmod]
  omega

/-! ## One element -/

variable {reader next : SignedReader} {tag : Nat} {bytes : Bytes}

theorem decodeAsn1_bounds (reads : decodeAsn1 reader = .ok ((tag, bytes), next)) :
    next.buffer = reader.buffer ∧ bytes.length + 2 ≤ reader.buffer.length := by
  rcases decodeAsn1_eq_ok_iff.mp reads with
    ⟨tagByte, field, length, middle, rfl, isField, took, taken⟩
  have fieldPositive : 1 ≤ field.length := by
    cases isField <;> simp
  have lengths := took.length_le
  have offset := took.offset
  have inside := took.inside
  have sameBuffer := took.buffer
  rw [List.length_cons] at lengths offset
  cases taken
  refine ⟨sameBuffer, ?_⟩
  have start : subarrayPosition middle.buffer.length middle.offset = middle.offset.toNat := by
    rw [subarrayPosition, if_neg (by omega), sameBuffer]
    omega
  rw [subarray, start, List.length_take, List.length_drop, sameBuffer]
  omega

theorem topBitLength_iff {tagByte : UInt8} {field : Bytes} {length : Int} {middle : SignedReader}
    (isField : LengthField field length) (took : Took reader (tagByte :: field) middle) :
    TopBitLength reader ↔ 1 + field.length + length ≤ 0 := by
  have rest := took.rest
  cases isField with
  | short first isShort =>
    constructor
    · rintro ⟨_, _, first', lengthBytes, later, other, count, _⟩
      rw [rest] at other
      injection other with _ other
      injection other with sameFirst _
      rw [sameFirst] at isShort
      omega
    · intro backward
      omega
  | long first lengthBytes count =>
    have sum : (1 + (first :: lengthBytes).length + signedLength lengthBytes : Int) =
        2 + lengthBytes.length + signedLength lengthBytes := by
      rw [List.length_cons]
      omega
    rw [sum, signedLength_backward_iff]
    constructor
    · rintro ⟨_, _, first', otherBytes, later, other, otherCount, backward⟩
      rw [rest] at other
      injection other with _ other
      injection other with sameFirst other
      rw [← sameFirst] at otherCount
      rw [(List.append_inj other (by omega)).1]
      exact backward
    · intro backward
      exact ⟨took.inside, tagByte, first, lengthBytes, middle.rest, rest, count, backward⟩

theorem decodeAsn1_forward_iff (reads : decodeAsn1 reader = .ok ((tag, bytes), next)) :
    reader.offset < next.offset ↔ ¬TopBitLength reader := by
  rcases decodeAsn1_eq_ok_iff.mp reads with
    ⟨tagByte, field, length, middle, rfl, isField, took, taken⟩
  have lengths := took.length_le
  have offset := took.offset
  rw [List.length_cons] at lengths offset
  rw [topBitLength_iff isField took]
  cases taken
  have advanced : (middle.getOffsetAndAdvance length).2.offset =
      min (middle.offset + length) reader.buffer.length := by
    rw [← took.buffer]
    rfl
  change reader.offset < (middle.getOffsetAndAdvance length).2.offset ↔ _
  omega

theorem TopBitLength.reads (topBit : TopBitLength reader) :
    ∃ tag bytes next, decodeAsn1 reader = .ok ((tag, bytes), next) := by
  rcases topBit with ⟨inside, tagByte, first, lengthBytes, later, rest, count, _⟩
  rcases @Took.of_rest reader (tagByte :: first :: lengthBytes) inside later rest with
    ⟨middle, took, _⟩
  exact ⟨_, _, _, decodeAsn1_eq_ok_iff.mpr
    ⟨tagByte, first :: lengthBytes, _, middle, rfl, .long first lengthBytes count, took, rfl⟩⟩

/-! ## The calls of one decoding -/

/-- From one call of `decodeRec` to a further one: the first element of a constructed one,
or, for a call that comes from the loop over elements, the element behind. -/
inductive CallStep : Bool × SignedReader → Bool × SignedReader → Prop where
  | first {inLoop : Bool} {reader next : SignedReader} {tag : Nat} {bytes : Bytes} :
      decodeAsn1 reader = .ok ((tag, bytes), next) → tag ≠ bitString →
      tag &&& constructed ≠ 0 → bytes ≠ [] → CallStep (inLoop, reader) (true, .new bytes)
  | following {fuel : Nat} {reader next : SignedReader} {element : DerNode} :
      decodeRec fuel reader = some (.ok (element, next)) → next.remainingBytesCount > 0 →
      CallStep (true, reader) (true, next)

/-- `decode` comes to a call of `decodeRec` with the reader. -/
def Called (data : Bytes) (reader : SignedReader) : Prop :=
  ∃ inLoop, ReflTransGen CallStep (false, .new data) (inLoop, reader)

/-- The decoder returns or throws, and no element leaves its reader where it was or takes it
back. -/
structure DecodesForward (data : Bytes) : Prop where
  terminates : ∃ fuel result, decode fuel data = some result
  forward : ∀ reader, Called data reader → ∀ {tag bytes next},
    decodeAsn1 reader = .ok ((tag, bytes), next) → reader.offset < next.offset

theorem decodeAsn1_of_decodeRec {fuel : Nat} {element : DerNode}
    (decodes : decodeRec fuel reader = some (.ok (element, next))) :
    ∃ tag bytes, decodeAsn1 reader = .ok ((tag, bytes), next) := by
  cases fuel with
  | zero => cases decodes
  | succ fuel =>
    rw [decodeRec] at decodes
    cases reads : decodeAsn1 reader with
    | error error =>
      rw [reads] at decodes
      cases decodes
    | ok element =>
      rcases element with ⟨⟨tag, bytes⟩, after⟩
      refine ⟨tag, bytes, ?_⟩
      rw [reads] at decodes
      simp only at decodes
      split at decodes
      · cases decodes
        rfl
      · split at decodes
        · cases decodes
          rfl
        · split at decodes
          · cases decodes
          · cases decodes
          · cases decodes
            rfl

/-- Every call behind `call` moves forward. -/
def AllForward (call : Bool × SignedReader) : Prop :=
  ∀ later, ReflTransGen CallStep call later → ¬TopBitLength later.2

theorem AllForward.step {call after : Bool × SignedReader} (forward : AllForward call)
    (step : CallStep call after) : AllForward after :=
  fun later reaches => forward later (.head step reaches)

theorem isSome_decodeElements {size fuel : Nat}
    (elementEnds : ∀ {inner : SignedReader}, inner.buffer.length = size →
      AllForward (true, inner) → ∀ {fuel}, (size + 1) ^ 2 ≤ fuel → (decodeRec fuel inner).isSome)
    {remaining : Nat} (sameSize : reader.buffer.length = size)
    (bound : reader.remainingBytesCount ≤ remaining)
    (forward : reader.remainingBytesCount > 0 → AllForward (true, reader))
    (enough : remaining + 1 + (size + 1) ^ 2 ≤ fuel) (elements : List DerNode) :
    (decodeElements fuel reader elements).isSome := by
  induction remaining generalizing reader fuel elements with
  | zero =>
    rcases Nat.exists_eq_add_of_lt (Nat.lt_of_lt_of_le (Nat.succ_pos _) enough) with ⟨rest, rfl⟩
    rw [decodeElements, if_neg (by omega)]
    rfl
  | succ remaining induction =>
    cases fuel with
    | zero => omega
    | succ fuel =>
      rw [decodeElements]
      split
      · rename_i left
        have ends : (decodeRec fuel reader).isSome :=
          elementEnds sameSize (forward left) (by omega)
        cases decodes : decodeRec fuel reader with
        | none =>
          rw [decodes] at ends
          cases ends
        | some result =>
          cases result with
          | error error => rfl
          | ok result =>
            rcases decodeAsn1_of_decodeRec decodes with ⟨tag, bytes, reads⟩
            have further := (decodeAsn1_forward_iff reads).mpr (forward left _ .refl)
            have sameBuffer := (decodeAsn1_bounds reads).1
            apply induction (by rw [sameBuffer, sameSize]) ?_ ?_ (by omega)
            · rw [remainingBytesCount] at bound ⊢
              rw [sameBuffer]
              omega
            · intro stillLeft
              exact (forward left).step (.following decodes stillLeft)
      · rfl

/-- Where all elements move forward, the calls need no more than the square of the number of
bytes to end. -/
theorem isSome_decodeRec {inLoop : Bool} (forward : AllForward (inLoop, reader)) {fuel : Nat}
    (enough : (reader.buffer.length + 1) ^ 2 ≤ fuel) : (decodeRec fuel reader).isSome := by
  induction isSize : reader.buffer.length using Nat.strongRecOn generalizing reader inLoop fuel with
  | _ size induction =>
    rw [isSize] at enough
    cases fuel with
    | zero => exact absurd enough (Nat.not_le.mpr (Nat.pow_pos (Nat.succ_pos _)))
    | succ fuel =>
      rw [decodeRec]
      cases reads : decodeAsn1 reader with
      | error error => rfl
      | ok element =>
        rcases element with ⟨⟨tag, bytes⟩, next⟩
        have smaller := (decodeAsn1_bounds reads).2
        simp only
        split
        · rfl
        · rename_i notBits
          split
          · rfl
          · rename_i isConstructed
            have ends : (decodeElements fuel (.new bytes) []).isSome := by
              refine @isSome_decodeElements _ bytes.length fuel ?_ bytes.length ?_ ?_ ?_ ?_ []
              · intro inner sameSize innerForward fuel enough
                exact induction bytes.length (by omega) innerForward
                  (by rw [sameSize]; exact enough) sameSize
              · rfl
              · simp [remainingBytesCount, SignedReader.new]
              · intro left
                apply forward.step
                apply CallStep.first reads notBits isConstructed
                intro empty
                rw [empty] at left
                exact absurd left (by decide)
              · have square : (bytes.length + 2) ^ 2 ≤ (size + 1) ^ 2 :=
                  Nat.pow_le_pow_left (by omega) 2
                have expanded : (bytes.length + 2) ^ 2 =
                    (bytes.length + 1) ^ 2 + 2 * bytes.length + 3 := by ring
                omega
            cases decodes : decodeElements fuel (.new bytes) [] with
            | none =>
              rw [decodes] at ends
              cases ends
            | some result => cases result <;> rfl

/-- The decoder ends and moves forward exactly when no element it comes to has a length that
its four byte arithmetic makes a negative number of at least the header's size. -/
theorem decodesForward_iff (data : Bytes) :
    DecodesForward data ↔ ∀ reader, Called data reader → ¬TopBitLength reader := by
  constructor
  · intro decodes reader called topBit
    rcases topBit.reads with ⟨tag, bytes, next, reads⟩
    exact (decodeAsn1_forward_iff reads).mp (decodes.forward reader called reads) topBit
  · intro noTopBit
    constructor
    · have forward : AllForward (false, .new data) :=
        fun later reaches => noTopBit later.2 ⟨later.1, reaches⟩
      have ends := isSome_decodeRec forward (Nat.le_refl _)
      rcases Option.isSome_iff_exists.mp ends with ⟨result, decodes⟩
      exact ⟨_, result.map Prod.fst, by rw [decode, decodes]; rfl⟩
    · intro reader called tag bytes next reads
      exact (decodeAsn1_forward_iff reads).mpr (noTopBit reader called)

/-- An octet string of the length -6, which takes back its tag and its length. -/
def takesItselfBack : Bytes := [0x04, 0x84, 0xff, 0xff, 0xff, 0xfa]

theorem decodeElements_takesItselfBack (fuel : Nat) (elements : List DerNode) :
    decodeElements fuel (.new takesItselfBack) elements = none := by
  induction fuel generalizing elements with
  | zero => rfl
  | succ fuel induction =>
    rw [decodeElements, if_pos (by decide)]
    cases fuel with
    | zero => rfl
    | succ fuel =>
      exact induction _

/-- A sequence with this octet string in it is decoded without an end. -/
theorem not_decodesForward_sequence : ¬DecodesForward (0x30 :: 0x06 :: takesItselfBack) := by
  intro decodes
  rcases decodes.terminates with ⟨fuel, result, decodes⟩
  have reads : ∃ next, decodeAsn1 (.new (0x30 :: 0x06 :: takesItselfBack)) =
      .ok ((0x30, takesItselfBack), next) := ⟨_, rfl⟩
  rcases reads with ⟨next, reads⟩
  cases fuel with
  | zero => cases decodes
  | succ fuel =>
    rw [decode, decodeRec, reads] at decodes
    simp only [decodeElements_takesItselfBack] at decodes
    cases decodes

end MatterJs.General.DerCodec
