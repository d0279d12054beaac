import MatterJs.Types.ManualPairingCode

/-! What the check digit of a manual pairing code is good for. -/

namespace MatterJs.Types.ManualPairingCode

open General CheckDigits Verhoeff

/-- The comparison that `decode` makes before it looks at the numbers in the digits -/
def failsChecksum (encoded : List Char) : Except MatterError Bool := do
  let checksum ← computeChecksum encoded.dropLast
  return checksum.map Int.ofNat ≠ parseInt (encoded.drop (encoded.length - 1)) 10

theorem decode_of_isDecimal {encoded : List Char} (isDecimal : IsDecimal encoded) :
    decode encoded =
      if encoded.length ≠ 11 ∧ encoded.length ≠ 21 then
        .error (.unexpectedDataError "Invalid pairing code")
      else (do
        let fails ← failsChecksum encoded
        if fails then .error (.unexpectedDataError "Invalid checksum")
        else decodeDigits encoded) := by
  have robust : encoded.filter Char.isDigit = encoded := List.filter_eq_self.mpr isDecimal
  rw [decode, robust, failsChecksum]
  cases computeChecksum encoded.dropLast with
  | error error => rfl
  | ok checksum =>
    simp [bind, Except.bind, pure, Except.pure]

theorem failsChecksum_eq {digits : List Char} {last : Char} (isDecimal : IsDecimal digits)
    (isDigit : last.isDigit = true) :
    failsChecksum (digits ++ [last]) =
      .ok (decide (product weight 0 (digits ++ [last]).reverse ≠ 1)) := by
  rcases computeChecksum_eq isDecimal with ⟨checksum, small, computes, isProduct⟩
  have lastSmall := (digitValue_of_isDigit isDigit).2
  have dropped : (digits ++ [last]).drop ((digits ++ [last]).length - 1) = [last] := by
    rw [List.length_append, List.length_singleton, Nat.add_sub_cancel, List.drop_left]
  have matched : (some checksum).map Int.ofNat ≠ some ((last.toNat - '0'.toNat : Nat) : Int) ↔
      product weight 0 (digits ++ [last]).reverse ≠ 1 := by
    have weighs : product weight 0 (digits ++ [last]).reverse =
        symmetry (last.toNat - '0'.toNat) * (symmetry checksum)⁻¹ := by
      rw [List.reverse_append, isProduct, inv_inv, ← weightOf_zero _ lastSmall]
      rfl
    rw [weighs, ne_eq, ne_eq, mul_inv_eq_one, not_iff_not, Option.map_some, Option.some_inj]
    constructor
    · intro same
      rw [Int.ofNat.inj same]
    · intro same
      rw [symmetry_injective _ lastSmall _ small same]
      rfl
  rw [failsChecksum, List.dropLast_concat, computes, dropped, parseInt_char isDigit]
  exact congrArg Except.ok (decide_eq_decide.mpr matched)

theorem failsChecksum_of_mistyped {digits typed : List Char} {checksum : Nat}
    (isDecimal : IsDecimal digits) (computes : computeChecksum digits = .ok (some checksum))
    (small : checksum < 10) (typedDecimal : IsDecimal typed)
    (mistyped : Mistyped (digits ++ [checksum.digitChar]) typed) :
    failsChecksum typed = .ok true := by
  have right : failsChecksum (digits ++ [checksum.digitChar]) = .ok false := by
    have parsed := parseInt_toDigits checksum
    rw [Nat.toDigits_of_lt_base small] at parsed
    rw [failsChecksum, List.dropLast_concat, computes, List.length_append, List.length_singleton,
      Nat.add_sub_cancel, List.drop_left, parsed]
    exact congrArg Except.ok (decide_eq_false (not_not.mpr rfl))
  have isDigit : checksum.digitChar.isDigit = true := by
    have member : checksum.digitChar ∈ Nat.toDigits 10 checksum := by
      rw [Nat.toDigits_of_lt_base small]
      exact List.mem_singleton_self _
    exact Nat.isDigit_of_mem_toDigits (by decide) (by decide) member
  have isOne := right
  rw [failsChecksum_eq isDecimal isDigit, Except.ok.injEq, decide_eq_false_iff_not, not_not]
    at isOne
  have notEmpty : typed ≠ [] := by
    apply List.ne_nil_of_length_pos
    rw [mistyped.length_eq, List.length_append]
    exact Nat.succ_pos _
  rw [← List.dropLast_concat_getLast notEmpty] at typedDecimal mistyped ⊢
  have allDecimal : ∀ char ∈ digits ++ [checksum.digitChar], char.isDigit = true := by
    intro char member
    rcases List.mem_append.mp member with before | last
    · exact isDecimal char before
    · rw [List.mem_singleton.mp last]
      exact isDigit
  have differs := weight_separates.product_ne mistyped.reverse
    (fun char member => allDecimal char (List.mem_reverse.mp member))
    (fun char member => typedDecimal char (List.mem_reverse.mp member)) 0
  rw [failsChecksum_eq (fun char member => typedDecimal char (List.mem_append_left _ member))
    (typedDecimal _ (List.mem_append_right _ (List.mem_singleton_self _)))]
  apply congrArg Except.ok (decide_eq_true _)
  intro isOneToo
  exact differs (isOne.trans isOneToo.symm)

/-- No code with a mistyped digit, or with two neighbours swapped, is taken for a right one. -/
theorem mistyped_isDetected {digits : List Char} (isDecimal : IsDecimal digits) :
    ∃ checksum < 10, computeChecksum digits = .ok (some checksum) ∧
      ∀ typed, IsDecimal typed → Mistyped (digits ++ Nat.toDigits 10 checksum) typed →
        failsChecksum typed = .ok true ∧
          decode typed = .error (.unexpectedDataError
            (if typed.length = 11 ∨ typed.length = 21 then "Invalid checksum"
            else "Invalid pairing code")) := by
  rcases computeChecksum_eq isDecimal with ⟨checksum, small, computes, _⟩
  refine ⟨checksum, small, computes, ?_⟩
  intro typed typedDecimal mistyped
  rw [Nat.toDigits_of_lt_base small] at mistyped
  have fails := failsChecksum_of_mistyped isDecimal computes small typedDecimal mistyped
  refine ⟨fails, ?_⟩
  rw [decode_of_isDecimal typedDecimal, fails]
  by_cases isCode : typed.length = 11 ∨ typed.length = 21
  · rw [if_neg (by omega), if_pos isCode]
    rfl
  · rw [if_pos (by omega), if_neg isCode]

theorem mistyped_isDetected_example :
    ∃ checksum < 10, computeChecksum "3497011233".toList = .ok (some checksum) ∧
      ∀ typed, IsDecimal typed →
        Mistyped ("3497011233".toList ++ Nat.toDigits 10 checksum) typed →
          failsChecksum typed = .ok true ∧
            decode typed = .error (.unexpectedDataError
              (if typed.length = 11 ∨ typed.length = 21 then "Invalid checksum"
              else "Invalid pairing code")) :=
  mistyped_isDetected (List.all_eq_true.mp rfl)

end MatterJs.Types.ManualPairingCode
