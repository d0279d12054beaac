import Mathlib.Data.List.Basic

namespace MatterJs.DecimalNames

/-! Names made of a prefix and decimal numbers with dashes between them. -/

theorem dash_not_mem_toString (number : Nat) : '-' ∉ (toString number).toList := by
  intro dash
  rw [Nat.toString_eq_ofList_toDigits, String.toList_ofList] at dash
  have isDigit := Nat.isDigit_of_mem_toDigits (by decide) (by decide) dash
  cases isDigit

theorem toString_injective {first second : Nat}
    (same : (toString first).toList = (toString second).toList) : first = second := by
  rw [Nat.toString_eq_ofList_toDigits, Nat.toString_eq_ofList_toDigits,
    String.toList_ofList, String.toList_ofList] at same
  have decoded := congrArg (fun digits => Nat.ofDigitChars 10 digits 0) same
  rw [Nat.ofDigitChars_ten_toDigits, Nat.ofDigitChars_ten_toDigits] at decoded
  exact decoded

theorem append_separator_inj {Symbol : Type*} {separator : Symbol}
    {first second firstRest secondRest : List Symbol} (notInFirst : separator ∉ first)
    (notInSecond : separator ∉ second)
    (same : first ++ separator :: firstRest = second ++ separator :: secondRest) :
    first = second ∧ firstRest = secondRest := by
  induction first generalizing second with
  | nil =>
    cases second with
    | nil => exact ⟨rfl, (List.cons.inj same).2⟩
    | cons symbol second =>
      have atStart := (List.cons.inj same).1
      exact absurd (atStart ▸ List.mem_cons_self ..) notInSecond
  | cons symbol first induction =>
    cases second with
    | nil =>
      have atStart := (List.cons.inj same).1
      exact absurd (atStart ▸ List.mem_cons_self ..) notInFirst
    | cons other second =>
      rcases List.cons.inj same with ⟨sameSymbol, sameRest⟩
      rcases induction (fun member => notInFirst (List.mem_cons_of_mem _ member))
        (fun member => notInSecond (List.mem_cons_of_mem _ member)) sameRest with
        ⟨sameFirst, sameTail⟩
      exact ⟨by rw [sameSymbol, sameFirst], sameTail⟩

end MatterJs.DecimalNames
