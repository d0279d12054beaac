import MatterJs.Types.SchemaElements

/-! What validation accepts. -/

namespace MatterJs.Types

open General

theorem mapError_eq_ok_iff {α : Type} {result : Except MatterError α}
    {change : MatterError → MatterError} {value : α} :
    result.mapError change = .ok value ↔ result = .ok value := by
  cases result with
  | error failure => exact ⟨nofun, nofun⟩
  | ok other => exact Iff.rfl

namespace ArraySchema

theorem validateElements_eq_ok_iff {validate : TlvValue → Except MatterError Unit}
    {index : Nat} {elements : List TlvValue} :
    validateElements validate index elements = .ok () ↔
      ∀ element ∈ elements, validate element = .ok () := by
  induction elements generalizing index with
  | nil => simp [validateElements]
  | cons element elements induction =>
    rw [validateElements, bind_eq_ok_iff, List.forall_mem_cons, ← @induction (index + 1)]
    simp only [mapError_eq_ok_iff]
    exact ⟨fun ⟨_, first, others⟩ => ⟨first, others⟩, fun ⟨first, others⟩ => ⟨(), first, others⟩⟩

theorem validate_eq_ok_iff {minLength maxLength : Nat}
    {validateElement : TlvValue → Except MatterError Unit} {data : TlvValue} :
    validate minLength maxLength validateElement data = .ok () ↔
      ∃ elements, data = .array elements ∧ minLength ≤ elements.length ∧
        elements.length ≤ maxLength ∧ ∀ element ∈ elements, validateElement element = .ok () := by
  cases data with
  | array elements =>
    rw [validate]
    split
    · rename_i tooLong
      simp [Nat.not_le.mpr tooLong]
    · rename_i notTooLong
      split
      · rename_i tooShort
        simp [Nat.not_le.mpr tooShort]
      · rename_i notTooShort
        rw [validateElements_eq_ok_iff]
        simp [Nat.not_lt.mp notTooLong, Nat.not_lt.mp notTooShort]
  | number | boolean | string | bytes | null | object | stream => simp [validate]

end ArraySchema

namespace ObjectSchema

theorem validateElements_eq_ok_iff {validate : TlvValue → Except MatterError Unit}
    {elements : List TlvValue} :
    validateElements validate elements = .ok () ↔
      ∀ element ∈ elements, validate element = .ok () := by
  induction elements with
  | nil => simp [validateElements]
  | cons element elements induction =>
    rw [validateElements, bind_eq_ok_iff, List.forall_mem_cons, ← induction]
    exact ⟨fun ⟨_, first, others⟩ => ⟨first, others⟩, fun ⟨first, others⟩ => ⟨(), first, others⟩⟩

def Accepts (field : FieldType) (validate : TlvValue → Except MatterError Unit) :
    Option TlvValue → Prop
  | none => field.optional = true
  | some data =>
    if field.repeated then
      ∃ elements, data = .array elements ∧ field.minLength.getD 2 ≤ elements.length ∧
        elements.length ≤ field.maxLength.getD 65535 ∧
        ∀ element ∈ elements, validate element = .ok ()
    else validate data = .ok ()

theorem validateField_eq_ok_iff {name : String} {field : FieldType}
    {validate : TlvValue → Except MatterError Unit} {value : TlvValue} :
    validateField name field validate value = .ok () ↔
      ∃ found, value.property name = .ok found ∧ Accepts field validate found := by
  rw [validateField, bind_eq_ok_iff]
  apply exists_congr
  intro found
  apply and_congr_right
  intro _
  cases found with
  | none =>
    cases optional : field.optional with
    | false => simp [Accepts, optional]
    | true => simp [Accepts, optional, pure, Except.pure]
  | some data =>
    cases repeated : field.repeated with
    | false =>
      simp only [Accepts, repeated]
      exact mapError_eq_ok_iff
    | true =>
      simp only [Accepts, repeated]
      cases data with
      | array elements =>
        by_cases tooLong : elements.length > field.maxLength.getD 65535
        · simp [tooLong, bind, Except.bind]
        · by_cases tooShort : elements.length < field.minLength.getD 2
          · simp [tooLong, tooShort, bind, Except.bind]
          · simp [tooLong, tooShort, mapError_eq_ok_iff, validateElements_eq_ok_iff,
              Nat.not_lt.mp tooLong, Nat.not_lt.mp tooShort]
      | number | boolean | string | bytes | null | object | stream => simp

end ObjectSchema

end MatterJs.Types
