import Mathlib.Data.List.Basic

namespace MatterJs.Totals

/-! Costs that may fail, added up over a list. -/

variable {Item Failure : Type}

def total (cost : Item → Except Failure Nat) : List Item → Except Failure Nat
  | [] => .ok 0
  | item :: items => do
    let first ← cost item
    let others ← total cost items
    return first + others

variable {cost : Item → Except Failure Nat} {item : Item} {items others : List Item} {sum : Nat}

@[simp] theorem total_nil : total cost [] = .ok 0 := rfl

theorem total_cons_iff : total cost (item :: items) = .ok sum ↔
    ∃ first rest, cost item = .ok first ∧ total cost items = .ok rest ∧ first + rest = sum := by
  rw [total]
  cases cost item with
  | error failure => simp [Bind.bind, Except.bind]
  | ok first => cases total cost items <;> simp [Bind.bind, Except.bind, Pure.pure, Except.pure]

theorem total_append_iff : total cost (items ++ others) = .ok sum ↔
    ∃ first rest, total cost items = .ok first ∧ total cost others = .ok rest ∧
      first + rest = sum := by
  induction items generalizing sum with
  | nil => simp
  | cons item items induction =>
    rw [List.cons_append, total_cons_iff]
    constructor
    · rintro ⟨one, more, costs, totals, rfl⟩
      rcases induction.mp totals with ⟨first, rest, itemsTotal, othersTotal, rfl⟩
      exact ⟨one + first, rest, total_cons_iff.mpr ⟨one, first, costs, itemsTotal, rfl⟩,
        othersTotal, Nat.add_assoc _ _ _⟩
    · rintro ⟨first, rest, itemsTotal, othersTotal, rfl⟩
      rcases total_cons_iff.mp itemsTotal with ⟨one, more, costs, totals, rfl⟩
      exact ⟨one, more + rest, costs, induction.mpr ⟨more, rest, totals, othersTotal, rfl⟩,
        (Nat.add_assoc _ _ _).symm⟩

theorem total_cons {first rest : Nat} (costs : cost item = .ok first)
    (totals : total cost items = .ok rest) : total cost (item :: items) = .ok (first + rest) :=
  total_cons_iff.mpr ⟨first, rest, costs, totals, rfl⟩

theorem total_append {first rest : Nat} (itemsTotal : total cost items = .ok first)
    (othersTotal : total cost others = .ok rest) :
    total cost (items ++ others) = .ok (first + rest) :=
  total_append_iff.mpr ⟨first, rest, itemsTotal, othersTotal, rfl⟩

theorem total_singleton : total cost [item] = cost item := by
  rw [total]
  cases cost item <;> rfl

theorem total_mono {other : Item → Except Failure Nat}
    (agrees : ∀ item ∈ items, ∀ size, cost item = .ok size → other item = .ok size)
    (totals : total cost items = .ok sum) : total other items = .ok sum := by
  induction items generalizing sum with
  | nil => exact totals
  | cons item items induction =>
    rw [List.forall_mem_cons] at agrees
    rcases total_cons_iff.mp totals with ⟨first, rest, costs, restTotal, rfl⟩
    exact total_cons (agrees.1 first costs) (induction agrees.2 restTotal)

theorem exists_cost_of_total (totals : total cost items = .ok sum) (member : item ∈ items) :
    ∃ size, cost item = .ok size := by
  induction items generalizing sum with
  | nil => cases member
  | cons first items induction =>
    rcases total_cons_iff.mp totals with ⟨one, rest, costs, restTotal, _⟩
    rcases List.mem_cons.mp member with rfl | later
    · exact ⟨one, costs⟩
    · exact induction restTotal later

end MatterJs.Totals
