import Mathlib.Data.List.Forall2

namespace MatterJs.PairedLists

/-! Two lists related element by element, under changes at one index. -/

universe u v

variable {First : Type u} {Second : Type v} {Related : First → Second → Prop}
  {firsts : List First} {seconds : List Second}

theorem forall_seconds (property : Second → Prop) (related : List.Forall₂ Related firsts seconds)
    (gives : ∀ first ∈ firsts, ∀ second, Related first second → property second) :
    ∀ second ∈ seconds, property second := by
  induction related with
  | nil => nofun
  | cons head _ induction =>
    rw [List.forall_mem_cons] at gives ⊢
    exact ⟨gives.1 _ head, induction gives.2⟩

theorem exists_second (related : List.Forall₂ Related firsts seconds) {first : First}
    (member : first ∈ firsts) : ∃ second, Related first second := by
  induction related with
  | nil => cases member
  | cons head _ induction =>
    rcases List.mem_cons.mp member with rfl | later
    · exact ⟨_, head⟩
    · exact induction later

theorem imp_of_mem {Other : First → Second → Prop} (related : List.Forall₂ Related firsts seconds)
    (gives : ∀ first ∈ firsts, ∀ second ∈ seconds, Related first second → Other first second) :
    List.Forall₂ Other firsts seconds := by
  induction related with
  | nil => exact .nil
  | cons head _ induction =>
    refine .cons (gives _ List.mem_cons_self _ List.mem_cons_self head) (induction ?_)
    intro first isFirst second isSecond
    exact gives first (List.mem_cons_of_mem _ isFirst) second (List.mem_cons_of_mem _ isSecond)

theorem related_getElem? (related : List.Forall₂ Related firsts seconds) {index : Nat}
    {first : First} (found : firsts[index]? = some first) :
    ∃ second, seconds[index]? = some second ∧ Related first second := by
  induction related generalizing index with
  | nil => cases found
  | cons head _ induction =>
    cases index with
    | zero =>
      cases found
      exact ⟨_, rfl, head⟩
    | succ index => exact induction found

theorem related_set (related : List.Forall₂ Related firsts seconds) {index : Nat}
    {first : First} {second : Second} (found : seconds[index]? = some second)
    (keeps : Related first second) :
    List.Forall₂ Related (firsts.set index first) seconds := by
  induction related generalizing index with
  | nil => cases found
  | cons head tail induction =>
    cases index with
    | zero =>
      cases found
      exact List.Forall₂.cons keeps tail
    | succ index => exact List.Forall₂.cons head (induction found)

theorem related_eraseIdx (related : List.Forall₂ Related firsts seconds) (index : Nat) :
    List.Forall₂ Related (firsts.eraseIdx index) (seconds.eraseIdx index) := by
  induction related generalizing index with
  | nil => exact List.Forall₂.nil
  | cons head tail induction =>
    cases index with
    | zero => exact tail
    | succ index => exact List.Forall₂.cons head (induction index)

def origin (erased index : Nat) : Nat :=
  if index < erased then index else index + 1

theorem origin_ne (erased index : Nat) : origin erased index ≠ erased := by
  rw [origin]
  split <;> omega

theorem getElem?_eraseIdx_eq (firsts : List First) (erased index : Nat) :
    (firsts.eraseIdx erased)[index]? = firsts[origin erased index]? := by
  rw [List.getElem?_eraseIdx, origin]
  split <;> rfl

theorem related_append_singleton (related : List.Forall₂ Related firsts seconds)
    {first : First} {second : Second} (last : Related first second) :
    List.Forall₂ Related (firsts ++ [first]) (seconds ++ [second]) := by
  induction related with
  | nil => exact List.Forall₂.cons last List.Forall₂.nil
  | cons head _ induction => exact List.Forall₂.cons head induction

theorem getElem?_append_singleton {last first : First} {index : Nat}
    (found : (firsts ++ [last])[index]? = some first) :
    firsts[index]? = some first ∨ index = firsts.length ∧ first = last := by
  rcases Nat.lt_or_ge index firsts.length with earlier | later
  · rw [List.getElem?_append_left earlier] at found
    exact Or.inl found
  · rw [List.getElem?_append_right later] at found
    rcases List.getElem?_eq_some_iff.mp found with ⟨bound, same⟩
    rw [List.length_singleton] at bound
    have atEnd : index = firsts.length := by omega
    apply Or.inr
    apply And.intro atEnd
    simpa using same.symm

end MatterJs.PairedLists
