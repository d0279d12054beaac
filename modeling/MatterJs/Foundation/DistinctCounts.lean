import Mathlib.Data.Finset.Card

namespace MatterJs

/-! Counting the distinct values of two functions on a list. -/

universe u v w

variable {Item : Type u} {First : Type v} {Second : Type w} [DecidableEq First]
  [DecidableEq Second] {items : List Item} {first : Item → First} {second : Item → Second}

theorem distinctCounts_eq_iff (decides : ∀ item ∈ items, ∀ other ∈ items, first item = first other →
      second item = second other) :
    (items.map first).toFinset.card = (items.map second).toFinset.card ↔
      ∀ item ∈ items, ∀ other ∈ items, second item = second other →
        first item = first other := by
  let both := (items.map fun item => (first item, second item)).toFinset
  have mem_both (entry : First × Second) :
      entry ∈ both ↔ ∃ item ∈ items, (first item, second item) = entry := by
    simp [both]
  have firsts : both.image Prod.fst = (items.map first).toFinset := by
    ext value
    simp [both]
  have seconds : both.image Prod.snd = (items.map second).toFinset := by
    ext value
    simp [both]
  have firstsDistinct : Set.InjOn Prod.fst (both : Set (First × Second)) := by
    intro entry inBoth other otherInBoth same
    rcases (mem_both entry).mp inBoth with ⟨item, member, rfl⟩
    rcases (mem_both other).mp otherInBoth with ⟨otherItem, otherMember, rfl⟩
    exact Prod.ext same (decides item member otherItem otherMember same)
  rw [← firsts, ← seconds, Finset.card_image_of_injOn firstsDistinct, eq_comm,
    Finset.card_image_iff]
  constructor
  · intro secondsDistinct item member other otherMember same
    have sameEntry := secondsDistinct ((mem_both _).mpr ⟨item, member, rfl⟩)
      ((mem_both _).mpr ⟨other, otherMember, rfl⟩) same
    exact (Prod.mk.inj sameEntry).1
  · intro decidesBack entry inBoth other otherInBoth same
    rcases (mem_both entry).mp inBoth with ⟨item, member, rfl⟩
    rcases (mem_both other).mp otherInBoth with ⟨otherItem, otherMember, rfl⟩
    exact Prod.ext (decidesBack item member otherItem otherMember same) same

end MatterJs
