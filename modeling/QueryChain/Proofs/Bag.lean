import Mathlib.Data.Multiset.Dedup
import Mathlib.Data.Multiset.Filter

namespace QueryChain

/-! Bags compared up to the duplicates that were removed from one of them. -/

variable {α β γ : Type} {found asked : Multiset α}

/-- Bags with the same elements, and with the same duplicates unless some were removed. -/
structure Agree (removed : Bool) (found asked : Multiset α) : Prop where
  mem_iff : ∀ element, element ∈ found ↔ element ∈ asked
  eq_of_kept : removed = false → found = asked

namespace Agree

variable {removed : Bool}

theorem filter (agree : Agree removed found asked) (test : α → Bool) :
    Agree removed (found.filter fun element => test element)
      (asked.filter fun element => test element) where
  mem_iff element := by simp only [Multiset.mem_filter, agree.mem_iff]
  eq_of_kept kept := by rw [agree.eq_of_kept kept]

theorem map (agree : Agree removed found asked) (f : α → β) :
    Agree removed (found.map f) (asked.map f) where
  mem_iff element := by simp only [Multiset.mem_map, agree.mem_iff]
  eq_of_kept kept := by rw [agree.eq_of_kept kept]

theorem dedup [DecidableEq α] (agree : Agree removed found asked) :
    Agree true found.dedup asked where
  mem_iff element := by rw [Multiset.mem_dedup, agree.mem_iff]
  eq_of_kept kept := by cases kept

/-- A function that tells the elements asked for apart makes no duplicates of those found. -/
theorem nodup_map {items : Multiset γ} {f : γ → α} {g : α → β}
    (agree : Agree removed found (items.map f)) (nodup : found.Nodup)
    (apart : ∀ item other, g (f item) = g (f other) → f item = f other) :
    (found.map g).Nodup := by
  refine Multiset.Nodup.map_on ?_ nodup
  intro first member second memberToo same
  obtain ⟨item, _, rfl⟩ := Multiset.mem_map.mp ((agree.mem_iff first).mp member)
  obtain ⟨other, _, rfl⟩ := Multiset.mem_map.mp ((agree.mem_iff second).mp memberToo)
  exact apart item other same

end Agree

end QueryChain
