/-!
Orders in which collections are gone through that have no order of their own.
-/

namespace TaskGrid

/-- A way to go through a collection: all its entries, in some order. -/
structure Visit where
  arrange : {α : Type} → List α → List α
  perm : ∀ {α : Type} (l : List α), (arrange l).Perm l

namespace Visit

def listed : Visit := ⟨fun l => l, fun l => List.Perm.refl l⟩

instance : Inhabited Visit := ⟨listed⟩

@[simp] theorem mem_arrange (v : Visit) {α : Type} {l : List α} {a : α} : a ∈ v.arrange l ↔ a ∈ l :=
  (v.perm l).mem_iff

@[simp] theorem arrange_eq_nil (v : Visit) {α : Type} {l : List α} : v.arrange l = [] ↔ l = [] := by
  rw [← List.length_eq_zero_iff, (v.perm l).length_eq, List.length_eq_zero_iff]

end Visit
end TaskGrid
