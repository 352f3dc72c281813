import PackOpening.Text.Order

/-!
The order of texts is linear: code points are ordered by their numbers, and texts by the first code
points in which they differ.
-/
namespace PackOpening

namespace CodePoint

instance : LE CodePoint := ⟨fun a b => a.code ≤ b.code⟩

instance : Std.IsLinearOrder CodePoint where
  le_refl a := Nat.le_refl a.code
  le_trans _ _ _ := Nat.le_trans
  le_antisymm _ _ low high := code_injective (Nat.le_antisymm low high)
  le_total a b := Nat.le_total a.code b.code

instance : Std.LawfulOrderLT CodePoint where
  lt_iff a b := @Nat.lt_iff_le_and_not_ge a.code b.code

end CodePoint

namespace Text

theorem inOrder_iff {a b : Text} : inOrder a b = true ↔ a ≤ b := by
  simp [inOrder, List.not_lt]

/-- Whatever has a name can be put in the order of the names. -/
theorem pairwise_mergeSort_inOrder {α : Type} (name : α → Text) (items : List α) :
    ((items.mergeSort fun a b => inOrder (name a) (name b)).map name).Pairwise (· ≤ ·) := by
  let before : α → α → Bool := fun a b => inOrder (name a) (name b)
  have trans : ∀ a b c, before a b → before b c → before a c := fun _ _ _ first second =>
    inOrder_iff.2 (List.le_trans (inOrder_iff.1 first) (inOrder_iff.1 second))
  have total : ∀ a b, before a b || before b a := fun a b => by
    simpa only [Bool.or_eq_true, before, inOrder_iff] using List.le_total (name a) (name b)
  exact List.pairwise_map.2 ((List.pairwise_mergeSort trans total items).imp inOrder_iff.1)

end Text
end PackOpening
