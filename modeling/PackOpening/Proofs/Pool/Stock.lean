import PackOpening.Proofs.Pack.Draw

/-!
What a pool has in stock: whether some usable card is of a kind.

A pull finds a card exactly when some usable card is admitted by one of the parts that it names. The
parts of each chain are chosen so that together they admit all cards of a rarity, whatever their
art; so the chains of the policies come down to rarities.
-/
namespace PackOpening

namespace Pool

variable {cards : List Card} {p : Card → Bool}

/-- One if a pool has a usable card of some kind, and zero if it has none. -/
def stock (cards : List Card) (kind : Card → Bool) : Nat :=
  if (usable cards).any kind then 1 else 0

theorem stock_eq_zero_iff : stock cards p = 0 ↔ ∀ c ∈ usable cards, p c = false := by
  simp [stock]

theorem stock_le_one (cards : List Card) (p : Card → Bool) : stock cards p ≤ 1 := by
  unfold stock
  split <;> decide

/-- A kind that two kinds make up is in stock when one of them is. -/
theorem stock_or (cards : List Card) (p q : Card → Bool) :
    stock cards (fun c => p c || q c) = max (stock cards p) (stock cards q) := by
  have joined : (usable cards).any (fun c => p c || q c) =
      ((usable cards).any p || (usable cards).any q) := by
    rw [Bool.eq_iff_iff]
    simp only [List.any_eq_true, Bool.or_eq_true]
    constructor
    · rintro ⟨c, member, left | right⟩
      · exact Or.inl ⟨c, member, left⟩
      · exact Or.inr ⟨c, member, right⟩
    · rintro (⟨c, member, left⟩ | ⟨c, member, right⟩)
      · exact ⟨c, member, Or.inl left⟩
      · exact ⟨c, member, Or.inr right⟩
  unfold stock
  rw [joined]
  cases (usable cards).any p <;> cases (usable cards).any q <;> rfl

/-- A pool with a card of some kind has a card. -/
theorem stock_le_every (cards : List Card) (p : Card → Bool) :
    stock cards p ≤ stock cards fun _ => true := by
  have split := stock_or cards p fun _ => true
  simp only [Bool.or_true] at split
  omega

theorem part_eq_nil_iff {part : Partition} :
    Pool.part cards part = [] ↔ ∀ c ∈ usable cards, part.admits c = false := by
  simp [Pool.part]

theorem firstStocked_eq_nil_iff {parts : List Partition} :
    firstStocked cards parts = [] ↔
      ∀ c ∈ usable cards, parts.any (fun part => part.admits c) = false := by
  induction parts with
  | nil => simp [firstStocked]
  | cons part rest ih =>
    simp only [firstStocked, List.isEmpty_iff, List.any_cons, Bool.or_eq_false_iff]
    by_cases empty : Pool.part cards part = []
    · rw [if_pos empty, ih]
      have none := part_eq_nil_iff.1 empty
      exact ⟨fun others c member => ⟨none c member, others c member⟩,
        fun both c member => (both c member).2⟩
    · rw [if_neg empty]
      constructor
      · exact fun stocked => absurd stocked empty
      · exact fun both => absurd (part_eq_nil_iff.2 fun c member => (both c member).1) empty

end Pool

namespace Pull

/-- Whether a card lies in one of the parts that a pull names. -/
def admits (pull : Pull) (card : Card) : Bool :=
  (pull.pools ++ pull.mythics).any (fun part => part.admits card)

/-- A pull has no candidate exactly when no usable card lies in the parts that it names. -/
theorem candidates_eq_nil_iff {cards : List Card} {pull : Pull} :
    pull.candidates cards = [] ↔ Pool.stock cards pull.admits = 0 := by
  rw [Pool.stock_eq_zero_iff]
  unfold candidates admits
  by_cases joined : pull.isRareOrMythic = true
  · simp only [joined, if_true, List.append_eq_nil_iff, Pool.firstStocked_eq_nil_iff,
      List.any_append, Bool.or_eq_false_iff]
    exact ⟨fun both c member => ⟨both.1 c member, both.2 c member⟩,
      fun both => ⟨fun c member => (both c member).1, fun c member => (both c member).2⟩⟩
  · have plain : pull.mythics = [] := by simpa [isRareOrMythic] using joined
    rw [if_neg joined, plain, List.append_nil]
    exact Pool.firstStocked_eq_nil_iff

variable {foil : Bool} {r s : Rarity} {frame : RareFrame}

/-- Alternate and normal art together are all art. -/
theorem any_altFirst (r : Rarity) (c : Card) :
    (Policy.altFirst r).any (fun part => part.admits c) = c.hasRarity r := by
  cases art : c.isAltArt <;> simp [Policy.altFirst, Partition.admits, Art.admits, art]

theorem any_normalFirst (r : Rarity) (c : Card) :
    (Policy.normalFirst r).any (fun part => part.admits c) = c.hasRarity r := by
  cases art : c.isAltArt <;> simp [Policy.normalFirst, Partition.admits, Art.admits, art]

theorem admits_altFirst : admits ⟨Policy.altFirst r, [], foil⟩ = fun c => c.hasRarity r := by
  funext c
  simp [admits, any_altFirst]

theorem admits_normalFirst :
    admits ⟨Policy.normalFirst r, [], foil⟩ = fun c => c.hasRarity r := by
  funext c
  simp [admits, any_normalFirst]

theorem admits_altFirst_either :
    admits ⟨Policy.altFirst r, Policy.altFirst s, foil⟩ =
      fun c => c.hasRarity r || c.hasRarity s := by
  funext c
  simp [admits, any_altFirst]

theorem admits_normalFirst_either :
    admits ⟨Policy.normalFirst r, Policy.normalFirst s, foil⟩ =
      fun c => c.hasRarity r || c.hasRarity s := by
  funext c
  simp [admits, any_normalFirst]

/-- Behind its own frame a special pull falls back to all rares and mythics. -/
theorem admits_special :
    admits ⟨[.rareOrMythic frame, .rareOrMythic .alt, .rareOrMythic .normal], [], foil⟩ =
      fun c => c.hasRarity .rare || c.hasRarity .mythic := by
  funext c
  cases art : c.isAltArt <;> cases rare : c.isRareOrMythic <;>
    simp_all [admits, Partition.admits, RareFrame.admits, Card.isRareOrMythic]

theorem rarity_any_admits (r : Rarity) (c : Card) :
    (Partition.rarity .any r).admits c = c.hasRarity r := by
  simp [Partition.admits, Art.admits]

theorem admits_anyRarity : admits ⟨[.rarity .any r], [], foil⟩ = fun c => c.hasRarity r := by
  funext c
  simp [admits, rarity_any_admits]

theorem admits_anyRarity_either :
    admits ⟨[.rarity .any r, .rarity .any s], [], foil⟩ =
      fun c => c.hasRarity r || c.hasRarity s := by
  funext c
  simp [admits, rarity_any_admits]

theorem admits_anyRarity_withMythics :
    admits ⟨[.rarity .any r, .rarity .any s], [.rarity .any .mythic], foil⟩ =
      fun c => c.hasRarity r || (c.hasRarity s || c.hasRarity .mythic) := by
  funext c
  simp [admits, rarity_any_admits]

/-- A pull that names the whole pool admits every card. -/
theorem admits_every {pull : Pull} (whole : .every .any ∈ pull.pools) :
    pull.admits = fun _ => true := by
  funext c
  exact List.any_eq_true.2 ⟨_, List.mem_append_left _ whole, rfl⟩

end Pull
end PackOpening
