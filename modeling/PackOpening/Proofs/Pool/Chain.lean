import PackOpening.Policy.Basic
import PackOpening.Proofs.Pool.Stock

/-!
What a chain of parts leads to.

A chain gives the cards of its first part that has any. So a card comes out of a chain exactly when
it lies in some part and no part in front has a card. For the chains of the policies this says which
art a card has: the art that the chain prefers, where the pool has any of it, and any art otherwise.
-/
namespace PackOpening

/-- Every frame but the normal one is alternate art. -/
theorem RareFrame.isAltArt_of_admits {frame : RareFrame} {card : Card} (special : frame ≠ .normal)
    (admitted : frame.admits card = true) : card.isAltArt = true := by
  cases frame with
  | normal => exact absurd rfl special
  | alt => exact admitted
  | extended => exact Card.isAltArt_of_isExtendedOrBorderless admitted
  | showcase => exact Card.isAltArt_of_isShowcaseOrBorderless admitted

theorem Card.eq_of_hasRarity {card : Card} {r s : Rarity} (first : card.hasRarity r = true)
    (second : card.hasRarity s = true) : r = s := by
  unfold hasRarity at first second
  exact Rarity.name_injective ((eq_of_beq first).symm.trans (eq_of_beq second))

namespace Pool

variable {cards : List Card} {card : Card} {part : Partition} {rest : List Partition}

/-- Whether a pool has a usable card of some kind. -/
def Has (cards : List Card) (kind : Card → Bool) : Prop := ∃ c ∈ usable cards, kind c = true

instance (cards : List Card) (kind : Card → Bool) : Decidable (Has cards kind) :=
  inferInstanceAs (Decidable (∃ c ∈ usable cards, kind c = true))

theorem mem_usable : card ∈ usable cards ↔ card ∈ cards ∧ card.isUsable = true :=
  List.mem_filter

theorem mem_part : card ∈ Pool.part cards part ↔ card ∈ usable cards ∧ part.admits card = true :=
  List.mem_filter

theorem has_iff_stock (kind : Card → Bool) : Has cards kind ↔ stock cards kind = 1 := by
  unfold Has stock
  rw [← List.any_eq_true]
  split
  · next found => simp [found]
  · next missing => simp [missing]

theorem part_ne_nil_iff : Pool.part cards part ≠ [] ↔ Has cards part.admits := by
  constructor
  · intro stocked
    obtain ⟨c, there⟩ := List.exists_mem_of_ne_nil _ stocked
    exact ⟨c, mem_part.1 there⟩
  · rintro ⟨c, there, admitted⟩
    exact List.ne_nil_of_mem (mem_part.2 ⟨there, admitted⟩)

/-- A chain leads to its first part where that has a card, and to the others where it has none. -/
theorem mem_firstStocked_cons :
    card ∈ firstStocked cards (part :: rest) ↔
      (Has cards part.admits ∧ card ∈ Pool.part cards part) ∨
      (¬ Has cards part.admits ∧ card ∈ firstStocked cards rest) := by
  rw [← part_ne_nil_iff]
  simp only [firstStocked, List.isEmpty_iff]
  by_cases empty : Pool.part cards part = []
  · simp [empty]
  · simp [empty]

theorem mem_firstStocked_singleton :
    card ∈ firstStocked cards [part] ↔ card ∈ Pool.part cards part := by
  rw [mem_firstStocked_cons]
  constructor
  · rintro (⟨_, there⟩ | ⟨_, nowhere⟩)
    · exact there
    · exact absurd nowhere List.not_mem_nil
  · intro there
    exact Or.inl ⟨⟨card, mem_part.1 there⟩, there⟩

theorem mem_usable_of_mem_firstStocked {parts : List Partition}
    (member : card ∈ firstStocked cards parts) : card ∈ usable cards := by
  induction parts with
  | nil => exact absurd member List.not_mem_nil
  | cons part rest ih =>
    rcases mem_firstStocked_cons.1 member with ⟨_, here⟩ | ⟨_, later⟩
    · exact (mem_part.1 here).1
    · exact ih later

/-- Two parts in a chain: the cards of the first are preferred where the pool has any. -/
theorem mem_firstStocked_pair {preferred other : Partition} :
    card ∈ firstStocked cards [preferred, other] ↔
      card ∈ usable cards ∧ (preferred.admits card || other.admits card) = true ∧
        (Has cards preferred.admits → preferred.admits card = true) := by
  rw [mem_firstStocked_cons, mem_firstStocked_singleton, mem_part, mem_part, Bool.or_eq_true]
  by_cases has : Has cards preferred.admits
  · simp only [has, true_and, not_true_eq_false, false_and, or_false, forall_const]
    constructor
    · rintro ⟨there, first⟩
      exact ⟨there, Or.inl first, first⟩
    · rintro ⟨there, _, first⟩
      exact ⟨there, first⟩
  · simp only [has, false_and, not_false_eq_true, true_and, false_or, false_implies, and_true]
    constructor
    · rintro ⟨there, second⟩
      exact ⟨there, Or.inr second⟩
    · rintro ⟨there, first | second⟩
      · exact absurd ⟨card, there, first⟩ has
      · exact ⟨there, second⟩

/-- Alternate art of the rarity if the pool has any, and else any art of it. -/
theorem mem_altFirst {r : Rarity} :
    card ∈ firstStocked cards (Policy.altFirst r) ↔
      card ∈ usable cards ∧ card.hasRarity r = true ∧
        (Has cards (fun c => c.isAltArt && c.hasRarity r) → card.isAltArt = true) := by
  have chain := Pull.any_altFirst r card
  simp only [Policy.altFirst, List.any_cons, List.any_nil, Bool.or_false] at chain
  rw [Policy.altFirst, mem_firstStocked_pair, chain]
  refine and_congr_right fun _ => and_congr_right fun rarity => imp_congr_right fun _ => ?_
  simp [Partition.admits, Art.admits, rarity]

/-- The normal frame of the rarity if the pool has any, and else any art of it. -/
theorem mem_normalFirst {r : Rarity} :
    card ∈ firstStocked cards (Policy.normalFirst r) ↔
      card ∈ usable cards ∧ card.hasRarity r = true ∧
        (Has cards (fun c => !c.isAltArt && c.hasRarity r) → card.isAltArt = false) := by
  have chain := Pull.any_normalFirst r card
  simp only [Policy.normalFirst, List.any_cons, List.any_nil, Bool.or_false] at chain
  rw [Policy.normalFirst, mem_firstStocked_pair, chain]
  refine and_congr_right fun _ => and_congr_right fun rarity => imp_congr_right fun _ => ?_
  simp [Partition.admits, Art.admits, rarity]

/-- Every usable card, of the normal frame if the pool has any. -/
theorem mem_anyNormalFirst :
    card ∈ firstStocked cards [.every .normal, .every .any] ↔
      card ∈ usable cards ∧ (Has cards (fun c => !c.isAltArt) → card.isAltArt = false) := by
  have kind : (Partition.every .normal).admits = fun c => !c.isAltArt := rfl
  rw [mem_firstStocked_pair, kind]
  simp [Partition.admits, Art.admits]

/-- Every usable card, of alternate art if the pool has any. -/
theorem mem_anyAltFirst :
    card ∈ firstStocked cards [.every .alt, .every .normal, .every .any] ↔
      card ∈ usable cards ∧ (Has cards Card.isAltArt → card.isAltArt = true) := by
  have kind : (Partition.every .alt).admits = Card.isAltArt := rfl
  rw [mem_firstStocked_cons, mem_part, mem_anyNormalFirst, kind]
  by_cases has : Has cards Card.isAltArt
  · simp [has]
  · -- without alternate art every card is of the normal frame
    have plain : card ∈ usable cards → card.isAltArt = false := fun there =>
      Bool.eq_false_iff.2 fun art => has ⟨card, there, art⟩
    simp only [has, false_and, not_false_eq_true, true_and, false_or, false_implies, and_true]
    exact ⟨And.left, fun there => ⟨there, fun _ => plain there⟩⟩

/-- A rare or a mythic: of the frame if the pool has any, else of alternate art if it has any. -/
theorem mem_special {frame : RareFrame} (special : frame ≠ .normal) :
    card ∈ firstStocked cards
        [.rareOrMythic frame, .rareOrMythic .alt, .rareOrMythic .normal] ↔
      card ∈ usable cards ∧ card.isRareOrMythic = true ∧
        (Has cards (fun c => frame.admits c && c.isRareOrMythic) → frame.admits card = true) ∧
        (Has cards (fun c => c.isAltArt && c.isRareOrMythic) → card.isAltArt = true) := by
  have kind : (Partition.rareOrMythic frame).admits =
      fun c => frame.admits c && c.isRareOrMythic := rfl
  have behind : card ∈ firstStocked cards [.rareOrMythic .alt, .rareOrMythic .normal] ↔
      card ∈ usable cards ∧ card.isRareOrMythic = true ∧
        (Has cards (fun c => c.isAltArt && c.isRareOrMythic) → card.isAltArt = true) := by
    have chain : ((Partition.rareOrMythic .alt).admits card ||
        (Partition.rareOrMythic .normal).admits card) = card.isRareOrMythic := by
      cases art : card.isAltArt <;> simp [Partition.admits, RareFrame.admits, art]
    rw [mem_firstStocked_pair, chain]
    refine and_congr_right fun _ => and_congr_right fun rare => imp_congr_right fun _ => ?_
    simp [Partition.admits, RareFrame.admits, rare]
  rw [mem_firstStocked_cons, mem_part, behind, kind]
  by_cases has : Has cards fun c => frame.admits c && c.isRareOrMythic
  · simp only [has, true_and, not_true_eq_false, false_and, or_false, forall_const,
      Bool.and_eq_true]
    constructor
    · rintro ⟨there, framed, rare⟩
      exact ⟨there, rare, framed, fun _ => RareFrame.isAltArt_of_admits special framed⟩
    · rintro ⟨there, rare, framed, _⟩
      exact ⟨there, framed, rare⟩
  · simp [has]

end Pool
end PackOpening
