import PackOpening.Pack.Builtin
import PackOpening.Pack.Custom
import PackOpening.Proofs.Chance.Path

/-!
What a draw comes to, whatever the chance: it takes a candidate if there is any, its id is then in
use, and an id that was in use before comes back only when those of all candidates were.

The rule is stated once and shown of each way to draw: one card of a pool, a rare or a mythic, the
card of a pull, and the card of an entry.
-/
namespace PackOpening

open Chance

namespace Pool

variable {cards pool : List Card} {used : List Text} {card : Card}

theorem mem_unused : card ∈ unused pool used ↔ card ∈ pool ∧ card.id ∉ used := by
  simp [unused]

theorem unused_eq_nil_iff : unused pool used = [] ↔ ∀ c ∈ pool, c.id ∈ used := by
  simp [unused]

theorem mem_ofRarity {rarity : Text} {excluded : List Text} :
    card ∈ ofRarity cards rarity excluded ↔
      card ∈ cards ∧ card.rarity = rarity ∧ card.disabled = false ∧ card.id ∉ excluded := by
  simp [ofRarity, and_assoc]

end Pool

namespace Draw

/-- A draw from some candidates while some ids are in use. -/
structure Sparing (candidates : List Card) (used : List Text) (result : Result) : Prop where
  mem : ∀ card, result.card = some card → card ∈ candidates
  none_iff : result.card = none ↔ candidates = []
  mem_used : ∀ id, id ∈ result.used ↔
    id ∈ used ∨ ∃ card, result.card = some card ∧ card.id = id
  exhausted : ∀ card, result.card = some card → card.id ∈ used → ∀ c ∈ candidates, c.id ∈ used

variable {candidates pool rares mythics rest : List Card} {used : List Text} {first : Card}
  {as : List Answer} {result : Result}

theorem yields_take (path : (take used first rest).Yields as result) :
    ∃ card ∈ first :: rest, result = ⟨some card, used.insert card.id⟩ := by
  obtain ⟨_, card, _, _, drawn, finish⟩ := yields_bind.1 path
  obtain ⟨_, rfl⟩ := yields_done.1 finish
  exact ⟨card, mem_of_yields_oneOf drawn, rfl⟩

/-- Taking one of the unused candidates is a sparing draw, and so is taking any candidate once all
are in use. -/
theorem take_sparing (among : ∀ c ∈ first :: rest, c ∈ candidates)
    (allowed : (∀ c ∈ first :: rest, c.id ∉ used) ∨ ∀ c ∈ candidates, c.id ∈ used)
    (path : (take used first rest).Yields as result) : Sparing candidates used result := by
  obtain ⟨card, taken, rfl⟩ := yields_take path
  have candidate := among card taken
  refine ⟨?_, ?_, ?_, ?_⟩
  · rintro _ ⟨⟩
    exact candidate
  · simp [List.ne_nil_of_mem candidate]
  · intro id
    simp only [List.mem_insert_iff, Option.some.injEq, exists_eq_left', eq_comm, or_comm]
  · rintro _ ⟨⟩ repeated
    rcases allowed with fresh | exhausted
    · exact absurd repeated (fresh card taken)
    · exact exhausted

/-- A card that comes back leaves the ids in use as they are. -/
theorem repeat_sparing (exhausted : ∀ c ∈ first :: rest, c.id ∈ used)
    (path : ((oneOf first rest).bind fun card => done ⟨some card, used⟩).Yields as result) :
    Sparing (first :: rest) used result := by
  obtain ⟨_, card, _, _, drawn, finish⟩ := yields_bind.1 path
  obtain ⟨_, rfl⟩ := yields_done.1 finish
  have candidate := mem_of_yields_oneOf drawn
  refine ⟨?_, by simp, ?_, fun _ _ _ => exhausted⟩
  · rintro _ ⟨⟩
    exact candidate
  · intro id
    constructor
    · exact Or.inl
    · rintro (inUse | ⟨_, ⟨⟩, rfl⟩)
      · exact inUse
      · exact exhausted card candidate

/-- Taking an unused card of a part of the candidates is a sparing draw. -/
theorem take_unused_sparing (among : ∀ c ∈ pool, c ∈ candidates)
    (fresh : Pool.unused pool used = first :: rest)
    (path : (take used first rest).Yields as result) : Sparing candidates used result := by
  have unusedOnes : ∀ c ∈ first :: rest, c ∈ pool ∧ c.id ∉ used := fun c member =>
    Pool.mem_unused.1 (fresh ▸ member)
  exact take_sparing (fun c member => among c (unusedOnes c member).1)
    (Or.inl fun c member => (unusedOnes c member).2) path

theorem unique_sparing (path : (unique pool used).Yields as result) :
    Sparing pool used result := by
  unfold unique at path
  cases fresh : Pool.unused pool used with
  | cons first rest =>
    rw [fresh] at path
    exact take_unused_sparing (fun _ => id) fresh path
  | nil =>
    rw [fresh] at path
    cases pool with
    | nil =>
      obtain ⟨_, rfl⟩ := yields_done.1 path
      exact ⟨by simp, by simp, by simp, by simp⟩
    | cons first rest => exact repeat_sparing (Pool.unused_eq_nil_iff.1 fresh) path

/-- The candidates are the rares and the mythics together, although a roll may favour one side. -/
theorem rareOrMythic_sparing {chance : Float}
    (path : (rareOrMythic rares mythics chance used).Yields as result) :
    Sparing (rares ++ mythics) used result := by
  have rareSide : ∀ c ∈ rares, c ∈ rares ++ mythics := fun _ => List.mem_append_left _
  have mythicSide : ∀ c ∈ mythics, c ∈ rares ++ mythics := fun _ => List.mem_append_right _
  unfold rareOrMythic at path
  split at path
  · exact unique_sparing path
  · next fresh _ => exact take_unused_sparing rareSide fresh path
  · next fresh =>
    obtain ⟨_, _, _, _, _, finish⟩ := yields_bind.1 path
    exact take_unused_sparing mythicSide fresh finish
  · next rareFresh mythicFresh =>
    obtain ⟨_, roll, _, _, _, finish⟩ := yields_bind.1 path
    by_cases below : roll < chance
    · rw [if_pos below] at finish
      exact take_unused_sparing mythicSide mythicFresh finish
    · rw [if_neg below] at finish
      exact take_unused_sparing rareSide rareFresh finish

end Draw

/-- The cards that a pull may take: the first part of its chain that has any, and for a rare or a
mythic the first of each of its two chains. -/
def Pull.candidates (cards : List Card) (pull : Pull) : List Card :=
  if pull.isRareOrMythic then
    Pool.firstStocked cards pull.pools ++ Pool.firstStocked cards pull.mythics
  else Pool.firstStocked cards pull.pools

/-- The cards that an entry may take: the enabled ones of its rarity in the pool of its set. -/
def SlotEntry.candidates (pools : SetPools) (default : Text) (entry : SlotEntry) : List Card :=
  (pools.of (entry.source default)).filter
    (fun c => c.rarity == entry.rarity.name && !c.disabled)

theorem BuiltinPack.draw_sparing {cards : List Card} {pull : Pull} {used : List Text}
    {as : List Answer} {result : Draw.Result}
    (path : (BuiltinPack.draw cards pull used).Yields as result) :
    Draw.Sparing (pull.candidates cards) used result := by
  unfold BuiltinPack.draw at path
  unfold Pull.candidates
  by_cases joined : pull.isRareOrMythic = true
  · simp only [joined, if_true] at path ⊢
    exact Draw.rareOrMythic_sparing path
  · simp only [joined] at path ⊢
    exact Draw.unique_sparing path

namespace CustomPack

variable {pools : SetPools} {default : Text} {used : List Text} {entry : SlotEntry}
  {as : List Answer} {result : Draw.Result}

theorem candidates_eq_ofRarity :
    entry.candidates pools default =
      Pool.ofRarity (pools.of (entry.source default)) entry.rarity.name [] := by
  simp [SlotEntry.candidates, Pool.ofRarity]

theorem fill_sparing (path : (fill pools default used entry).Yields as result) :
    Draw.Sparing (entry.candidates pools default) used result := by
  rw [candidates_eq_ofRarity]
  dsimp only [fill] at path
  split at path
  · next _ first rest fresh =>
    have unusedOnes : ∀ c ∈ first :: rest,
        c ∈ Pool.ofRarity (pools.of (entry.source default)) entry.rarity.name [] ∧
          c.id ∉ used := by
      intro c member
      have ⟨there, rarity, enabled, notUsed⟩ := Pool.mem_ofRarity.1 (fresh ▸ member)
      exact ⟨Pool.mem_ofRarity.2 ⟨there, rarity, enabled, by simp⟩, notUsed⟩
    exact Draw.take_sparing (fun c member => (unusedOnes c member).1)
      (Or.inl fun c member => (unusedOnes c member).2) path
  · next first rest noneUnused stocked =>
    rw [stocked]
    refine Draw.take_sparing (fun _ => id) (Or.inr ?_) path
    intro c member
    have ⟨there, rarity, enabled, _⟩ := Pool.mem_ofRarity.1 (stocked ▸ member)
    refine Classical.byContradiction fun notUsed => ?_
    have fresh := Pool.mem_ofRarity.2 ⟨there, rarity, enabled, notUsed⟩
    rw [noneUnused] at fresh
    exact absurd fresh List.not_mem_nil
  · next stocked =>
    obtain ⟨_, rfl⟩ := yields_done.1 path
    rw [stocked]
    exact ⟨by simp, by simp, by simp, by simp⟩

end CustomPack
end PackOpening
