import PackOpening.Chance.Script
import PackOpening.Proofs.Pack.Assembly

/-!
The draw of a slot is the draw of a pool.

A slot excludes the ids in use while it looks for cards of its rarity, and looks once more without
excluding any when it finds none; it puts the id of its card into use each time. Drawing from a pool
at hand filters the pool of that rarity by the ids in use, and leaves them alone when a card comes
back. Both ask for the same choices and leave the same ids in use, so a custom pack is what a loop
over its slots draws from the pools of their entries.
-/
namespace PackOpening

open Chance

namespace Pool

/-- Excluding ids while looking for a rarity is leaving them out of the cards of that rarity. -/
theorem unused_ofRarity (cards : List Card) (rarity : Text) (used : List Text) :
    unused (ofRarity cards rarity []) used = ofRarity cards rarity used := by
  simp only [unused, ofRarity, List.filter_filter]
  refine List.filter_congr fun c _ => ?_
  rw [List.contains_nil, Bool.not_false, Bool.and_true, Bool.and_comm]

end Pool

namespace Draw

variable {used : List Text} {first : Card} {rest : List Card}

/-- Putting an id into use that is in use already changes nothing. -/
theorem take_of_used (inUse : ∀ c ∈ first :: rest, c.id ∈ used) :
    take used first rest = (oneOf first rest).bind fun card => done ⟨some card, used⟩ := by
  refine bind_congr fun _ card path => ?_
  have there := inUse card (mem_of_yields_oneOf path)
  rw [pure_eq, List.insert_of_mem there]

end Draw

namespace CustomPack

theorem fill_eq_unique (pools : SetPools) (default : Text) (used : List Text)
    (entry : SlotEntry) :
    fill pools default used entry =
      Draw.unique (Pool.ofRarity (pools.of (entry.source default)) entry.rarity.name []) used := by
  have fresh := Pool.unused_ofRarity (pools.of (entry.source default)) entry.rarity.name used
  dsimp only [fill, Draw.unique]
  rw [fresh]
  cases unusedOnes : Pool.ofRarity (pools.of (entry.source default)) entry.rarity.name used with
  | cons first rest => rfl
  | nil =>
    -- every card of the rarity is in use, so the card that comes back adds no id
    rw [unusedOnes, Pool.unused_eq_nil_iff] at fresh
    cases all : Pool.ofRarity (pools.of (entry.source default)) entry.rarity.name [] with
    | nil => rfl
    | cons first rest =>
      rw [all] at fresh
      exact Draw.take_of_used fresh

/-- The cards that a loop over slots draws, the ids in use at its end, and whether a slot without
entries cut it short. -/
structure Drawing where
  cards : List DrawnCard
  used : List Text
  cutShort : Bool

/-- A drawing with one more card in front, if there is one. -/
def Drawing.behind (others : Drawing) : Option Card → Drawing
  | none => others
  | some card => { others with cards := ⟨card, false, card.isAltArt⟩ :: others.cards }

/-- Draws for one slot after another: the slot resolves to an entry, and the card is taken of the
enabled cards of the entry's rarity in the pool of its set. -/
def drawAll (pools : SetPools) (default : Text) :
    List Slot → (used : List Text) → Chance Drawing
  | [], used => pure ⟨[], used, false⟩
  | slot :: rest, used => do
    match ← slot.resolve with
    | none => pure ⟨[], used, true⟩
    | some entry =>
      let pool := Pool.ofRarity (pools.of (entry.source default)) entry.rarity.name []
      let result ← Draw.unique pool used
      let others ← drawAll pools default rest result.used
      pure (others.behind result.card)

/-- What an assembly has drawn. -/
def Assembly.drawing (assembly : Assembly) : Drawing :=
  ⟨assembly.cards, assembly.used, assembly.cutShort⟩

/-- The card of a slot goes in front of those of the others, if it has one. -/
theorem drawing_cons (entry : SlotEntry) (used : List Text) (result : Draw.Result)
    (others : Assembly) :
    Assembly.drawing { others with outcomes := outcomeOf entry used result :: others.outcomes } =
      others.drawing.behind result.card := by
  cases drawn : result.card <;>
    simp [Assembly.drawing, Assembly.cards, Drawing.behind, outcomeOf, drawn]

/-- Filling slots and drawing for them ask the same questions and come to the same cards. -/
theorem fillAll_drawing (pools : SetPools) (default : Text) (slots : List Slot)
    (used : List Text) :
    ((fillAll pools default slots used).bind fun assembly => done assembly.drawing) =
      drawAll pools default slots used := by
  induction slots generalizing used with
  | nil => rfl
  | cons slot rest ih =>
    simp only [fillAll, drawAll, bind_eq, bind_assoc]
    refine bind_congr fun _ choice _ => ?_
    cases choice with
    | none => rfl
    | some entry =>
      simp only [bind_assoc, fill_eq_unique]
      refine bind_congr fun _ result _ => ?_
      rw [← ih, bind_assoc]
      refine bind_congr fun _ others _ => ?_
      exact congrArg done (drawing_cons entry used result others)

/-- A custom pack is what a loop over its slots draws that takes each card from the cards of the
entry's rarity, prefers one not in use, and skips the slot when there is none: the same cards, the
same ids in use at the end, the same calls and the same source left behind, whatever the pools, the
slots and the source are. -/
theorem pack_is_drawn_slot_by_slot {σ : Type} [Source σ] (source : σ) (pools : SetPools)
    (slots : List Slot) (default : Text) :
    let pack := assemble pools slots default
    let loop := drawAll pools default slots []
    (pack.run source).1.cards = (loop.run source).1.cards ∧
    (pack.run source).1.used = (loop.run source).1.used ∧
    (pack.run source).1.cutShort = (loop.run source).1.cutShort ∧
    pack.calls source = loop.calls source ∧
    (pack.run source).2 = (loop.run source).2 := by
  intro pack loop
  have whole : (pack.bind fun assembly => done assembly.drawing) = loop :=
    fillAll_drawing pools default slots []
  have run : loop.run source = ((pack.run source).1.drawing, (pack.run source).2) := by
    rw [← whole, run_bind]
    rfl
  have calls : loop.calls source = pack.calls source := by
    rw [← whole, calls_bind]
    exact List.append_nil _
  rw [run, calls]
  exact ⟨rfl, rfl, rfl, rfl, rfl⟩

example :
    let common : Card := ⟨"a", "", "s", none, "common", false, none, none, false, []⟩
    let slots : List Slot := [⟨[⟨.common, 100, none⟩]⟩, ⟨[⟨.mythic, 100, none⟩]⟩,
      ⟨[⟨.common, 100, none⟩]⟩]
    let source : Script := ⟨[], 0.5, []⟩
    let pack := assemble [("s", [common])] slots "s"
    let loop := drawAll [("s", [common])] "s" slots []
    (pack.run source).1.cards = [⟨common, false, false⟩, ⟨common, false, false⟩] ∧
    (loop.run source).1.cards = [⟨common, false, false⟩, ⟨common, false, false⟩] ∧
    pack.calls source = [.roll, .pick 1, .roll, .roll, .pick 1] ∧
    loop.calls source = [.roll, .pick 1, .roll, .roll, .pick 1] := by
  decide +kernel

end CustomPack
end PackOpening
