import Mathlib.Data.List.Forall2
import PackOpening.Proofs.Pack.Assembly

/-!
What the slots of a custom pack place, slot by slot.

Each slot resolves to one of its entries and places an enabled card of the entry's rarity from the
pool of the entry's set, or nothing if that pool has none. So every slot has one outcome, at its own
place.
-/
namespace PackOpening

open Chance

namespace CustomPack

variable {pools : SetPools} {default : Text} {slots : List Slot} {used : List Text}
  {as : List Answer} {assembly : Assembly}

/-- An outcome of a slot: the entry is one of the slot's, and its set gave a candidate if it had
one. -/
structure Fills (pools : SetPools) (default : Text) (slot : Slot) (outcome : Outcome) : Prop where
  entry : outcome.entry ∈ slot.entries
  places : ∀ drawn, outcome.card = some drawn →
    drawn.card ∈ outcome.entry.candidates pools default ∧ drawn.foil = false ∧
      drawn.altArt = drawn.card.isAltArt
  skipped : outcome.card = none ↔ outcome.entry.candidates pools default = []

theorem outcomeOf_fills {slot : Slot} {entry : SlotEntry} {result : Draw.Result}
    (chosen : entry ∈ slot.entries)
    (draws : Draw.Sparing (entry.candidates pools default) used result) :
    Fills pools default slot (outcomeOf entry used result) := by
  refine ⟨chosen, ?_, ?_⟩
  · intro drawn placed
    obtain ⟨card, taken, rfl⟩ := Option.map_eq_some_iff.1 placed
    exact ⟨draws.mem card taken, rfl, rfl⟩
  · exact Option.map_eq_none_iff.trans draws.none_iff

/-- Slots that have entries are filled one by one. -/
theorem fillAll_fills (filled : ∀ slot ∈ slots, slot.entries ≠ [])
    (path : (fillAll pools default slots used).Yields as assembly) :
    List.Forall₂ (Fills pools default) slots assembly.outcomes := by
  induction slots generalizing used as assembly with
  | nil =>
    rw [yields_fillAll_nil path]
    exact .nil
  | cons slot rest ih =>
    rcases yields_fillAll_cons path with
      ⟨empty, _⟩ | ⟨_, entry, _, result, _, others, _, found, draws, onward, rfl⟩
    · exact absurd empty (filled slot List.mem_cons_self)
    · have later := ih (fun s member => filled s (List.mem_cons_of_mem _ member)) onward
      exact .cons (outcomeOf_fills (Slot.mem_of_entryAt? found) (fill_sparing draws)) later

theorem assemble_fills {σ : Type} [Source σ] (source : σ)
    (filled : ∀ slot ∈ slots, slot.entries ≠ []) :
    List.Forall₂ (Fills pools default) slots
      ((assemble pools slots default).run source).1.outcomes :=
  fillAll_fills filled (yields_run _ source)

end CustomPack

/-- What stands in the second of two related lists is related to something in the first. -/
theorem exists_of_mem_of_forall₂ {α β : Type} {related : α → β → Prop} {as : List α}
    {bs : List β} (pairs : List.Forall₂ related as bs) {b : β} (member : b ∈ bs) :
    ∃ a ∈ as, related a b := by
  induction pairs with
  | nil => cases member
  | @cons a first as rest fit _ ih =>
    rcases List.mem_cons.1 member with rfl | later
    · exact ⟨a, List.mem_cons_self, fit⟩
    · obtain ⟨other, there, found⟩ := ih later
      exact ⟨other, List.mem_cons_of_mem _ there, found⟩

end PackOpening
