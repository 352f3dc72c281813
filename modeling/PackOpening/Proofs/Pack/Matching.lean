import Mathlib.Data.List.FinRange
import Mathlib.Order.Fin.Basic
import PackOpening.Chance.Script
import PackOpening.Proofs.Pack.Filling
import PackOpening.Proofs.Pack.Repeats

/-!
Custom packs slot by slot.

The cards of a pack lie in the order of the slots that they fill, and each slot without a card is
reported under its own number. So the cards are matched with the slots by an order embedding, and
the slots outside of its range are those whose entry has nothing to give. The entry of a slot is
what the slot resolves to with the source that the slots in front of it leave.
-/
namespace PackOpening

open Chance

/-- What some positions hold stands in the list of these values in their order: each value has its
place, and a position that is no place holds nothing. -/
theorem exists_places {β : Type} {n : Nat} (held : Fin n → Option β) {values : List β}
    (listed : (List.finRange n).filterMap held = values) :
    ∃ place : Fin values.length ↪o Fin n,
      (∀ j, held (place j) = some values[j]) ∧ ∀ i, (∀ j, place j ≠ i) ↔ held i = none := by
  -- the positions that hold a value, which stand in increasing order
  let places := (List.finRange n).filter fun i => (held i).isSome
  have values_eq : places.map held = values.map some := by
    rw [← listed, List.map_filterMap_some_eq_filter_map_isSome, List.filter_map]
    rfl
  have length_eq : values.length = places.length := by
    simpa using (congrArg List.length values_eq).symm
  have ordered : places.Pairwise (· < ·) := (List.pairwise_lt_finRange n).filter _
  have increasing : StrictMono fun j : Fin values.length => places.get (j.cast length_eq) :=
    fun _ _ before => List.pairwise_iff_getElem.1 ordered _ _ _ _ before
  refine ⟨OrderEmbedding.ofStrictMono _ increasing, ?_, ?_⟩
  · intro j
    have at_j := List.getElem_of_eq values_eq (i := j) (by simpa [length_eq] using j.isLt)
    simpa using at_j
  · intro i
    have holds : i ∈ places ↔ held i ≠ none := by
      simp [places, Option.isSome_iff_ne_none]
    have reached : (∃ j : Fin values.length, places.get (j.cast length_eq) = i) ↔ i ∈ places := by
      constructor
      · rintro ⟨j, rfl⟩
        exact List.get_mem places _
      · intro member
        obtain ⟨k, rfl⟩ := List.get_of_mem member
        exact ⟨k.cast length_eq.symm, rfl⟩
    exact not_exists.symm.trans ((not_congr (reached.trans holds)).trans not_not)

namespace CustomPack

section Runs

variable {σ : Type} [Source σ] {pools : SetPools} {default : Text} {slot : Slot}
  {slots rest : List Slot} {used : List Text} {entry : SlotEntry} {source : σ}

/-- A slot that resolves to an entry is filled from the source that resolving leaves, and the others
from the source that filling leaves. -/
theorem run_fillAll_cons (found : (slot.resolve.run source).1 = some entry) :
    let result := (fill pools default used entry).run (slot.resolve.run source).2
    let others := (fillAll pools default rest result.1.used).run result.2
    (fillAll pools default (slot :: rest) used).run source =
      ({ others.1 with outcomes := outcomeOf entry used result.1 :: others.1.outcomes },
        others.2) := by
  intro result others
  simp only [fillAll, bind_eq, run_bind, found]
  rfl

/-- The source as it finds a slot when the slots in front of it have been filled. -/
def sourceAt (pools : SetPools) (default : Text) (slots : List Slot) (used : List Text)
    (source : σ) (k : Nat) : σ :=
  ((fillAll pools default (slots.take k) used).run source).2

/-- The outcome at a place is that of the entry which the slot at this place resolves to. -/
theorem outcome_at (filled : ∀ slot ∈ slots, slot.entries ≠ []) {k : Nat}
    (there : slots[k]? = some slot) (used : List Text) (source : σ) :
    ∃ outcome, ((fillAll pools default slots used).run source).1.outcomes[k]? = some outcome ∧
      (slot.resolve.run (sourceAt pools default slots used source k)).1 = some outcome.entry := by
  -- filling the first slot leaves the source that the prefix of the others starts from
  induction slots generalizing used source k with
  | nil => simp at there
  | cons first rest ih =>
    have stocked := filled first List.mem_cons_self
    obtain ⟨entry, found⟩ : ∃ entry, (first.resolve.run source).1 = some entry := by
      rw [Slot.run_resolve]
      exact Option.ne_none_iff_exists'.1 fun none => stocked (Slot.entryAt?_eq_none_iff.1 none)
    unfold sourceAt
    cases k with
    | zero =>
      cases there
      rw [run_fillAll_cons found]
      exact ⟨_, rfl, found⟩
    | succ k =>
      rw [List.take_succ_cons, run_fillAll_cons found, run_fillAll_cons found]
      exact ih (fun s member => filled s (List.mem_cons_of_mem _ member)) there _ _

end Runs

/-- The report of a slot under its number, if it was not filled. -/
def Outcome.skipEvent? (default : Text) (number : Nat) (outcome : Outcome) : Option PackEvent :=
  match outcome.card with
  | some _ => none
  | none => some (.customSlotSkipped number (outcome.entry.source default) outcome.entry.rarity)

/-- The reports of skipped slots are those of the slots one by one, numbered from the first. -/
theorem skipEvents_ofFn (default : Text) {n : Nat} (outcome : Fin n → Outcome) (number : Nat) :
    skipEvents default number (List.ofFn outcome) =
      (List.finRange n).filterMap fun i => (outcome i).skipEvent? default (number + i) := by
  induction n generalizing number with
  | zero => rfl
  | succ n ih =>
    have later := ih (fun i => outcome i.succ) (number + 1)
    have numbers : (fun i : Fin n => (outcome i.succ).skipEvent? default (number + 1 + i)) =
        fun i => (outcome i.succ).skipEvent? default (number + i.succ) := by
      funext i
      rw [Fin.val_succ, Nat.add_assoc, Nat.add_comm 1]
    rw [List.ofFn_succ, skipEvents, later, numbers, List.finRange_succ, List.filterMap_cons,
      List.filterMap_map]
    cases card : (outcome 0).card <;> simp [Outcome.skipEvent?, card, Function.comp_def]

end CustomPack

/-- Whether a card can come from an entry as it lies in the pack: an enabled card of the rarity from
the pool of the entry's set, not foil, with its own art. -/
structure SlotEntry.Supplies (pools : SetPools) (default : Text) (entry : SlotEntry)
    (drawn : DrawnCard) : Prop where
  there : drawn.card ∈ pools.of (entry.source default)
  enabled : drawn.card.disabled = false
  rarity : drawn.card.rarity = entry.rarity.name
  plain : drawn.foil = false
  altArt : drawn.altArt = drawn.card.isAltArt

/-- Whether an entry has nothing to give: its set has no pool, or none with an enabled card of the
rarity. -/
def SlotEntry.IsUnsupplied (pools : SetPools) (default : Text) (entry : SlotEntry) : Prop :=
  pools.lookup (entry.source default) = none ∨
    ∀ card ∈ pools.of (entry.source default),
      card.disabled = false → card.rarity ≠ entry.rarity.name

theorem SlotEntry.candidates_eq_nil_iff {pools : SetPools} {default : Text} {entry : SlotEntry} :
    entry.candidates pools default = [] ↔ entry.IsUnsupplied pools default := by
  have none_given : entry.candidates pools default = [] ↔
      ∀ card ∈ pools.of (entry.source default),
        card.disabled = false → card.rarity ≠ entry.rarity.name := by
    simp only [SlotEntry.candidates, List.filter_eq_nil_iff, Bool.and_eq_true, beq_iff_eq,
      Bool.not_eq_true', not_and', ne_eq]
  rw [none_given]
  constructor
  · exact Or.inr
  · rintro (missing | none)
    · simp [SetPools.of, missing]
    · exact none

namespace CustomPack

/-- A pack matched with the slots of its definition: `entry` is what each slot resolves to when it
is reached, and `place` the slot that each card fills, cards and slots being in the same order. -/
structure Matches {σ : Type} [Source σ] (pools : SetPools) (slots : List Slot) (default : Text)
    (source : σ) (cards : List DrawnCard) (events : List PackEvent)
    (entry : Fin slots.length → SlotEntry) (place : Fin cards.length ↪o Fin slots.length) :
    Prop where
  resolved : ∀ i, (slots[i].resolve.run (sourceAt pools default slots [] source i)).1 =
    some (entry i)
  supplied : ∀ j, (entry (place j)).Supplies pools default cards[j]
  unmatched : ∀ i, (∀ j, place j ≠ i) ↔ (entry i).IsUnsupplied pools default
  reported : events =
    ((List.finRange slots.length).filter fun i => ∀ j, place j ≠ i).map
      (fun i => .customSlotSkipped (i + 1) ((entry i).source default) (entry i).rarity) ++
    [.customPackAssembled default slots.length cards.length]

/-- A card that fills a slot comes from the slot's entry. -/
theorem Fills.supplies {pools : SetPools} {default : Text} {slot : Slot} {outcome : Outcome}
    (fills : Fills pools default slot outcome) {drawn : DrawnCard}
    (placed : outcome.card = some drawn) : outcome.entry.Supplies pools default drawn := by
  obtain ⟨candidate, plain, altArt⟩ := fills.places drawn placed
  rw [candidates_eq_ofRarity] at candidate
  obtain ⟨there, rarity, enabled, _⟩ := Pool.mem_ofRarity.1 candidate
  exact ⟨there, enabled, rarity, plain, altArt⟩

/-- The reports of the slots that some positions leave out. -/
theorem filterMap_skipEvent? (default : Text) {n : Nat} (outcome : Fin n → Outcome)
    (isLeftOut : Fin n → Prop) [DecidablePred isLeftOut]
    (leftOut : ∀ i, isLeftOut i ↔ (outcome i).card = none) :
    (List.finRange n).filterMap (fun i => (outcome i).skipEvent? default (1 + i)) =
      ((List.finRange n).filter fun i => isLeftOut i).map fun i =>
        .customSlotSkipped (i + 1) ((outcome i).entry.source default) (outcome i).entry.rarity := by
  rw [← List.filterMap_eq_map, List.filterMap_filter]
  refine List.filterMap_congr fun i _ => ?_
  cases card : (outcome i).card with
  | none =>
    have asked : isLeftOut i := (leftOut i).2 card
    simp [Outcome.skipEvent?, card, asked, Nat.add_comm]
  | some drawn =>
    have kept : ¬ isLeftOut i := fun asked => by simp [(leftOut i).1 asked] at card
    simp [Outcome.skipEvent?, card, kept]

/-- Where every slot has an entry, each has one outcome: that of the entry which it resolves to. -/
theorem exists_outcomes {σ : Type} [Source σ] (source : σ) (pools : SetPools) {slots : List Slot}
    (default : Text) (filled : ∀ slot ∈ slots, slot.entries ≠ []) :
    ∃ outcome : Fin slots.length → Outcome,
      ((assemble pools slots default).run source).1.outcomes = List.ofFn outcome ∧
      ∀ i, (slots[i].resolve.run (sourceAt pools default slots [] source i)).1 =
          some (outcome i).entry ∧
        ∃ slot, Fills pools default slot (outcome i) := by
  let outcomes := ((assemble pools slots default).run source).1.outcomes
  have count : outcomes.length = slots.length :=
    (fillAll_complete pools default slots filled (yields_run _ source)).2
  have inside (i : Fin slots.length) : i.val < outcomes.length := by
    rw [count]
    exact i.isLt
  let outcome (i : Fin slots.length) : Outcome := outcomes.get ⟨i.val, inside i⟩
  refine ⟨outcome, ?_, fun i => ⟨?_, ?_⟩⟩
  · exact List.ext_getElem (by simpa using count) fun i _ _ => by simp [outcome, outcomes]
  · obtain ⟨made, there, resolved⟩ := outcome_at filled (List.getElem?_eq_getElem i.isLt) [] source
    have same : outcome i = made := (List.getElem_eq_iff (inside i)).2 there
    rw [same]
    exact resolved
  · obtain ⟨slot, _, fit⟩ := exists_of_mem_of_forall₂ (assemble_fills source filled)
      (List.get_mem outcomes ⟨i.val, inside i⟩)
    exact ⟨slot, fit⟩

/-- Custom packs slot by slot. Where every slot has an entry the assembly is not cut short, and its
cards are matched with slots in one and the same order: each card is one that its slot's entry
supplies, the slots left over are exactly those whose entry has nothing to give, and the reports are
one for each slot left over, with its number, set and rarity, and one of the finished pack at the
end. -/
theorem custom_pack_matches_slots {σ : Type} [Source σ] (source : σ) (pools : SetPools)
    (slots : List Slot) (default : Text) (filled : ∀ slot ∈ slots, slot.entries ≠ []) :
    let assembly := ((assemble pools slots default).run source).1
    assembly.cutShort = false ∧
    ∃ entry place, Matches pools slots default source assembly.cards
      (assembly.events slots default) entry place := by
  intro assembly
  have reached : assembly.cutShort = false :=
    (fillAll_complete pools default slots filled (yields_run _ source)).1
  obtain ⟨outcome, outcomes_eq, each⟩ := exists_outcomes source pools default filled
  have cards_eq : (List.finRange slots.length).filterMap (fun i => (outcome i).card) =
      assembly.cards := by
    rw [Assembly.cards, outcomes_eq, List.ofFn_eq_map, List.filterMap_map]
    rfl
  obtain ⟨place, held, missed⟩ := exists_places (fun i => (outcome i).card) cards_eq
  refine ⟨reached, fun i => (outcome i).entry, place, fun i => (each i).1, ?_, ?_, ?_⟩
  · intro j
    obtain ⟨_, fit⟩ := (each (place j)).2
    exact fit.supplies (held j)
  · intro i
    obtain ⟨_, fit⟩ := (each i).2
    exact (missed i).trans (fit.skipped.trans SlotEntry.candidates_eq_nil_iff)
  · have events : assembly.events slots default = skipEvents default 1 assembly.outcomes ++
        if assembly.cutShort then []
          else [.customPackAssembled default slots.length assembly.cards.length] := rfl
    rw [events, reached, outcomes_eq, skipEvents_ofFn,
      filterMap_skipEvent? default outcome _ missed]
    rfl

/-- A set without a pool leaves the first slot over; a basic land fills the second. -/
theorem custom_pack_matches_slots_missing_set :
    let land : Card := ⟨"l", "", "t", none, "common", false, some "Basic Land — Island", none,
      false, []⟩
    let pools : SetPools := [("t", [land])]
    let slots : List Slot := [⟨[⟨.common, 100, some ""⟩]⟩, ⟨[⟨.common, 100, some "t"⟩]⟩]
    let source : Script := ⟨[], 0.5, []⟩
    let assembly := ((assemble pools slots "s").run source).1
    (∀ slot ∈ slots, slot.entries ≠ []) ∧ land.isBasicLand = true ∧
    assembly.cards = [⟨land, false, false⟩] ∧
    assembly.events slots "s" = [.customSlotSkipped 1 "s" .common, .customPackAssembled "s" 2 1] ∧
    assembly.cutShort = false ∧
    ∃ entry place, Matches pools slots "s" source assembly.cards (assembly.events slots "s")
      entry place := by
  intro land pools slots source assembly
  have filled : ∀ slot ∈ slots, slot.entries ≠ [] := by decide
  exact ⟨filled, by decide +kernel, by decide +kernel, by decide +kernel,
    custom_pack_matches_slots source pools slots "s" filled⟩

end CustomPack
end PackOpening
