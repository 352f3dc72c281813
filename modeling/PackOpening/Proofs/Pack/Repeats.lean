import PackOpening.Chance.Script
import PackOpening.Policy.Selection
import PackOpening.Proofs.Pack.Assembly

/-!
Repeats: no pack holds a card twice while another candidate is left.

At every point of an assembly the ids in use are those of the cards that are already in the pack. So
a pull that brings an id back had no candidate whose id was not in the pack. Both kinds of packs
are seen here as a sequence of pulls with their candidates.
-/
namespace PackOpening

open Chance

/-- One pull of an assembly: the ids in use before it, the cards it could take, and the card that it
took if there was one. -/
structure Pulled where
  used : List Text
  candidates : List Card
  card : Option Card

/-- The ids of the cards that some pulls placed in the pack. -/
def Pulled.ids (pulls : List Pulled) : List Text := (pulls.filterMap Pulled.card).map Card.id

/-- Pulls that go on from a pack with the ids `placed` and end with the ids `used` in use. Whatever
lies in front of a pull has placed exactly the ids in use then, and an id comes back only when all
candidates lie in the pack by id. -/
structure Economical (placed : List Text) (pulls : List Pulled) (used : List Text) : Prop where
  inUse : ∀ before pull after, pulls = before ++ pull :: after →
    ∀ id, id ∈ pull.used ↔ id ∈ placed ++ Pulled.ids before
  inUse_end : ∀ id, id ∈ used ↔ id ∈ placed ++ Pulled.ids pulls
  candidate : ∀ pull ∈ pulls, ∀ card, pull.card = some card → card ∈ pull.candidates
  exhausted : ∀ before pull after card, pulls = before ++ pull :: after →
    pull.card = some card → card.id ∈ placed ++ Pulled.ids before →
    ∀ c ∈ pull.candidates, c.id ∈ placed ++ Pulled.ids before

namespace Economical

variable {placed used : List Text}

theorem nil (same : ∀ id, id ∈ used ↔ id ∈ placed) : Economical placed [] used := by
  refine ⟨?_, ?_, ?_, ?_⟩
  · intro before pull after split
    simp at split
  · simpa [Pulled.ids] using same
  · simp
  · intro before pull after card split
    simp at split

/-- A sparing draw in front of economical pulls. -/
theorem cons {candidates : List Card} {result : Draw.Result} {pulls : List Pulled}
    {final : List Text} (same : ∀ id, id ∈ used ↔ id ∈ placed)
    (draws : Draw.Sparing candidates used result)
    (others : ∀ placed', (∀ id, id ∈ result.used ↔ id ∈ placed') → Economical placed' pulls final) :
    Economical placed (⟨used, candidates, result.card⟩ :: pulls) final := by
  have idsAfter : ∀ before, placed ++ Pulled.ids (⟨used, candidates, result.card⟩ :: before) =
      (placed ++ Pulled.ids [⟨used, candidates, result.card⟩]) ++ Pulled.ids before := by
    intro before
    cases result.card <;> simp [Pulled.ids]
  have onward := others (placed ++ Pulled.ids [⟨used, candidates, result.card⟩]) (by
    intro id
    rw [draws.mem_used, same]
    cases result.card <;> simp [Pulled.ids, eq_comm])
  refine ⟨?_, ?_, ?_, ?_⟩
  · intro before pull after split
    cases before with
    | nil =>
      obtain ⟨rfl, rfl⟩ := List.cons.inj split
      simpa [Pulled.ids] using same
    | cons first before =>
      obtain ⟨rfl, rfl⟩ := List.cons.inj split
      rw [idsAfter]
      exact onward.inUse before pull after rfl
  · rw [idsAfter]
    exact onward.inUse_end
  · intro pull member
    rcases List.mem_cons.1 member with rfl | member
    · exact draws.mem
    · exact onward.candidate pull member
  · intro before pull after card split drawn
    cases before with
    | nil =>
      obtain ⟨rfl, rfl⟩ := List.cons.inj split
      intro repeated c member
      have inPack := draws.exhausted card drawn ((same _).2 (by simpa [Pulled.ids] using repeated))
      simpa [Pulled.ids] using (same _).1 (inPack c member)
    | cons first before =>
      obtain ⟨rfl, rfl⟩ := List.cons.inj split
      rw [idsAfter]
      exact onward.exhausted before pull after card rfl drawn

end Economical

/-- A pull of a policy as a step of the assembly. -/
def BuiltinPack.Outcome.pulled (cards : List Card) (outcome : BuiltinPack.Outcome) : Pulled :=
  ⟨outcome.used, outcome.pull.candidates cards, outcome.card.map DrawnCard.card⟩

/-- A slot of a definition as a step of the assembly. -/
def CustomPack.Outcome.pulled (pools : SetPools) (default : Text)
    (outcome : CustomPack.Outcome) : Pulled :=
  ⟨outcome.used, outcome.entry.candidates pools default, outcome.card.map DrawnCard.card⟩

theorem BuiltinPack.pullAll_economical (cards : List Card) (requests : List Request)
    {placed used : List Text} {as : List Answer} {assembly : Assembly}
    (same : ∀ id, id ∈ used ↔ id ∈ placed)
    (path : (pullAll cards requests used).Yields as assembly) :
    Economical placed (assembly.outcomes.map (Outcome.pulled cards)) assembly.used := by
  -- the ids in use at each step are the ids placed before it
  induction requests generalizing placed used as assembly with
  | nil =>
    rw [yields_pullAll_nil path]
    exact .nil same
  | cons request rest ih =>
    obtain ⟨_, pull, _, result, _, others, _, _, draws, onward, rfl⟩ := yields_pullAll_cons path
    have step : (outcomeOf pull used result).pulled cards =
        ⟨used, pull.candidates cards, result.card⟩ := by
      rw [Outcome.pulled, card_outcomeOf]
      rfl
    rw [List.map_cons, step]
    exact .cons same (draw_sparing draws) fun placed' same' => ih same' onward

theorem CustomPack.fillAll_economical (pools : SetPools) (default : Text) (slots : List Slot)
    {placed used : List Text} {as : List Answer} {assembly : Assembly}
    (same : ∀ id, id ∈ used ↔ id ∈ placed)
    (path : (fillAll pools default slots used).Yields as assembly) :
    Economical placed (assembly.outcomes.map (Outcome.pulled pools default)) assembly.used := by
  induction slots generalizing placed used as assembly with
  | nil =>
    rw [yields_fillAll_nil path]
    exact .nil same
  | cons slot rest ih =>
    rcases yields_fillAll_cons path with
      ⟨_, rfl⟩ | ⟨_, entry, _, result, _, others, _, _, draws, onward, rfl⟩
    · exact .nil same
    · have step : (outcomeOf entry used result).pulled pools default =
          ⟨used, entry.candidates pools default, result.card⟩ := by
        rw [Outcome.pulled, card_outcomeOf]
        rfl
      rw [List.map_cons, step]
      exact .cons same (fill_sparing draws) fun placed' same' => ih same' onward

/-- Slots that have entries are all reached. -/
theorem CustomPack.fillAll_complete (pools : SetPools) (default : Text) (slots : List Slot)
    {used : List Text} {as : List Answer} {assembly : Assembly}
    (filled : ∀ slot ∈ slots, slot.entries ≠ [])
    (path : (fillAll pools default slots used).Yields as assembly) :
    assembly.cutShort = false ∧ assembly.outcomes.length = slots.length := by
  induction slots generalizing used as assembly with
  | nil => simp [yields_fillAll_nil path]
  | cons slot rest ih =>
    rcases yields_fillAll_cons path with
      ⟨empty, _⟩ | ⟨_, entry, _, result, _, others, _, _, _, onward, rfl⟩
    · exact absurd empty (filled slot List.mem_cons_self)
    · have ⟨reached, count⟩ := ih (fun s member => filled s (List.mem_cons_of_mem _ member)) onward
      exact ⟨reached, by simp [count]⟩

/-- Neither kind of pack repeats a card while it could take another one: at every point of an
assembly, its end included, the ids in use are exactly those of the cards in the pack, and a pull
that takes a card whose id is in the pack has no candidate whose id is not. -/
theorem no_avoidable_repeats {σ : Type} [Source σ] (source : σ) :
    (∀ (cards : List Card) (name : Text) (date : Option Text),
      let policy := Policy.select name date
      let assembly := ((BuiltinPack.pullPolicy cards policy).run source).1
      ((BuiltinPack.assemble cards policy).run source).1 = assembly.outcomes ∧
      Economical [] (assembly.outcomes.map (BuiltinPack.Outcome.pulled cards)) assembly.used) ∧
    (∀ (pools : SetPools) (slots : List Slot) (default : Text),
      (∀ slot ∈ slots, slot.entries ≠ []) →
      let assembly := ((CustomPack.assemble pools slots default).run source).1
      assembly.cutShort = false ∧ assembly.outcomes.length = slots.length ∧
      Economical [] (assembly.outcomes.map (CustomPack.Outcome.pulled pools default))
        assembly.used) := by
  constructor
  · intro cards name date
    refine ⟨?_, ?_⟩
    · exact congrArg Prod.fst (run_bind _ _ source)
    · exact BuiltinPack.pullAll_economical cards _ (fun _ => Iff.rfl) (yields_run _ source)
  · intro pools slots default filled
    have path := yields_run (CustomPack.assemble pools slots default) source
    have ⟨reached, count⟩ := CustomPack.fillAll_complete pools default slots filled path
    exact ⟨reached, count, CustomPack.fillAll_economical pools default slots
      (fun _ => Iff.rfl) path⟩

/-- Two printings under one id: the second slot brings the id back, and both lie in the pack by
id. -/
theorem no_avoidable_repeats_shared_id :
    let card : Card := ⟨"a", "plain", "s", none, "common", false, none, none, false, []⟩
    let pools : SetPools := [("s", [card, { card with name := "other" }])]
    let slots : List Slot := [⟨[⟨.common, 100, none⟩]⟩, ⟨[⟨.common, 100, none⟩]⟩]
    let source : Script := ⟨[], 0.5, [1, 0]⟩
    let assembly := ((CustomPack.assemble pools slots "s").run source).1
    (∀ slot ∈ slots, slot.entries ≠ []) ∧
    assembly.cards.map (fun drawn => drawn.card.id) = [("a" : Text), ("a" : Text)] ∧
    assembly.cutShort = false ∧ assembly.outcomes.length = slots.length ∧
    Economical [] (assembly.outcomes.map (CustomPack.Outcome.pulled pools "s")) assembly.used := by
  intro card pools slots source assembly
  have filled : ∀ slot ∈ slots, slot.entries ≠ [] := by decide
  exact ⟨filled, by decide +kernel, (no_avoidable_repeats source).2 pools slots "s" filled⟩

end PackOpening
