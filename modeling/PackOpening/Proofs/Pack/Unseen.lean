import PackOpening.Chance.Script
import PackOpening.Proofs.Pack.Placement
import PackOpening.Proofs.Pack.Supply

/-!
Cards that no pack can hold leave no trace.

A built-in pack looks at a pool only through its usable cards, and a custom pack only through the
enabled cards of the rarities that slots ask for. So pools that differ in other cards make one and
the same assembly: no choice is longer, no roll is made or left out, and nothing else is reported.
-/
namespace PackOpening

open Chance

namespace Pool

variable {cards cards' : List Card}

theorem part_congr (same : usable cards = usable cards') (p : Partition) :
    Pool.part cards p = Pool.part cards' p := by
  unfold Pool.part
  rw [same]

theorem firstStocked_congr (same : usable cards = usable cards') (parts : List Partition) :
    firstStocked cards parts = firstStocked cards' parts := by
  induction parts with
  | nil => rfl
  | cons p rest ih =>
    unfold firstStocked
    rw [part_congr same, ih]

end Pool

namespace BuiltinPack

variable {cards cards' : List Card}

theorem draw_congr (same : Pool.usable cards = Pool.usable cards') (pull : Pull)
    (used : List Text) : draw cards pull used = draw cards' pull used := by
  have chance : mythicChance cards = mythicChance cards' := by
    unfold mythicChance
    rw [Pool.part_congr same]
  unfold draw
  rw [Pool.firstStocked_congr same, Pool.firstStocked_congr same, chance]

/-- The questions to the source are the same on every path, and so are the outcomes. -/
theorem pullAll_congr (same : Pool.usable cards = Pool.usable cards') (requests : List Request)
    (used : List Text) : pullAll cards requests used = pullAll cards' requests used := by
  induction requests generalizing used with
  | nil => rfl
  | cons request rest ih => simp only [pullAll, draw_congr same, ih]

theorem assemble_congr (same : Pool.usable cards = Pool.usable cards') (policy : Policy) :
    assemble cards policy = assemble cards' policy := by
  unfold assemble pullPolicy
  rw [pullAll_congr same]

end BuiltinPack

/-- Whether some entry of a slot can ask for a card. -/
def Card.isOffered (card : Card) : Bool := !card.disabled && Rarity.all.any card.hasRarity

theorem Card.hasRarity_offered {card : Card} {rarity : Rarity} (has : card.hasRarity rarity = true)
    (enabled : card.disabled = false) : card.isOffered = true := by
  have listed : rarity ∈ Rarity.all := by cases rarity <;> decide
  unfold isOffered
  rw [enabled, List.any_eq_true.2 ⟨rarity, listed, has⟩]
  rfl

/-- Cards that no entry can ask for are offered in no rarity. -/
theorem Pool.ofRarity_offered (cards : List Card) (rarity : Rarity) (excluded : List Text) :
    Pool.ofRarity (cards.filter Card.isOffered) rarity.name excluded =
      Pool.ofRarity cards rarity.name excluded := by
  unfold Pool.ofRarity
  rw [List.filter_filter]
  refine List.filter_congr fun c _ => ?_
  by_cases asked : (c.rarity == rarity.name) = true ∧ c.disabled = false
  · rw [Card.hasRarity_offered asked.1 asked.2, Bool.and_true]
  · cases rare : c.rarity == rarity.name <;> cases off : c.disabled <;> simp_all

theorem CustomPack.assemble_congr_of_offered {pools pools' : SetPools}
    (same : ∀ code, (pools.of code).filter Card.isOffered = (pools'.of code).filter Card.isOffered)
    (slots : List Slot) (default : Text) :
    assemble pools slots default = assemble pools' slots default := by
  refine fillAll_congr (fun slot _ entry _ excluded => ?_) []
  rw [← Pool.ofRarity_offered (pools.of _), same, Pool.ofRarity_offered]

/-- Cards that must not appear are invisible as well. Built-in packs from pools with the same usable
cards are the same for every source, with the same calls and the same events, and hold nothing but
usable cards of the pool, each with its own art. So are custom packs from pools that have, under
every code, the same enabled cards of the rarities that slots ask for. -/
theorem excluded_cards_invisible {σ : Type} [Source σ] (source : σ) :
    (∀ (cards cards' : List Card) (name : Text) (date : Option Text),
      Pool.usable cards = Pool.usable cards' →
      let policy := Policy.select name date
      let pack := BuiltinPack.assemble cards policy
      let pack' := BuiltinPack.assemble cards' policy
      pack.run source = pack'.run source ∧ pack.calls source = pack'.calls source ∧
      BuiltinPack.eventsOf policy name (pack.run source).1 =
        BuiltinPack.eventsOf policy name (pack'.run source).1) ∧
    (∀ (cards : List Card) (name : Text) (date : Option Text),
      let pack := BuiltinPack.assemble cards (Policy.select name date)
      ∀ drawn ∈ BuiltinPack.cardsOf (pack.run source).1,
        drawn.card ∈ cards ∧ drawn.card.isUsable = true ∧ drawn.altArt = drawn.card.isAltArt) ∧
    (∀ (pools pools' : SetPools) (slots : List Slot) (default : Text),
      (∀ code,
        (pools.of code).filter Card.isOffered = (pools'.of code).filter Card.isOffered) →
      let pack := CustomPack.assemble pools slots default
      let pack' := CustomPack.assemble pools' slots default
      pack.run source = pack'.run source ∧ pack.calls source = pack'.calls source ∧
      (pack.run source).1.events slots default = (pack'.run source).1.events slots default) := by
  refine ⟨?_, ?_, ?_⟩
  · intro cards cards' name date same policy pack pack'
    have one : pack = pack' := BuiltinPack.assemble_congr same policy
    rw [one]
    exact ⟨rfl, rfl, rfl⟩
  · intro cards name date pack drawn member
    have outcomes : (pack.run source).1 =
        ((BuiltinPack.pullPolicy cards (Policy.select name date)).run source).1.outcomes :=
      congrArg Prod.fst (run_bind _ _ source)
    rw [outcomes] at member
    obtain ⟨_, _, pull, _, places⟩ :=
      BuiltinPack.exists_places_of_mem (yields_run _ source) member
    have usable := Pull.mem_usable_of_mem_candidates places.candidate
    exact ⟨(Pool.mem_usable.1 usable).1, (Pool.mem_usable.1 usable).2, places.altArt⟩
  · intro pools pools' slots default same pack pack'
    have one : pack = pack' := CustomPack.assemble_congr_of_offered same slots default
    rw [one]
    exact ⟨rfl, rfl, rfl⟩

/-- A basic land, a disabled card and a token among the commons shift nothing. -/
theorem excluded_cards_invisible_token :
    let card (id rarity : Text) : Card := ⟨id, "", "s", none, rarity, false, none, none, false, []⟩
    let land : Card := { card "l" "common" with typeLine := some "Basic Land — Island" }
    let off : Card := { card "o" "common" with disabled := true }
    let pool := [card "a" "common", card "b" "common"]
    let source : Script := ⟨[], 0.5, [3, 4, 5]⟩
    let policy := Policy.select "draft" none
    Pool.usable (land :: off :: pool) = Pool.usable pool ∧
    (BuiltinPack.assemble (land :: off :: pool) policy).calls source =
      (BuiltinPack.assemble pool policy).calls source ∧
    (∀ code, (SetPools.of [("s", off :: card "t" "token" :: pool)] code).filter Card.isOffered =
      (SetPools.of [("s", pool)] code).filter Card.isOffered) ∧
    (CustomPack.assemble [("s", off :: card "t" "token" :: pool)] [⟨[⟨.common, 100, none⟩]⟩]
      "s").calls source =
      (CustomPack.assemble [("s", pool)] [⟨[⟨.common, 100, none⟩]⟩] "s").calls source := by
  intro card land off pool source policy
  have usable : Pool.usable (land :: off :: pool) = Pool.usable pool := by decide +kernel
  have offered : ∀ code,
      (SetPools.of [("s", off :: card "t" "token" :: pool)] code).filter Card.isOffered =
        (SetPools.of [("s", pool)] code).filter Card.isOffered := by
    intro code
    by_cases here : code = ("s" : Text)
    · subst here
      decide +kernel
    · have missing : (code == ("s" : Text)) = false := by simpa using here
      simp [SetPools.of, List.lookup_cons, missing]
  have invisible := excluded_cards_invisible source
  exact ⟨usable, (invisible.1 _ _ "draft" none usable).2.1, offered,
    (invisible.2.2 _ _ _ "s" offered).2.1⟩

end PackOpening
