import PackOpening.Pack.Builtin
import PackOpening.Pack.Custom
import PackOpening.Policy.Selection
import PackOpening.Proofs.Chance.Relabelling

/-!
The order of a pool does not decide what can be opened.

Parts, chains, the unused cards and the cards of a rarity are lists whose order is that of the pool,
so reordering the pool reorders each of them and changes no length. Every draw then asks the same
questions, and each card can be picked at another position. The ids in use after the draw are the
same, and the rest of the pack goes on from there.
-/
namespace PackOpening

open Chance

namespace Pool

variable {cards cards' : List Card}

/-- Of two orders of one list, both are empty or both have a first card. -/
theorem perm_cases (same : cards.Perm cards') :
    (cards = [] ∧ cards' = []) ∨
    ∃ first rest first' rest', cards = first :: rest ∧ cards' = first' :: rest' ∧
      (first :: rest).Perm (first' :: rest') := by
  cases cards with
  | nil => exact Or.inl ⟨rfl, same.nil_eq.symm⟩
  | cons first rest =>
    cases cards' with
    | nil => exact absurd same.eq_nil (List.cons_ne_nil _ _)
    | cons first' rest' => exact Or.inr ⟨first, rest, first', rest', rfl, rfl, same⟩

theorem part_perm (same : cards.Perm cards') (p : Partition) :
    (part cards p).Perm (part cards' p) :=
  (same.filter _).filter _

theorem unused_perm (same : cards.Perm cards') (used : List Text) :
    (unused cards used).Perm (unused cards' used) :=
  same.filter _

theorem ofRarity_perm (same : cards.Perm cards') (rarity : Text) (excluded : List Text) :
    (ofRarity cards rarity excluded).Perm (ofRarity cards' rarity excluded) :=
  same.filter _

/-- A chain leads to the same part, because no part is emptied or stocked. -/
theorem firstStocked_perm (same : cards.Perm cards') (parts : List Partition) :
    (firstStocked cards parts).Perm (firstStocked cards' parts) := by
  induction parts with
  | nil => exact .refl []
  | cons p rest ih =>
    have here := part_perm same p
    unfold firstStocked
    rw [here.isEmpty_eq]
    split
    · exact ih
    · exact here

end Pool

namespace Draw

variable {pool pool' rares rares' mythics mythics' rest rest' : List Card} {first first' : Card}

theorem take_relabels (same : (first :: rest).Perm (first' :: rest')) (used : List Text) :
    (take used first rest).Relabels (take used first' rest') :=
  (relabels_oneOf same).bind fun _ => .refl _

theorem unique_relabels (same : pool.Perm pool') (used : List Text) :
    (unique pool used).Relabels (unique pool' used) := by
  rcases Pool.perm_cases (Pool.unused_perm same used) with
    ⟨left, left'⟩ | ⟨_, _, _, _, left, left', fresh⟩
  · rcases Pool.perm_cases same with ⟨rfl, rfl⟩ | ⟨_, _, _, _, rfl, rfl, repeated⟩
    · exact .refl _
    · simp only [unique, left, left']
      exact (relabels_oneOf repeated).bind fun _ => .refl _
  · simp only [unique, left, left']
    exact take_relabels fresh used

/-- The roll, if there is one, decides between the same two sides. -/
theorem rareOrMythic_relabels (sameRares : rares.Perm rares') (sameMythics : mythics.Perm mythics')
    (chance : Float) (used : List Text) :
    (rareOrMythic rares mythics chance used).Relabels
      (rareOrMythic rares' mythics' chance used) := by
  rcases Pool.perm_cases (Pool.unused_perm sameRares used) with
    ⟨rare, rare'⟩ | ⟨_, _, _, _, rare, rare', freshRares⟩
  · rcases Pool.perm_cases (Pool.unused_perm sameMythics used) with
      ⟨mythic, mythic'⟩ | ⟨_, _, _, _, mythic, mythic', freshMythics⟩
    · simp only [rareOrMythic, rare, rare', mythic, mythic']
      exact unique_relabels (sameRares.append sameMythics) used
    · simp only [rareOrMythic, rare, rare', mythic, mythic']
      exact (Relabels.refl _).bind fun _ => take_relabels freshMythics used
  · rcases Pool.perm_cases (Pool.unused_perm sameMythics used) with
      ⟨mythic, mythic'⟩ | ⟨_, _, _, _, mythic, mythic', freshMythics⟩
    · simp only [rareOrMythic, rare, rare', mythic, mythic']
      exact take_relabels freshRares used
    · simp only [rareOrMythic, rare, rare', mythic, mythic']
      refine (Relabels.refl _).bind fun roll => ?_
      by_cases below : roll < chance
      · rw [if_pos below, if_pos below]
        exact take_relabels freshMythics used
      · rw [if_neg below, if_neg below]
        exact take_relabels freshRares used

end Draw

namespace BuiltinPack

variable {cards cards' : List Card}

theorem draw_relabels (same : cards.Perm cards') (pull : Pull) (used : List Text) :
    (draw cards pull used).Relabels (draw cards' pull used) := by
  have chance : mythicChance cards = mythicChance cards' := by
    unfold mythicChance
    rw [(Pool.part_perm same _).isEmpty_eq]
  have pools := Pool.firstStocked_perm same pull.pools
  unfold draw
  rw [chance]
  split
  · exact Draw.rareOrMythic_relabels pools (Pool.firstStocked_perm same pull.mythics) _ used
  · exact Draw.unique_relabels pools used

/-- One pull leaves the same ids in use, so the pulls after it begin alike. -/
theorem pullAll_relabels (same : cards.Perm cards') (requests : List Request) (used : List Text) :
    (pullAll cards requests used).Relabels (pullAll cards' requests used) := by
  induction requests generalizing used with
  | nil => exact .refl _
  | cons request rest ih =>
    refine (Relabels.refl _).bind fun pull => ?_
    refine (draw_relabels same pull used).bind fun result => ?_
    exact (ih result.used).bind fun _ => .refl _

theorem assemble_relabels (same : cards.Perm cards') (policy : Policy) :
    (assemble cards policy).Relabels (assemble cards' policy) :=
  (pullAll_relabels same _ []).bind fun _ => .refl _

end BuiltinPack

namespace CustomPack

variable {pools pools' : SetPools} {default : Text}

theorem fill_relabels (same : ∀ code, (pools.of code).Perm (pools'.of code)) (used : List Text)
    (entry : SlotEntry) :
    (fill pools default used entry).Relabels (fill pools' default used entry) := by
  have pool := same (entry.source default)
  rcases Pool.perm_cases (Pool.ofRarity_perm pool entry.rarity.name used) with
    ⟨left, left'⟩ | ⟨_, _, _, _, left, left', fresh⟩
  · rcases Pool.perm_cases (Pool.ofRarity_perm pool entry.rarity.name []) with
      ⟨any, any'⟩ | ⟨_, _, _, _, any, any', repeated⟩
    · simp only [fill, left, left', any, any']
      exact .refl _
    · simp only [fill, left, left', any, any']
      exact Draw.take_relabels repeated used
  · simp only [fill, left, left']
    exact Draw.take_relabels fresh used

theorem fillAll_relabels (same : ∀ code, (pools.of code).Perm (pools'.of code)) (slots : List Slot)
    (used : List Text) :
    (fillAll pools default slots used).Relabels (fillAll pools' default slots used) := by
  induction slots generalizing used with
  | nil => exact .refl _
  | cons slot rest ih =>
    refine (Relabels.refl _).bind fun choice => ?_
    cases choice with
    | none => exact .refl _
    | some entry =>
      refine (fill_relabels same used entry).bind fun result => ?_
      exact (ih result.used).bind fun _ => .refl _

end CustomPack

/-- The order of a pool does not decide what can be opened. Whatever a script opens from a pool, a
script with the same rolls opens from the pool in any other order: the same cards in the same order,
with the same calls and the same events. It is enough to exchange the positions that are picked.
Custom packs may have the pool of each set in another order. -/
theorem reordered_pool_opens_same (source : Script) :
    (∀ (cards cards' : List Card) (name : Text) (date : Option Text), cards.Perm cards' →
      let policy := Policy.select name date
      let pack := BuiltinPack.assemble cards policy
      let pack' := BuiltinPack.assemble cards' policy
      ∃ picks, let source' := { source with picks }
        BuiltinPack.cardsOf (pack'.run source').1 = BuiltinPack.cardsOf (pack.run source).1 ∧
        pack'.calls source' = pack.calls source ∧
        BuiltinPack.eventsOf policy name (pack'.run source').1 =
          BuiltinPack.eventsOf policy name (pack.run source).1) ∧
    (∀ (pools pools' : SetPools) (slots : List Slot) (default : Text),
      (∀ code, (pools.of code).Perm (pools'.of code)) →
      let pack := CustomPack.assemble pools slots default
      let pack' := CustomPack.assemble pools' slots default
      ∃ picks, let source' := { source with picks }
        (pack'.run source').1.cards = (pack.run source).1.cards ∧
        pack'.calls source' = pack.calls source ∧
        (pack'.run source').1.events slots default = (pack.run source).1.events slots default) := by
  constructor
  · intro cards cards' name date same policy pack pack'
    obtain ⟨picks, outcomes, calls⟩ :=
      (BuiltinPack.assemble_relabels same policy).exists_picks source
    exact ⟨picks, congrArg _ outcomes, calls, congrArg _ outcomes⟩
  · intro pools pools' slots default same pack pack'
    obtain ⟨picks, assembly, calls⟩ :=
      (CustomPack.fillAll_relabels same slots []).exists_picks source
    exact ⟨picks, congrArg _ assembly, calls,
      congrArg (CustomPack.Assembly.events · slots default) assembly⟩

/-- A pool turned around, in which two commons share an id, opens the same packs. -/
theorem reordered_pool_opens_same_reversed :
    let card (id rarity : Text) : Card := ⟨id, "", "s", none, rarity, false, none, none, false, []⟩
    let pool := [card "a" "common", { card "a" "common" with fullArt := true }, card "b" "common",
      card "r" "rare", card "m" "mythic"]
    let source : Script := ⟨[0.9, 0.1], 0.5, [3, 1, 2]⟩
    let policy := Policy.select "collector" none
    let slots : List Slot := [⟨[⟨.common, 100, none⟩]⟩, ⟨[⟨.rare, 75, none⟩, ⟨.mythic, 25, none⟩]⟩]
    pool.reverse ≠ pool ∧ pool.Perm pool.reverse ∧
    (∃ picks, BuiltinPack.cardsOf ((BuiltinPack.assemble pool.reverse policy).run
        { source with picks }).1 =
      BuiltinPack.cardsOf ((BuiltinPack.assemble pool policy).run source).1) ∧
    (∀ code, (SetPools.of [("s", pool)] code).Perm (SetPools.of [("s", pool.reverse)] code)) ∧
    ∃ picks, ((CustomPack.assemble [("s", pool.reverse)] slots "s").run
        { source with picks }).1.cards =
      ((CustomPack.assemble [("s", pool)] slots "s").run source).1.cards := by
  intro card pool source policy slots
  have same : pool.Perm pool.reverse := pool.reverse_perm.symm
  have each : ∀ code, (SetPools.of [("s", pool)] code).Perm
      (SetPools.of [("s", pool.reverse)] code) := by
    intro code
    by_cases here : code = ("s" : Text)
    · subst here
      exact same
    · have missing : (code == ("s" : Text)) = false := by simpa using here
      simp [SetPools.of, List.lookup_cons, missing]
  obtain ⟨builtin, custom⟩ := reordered_pool_opens_same source
  obtain ⟨picks, opened, _⟩ := builtin pool pool.reverse "collector" none same
  obtain ⟨picks', opened', _⟩ := custom _ _ slots "s" each
  exact ⟨by decide, same, ⟨picks, opened⟩, each, picks', opened'⟩

end PackOpening
