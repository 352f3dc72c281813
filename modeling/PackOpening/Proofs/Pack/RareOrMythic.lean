import PackOpening.Proofs.Pack.Exhaustion
import PackOpening.Proofs.Pack.Questions

/-!
The draw of a rare or a mythic, in every state of its two sides.

What is drawn from is settled by which sides still have a card that is not in use, and by one roll
where the mythics have one: the favoured side while it has such a card, else the other side, and all
rares and mythics together once neither side has any. With one side empty the draw is that of the
other side alone, behind a roll where an unused mythic exists. Drawn from over and over, the two
sides are exhausted like one pool that holds the cards of both.
-/
namespace PackOpening.Draw

open Chance

variable {pool rares mythics rest : List Card} {chance : Float} {used : List Text} {first : Card}
  {σ : Type} [Source σ] {source : σ}

/-- What a source takes of some cards: the one at the position that it picks, and nothing of no
cards. -/
def picked (source : σ) : List Card → Option Card
  | [] => none
  | first :: rest => some ((first :: rest).get (Source.pick rest.length source).1)

/-- A draw that takes the card that a source picks of some cards, and puts its id into use. -/
def Takes (source : σ) (cards : List Card) (used : List Text) (result : Result) : Prop :=
  ∃ card ∈ cards, picked source cards = some card ∧ result = ⟨some card, used.insert card.id⟩

theorem take_takes (source : σ) :
    Takes source (first :: rest) used ((take used first rest).run source).1 :=
  ⟨_, List.get_mem _ _, rfl, rfl⟩

theorem run_rolled_bind {α : Type} (next : Float → Chance α) (source : σ) :
    (rolled.bind next).run source = (next (Source.roll source).1).run (Source.roll source).2 :=
  run_bind rolled next source

theorem unique_of_unused (fresh : Pool.unused pool used = first :: rest) :
    unique pool used = take used first rest := by
  unfold unique
  rw [fresh]

/-- Once all cards of a pool are in use, any of them is picked and nothing comes into use. -/
theorem run_unique_of_exhausted (source : σ) (exhausted : Pool.unused pool used = []) :
    ((unique pool used).run source).1 = ⟨picked source pool, used⟩ := by
  unfold unique
  rw [exhausted]
  cases pool <;> rfl

section Sides

variable {rare mythic : Card} {freshRares freshMythics : List Card}

/-- Once both sides are in use, any card of either may come back. -/
theorem rareOrMythic_of_exhausted (noRare : Pool.unused rares used = [])
    (noMythic : Pool.unused mythics used = []) :
    rareOrMythic rares mythics chance used = unique (rares ++ mythics) used := by
  unfold rareOrMythic
  rw [noRare, noMythic]

theorem rareOrMythic_of_rares (rareSide : Pool.unused rares used = rare :: freshRares)
    (noMythic : Pool.unused mythics used = []) :
    rareOrMythic rares mythics chance used = take used rare freshRares := by
  unfold rareOrMythic
  rw [rareSide, noMythic]

/-- The roll is made although no rare is unused. -/
theorem rareOrMythic_of_mythics (noRare : Pool.unused rares used = [])
    (mythicSide : Pool.unused mythics used = mythic :: freshMythics) :
    rareOrMythic rares mythics chance used =
      rolled.bind fun _ => take used mythic freshMythics := by
  unfold rareOrMythic
  rw [noRare, mythicSide]
  rfl

theorem rareOrMythic_of_both (rareSide : Pool.unused rares used = rare :: freshRares)
    (mythicSide : Pool.unused mythics used = mythic :: freshMythics) :
    rareOrMythic rares mythics chance used = rolled.bind fun roll =>
      if roll < chance then take used mythic freshMythics else take used rare freshRares := by
  unfold rareOrMythic
  rw [rareSide, mythicSide]
  rfl

end Sides

/-- An unused mythic is taken where the roll favours it or no rare is unused. -/
theorem rareOrMythic_takes_mythic (left : Pool.unused mythics used ≠ [])
    (favoured : (Source.roll source).1 < chance ∨ Pool.unused rares used = []) :
    Takes (Source.roll source).2 (Pool.unused mythics used) used
      ((rareOrMythic rares mythics chance used).run source).1 := by
  cases mythicSide : Pool.unused mythics used with
  | nil => exact absurd mythicSide left
  | cons mythic freshMythics =>
    cases rareSide : Pool.unused rares used with
    | nil =>
      rw [rareOrMythic_of_mythics rareSide mythicSide, run_rolled_bind]
      apply take_takes
    | cons rare freshRares =>
      have below : (Source.roll source).1 < chance := by simpa [rareSide] using favoured
      rw [rareOrMythic_of_both rareSide mythicSide, run_rolled_bind, if_pos below]
      apply take_takes

/-- An unused rare is taken without a roll where no mythic is unused. -/
theorem rareOrMythic_takes_rare (source : σ) (left : Pool.unused rares used ≠ [])
    (alone : Pool.unused mythics used = []) :
    Takes source (Pool.unused rares used) used
      ((rareOrMythic rares mythics chance used).run source).1 := by
  cases rareSide : Pool.unused rares used with
  | nil => exact absurd rareSide left
  | cons rare freshRares =>
    rw [rareOrMythic_of_rares rareSide alone]
    apply take_takes

/-- An unused rare is taken behind a roll that does not favour the unused mythics. -/
theorem rareOrMythic_takes_rare_of_roll (left : Pool.unused rares used ≠ [])
    (other : Pool.unused mythics used ≠ []) (above : ¬ (Source.roll source).1 < chance) :
    Takes (Source.roll source).2 (Pool.unused rares used) used
      ((rareOrMythic rares mythics chance used).run source).1 := by
  cases rareSide : Pool.unused rares used with
  | nil => exact absurd rareSide left
  | cons rare freshRares =>
    cases mythicSide : Pool.unused mythics used with
    | nil => exact absurd mythicSide other
    | cons mythic freshMythics =>
      rw [rareOrMythic_of_both rareSide mythicSide, run_rolled_bind, if_neg above]
      apply take_takes

/-- Without mythics the draw is that of the rares. -/
theorem rareOrMythic_nil_right (rares : List Card) (chance : Float) (used : List Text) :
    rareOrMythic rares [] chance used = unique rares used := by
  cases rareSide : Pool.unused rares used with
  | nil => rw [rareOrMythic_of_exhausted rareSide rfl, List.append_nil]
  | cons rare freshRares => rw [rareOrMythic_of_rares rareSide rfl, unique_of_unused rareSide]

/-- Without rares the draw is that of the mythics, behind a roll where one of them is unused. -/
theorem rareOrMythic_nil_left (mythics : List Card) (chance : Float) (used : List Text) :
    rareOrMythic [] mythics chance used =
      if Pool.unused mythics used = [] then unique mythics used
      else rolled.bind fun _ => unique mythics used := by
  cases mythicSide : Pool.unused mythics used with
  | nil => rw [if_pos rfl, rareOrMythic_of_exhausted rfl mythicSide, List.nil_append]
  | cons mythic freshMythics =>
    rw [if_neg (List.cons_ne_nil _ _), rareOrMythic_of_mythics rfl mythicSide,
      unique_of_unused mythicSide]

/-- A roll is asked for exactly where some mythic is unused, and only one. -/
theorem count_roll_rareOrMythic (source : σ) :
    ((rareOrMythic rares mythics chance used).calls source).count .roll =
      if Pool.unused mythics used = [] then 0 else 1 := by
  rw [calls_eq_map_answers]
  obtain ⟨choice, chooses, calls⟩ := rareOrMythic_chooses (yields_run _ source)
  rw [calls, List.count_append, chooses.count_roll]
  cases Pool.unused mythics used <;> rfl

/-- Once all ids of both sides are in use, any card of either is picked. -/
theorem run_rareOrMythic_of_exhausted (source : σ) (noRare : Pool.unused rares used = [])
    (noMythic : Pool.unused mythics used = []) :
    ((rareOrMythic rares mythics chance used).run source).1 =
      ⟨picked source (rares ++ mythics), used⟩ := by
  have exhausted : Pool.unused (rares ++ mythics) used = [] := by
    rw [Pool.unused, List.filter_append]
    exact List.append_eq_nil_iff.2 ⟨noRare, noMythic⟩
  rw [rareOrMythic_of_exhausted noRare noMythic]
  exact run_unique_of_exhausted source exhausted

/-- In a series of draws the two sides are exhausted like one pool, whatever the chances are. -/
theorem rareOrMythic_exhausts (source : σ) (rares mythics : List Card) (used : List Text)
    (chances : List Float) :
    let draws := chances.map (rareOrMythic rares mythics)
    let results := ((inSeries draws used).run source).1
    results.length = chances.length ∧ Exhausts (rares ++ mythics) used results := by
  intro draws results
  have sparing : ∀ draw ∈ draws, ∀ used as result, (draw used).Yields as result →
      Sparing (rares ++ mythics) used result := by
    intro draw member used as result path
    obtain ⟨chance, _, rfl⟩ := List.mem_map.1 member
    exact rareOrMythic_sparing path
  obtain ⟨length, exhausts⟩ := exhausts_of_yields sparing (yields_run _ source)
  exact ⟨length.trans (List.length_map _), exhausts⟩

/-- How a rare or a mythic is drawn, whatever the two sides, the ids in use, the chance and the
source. The draw gives no card only if both sides are empty. It rolls once if some mythic is unused,
and else not at all. It takes an unused mythic if there is one and the roll falls below the chance
or no rare is unused; it takes an unused rare if there is one and no mythic is unused or the roll
does not fall below the chance; these put the id of their card into use. Otherwise any rare or
mythic comes back and nothing comes into use. Without mythics this is the draw of the rares, and
without rares that of the mythics, behind a roll if one of them is unused. In a series of draws,
whatever their chances, no id comes back before all ids of both sides are in use. -/
theorem rareOrMythic_decides (source : σ) (rares mythics : List Card) (chance : Float)
    (used : List Text) :
    let draw := rareOrMythic rares mythics chance used
    let result := (draw.run source).1
    let unusedRares := Pool.unused rares used
    let unusedMythics := Pool.unused mythics used
    let roll := (Source.roll source).1
    let left := if unusedMythics = [] then source else (Source.roll source).2
    (result.card = none ↔ rares = [] ∧ mythics = []) ∧
    (draw.calls source).count .roll = (if unusedMythics = [] then 0 else 1) ∧
    (unusedMythics ≠ [] → roll < chance ∨ unusedRares = [] →
      Takes left unusedMythics used result) ∧
    (unusedRares ≠ [] → unusedMythics = [] ∨ ¬ roll < chance →
      Takes left unusedRares used result) ∧
    (unusedRares = [] → unusedMythics = [] →
      result = ⟨picked left (rares ++ mythics), used⟩ ∧
        ∀ card, result.card = some card → card ∈ rares ++ mythics) ∧
    rareOrMythic rares [] chance used = unique rares used ∧
    rareOrMythic [] mythics chance used =
      (if unusedMythics = [] then unique mythics used
        else rolled.bind fun _ => unique mythics used) ∧
    ∀ chances : List Float,
      let draws := chances.map (rareOrMythic rares mythics)
      let results := ((inSeries draws used).run source).1
      results.length = chances.length ∧ Exhausts (rares ++ mythics) used results := by
  intro draw result unusedRares unusedMythics roll left
  have sparing : Sparing (rares ++ mythics) used result :=
    rareOrMythic_sparing (yields_run draw source)
  refine ⟨?_, count_roll_rareOrMythic source, ?_, ?_, ?_, rareOrMythic_nil_right _ _ _,
    rareOrMythic_nil_left _ _ _, rareOrMythic_exhausts source rares mythics used⟩
  · rw [sparing.none_iff, List.append_eq_nil_iff]
  · intro some favoured
    have behind : left = (Source.roll source).2 := if_neg some
    rw [behind]
    exact rareOrMythic_takes_mythic some favoured
  · intro some favoured
    by_cases alone : unusedMythics = []
    · have here : left = source := if_pos alone
      rw [here]
      exact rareOrMythic_takes_rare source some alone
    · have behind : left = (Source.roll source).2 := if_neg alone
      rw [behind]
      exact rareOrMythic_takes_rare_of_roll some alone (favoured.resolve_left alone)
  · intro noRare noMythic
    have here : left = source := if_pos noMythic
    rw [here]
    exact ⟨run_rareOrMythic_of_exhausted source noRare noMythic, sparing.mem⟩

/-- An id lies on both sides and one mythic is in use: a low roll takes the shared id from the
mythics, and then one rare is left. -/
theorem rareOrMythic_decides_shared_id :
    let card (id rarity : Text) : Card :=
      ⟨id, "", "s", none, rarity, false, none, none, false, []⟩
    let rares := [card "a" "rare", card "b" "rare"]
    let mythics := [card "b" "mythic", card "c" "mythic"]
    let source : Script := ⟨[0.1], 0.5, [0]⟩
    let result := ((rareOrMythic rares mythics 0.125 ["c"]).run source).1
    Pool.unused mythics ["c"] ≠ [] ∧ (Source.roll source).1 < 0.125 ∧
    Takes (Source.roll source).2 (Pool.unused mythics ["c"]) ["c"] result ∧
    result.used = ["b", "c"] ∧
    (idsLeft (rares ++ mythics) ["c"]).card = 2 ∧
    Exhausts (rares ++ mythics) ["c"]
      ((inSeries ([0.125, 0.0, 1.0].map (rareOrMythic rares mythics)) ["c"]).run source).1 := by
  intro card rares mythics source result
  have some : Pool.unused mythics ["c"] ≠ [] := by decide +kernel
  have below : (Source.roll source).1 < 0.125 := by decide +kernel
  obtain ⟨_, _, mythic, _, _, _, _, series⟩ := rareOrMythic_decides source rares mythics 0.125 ["c"]
  have takes := mythic some (Or.inl below)
  rw [if_neg some] at takes
  exact ⟨some, below, takes, by decide +kernel, by decide +kernel, (series _).2⟩

end PackOpening.Draw
