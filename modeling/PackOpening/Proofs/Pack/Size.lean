import Mathlib
import PackOpening.Chance.Script
import PackOpening.Policy.Selection
import PackOpening.Proofs.Pack.Assembly
import PackOpening.Proofs.Pool.Stock

/-!
The size of built-in packs.

A pull places a card exactly when the pool has one in stock that its parts admit, whatever was drawn
before. So the size of a pack is a sum over the pulls of its policy, and it depends on the chance
only where an upgrade admits other cards than the pull it replaces: in the last slot of a legacy
pack.
-/
namespace PackOpening

open Chance

/-- Whether an event reports a pull of a policy that found no card. -/
def PackEvent.isBuiltinSkip (event : PackEvent) : Bool :=
  event.name == ("builtin_slot_skipped" : Text)

/-- The number of pulls of a policy. -/
def Policy.pullCount : Policy → Nat
  | .collector => 15
  | .play => 14
  | .legacy => 15

namespace BuiltinPack

variable {cards : List Card} {requests : List Request} {used : List Text} {as : List Answer}
  {assembly : Assembly}

theorem length_outcomes (path : (pullAll cards requests used).Yields as assembly) :
    assembly.outcomes.length = requests.length := by
  induction requests generalizing used as assembly with
  | nil => rw [yields_pullAll_nil path]; rfl
  | cons request rest ih =>
    obtain ⟨_, _, _, _, _, others, _, _, _, onward, rfl⟩ := yields_pullAll_cons path
    simp [ih onward]

theorem length_cardsOf_outcomeOf {pull : Pull} {result : Draw.Result}
    (draws : Draw.Sparing (pull.candidates cards) used result) :
    (cardsOf [outcomeOf pull used result]).length = Pool.stock cards pull.admits := by
  have placed := draws.none_iff.trans Pull.candidates_eq_nil_iff
  have bound := Pool.stock_le_one cards pull.admits
  cases drawn : result.card with
  | none =>
    rw [placed.1 drawn]
    simp [cardsOf, outcomeOf, drawn]
  | some card =>
    have stocked : Pool.stock cards pull.admits ≠ 0 := fun empty => by
      rw [placed.2 empty] at drawn
      cases drawn
    have one : Pool.stock cards pull.admits = 1 := by omega
    rw [one]
    simp [cardsOf, outcomeOf, drawn]

/-- A pack has a card for each of its pulls that is in stock. -/
theorem length_cardsOf (path : (pullAll cards requests used).Yields as assembly) :
    (cardsOf assembly.outcomes).length =
      (assembly.outcomes.map fun outcome => Pool.stock cards outcome.pull.admits).sum := by
  induction requests generalizing used as assembly with
  | nil => rw [yields_pullAll_nil path]; rfl
  | cons request rest ih =>
    obtain ⟨_, pull, _, result, _, others, _, _, draws, onward, rfl⟩ := yields_pullAll_cons path
    have first := length_cardsOf_outcomeOf (draw_sparing draws)
    have split : cardsOf (outcomeOf pull used result :: others.outcomes) =
        cardsOf [outcomeOf pull used result] ++ cardsOf others.outcomes := by
      simp only [cardsOf, ← List.filterMap_append, List.singleton_append]
    rw [split, List.length_append, first, ih onward, List.map_cons, List.sum_cons]
    rfl

/-- Where upgrades are in stock as the pulls that they replace, the requests settle the size. -/
theorem length_cardsOf_of_settled
    (settled : ∀ request ∈ requests, ∀ upgrade, request.upgrade = some upgrade →
      Pool.stock cards upgrade.pull.admits = Pool.stock cards request.pull.admits)
    (path : (pullAll cards requests used).Yields as assembly) :
    (cardsOf assembly.outcomes).length =
      (requests.map fun request => Pool.stock cards request.pull.admits).sum := by
  rw [length_cardsOf path]
  induction requests generalizing used as assembly with
  | nil => rw [yields_pullAll_nil path]; rfl
  | cons request rest ih =>
    obtain ⟨_, pull, _, result, _, others, _, choice, _, onward, rfl⟩ := yields_pullAll_cons path
    have same : Pool.stock cards pull.admits = Pool.stock cards request.pull.admits := by
      rcases isPullOf_of_yields choice with rfl | ⟨upgrade, upgraded, rfl⟩
      · rfl
      · exact settled request List.mem_cons_self upgrade upgraded
    have later := ih (fun r member => settled r (List.mem_cons_of_mem _ member)) onward
    simp only [List.map_cons, List.sum_cons, later]
    exact congrArg (· + _) same

/-- Requests are answered one after another, each from the ids that the ones before it left. -/
theorem pullAll_append (first second : List Request) :
    pullAll cards (first ++ second) used =
      (pullAll cards first used).bind fun start =>
        (pullAll cards second start.used).bind fun finish =>
          done ⟨start.outcomes ++ finish.outcomes, finish.used⟩ := by
  induction first generalizing used with
  | nil => exact (bind_done _).symm
  | cons request rest ih =>
    simp only [List.cons_append, pullAll, bind_eq, pure_eq, bind_assoc, ih]
    rfl

/-- A request with an upgrade asks for one roll before anything else, and the roll decides which
pull is made. -/
theorem pull_of_upgraded {σ : Type} [Source σ] (cards : List Card) (used : List Text) (source : σ)
    {request : Request} {upgrade : Upgrade} (upgraded : request.upgrade = some upgrade) :
    ((pullAll cards [request] used).run source).1.outcomes.map Outcome.pull =
      [if (Source.roll source).1 < upgrade.chance then upgrade.pull else request.pull] := by
  simp only [pullAll, choosePull, upgraded, bind_eq, pure_eq, run_bind]
  rfl

/-- Every pull either places a card or is reported as skipped. -/
theorem length_add_skipEvents (policy : Policy) (outcomes : List Outcome) :
    (cardsOf outcomes).length +
      (outcomes.filterMap (Outcome.skipEvent? policy)).countP PackEvent.isBuiltinSkip =
        outcomes.length := by
  induction outcomes with
  | nil => rfl
  | cons outcome rest ih =>
    have skip : (PackEvent.builtinSlotSkipped policy outcome.pull.pools).isBuiltinSkip =
      true := rfl
    cases placed : outcome.card with
    | some card =>
      simp only [cardsOf, Outcome.skipEvent?, placed, List.filterMap_cons,
        List.length_cons] at ih ⊢
      omega
    | none =>
      simp only [cardsOf, Outcome.skipEvent?, placed, List.filterMap_cons, List.countP_cons,
        skip, if_true, List.length_cons] at ih ⊢
      omega

/-- The report of the finished pack is no skipped pull. -/
theorem length_add_skips (policy : Policy) (name : Text) (outcomes : List Outcome) :
    (cardsOf outcomes).length +
      (eventsOf policy name outcomes).countP PackEvent.isBuiltinSkip = outcomes.length := by
  have last : (PackEvent.builtinPackAssembled policy name
      (cardsOf outcomes).length).isBuiltinSkip = false := rfl
  rw [eventsOf, List.countP_append, List.countP_singleton, last, ← Nat.add_assoc,
    length_add_skipEvents]
  rfl

theorem length_singlePulls (policy : Policy) : (singlePulls policy).length = policy.pullCount := by
  cases policy <;> rfl

/-- The numbers of cards that a pool gives to the pulls of a policy. The chance plays a part only
through the roll of the last slot of a legacy pack. -/
def sizeOf (cards : List Card) (lastRoll : Float) (policy : Policy) : Nat :=
  let common := Pool.stock cards (·.hasRarity .common)
  let uncommon := Pool.stock cards (·.hasRarity .uncommon)
  let rare := Pool.stock cards (·.hasRarity .rare)
  let mythic := Pool.stock cards (·.hasRarity .mythic)
  let every := Pool.stock cards fun _ => true
  match policy with
  | .collector => 5 * common + 4 * uncommon + 6 * max rare mythic
  | .play => 8 * common + 3 * uncommon + max rare mythic + 2 * every
  | .legacy =>
    max rare (max common mythic) + 3 * max uncommon common + 10 * common +
      (if lastRoll < 0.25 then every else common)

theorem mem_requests_of_mem_singlePulls {policy : Policy} {request : Request}
    (member : request ∈ singlePulls policy) : request ∈ policy.requests := by
  obtain ⟨r, there, copy⟩ := List.mem_flatMap.1 member
  rw [List.eq_of_mem_replicate copy]
  exact there

/-- Identical pulls count as often as their request asks for them. -/
theorem sum_singlePulls (policy : Policy) (f : Request → Nat) :
    ((singlePulls policy).map f).sum =
      (policy.requests.map fun request => request.count * f request).sum := by
  unfold singlePulls
  induction policy.requests with
  | nil => rfl
  | cons request rest ih =>
    rw [List.flatMap_cons, List.map_append, List.sum_append, ih, List.map_replicate,
      List.sum_replicate, smul_eq_mul, List.map_cons, List.sum_cons]

theorem length_collector (path : (pullPolicy cards .collector).Yields as assembly)
    (lastRoll : Float) :
    (cardsOf assembly.outcomes).length = sizeOf cards lastRoll .collector := by
  have settled : ∀ request ∈ singlePulls .collector, ∀ upgrade,
      request.upgrade = some upgrade →
        Pool.stock cards upgrade.pull.admits = Pool.stock cards request.pull.admits := by
    intro request member upgrade upgraded
    have listed := mem_requests_of_mem_singlePulls member
    simp only [Policy.requests, List.mem_cons, List.not_mem_nil, or_false] at listed
    rcases listed with rfl | rfl | rfl | rfl | rfl | rfl | rfl | rfl <;> cases upgraded
  rw [length_cardsOf_of_settled settled path, sum_singlePulls]
  simp only [Policy.requests, Policy.plain, Policy.collectorRare, Policy.special, List.map_cons,
    List.map_nil, List.sum_cons, List.sum_nil, Pull.admits_altFirst, Pull.admits_altFirst_either,
    Pull.admits_special, Pool.stock_or, sizeOf]
  omega

theorem length_play (path : (pullPolicy cards .play).Yields as assembly) (lastRoll : Float) :
    (cardsOf assembly.outcomes).length = sizeOf cards lastRoll .play := by
  have settled : ∀ request ∈ singlePulls .play, ∀ upgrade,
      request.upgrade = some upgrade →
        Pool.stock cards upgrade.pull.admits = Pool.stock cards request.pull.admits := by
    intro request member upgrade upgraded
    have listed := mem_requests_of_mem_singlePulls member
    simp only [Policy.requests, List.mem_cons, List.not_mem_nil, or_false] at listed
    rcases listed with rfl | rfl | rfl | rfl | rfl | rfl <;> cases upgraded
    all_goals simp [Policy.wildcard, Pull.admits_every]
  have wild (chance : Float) (foil : Bool) :
      (Policy.wildcard chance foil).pull.admits = fun _ => true :=
    Pull.admits_every (List.mem_cons_of_mem _ List.mem_cons_self)
  have single (chance : Float) (foil : Bool) : (Policy.wildcard chance foil).count = 1 := rfl
  rw [length_cardsOf_of_settled settled path, sum_singlePulls]
  simp only [Policy.requests, Policy.plain, single, wild, List.map_cons, List.map_nil,
    List.sum_cons, List.sum_nil, Pull.admits_normalFirst, Pull.admits_normalFirst_either,
    Pool.stock_or, sizeOf]
  omega

/-- The upgrade that the last request of a legacy pack has. -/
def foilOfLegacy : Upgrade := ⟨⟨[.every .any], [], true⟩, Policy.legacyFoilChance⟩

/-- The last request of a legacy pack, the only one with an upgrade. -/
def lastOfLegacy : Request := ⟨⟨[.rarity .any .common], [], false⟩, 1, some foilOfLegacy⟩

theorem singlePulls_legacy :
    singlePulls .legacy = (singlePulls .legacy).dropLast ++ [lastOfLegacy] := rfl

/-- The last slot of a legacy pack draws from the whole pool when its roll is low. -/
theorem length_lastOfLegacy {σ : Type} [Source σ] (cards : List Card) (used : List Text)
    (source : σ) :
    (cardsOf ((pullAll cards [lastOfLegacy] used).run source).1.outcomes).length =
      if (Source.roll source).1 < 0.25 then Pool.stock cards fun _ => true
        else Pool.stock cards (·.hasRarity .common) := by
  have upgraded : lastOfLegacy.upgrade = some foilOfLegacy := rfl
  have pulls := pull_of_upgraded cards used source upgraded
  rw [length_cardsOf (yields_run (pullAll cards [lastOfLegacy] used) source)]
  generalize ((pullAll cards [lastOfLegacy] used).run source).1.outcomes = outcomes at pulls ⊢
  have mapped : outcomes.map (fun outcome => Pool.stock cards outcome.pull.admits) =
      (outcomes.map Outcome.pull).map fun pull => Pool.stock cards pull.admits := by
    simp
  rw [mapped, pulls]
  by_cases below : (Source.roll source).1 < 0.25
  · have chosen : (Source.roll source).1 < foilOfLegacy.chance := below
    rw [if_pos below, if_pos chosen]
    simp [foilOfLegacy, Pull.admits_every]
  · have kept : ¬ (Source.roll source).1 < foilOfLegacy.chance := below
    rw [if_neg below, if_neg kept]
    simp [lastOfLegacy, Pull.admits_anyRarity]

theorem length_legacy {σ : Type} [Source σ] (source : σ) :
    let reached := ((pullAll cards (singlePulls .legacy).dropLast []).run source).2
    (cardsOf ((pullPolicy cards .legacy).run source).1.outcomes).length =
      sizeOf cards (Source.roll reached).1 .legacy := by
  intro reached
  have settled : ∀ request ∈ (singlePulls .legacy).dropLast, ∀ upgrade,
      request.upgrade = some upgrade →
        Pool.stock cards upgrade.pull.admits = Pool.stock cards request.pull.admits := by
    intro request member upgrade upgraded
    have plain : ((singlePulls .legacy).dropLast).all (·.upgrade.isNone) = true := rfl
    have none := List.all_eq_true.1 plain request member
    rw [upgraded] at none
    cases none
  -- the slots in front are settled; the last one goes on from the source that they leave
  let start := (pullAll cards (singlePulls .legacy).dropLast []).run source
  let finish := (pullAll cards [lastOfLegacy] start.1.used).run reached
  have whole : ((pullPolicy cards .legacy).run source).1.outcomes =
      start.1.outcomes ++ finish.1.outcomes := by
    rw [pullPolicy, singlePulls_legacy, pullAll_append, run_bind, run_bind]
    rfl
  have joined : (cardsOf (start.1.outcomes ++ finish.1.outcomes)).length =
      (cardsOf start.1.outcomes).length + (cardsOf finish.1.outcomes).length := by
    rw [cardsOf, List.filterMap_append, List.length_append]
    rfl
  have front := length_cardsOf_of_settled settled
    (yields_run (pullAll cards (singlePulls .legacy).dropLast []) source)
  have last := length_lastOfLegacy cards start.1.used reached
  -- the pulls in front give what all pulls give, less the common of the last request
  have total := sum_singlePulls .legacy fun request => Pool.stock cards request.pull.admits
  rw [singlePulls_legacy, List.map_append, List.sum_append] at total
  rw [whole, joined, last, front]
  simp only [Policy.requests, Policy.plain, lastOfLegacy, List.map_cons, List.map_nil,
    List.sum_cons, List.sum_nil, Pull.admits_anyRarity, Pull.admits_anyRarity_either,
    Pull.admits_anyRarity_withMythics, Pool.stock_or] at total
  simp only [sizeOf]
  omega

/-- How many cards a built-in pack has, for every name and date that select its policy: the sum
over its slots of what the pool has in stock. If it has commons, uncommons, and rares or mythics,
no slot is skipped. Every slot that is skipped is reported, and the last report counts the cards. -/
theorem builtin_pack_size {σ : Type} [Source σ] (source : σ) (cards : List Card) (name : Text)
    (date : Option Text) :
    let policy := Policy.select name date
    let outcomes := ((assemble cards policy).run source).1
    let size := (cardsOf outcomes).length
    let events := eventsOf policy name outcomes
    let reached := ((pullAll cards (singlePulls policy).dropLast []).run source).2
    size = sizeOf cards (Source.roll reached).1 policy ∧
    (Pool.stock cards (·.hasRarity .common) = 1 ∧ Pool.stock cards (·.hasRarity .uncommon) = 1 ∧
      max (Pool.stock cards (·.hasRarity .rare)) (Pool.stock cards (·.hasRarity .mythic)) = 1 →
        size = policy.pullCount) ∧
    size + events.countP PackEvent.isBuiltinSkip = policy.pullCount ∧
    events.getLast? = some (.builtinPackAssembled policy name size) := by
  intro policy outcomes size events reached
  have path := yields_run (pullPolicy cards policy) source
  have taken : outcomes = ((pullPolicy cards policy).run source).1.outcomes :=
    congrArg Prod.fst (run_bind _ _ source)
  have exact : size = sizeOf cards (Source.roll reached).1 policy := by
    simp only [size, taken]
    clear_value policy
    cases policy with
    | collector => exact length_collector path _
    | play => exact length_play path _
    | legacy => exact length_legacy source
  have whole : outcomes.length = policy.pullCount := by
    rw [taken, length_outcomes path, length_singlePulls]
  refine ⟨exact, ?_, ?_, ?_⟩
  · rintro ⟨common, uncommon, rareOrMythic⟩
    have every := Pool.stock_le_every cards (·.hasRarity .common)
    have bound := Pool.stock_le_one cards fun _ => true
    rw [exact]
    clear_value policy
    cases policy <;> simp only [sizeOf, Policy.pullCount]
    · omega
    · omega
    · split <;> omega
  · exact (length_add_skips policy name outcomes).trans whole
  · exact List.getLast?_concat

/-- A pool with a common, an uncommon and a rare fills a legacy pack. -/
theorem builtin_pack_size_full :
    let card (id rarity : Text) : Card := ⟨id, "", "s", none, rarity, false, none, none, false, []⟩
    let cards := [card "a" "common", card "b" "uncommon", card "c" "rare"]
    let source : Script := ⟨[], 0.5, []⟩
    (Pool.stock cards (·.hasRarity .common) = 1 ∧ Pool.stock cards (·.hasRarity .uncommon) = 1 ∧
      max (Pool.stock cards (·.hasRarity .rare)) (Pool.stock cards (·.hasRarity .mythic)) = 1) ∧
    (cardsOf ((assemble cards (Policy.select "draft" none)).run source).1).length = 15 := by
  intro card cards source
  have stocked : Pool.stock cards (·.hasRarity .common) = 1 ∧
      Pool.stock cards (·.hasRarity .uncommon) = 1 ∧
      max (Pool.stock cards (·.hasRarity .rare)) (Pool.stock cards (·.hasRarity .mythic)) = 1 := by
    decide +kernel
  have legacy : (Policy.select "draft" none).pullCount = 15 := by decide +kernel
  exact ⟨stocked, ((builtin_pack_size source cards "draft" none).2.1 stocked).trans legacy⟩

end BuiltinPack
end PackOpening
