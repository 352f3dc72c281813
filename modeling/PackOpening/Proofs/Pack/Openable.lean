import Mathlib
import PackOpening.Proofs.Chance.Reach
import PackOpening.Proofs.Pack.Layout

/-!
Which cards a built-in pack can hold.

In a pool whose cards have ids of their own, every candidate of every pull can be drawn: the rolls
lead to the pull and to its side, and a candidate that is still unused can be picked, while one
that is in use lies in the pack already. Conversely a pack holds nothing but candidates. So what can
be opened is settled by the chains of the policy alone: play and legacy packs reach every usable
card, and collector packs the cards of the art that the pool makes them prefer.
-/
namespace PackOpening

open Chance

namespace Draw

variable {pool rares mythics rest : List Card} {used : List Text} {first card : Card}
  {chance : Float}

theorem take_reaches (member : card ∈ first :: rest) :
    (take used first rest).Reaches fun result => result.card = some card :=
  reaches_bind (reaches_oneOf member (reaches_done rfl))

/-- Any unused card of a pool can be taken. -/
theorem take_unused_reaches (member : card ∈ pool) (fresh : card.id ∉ used)
    (stocked : Pool.unused pool used = first :: rest) :
    (take used first rest).Reaches fun result => result.card = some card :=
  take_reaches (stocked ▸ Pool.mem_unused.2 ⟨member, fresh⟩)

theorem unused_ne_nil (member : card ∈ pool) (fresh : card.id ∉ used) :
    Pool.unused pool used ≠ [] :=
  List.ne_nil_of_mem (Pool.mem_unused.2 ⟨member, fresh⟩)

theorem unique_reaches (member : card ∈ pool) (fresh : card.id ∉ used) :
    (unique pool used).Reaches fun result => result.card = some card := by
  unfold unique
  split
  · next stocked => exact take_unused_reaches member fresh stocked
  · next none => exact absurd none (unused_ne_nil member fresh)
  · next none => exact absurd none (unused_ne_nil member fresh)

/-- A roll of one half takes a rare, whether or not a mythic is left. -/
theorem rareOrMythic_reaches_rare (member : card ∈ rares) (fresh : card.id ∉ used)
    (above : ¬ (0.5 : Float) < chance) :
    (rareOrMythic rares mythics chance used).Reaches fun result => result.card = some card := by
  unfold rareOrMythic
  split
  · next none _ => exact absurd none (unused_ne_nil member fresh)
  · next stocked _ => exact take_unused_reaches member fresh stocked
  · next none _ => exact absurd none (unused_ne_nil member fresh)
  · next stocked _ =>
    refine reaches_bind (reaches_rolled Answer.isFair_half ?_)
    rw [if_neg above]
    exact take_unused_reaches member fresh stocked

/-- A roll of zero takes a mythic where mythics have a chance. -/
theorem rareOrMythic_reaches_mythic (member : card ∈ mythics) (fresh : card.id ∉ used)
    (below : (0 : Float) < chance) :
    (rareOrMythic rares mythics chance used).Reaches fun result => result.card = some card := by
  unfold rareOrMythic
  split
  · next none => exact absurd none (unused_ne_nil member fresh)
  · next none => exact absurd none (unused_ne_nil member fresh)
  · next stocked =>
    exact reaches_bind (reaches_rolled Answer.isFair_zero
      (take_unused_reaches member fresh stocked))
  · next stocked =>
    refine reaches_bind (reaches_rolled Answer.isFair_zero ?_)
    rw [if_pos below]
    exact take_unused_reaches member fresh stocked

end Draw

/-- Whether a part holds mythics alone. -/
def Partition.isOfMythics : Partition → Bool
  | .rarity _ .mythic => true
  | _ => false

theorem Partition.hasRarity_of_isOfMythics {part : Partition} {card : Card}
    (mythics : part.isOfMythics = true) (admitted : part.admits card = true) :
    card.hasRarity .mythic = true := by
  unfold isOfMythics at mythics
  split at mythics
  · exact (Bool.and_eq_true_iff.1 admitted).2
  · cases mythics

theorem Pool.exists_admits_of_mem_firstStocked {cards : List Card} {card : Card}
    {parts : List Partition} (member : card ∈ firstStocked cards parts) :
    ∃ part ∈ parts, part.admits card = true := by
  induction parts with
  | nil => exact absurd member List.not_mem_nil
  | cons part rest ih =>
    rcases mem_firstStocked_cons.1 member with ⟨_, here⟩ | ⟨_, later⟩
    · exact ⟨part, List.mem_cons_self, (mem_part.1 here).2⟩
    · obtain ⟨other, listed, admitted⟩ := ih later
      exact ⟨other, List.mem_cons_of_mem _ listed, admitted⟩

namespace BuiltinPack

variable {cards : List Card} {card : Card} {request : Request} {requests rest : List Request}
  {pull : Pull} {used : List Text}

theorem half_not_lt_mythicChance (cards : List Card) : ¬ (0.5 : Float) < mythicChance cards := by
  unfold mythicChance
  split
  · decide +kernel
  · decide +kernel

theorem zero_lt_mythicChance (has : Pool.Has cards (·.hasRarity .mythic)) :
    (0 : Float) < mythicChance cards := by
  have kind : (Partition.rarity .any .mythic).admits = fun c => c.hasRarity .mythic :=
    funext (Pull.rarity_any_admits .mythic)
  have stocked : Pool.part cards (.rarity .any .mythic) ≠ [] :=
    Pool.part_ne_nil_iff.2 (kind ▸ has)
  unfold mythicChance
  rw [if_neg (by simpa using stocked)]
  decide +kernel

/-- Every unused candidate of a pull can be drawn. -/
theorem draw_reaches (mythics : pull.mythics.all Partition.isOfMythics = true)
    (candidate : card ∈ pull.candidates cards) (fresh : card.id ∉ used) :
    (draw cards pull used).Reaches fun result => result.card = some card := by
  unfold draw
  unfold Pull.candidates at candidate
  by_cases joined : pull.isRareOrMythic = true
  · rw [if_pos joined] at candidate
    rw [if_pos joined]
    rcases List.mem_append.1 candidate with rare | mythic
    · exact Draw.rareOrMythic_reaches_rare rare fresh (half_not_lt_mythicChance cards)
    · obtain ⟨part, listed, admitted⟩ := Pool.exists_admits_of_mem_firstStocked mythic
      have rarity := Partition.hasRarity_of_isOfMythics (List.all_eq_true.1 mythics part listed)
        admitted
      have has : Pool.Has cards (·.hasRarity .mythic) :=
        ⟨card, Pool.mem_usable_of_mem_firstStocked mythic, rarity⟩
      exact Draw.rareOrMythic_reaches_mythic mythic fresh (zero_lt_mythicChance has)
  · rw [if_neg joined] at candidate
    rw [if_neg joined]
    exact Draw.unique_reaches candidate fresh

/-- A request whose pulls can all be made and drawn from: a roll of zero makes its upgrade, a roll
of one half its own pull, and its mythic chains hold mythics alone. -/
structure IsOpen (request : Request) : Prop where
  low : ∀ upgrade, request.upgrade = some upgrade → (0 : Float) < upgrade.chance
  high : ∀ upgrade, request.upgrade = some upgrade → ¬ (0.5 : Float) < upgrade.chance
  mythics : ∀ pull, IsPullOf request pull → pull.mythics.all Partition.isOfMythics = true

theorem choosePull_reaches (opens : IsOpen request) (chosen : IsPullOf request pull) :
    (choosePull request).Reaches fun made => made = pull := by
  unfold choosePull
  cases upgraded : request.upgrade with
  | none =>
    rcases chosen with rfl | ⟨upgrade, upgraded', _⟩
    · exact reaches_done rfl
    · rw [upgraded] at upgraded'
      cases upgraded'
  | some upgrade =>
    rcases chosen with rfl | ⟨upgrade', upgraded', rfl⟩
    · refine reaches_bind (reaches_rolled Answer.isFair_half (reaches_done ?_))
      exact if_neg (opens.high upgrade upgraded)
    · rw [upgraded] at upgraded'
      cases upgraded'
      refine reaches_bind (reaches_rolled Answer.isFair_zero (reaches_done ?_))
      exact if_pos (opens.low upgrade upgraded)

/-- What can be reached is put together from the pull of the first request, its draw and the other
requests. -/
theorem reaches_pullAll_cons {goal : Assembly → Prop}
    (onward : (choosePull request).Reaches fun pull =>
      (draw cards pull used).Reaches fun result =>
        (pullAll cards rest result.used).Reaches fun others =>
          goal ⟨outcomeOf pull used result :: others.outcomes, others.used⟩) :
    (pullAll cards (request :: rest) used).Reaches goal := by
  refine reaches_bind (onward.mono fun pull drawing => ?_)
  refine reaches_bind (drawing.mono fun result filling => ?_)
  exact reaches_bind (filling.mono fun others met => reaches_done met)

theorem mem_cardsOf_cons {outcome : Outcome} {outcomes : List Outcome} {drawn : DrawnCard} :
    drawn ∈ cardsOf (outcome :: outcomes) ↔
      outcome.card = some drawn ∨ drawn ∈ cardsOf outcomes := by
  simp [cardsOf]

/-- A card that the first draw brings lies in the pack, whatever the other draws bring. -/
theorem reaches_of_first {result : Draw.Result} (drawn : result.card = some card) :
    (pullAll cards rest result.used).Reaches fun others =>
      ∃ lying ∈ cardsOf (outcomeOf pull used result :: others.outcomes), lying.card = card := by
  refine (reaches_some _).mono fun others _ => ?_
  refine ⟨⟨card, pull.foil, card.isAltArt⟩, mem_cardsOf_cons.2 (Or.inl ?_), rfl⟩
  simp [outcomeOf, drawn]

/-- Every candidate of a pull of some request can be drawn into the pack. In front of the request a
draw either brings the card or leaves it unused, because no other card has its id. -/
theorem pullAll_reaches (distinct : ∀ a ∈ cards, ∀ b ∈ cards, a.id = b.id → a = b)
    (listed : request ∈ requests) (opens : IsOpen request) (chosen : IsPullOf request pull)
    (candidate : card ∈ pull.candidates cards) (fresh : card.id ∉ used) :
    (pullAll cards requests used).Reaches fun assembly =>
      ∃ lying ∈ cardsOf assembly.outcomes, lying.card = card := by
  induction requests generalizing used with
  | nil => exact absurd listed List.not_mem_nil
  | cons first rest ih =>
    apply reaches_pullAll_cons
    rcases List.mem_cons.1 listed with rfl | later
    · refine (choosePull_reaches opens chosen).mono ?_
      rintro _ rfl
      refine (draw_reaches (opens.mythics _ chosen) candidate fresh).mono fun result drawn => ?_
      exact reaches_of_first drawn
    · refine (reaches_some _).mono fun made _ => ?_
      refine (reaches_some _).mono fun result drawing => ?_
      obtain ⟨_, path⟩ := drawing
      have draws := draw_sparing path
      by_cases inUse : card.id ∈ result.used
      · rcases (draws.mem_used card.id).1 inUse with before | ⟨other, taken, same⟩
        · exact absurd before fresh
        · have mine := (Pool.mem_usable.1 (Pull.mem_usable_of_mem_candidates candidate)).1
          have theirs := Pull.mem_usable_of_mem_candidates (draws.mem other taken)
          have one : other = card := distinct other (Pool.mem_usable.1 theirs).1 card mine same
          exact reaches_of_first (one ▸ taken)
      · refine (ih later inUse).mono fun others found => ?_
        obtain ⟨lying, there, same⟩ := found
        exact ⟨lying, mem_cardsOf_cons.2 (Or.inr there), same⟩

/-- The requests of all policies are open. -/
theorem isOpen_of_mem {policy : Policy} (member : request ∈ policy.requests) :
    IsOpen request := by
  have chances : ∀ p, ∀ r ∈ Policy.requests p, r.upgrade.all (fun upgrade =>
      decide ((0 : Float) < upgrade.chance ∧ ¬ (0.5 : Float) < upgrade.chance)) = true := by
    intro p
    cases p <;> decide +kernel
  have mythics : ∀ p, ∀ r ∈ Policy.requests p, r.pull.mythics.all Partition.isOfMythics = true ∧
      r.upgrade.all (fun upgrade => upgrade.pull.mythics.all Partition.isOfMythics) = true := by
    intro p
    cases p <;> decide
  have bounds {upgrade : Upgrade} (upgraded : request.upgrade = some upgrade) :
      (0 : Float) < upgrade.chance ∧ ¬ (0.5 : Float) < upgrade.chance := by
    have chance := chances policy request member
    rw [upgraded] at chance
    exact of_decide_eq_true chance
  refine ⟨fun _ upgraded => (bounds upgraded).1, fun _ upgraded => (bounds upgraded).2, ?_⟩
  obtain ⟨own, other⟩ := mythics policy request member
  rintro pull (rfl | ⟨upgrade, upgraded, rfl⟩)
  · exact own
  · rw [upgraded] at other
    exact other

theorem mem_singlePulls_of_mem_requests {policy : Policy} (member : request ∈ policy.requests) :
    request ∈ singlePulls policy := by
  have positive : ∀ p, ∀ r ∈ Policy.requests p, r.count ≠ 0 := by
    intro p
    cases p <;> decide
  refine List.mem_flatMap.2 ⟨request, member, ?_⟩
  exact List.mem_replicate.2 ⟨positive policy request member, rfl⟩

/-- Some pull of a policy has a card among its candidates. -/
def IsCandidate (cards : List Card) (policy : Policy) (card : Card) : Prop :=
  ∃ request ∈ policy.requests, ∃ pull, IsPullOf request pull ∧ card ∈ pull.candidates cards

/-- A card that the packs of a policy can hold: a usable one, and in a collector pack one of the
four rarities that is alternate art, unless the pool has no usable alternate art of its rarity. -/
def Openable (cards : List Card) (policy : Policy) (card : Card) : Prop :=
  card.isUsable = true ∧ (policy = .collector →
    (∃ r, card.hasRarity r = true) ∧ (card.isAltArt = true ∨
      ¬ Pool.Has cards fun c => c.isAltArt && c.rarity == card.rarity))

/-- For a card of a rarity, the alternate art of this rarity is that of the card's own. -/
theorem altArt_kind {r : Rarity} (rarity : card.hasRarity r = true) :
    (fun c : Card => c.isAltArt && c.hasRarity r) =
      fun c => c.isAltArt && c.rarity == card.rarity := by
  unfold Card.hasRarity
  rw [eq_of_beq rarity]

theorem openable_of_isCandidate {policy : Policy} (candidate : IsCandidate cards policy card) :
    Openable cards policy card := by
  obtain ⟨request, member, pull, chosen, listed⟩ := candidate
  refine ⟨(Pool.mem_usable.1 (Pull.mem_usable_of_mem_candidates listed)).2, ?_⟩
  rintro rfl
  have own : pull = request.pull := by
    rcases chosen with rfl | ⟨upgrade, upgraded, _⟩
    · rfl
    · rw [upgrade_of_collector member] at upgraded
      cases upgraded
  have places : request.pull.Places cards ⟨card, pull.foil, card.isAltArt⟩ :=
    ⟨own ▸ listed, congrArg Pull.foil own, rfl⟩
  obtain ⟨⟨r, rarity⟩, art⟩ := altArt_of_collector member places
  refine ⟨⟨r, rarity⟩, Classical.or_iff_not_imp_right.2 fun has => ?_⟩
  rw [← altArt_kind rarity] at has
  exact art r rarity (Classical.not_not.1 has)

/-- The slots of a collector pack that a card of each rarity comes from. -/
theorem isCandidate_collector (usable : card ∈ Pool.usable cards) {r : Rarity}
    (rarity : card.hasRarity r = true)
    (art : Pool.Has cards (fun c => c.isAltArt && c.hasRarity r) → card.isAltArt = true) :
    IsCandidate cards .collector card := by
  have first : card ∈ Pool.firstStocked cards (Policy.altFirst r) :=
    Pool.mem_altFirst.2 ⟨usable, rarity, art⟩
  cases r with
  | common =>
    exact ⟨Policy.plain (Policy.altFirst .common) 2 true, by simp [Policy.requests], _, Or.inl rfl,
      first⟩
  | uncommon =>
    exact ⟨Policy.plain (Policy.altFirst .uncommon) 2 true, by simp [Policy.requests], _,
      Or.inl rfl, first⟩
  | rare =>
    exact ⟨Policy.collectorRare false, by simp [Policy.requests], _, Or.inl rfl,
      List.mem_append_left _ first⟩
  | mythic =>
    exact ⟨Policy.collectorRare false, by simp [Policy.requests], _, Or.inl rfl,
      List.mem_append_right _ first⟩

/-- A wildcard of a play pack reaches every usable card, by its upgrade if it is alternate art. -/
theorem isCandidate_play (usable : card ∈ Pool.usable cards) : IsCandidate cards .play card := by
  have listed : Policy.wildcard Policy.wildcardAltChance false ∈ Policy.requests .play := by
    simp [Policy.requests]
  cases art : card.isAltArt with
  | true =>
    exact ⟨_, listed, _, Or.inr ⟨_, rfl, rfl⟩, Pool.mem_anyAltFirst.2 ⟨usable, fun _ => art⟩⟩
  | false => exact ⟨_, listed, _, Or.inl rfl, Pool.mem_anyNormalFirst.2 ⟨usable, fun _ => art⟩⟩

/-- The foil of a legacy pack reaches every usable card. -/
theorem isCandidate_legacy (usable : card ∈ Pool.usable cards) :
    IsCandidate cards .legacy card := by
  have listed : lastOfLegacy ∈ Policy.requests .legacy := by
    simp [Policy.requests, lastOfLegacy, foilOfLegacy]
  refine ⟨_, listed, foilOfLegacy.pull, Or.inr ⟨_, rfl, rfl⟩, ?_⟩
  exact Pool.mem_firstStocked_singleton.2 (Pool.mem_part.2 ⟨usable, rfl⟩)

theorem isCandidate_iff_openable {policy : Policy} (there : card ∈ cards) :
    IsCandidate cards policy card ↔ Openable cards policy card := by
  constructor
  · exact openable_of_isCandidate
  · rintro ⟨kept, collected⟩
    have usable : card ∈ Pool.usable cards := Pool.mem_usable.2 ⟨there, kept⟩
    cases policy with
    | play => exact isCandidate_play usable
    | legacy => exact isCandidate_legacy usable
    | collector =>
      obtain ⟨⟨r, rarity⟩, art⟩ := collected rfl
      refine isCandidate_collector usable rarity fun has => art.resolve_right fun none => none ?_
      rwa [altArt_kind rarity] at has

/-- Exactly which cards can be opened, for every name and date that select a policy. In a pool whose
cards have ids of their own, some script with rolls between zero and one opens a pack with the card
when it is openable, and no source whatever opens one when it is not. -/
theorem opened_iff_openable (cards : List Card) (distinct : (cards.map Card.id).Nodup) (card : Card)
    (there : card ∈ cards) (name : Text) (date : Option Text) :
    let policy := Policy.select name date
    ((∃ script : Script, script.IsFair ∧
      ∃ drawn ∈ cardsOf ((assemble cards policy).run script).1, drawn.card = card) ↔
        Openable cards policy card) ∧
    ∀ (σ : Type) [Source σ] (source : σ),
      ∀ drawn ∈ cardsOf ((assemble cards policy).run source).1,
        Openable cards policy drawn.card := by
  intro policy
  have taken {σ : Type} [Source σ] (source : σ) : ((assemble cards policy).run source).1 =
      ((pullPolicy cards policy).run source).1.outcomes := congrArg Prod.fst (run_bind _ _ source)
  have nothingElse (σ : Type) [Source σ] (source : σ) :
      ∀ drawn ∈ cardsOf ((assemble cards policy).run source).1,
        Openable cards policy drawn.card := by
    intro drawn member
    rw [taken source] at member
    obtain ⟨request, listed, pull, chosen, places⟩ :=
      exists_places_of_mem (yields_run _ source) member
    exact openable_of_isCandidate
      ⟨request, mem_requests_of_mem_singlePulls listed, pull, chosen, places.candidate⟩
  refine ⟨⟨?_, ?_⟩, nothingElse⟩
  · rintro ⟨script, _, drawn, member, rfl⟩
    exact nothingElse Script script drawn member
  · intro openable
    obtain ⟨request, member, pull, chosen, candidate⟩ := (isCandidate_iff_openable there).2 openable
    have own : ∀ a ∈ cards, ∀ b ∈ cards, a.id = b.id → a = b := fun a left b right same =>
      List.inj_on_of_nodup_map distinct left right same
    have reached := pullAll_reaches own (mem_singlePulls_of_mem_requests member)
      (isOpen_of_mem member) chosen candidate List.not_mem_nil
    obtain ⟨script, fair, drawn, lying, same⟩ := Script.exists_run_of_reaches reached
    refine ⟨script, fair, drawn, ?_, same⟩
    rw [taken script]
    exact lying

/-- A plain rare beside a showcase rare: legacy packs can hold it, collector packs never do. -/
theorem opened_iff_openable_plain_rare :
    let plain : Card := ⟨"a", "", "s", none, "rare", false, none, none, false, []⟩
    let cards := [plain, { plain with id := "b", frameEffects := ["showcase"] }]
    (cards.map Card.id).Nodup ∧ plain ∈ cards ∧
    (∃ script : Script, script.IsFair ∧ ∃ drawn ∈
      cardsOf ((assemble cards (Policy.select "draft" none)).run script).1, drawn.card = plain) ∧
    ¬ ∃ script : Script, script.IsFair ∧ ∃ drawn ∈
      cardsOf ((assemble cards (Policy.select "collector" none)).run script).1,
        drawn.card = plain := by
  intro plain cards
  have distinct : (cards.map Card.id).Nodup := by decide +kernel
  have there : plain ∈ cards := List.mem_cons_self
  have legacy : Policy.select "draft" none = .legacy := by decide +kernel
  have collector : Policy.select "collector" none = .collector := by decide +kernel
  have usable : plain.isUsable = true := by decide +kernel
  have hidden : ¬ (plain.isAltArt = true ∨
      ¬ Pool.Has cards fun c => c.isAltArt && c.rarity == plain.rarity) := by
    decide +kernel
  refine ⟨distinct, there, ?_, ?_⟩
  · refine (opened_iff_openable cards distinct plain there "draft" none).1.2 ⟨usable, ?_⟩
    rw [legacy]
    rintro ⟨⟩
  · intro opened
    have openable := (opened_iff_openable cards distinct plain there "collector" none).1.1 opened
    exact hidden (openable.2 collector).2

end BuiltinPack
end PackOpening
