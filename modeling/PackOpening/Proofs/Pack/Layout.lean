import Mathlib
import PackOpening.Chance.Script
import PackOpening.Proofs.Pack.Placement
import PackOpening.Proofs.Pack.Size

/-!
The layout of built-in packs, place by place.

A pool with commons, uncommons, and rares or mythics has a card for every pull of every policy. So
the places of a pack are those of the pulls, whatever the chance, and the card at a place comes from
the chain of its pull: this settles its rarity, its finish, and its art as far as the pool allows a
choice. Only the wildcards and the last card of a legacy pack depend on a roll, the one made when
their place is reached.
-/
namespace PackOpening

open Chance

/-- A pool that no pull of a policy finds empty. -/
structure Pool.IsComplete (cards : List Card) : Prop where
  common : Has cards (·.hasRarity .common)
  uncommon : Has cards (·.hasRarity .uncommon)
  rareOrMythic : Has cards Card.isRareOrMythic

theorem Pool.Has.mono {cards : List Card} {p q : Card → Bool} (has : Has cards p)
    (within : ∀ c, p c = true → q c = true) : Has cards q := by
  obtain ⟨c, there, kind⟩ := has
  exact ⟨c, there, within c kind⟩

namespace BuiltinPack

/-- Some places of a pack hold cards of a kind. -/
def Holds (pack : List DrawnCard) (places : List Nat) (kind : DrawnCard → Prop) : Prop :=
  ∀ i ∈ places, ∃ drawn, pack[i]? = some drawn ∧ kind drawn

/-- Commons at both ends, then uncommons and rares or mythics; every card prefers alternate art, and
two places the frame named for them. -/
structure CollectorLayout (cards : List Card) (pack : List DrawnCard) : Prop where
  size : pack.length = 15
  commons : Holds pack [0, 1, 12, 13, 14] (·.card.hasRarity .common)
  uncommons : Holds pack [2, 3, 4, 5] (·.card.hasRarity .uncommon)
  raresOrMythics : Holds pack [6, 7, 8, 9, 10, 11] (·.card.isRareOrMythic)
  foil_iff : ∀ i drawn, pack[i]? = some drawn →
    (drawn.foil = true ↔ i ∈ [0, 1, 2, 3, 8, 9, 11, 12, 13, 14])
  art : ∀ drawn ∈ pack, ∀ r, drawn.card.hasRarity r = true →
    Pool.Has cards (fun c => c.isAltArt && c.hasRarity r) → drawn.card.isAltArt = true
  extended : Holds pack [10] fun drawn =>
    if Pool.Has cards fun c => c.isExtendedOrBorderless && c.isRareOrMythic then
      drawn.card.isExtendedOrBorderless = true
    else Pool.Has cards (fun c => c.isAltArt && c.isRareOrMythic) → drawn.card.isAltArt = true
  showcase : Holds pack [11] fun drawn =>
    if Pool.Has cards fun c => c.isShowcaseOrBorderless && c.isRareOrMythic then
      drawn.card.isShowcaseOrBorderless = true
    else Pool.Has cards (fun c => c.isAltArt && c.isRareOrMythic) → drawn.card.isAltArt = true

/-- Normal frames first, and two wildcards of any rarity, which a low roll turns to alternate
art. -/
structure PlayLayout (cards : List Card) (roll : Nat → Float) (pack : List DrawnCard) : Prop where
  size : pack.length = 14
  commons : Holds pack [0, 1, 2, 3, 4, 5, 12, 13] (·.card.hasRarity .common)
  uncommons : Holds pack [6, 7, 8] (·.card.hasRarity .uncommon)
  rareOrMythic : Holds pack [9] (·.card.isRareOrMythic)
  foil_iff : ∀ i drawn, pack[i]? = some drawn → (drawn.foil = true ↔ i = 11)
  frame : Holds pack [0, 1, 2, 3, 4, 5, 6, 7, 8, 9, 12, 13] fun drawn =>
    Pool.Has cards (fun c => !c.isAltArt && c.rarity == drawn.card.rarity) →
      drawn.card.isAltArt = false
  wildcards : ∀ place ∈ [(10, (0.024 : Float)), (11, 0.015)],
    Holds pack [place.1] fun drawn =>
      if roll place.1 < place.2 then
        Pool.Has cards Card.isAltArt → drawn.card.isAltArt = true
      else Pool.Has cards (fun c => !c.isAltArt) → drawn.card.isAltArt = false

/-- A rare or mythic, uncommons and commons of any art. The first place falls back to commons where
the pool has no rare, and a low roll makes the last card a foil of any rarity. -/
structure LegacyLayout (cards : List Card) (roll : Nat → Float) (pack : List DrawnCard) : Prop where
  size : pack.length = 15
  first : Holds pack [0] fun drawn => drawn.card.hasRarity .mythic = true ∨
    drawn.card.hasRarity
      (if Pool.Has cards (·.hasRarity .rare) then .rare else .common) = true
  uncommons : Holds pack [1, 2, 3] (·.card.hasRarity .uncommon)
  commons : Holds pack [4, 5, 6, 7, 8, 9, 10, 11, 12, 13] (·.card.hasRarity .common)
  last : Holds pack [14] fun drawn => roll 14 < 0.25 ∨ drawn.card.hasRarity .common = true
  foil_iff : ∀ i drawn, pack[i]? = some drawn → (drawn.foil = true ↔ i = 14 ∧ roll 14 < 0.25)

/-- The layout of a policy's packs; `roll` gives the roll at each place that asks for one. -/
def HasLayout (cards : List Card) (roll : Nat → Float) (pack : List DrawnCard) : Policy → Prop
  | .collector => CollectorLayout cards pack
  | .play => PlayLayout cards roll pack
  | .legacy => LegacyLayout cards roll pack

/-- Whether an upgrade of a request leaves the finish as it is. -/
def keepsFoil (request : Request) : Bool :=
  request.upgrade.all fun upgrade => upgrade.pull.foil == request.pull.foil

/-- A pack whose card at each place comes from the pull of the request there. -/
structure Follows (cards : List Card) (requests : List Request) (roll : Nat → Float)
    (pack : List DrawnCard) : Prop where
  size : pack.length = requests.length
  placed : ∀ k (request : Request), requests[k]? = some request →
    ∃ drawn : DrawnCard, pack[k]? = some drawn ∧ (request.chosen (roll k)).Places cards drawn

namespace Follows

variable {cards : List Card} {requests : List Request} {roll : Nat → Float}
  {pack : List DrawnCard}

theorem places_of_getElem? (follows : Follows cards requests roll pack) {k : Nat}
    {drawn : DrawnCard} (there : pack[k]? = some drawn) :
    ∃ request, requests[k]? = some request ∧ (request.chosen (roll k)).Places cards drawn := by
  have inside : k < requests.length := by
    rw [← follows.size]
    exact (List.getElem?_eq_some_iff.1 there).1
  have asked := List.getElem?_eq_getElem inside
  obtain ⟨drawn', there', places⟩ := follows.placed k _ asked
  rw [there] at there'
  cases there'
  exact ⟨_, asked, places⟩

/-- Places whose requests have no upgrade hold what their pulls place. -/
theorem holds (follows : Follows cards requests roll pack) {places : List Nat}
    {kind : DrawnCard → Prop} (pulls : List Pull)
    (asked : ∀ i ∈ places, ∃ pull ∈ pulls,
      requests[i]?.map (fun request => (request.pull, request.upgrade.isNone)) = some (pull, true))
    (fits : ∀ pull ∈ pulls, ∀ drawn, pull.Places cards drawn → kind drawn) :
    Holds pack places kind := by
  intro i member
  obtain ⟨pull, listed, shape⟩ := asked i member
  obtain ⟨request, there, same⟩ := Option.map_eq_some_iff.1 shape
  obtain ⟨rfl, plain⟩ := Prod.mk.inj same
  have chosen : request.chosen (roll i) = request.pull := by
    unfold Request.chosen
    rw [Option.isNone_iff_eq_none.1 plain]
  obtain ⟨drawn, found, placed⟩ := follows.placed i request there
  rw [chosen] at placed
  exact ⟨drawn, found, fits _ listed drawn placed⟩

/-- Places that share one pull without upgrade. -/
theorem holds_same (follows : Follows cards requests roll pack) {places : List Nat}
    {kind : DrawnCard → Prop} (pull : Pull)
    (asked : ∀ i ∈ places,
      requests[i]?.map (fun request => (request.pull, request.upgrade.isNone)) = some (pull, true))
    (fits : ∀ drawn, pull.Places cards drawn → kind drawn) :
    Holds pack places kind := by
  refine follows.holds [pull] (fun i member => ⟨pull, List.mem_cons_self, asked i member⟩) ?_
  intro other listed
  rw [List.mem_singleton.1 listed]
  exact fits

/-- A place whose request keeps its finish in an upgrade has the finish of the request. -/
theorem foil_eq (follows : Follows cards requests roll pack) {k : Nat} {foil : Bool}
    (asked : requests[k]?.map (fun request => (request.pull.foil, keepsFoil request)) =
      some (foil, true))
    {drawn : DrawnCard} (there : pack[k]? = some drawn) : drawn.foil = foil := by
  obtain ⟨request, found, places⟩ := follows.places_of_getElem? there
  rw [found, Option.map_some, Option.some.injEq] at asked
  obtain ⟨finish, steady⟩ := Prod.mk.inj asked
  rw [places.foil, ← finish]
  unfold Request.chosen
  unfold keepsFoil at steady
  cases upgraded : request.upgrade with
  | none => rfl
  | some upgrade =>
    rw [upgraded, Option.all_some, beq_iff_eq] at steady
    dsimp only
    split
    · exact steady
    · rfl

/-- Where every request keeps its finish in an upgrade, the foils lie where the requests ask for
them. -/
theorem foil_iff (follows : Follows cards requests roll pack) (foils : List Nat)
    (table : ∀ i < requests.length,
      requests[i]?.map (fun request => (request.pull.foil, keepsFoil request)) =
        some (decide (i ∈ foils), true))
    {i : Nat} {drawn : DrawnCard} (there : pack[i]? = some drawn) :
    drawn.foil = true ↔ i ∈ foils := by
  have inside := (List.getElem?_eq_some_iff.1 there).1
  rw [follows.size] at inside
  rw [follows.foil_eq (table i inside) there, decide_eq_true_iff]

end Follows

variable {cards : List Card}

section Complete

variable (complete : Pool.IsComplete cards) {request : Request} {pull : Pull}

include complete

theorem has_every : Pool.Has cards fun _ => true :=
  complete.common.mono fun _ _ => rfl

theorem has_admits_collector (member : request ∈ Policy.requests .collector)
    (chosen : IsPullOf request pull) : Pool.Has cards pull.admits := by
  have rare : Pool.Has cards fun c => c.hasRarity .rare || c.hasRarity .mythic :=
    complete.rareOrMythic
  simp only [Policy.requests, List.mem_cons, List.not_mem_nil, or_false] at member
  rcases chosen with rfl | ⟨upgrade, upgraded, rfl⟩
  · rcases member with rfl | rfl | rfl | rfl | rfl | rfl | rfl | rfl
    all_goals simp only [Policy.plain, Policy.collectorRare, Policy.special,
      Pull.admits_altFirst, Pull.admits_altFirst_either, Pull.admits_special, complete.common,
      complete.uncommon, rare]
  · rcases member with rfl | rfl | rfl | rfl | rfl | rfl | rfl | rfl
    all_goals cases upgraded

theorem has_admits_play (member : request ∈ Policy.requests .play)
    (chosen : IsPullOf request pull) : Pool.Has cards pull.admits := by
  have rare : Pool.Has cards fun c => c.hasRarity .rare || c.hasRarity .mythic :=
    complete.rareOrMythic
  have wild {pools : List Partition} {foil : Bool} (whole : .every .any ∈ pools) :
      Pool.Has cards (Pull.admits ⟨pools, [], foil⟩) := by
    rw [Pull.admits_every whole]
    exact has_every complete
  have normal {r : Rarity} {foil : Bool} (has : Pool.Has cards (·.hasRarity r)) :
      Pool.Has cards (Pull.admits ⟨Policy.normalFirst r, [], foil⟩) := by
    rw [Pull.admits_normalFirst]
    exact has
  simp only [Policy.requests, List.mem_cons, List.not_mem_nil, or_false] at member
  rcases chosen with rfl | ⟨upgrade, upgraded, rfl⟩
  · rcases member with rfl | rfl | rfl | rfl | rfl | rfl
    · exact normal complete.common
    · exact normal complete.uncommon
    · rw [Pull.admits_normalFirst_either]
      exact rare
    · exact wild (by decide)
    · exact wild (by decide)
    · exact normal complete.common
  · rcases member with rfl | rfl | rfl | rfl | rfl | rfl
    · cases upgraded
    · cases upgraded
    · cases upgraded
    · cases upgraded
      exact wild (by decide)
    · cases upgraded
      exact wild (by decide)
    · cases upgraded

theorem has_admits_legacy (member : request ∈ Policy.requests .legacy)
    (chosen : IsPullOf request pull) : Pool.Has cards pull.admits := by
  simp only [Policy.requests, List.mem_cons, List.not_mem_nil, or_false] at member
  rcases chosen with rfl | ⟨upgrade, upgraded, rfl⟩
  · rcases member with rfl | rfl | rfl | rfl
    · rw [Pull.admits_anyRarity_withMythics]
      exact complete.common.mono fun c common => by simp [common]
    · rw [Policy.plain, Pull.admits_anyRarity_either]
      exact complete.common.mono fun c common => by simp [common]
    · rw [Policy.plain, Pull.admits_anyRarity]
      exact complete.common
    · rw [Pull.admits_anyRarity]
      exact complete.common
  · rcases member with rfl | rfl | rfl | rfl
    · cases upgraded
    · cases upgraded
    · cases upgraded
    · cases upgraded
      rw [Pull.admits_every List.mem_cons_self]
      exact has_every complete

/-- Every pull of a policy has a candidate in a complete pool. -/
theorem candidates_ne_nil {policy : Policy} (member : request ∈ policy.requests)
    (chosen : IsPullOf request pull) : pull.candidates cards ≠ [] := by
  have found : Pool.Has cards pull.admits := by
    cases policy with
    | collector => exact has_admits_collector complete member chosen
    | play => exact has_admits_play complete member chosen
    | legacy => exact has_admits_legacy complete member chosen
  rw [ne_eq, Pull.candidates_eq_nil_iff]
  rw [Pool.has_iff_stock] at found
  omega

/-- A pack from a complete pool follows the requests of its policy, place by place. -/
theorem follows_pullPolicy {σ : Type} [Source σ] (source : σ) (policy : Policy) :
    Follows cards (singlePulls policy) (rollAt cards (singlePulls policy) [] source)
      (cardsOf ((pullPolicy cards policy).run source).1.outcomes) := by
  have path := yields_run (pullPolicy cards policy) source
  have placed : ∀ outcome ∈ ((pullPolicy cards policy).run source).1.outcomes,
      outcome.card ≠ none := by
    intro outcome member skipped
    obtain ⟨k, there⟩ := List.mem_iff_getElem?.1 member
    obtain ⟨request, asked, answers⟩ := pullAll_answers path there
    have listed := mem_requests_of_mem_singlePulls (List.mem_of_getElem? asked)
    exact candidates_ne_nil complete listed answers.chosen (answers.skipped skipped)
  constructor
  · rw [← length_outcomes path]
    refine List.filterMap_length_eq_length.2 fun outcome member => ?_
    exact Option.isSome_iff_ne_none.2 (placed outcome member)
  · intro k request asked
    obtain ⟨outcome, there, pull⟩ := pull_at cards [] source asked
    obtain ⟨_, _, answers⟩ := pullAll_answers path there
    obtain ⟨drawn, card⟩ :=
      Option.ne_none_iff_exists'.1 (placed outcome (List.mem_of_getElem? there))
    refine ⟨drawn, ?_, pull ▸ answers.places drawn card⟩
    rw [getElem?_cardsOf placed]
    exact (congrArg (Option.bind · Outcome.card) there).trans card

end Complete

section Pulls

variable {drawn : DrawnCard} {r s : Rarity} {frame : RareFrame} {foil : Bool} {request : Request}

theorem places_altFirst (places : Pull.Places cards ⟨Policy.altFirst r, [], foil⟩ drawn) :
    drawn.card.hasRarity r = true ∧
      (Pool.Has cards (fun c => c.isAltArt && c.hasRarity r) → drawn.card.isAltArt = true) :=
  (Pool.mem_altFirst.1 places.candidate).2

/-- A rare or mythic pull takes the art that its own rarity prefers. -/
theorem places_altFirst_either
    (places : Pull.Places cards ⟨Policy.altFirst r, Policy.altFirst s, foil⟩ drawn) :
    (drawn.card.hasRarity r = true ∧
      (Pool.Has cards (fun c => c.isAltArt && c.hasRarity r) → drawn.card.isAltArt = true)) ∨
    (drawn.card.hasRarity s = true ∧
      (Pool.Has cards (fun c => c.isAltArt && c.hasRarity s) → drawn.card.isAltArt = true)) := by
  rcases List.mem_append.1 places.candidate with rare | mythic
  · exact Or.inl (Pool.mem_altFirst.1 rare).2
  · exact Or.inr (Pool.mem_altFirst.1 mythic).2

theorem places_special (special : frame ≠ .normal)
    (places : Pull.Places cards (Policy.special frame foil).pull drawn) :
    drawn.card.isRareOrMythic = true ∧
      (Pool.Has cards (fun c => frame.admits c && c.isRareOrMythic) →
        frame.admits drawn.card = true) ∧
      (Pool.Has cards (fun c => c.isAltArt && c.isRareOrMythic) → drawn.card.isAltArt = true) :=
  ((Pool.mem_special special).1 places.candidate).2

/-- A card of one rarity has the art that this rarity prefers, under whatever name the rarity is
asked for. -/
theorem altArt_of_rarity (art : drawn.card.hasRarity r = true ∧
      (Pool.Has cards (fun c => c.isAltArt && c.hasRarity r) → drawn.card.isAltArt = true)) :
    (∃ r, drawn.card.hasRarity r = true) ∧ ∀ s, drawn.card.hasRarity s = true →
      Pool.Has cards (fun c => c.isAltArt && c.hasRarity s) → drawn.card.isAltArt = true := by
  refine ⟨⟨r, art.1⟩, fun s also has => ?_⟩
  rw [← Card.eq_of_hasRarity art.1 also] at has
  exact art.2 has

theorem altArt_of_special (special : frame ≠ .normal)
    (places : Pull.Places cards (Policy.special frame foil).pull drawn) :
    (∃ r, drawn.card.hasRarity r = true) ∧ ∀ s, drawn.card.hasRarity s = true →
      Pool.Has cards (fun c => c.isAltArt && c.hasRarity s) → drawn.card.isAltArt = true := by
  obtain ⟨rareOrMythic, _, art⟩ := places_special special places
  have either := Bool.or_eq_true_iff.1 rareOrMythic
  refine ⟨either.elim (⟨_, ·⟩) (⟨_, ·⟩), fun s also has => art (has.mono fun c kind => ?_)⟩
  obtain ⟨alt, rarity⟩ := Bool.and_eq_true_iff.1 kind
  -- the rarity of the drawn card is that of the stocked one
  have known : s = .rare ∨ s = .mythic := by
    rcases either with rare | mythic
    · exact Or.inl (Card.eq_of_hasRarity also rare)
    · exact Or.inr (Card.eq_of_hasRarity also mythic)
  unfold Card.isRareOrMythic
  rcases known with rfl | rfl <;> simp [alt, rarity]

/-- Collector packs know the four rarities alone, and prefer alternate art of each of them. -/
theorem altArt_of_collector (member : request ∈ Policy.requests .collector)
    (places : request.pull.Places cards drawn) :
    (∃ r, drawn.card.hasRarity r = true) ∧ ∀ s, drawn.card.hasRarity s = true →
      Pool.Has cards (fun c => c.isAltArt && c.hasRarity s) → drawn.card.isAltArt = true := by
  simp only [Policy.requests, List.mem_cons, List.not_mem_nil, or_false] at member
  rcases member with rfl | rfl | rfl | rfl | rfl | rfl | rfl | rfl
  · exact altArt_of_rarity (places_altFirst places)
  · exact altArt_of_rarity (places_altFirst places)
  · exact altArt_of_rarity (places_altFirst places)
  · exact (places_altFirst_either places).elim altArt_of_rarity altArt_of_rarity
  · exact (places_altFirst_either places).elim altArt_of_rarity altArt_of_rarity
  · exact altArt_of_special (by decide) places
  · exact altArt_of_special (by decide) places
  · exact altArt_of_rarity (places_altFirst places)

theorem upgrade_of_collector (member : request ∈ Policy.requests .collector) :
    request.upgrade = none := by
  have plain : ∀ r ∈ Policy.requests .collector, r.upgrade.isNone = true := by
    simp [Policy.requests, Policy.plain, Policy.collectorRare, Policy.special]
  exact Option.isNone_iff_eq_none.1 (plain request member)

/-- The normal frame of its own rarity, where the pool has it. -/
theorem places_normalFirst (places : Pull.Places cards ⟨Policy.normalFirst r, [], foil⟩ drawn) :
    drawn.card.hasRarity r = true ∧
      (Pool.Has cards (fun c => !c.isAltArt && c.rarity == drawn.card.rarity) →
        drawn.card.isAltArt = false) := by
  obtain ⟨_, rarity, frame⟩ := Pool.mem_normalFirst.1 places.candidate
  refine ⟨rarity, fun has => frame ?_⟩
  rwa [eq_of_beq rarity] at has

theorem places_normalFirst_either
    (places : Pull.Places cards ⟨Policy.normalFirst r, Policy.normalFirst s, foil⟩ drawn) :
    (drawn.card.hasRarity r = true ∨ drawn.card.hasRarity s = true) ∧
      (Pool.Has cards (fun c => !c.isAltArt && c.rarity == drawn.card.rarity) →
        drawn.card.isAltArt = false) := by
  rcases List.mem_append.1 places.candidate with rare | mythic
  · have fits : Pull.Places cards ⟨Policy.normalFirst r, [], foil⟩ drawn :=
      ⟨rare, places.foil, places.altArt⟩
    exact ⟨Or.inl (places_normalFirst fits).1, (places_normalFirst fits).2⟩
  · have fits : Pull.Places cards ⟨Policy.normalFirst s, [], foil⟩ drawn :=
      ⟨mythic, places.foil, places.altArt⟩
    exact ⟨Or.inr (places_normalFirst fits).1, (places_normalFirst fits).2⟩

theorem places_anyRarity (places : Pull.Places cards ⟨[.rarity .any r], [], foil⟩ drawn) :
    drawn.card.hasRarity r = true := by
  have there := Pool.mem_part.1 (Pool.mem_firstStocked_singleton.1 places.candidate)
  rw [← Pull.rarity_any_admits]
  exact there.2

/-- Behind the first rarity of a chain the second stands in where the pool has none of the
first. -/
theorem hasRarity_of_mem_anyRarity_either {card : Card}
    (member : card ∈ Pool.firstStocked cards [.rarity .any r, .rarity .any s]) :
    card.hasRarity (if Pool.Has cards (·.hasRarity r) then r else s) = true := by
  have kind : (Partition.rarity .any r).admits = fun c => c.hasRarity r :=
    funext (Pull.rarity_any_admits r)
  obtain ⟨there, either, preferred⟩ := Pool.mem_firstStocked_pair.1 member
  rw [kind] at either preferred
  rw [Pull.rarity_any_admits, Bool.or_eq_true] at either
  split
  · next has => exact preferred has
  · next missing => exact either.resolve_left fun first => missing ⟨card, there, first⟩

end Pulls

section Layouts

variable {roll : Nat → Float} {pack : List DrawnCard}

/-- A place for a frame takes the frame where the pool has it, and else prefers alternate art. -/
theorem special_of_follows {requests : List Request}
    (follows : Follows cards requests roll pack) (frame : RareFrame) (foil : Bool) (i : Nat)
    (special : frame ≠ .normal)
    (asked : requests[i]?.map (fun request => (request.pull, request.upgrade.isNone)) =
      some ((Policy.special frame foil).pull, true)) :
    Holds pack [i] fun drawn =>
      if Pool.Has cards fun c => frame.admits c && c.isRareOrMythic then
        frame.admits drawn.card = true
      else Pool.Has cards (fun c => c.isAltArt && c.isRareOrMythic) →
        drawn.card.isAltArt = true := by
  refine follows.holds_same (Policy.special frame foil).pull ?_ ?_
  · intro j member
    rw [List.mem_singleton.1 member]
    exact asked
  · intro drawn places
    obtain ⟨_, framed, art⟩ := places_special special places
    split
    · next has => exact framed has
    · exact art

theorem collectorLayout_of_follows (follows : Follows cards (singlePulls .collector) roll pack) :
    CollectorLayout cards pack := by
  have size : pack.length = 15 := follows.size
  refine ⟨size, ?_, ?_, ?_, ?_, ?_, ?_, ?_⟩
  · refine follows.holds_same ⟨Policy.altFirst .common, [], true⟩ (by decide) ?_
    intro drawn places
    exact (places_altFirst places).1
  · refine follows.holds [⟨Policy.altFirst .uncommon, [], true⟩,
      ⟨Policy.altFirst .uncommon, [], false⟩] (by decide) ?_
    intro pull member drawn places
    simp only [List.mem_cons, List.not_mem_nil, or_false] at member
    rcases member with rfl | rfl
    · exact (places_altFirst places).1
    · exact (places_altFirst places).1
  · refine follows.holds [(Policy.collectorRare false).pull, (Policy.collectorRare true).pull,
      (Policy.special .extended false).pull, (Policy.special .showcase true).pull] (by decide) ?_
    intro pull member drawn places
    simp only [List.mem_cons, List.not_mem_nil, or_false] at member
    unfold Card.isRareOrMythic
    rw [Bool.or_eq_true]
    rcases member with rfl | rfl | rfl | rfl
    · exact (places_altFirst_either places).imp And.left And.left
    · exact (places_altFirst_either places).imp And.left And.left
    · exact Bool.or_eq_true_iff.1 (places_special (by decide) places).1
    · exact Bool.or_eq_true_iff.1 (places_special (by decide) places).1
  · intro i drawn there
    exact follows.foil_iff [0, 1, 2, 3, 8, 9, 11, 12, 13, 14] (by decide) there
  · intro drawn member
    obtain ⟨i, there⟩ := List.mem_iff_getElem?.1 member
    obtain ⟨request, asked, places⟩ := follows.places_of_getElem? there
    have listed := mem_requests_of_mem_singlePulls (List.mem_of_getElem? asked)
    have chosen : request.chosen (roll i) = request.pull := by
      unfold Request.chosen
      rw [upgrade_of_collector listed]
    exact (altArt_of_collector listed (chosen ▸ places)).2
  · exact special_of_follows follows .extended false 10 (by decide) (by decide)
  · exact special_of_follows follows .showcase true 11 (by decide) (by decide)

/-- A wildcard takes what its roll prefers: alternate art below the chance, else normal frames. -/
theorem wildcard_of_follows {requests : List Request} (follows : Follows cards requests roll pack)
    {i : Nat} {chance : Float} {foil : Bool}
    (asked : requests[i]? = some (Policy.wildcard chance foil)) :
    Holds pack [i] fun drawn =>
      if roll i < chance then Pool.Has cards Card.isAltArt → drawn.card.isAltArt = true
      else Pool.Has cards (fun c => !c.isAltArt) → drawn.card.isAltArt = false := by
  intro j member
  cases List.mem_singleton.1 member
  obtain ⟨drawn, there, places⟩ := follows.placed i _ asked
  refine ⟨drawn, there, ?_⟩
  have candidate := places.candidate
  unfold Request.chosen Policy.wildcard at candidate
  dsimp only at candidate
  split
  · next below =>
    rw [if_pos below] at candidate
    exact (Pool.mem_anyAltFirst.1 candidate).2
  · next above =>
    rw [if_neg above] at candidate
    exact (Pool.mem_anyNormalFirst.1 candidate).2

theorem playLayout_of_follows (follows : Follows cards (singlePulls .play) roll pack) :
    PlayLayout cards roll pack := by
  have size : pack.length = 14 := follows.size
  refine ⟨size, ?_, ?_, ?_, ?_, ?_, ?_⟩
  · refine follows.holds_same ⟨Policy.normalFirst .common, [], false⟩ (by decide) ?_
    intro drawn places
    exact (places_normalFirst places).1
  · refine follows.holds_same ⟨Policy.normalFirst .uncommon, [], false⟩ (by decide) ?_
    intro drawn places
    exact (places_normalFirst places).1
  · refine follows.holds_same ⟨Policy.normalFirst .rare, Policy.normalFirst .mythic, false⟩
      (by decide) ?_
    intro drawn places
    exact Bool.or_eq_true_iff.2 (places_normalFirst_either places).1
  · intro i drawn there
    rw [follows.foil_iff [11] (by decide) there, List.mem_singleton]
  · refine follows.holds [⟨Policy.normalFirst .common, [], false⟩,
      ⟨Policy.normalFirst .uncommon, [], false⟩,
      ⟨Policy.normalFirst .rare, Policy.normalFirst .mythic, false⟩] (by decide) ?_
    intro pull member drawn places
    simp only [List.mem_cons, List.not_mem_nil, or_false] at member
    rcases member with rfl | rfl | rfl
    · exact (places_normalFirst places).2
    · exact (places_normalFirst places).2
    · exact (places_normalFirst_either places).2
  · intro place member
    simp only [List.mem_cons, List.not_mem_nil, or_false] at member
    rcases member with rfl | rfl
    · exact wildcard_of_follows follows rfl
    · exact wildcard_of_follows follows rfl

theorem legacyLayout_of_follows (uncommon : Pool.Has cards (·.hasRarity .uncommon))
    (follows : Follows cards (singlePulls .legacy) roll pack) :
    LegacyLayout cards roll pack := by
  have size : pack.length = 15 := follows.size
  have asked : (singlePulls .legacy)[14]? = some lastOfLegacy := rfl
  have chosen : lastOfLegacy.chosen (roll 14) =
      if roll 14 < 0.25 then foilOfLegacy.pull else lastOfLegacy.pull := rfl
  refine ⟨size, ?_, ?_, ?_, ?_, ?_⟩
  · refine follows.holds_same
      ⟨[.rarity .any .rare, .rarity .any .common], [.rarity .any .mythic], false⟩ (by decide) ?_
    intro drawn places
    rcases List.mem_append.1 places.candidate with rare | mythic
    · exact Or.inr (hasRarity_of_mem_anyRarity_either rare)
    · have there := Pool.mem_part.1 (Pool.mem_firstStocked_singleton.1 mythic)
      rw [Pull.rarity_any_admits] at there
      exact Or.inl there.2
  · refine follows.holds_same ⟨[.rarity .any .uncommon, .rarity .any .common], [], false⟩
      (by decide) ?_
    intro drawn places
    have rarity := hasRarity_of_mem_anyRarity_either places.candidate
    rwa [if_pos uncommon] at rarity
  · refine follows.holds_same ⟨[.rarity .any .common], [], false⟩ (by decide) ?_
    intro drawn places
    exact places_anyRarity places
  · intro i member
    cases List.mem_singleton.1 member
    obtain ⟨drawn, there, places⟩ := follows.placed 14 _ asked
    refine ⟨drawn, there, ?_⟩
    by_cases below : roll 14 < 0.25
    · exact Or.inl below
    · rw [chosen, if_neg below] at places
      exact Or.inr (places_anyRarity places)
  · intro i drawn there
    have table : ∀ i < 14, (singlePulls .legacy)[i]?.map (fun request =>
        (request.pull.foil, keepsFoil request)) = some (false, true) := by
      decide
    have inside := (List.getElem?_eq_some_iff.1 there).1
    rw [size] at inside
    by_cases last : i = 14
    · subst last
      obtain ⟨request, found, places⟩ := follows.places_of_getElem? there
      rw [asked] at found
      cases found
      rw [places.foil, chosen]
      by_cases below : roll 14 < 0.25
      · simp [below, foilOfLegacy]
      · simp [below, lastOfLegacy]
    · rw [follows.foil_eq (table i (by omega)) there]
      simp [last]

end Layouts

/-- The layout of built-in packs. From a complete pool, every name and date and every source give a
pack with the layout of the policy that they select, of usable cards each with its own art. -/
theorem builtin_pack_layout {σ : Type} [Source σ] (source : σ) (cards : List Card) (name : Text)
    (date : Option Text) (complete : Pool.IsComplete cards) :
    let policy := Policy.select name date
    let pack := cardsOf ((assemble cards policy).run source).1
    HasLayout cards (rollAt cards (singlePulls policy) [] source) pack policy ∧
      ∀ drawn ∈ pack, drawn.card ∈ Pool.usable cards ∧ drawn.altArt = drawn.card.isAltArt := by
  intro policy pack
  have taken : pack = cardsOf ((pullPolicy cards policy).run source).1.outcomes :=
    congrArg (fun run => cardsOf run.1) (run_bind _ _ source)
  have follows := follows_pullPolicy complete source policy
  rw [← taken] at follows
  constructor
  · clear_value policy pack
    cases policy with
    | collector => exact collectorLayout_of_follows follows
    | play => exact playLayout_of_follows follows
    | legacy => exact legacyLayout_of_follows complete.uncommon follows
  · intro drawn member
    obtain ⟨i, there⟩ := List.mem_iff_getElem?.1 member
    obtain ⟨_, _, places⟩ := follows.places_of_getElem? there
    exact ⟨Pull.mem_usable_of_mem_candidates places.candidate, places.altArt⟩

/-- One alternate-art rare decides the art of the rares and of the places behind them. -/
theorem builtin_pack_layout_lone_showcase :
    let card (id rarity : Text) : Card := ⟨id, "", "s", none, rarity, false, none, none, false, []⟩
    let cards := [card "a" "common", card "b" "uncommon", card "c" "rare",
      { card "d" "rare" with frameEffects := ["showcase"] }, card "e" "mythic"]
    let source : Script := ⟨[0.5, 0.1], 0.5, [0, 0, 0, 0, 0, 0, 1]⟩
    Pool.IsComplete cards ∧
    CollectorLayout cards
      (cardsOf ((assemble cards (Policy.select "collector" none)).run source).1) := by
  intro card cards source
  have complete : Pool.IsComplete cards :=
    ⟨by decide +kernel, by decide +kernel, by decide +kernel⟩
  exact ⟨complete, (builtin_pack_layout source cards "collector" none complete).1⟩

end BuiltinPack
end PackOpening
