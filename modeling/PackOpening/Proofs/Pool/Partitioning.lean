import Mathlib.Logic.ExistsUnique
import PackOpening.Proofs.Pool.Chain

/-!
The parts of a pool, by their names, and how they make it up.

Every part is the subsequence of the usable cards of one kind. So two parts whose kinds exclude
each other interleave to the part of the cards of either kind: the two kinds of art make up all
cards, and within a rarity, or within rares and mythics, those of the rarity. The usable cards of a
pool have no unusable ones among them, so parting them again gives the same parts.
-/
namespace PackOpening

/-- The third list consists of the first two, each of them in its own order. -/
inductive Interleaves {α : Type} : List α → List α → List α → Prop where
  | nil : Interleaves [] [] []
  | left {first second whole : List α} (a : α) (rest : Interleaves first second whole) :
      Interleaves (a :: first) second (a :: whole)
  | right {first second whole : List α} (a : α) (rest : Interleaves first second whole) :
      Interleaves first (a :: second) (a :: whole)

/-- The elements of a kind that lack a property and those that have it interleave to the kind. -/
theorem interleaves_filter {α : Type} (property kind : α → Bool) (l : List α) :
    Interleaves (l.filter fun a => !property a && kind a) (l.filter fun a => property a && kind a)
      (l.filter kind) := by
  induction l with
  | nil => exact .nil
  | cons a rest ih =>
    cases of : kind a with
    | false => simpa [of] using ih
    | true =>
      cases has : property a with
      | false => simpa [of, has] using .left a ih
      | true => simpa [of, has] using .right a ih

/-- Whether a card is of the normal frame or of alternate art. -/
def Card.art (card : Card) : Art := if card.isAltArt then .alt else .normal

theorem Card.art_ne_any (card : Card) : card.art ≠ .any := by
  unfold art
  split <;> simp

/-- Of the two kinds of art a card has one. -/
theorem Art.admits_iff {art : Art} {card : Card} (one : art ≠ .any) :
    art.admits card = true ↔ art = card.art := by
  cases art with
  | any => exact absurd rfl one
  | normal => cases shown : card.isAltArt <;> simp [admits, Card.art, shown]
  | alt => cases shown : card.isAltArt <;> simp [admits, Card.art, shown]

/-- The names of the eight parts that hold one rarity in one kind of art. -/
def artRarityNames : List Text :=
  Rarity.all.flatMap fun r => ["normal_" ++ r.name, "alt_" ++ r.name]

theorem mem_artRarityNames {name : Text} :
    name ∈ artRarityNames ↔ ∃ art r, art ≠ Art.any ∧ name = (Partition.rarity art r).name := by
  unfold artRarityNames
  simp only [List.mem_flatMap, List.mem_cons, List.not_mem_nil, or_false]
  constructor
  · rintro ⟨r, _, rfl | rfl⟩
    · exact ⟨.normal, r, by simp, rfl⟩
    · exact ⟨.alt, r, by simp, rfl⟩
  · rintro ⟨art, r, one, rfl⟩
    refine ⟨r, by cases r <;> simp [Rarity.all], ?_⟩
    cases art with
    | any => exact absurd rfl one
    | normal => exact Or.inl rfl
    | alt => exact Or.inr rfl

namespace Pool

variable {cards : List Card} {card : Card}

/-- Under the name of a part stand its cards. -/
theorem of_parts (cards : List Card) (p : Partition) :
    (parts cards).of p.name = part cards p := by
  cases p with
  | every art => cases art <;> rfl
  | rarity art r => cases art <;> cases r <;> rfl
  | rareOrMythic frame => cases frame <;> rfl

theorem part_every_any (cards : List Card) : part cards (.every .any) = usable cards :=
  List.filter_eq_self.2 fun _ _ => rfl

theorem usable_usable (cards : List Card) : usable (usable cards) = usable cards :=
  List.filter_eq_self.2 fun _ there => (List.mem_filter.1 there).2

/-- The parts of the usable cards are those of the pool. -/
theorem parts_usable (cards : List Card) : parts (usable cards) = parts cards := by
  simp only [parts, part, usable_usable]

/-- A part holds a card as often as the pool does. -/
theorem count_part {p : Partition} (there : card ∈ part cards p) :
    (part cards p).count card = cards.count card := by
  obtain ⟨inUsable, admitted⟩ := mem_part.1 there
  have usableCard := (mem_usable.1 inUsable).2
  rw [part, List.count_filter admitted, usable, List.count_filter usableCard]

theorem mem_part_rarity {art : Art} {r : Rarity} (one : art ≠ .any) :
    card ∈ part cards (.rarity art r) ↔
      card ∈ usable cards ∧ art = card.art ∧ card.hasRarity r = true := by
  rw [mem_part, ← Art.admits_iff one, ← Bool.and_eq_true_iff]
  rfl

/-- The usable cards of a kind, parted by their art. -/
theorem interleaves_art (cards : List Card) (kind : Card → Bool) :
    Interleaves ((usable cards).filter fun c => !c.isAltArt && kind c)
      ((usable cards).filter fun c => c.isAltArt && kind c) ((usable cards).filter kind) :=
  interleaves_filter Card.isAltArt kind (usable cards)

/-- A part that admits what another does and that is of a kind is the other's cards of the kind. -/
theorem part_eq_filter {p whole : Partition} {kind : Card → Bool}
    (narrower : ∀ c, p.admits c = (kind c && whole.admits c)) :
    part cards p = (part cards whole).filter kind := by
  rw [part, part, List.filter_filter]
  exact List.filter_congr fun c _ => narrower c

theorem part_rarity (cards : List Card) (art : Art) (r : Rarity) :
    part cards (.rarity art r) = (part cards (.every art)).filter (·.hasRarity r) :=
  part_eq_filter fun _ => Bool.and_comm _ _

/-- The rares and mythics of a special frame are those of alternate art that have the frame. -/
theorem part_special (cards : List Card) {frame : RareFrame} (special : frame ≠ .normal) :
    part cards (.rareOrMythic frame) = (part cards (.rareOrMythic .alt)).filter frame.admits := by
  refine part_eq_filter fun c => ?_
  cases framed : frame.admits c with
  | false => simp [Partition.admits, framed]
  | true =>
    have alt : RareFrame.alt.admits c = true := RareFrame.isAltArt_of_admits special framed
    simp only [Partition.admits, framed, alt, Bool.true_and]

theorem firstStocked_ne_nil_iff {chain : List Partition} :
    firstStocked cards chain ≠ [] ↔ Has cards fun c => chain.any (·.admits c) := by
  rw [Ne, firstStocked_eq_nil_iff]
  simp [Has]

/-- A special chain leads to a card exactly in a pool with a usable rare or mythic. -/
theorem firstStocked_special_ne_nil_iff (cards : List Card) (frame : RareFrame) (foil : Bool) :
    firstStocked cards (Policy.special frame foil).pull.pools ≠ [] ↔
      Has cards Card.isRareOrMythic := by
  have admitted : (fun c => (Policy.special frame foil).pull.pools.any (·.admits c)) =
      Card.isRareOrMythic := by
    funext c
    have chain : (Policy.special frame foil).pull.admits c = _ := congrFun Pull.admits_special c
    simpa [Pull.admits, Policy.special, Policy.plain, Card.isRareOrMythic] using chain
  rw [firstStocked_ne_nil_iff, admitted]

/-- The requests of a collector pack that name rares and mythics together are the special ones. -/
theorem exists_special_of_mem {request : Request} {frame : RareFrame}
    (member : request ∈ Policy.collector.requests)
    (named : .rareOrMythic frame ∈ request.pull.pools) :
    ∃ frame foil, request = Policy.special frame foil := by
  simp only [Policy.requests, List.mem_cons, List.not_mem_nil, or_false] at member
  rcases member with rfl | rfl | rfl | rfl | rfl | rfl | rfl | rfl
  · simp [Policy.plain, Policy.altFirst] at named
  · simp [Policy.plain, Policy.altFirst] at named
  · simp [Policy.plain, Policy.altFirst] at named
  · simp [Policy.collectorRare, Policy.altFirst] at named
  · simp [Policy.collectorRare, Policy.altFirst] at named
  · exact ⟨.extended, false, rfl⟩
  · exact ⟨.showcase, true, rfl⟩
  · simp [Policy.plain, Policy.altFirst] at named

end Pool

/-- How the named parts of a pool make it up. -/
structure PartsPool (cards : List Card) (parts : SetPools) : Prop where
  /-- The cards that are enabled and no basic lands, in the order of the pool. -/
  all_eq : parts.of "all" = cards.filter fun c => !c.disabled && !c.isBasicLand
  /-- The two kinds of art make up all cards. -/
  interleaves_art : Interleaves (parts.of "normal") (parts.of "alt") (parts.of "all")
  mem_normal_iff : ∀ c, c ∈ parts.of "normal" ↔ c ∈ parts.of "all" ∧ c.isAltArt = false
  mem_alt_iff : ∀ c, c ∈ parts.of "alt" ↔ c ∈ parts.of "all" ∧ c.isAltArt = true
  /-- Under the name of a rarity stand its cards, and behind that of an art those of the art. -/
  of_rarity_eq : ∀ r : Rarity, parts.of r.name = (parts.of "all").filter (·.rarity == r.name)
  of_normal_rarity_eq : ∀ r : Rarity,
    parts.of ("normal_" ++ r.name) = (parts.of "normal").filter (·.rarity == r.name)
  of_alt_rarity_eq : ∀ r : Rarity,
    parts.of ("alt_" ++ r.name) = (parts.of "alt").filter (·.rarity == r.name)
  /-- The two kinds of art make up each rarity. -/
  interleaves_rarity : ∀ r : Rarity,
    Interleaves (parts.of ("normal_" ++ r.name)) (parts.of ("alt_" ++ r.name)) (parts.of r.name)
  /-- A card of a rarity lies in one of the eight parts of a rarity and an art, as often as in the
  pool. -/
  exists_unique : ∀ c ∈ parts.of "all", ∀ r : Rarity, c.hasRarity r = true →
    ∃! name, name ∈ artRarityNames ∧ c ∈ parts.of name
  count_eq : ∀ name ∈ artRarityNames, ∀ c ∈ parts.of name,
    (parts.of name).count c = cards.count c
  /-- Nothing else lies in the eight parts. -/
  of_mem : ∀ name ∈ artRarityNames, ∀ c ∈ parts.of name,
    c ∈ parts.of "all" ∧ ∃ r : Rarity, c.hasRarity r = true
  /-- The joined parts hold rares and mythics only, and all those of their art or frame. -/
  of_normal_rareOrMythic_eq :
    parts.of "normal_rare_mythic" = (parts.of "normal").filter Card.isRareOrMythic
  of_alt_rareOrMythic_eq : parts.of "alt_rare_mythic" = (parts.of "alt").filter Card.isRareOrMythic
  of_extended_eq : parts.of "extended_rare_mythic" =
    (parts.of "alt_rare_mythic").filter Card.isExtendedOrBorderless
  of_showcase_eq : parts.of "showcase_rare_mythic" =
    (parts.of "alt_rare_mythic").filter Card.isShowcaseOrBorderless
  /-- The two kinds of art make up the rares and mythics. -/
  interleaves_rareOrMythic :
    Interleaves (parts.of "normal_rare_mythic") (parts.of "alt_rare_mythic")
      ((parts.of "all").filter Card.isRareOrMythic)
  extended_sublist : (parts.of "extended_rare_mythic").Sublist (parts.of "alt_rare_mythic")
  showcase_sublist : (parts.of "showcase_rare_mythic").Sublist (parts.of "alt_rare_mythic")

namespace Pool

/-- One of the eight parts of a rarity and an art holds the card: that of its own. -/
theorem exists_unique_artRarity {r : Rarity} (there : card ∈ usable cards)
    (rarity : card.hasRarity r = true) :
    ∃! name, name ∈ artRarityNames ∧ card ∈ (parts cards).of name := by
  refine ⟨(Partition.rarity card.art r).name, ⟨?_, ?_⟩, ?_⟩
  · exact mem_artRarityNames.2 ⟨card.art, r, card.art_ne_any, rfl⟩
  · rw [of_parts]
    exact (mem_part_rarity card.art_ne_any).2 ⟨there, rfl, rarity⟩
  · rintro name ⟨listed, member⟩
    obtain ⟨art, other, one, rfl⟩ := mem_artRarityNames.1 listed
    rw [of_parts] at member
    obtain ⟨_, rfl, also⟩ := (mem_part_rarity one).1 member
    rw [Card.eq_of_hasRarity also rarity]

theorem parts_partsPool (cards : List Card) : PartsPool cards (parts cards) := by
  have all : (parts cards).of "all" = usable cards :=
    (of_parts cards (.every .any)).trans (part_every_any cards)
  have normal : (parts cards).of "normal" = part cards (.every .normal) :=
    of_parts cards (.every .normal)
  have alt : (parts cards).of "alt" = part cards (.every .alt) := of_parts cards (.every .alt)
  have ofRarity (r : Rarity) :
      (parts cards).of r.name = (usable cards).filter (·.hasRarity r) := by
    rw [← part_every_any, ← part_rarity]
    exact of_parts cards (.rarity .any r)
  have ofNormalRarity (r : Rarity) :
      (parts cards).of ("normal_" ++ r.name) = part cards (.rarity .normal r) :=
    of_parts cards (.rarity .normal r)
  have ofAltRarity (r : Rarity) :
      (parts cards).of ("alt_" ++ r.name) = part cards (.rarity .alt r) :=
    of_parts cards (.rarity .alt r)
  have altRares : (parts cards).of "alt_rare_mythic" = part cards (.rareOrMythic .alt) :=
    of_parts cards (.rareOrMythic .alt)
  have extended : (parts cards).of "extended_rare_mythic" =
      ((parts cards).of "alt_rare_mythic").filter Card.isExtendedOrBorderless := by
    rw [altRares]
    exact (of_parts cards (.rareOrMythic .extended)).trans (part_special cards (by decide))
  have showcase : (parts cards).of "showcase_rare_mythic" =
      ((parts cards).of "alt_rare_mythic").filter Card.isShowcaseOrBorderless := by
    rw [altRares]
    exact (of_parts cards (.rareOrMythic .showcase)).trans (part_special cards (by decide))
  exact {
    all_eq := all
    interleaves_art := by
      have parted := interleaves_art cards fun _ => true
      simp only [Bool.and_true] at parted
      rw [normal, alt, all, ← part_every_any]
      exact parted
    mem_normal_iff := by
      intro c
      rw [normal, all, mem_part]
      simp [Partition.admits, Art.admits]
    mem_alt_iff := by
      intro c
      rw [alt, all, mem_part]
      simp [Partition.admits, Art.admits]
    of_rarity_eq := by
      intro r
      rw [ofRarity, all]
      rfl
    of_normal_rarity_eq := by
      intro r
      rw [ofNormalRarity, normal]
      exact part_rarity cards .normal r
    of_alt_rarity_eq := by
      intro r
      rw [ofAltRarity, alt]
      exact part_rarity cards .alt r
    interleaves_rarity := by
      intro r
      rw [ofNormalRarity, ofAltRarity, ofRarity]
      exact interleaves_art cards (·.hasRarity r)
    exists_unique := by
      intro c there r rarity
      rw [all] at there
      exact exists_unique_artRarity there rarity
    count_eq := by
      intro name listed c member
      obtain ⟨art, r, one, rfl⟩ := mem_artRarityNames.1 listed
      rw [of_parts] at member ⊢
      exact count_part member
    of_mem := by
      intro name listed c member
      obtain ⟨art, r, one, rfl⟩ := mem_artRarityNames.1 listed
      rw [of_parts] at member
      obtain ⟨there, _, rarity⟩ := (mem_part_rarity one).1 member
      exact ⟨all ▸ there, r, rarity⟩
    of_normal_rareOrMythic_eq := by
      rw [normal]
      refine (of_parts cards (.rareOrMythic .normal)).trans (part_eq_filter fun _ => ?_)
      exact Bool.and_comm _ _
    of_alt_rareOrMythic_eq := by
      rw [altRares, alt]
      exact part_eq_filter fun _ => Bool.and_comm _ _
    of_extended_eq := extended
    of_showcase_eq := showcase
    interleaves_rareOrMythic := by
      rw [all]
      exact interleaves_art cards Card.isRareOrMythic
    extended_sublist := extended ▸ List.filter_sublist
    showcase_sublist := showcase ▸ List.filter_sublist }

/-- The parts of any pool make it up: each kind of art is an ordered part of all usable cards, of
each rarity and of the rares and mythics, and every usable card of a rarity lies in one of the eight
parts of a rarity and an art, as often as in the pool. So a special chain of a collector pack leads
to a card exactly if some usable card is a rare or a mythic. Parting the usable cards again changes
nothing. -/
theorem parts_make_up_pool (cards : List Card) :
    PartsPool cards (parts cards) ∧
    (∀ request ∈ Policy.collector.requests, ∀ frame, .rareOrMythic frame ∈ request.pull.pools →
      (firstStocked cards request.pull.pools ≠ [] ↔ Has cards Card.isRareOrMythic)) ∧
    parts ((parts cards).of "all") = parts cards := by
  have parted := parts_partsPool cards
  refine ⟨parted, ?_, ?_⟩
  · intro request member frame named
    obtain ⟨frame, foil, rfl⟩ := exists_special_of_mem member named
    exact firstStocked_special_ne_nil_iff cards frame foil
  · have all : (parts cards).of "all" = usable cards := parted.all_eq
    rw [all, parts_usable]

/-- A borderless mythic that lies in the pool twice, a plain rare, a land and a token: the special
chain of the extended frame leads to a card, and the mythic counts twice in its part. -/
theorem parts_make_up_pool_repeated_mythic :
    let card (id rarity typeLine : Text) (border : Option Text) : Card :=
      ⟨id, "", "s", none, rarity, false, some typeLine, border, false, []⟩
    let mythic := card "a" "mythic" "Creature" (some "borderless")
    let cards := [mythic, card "b" "rare" "Instant" none, card "c" "common" "Basic Land" none,
      mythic, card "d" "token" "Token" none]
    let request := Policy.special .extended false
    mythic ∈ (parts cards).of "all" ∧ mythic.hasRarity .mythic = true ∧
    (∃! name, name ∈ artRarityNames ∧ mythic ∈ (parts cards).of name) ∧
    ((parts cards).of "alt_mythic").count mythic = 2 ∧
    firstStocked cards request.pull.pools ≠ [] ∧
    parts ((parts cards).of "all") = parts cards := by
  intro card mythic cards request
  obtain ⟨parted, chains, again⟩ := parts_make_up_pool cards
  have there : mythic ∈ (parts cards).of "all" := by decide +kernel
  have rarity : mythic.hasRarity .mythic = true := by decide +kernel
  have asked : request ∈ Policy.collector.requests := by simp [Policy.requests, request]
  have named : .rareOrMythic .extended ∈ request.pull.pools := by decide
  have stocked : Has cards Card.isRareOrMythic := by decide +kernel
  exact ⟨there, rarity, parted.exists_unique mythic there .mythic rarity, by decide +kernel,
    (chains request asked .extended named).2 stocked, again⟩

end Pool
end PackOpening
