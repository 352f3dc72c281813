import PackOpening.Pack.Draw
import PackOpening.Pack.Event
import PackOpening.Policy.Selection

/-!
Packs opened by a built-in policy. The pulls of the policy are made from top to bottom, upgraded
ones in place of their own; a pull that finds no card is skipped.
-/
namespace PackOpening.BuiltinPack

/-- What became of one pull: the pull that was made, the ids in use at that time, and the card if
there was one. -/
structure Outcome where
  pull : Pull
  used : List Text
  card : Option DrawnCard
  deriving DecidableEq, Repr

/-- The chance of a mythic, which is none when the pool has no usable mythic. -/
def mythicChance (cards : List Card) : Float :=
  if (Pool.part cards (.rarity .any .mythic)).isEmpty then 0.0 else Policy.mythicChance

/-- The pull to be made for a request: its own, or its upgrade if a roll falls below the chance. -/
def choosePull (request : Request) : Chance Pull :=
  match request.upgrade with
  | none => pure request.pull
  | some upgrade => do
    let roll ← Chance.rolled
    pure (if roll < upgrade.chance then upgrade.pull else request.pull)

/-- Draws the card of a pull. -/
def draw (cards : List Card) (pull : Pull) (used : List Text) : Chance Draw.Result :=
  let pool := Pool.firstStocked cards pull.pools
  if pull.isRareOrMythic then
    Draw.rareOrMythic pool (Pool.firstStocked cards pull.mythics) (mythicChance cards) used
  else Draw.unique pool used

/-- The outcomes of some pulls, and the ids in use after them. -/
structure Assembly where
  outcomes : List Outcome
  used : List Text
  deriving DecidableEq, Repr

/-- Makes requests for one pull each; `used` are the ids of the cards already in the pack. -/
def pullAll (cards : List Card) : List Request → (used : List Text) → Chance Assembly
  | [], used => pure ⟨[], used⟩
  | request :: rest, used => do
    let pull ← choosePull request
    let result ← draw cards pull used
    let outcome : Outcome :=
      ⟨pull, used, result.card.map fun card => ⟨card, pull.foil, card.isAltArt⟩⟩
    let others ← pullAll cards rest result.used
    pure { others with outcomes := outcome :: others.outcomes }

/-- The requests of a policy with every count written out. -/
def singlePulls (policy : Policy) : List Request :=
  policy.requests.flatMap (fun request => List.replicate request.count request)

/-- Makes all pulls of a policy on a pool. -/
def pullPolicy (cards : List Card) (policy : Policy) : Chance Assembly :=
  pullAll cards (singlePulls policy) []

/-- The outcomes of all pulls of a policy on a pool. -/
def assemble (cards : List Card) (policy : Policy) : Chance (List Outcome) := do
  let assembly ← pullPolicy cards policy
  pure assembly.outcomes

/-- The cards of a pack, in the order of the pulls. -/
def cardsOf (outcomes : List Outcome) : List DrawnCard := outcomes.filterMap Outcome.card

/-- The report of a pull that found no card. -/
def Outcome.skipEvent? (policy : Policy) (outcome : Outcome) : Option PackEvent :=
  match outcome.card with
  | some _ => none
  | none => some (.builtinSlotSkipped policy outcome.pull.pools)

/-- What an assembly reports: the skipped pulls and then the pack. -/
def eventsOf (policy : Policy) (requested : Text) (outcomes : List Outcome) :
    List PackEvent :=
  outcomes.filterMap (Outcome.skipEvent? policy) ++
    [.builtinPackAssembled policy requested (cardsOf outcomes).length]

end PackOpening.BuiltinPack
