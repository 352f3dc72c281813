import PackOpening.Card.Basic
import PackOpening.Named

/-!
Pools: the cards that a pack may be drawn from, and pools kept by set.
-/
namespace PackOpening

/-- Pools by set code, each code once, in the order in which the codes were first met. -/
abbrev SetPools := List (Text × List Card)

namespace SetPools

/-- The pool of a set; a set that is not there has no cards. -/
def of (pools : SetPools) (code : Text) : List Card := (pools.lookup code).getD []

/-- Puts cards behind those of a set. A set that is not there yet comes behind the others. -/
def extend (pools : SetPools) (code : Text) (cards : List Card) : SetPools :=
  Named.put code (pools.of code ++ cards) pools

/-- Puts the cards of each set of the second pools behind those of the set in the first. -/
def join (pools more : SetPools) : SetPools :=
  more.foldl (fun pools (code, cards) => pools.extend code cards) pools

end SetPools

namespace Pool

def enabled (cards : List Card) : List Card := cards.filter (fun c => !c.disabled)

/-- The enabled cards of one rarity, without those whose id is excluded. -/
def ofRarity (cards : List Card) (rarity : Text) (excluded : List Text) : List Card :=
  cards.filter (fun c => c.rarity == rarity && !c.disabled && !excluded.contains c.id)

/-- The cards whose id is not in use. -/
def unused (cards : List Card) (used : List Text) : List Card :=
  cards.filter (fun c => !used.contains c.id)

/-- Groups cards by their set, one after another. -/
def bySet (cards : List Card) : SetPools :=
  cards.foldl (fun pools card => pools.extend card.setCode [card]) []

end Pool

end PackOpening
