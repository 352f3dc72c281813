import PackOpening.Pool.Partition

/-!
Built-in policies: what each kind of pack pulls, from top to bottom.
-/
namespace PackOpening

/-- One pull from a pool. The cards come from the first part of `pools` that has any. If `mythics`
names parts, the pull is of a rare or a mythic: `pools` then leads to the rares. -/
structure Pull where
  pools : List Partition
  mythics : List Partition
  foil : Bool
  deriving DecidableEq, Repr

def Pull.isRareOrMythic (pull : Pull) : Bool := !pull.mythics.isEmpty

/-- A pull that takes the place of another with some chance. -/
structure Upgrade where
  pull : Pull
  chance : Float
  deriving Repr

/-- Identical pulls; the chance of an upgrade is taken for each of them anew. -/
structure Request where
  pull : Pull
  count : Nat
  upgrade : Option Upgrade
  deriving Repr

inductive Policy where
  | collector | play | legacy
  deriving DecidableEq, Repr

namespace Policy

def all : List Policy := [collector, play, legacy]

def name : Policy → Text
  | collector => "collector"
  | play => "play"
  | legacy => "legacy"

/-- The chance that a rare or mythic is a mythic. -/
def mythicChance : Float := 0.125

def wildcardAltChance : Float := 0.024

def foilWildcardAltChance : Float := 0.015

def legacyFoilChance : Float := 0.25

def plain (pools : List Partition) (count : Nat) (foil : Bool) : Request :=
  ⟨⟨pools, [], foil⟩, count, none⟩

def altFirst (r : Rarity) : List Partition := [.rarity .alt r, .rarity .normal r]

def normalFirst (r : Rarity) : List Partition := [.rarity .normal r, .rarity .any r]

def wildcard (chance : Float) (foil : Bool) : Request :=
  ⟨⟨[.every .normal, .every .any], [], foil⟩, 1,
    some ⟨⟨[.every .alt, .every .normal, .every .any], [], foil⟩, chance⟩⟩

def collectorRare (foil : Bool) : Request :=
  ⟨⟨altFirst .rare, altFirst .mythic, foil⟩, 2, none⟩

def special (frame : RareFrame) (foil : Bool) : Request :=
  plain [.rareOrMythic frame, .rareOrMythic .alt, .rareOrMythic .normal] 1 foil

def requests : Policy → List Request
  | collector =>
    [ plain (altFirst .common) 2 true,
      plain (altFirst .uncommon) 2 true,
      plain (altFirst .uncommon) 2 false,
      collectorRare false,
      collectorRare true,
      special .extended false,
      special .showcase true,
      plain (altFirst .common) 3 true ]
  | play =>
    [ plain (normalFirst .common) 6 false,
      plain (normalFirst .uncommon) 3 false,
      ⟨⟨normalFirst .rare, normalFirst .mythic, false⟩, 1, none⟩,
      wildcard wildcardAltChance false,
      wildcard foilWildcardAltChance true,
      plain (normalFirst .common) 2 false ]
  | legacy =>
    [ ⟨⟨[.rarity .any .rare, .rarity .any .common], [.rarity .any .mythic], false⟩, 1, none⟩,
      plain [.rarity .any .uncommon, .rarity .any .common] 3 false,
      plain [.rarity .any .common] 10 false,
      -- the eleventh common is a foil of any rarity in one pack of four
      ⟨⟨[.rarity .any .common], [], false⟩, 1,
        some ⟨⟨[.every .any], [], true⟩, legacyFoilChance⟩⟩ ]

end Policy
end PackOpening
