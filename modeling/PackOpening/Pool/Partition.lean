import PackOpening.Card.Frame
import PackOpening.Pool.Basic

/-!
The named parts of a pool that built-in packs draw from.

Disabled cards and basic lands belong to no part. The remaining cards are parted by their art and by
their rarity; a few parts join rares and mythics of one kind of frame. Each part is the subsequence
of the usable cards that satisfy one predicate.
-/
namespace PackOpening

/-- The art treatments that the parts tell apart. -/
inductive Art where
  | any | normal | alt
  deriving DecidableEq, Repr

def Art.admits (art : Art) (card : Card) : Bool :=
  match art with
  | any => true
  | normal => !card.isAltArt
  | alt => card.isAltArt

/-- The frames by which rares and mythics are joined in one part. -/
inductive RareFrame where
  | normal | alt | extended | showcase
  deriving DecidableEq, Repr

def RareFrame.admits (frame : RareFrame) (card : Card) : Bool :=
  match frame with
  | normal => !card.isAltArt
  | alt => card.isAltArt
  | extended => card.isExtendedOrBorderless
  | showcase => card.isShowcaseOrBorderless

inductive Partition where
  | every (art : Art)
  | rarity (art : Art) (rarity : Rarity)
  | rareOrMythic (frame : RareFrame)
  deriving DecidableEq, Repr

def Card.hasRarity (card : Card) (rarity : Rarity) : Bool := card.rarity == rarity.name

def Card.isRareOrMythic (card : Card) : Bool := card.hasRarity .rare || card.hasRarity .mythic

/-- Enabled cards that are no basic lands. -/
def Card.isUsable (card : Card) : Bool := !card.disabled && !card.isBasicLand

namespace Partition

def admits (part : Partition) (card : Card) : Bool :=
  match part with
  | every art => art.admits card
  | rarity art r => art.admits card && card.hasRarity r
  | rareOrMythic frame => frame.admits card && card.isRareOrMythic

/-- The parts in the order in which they are listed. -/
def all : List Partition :=
  [every .any, every .normal, every .alt] ++
    Rarity.all.flatMap (fun r => [rarity .any r, rarity .normal r, rarity .alt r]) ++
    [rareOrMythic .normal, rareOrMythic .alt, rareOrMythic .extended, rareOrMythic .showcase]

def name : Partition → Text
  | every .any => "all"
  | every .normal => "normal"
  | every .alt => "alt"
  | rarity .any r => r.name
  | rarity .normal r => "normal_" ++ r.name
  | rarity .alt r => "alt_" ++ r.name
  | rareOrMythic .normal => "normal_rare_mythic"
  | rareOrMythic .alt => "alt_rare_mythic"
  | rareOrMythic .extended => "extended_rare_mythic"
  | rareOrMythic .showcase => "showcase_rare_mythic"

def ofName? (name : Text) : Option Partition := all.find? (fun part => part.name == name)

end Partition

namespace Pool

def usable (cards : List Card) : List Card := cards.filter Card.isUsable

/-- The cards of one part of a pool. -/
def part (cards : List Card) (p : Partition) : List Card := (usable cards).filter p.admits

/-- The first of some parts that has cards, or no cards if none has. -/
def firstStocked (cards : List Card) : List Partition → List Card
  | [] => []
  | p :: rest => if (part cards p).isEmpty then firstStocked cards rest else part cards p

/-- Every part of a pool under its name. -/
def parts (cards : List Card) : SetPools :=
  Partition.all.map (fun p => (p.name, part cards p))

end Pool
end PackOpening
