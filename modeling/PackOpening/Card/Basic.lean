import PackOpening.Text.Lowercase
import PackOpening.Text.Blank

/-!
Cards: the printings that packs are opened from, and the cards drawn into a pack.
-/
namespace PackOpening

/-- The rarities a slot can ask for, lowest first. -/
inductive Rarity where
  | common | uncommon | rare | mythic
  deriving DecidableEq, Repr

namespace Rarity

def all : List Rarity := [common, uncommon, rare, mythic]

def name : Rarity → Text
  | common => "common"
  | uncommon => "uncommon"
  | rare => "rare"
  | mythic => "mythic"

/-- The letter that stands for a rarity in a definition. -/
def letter : Rarity → Char
  | common => 'c'
  | uncommon => 'u'
  | rare => 'r'
  | mythic => 'm'

def ofName? (name : Text) : Option Rarity := all.find? (fun r => r.name == name)

/-- The rarity of a code: its letter, in either case and with blanks around it. -/
def ofCode? (code : Text) : Option Rarity :=
  all.find? (fun r => Text.lowercase (Text.trim code) == [.char r.letter])

theorem name_injective {r s : Rarity} (h : r.name = s.name) : r = s := by
  cases r <;> cases s <;> first | rfl | (revert h; decide)

end Rarity

/-- One printing. The rarity is kept as it was given, because a pool may hold printings whose
rarity no slot asks for. -/
structure Card where
  id : Text
  name : Text
  setCode : Text
  collectorNumber : Option Text
  rarity : Text
  disabled : Bool
  typeLine : Option Text
  borderColor : Option Text
  fullArt : Bool
  frameEffects : List Text
  deriving DecidableEq, Repr

/-- A card as it lies in an opened pack. -/
structure DrawnCard where
  card : Card
  foil : Bool
  altArt : Bool
  deriving DecidableEq, Repr

end PackOpening
