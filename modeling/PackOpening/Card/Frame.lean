import PackOpening.Card.Basic

/-!
What the frame and the type line of a card say: whether it is a basic land, and which kinds of
alternate art it shows. A card without frame data is neither.
-/
namespace PackOpening

/-- The kinds of alternate art, in the order in which a label is chosen. -/
inductive ArtTreatment where
  | showcase | extendedArt | borderless | fullArt
  deriving DecidableEq, Repr

namespace ArtTreatment

def all : List ArtTreatment := [showcase, extendedArt, borderless, fullArt]

def label : ArtTreatment → Text
  | showcase => "Showcase"
  | extendedArt => "Extended Art"
  | borderless => "Borderless"
  | fullArt => "Full Art"

end ArtTreatment

/-- Whether a text occurs in another. -/
def Text.occursIn (part : Text) : Text → Bool
  | [] => part.isEmpty
  | c :: rest => part.isPrefixOf (c :: rest) || occursIn part rest

namespace Card

/-- Whether a card shows a kind of alternate art. -/
def shows (card : Card) : ArtTreatment → Bool
  | .showcase => card.frameEffects.contains "showcase"
  | .extendedArt => card.frameEffects.contains "extendedart"
  | .borderless => card.borderColor == some ("borderless" : Text)
  | .fullArt => card.fullArt

def isAltArt (card : Card) : Bool := ArtTreatment.all.any card.shows

/-- The label of the first kind of alternate art that the card shows. -/
def altArtLabel? (card : Card) : Option Text :=
  (ArtTreatment.all.find? card.shows).map ArtTreatment.label

def isExtendedOrBorderless (card : Card) : Bool :=
  card.shows .extendedArt || card.shows .borderless

def isShowcaseOrBorderless (card : Card) : Bool :=
  card.shows .showcase || card.shows .borderless

/-- A basic land says so anywhere in its type line, or starts it with the word alone. -/
def isBasicLand (card : Card) : Bool :=
  let typeLine := Text.lowercase (card.typeLine.getD [])
  Text.occursIn "basic land" typeLine || ("basic " : Text).isPrefixOf typeLine

theorem isAltArt_of_isExtendedOrBorderless {card : Card}
    (h : card.isExtendedOrBorderless = true) : card.isAltArt = true := by
  simp only [isExtendedOrBorderless, Bool.or_eq_true] at h
  rcases h with h | h <;> simp [isAltArt, ArtTreatment.all, h]

theorem isAltArt_of_isShowcaseOrBorderless {card : Card}
    (h : card.isShowcaseOrBorderless = true) : card.isAltArt = true := by
  simp only [isShowcaseOrBorderless, Bool.or_eq_true] at h
  rcases h with h | h <;> simp [isAltArt, ArtTreatment.all, h]

end Card
end PackOpening
