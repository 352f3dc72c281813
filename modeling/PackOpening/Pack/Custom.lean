import PackOpening.Definition.Basic
import PackOpening.Card.Frame
import PackOpening.Numeric.FloatParts
import PackOpening.Pack.Draw
import PackOpening.Pack.Event

/-!
Packs opened by a definition. Each slot first chooses one of its entries by their probabilities and
then a card of the entry's rarity from the entry's set. A slot whose set has no enabled card of that
rarity is skipped. There are no foils.
-/
namespace PackOpening

open PackOpening.Numeric

/-- The first entry whose running total lies above `x`, the totals starting from `total`. -/
def SlotEntry.firstAbove (x : Float) : (total : Int) → List SlotEntry → Option SlotEntry
  | _, [] => none
  | total, entry :: rest =>
    let total := total + entry.probability
    if isBelow x total then some entry else firstAbove x total rest

namespace Slot

/-- The entry that a roll between 0 and 100 chooses. A roll above every running total, which slots
that share exactly a hundred do not allow, falls to the first entry. -/
def entryAt? (slot : Slot) (x : Float) : Option SlotEntry :=
  (SlotEntry.firstAbove x 0 slot.entries).or slot.entries.head?

/-- Chooses an entry by one roll. Only a slot without entries has none to choose. -/
def resolve (slot : Slot) : Chance (Option SlotEntry) := do
  let roll ← Chance.rolled
  pure (slot.entryAt? (roll * 100.0))

/-- Resolves slots one after another, up to the first that has no entries. -/
def resolveAll : List Slot → Chance (Option (List SlotEntry))
  | [] => pure (some [])
  | slot :: rest => do
    match ← slot.resolve with
    | none => pure none
    | some entry => return (← resolveAll rest).map (entry :: ·)

end Slot

namespace CustomPack

/-- What became of one slot: the entry that was chosen, the ids in use when the slot was reached,
and the card if there was one. -/
structure Outcome where
  entry : SlotEntry
  used : List Text
  card : Option DrawnCard
  deriving DecidableEq, Repr

/-- The outcomes of the slots, the ids in use at the end, and whether a slot without entries cut the
assembly short. -/
structure Assembly where
  outcomes : List Outcome
  used : List Text
  cutShort : Bool
  deriving DecidableEq, Repr

/-- Draws the card of an entry: one not in use if there is any of the rarity in the entry's set, and
else any of that rarity. -/
def fill (pools : SetPools) (default : Text) (used : List Text) (entry : SlotEntry) :
    Chance Draw.Result :=
  let cards := pools.of (entry.source default)
  let rarity := entry.rarity.name
  match Pool.ofRarity cards rarity used, Pool.ofRarity cards rarity [] with
  | first :: rest, _ => Draw.take used first rest
  | [], first :: rest => Draw.take used first rest
  | [], [] => pure ⟨none, used⟩

/-- Fills the slots one after another; `used` are the ids of the cards already in the pack. -/
def fillAll (pools : SetPools) (default : Text) :
    List Slot → (used : List Text) → Chance Assembly
  | [], used => pure ⟨[], used, false⟩
  | slot :: rest, used => do
    match ← slot.resolve with
    | none => pure ⟨[], used, true⟩
    | some entry =>
      let result ← fill pools default used entry
      let outcome : Outcome :=
        ⟨entry, used, result.card.map fun card => ⟨card, false, card.isAltArt⟩⟩
      let others ← fillAll pools default rest result.used
      pure { others with outcomes := outcome :: others.outcomes }

/-- Assembles a pack of the set `default` from the pools of all sets. -/
def assemble (pools : SetPools) (slots : List Slot) (default : Text) : Chance Assembly :=
  fillAll pools default slots []

/-- The cards of a pack, in slot order. -/
def Assembly.cards (assembly : Assembly) : List DrawnCard :=
  assembly.outcomes.filterMap Outcome.card

/-- Reports of the skipped slots among outcomes whose first belongs to the given slot number. -/
def skipEvents (default : Text) (number : Nat) : List Outcome → List PackEvent
  | [] => []
  | outcome :: rest =>
    let others := skipEvents default (number + 1) rest
    match outcome.card with
    | some _ => others
    | none =>
      .customSlotSkipped number (outcome.entry.source default) outcome.entry.rarity :: others

/-- What an assembly reports: the skipped slots, and the pack unless it was cut short. -/
def Assembly.events (assembly : Assembly) (slots : List Slot) (default : Text) :
    List PackEvent :=
  skipEvents default 1 assembly.outcomes ++
    (if assembly.cutShort then []
      else [.customPackAssembled default slots.length assembly.cards.length])

end CustomPack
end PackOpening
