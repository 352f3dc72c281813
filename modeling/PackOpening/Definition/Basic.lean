import PackOpening.Card.Basic

/-!
Slots of a custom pack. A slot is a list of entries, each a rarity with its share of a hundred and
perhaps a set of its own. Compiled slots have entries that share exactly a hundred; slots built by
hand may hold anything.
-/
namespace PackOpening

structure SlotEntry where
  rarity : Rarity
  probability : Int
  /-- The set whose pool the entry draws from, when it is not the pack's own. -/
  setCode : Option Text
  deriving DecidableEq, Repr

structure Slot where
  entries : List SlotEntry
  deriving DecidableEq, Repr

def Slot.total (slot : Slot) : Int :=
  slot.entries.foldr (fun entry total => entry.probability + total) 0

/-- The set that an entry draws from in a pack of the set `default`; an empty code counts as no
code. -/
def SlotEntry.source (entry : SlotEntry) (default : Text) : Text :=
  match entry.setCode with
  | none => default
  | some code => if code.isEmpty then default else code

/-- The sets that a pack may draw from: its own and those that an entry names. Each is listed once,
the pack's own first. -/
def referencedSets (slots : List Slot) (default : Text) : List Text :=
  (default :: (slots.flatMap Slot.entries).filterMap
    (fun entry => entry.setCode.filter (!·.isEmpty))).eraseDups

end PackOpening
