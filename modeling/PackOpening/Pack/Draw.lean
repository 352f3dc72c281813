import PackOpening.Chance.Basic
import PackOpening.Pool.Basic

/-!
Drawing one card. A draw prefers cards whose id is not in use yet and puts the id of the card it
takes into use; it repeats a card only when every candidate is in use. It returns no card only if
there is no candidate.
-/
namespace PackOpening.Draw

/-- A drawn card, if there was one, and the ids in use after the draw. -/
structure Result where
  card : Option Card
  used : List Text
  deriving Repr

/-- Takes one of the given cards and puts its id into use. -/
def take (used : List Text) (first : Card) (rest : List Card) : Chance Result := do
  let card ← Chance.oneOf first rest
  pure ⟨some card, used.insert card.id⟩

/-- Takes an unused card of a pool, or any card once all are used. -/
def unique (pool : List Card) (used : List Text) : Chance Result :=
  match Pool.unused pool used, pool with
  | first :: rest, _ => take used first rest
  | [], first :: rest => do
    let card ← Chance.oneOf first rest
    pure ⟨some card, used⟩
  | [], [] => pure ⟨none, used⟩

/-- Takes an unused mythic if a roll falls below the chance, and otherwise an unused rare. The roll
is made only if some mythic is unused. When one side is used up the other stands in for it, and when
both are, any rare or mythic may repeat. -/
def rareOrMythic (rares mythics : List Card) (chance : Float) (used : List Text) :
    Chance Result :=
  match Pool.unused rares used, Pool.unused mythics used with
  | [], [] => unique (rares ++ mythics) used
  | rare :: rares, [] => take used rare rares
  | [], mythic :: mythics => do
    let _ ← Chance.rolled
    take used mythic mythics
  | rare :: rares, mythic :: mythics => do
    let roll ← Chance.rolled
    if roll < chance then take used mythic mythics else take used rare rares

end PackOpening.Draw
