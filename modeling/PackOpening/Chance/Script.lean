import PackOpening.Chance.Basic

/-!
A source that answers from a script: listed rolls and then one roll for ever, and listed positions,
each taken around the number of choices, and then always the first.
-/
namespace PackOpening

structure Script where
  rolls : List Float
  laterRolls : Float
  picks : List Int
  deriving Repr

namespace Script

def nextRoll (script : Script) : Float × Script :=
  match script.rolls with
  | [] => (script.laterRolls, script)
  | x :: rest => (x, { script with rolls := rest })

/-- The position that a listed number means among `last + 1`. -/
def position (last : Nat) (n : Int) : Fin (last + 1) :=
  Fin.ofNat (last + 1) (n % ((last : Int) + 1)).toNat

def nextPick (last : Nat) (script : Script) : Fin (last + 1) × Script :=
  match script.picks with
  | [] => (position last 0, script)
  | n :: rest => (position last n, { script with picks := rest })

instance : Source Script where
  roll := nextRoll
  pick := nextPick

end Script
end PackOpening
