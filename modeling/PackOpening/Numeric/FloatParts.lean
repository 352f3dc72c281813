import PackOpening.Numeric.Power

/-!
The parts of a floating-point number: a sign, a whole significand and a power of two.

Comparison with a whole number is exact on these parts, however large the whole number is.
-/
namespace PackOpening.Numeric

/-- What the sixty-four bits of a number stand for. A finite number is
`± significand * 2 ^ exponent`. -/
inductive FloatParts where
  | nan
  | infinite (negative : Bool)
  | finite (negative : Bool) (significand : Nat) (exponent : Int)
  deriving DecidableEq, Repr

/-- Bits 52 to 62 hold the exponent, the lower ones the fraction; numbers with the least exponent
have no leading one. -/
def FloatParts.ofFloat (x : Float) : FloatParts :=
  let bits := x.toBits.toNat
  let negative := bits / twoTo 63 == 1
  let exponent : Nat := bits / twoTo 52 % twoTo 11
  let fraction : Nat := bits % twoTo 52
  if exponent = 2047 then
    if fraction = 0 then .infinite negative else .nan
  else if exponent = 0 then .finite negative fraction (-1074)
  else .finite negative (twoTo 52 + fraction) ((exponent : Int) - 1075)

/-- Whether the number lies strictly below a whole number. The power of two goes to the side on
which it is whole, so the comparison is one of integers; nothing compares with what is no number. -/
def FloatParts.below (n : Int) : FloatParts → Bool
  | .nan => false
  | .infinite negative => negative
  | .finite negative significand exponent =>
    let signed : Int := if negative then -(significand : Int) else significand
    signed * twoTo exponent.toNat < n * twoTo (-exponent).toNat

/-- Whether a number lies strictly below a whole number. -/
def isBelow (x : Float) (n : Int) : Bool := (FloatParts.ofFloat x).below n

/-- The whole number that a number is, if it has no fraction. -/
def FloatParts.whole? : FloatParts → Option Int
  | .finite negative significand exponent =>
    let scale := twoTo (-exponent).toNat
    if significand % scale = 0 then
      let size : Int := (significand / scale * twoTo exponent.toNat : Nat)
      some (if negative then -size else size)
    else none
  | _ => none

def FloatParts.isFinite : FloatParts → Bool
  | .finite .. => true
  | _ => false

example : isBelow 0.5 1 = true ∧ isBelow 1.0 1 = false ∧ isBelow (-1.5) (-1) = true := by
  decide +kernel

end PackOpening.Numeric
