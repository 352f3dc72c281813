import PackOpening.Text.CodePoint

/-!
Decimal numbers: digit lists, and the floating-point number nearest to a decimal.
-/
namespace PackOpening.Numeric

/-- The decimal digits of a whole number, most significant first. -/
def digitsOf (n : Nat) : List Char := Nat.toDigits 10 n

/-- The decimal text of an integer. -/
def intDigits (n : Int) : List Char :=
  if n < 0 then '-' :: digitsOf n.natAbs else digitsOf n.natAbs

/-- The value of a run of digit values, most significant first. -/
def ofDigitValues (digits : List Nat) : Nat :=
  digits.foldl (fun value digit => 10 * value + digit) 0

/-- The value of a run of ASCII digits. -/
def ofAsciiDigits (digits : Text) : Nat :=
  ofDigitValues (digits.map (fun c => c.code - 0x30))

/-- The number nearest to `significand * 10 ^ exponent`, of two the even one. Beyond the greatest
finite number it is infinite and below half the least one it is zero; the two outer tests settle
those sizes before any power of ten is formed. -/
def nearestFloat (negative : Bool) (significand : Nat) (exponent : Int) : Float :=
  let places : Int := (digitsOf significand).length
  let size : Float :=
    if significand = 0 then 0.0
    else if places + exponent > 400 then 1.0 / 0.0
    else if places + exponent < -400 then 0.0
    else Float.ofScientific significand (exponent < 0) exponent.natAbs
  if negative then -size else size

end PackOpening.Numeric
