import PackOpening.Numeric.Decimal
import PackOpening.Numeric.FloatParts

/-!
The shortest decimal text of a floating-point number: the fewest digits that read back as the same
number, and of the decimals with so few digits the nearest one.
-/
namespace PackOpening.Numeric

/-- A positive decimal `digits * 10 ^ exponent`. -/
structure Decimal where
  digits : Nat
  exponent : Int
  deriving DecidableEq, Repr

/-- Scales a quantity counted in quarters of `2 ^ q` to the grid of multiples of `10 ^ k`: the pair
of whole factors whose quotient is `2 ^ (q - 2) / 10 ^ k`. -/
def gridScale (q k : Int) : Nat × Nat :=
  (twoTo (q - 2).toNat * tenTo (-k).toNat, twoTo (2 - q).toNat * tenTo k.toNat)

/-- A multiple of `10 ^ k` that rounds to `m * 2 ^ q`, if there is one. Numbers that round to it
reach half way to its neighbours, the ends included when `m` is even; only the two multiples next
to the number itself need a test. Of two the nearer is taken, and of two equally near the even. -/
def onGrid? (m : Nat) (q k : Int) : Option Nat :=
  let (a, b) := gridScale q k
  let value := 4 * m * a
  let low := (4 * m - (if m = twoTo 52 ∧ -1074 < q then 1 else 2)) * a
  let high := (4 * m + 2) * a
  let d := value / b
  let reaches (x y : Nat) : Bool := if m % 2 = 0 then x ≤ y else x < y
  let lower := 0 < d && reaches low (d * b)
  let upper := reaches ((d + 1) * b) high
  if lower && upper then
    let below := value - d * b
    let above := (d + 1) * b - value
    some (if below < above || (below == above && d % 2 == 0) then d else d + 1)
  else if lower then some d
  else if upper then some (d + 1)
  else none

/-- Tries ever finer grids and stops at the first that holds a decimal for the number. -/
def coarsest (m : Nat) (q : Int) : (steps : Nat) → (k : Int) → Decimal
  | 0, k => ⟨m, k⟩
  | steps + 1, k =>
    match onGrid? m q k with
    | some d => ⟨d, k⟩
    | none => coarsest m q steps (k - 1)

/-- The shortest decimal of the positive number `m * 2 ^ q`. The search starts above the number,
at a power of ten found from its power of two, and twenty grids reach beyond seventeen digits. -/
def shortest (m : Nat) (q : Int) : Decimal :=
  coarsest m q 24 (((m.log2 : Int) + q + 1) * 30103 / 100000 + 2)

/-- Drops the zeros at the end of a digit list. -/
def dropFinalZeros (digits : List Char) : List Char :=
  (digits.reverse.dropWhile (· == '0')).reverse

/-- How a finite number is laid out: positionally, always with a point, when its leading digit
stands for a power of ten from the first to the last exponent, and otherwise with an exponent of at
least two digits and its sign. -/
structure FloatLayout where
  firstPositional : Int
  lastPositional : Int
  nanText : String
  infinityText : String
  deriving DecidableEq, Repr

/-- The layout of numbers in written data. -/
def dataLayout : FloatLayout := ⟨-4, 15, "NaN", "Infinity"⟩

/-- The layout of numbers on the console. -/
def consoleLayout : FloatLayout := ⟨-4, 15, "nan", "inf"⟩

/-- Lays out digits whose first stands for the power `leading` of ten. -/
def FloatLayout.digits (layout : FloatLayout) (ds : List Char) (leading : Int) : List Char :=
  if layout.firstPositional ≤ leading ∧ leading ≤ layout.lastPositional then
    if leading < 0 then
      ['0', '.'] ++ List.replicate (-leading - 1).toNat '0' ++ ds
    else
      let whole := leading.toNat + 1
      let tail := ds.drop whole
      ds.take whole ++ List.replicate (whole - ds.length) '0' ++ '.' ::
        (if tail.isEmpty then ['0'] else tail)
  else
    let size := digitsOf leading.natAbs
    let tail := ds.drop 1
    ds.take 1 ++ (if tail.isEmpty then [] else '.' :: tail) ++
      'e' :: (if leading < 0 then '-' else '+') ::
      (List.replicate (2 - size.length) '0' ++ size)

/-- The text of a number. -/
def FloatLayout.write (layout : FloatLayout) (x : Float) : List Char :=
  let signed (negative : Bool) (text : List Char) := if negative then '-' :: text else text
  match FloatParts.ofFloat x with
  | .nan => layout.nanText.toList
  | .infinite negative => signed negative layout.infinityText.toList
  | .finite negative m q =>
    if m = 0 then signed negative ['0', '.', '0']
    else
      let decimal := shortest m q
      let all := digitsOf decimal.digits
      signed negative
        (layout.digits (dropFinalZeros all) (decimal.exponent + (all.length : Int) - 1))

example : dataLayout.write 0.1 = "0.1".toList ∧ dataLayout.write 1e16 = "1e+16".toList ∧
    dataLayout.write 5e-324 = "5e-324".toList := by decide +kernel

end PackOpening.Numeric
