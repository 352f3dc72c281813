import PackOpening.Numeric.Decimal
import PackOpening.Text.Blank
import PackOpening.Text.DecimalDigit

/-!
Integers written by hand in the digits of any script: one sign, and digits that single underscores
may group.
-/
namespace PackOpening.Numeric

open PackOpening.Text

/-- The values of a run of digits with at most one underscore between any two. `afterDigit` says
whether a digit stands right before the run. -/
def groupedDigits? (afterDigit : Bool) : Text → Option (List Nat)
  | [] => if afterDigit then some [] else none
  | c :: rest =>
    match digitValue? c with
    | some d => (groupedDigits? true rest).map (d :: ·)
    | none => if c = '_' ∧ afterDigit then groupedDigits? false rest else none

/-- Splits a sign off a text and says whether it is a minus. -/
def splitSign : Text → Bool × Text
  | .char '-' :: rest => (true, rest)
  | .char '+' :: rest => (false, rest)
  | rest => (false, rest)

/-- The integer that a text writes, blanks around it aside. -/
def readInt? (written : Text) : Option Int :=
  let (negative, size) := splitSign (trimWhile isMargin written)
  (groupedDigits? false size).map fun digits =>
    let n : Int := ofDigitValues digits
    if negative then -n else n

example : readInt? " +1_0\n" = some 10 ∧ readInt? "1__0" = none ∧
    readInt? "٢٠٢٤" = some 2024 := by decide +kernel

end PackOpening.Numeric
