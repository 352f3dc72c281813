import PackOpening.Numeric.Decimal
import PackOpening.Text.Blank

/-!
Integers that are given as a text. A plain numeral is read as it stands. In any other text blanks at
both ends, the sign, zeros at the start, single underscores and a point with nothing but zeros
behind it are laid aside; what is left, the minus sign put back in front, has to be a plain numeral.
Where zeros are laid aside, a minus sign may come behind them.
-/
namespace PackOpening.Json.IntegerText

open PackOpening.Numeric PackOpening.Text

/-- What a text was found to write. -/
inductive Reading where
  | integer (n : Int)
  | oversized
  | unreadable
  deriving DecidableEq, Repr

/-- Numerals with more digits than this are refused. -/
def sizeLimit : Nat := 4300

/-- The integer of a plain numeral: a minus sign if need be, and a lone zero or digits that do not
start with one. Too many digits are noticed before what comes behind them. -/
def ofNumeral (text : Text) : Reading :=
  let (negative, digits) : Bool × Text := match text with
    | .char '-' :: digits => (true, digits)
    | digits => (false, digits)
  match digits with
  | [] => .unreadable
  | .char '0' :: rest => if rest.isEmpty then .integer 0 else .unreadable
  | digits =>
    let run := digits.takeWhile CodePoint.isAsciiDigit
    if sizeLimit < run.length then .oversized
    else if run.length ≠ digits.length then .unreadable
    else
      let n : Int := ofAsciiDigits digits
      .integer (if negative then -n else n)

/-- Drops the sign at the start of a text and says whether it is a minus. No minus sign may follow a
plus sign. -/
def dropSign? : Text → Option (Bool × Text)
  | .char '-' :: rest => some (true, rest)
  | .char '+' :: .char '-' :: _ => none
  | .char '+' :: rest => some (false, rest)
  | text => some (false, text)

/-- Whether a numeral without zeros at its start can begin with a code point. -/
def startsNumeral (c : CodePoint) : Bool :=
  c.satisfies fun c => c == '-' || ('1' ≤ c && c ≤ '9')

/-- Drops zeros, and underscores among them, up to where the numeral starts. The last one before the
end or before a point stays. -/
def dropZerosAfter? (last : CodePoint) : Text → Option Text
  | [] => some [last]
  | c :: rest =>
    if c = '.' then some (last :: c :: rest)
    else if c = '0' ∨ c = '_' then dropZerosAfter? c rest
    else if startsNumeral c then some (c :: rest)
    else none

/-- Drops the zeros that a text starts with. -/
def dropZeros? : Text → Option Text
  | [] => none
  | c :: rest =>
    if c = '0' then dropZerosAfter? c rest
    else if startsNumeral c then some (c :: rest)
    else none

/-- Drops a point and the zeros behind it, of which there is at least one. -/
def dropDecimals? (text : Text) : Option Text :=
  match cut (.char '.') text with
  | (whole, none) => some whole
  | (whole, some decimals) =>
    if !decimals.isEmpty && decimals.all (· == '0') then some whole else none

/-- Drops underscores, each of which stands alone between other code points. -/
def dropUnderscores? (text : Text) : Option Text :=
  let groups := pieces (.char '_') text
  if groups.length = 1 ∨ groups.all (!·.isEmpty) then some groups.flatten else none

/-- What is left of a text when all that a plain numeral does not have is laid aside. -/
def plainNumeral? (text : Text) : Option Text := do
  let (negative, size) ← dropSign? (trimWhile isMargin text)
  let numeral ← dropUnderscores? (← dropDecimals? (← dropZeros? size))
  some (if negative then '-' :: numeral else numeral)

/-- The integer that a text writes. Only a text that is a numeral as it stands is found too long. -/
def read (text : Text) : Reading :=
  match ofNumeral text with
  | .unreadable =>
    match (plainNumeral? text).map ofNumeral with
    | some (.integer n) => .integer n
    | _ => .unreadable
  | reading => reading

example : read " +0_42.00 " = .integer 42 ∧ read "0_-9" = .integer (-9) ∧
    read "-0_7" = .integer (-7) ∧ read "00.0" = .integer 0 ∧ read "1_000" = .integer 1000 := by
  decide +kernel

example : read "9." = .unreadable ∧ read "-0-7" = .unreadable ∧ read "1__0" = .unreadable ∧
    read "0_" = .unreadable ∧ read "-_1" = .unreadable ∧ read "+-1" = .unreadable := by
  decide +kernel

end PackOpening.Json.IntegerText
