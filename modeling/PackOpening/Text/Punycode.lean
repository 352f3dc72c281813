import PackOpening.Text.Blank

/-!
Texts of any code points written with ASCII letters, digits and hyphens. The ASCII part comes first,
with a hyphen behind it. Then each other code point is given in the order of their numbers, by the
steps that lead from the last place and number to its own. The steps are written in base 36, the
smallest digit first; up to a threshold that follows the sizes of the numbers, a digit is the last.
-/
namespace PackOpening.Text.Punycode

def base : Nat := 36

/-- The letters are the digits up to 25, and the decimal digits stand for those behind them. -/
def digit (n : Nat) : CodePoint := .ofCode (if n < 26 then 0x61 + n else 0x30 + (n - 26))

def digitValue? (c : CodePoint) : Option Nat :=
  if 0x61 ≤ c.code ∧ c.code ≤ 0x7A then some (c.code - 0x61)
  else if 0x41 ≤ c.code ∧ c.code ≤ 0x5A then some (c.code - 0x41)
  else if 0x30 ≤ c.code ∧ c.code ≤ 0x39 then some (c.code - 0x30 + 26)
  else none

/-- The threshold at a place, counted in bases from the first one. -/
def threshold (bias place : Nat) : Nat := max 1 (min 26 (base * (place + 1) - bias))

theorem threshold_bounds (bias place : Nat) :
    1 ≤ threshold bias place ∧ threshold bias place ≤ 26 := by
  unfold threshold; omega

/-- Divides by 35 until a number is small, and counts the divisions in bases. -/
def flatten (counted n : Nat) : Nat × Nat :=
  if h : 455 < n then flatten (counted + base) (n / 35) else (counted, n)
termination_by n
decreasing_by exact Nat.div_lt_self (by omega) (by omega)

/-- The bias behind a number of steps that placed a code point of a text with a given size. -/
def adapted (steps size : Nat) (isFirst : Bool) : Nat :=
  let steps := if isFirst then steps / 700 else steps / 2
  let (counted, n) := flatten 0 (steps + steps / size)
  counted + base * n / (n + 38)

/-- A number in digits from a place on. -/
def digits (bias place n : Nat) : Text :=
  let t := threshold bias place
  if n < t then [digit n]
  else digit (t + (n - t) % (base - t)) :: digits bias (place + 1) ((n - t) / (base - t))
termination_by n
decreasing_by
  have bounds := threshold_bounds bias place
  exact Nat.lt_of_le_of_lt (Nat.div_le_self _ _) (by omega)

/-- The places of a code point in a text from which all with greater numbers are left out, behind
some that are not. -/
def placesOf (code : Nat) : (before : Nat) → Text → List Nat
  | _, [] => []
  | before, c :: rest =>
    if c.code = code then before :: placesOf code (before + 1) rest
    else placesOf code (if c.code < code then before + 1 else before) rest

/-- The number of each code point outside ASCII, in the order of writing, and its place among those
written before it. -/
def insertions (text : Text) : List (Nat × Nat) :=
  let codes := ((text.map CodePoint.code).filter (0x80 ≤ ·)).eraseDups.mergeSort
  codes.flatMap fun code => (placesOf code 0 text).map fun place => (code, place)

/-- Writes the steps from each place and number to the next one, in a text that grows by one code
point each time. -/
def writeAll : (bias size code place : Nat) → (isFirst : Bool) → List (Nat × Nat) → Text
  | _, _, _, _, _, [] => []
  | bias, size, code, place, isFirst, (nextCode, nextPlace) :: rest =>
    let steps := (nextCode - code) * size + nextPlace - place
    digits bias 0 steps ++
      writeAll (adapted steps size isFirst) (size + 1) nextCode (nextPlace + 1) false rest

def encode (text : Text) : Text :=
  let plain := text.filter fun c => c.code < 0x80
  plain ++ (if plain.isEmpty then [] else "-") ++
    writeAll 72 (plain.length + 1) 0x80 0 true (insertions text)

/-- Reads a number from a place on, and gives what is left of the text. -/
def readNumber? (bias : Nat) : (place weight n : Nat) → Text → Option (Nat × Text)
  | _, _, _, [] => none
  | place, weight, n, c :: rest =>
    (digitValue? c).bind fun d =>
      let t := threshold bias place
      if d < t then some (n + d * weight, rest)
      else readNumber? bias (place + 1) (weight * (base - t)) (n + d * weight) rest

/-- Places the code points that the digits give in a text, which is that of the ASCII part first.
Each number takes at least one digit, so there are no more numbers than the digits allow. -/
def placeAll? : (numbers bias code place : Nat) → (isFirst : Bool) → (digits text : Text) →
    Option Text
  | _, _, _, _, _, [], text => some text
  | 0, _, _, _, _, _, _ => none
  | numbers + 1, bias, code, place, isFirst, digits, text =>
    (readNumber? bias 0 1 0 digits).bind fun (steps, rest) =>
      let size := text.length + 1
      let code := code + (place + steps) / size
      let place := (place + steps) % size
      if code < 0x110000 then
        placeAll? numbers (adapted steps size isFirst) code (place + 1) false rest
          (text.insertIdx place (.ofCode code))
      else none

def decode? (written : Text) : Option Text :=
  let (plain, digits) := cutLast (.char '-') written
  placeAll? digits.length 72 0x80 0 true digits (plain.getD [])

example : encode "bücher" = "bcher-kva" ∧ encode "ß" = "zca" := by decide +kernel

example : decode? "bcher-kva" = some ("bücher" : String) ∧ decode? "z" = none := by decide +kernel

end PackOpening.Text.Punycode
