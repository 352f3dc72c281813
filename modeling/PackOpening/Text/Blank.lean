import PackOpening.Text.CodePoint

/-!
Blank characters, trimming, and the splitting of a text at a separator.

The blank characters are the spaces of every script together with the ASCII layout controls,
twenty-nine in all; every character that the core library calls whitespace is among them.
-/
namespace PackOpening.Text

/-- Spaces, line ends and the ASCII separators U+001C to U+001F. -/
def isBlank (c : CodePoint) : Bool :=
  (0x09 ≤ c.code && c.code ≤ 0x0D) || (0x1C ≤ c.code && c.code ≤ 0x20) ||
  c.code == 0x85 || c.code == 0xA0 || c.code == 0x1680 ||
  (0x2000 ≤ c.code && c.code ≤ 0x200A) || c.code == 0x2028 || c.code == 0x2029 ||
  c.code == 0x202F || c.code == 0x205F || c.code == 0x3000

/-- The blank characters that may stand around a written integer: all but U+001C to U+001F. -/
def isMargin (c : CodePoint) : Bool := isBlank c && !(0x1C ≤ c.code && c.code ≤ 0x1F)

variable {α : Type}

/-- Drops the members of a class from both ends. -/
def trimWhile (drop : α → Bool) (text : List α) : List α :=
  ((text.dropWhile drop).reverse.dropWhile drop).reverse

/-- Drops the blank characters at both ends. -/
def trim (text : Text) : Text := trimWhile isBlank text

variable [DecidableEq α]

/-- The pieces of a text between the occurrences of a separator; there is always at least one. -/
def pieces (separator : α) : List α → List (List α)
  | [] => [[]]
  | c :: rest =>
    if c = separator then [] :: pieces separator rest
    else match pieces separator rest with
      | [] => [[c]]
      | piece :: others => (c :: piece) :: others

/-- The text before the first occurrence of a mark, and the text after it if there is one. -/
def cut (mark : α) : List α → List α × Option (List α)
  | [] => ([], none)
  | c :: rest =>
    if c = mark then ([], some rest)
    else let (before, after) := cut mark rest; (c :: before, after)

/-- The text before the last occurrence of a mark if there is one, and the text after it. -/
def cutLast (mark : α) (text : List α) : Option (List α) × List α :=
  let (after, before) := cut mark text.reverse
  (before.map List.reverse, after.reverse)

theorem pieces_ne_nil (separator : α) (text : List α) : pieces separator text ≠ [] := by
  cases text with
  | nil => simp [pieces]
  | cons c rest =>
    simp only [pieces]
    split
    · simp
    · split <;> simp

end PackOpening.Text
