import PackOpening.Host.Alphabet
import PackOpening.Host.Direction
import PackOpening.Host.Joining
import PackOpening.Host.Script
import PackOpening.Numeric.Decimal
import PackOpening.Text.Composition
import PackOpening.Text.Punycode
import PackOpening.Text.Quoted

/-!
Labels, the parts of a host name between its dots. A label is in composed form, holds nothing but
the code points of the label alphabet, each in a fitting place, and keeps to one direction of
writing. A label with code points outside ASCII is written with `xn--` in front of its punycode.
-/
namespace PackOpening.Host

open PackOpening.Text

/-- Where the directions of the code points of a label do not go together; positions count from
one. -/
inductive DirectionFault where
  | unknown (position : Nat) (label : Text)
  | start (label : Text)
  | stray (position : Nat) (atRight : Bool)
  | mixedNumbers
  | ending
  deriving DecidableEq, Repr

/-- Why a text is no label, or why it cannot be written or read as one; positions count from one. -/
inductive LabelFault where
  | empty
  | tooLong
  | notComposed
  | innerHyphens
  | outerHyphen
  | startsWithMark
  | joiner (c : CodePoint) (position : Nat) (label : Text)
  | joinerBehindUnknown (c : CodePoint) (position : Nat) (label : Text)
  | misplaced (c : CodePoint) (position : Nat) (label : Text)
  | notPermitted (c : CodePoint) (position : Nat) (label : Text)
  | direction (fault : DirectionFault)
  | nothingWritten
  | endsInHyphen
  | unreadable
  | notCanonical
  deriving DecidableEq, Repr

/-- Whether a joiner fits between two texts, the first given last character first. Behind a sign
that silences a vowel both do; only the one against joining also fits where letters would join. -/
def joinerFits (before : Text) (c : CodePoint) (after : Text) : Bool :=
  before.head?.any (combiningClass · == viramaClass) || (c == nonJoiner && joins before after)

/-- Whether a sign that is bound to a place fits into a label there. -/
def signFits (label before : Text) (c : CodePoint) (after : Text) : Bool :=
  if c = middleDot then before.head? == some (.char 'l') && after.head? == some (.char 'l')
  else if c = greekNumeralSign then after.head?.any isGreek
  else if isHebrewSign c then before.head?.any isHebrew
  else if c = katakanaMiddleDot then label.any isJapanese
  else if isArabicDigit c then !label.any isPersianDigit
  else isPersianDigit c && !label.any isArabicDigit

/-- The first code point of a label that may not stand where it does, behind those already seen,
last one first. -/
def contentFault? (label before : Text) : Text → Option LabelFault
  | [] => none
  | c :: rest =>
    let position := before.length + 1
    if isPermitted c then contentFault? label (c :: before) rest
    else if isJoiner c then
      if before.head?.any isUnrecorded then some (.joinerBehindUnknown c position label)
      else if joinerFits before c rest then contentFault? label (c :: before) rest
      else some (.joiner c position label)
    else if isBoundToPlace c then
      if signFits label before c rest then contentFault? label (c :: before) rest
      else some (.misplaced c position label)
    else some (.notPermitted c position label)

/-- What is wrong with the directions from a position on, behind a number of some kind or none. -/
def strayFrom? (atRight : Bool) :
    (position : Nat) → (number : Option Direction) → List Direction → Option DirectionFault
  | _, _, [] => none
  | position, number, d :: rest =>
    if !d.goesAlong atRight then some (.stray position atRight)
    else if atRight && d.isNumber then
      if number.any (· != d) then some .mixedNumbers
      else strayFrom? atRight (position + 1) (some d) rest
    else strayFrom? atRight (position + 1) number rest

/-- What is wrong with the directions in a label. All of them must be known, and where nothing
starts at the right, no more is asked. -/
def directionFault? (label : Text) : Option DirectionFault :=
  let directions := label.map Direction.of
  match directions with
  | [] => none
  | first :: _ =>
    let atRight := first.startsAtRight
    let last := (directions.reverse.dropWhile (· == .mark)).head?
    if directions.contains .unknown then some (.unknown (directions.idxOf .unknown + 1) label)
    else if !directions.any Direction.makesMixed then none
    else if !atRight && first != .left then some (.start label)
    else (strayFrom? atRight 1 none directions).or
      (if last.any (·.mayEnd atRight) then none else some .ending)

/-- Why a text is no label. -/
def labelFault? (label : Text) : Option LabelFault :=
  if label = [] then some .empty
  else if !isComposed label then some .notComposed
  else if (label.drop 2).take 2 = "--" then some .innerHyphens
  else if label.head? = some (.char '-') ∨ label.getLast? = some (.char '-') then some .outerHyphen
  else if label.head?.any isMark then some .startsWithMark
  else (contentFault? label [] label).or ((directionFault? label).map .direction)

/-- What stands in front of the punycode of a label. -/
def punycodeMark : Text := "xn--"

/-- What keeps a label of ASCII characters from being read. Punycode that is read must be what the
text it stands for is written as. -/
def readFault? (label : Text) : Option LabelFault :=
  let label := label.map (·.map Char.toLower)
  if punycodeMark.isPrefixOf label then
    let written := label.drop punycodeMark.length
    if written = [] then some .nothingWritten
    else if written.getLast? = some (.char '-') then some .endsInHyphen
    else match Punycode.decode? written with
      | some text =>
        if Punycode.encode text = written then labelFault? text else some .notCanonical
      | none => some .unreadable
  else labelFault? label

/-- The most characters of a written label. -/
def labelLimit : Nat := 63

/-- A label as it is written. -/
def writeLabel (label : Text) : Except LabelFault Text :=
  let isPlain := label.all (·.code < 0x80)
  match if isPlain then readFault? label else labelFault? label with
  | some fault => .error fault
  | none =>
    let written := if isPlain then label else punycodeMark ++ Punycode.encode label
    if labelLimit < written.length then .error .tooLong else .ok written

/-- The number of a code point, in four capital hexadecimal digits or more. -/
def shownCode (c : CodePoint) : Text :=
  let digits := (Nat.toDigits 16 c.code).map Char.toUpper
  "U+" ++ ofChars (List.replicate (4 - digits.length) '0' ++ digits)

def DirectionFault.message : DirectionFault → Text
  | unknown position label =>
    "Unknown directionality in label " ++ quoted label ++ " at position " ++
      ofChars (Numeric.digitsOf position)
  | start label =>
    "First codepoint in label " ++ quoted label ++ " must be directionality L, R or AL"
  | stray position atRight =>
    "Invalid direction for codepoint at position " ++ ofChars (Numeric.digitsOf position) ++
      " in a " ++ (if atRight then "right-to-left" else "left-to-right") ++ " label"
  | mixedNumbers => "Can not mix numeral types in a right-to-left label"
  | ending => "Label ends with illegal codepoint directionality"

def LabelFault.message : LabelFault → Text
  | empty => "Empty Label"
  | tooLong => "Label too long"
  | notComposed => "Label must be in Normalization Form C"
  | innerHyphens => "Label has disallowed hyphens in 3rd and 4th position"
  | outerHyphen => "Label must not start or end with a hyphen"
  | startsWithMark => "Label begins with an illegal combining character"
  | joiner c position label =>
    "Joiner " ++ shownCode c ++ " not allowed at position " ++
      ofChars (Numeric.digitsOf position) ++ " in " ++ quoted label
  | joinerBehindUnknown c position label =>
    "Unknown codepoint adjacent to joiner " ++ shownCode c ++ " at position " ++
      ofChars (Numeric.digitsOf position) ++ " in " ++ quoted label
  | misplaced c position label =>
    "Codepoint " ++ shownCode c ++ " not allowed at position " ++
      ofChars (Numeric.digitsOf position) ++ " in " ++ quoted label
  | notPermitted c position label =>
    "Codepoint " ++ shownCode c ++ " at position " ++ ofChars (Numeric.digitsOf position) ++
      " of " ++ quoted label ++ " not allowed"
  | direction fault => fault.message
  | nothingWritten => "Malformed A-label, no Punycode eligible content found"
  | endsInHyphen => "A-label must not end with a hyphen"
  | unreadable => "Invalid A-label"
  | notCanonical => "A-label is not the canonical Punycode encoding of its U-label"

example : labelFault? "é" = none ∧ readFault? "XN--a-" = some .endsInHyphen ∧
    contentFault? "a_" [] "a_" = some (.notPermitted '_' 2 "a_") := by decide +kernel

end PackOpening.Host
