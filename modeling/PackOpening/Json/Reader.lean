import PackOpening.Json.Basic
import PackOpening.Numeric.Decimal

/-!
Reading data from text. Besides the common notation the words `NaN`, `Infinity` and `-Infinity`
stand for numbers; the control characters below U+0020 are refused inside quoted texts, and lists
and records must not be nested too deep. Surrogates may stand in quoted texts, escaped or not.

A fault remembers how many code points were left where it was found, so its place follows from the
length of the text. Each function takes a number of steps that bounds its recursion; `read` gives
enough of them for the text at hand.
-/
namespace PackOpening.Json

open PackOpening.Numeric

/-- The two kinds of data that hold others. -/
inductive Container where
  | list
  | record
  deriving DecidableEq, Repr

/-- Why a text is not data. -/
inductive Cause where
  | byteOrderMark
  | expectedValue
  | expectedName
  | expectedColon
  | expectedComma
  | extraData
  | unterminatedText
  | controlCharacter
  | badEscape
  | badUnitEscape
  | tooManyDigits (count : Nat)
  | nestedTooDeep (container : Container)
  deriving DecidableEq, Repr

/-- A cause, and how many code points were left at its place. -/
structure Fault where
  cause : Cause
  left : Nat
  deriving DecidableEq, Repr

def stop {α : Type} (cause : Cause) (rest : Text) : Except Fault α :=
  .error ⟨cause, rest.length⟩

def isLayout (c : CodePoint) : Bool := c == ' ' || c == '\t' || c == '\n' || c == '\r'

def skipLayout (text : Text) : Text := text.dropWhile isLayout

/-- The value of a hexadecimal digit, given by its number. -/
def hexValue? (code : Nat) : Option Nat :=
  if 0x30 ≤ code ∧ code ≤ 0x39 then some (code - 0x30)
  else if 0x61 ≤ code ∧ code ≤ 0x66 then some (code - 0x61 + 10)
  else if 0x41 ≤ code ∧ code ≤ 0x46 then some (code - 0x41 + 10)
  else none

/-- The unit that four hexadecimal digits spell. One more code point has to follow them. -/
def unit? : Text → Option (Nat × Text)
  | a :: b :: c :: d :: next :: rest => do
    let a ← hexValue? a.code
    let b ← hexValue? b.code
    let c ← hexValue? c.code
    let d ← hexValue? d.code
    some (((a * 16 + b) * 16 + c) * 16 + d, next :: rest)
  | _ => none

def isHighUnit (n : Nat) : Bool := 0xD800 ≤ n && n < 0xDC00

def isLowUnit (n : Nat) : Bool := 0xDC00 ≤ n && n < 0xE000

/-- The code point of a unit, or of a high unit together with an escaped low unit right behind
it. -/
def joinUnits (unit : Nat) (rest : Text) : Except Fault (CodePoint × Text) :=
  match isHighUnit unit, rest with
  | true, .char '\\' :: .char 'u' :: digits =>
    if digits.length < 5 then .ok (.ofCode unit, rest)
    else match unit? digits with
      | none => stop .badUnitEscape ('u' :: digits)
      | some (low, after) =>
        if isLowUnit low then
          .ok (.ofCode (0x10000 + (unit - 0xD800) * 0x400 + (low - 0xDC00)), after)
        else .ok (.ofCode unit, rest)
  | _, _ => .ok (.ofCode unit, rest)

/-- The character that an escape spells, without the unit escapes. -/
def plainEscape? (c : CodePoint) : Option CodePoint :=
  if c = '"' then some '"'
  else if c = '\\' then some '\\'
  else if c = '/' then some '/'
  else if c = 'b' then some (.ofCode 0x08)
  else if c = 'f' then some (.ofCode 0x0C)
  else if c = 'n' then some '\n'
  else if c = 'r' then some '\r'
  else if c = 't' then some '\t'
  else none

/-- The rest of a quoted text up to its closing quote. `opening` is what was left of the whole text
at the first quote. -/
def readText (opening : Text) : (steps : Nat) → Text → Except Fault (Text × Text)
  | 0, _ => stop .unterminatedText opening
  | _ + 1, [] => stop .unterminatedText opening
  | _ + 1, .char '"' :: rest => .ok ([], rest)
  | _ + 1, [.char '\\'] => stop .unterminatedText opening
  | steps + 1, .char '\\' :: .char 'u' :: rest =>
    match unit? rest with
    | none => stop .badUnitEscape ('u' :: rest)
    | some (unit, after) => do
      let (c, rest) ← joinUnits unit after
      let (others, rest) ← readText opening steps rest
      .ok (c :: others, rest)
  | steps + 1, .char '\\' :: e :: rest =>
    match plainEscape? e with
    | none => stop .badEscape ('\\' :: e :: rest)
    | some c => do
      let (others, rest) ← readText opening steps rest
      .ok (c :: others, rest)
  | steps + 1, c :: rest =>
    if c.code < 0x20 then stop .controlCharacter (c :: rest)
    else do
      let (others, rest) ← readText opening steps rest
      .ok (c :: others, rest)

/-- Splits a run of ASCII digits off a text. -/
def digitRun (text : Text) : Text × Text :=
  (text.takeWhile CodePoint.isAsciiDigit, text.dropWhile CodePoint.isAsciiDigit)

/-- The digits behind a point, if there are any. -/
def fraction? : Text → Option (Text × Text)
  | .char '.' :: rest =>
    let (digits, rest) := digitRun rest
    if digits.isEmpty then none else some (digits, rest)
  | _ => none

/-- The power of ten behind an `e`, if it has digits. -/
def exponent? : Text → Option (Int × Text)
  | e :: rest =>
    if e = 'e' ∨ e = 'E' then
      let (negative, rest) : Bool × Text := match rest with
        | .char '-' :: rest => (true, rest)
        | .char '+' :: rest => (false, rest)
        | rest => (false, rest)
      let (digits, rest) := digitRun rest
      if digits.isEmpty then none
      else
        let n : Int := ofAsciiDigits digits
        some (if negative then -n else n, rest)
    else none
  | [] => none

/-- The whole part of a number: a lone zero, or digits that do not start with one. -/
def wholePart? : Text → Option (Text × Text)
  | .char '0' :: rest => some (['0'], rest)
  | text =>
    let (digits, rest) := digitRun text
    if digits.isEmpty then none else some (digits, rest)

/-- The number whose sign has been read. -/
def readNumber? (negative : Bool) (text : Text) : Option (Except Cause Json × Text) :=
  match wholePart? text with
  | none => none
  | some (whole, rest) =>
    match fraction? rest, exponent? rest with
    | none, none =>
      let n : Int := ofAsciiDigits whole
      some (if digitLimit < whole.length then .error (.tooManyDigits whole.length)
        else .ok (int (if negative then -n else n)), rest)
    | none, some (power, rest) =>
      some (.ok (float (nearestFloat negative (ofAsciiDigits whole) power)), rest)
    | some (digits, rest), _ =>
      let significand := ofAsciiDigits (whole ++ digits)
      let places : Int := digits.length
      match exponent? rest with
      | none => some (.ok (float (nearestFloat negative significand (-places))), rest)
      | some (power, rest) =>
        some (.ok (float (nearestFloat negative significand (power - places))), rest)

/-- Values that are spelt by a word. -/
def words : List (Text × Json) :=
  [("null", null), ("true", bool true), ("false", bool false), ("NaN", float (0.0 / 0.0)),
   ("Infinity", float (1.0 / 0.0)), ("-Infinity", float (-1.0 / 0.0))]

/-- What is left of a text after a word at its start. -/
def dropWord? : (word text : Text) → Option Text
  | [], text => some text
  | w :: word, c :: text => if w = c then dropWord? word text else none
  | _ :: _, [] => none

/-- A value that is no text, list or record. -/
def readAtom (text : Text) : Except Fault (Json × Text) :=
  match words.findSome? (fun (word, value) => (dropWord? word text).map ((value, ·))) with
  | some (value, rest) => .ok (value, rest)
  | none =>
    let number := match text with
      | .char '-' :: rest => readNumber? true rest
      | _ => readNumber? false text
    match number with
    | none => stop .expectedValue text
    | some (.error cause, rest) => stop cause rest
    | some (.ok value, rest) => .ok (value, rest)

mutual

/-- The value at the start of a text. Lists and records may be opened inside each other as often as
there is room. -/
def readValue : (steps room : Nat) → Text → Except Fault (Json × Text)
  | 0, _, text => stop .expectedValue text
  | steps + 1, _, .char '"' :: rest => do
    let (s, rest) ← readText ('"' :: rest) steps rest
    .ok (str s, rest)
  | _ + 1, 0, .char '[' :: rest => stop (.nestedTooDeep .list) ('[' :: rest)
  | steps + 1, room + 1, .char '[' :: rest =>
    match skipLayout rest with
    | .char ']' :: rest => .ok (arr [], rest)
    | rest => do
      let (items, rest) ← readItems steps room rest
      .ok (arr items, rest)
  | _ + 1, 0, .char '\x7b' :: rest => stop (.nestedTooDeep .record) ('\x7b' :: rest)
  | steps + 1, room + 1, .char '\x7b' :: rest =>
    match skipLayout rest with
    | .char '\x7d' :: rest => .ok (obj [], rest)
    | rest => do
      let (members, rest) ← readMembers steps room rest
      .ok (obj (Named.update [] members), rest)
  | _ + 1, _, text => readAtom text

/-- The items of a list up to its closing bracket. -/
def readItems : (steps room : Nat) → Text → Except Fault (List Json × Text)
  | 0, _, text => stop .expectedValue text
  | steps + 1, room, text => do
    let (item, rest) ← readValue steps room text
    match skipLayout rest with
    | .char ']' :: rest => .ok ([item], rest)
    | .char ',' :: rest => do
      let (items, rest) ← readItems steps room (skipLayout rest)
      .ok (item :: items, rest)
    | rest => stop .expectedComma rest

/-- The members of a record up to its closing brace, a name given twice still standing twice. -/
def readMembers : (steps room : Nat) → Text → Except Fault (List (Text × Json) × Text)
  | 0, _, text => stop .expectedName text
  | steps + 1, room, .char '"' :: rest => do
    let (name, rest) ← readText ('"' :: rest) steps rest
    match skipLayout rest with
    | .char ':' :: rest => do
      let (value, rest) ← readValue steps room (skipLayout rest)
      match skipLayout rest with
      | .char '\x7d' :: rest => .ok ([(name, value)], rest)
      | .char ',' :: rest => do
        let (members, rest) ← readMembers steps room (skipLayout rest)
        .ok ((name, value) :: members, rest)
      | rest => stop .expectedComma rest
    | rest => stop .expectedColon rest
  | _ + 1, _, text => stop .expectedName text

end

/-- Reads a text that holds one value and layout around it, with some room for nesting. Each step
of the recursion above is paid for by a code point or by the move from a list to its next item. -/
def readWithin (room : Nat) (text : Text) : Except Fault Json := do
  let (value, rest) ← readValue (2 * text.length + 2) room (skipLayout text)
  match skipLayout rest with
  | [] => .ok value
  | rest => stop .extraData rest

/-- Reads the text of a file, which must not start with a byte order mark. -/
def read (room : Nat) (text : Text) : Except Fault Json :=
  match text with
  | [] => readWithin room []
  | c :: rest =>
    if c.code = 0xFEFF then stop .byteOrderMark (c :: rest) else readWithin room (c :: rest)

end PackOpening.Json
