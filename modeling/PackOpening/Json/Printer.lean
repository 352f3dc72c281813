import PackOpening.Json.Basic
import PackOpening.Numeric.Shortest

/-!
Data written as one line of ASCII text. Items are separated by a comma and a space, names from
values by a colon and a space, and every code point outside printable ASCII is escaped by its
sixteen-bit units. A value is not printed if it holds an integer of too many digits, or if lists and
records are nested in it too deep.
-/
namespace PackOpening.Json

open PackOpening.Numeric

def hexDigit (n : Nat) : Char := Nat.digitChar (n % 16)

/-- Four hexadecimal digits of a sixteen-bit unit. -/
def unitDigits (n : Nat) : List Char :=
  [hexDigit (n / 4096), hexDigit (n / 256), hexDigit (n / 16), hexDigit n]

def escapedUnit (n : Nat) : List Char := '\\' :: 'u' :: unitDigits n

/-- A code point inside a quoted text. -/
def escaped (c : CodePoint) : List Char :=
  if c = '"' then ['\\', '"']
  else if c = '\\' then ['\\', '\\']
  else if c = '\n' then ['\\', 'n']
  else if c = '\r' then ['\\', 'r']
  else if c = '\t' then ['\\', 't']
  else if c.code = 0x08 then ['\\', 'b']
  else if c.code = 0x0C then ['\\', 'f']
  else if 0x20 ≤ c.code ∧ c.code ≤ 0x7E then [Char.ofNat c.code]
  else if c.code < 0x10000 then escapedUnit c.code
  else
    let n := c.code - 0x10000
    escapedUnit (0xD800 + n / 0x400) ++ escapedUnit (0xDC00 + n % 0x400)

def quoted (s : Text) : List Char := '"' :: (s.flatMap escaped ++ ['"'])

mutual

def render : Json → List Char
  | null => ['n', 'u', 'l', 'l']
  | bool true => ['t', 'r', 'u', 'e']
  | bool false => ['f', 'a', 'l', 's', 'e']
  | int n => intDigits n
  | float x => dataLayout.write x
  | str s => quoted s
  | arr items => '[' :: (renderItems items ++ [']'])
  | obj members => '\x7b' :: (renderMembers members ++ ['\x7d'])

def renderItems : List Json → List Char
  | [] => []
  | [item] => render item
  | item :: next :: rest => render item ++ ',' :: ' ' :: renderItems (next :: rest)

def renderMembers : List (Text × Json) → List Char
  | [] => []
  | [(name, value)] => quoted name ++ ':' :: ' ' :: render value
  | (name, value) :: next :: rest =>
    quoted name ++ ':' :: ' ' :: (render value ++ ',' :: ' ' :: renderMembers (next :: rest))

end

/-- The line of text that stands for a value. -/
def print (j : Json) : String := String.ofList (render j)

/-- Why a value is not written out. -/
inductive PrintFault where
  | tooManyDigits
  | nestedTooDeep
  deriving DecidableEq, Repr

/-- What keeps an integer from being written out. -/
def digitFault? (n : Int) : Option PrintFault :=
  if digitLimit < (digitsOf n.natAbs).length then some .tooManyDigits else none

mutual

/-- What keeps a value from being printed, of several faults the first one in it. Lists and records
may be opened inside each other as often as there is room. -/
def printFault? : (room : Nat) → Json → Option PrintFault
  | _, int n => digitFault? n
  | 0, arr _ | 0, obj _ => some .nestedTooDeep
  | room + 1, arr items => printFaultItems? room items
  | room + 1, obj members => printFaultMembers? room members
  | _, _ => none

def printFaultItems? (room : Nat) : List Json → Option PrintFault
  | [] => none
  | item :: rest => (printFault? room item).or (printFaultItems? room rest)

def printFaultMembers? (room : Nat) : List (Text × Json) → Option PrintFault
  | [] => none
  | (_, value) :: rest => (printFault? room value).or (printFaultMembers? room rest)

end

/-- The report of a fault, met while something was done. -/
def PrintFault.message (doing : String) : PrintFault → Text
  | tooManyDigits =>
    "Exceeds the limit (" ++ String.ofList (digitsOf digitLimit) ++
      " digits) for integer string conversion; " ++
      "use sys.set_int_max_str_digits() to increase the limit"
  | nestedTooDeep => "maximum recursion depth exceeded while " ++ doing

end PackOpening.Json
