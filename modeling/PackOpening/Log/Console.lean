import PackOpening.Json.Printer
import PackOpening.Text.Quoted

/-!
Data as shown on the console: texts in quotes, and the three plain words capitalised. Data are not
shown if they hold an integer of too many digits, or if values are nested in them too deep.
-/
namespace PackOpening.Log

open PackOpening.Numeric

mutual

def shown : Json → Text
  | .null => "None"
  | .bool true => "True"
  | .bool false => "False"
  | .int n => Text.ofChars (intDigits n)
  | .float x => Text.ofChars (consoleLayout.write x)
  | .str s => Text.quoted s
  | .arr items => "[" ++ shownItems items ++ "]"
  | .obj members => "\x7b" ++ shownMembers members ++ "\x7d"

def shownItems : List Json → Text
  | [] => []
  | [item] => shown item
  | item :: next :: rest => shown item ++ ", " ++ shownItems (next :: rest)

def shownMembers : List (Text × Json) → Text
  | [] => []
  | [(name, value)] => Text.quoted name ++ ": " ++ shown value
  | (name, value) :: next :: rest =>
    Text.quoted name ++ ": " ++ shown value ++ ", " ++ shownMembers (next :: rest)

end

open Json (PrintFault)

mutual

/-- What keeps a value from being shown, of several faults the first one in it. Every value stands
one level below the one that holds it, and there is room for some levels. -/
def showFault? : (room : Nat) → Json → Option PrintFault
  | 0, _ => some .nestedTooDeep
  | _ + 1, .int n => Json.digitFault? n
  | room + 1, .arr items => showFaultItems? room items
  | room + 1, .obj members => showFaultMembers? room members
  | _, _ => none

def showFaultItems? (room : Nat) : List Json → Option PrintFault
  | [] => none
  | item :: rest => (showFault? room item).or (showFaultItems? room rest)

def showFaultMembers? (room : Nat) : List (Text × Json) → Option PrintFault
  | [] => none
  | (_, value) :: rest => (showFault? room value).or (showFaultMembers? room rest)

end

end PackOpening.Log
