import PackOpening.Named

/-!
Structured data: null, truth values, integers, floating-point numbers, texts, lists and records.

A record keeps its members in the order in which their names were first given, so a record read
from text has distinct names.
-/
namespace PackOpening

inductive Json where
  | null
  | bool (b : Bool)
  | int (n : Int)
  | float (x : Float)
  | str (s : Text)
  | arr (items : List Json)
  | obj (members : List (Text × Json))
  deriving Repr, Inhabited

namespace Json

/-- One step from a value to a part of it. -/
inductive Step where
  | key (name : Text)
  | index (position : Nat)
  deriving DecidableEq, Repr

/-- Integers with more digits than this are neither read nor written. -/
def digitLimit : Nat := 4300

/-- The member of a record, `none` also for what is no record. -/
def member? (name : Text) : Json → Option Json
  | obj members => members.lookup name
  | _ => none

/-- Empty and zero values count as false, everything else as true. -/
def truthy : Json → Bool
  | null => false
  | bool b => b
  | int n => n != 0
  | float x => x != 0.0
  | str s => !s.isEmpty
  | arr items => !items.isEmpty
  | obj members => !members.isEmpty

/-- The text itself, or null. -/
def ofText? : Option Text → Json
  | none => null
  | some s => str s

def ofTexts (texts : List Text) : Json := arr (texts.map str)

def ofNat (n : Nat) : Json := int n

end Json
end PackOpening
