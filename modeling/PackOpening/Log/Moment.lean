import PackOpening.Text.Charset

/-!
What a call of a logger finds: the time, how far it gets before the stack is full, and a console
that may not take every text.
-/
namespace PackOpening.Log

/-- A console: the report on a text that it does not take. It takes every text of ASCII. -/
structure Console where
  fault? : Text → Option Text
  takesAscii : ∀ text : Text, (∀ c ∈ text, c.code < 0x80) → fault? text = none

/-- A console that takes every text. -/
def Console.free : Console := ⟨fun _ => none, fun _ _ => rfl⟩

/-- How far a call gets before the stack is full: inside how many groups a member is called, and a
file opened; and how many levels there are, by the number of groups around a leaf, for lists and
records inside each other in a record, and for values inside each other in data shown to readers.
The record and the data themselves take a level. -/
structure Stack where
  reach : Nat
  fileReach : Nat
  recordRoom : (groups : Nat) → Nat
  shownRoom : (groups : Nat) → Nat

structure Moment where
  time : Text
  stack : Stack
  console : Console

end PackOpening.Log
