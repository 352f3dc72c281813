import PackOpening.Text.Uppercase

/-!
Levels of events, and the names under which a least level can be asked for.
-/
namespace PackOpening.Log

/-- How grave an event is, from the lowest up. -/
inductive Level where
  | debug | info | warn | error
  deriving DecidableEq, Repr, Inhabited

namespace Level

def all : List Level := [debug, info, warn, error]

def rank : Level → Nat
  | debug => 10
  | info => 20
  | warn => 30
  | error => 40

def name : Level → Text
  | debug => "DEBUG"
  | info => "INFO"
  | warn => "WARN"
  | error => "ERROR"

/-- Whether events of a level pass where `least` is asked for. -/
def passes (level least : Level) : Bool := least.rank ≤ level.rank

/-- The level of a name in any letter case. `WARNING` is another name of `WARN`, and a name that is
not known asks for `INFO`. -/
def ofName (name : Text) : Level :=
  let upper := Text.uppercase name
  if upper = "WARNING" then warn else (all.find? (fun level => level.name == upper)).getD info

end Level
end PackOpening.Log
