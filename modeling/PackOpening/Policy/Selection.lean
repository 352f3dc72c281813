import PackOpening.Numeric.Written
import PackOpening.Policy.Basic

/-!
Which policy opens a pack: play packs exist since 2024, and a name that is not known means a legacy
pack.
-/
namespace PackOpening.Policy

open PackOpening.Numeric

def firstPlayYear : Int := 2024

/-- The year of a date, which its first four characters write; zero if they write no integer. -/
def releaseYear (date : Option Text) : Int :=
  (readInt? ((date.getD []).take 4)).getD 0

def select (name : Text) (date : Option Text) : Policy :=
  if name = "collector" then collector
  else if name = "play" ∧ firstPlayYear ≤ releaseYear date then play
  else legacy

end PackOpening.Policy
