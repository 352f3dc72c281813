import PackOpening.Json.IntegerText
import PackOpening.Json.Basic
import PackOpening.Numeric.FloatParts

/-!
Checks that turn data into typed values.

A check that fails reports every fault it met, each with the place and the value at fault, in the
order in which the parts are checked. Combining two checks runs both, so the faults of the first
come before those of the second.
-/
namespace PackOpening.Json

open PackOpening.Numeric

/-- What is wrong with a part of the data. -/
inductive FlawKind where
  | missing
  | notText
  | brokenText
  | notList
  | notRecord
  | notDictionary
  | notTruth
  | unknownTruth
  | notInteger
  | unreadableInteger
  | oversizedInteger
  | fractionalInteger
  | malformed
  deriving DecidableEq, Repr

/-- The kind of a fault, the way to the part at fault, and the value found there. For a missing
member that value is the record that lacks it. -/
structure Flaw where
  kind : FlawKind
  path : List Step
  found : Json
  deriving Repr

/-- A typed value, or the flaws of the data it was to be made from. -/
inductive Checked (α : Type) where
  | ok (value : α)
  | flawed (flaws : List Flaw)
  deriving Repr

namespace Checked

variable {α β : Type}

def flaws : Checked α → List Flaw
  | ok _ => []
  | flawed fs => fs

def map (f : α → β) : Checked α → Checked β
  | ok value => ok (f value)
  | flawed fs => flawed fs

/-- Applies a checked function to a checked value; the flaws of both are kept, in this order. -/
def apply (f : Checked (α → β)) (x : Checked α) : Checked β :=
  match f, x with
  | ok f, ok value => ok (f value)
  | f, x => flawed (f.flaws ++ x.flaws)

/-- Moves the flaws of a part one step down. -/
def within (step : Step) : Checked α → Checked α
  | ok value => ok value
  | flawed fs => flawed (fs.map (fun flaw => { flaw with path := step :: flaw.path }))

instance : Functor Checked where
  map := map

instance : Applicative Checked where
  pure := ok
  seq f x := apply f (x ())

end Checked

/-- A single flaw at the value itself. -/
def reject {α : Type} (kind : FlawKind) (found : Json) : Checked α := .flawed [⟨kind, [], found⟩]

/-- A text, whatever it holds. -/
def text : Json → Checked Text
  | str s => .ok s
  | j => reject .notText j

/-- Null stands for no value. -/
def optional {α : Type} (check : Json → Checked α) : Json → Checked (Option α)
  | null => .ok none
  | j => (check j).map some

/-- Checks the items from a position on. -/
def itemsFrom {α : Type} (check : Json → Checked α) : (position : Nat) → List Json →
    Checked (List α)
  | _, [] => .ok []
  | position, item :: rest =>
    List.cons <$> (check item).within (.index position) <*> itemsFrom check (position + 1) rest

def listOf {α : Type} (check : Json → Checked α) : Json → Checked (List α)
  | arr items => itemsFrom check 0 items
  | j => reject .notList j

def membersOf {α : Type} (check : Json → Checked α) : List (Text × Json) →
    Checked (List (Text × α))
  | [] => .ok []
  | (name, value) :: rest =>
    (fun v vs => (name, v) :: vs) <$> (check value).within (.key name) <*> membersOf check rest

/-- A record whose members all have one shape. -/
def dictionaryOf {α : Type} (check : Json → Checked α) : Json → Checked (List (Text × α))
  | obj members => membersOf check members
  | j => reject .notDictionary j

/-- Only a record has members to be checked. -/
def record {α : Type} (check : Json → Checked α) : Json → Checked α
  | obj members => check (obj members)
  | j => reject .notRecord j

/-- A member that has to be there. -/
def required {α : Type} (name : Text) (check : Json → Checked α) (whole : Json) : Checked α :=
  match whole.member? name with
  | some value => (check value).within (.key name)
  | none => .flawed [⟨.missing, [.key name], whole⟩]

/-- A member with a value of its own when it is not there. -/
def withDefault {α : Type} (name : Text) (default : α) (check : Json → Checked α)
    (whole : Json) : Checked α :=
  match whole.member? name with
  | some value => (check value).within (.key name)
  | none => .ok default

def wordsForTrue : List Text := ["1", "on", "t", "true", "y", "yes"]

def wordsForFalse : List Text := ["0", "off", "f", "false", "n", "no"]

/-- The truth value of a word, in any letter case. -/
def truthWord? (word : Text) : Option Bool :=
  let small := word.map (·.map Char.toLower)
  if small ∈ wordsForTrue then some true
  else if small ∈ wordsForFalse then some false
  else none

/-- What is read off a text, which must not hold surrogates then. -/
def unbroken {α : Type} (s : Text) (reading : Checked α) : Checked α :=
  if s.any CodePoint.isSurrogate then reject .brokenText (str s) else reading

/-- The whole number in a floating-point number, if it lies strictly within the signed
sixty-four-bit range. -/
def moderateWhole? (x : Float) : Option Int :=
  match (FloatParts.ofFloat x).whole? with
  | some n => if -(twoTo 63 : Int) < n ∧ n < twoTo 63 then some n else none
  | none => none

def truthOfInt (n : Int) (j : Json) : Checked Bool :=
  if n = 0 then .ok false else if n = 1 then .ok true else reject .unknownTruth j

/-- A truth value, the numbers zero and one, or a word for one of them. Other words and other whole
numbers of ordinary size are unknown; anything else is no truth value at all. -/
def truth : Json → Checked Bool
  | bool b => .ok b
  | int n =>
    if -(twoTo 63 : Int) ≤ n ∧ n < twoTo 63 then truthOfInt n (int n) else reject .notTruth (int n)
  | float x =>
    match moderateWhole? x with
    | some n => truthOfInt n (float x)
    | none => reject .notTruth (float x)
  | str s => unbroken s <|
    match truthWord? s with
    | some b => .ok b
    | none => reject .unknownTruth (str s)
  | j => reject .notTruth j

/-- An integer, a truth value counting as zero or one, a floating-point number without a fraction,
or a text that writes an integer. -/
def integer : Json → Checked Int
  | int n => .ok n
  | bool b => .ok (if b then 1 else 0)
  | float x =>
    match (FloatParts.ofFloat x).whole? with
    | some _ =>
      match moderateWhole? x with
      | some n => .ok n
      | none => reject .oversizedInteger (float x)
    | none => reject .fractionalInteger (float x)
  | str s => unbroken s <|
    match IntegerText.read s with
    | .integer n => .ok n
    | .oversized => reject .oversizedInteger (str s)
    | .unreadable => reject .unreadableInteger (str s)
  | j => reject .notInteger j

end PackOpening.Json
