import PackOpening.Card.Basic
import PackOpening.Json.Check

/-!
Cards as data: the ten members of a card, and the checks that read them back.

Two notations are read. The first names the members as they are written here. The second is that of
card exports, in which the set code is the member `set` and a few members are read more freely.
-/
namespace PackOpening.Card

open PackOpening.Json

/-- The data of a card, its members in a fixed order. -/
def toData (card : Card) : Json :=
  .obj [
    ("id", .str card.id),
    ("name", .str card.name),
    ("set_code", .str card.setCode),
    ("collector_number", .ofText? card.collectorNumber),
    ("rarity", .str card.rarity),
    ("disabled", .bool card.disabled),
    ("type_line", .ofText? card.typeLine),
    ("border_color", .ofText? card.borderColor),
    ("full_art", .bool card.fullArt),
    ("frame_effects", .ofTexts card.frameEffects)]

/-- Checks the members of a record in the order of the fields. Members with other names are
ignored; only the id and the rarity have to be there. -/
def ofRecord (whole : Json) : Checked Card :=
  Card.mk <$> required "id" text whole
    <*> withDefault "name" "" text whole
    <*> withDefault "set_code" "" text whole
    <*> withDefault "collector_number" none (optional text) whole
    <*> required "rarity" text whole
    <*> withDefault "disabled" false truth whole
    <*> withDefault "type_line" none (optional text) whole
    <*> withDefault "border_color" none (optional text) whole
    <*> withDefault "full_art" false truth whole
    <*> withDefault "frame_effects" [] (listOf text) whole

/-- The card that data describe. -/
def ofData : Json → Checked Card := record ofRecord

/-- What stands where an exported object should. -/
inductive Misfit where
  | null | truth | integer | number | text | list
  deriving DecidableEq, Repr

/-- Why an exported object gives no card. -/
inductive ExportFault where
  | notAnObject (found : Misfit)
  | missingId
  | flawed (flaws : List Flaw)
  deriving Repr

/-- The members of a card as an exported object gives them. A name, set or rarity that is absent is
empty, the two truth values are read from any value, and any empty value stands for no frame
effects. `disabled` is what an object without that member has. -/
def exportedMembers (disabled : Bool) (id whole : Json) : List (Text × Json) :=
  let orElse (name : Text) (default : Json) := (whole.member? name).getD default
  let effects := orElse "frame_effects" .null
  [ ("id", id),
    ("name", orElse "name" (.str "")),
    ("set_code", orElse "set" (.str "")),
    ("collector_number", orElse "collector_number" .null),
    ("rarity", orElse "rarity" (.str "")),
    ("disabled", .bool (orElse "disabled" (.bool disabled)).truthy),
    ("type_line", orElse "type_line" .null),
    ("border_color", orElse "border_color" .null),
    ("full_art", .bool (orElse "full_art" (.bool false)).truthy),
    ("frame_effects", if effects.truthy then effects else .arr [])]

/-- The card that an exported object describes. -/
def ofExport (disabled : Bool) : Json → Except ExportFault Card
  | .obj members =>
    match members.lookup ("id" : Text) with
    | none => .error .missingId
    | some id =>
      match ofRecord (.obj (exportedMembers disabled id (.obj members))) with
      | .ok card => .ok card
      | .flawed flaws => .error (.flawed flaws)
  | .null => .error (.notAnObject .null)
  | .bool _ => .error (.notAnObject .truth)
  | .int _ => .error (.notAnObject .integer)
  | .float _ => .error (.notAnObject .number)
  | .str _ => .error (.notAnObject .text)
  | .arr _ => .error (.notAnObject .list)

/-- The report of what was found instead of an object. -/
def Misfit.message : Misfit → String
  | null => "'NoneType' object is not subscriptable"
  | truth => "'bool' object is not subscriptable"
  | integer => "'int' object is not subscriptable"
  | number => "'float' object is not subscriptable"
  | text => "string indices must be integers, not 'str'"
  | list => "list indices must be integers or slices, not str"

/-- The count of the flaws of one card. -/
def flawCount (flaws : List Flaw) : String :=
  String.ofList (Numeric.digitsOf flaws.length) ++
    (if flaws.length = 1 then " validation error for Card" else " validation errors for Card")

def ExportFault.message : ExportFault → String
  | .notAnObject found => found.message
  | .missingId => "'id'"
  | .flawed flaws => flawCount flaws

end PackOpening.Card
