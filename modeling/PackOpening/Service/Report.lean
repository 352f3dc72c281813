import PackOpening.Json.Check

/-!
The report of the flaws of a request: the kind of each, the way to it, a sentence, and the value
found there. Only the way to a flaw is shown in plain characters.
-/
namespace PackOpening

open PackOpening.Json

/-- The word for a kind of flaw. -/
def Json.FlawKind.code : FlawKind → Text
  | missing => "missing"
  | notText => "string_type"
  | brokenText => "string_unicode"
  | notList => "list_type"
  | notRecord => "model_attributes_type"
  | notDictionary => "dict_type"
  | notTruth => "bool_type"
  | unknownTruth => "bool_parsing"
  | notInteger => "int_type"
  | unreadableInteger => "int_parsing"
  | oversizedInteger => "int_parsing_size"
  | fractionalInteger => "int_from_float"
  | malformed => "json_invalid"

/-- The sentence for a kind of flaw. -/
def Json.FlawKind.sentence : FlawKind → Text
  | missing => "Field required"
  | notText => "Input should be a valid string"
  | brokenText =>
    "Input should be a valid string, unable to parse raw data as a unicode string"
  | notList => "Input should be a valid list"
  | notRecord => "Input should be a valid dictionary or object to extract fields from"
  | notDictionary => "Input should be a valid dictionary"
  | notTruth => "Input should be a valid boolean"
  | unknownTruth => "Input should be a valid boolean, unable to interpret input"
  | notInteger => "Input should be a valid integer"
  | unreadableInteger =>
    "Input should be a valid integer, unable to parse string as an integer"
  | oversizedInteger => "Unable to parse input string as an integer, exceeded maximum size"
  | fractionalInteger => "Input should be a valid integer, got a number with a fractional part"
  | malformed => "JSON decode error"

namespace Service

def stepData : Step → Json
  | .key name => .str name.plain
  | .index position => .ofNat position

/-- The data of a report. -/
def reportData (flaws : List Flaw) : Json :=
  .obj [("detail", .arr (flaws.map fun flaw =>
    .obj [("type", .str flaw.kind.code), ("loc", .arr (flaw.path.map stepData)),
      ("msg", .str flaw.kind.sentence), ("input", flaw.found)]))]

end Service
end PackOpening
