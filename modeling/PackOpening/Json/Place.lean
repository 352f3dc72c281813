import PackOpening.Json.Reader

/-!
Where in a text a fault lies, and how it is reported: lines and columns are counted from one,
code points from zero.
-/
namespace PackOpening.Json

structure Place where
  line : Nat
  column : Nat
  offset : Nat
  deriving DecidableEq, Repr

/-- The place behind a part of a text. -/
def Place.after (part : Text) : Place :=
  ⟨part.count (.char '\n') + 1, (part.reverse.takeWhile (· != .char '\n')).length + 1, part.length⟩

/-- The place of a fault in the text where it was found. -/
def Fault.place (text : Text) (fault : Fault) : Place :=
  .after (text.take (text.length - fault.left))

def Container.name : Container → String
  | .list => "array"
  | .record => "object"

def Cause.message : Cause → String
  | .byteOrderMark => "Unexpected UTF-8 BOM (decode using utf-8-sig)"
  | .expectedValue => "Expecting value"
  | .expectedName => "Expecting property name enclosed in double quotes"
  | .expectedColon => "Expecting ':' delimiter"
  | .expectedComma => "Expecting ',' delimiter"
  | .extraData => "Extra data"
  | .unterminatedText => "Unterminated string starting at"
  | .controlCharacter => "Invalid control character at"
  | .badEscape => "Invalid \\escape"
  | .badUnitEscape => "Invalid \\uXXXX escape"
  | .tooManyDigits count =>
    "Exceeds the limit (" ++ String.ofList (Numeric.digitsOf digitLimit) ++
      " digits) for integer string conversion: value has " ++
      String.ofList (Numeric.digitsOf count) ++
      " digits; use sys.set_int_max_str_digits() to increase the limit"
  | .nestedTooDeep container =>
    "maximum recursion depth exceeded while decoding a JSON " ++ container.name ++
      " from a unicode string"

/-- The report of a fault. An integer that is too long and data that are nested too deep are
reported without their place. -/
def Fault.message (text : Text) (fault : Fault) : String :=
  let place := fault.place text
  let number (n : Nat) : String := String.ofList (Numeric.digitsOf n)
  match fault.cause with
  | .tooManyDigits _ | .nestedTooDeep _ => fault.cause.message
  | cause =>
    cause.message ++ ": line " ++ number place.line ++ " column " ++ number place.column ++
      " (char " ++ number place.offset ++ ")"

end PackOpening.Json
