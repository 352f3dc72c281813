import PackOpening.Json.Printer
import PackOpening.Text.Charset

/-!
Data as they are sent: without blanks, and with every code point as it is except for quotes,
backslashes and control characters, which are escaped. Members whose names start with `_sa` are left
out. Data cannot be sent if they hold a number that is not finite or a surrogate, or if lists and
records are nested in them too deep.
-/
namespace PackOpening.Service

open PackOpening.Json

/-- Whether the member of a record is sent. -/
def isSent (name : Text) : Bool := !("_sa" : Text).isPrefixOf name

/-- Why data cannot be sent. -/
inductive SendFault where
  | notFinite
  | nestedTooDeep
  | unencodable (fault : Text.Charset.Fault)
  deriving DecidableEq, Repr

mutual

/-- What keeps a value from being written out, of several faults the first one in it. Lists and
records may be opened inside each other as often as there is room. -/
def writeFault? : (room : Nat) → Json → Option SendFault
  | _, .float x => if (Numeric.FloatParts.ofFloat x).isFinite then none else some .notFinite
  | 0, .arr _ | 0, .obj _ => some .nestedTooDeep
  | room + 1, .arr items => writeFaultItems? room items
  | room + 1, .obj members => writeFaultMembers? room members
  | _, _ => none

def writeFaultItems? (room : Nat) : List Json → Option SendFault
  | [] => none
  | item :: rest => (writeFault? room item).or (writeFaultItems? room rest)

def writeFaultMembers? (room : Nat) : List (Text × Json) → Option SendFault
  | [] => none
  | (name, value) :: rest =>
    (if isSent name then writeFault? room value else none).or (writeFaultMembers? room rest)

end

def sentCode (c : CodePoint) : Text :=
  if c.code < 0x20 ∨ c = '"' ∨ c = '\\' then Text.ofChars (escaped c) else [c]

def sentText (text : Text) : Text := "\"" ++ text.flatMap sentCode ++ "\""

mutual

/-- The text that is sent for a value. -/
def sent : Json → Text
  | .str s => sentText s
  | .arr items => "[" ++ List.intercalate "," (sentItems items) ++ "]"
  | .obj members => "\x7b" ++ List.intercalate "," (sentMembers members) ++ "\x7d"
  | plain => Text.ofChars plain.render

def sentItems : List Json → List Text
  | [] => []
  | item :: rest => sent item :: sentItems rest

def sentMembers : List (Text × Json) → List Text
  | [] => []
  | (name, value) :: rest =>
    if isSent name then (sentText name ++ ":" ++ sent value) :: sentMembers rest
    else sentMembers rest

end

/-- How deep lists and records may be nested in data that are sent: as deep as in the answers of the
service itself, for which there is always room, and deeper by what is spare. -/
def sendRoom (spare : Nat) : Nat := spare + 5

/-- What keeps data from being sent. They are written out before they are encoded. -/
def sendFault? (spare : Nat) (j : Json) : Option SendFault :=
  (writeFault? (sendRoom spare) j).or ((Text.Charset.utf8.fault? (sent j)).map .unencodable)

def SendFault.message : SendFault → Text
  | .notFinite => "Out of range float values are not JSON compliant"
  | .nestedTooDeep => "maximum recursion depth exceeded while encoding a JSON object"
  | .unencodable fault => fault.message

end PackOpening.Service
