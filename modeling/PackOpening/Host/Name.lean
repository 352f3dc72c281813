import PackOpening.Host.Label

/-!
Host names: labels with dots between them. A dot may stand behind the last label. Ideographic dots
count as dots when a name is taken apart; a written name has plain ones.
-/
namespace PackOpening.Host

open PackOpening.Text

/-- Why a text is no host name. -/
inductive NameFault where
  | tooLong
  | label (fault : LabelFault)
  deriving DecidableEq, Repr

def isDot (c : CodePoint) : Bool :=
  c == '.' || c.code == 0x3002 || c.code == 0xFF0E || c.code == 0xFF61

/-- The labels of a name that is not empty, and whether a dot stands behind the last one. -/
def labelsOf (name : Text) : List Text × Bool :=
  let labels := pieces (.char '.') (name.map fun c => if isDot c then .char '.' else c)
  if labels.getLast? = some [] then (labels.dropLast, true) else (labels, false)

/-- The most characters of a name, a dot at its end included or not. -/
def nameLimit (dotAtEnd : Bool) : Nat := if dotAtEnd then 254 else 253

/-- A name as it is written in ASCII. -/
def writeName (name : Text) : Except NameFault Text :=
  let (labels, dotAtEnd) := labelsOf name
  if nameLimit true < name.length then .error .tooLong
  else match labels.mapM writeLabel with
    | .error fault => .error (.label fault)
    | .ok labels =>
      let written := List.intercalate "." labels ++ (if dotAtEnd then [.char '.'] else [])
      if nameLimit dotAtEnd < written.length then .error .tooLong else .ok written

/-- What is wrong with a name that is to be written in ASCII. -/
def writtenNameFault? (name : Text) : Option NameFault :=
  match writeName name with
  | .error fault => some fault
  | .ok _ => none

/-- What keeps a name of ASCII characters from being read. -/
def readNameFault? (name : Text) : Option NameFault :=
  if nameLimit true < name.length then some .tooLong
  else ((labelsOf name).1.findSome? readFault?).map .label

def NameFault.message : NameFault → Text
  | tooLong => "Domain too long"
  | label fault => fault.message

example : labelsOf "bücher。example." = ([("bücher" : Text), ("example" : Text)], true) ∧
    labelsOf "a..b" = ([("a" : Text), [], ("b" : Text)], false) ∧
    readNameFault? "xn--.a" = some (.label .nothingWritten) := by decide +kernel

end PackOpening.Host
