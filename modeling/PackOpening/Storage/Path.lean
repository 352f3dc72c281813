import PackOpening.Text.Blank
import PackOpening.Text.Charset

/-!
Paths: lists of names that lead from a folder, or from the top of all folders if the first name is
that of the top. The empty name and the name of a single point stay where they are, and two points
lead back to the folder above; above the top there is nothing, and the way back from it ends there.
Names are stored as bytes, so two texts may name one file.
-/
namespace PackOpening

abbrev Path := List Text

namespace Path

/-- Why a path could not be used. -/
inductive Fault where
  | absent
  | isFolder
  | notFolder
  | tooLong
  | holdsNul
  | unencodable
  deriving DecidableEq, Repr

/-- The first name of a path from the top of all folders. -/
def top : Text := "/"

/-- The name that leads back to the folder above. -/
def back : Text := ".."

/-- The names on the way along a written path. -/
def ofText (path : Text) : Path :=
  (Text.pieces (.char '/') path).filter (fun name => name != [] && name != ".")

/-- The written form of a path. -/
def text : Path → Text
  | [] => []
  | first :: rest =>
    if first = top then top ++ List.intercalate "/" rest
    else List.intercalate "/" (first :: rest)

/-- The path of a name in a folder. A written form that starts with a slash leads from the top. -/
def inFolder (folder name : Text) : Path :=
  let isAbsolute (written : Text) : Bool := written.head? == some (.char '/')
  let written := if folder.isEmpty || isAbsolute name then name else folder ++ "/" ++ name
  if isAbsolute written then top :: ofText written else ofText written

/-- A path as it is shown below the name of its root. -/
def shownBelow (root : Text) (path : Path) : Text :=
  if path.isEmpty then root
  else if path.head? = some top then text path
  else root ++ "/" ++ text path

section Names

/-- Whether a surrogate stands for a byte that is no part of a text. -/
def isLoneByte (c : CodePoint) : Bool := 0xDC80 ≤ c.code && c.code ≤ 0xDCFF

/-- Whether a name can be stored: of surrogates it holds only those that stand for a byte. -/
def isStorable (c : CodePoint) : Bool := isLoneByte c || !c.isSurrogate

/-- A code point of a name as it is stored: each of its bytes for itself. -/
def storedCode : CodePoint → Text
  | .char c =>
    if c.toNat < 0x80 then [.char c]
    else (String.utf8EncodeChar c).map fun byte => .ofCode (0xDC00 + byte.toNat)
  | .surrogate offset => [.surrogate offset]

/-- A name as it is stored. -/
def stored (name : Text) : Text := name.flatMap storedCode

/-- The most bytes of a name. -/
def nameLimit : Nat := 255

/-- The most bytes of a path. -/
def sizeLimit : Nat := 4095

def isLongName (name : Text) : Bool := nameLimit < (stored name).length

end Names

/-- The report of a fault. A path that holds the character NUL is not shown, and of one that cannot
be stored the first surrogate at fault. -/
def Fault.message (shown : Text) (fault : Fault) : Text :=
  let about (report : String) : Text := report ++ Text.quoted shown
  match fault with
  | .absent => about "[Errno 2] No such file or directory: "
  | .isFolder => about "[Errno 21] Is a directory: "
  | .notFolder => about "[Errno 20] Not a directory: "
  | .tooLong => about "[Errno 36] File name too long: "
  | .holdsNul => "embedded null byte"
  | .unencodable =>
    let start := (shown.takeWhile isStorable).length
    ((Text.Charset.utf8.faultFrom? start (shown.drop start)).map (·.message)).getD []

/-- The fault of a path that is refused before it is followed. -/
def refused? (path : Path) : Option Fault :=
  if path.any (fun name => !name.all isStorable) then some .unencodable
  else if path.any (fun name => name.contains (.ofCode 0)) then some .holdsNul
  else if sizeLimit < (stored (text path)).length then some .tooLong
  else none

/-- A step from a folder, given by its names from the top. -/
def step (folder : Path) (name : Text) : Path :=
  if name = back then folder.dropLast else folder ++ [name]

/-- The names from the top on the way that a path leads from a folder, with every step back carried
out. -/
def settled (home : Path) : Path → Path
  | [] => home
  | first :: rest => if first = top then rest.foldl step [] else (first :: rest).foldl step home

/-- Where a path leads from a folder: the names from the top as they are stored. -/
def located (home path : Path) : Path := (settled home path).map stored

/-- The folders on the way to the end of a path from a folder, the end last. -/
def folders (home path : Path) : List Path :=
  (List.range (path.length + 1)).map fun count => located home (path.take count)

/-- Makes the folder at a path and the folders on the way to it, where some folders are there. It
fails at the first name that is too long: if the way up to this name is there the fault is about the
whole path, and otherwise about the part that ends with the name. -/
def makeFolder (home : Path) (there : List Path) (path : Path) :
    Except (Path × Fault) (List Path) :=
  match path.refused? with
  | some fault => .error (path, fault)
  | none =>
    match path.findIdx? isLongName with
    | none => .ok (there ++ folders home path)
    | some position =>
      if there.contains (located home (path.take position)) then .error (path, .tooLong)
      else .error (path.take (position + 1), .tooLong)

example : settled ["h"] (ofText "a/../b//c/.") = (["h", "b", "c"] : Path) ∧
    settled ["h"] (ofText "a/../../../b") = (["b"] : Path) ∧
    settled ["h"] (inFolder "/../x" "k") = settled ["h"] (inFolder "../x" "k") ∧
    folders ["h"] (ofText "a/..") = ([["h"], ["h", "a"], ["h"]] : List Path) := by
  decide +kernel

example : located [] ["\u00e9"] = located [] [[.ofCode 0xDCC3, .ofCode 0xDCA9]] := by
  decide +kernel

end Path
end PackOpening
