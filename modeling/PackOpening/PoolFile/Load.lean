import PackOpening.Card.Data
import PackOpening.Json.Place
import PackOpening.Storage.Tree
import PackOpening.Text.Utf8

/-!
Pool files: exports that hold a list of card objects, bare or as the member `data` of an object.
A file is taken as a whole or refused; the first malformed card is the one reported. How deep lists
and records may be nested in a file depends on the work in the course of which it is read: the room
for them.
-/
namespace PackOpening.PoolFile

open PackOpening.Text

inductive Fault where
  | access (fault : Path.Fault)
  | undecodable (fault : Utf8.Fault) (size : Nat)
  | unreadable (fault : Json.Fault) (text : Text)
  | notAList
  | badCard (index : Nat) (fault : Card.ExportFault)
  deriving Repr

/-- Every kind of line end becomes a line feed. -/
def lineFeeds : List Char → List Char
  | [] => []
  | '\r' :: '\n' :: rest => '\n' :: lineFeeds rest
  | c :: rest => (if c = '\r' then '\n' else c) :: lineFeeds rest

/-- The list of card objects in the data of a file. -/
def cardList? : Json → Option (List Json)
  | .arr items => some items
  | .obj members =>
    match members.lookup ("data" : Text) with
    | none => some []
    | some (.arr items) => some items
    | some _ => none
  | _ => none

/-- The cards of objects whose first has the given index. -/
def cardsFrom (index : Nat) : List Json → Except Fault (List Card)
  | [] => .ok []
  | item :: rest =>
    match Card.ofExport false item with
    | .error fault => .error (.badCard index fault)
    | .ok card =>
      match cardsFrom (index + 1) rest with
      | .error fault => .error fault
      | .ok cards => .ok (card :: cards)

def ofData (data : Json) : Except Fault (List Card) :=
  match cardList? data with
  | none => .error .notAList
  | some items => cardsFrom 0 items

def ofText (room : Nat) (text : Text) : Except Fault (List Card) :=
  match Json.read room text with
  | .error fault => .error (.unreadable fault text)
  | .ok data => ofData data

/-- The cards of a file with these bytes. -/
def ofBytes (room : Nat) (bytes : List UInt8) : Except Fault (List Card) :=
  match Utf8.decode bytes with
  | .error fault => .error (.undecodable fault bytes.length)
  | .ok chars => ofText room (ofChars (lineFeeds chars))

/-- The cards of the file that a folder entry is. -/
def ofNode (room : Nat) : Node → Except Fault (List Card)
  | .file bytes => ofBytes room bytes
  | .folder _ => .error (.access .isFolder)

/-- The cards of the file at a path. -/
def load (room : Nat) (root : Node) (path : Path) : Except Fault (List Card) :=
  match root.find path with
  | .error fault => .error (.access fault)
  | .ok node => ofNode room node

/-- The report of a fault. Reports of the system show the plain form of the path, those about the
content show it as it was given. -/
def Fault.message (given plain : Text) : Fault → Text
  | .access fault => fault.message plain
  | .undecodable fault size => fault.message size
  | .unreadable fault text => fault.message text
  | .notAList => given ++ ": expected a list of cards"
  | .badCard index fault =>
    given ++ ": card #" ++ ofChars (Numeric.digitsOf index) ++ " is malformed (" ++
      fault.message ++ ")"

end PackOpening.PoolFile
