import PackOpening.Named
import PackOpening.Storage.Path

/-!
Files and folders, and what a path leads to among them.
-/
namespace PackOpening

inductive Node where
  | file (bytes : List UInt8)
  | folder (entries : List (Text × Node))
  deriving Repr, Inhabited

namespace Node

def entries : Node → List (Text × Node)
  | file _ => []
  | folder es => es

/-- What lies at the end of a path that starts in the last of some folders, each the child of the
one listed behind it. -/
def follow (node : Node) (above : List Node) : (path : Path) → Except Path.Fault Node
  | [] => .ok node
  | name :: rest =>
    match node with
    | file _ => .error .notFolder
    | folder es =>
      if name = Path.back then
        match above with
        | [] => follow (folder []) [] rest
        | parent :: above => follow parent above rest
      else if Path.isLongName name then .error .tooLong
      else match es.lookup name with
        | none => .error .absent
        | some child => follow child (folder es :: above) rest

/-- What lies at a path from the root. -/
def find (root : Node) (path : Path) : Except Path.Fault Node :=
  match path.refused? with
  | some fault => .error fault
  | none => root.follow [] path

/-- The entries of the folder at a path, none if there is no folder. Only a path that is too long is
at fault. -/
def listFolder (root : Node) (path : Path) : Except Path.Fault (List (Text × Node)) :=
  match root.find path with
  | .ok node => .ok node.entries
  | .error .tooLong => .error .tooLong
  | .error _ => .ok []

/-- Puts a node at a path, with the folders that lead to it. -/
def place (item : Node) : (path : Path) → Node → Node
  | [], _ => item
  | name :: rest, node =>
    let child := (node.entries.lookup name).getD (folder [])
    folder (Named.put name (place item rest child) node.entries)

end Node
end PackOpening
