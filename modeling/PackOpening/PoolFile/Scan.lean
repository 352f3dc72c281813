import PackOpening.PoolFile.Load
import PackOpening.Pool.Basic
import PackOpening.Text.Order

/-!
Scanning a folder for pool files. Every entry whose name ends in `.json` is tried, in the order of
the names; each is either loaded as a whole, its cards grouped by set and put behind those of the
files before it, or reported. A file that is nested too deep breaks the scan off.
-/
namespace PackOpening.PoolFile

/-- What has been found: the pools of the loaded files, their names, and the faults of the others.
-/
structure Scan where
  pools : SetPools
  files : List Text
  faults : List (Text × Fault)
  deriving Repr

def hasPoolName (name : Text) : Bool := (".json" : Text).isSuffixOf name

/-- The entries to be tried, in the order of their names. -/
def candidates (entries : List (Text × Node)) : List (Text × Node) :=
  (entries.filter (fun entry => hasPoolName entry.1)).mergeSort
    (fun a b => Text.inOrder a.1 b.1)

/-- Where a file is nested too deep, if that is its fault. -/
def Fault.breach? : Fault → Option Json.Container
  | .unreadable ⟨.nestedTooDeep container, _⟩ _ => some container
  | _ => none

namespace Scan

/-- Before any entry is tried. -/
def empty : Scan := ⟨[], [], []⟩

/-- Takes over what one entry comes to: all of its cards by set, or its fault. -/
def add (scan : Scan) (name : Text) :
    Except Fault (List Card) → Except Json.Container Scan
  | .ok cards =>
    .ok { scan with
      pools := scan.pools.join (Pool.bySet cards)
      files := scan.files ++ [name] }
  | .error fault =>
    match fault.breach? with
    | some container => .error container
    | none => .ok { scan with faults := scan.faults ++ [(name, fault)] }

/-- Tries some entries one after another. -/
def addAll (room : Nat) (scan : Scan) : List (Text × Node) → Except Json.Container Scan
  | [] => .ok scan
  | (name, node) :: rest =>
    match scan.add name (ofNode room node) with
    | .error container => .error container
    | .ok scan => scan.addAll room rest

/-- The reports of the files that could not be loaded, in a folder shown under the given name. -/
def errors (shownFolder : Text) (scan : Scan) : List Text :=
  scan.faults.map (fun (name, fault) =>
    let path := shownFolder ++ "/" ++ name
    name ++ ": " ++ fault.message path path)

end Scan

/-- The scan of a folder, or the container at which it breaks off. -/
def scanThrough (room : Nat) (entries : List (Text × Node)) : Except Json.Container Scan :=
  Scan.empty.addAll room (candidates entries)

end PackOpening.PoolFile
