import PackOpening.PoolFile.Scan
import PackOpening.Service.Event

/-!
The registry: the pools that were loaded, by set. A later load replaces the pools of the sets that
it found and leaves the others as they are.
-/
namespace PackOpening.Service

abbrev Registry := SetPools

namespace Registry

/-- Takes over the pools of a scan. -/
def load (registry : Registry) (scan : PoolFile.Scan) : Registry :=
  Named.update registry scan.pools

/-- What the load of a scan reports; nothing is said of an empty side. -/
def loadEvents (shownFolder : Text) (scan : PoolFile.Scan) : List Event :=
  (if scan.files.isEmpty then []
    else [.poolsLoaded scan.files (Text.sorted (scan.pools.map Prod.fst))]) ++
  (if scan.faults.isEmpty then [] else [.poolLoadErrors (scan.errors shownFolder)])

/-- The pool of a set: the cards sent with a request if there are any, else the loaded ones. -/
def poolFor (registry : Registry) (supplied : SetPools) (code : Text) : List Card :=
  match supplied.of code with
  | [] => SetPools.of registry code
  | cards => cards

end Registry
end PackOpening.Service
