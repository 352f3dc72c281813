import PackOpening.Proofs.Log.Forming

/-!
How loggers are put together, and where a call comes by.

A logger is made of leaves and groups. A call comes by them from left to right, a group in front of
its members, and a leaf writes one line for it if its level is grave enough; groups change nothing.
The call breaks off at the first stop that it does not get past: one inside more groups than it gets
through, or a leaf whose file cannot be opened or whose line cannot be formed. What comes of a call
is what comes of it at the stops, and the leaves among them are those of the logger.
-/
namespace PackOpening.Log

/-- How a logger is put together. -/
inductive Plan where
  | leaf (leaf : Leaf)
  | group (members : List Plan)

mutual

def Plan.sink : Plan → Sink
  | .leaf leaf => leaf.sink
  | .group members => .group (sinksOf members)

def sinksOf : List Plan → List Sink
  | [] => []
  | first :: rest => first.sink :: sinksOf rest

end

mutual

/-- The leaves of a logger from left to right. -/
def Plan.leaves : Plan → List Leaf
  | .leaf leaf => [leaf]
  | .group members => leavesOf members

def leavesOf : List Plan → List Leaf
  | [] => []
  | first :: rest => first.leaves ++ leavesOf rest

end

/-- Where a call comes by: a group or a leaf, inside some groups. -/
inductive Stop where
  | group (groups : Nat)
  | leaf (groups : Nat) (leaf : Leaf)

def Stop.groups : Stop → Nat
  | .group groups => groups
  | .leaf groups _ => groups

/-- The leaf of a stop that writes the events of a level. -/
def Stop.leaf? (level : Level) : Stop → Option Leaf
  | .group _ => none
  | .leaf _ here => if here.emits level then some here else none

mutual

/-- The stops of a logger that stands inside some groups, from left to right. -/
def Plan.stops (groups : Nat) : Plan → List Stop
  | .leaf leaf => [.leaf groups leaf]
  | .group members => .group groups :: stopsOf (groups + 1) members

def stopsOf (groups : Nat) : List Plan → List Stop
  | [] => []
  | first :: rest => first.stops groups ++ stopsOf groups rest

end

namespace Output

/-- Carries out calls one after the other. A call that breaks off does not keep the next one from
being made. -/
def logAll (output : Output) (sink : Sink) : List Call → Output
  | [] => output
  | call :: rest => (output.log call.moment sink call.entry).1.logAll sink rest

/-- Whether a leaf can write: its file, if it has one, is not refused. -/
def serves (output : Output) (leaf : Leaf) : Bool :=
  leaf.path?.all fun path => (output.fileFault? path).isNone

/-- The file that a leaf writes to, `none` for the console. -/
def place (output : Output) (leaf : Leaf) : Option Path :=
  leaf.path?.map (Path.located output.home)

section Ways

variable (output : Output) (call : Call)

/-- Whether a call opens what a leaf inside some groups writes to. -/
def opens (groups : Nat) (leaf : Leaf) : Bool :=
  output.serves leaf && (leaf.path?.isNone || groups ≤ call.moment.stack.fileReach)

/-- The file that a call opens at a stop. -/
def opened? (stop : Stop) : Option Path :=
  if stop.groups ≤ call.moment.stack.reach then
    (stop.leaf? call.entry.level).bind fun leaf =>
      if output.opens call stop.groups leaf then output.place leaf else none
  else none

/-- Whether a call gets past a stop. -/
def passes (stop : Stop) : Bool :=
  stop.groups ≤ call.moment.stack.reach &&
    (stop.leaf? call.entry.level).all fun leaf =>
      output.opens call stop.groups leaf && leaf.forms stop.groups call

/-- The leaves that write for a call at some stops: those of its level, up to the first stop that it
does not get past. -/
def writersAt (stops : List Stop) : List Leaf :=
  (stops.takeWhile (output.passes call)).filterMap (·.leaf? call.entry.level)

/-- The files that a call opens at some stops, up to the one where it breaks off, and there, too. -/
def openedAt (stops : List Stop) : List Path :=
  (stops.takeWhile (output.passes call) ++ (stops.dropWhile (output.passes call)).take 1).filterMap
    (output.opened? call)

/-- The lines that some leaves write to the console, or to one file. -/
def linesBy (leaves : List Leaf) (place : Option Path) : List Text :=
  (leaves.filter (output.place · == place)).map (·.line call.time call.entry)

end Ways

end Output

/-- The leaves that write for a call. -/
def Plan.writers (plan : Plan) (output : Output) (call : Call) : List Leaf :=
  output.writersAt call (plan.stops 0)

/-- The files that a call opens. -/
def Plan.opened (plan : Plan) (output : Output) (call : Call) : List Path :=
  output.openedAt call (plan.stops 0)

/-- The lines of a call for the console, or for one file. -/
def Plan.linesAt (plan : Plan) (output : Output) (place : Option Path) (call : Call) : List Text :=
  output.linesBy call (plan.writers output call) place

section Stops

/-- What comes of a call at a stop. -/
def Stop.writes (call : Call) (stop : Stop) : List Write :=
  Sink.reached call.moment stop.groups ++
    ((stop.leaf? call.entry.level).map (·.write stop.groups call)).toList

mutual

/-- What comes of a call at a logger is what comes of it at the stops, from left to right. -/
theorem writes_plan (call : Call) : ∀ (plan : Plan) (groups : Nat),
    plan.sink.writes call.moment call.entry groups = (plan.stops groups).flatMap (·.writes call)
  | .leaf leaf, groups => by
    rw [Plan.sink, Plan.stops, writes_leaf, List.flatMap_singleton, Stop.writes]
    by_cases emits : leaf.emits call.entry.level = true <;>
      simp [Stop.groups, Stop.leaf?, emits]
  | .group members, groups => by
    rw [Plan.sink, Sink.writes, Plan.stops, List.flatMap_cons, writesAll_plans call members]
    simp [Stop.writes, Stop.groups, Stop.leaf?]

theorem writesAll_plans (call : Call) : ∀ (plans : List Plan) (groups : Nat),
    Sink.writesAll call.moment call.entry groups (sinksOf plans) =
      (stopsOf groups plans).flatMap (·.writes call)
  | [], _ => rfl
  | first :: rest, groups => by
    rw [sinksOf, Sink.writesAll, stopsOf, List.flatMap_append, writes_plan call first,
      writesAll_plans call rest]

end

mutual

/-- The leaves of the stops are those of the logger. -/
theorem leaves_stops (level : Level) : ∀ (plan : Plan) (groups : Nat),
    (plan.stops groups).filterMap (·.leaf? level) = plan.leaves.filter (·.emits level)
  | .leaf leaf, groups => by
    by_cases emits : leaf.emits level = true <;>
      simp [Plan.stops, Plan.leaves, Stop.leaf?, emits]
  | .group members, groups => by
    rw [Plan.stops, Plan.leaves, ← leaves_stopsOf level members (groups + 1)]
    rfl

theorem leaves_stopsOf (level : Level) : ∀ (plans : List Plan) (groups : Nat),
    (stopsOf groups plans).filterMap (·.leaf? level) = (leavesOf plans).filter (·.emits level)
  | [], _ => rfl
  | first :: rest, groups => by
    rw [stopsOf, leavesOf, List.filterMap_append, List.filter_append, leaves_stops level first,
      leaves_stopsOf level rest]

end

end Stops

end PackOpening.Log
