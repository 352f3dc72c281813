import PackOpening.Log.Sink
import PackOpening.Proofs.Json.Limits

/-!
Leaves, and the lines that they form.

A leaf is given by where it writes, the name of its log and the name of its least level. A line for
readers is formed if its data can be shown and the console takes it; a record is formed if it can be
printed, since the console takes all that is ASCII. So a leaf writes its line where it writes, or
the call breaks off there.
-/
namespace PackOpening.Log

open PackOpening.Json PackOpening.Numeric

/-- Where a leaf writes, and in which form: to the console for readers, to the console as records,
or to the file of its log in a folder. -/
inductive Form where
  | console
  | records
  | file (folder : Text)
  deriving DecidableEq, Repr

/-- A leaf as it is asked for, with the name of its least level in any letter case. -/
structure Leaf where
  form : Form
  logType : Text
  minLevel : Text
  deriving DecidableEq, Repr

/-- A call of a logger, with what it finds when it is made. -/
structure Call where
  moment : Moment
  entry : Entry

def Call.time (call : Call) : Text := call.moment.time

namespace Leaf

def sink (leaf : Leaf) : Sink :=
  let settings : Settings := ⟨leaf.logType, Level.ofName leaf.minLevel⟩
  match leaf.form with
  | .console => .console settings
  | .records => .records settings
  | .file folder => .inFolder settings folder

/-- The file of a leaf. -/
def path? (leaf : Leaf) : Option Path :=
  match leaf.form with
  | .console | .records => none
  | .file folder => some (Path.inFolder folder (leaf.logType ++ ".log"))

/-- The line that a leaf writes for an event. -/
def line (leaf : Leaf) (time : Text) (entry : Entry) : Text :=
  match leaf.form with
  | .console => entry.consoleLine time leaf.logType
  | .records => (entry.nested time leaf.logType).print ++ "\n"
  | .file _ => (entry.merged time leaf.logType).print ++ "\n"

/-- The level that the name of a least level stands for. -/
def least (leaf : Leaf) : Level :=
  let upper := Text.uppercase leaf.minLevel
  if upper = "DEBUG" then .debug
  else if upper = "WARN" ∨ upper = "WARNING" then .warn
  else if upper = "ERROR" then .error
  else .info

/-- Whether a leaf writes the events of a level. -/
def emits (leaf : Leaf) (level : Level) : Bool := leaf.least.rank ≤ level.rank

end Leaf

section Levels

/-- The stored level of a leaf is the one that the name of its least level stands for. -/
theorem ofName_minLevel (leaf : Leaf) : Level.ofName leaf.minLevel = leaf.least := by
  unfold Level.ofName Leaf.least
  generalize Text.uppercase leaf.minLevel = upper
  by_cases warning : upper = "WARNING"
  · subst warning
    decide
  by_cases known : ∃ level : Level, level.name = upper
  · obtain ⟨level, rfl⟩ := known
    cases level <;> decide
  · have other (level : Level) : upper ≠ level.name := fun same => known ⟨level, same.symm⟩
    have unknown : Level.all.find? (fun level => level.name == upper) = none :=
      List.find?_eq_none.2 fun level _ => by simpa using (other level).symm
    have debug : upper ≠ "DEBUG" := other .debug
    have warn : upper ≠ "WARN" := other .warn
    have error : upper ≠ "ERROR" := other .error
    simp only [unknown, warning, debug, warn, error, if_false, or_false, Option.getD_none]

end Levels

mutual

/-- How many levels of values inside each other there are in a value. -/
def height : Json → Nat
  | .arr items => heightOfItems items + 1
  | .obj members => heightOfMembers members + 1
  | _ => 1

def heightOfItems : List Json → Nat
  | [] => 0
  | item :: rest => max (height item) (heightOfItems rest)

def heightOfMembers : List (Text × Json) → Nat
  | [] => 0
  | (_, value) :: rest => max (height value) (heightOfMembers rest)

end

section Showing

theorem height_pos (j : Json) : 0 < height j := by
  cases j with
  | arr | obj => exact Nat.succ_pos _
  | null | bool | int | float | str => exact Nat.one_pos

mutual

/-- A value is shown exactly if there are levels enough for it and all of its integers are brief. -/
theorem showFault?_eq_none_iff : ∀ {room : Nat} {j : Json},
    showFault? room j = none ↔ height j ≤ room ∧ isBrief j = true
  | 0, j => by simp [showFault?, Nat.ne_of_gt (height_pos j)]
  | _ + 1, .null | _ + 1, .bool _ | _ + 1, .float _ | _ + 1, .str _ => by
    simp [showFault?, height, isBrief]
  | room + 1, .int n => by
    simp only [showFault?, digitFault?_eq_none_iff, height]
    exact (and_iff_right (Nat.le_add_left 1 room)).symm
  | room + 1, .arr items => by
    rw [showFault?, showFaultItems?_eq_none_iff, height, isBrief, Nat.add_le_add_iff_right]
  | room + 1, .obj members => by
    rw [showFault?, showFaultMembers?_eq_none_iff, height, isBrief, Nat.add_le_add_iff_right]

theorem showFaultItems?_eq_none_iff : ∀ {room : Nat} {items : List Json},
    showFaultItems? room items = none ↔ heightOfItems items ≤ room ∧ areBrief items = true
  | _, [] => by simp [showFaultItems?, heightOfItems, areBrief]
  | room, item :: rest => by
    rw [showFaultItems?, Option.or_eq_none_iff, showFault?_eq_none_iff,
      showFaultItems?_eq_none_iff, heightOfItems, Nat.max_le, areBrief, Bool.and_eq_true]
    exact and_and_and_comm

theorem showFaultMembers?_eq_none_iff : ∀ {room : Nat} {members : List (Text × Json)},
    showFaultMembers? room members = none ↔
      heightOfMembers members ≤ room ∧ haveBrief members = true
  | _, [] => by simp [showFaultMembers?, heightOfMembers, haveBrief]
  | room, (_, value) :: rest => by
    rw [showFaultMembers?, Option.or_eq_none_iff, showFault?_eq_none_iff,
      showFaultMembers?_eq_none_iff, heightOfMembers, Nat.max_le, haveBrief, Bool.and_eq_true]
    exact and_and_and_comm

end

end Showing

/-- Whether the line of a leaf inside some groups can be formed. For readers, the data must have
brief integers and levels for which there is room, and the console must take the text; a record must
fit. -/
def Leaf.forms (leaf : Leaf) (groups : Nat) (call : Call) : Bool :=
  let moment := call.moment
  let entry := call.entry
  match leaf.form with
  | .console =>
    (height (.obj entry.data) ≤ moment.stack.shownRoom groups && isBrief (.obj entry.data)) &&
      (moment.console.fault? (entry.consoleText moment.time leaf.logType)).isNone
  | .records => Fits (moment.stack.recordRoom groups) (entry.nested moment.time leaf.logType)
  | .file _ => Fits (moment.stack.recordRoom groups) (entry.merged moment.time leaf.logType)

/-- The line of a leaf inside some groups, or why there is none. -/
def Leaf.formed (leaf : Leaf) (groups : Nat) (call : Call) : Except Refusal Text :=
  match leaf.form with
  | .console => call.entry.shownLine call.moment groups leaf.logType
  | .records => call.entry.nestedLine call.moment groups leaf.logType
  | .file _ => call.entry.mergedLine call.moment groups leaf.logType

/-- What a leaf inside some groups writes for a call. -/
def Leaf.write (leaf : Leaf) (groups : Nat) (call : Call) : Write :=
  match leaf.path? with
  | none => .console (leaf.formed groups call)
  | some path => Sink.toFile call.moment groups path (leaf.formed groups call)

section Writes

theorem writes_leaf (leaf : Leaf) (groups : Nat) (call : Call) :
    leaf.sink.writes call.moment call.entry groups =
      Sink.reached call.moment groups ++
        if leaf.emits call.entry.level then [leaf.write groups call] else [] := by
  unfold Leaf.emits
  rw [← ofName_minLevel]
  unfold Leaf.sink Leaf.write Leaf.path? Leaf.formed
  cases leaf.form <;> simp [Sink.writes, Sink.passed, Sink.inFolder, Level.passes]

/-- A console takes every record. -/
theorem fault?_print (console : Console) (j : Json) : console.fault? j.print = none := by
  refine console.takesAscii _ fun c there => ?_
  obtain ⟨d, member, rfl⟩ : ∃ d ∈ render j, CodePoint.char d = c := by
    simpa [Json.print, Text.ofString, Text.ofChars] using there
  exact Nat.lt_of_le_of_lt (isPrinted_render j d member).2 (by decide)

theorem lineOf_eq_ok {text line : Text} {refusal : Option Refusal} :
    lineOf text refusal = .ok line ↔ refusal = none ∧ text ++ "\n" = line := by
  cases refusal <;> simp [lineOf]

/-- A leaf has its line exactly if it can be formed. -/
theorem formed_eq_ok {leaf : Leaf} {groups : Nat} {call : Call} {line : Text} :
    leaf.formed groups call = .ok line ↔
      leaf.forms groups call = true ∧ leaf.line call.time call.entry = line := by
  unfold Leaf.formed Leaf.forms Leaf.line
  cases leaf.form with
  | console =>
    simp only [Entry.shownLine, lineOf_eq_ok, Option.or_eq_none_iff, Option.map_eq_none_iff,
      showFault?_eq_none_iff, Bool.and_eq_true, decide_eq_true_eq, Option.isNone_iff_eq_none]
    rfl
  | records =>
    simp only [Entry.nestedLine, lineOf_eq_ok, Option.or_eq_none_iff, Option.map_eq_none_iff,
      printFault?_eq_none_iff, fault?_print, decide_eq_true_eq, and_true]
    rfl
  | file folder =>
    simp only [Entry.mergedLine, lineOf_eq_ok, Option.map_eq_none_iff, printFault?_eq_none_iff,
      decide_eq_true_eq]
    rfl

end Writes

end PackOpening.Log
