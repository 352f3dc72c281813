import PackOpening.Proofs.Json.RoundTrip
import PackOpening.Proofs.Log.Routing
import PackOpening.Service.Event

/-!
One event, one line.

Whatever the data of an event hold, they are written without an end of line: a record escapes all
that is not printable ASCII, and the form for readers escapes line feeds and carriage returns in
every text. So a leaf writes one line for an event, with one line feed at its end, and the lines of
a file are those that its leaves wrote, in their order. Names of logs and events stand unescaped in
the form for readers only; those of the service hold no end of line.
-/
namespace PackOpening.Log

open PackOpening.Json PackOpening.Numeric

/-- The code points that end a line. -/
def isLineEnd (c : CodePoint) : Bool := c == .char '\n' || c == .char '\r'

/-- A text within one line. -/
def IsUnbroken (text : Text) : Prop := ∀ c ∈ text, isLineEnd c = false

instance : DecidablePred IsUnbroken := fun text =>
  inferInstanceAs (Decidable (∀ c ∈ text, isLineEnd c = false))

/-- One line: a text within it, and a line feed. -/
def IsLine (line : Text) : Prop := ∃ content, IsUnbroken content ∧ line = content ++ "\n"

/-- The lines of a text, each with what ends it; the last one may be left open. -/
def linesOf : Text → List Text
  | [] => []
  | c :: rest =>
    if isLineEnd c then [c] :: linesOf rest
    else match linesOf rest with
      | [] => [[c]]
      | line :: others => (c :: line) :: others

/-- A text whose last line is not left open. -/
def IsClosed (text : Text) : Prop := ∀ c, text.getLast? = some c → isLineEnd c = true

section Unbroken

variable {text text' : Text}

theorem isUnbroken_append :
    IsUnbroken (text ++ text') ↔ IsUnbroken text ∧ IsUnbroken text' :=
  List.forall_mem_append

theorem isUnbroken_cons {c : CodePoint} :
    IsUnbroken (c :: text) ↔ isLineEnd c = false ∧ IsUnbroken text :=
  List.forall_mem_cons

/-- Printable ASCII holds no end of line. -/
theorem isUnbroken_of_isPrinted {chars : List Char} (printed : IsPrinted chars) :
    IsUnbroken (Text.ofChars chars) := by
  intro c member
  obtain ⟨d, there, rfl⟩ := List.mem_map.1 member
  have low := (printed d there).1
  simp only [isLineEnd, Bool.or_eq_false_iff, beq_eq_false_iff_ne, ne_eq, CodePoint.char.injEq]
  constructor
  · rintro rfl
    exact absurd low (by decide)
  · rintro rfl
    exact absurd low (by decide)

theorem isUnbroken_hexDigits (n count : Nat) : IsUnbroken (Text.hexDigits n count) := by
  have digits : ∀ m < 16, isLineEnd (.char (Nat.digitChar m)) = false := by decide
  induction count generalizing n with
  | zero => simp [Text.hexDigits, IsUnbroken]
  | succ count ih =>
    refine isUnbroken_append.2 ⟨ih _, List.forall_mem_singleton.2 (digits _ ?_)⟩
    exact Nat.mod_lt n (by decide)

theorem isUnbroken_numbered (c : CodePoint) : IsUnbroken (Text.numbered c) := by
  unfold Text.numbered
  split
  · exact isUnbroken_append.2 ⟨by decide, isUnbroken_hexDigits _ _⟩
  split
  · exact isUnbroken_append.2 ⟨by decide, isUnbroken_hexDigits _ _⟩
  · exact isUnbroken_append.2 ⟨by decide, isUnbroken_hexDigits _ _⟩

/-- Ends of lines are escaped even if they should count as printable. -/
theorem isUnbroken_quotedCode {quote : CodePoint} (plain : isLineEnd quote = false)
    (c : CodePoint) : IsUnbroken (Text.quotedCode quote c) := by
  unfold Text.quotedCode
  split
  · next escaped =>
    refine isUnbroken_cons.2 ⟨by decide, List.forall_mem_singleton.2 ?_⟩
    rcases escaped with rfl | rfl
    · exact plain
    · decide
  split
  · decide
  split
  · decide
  split
  · decide
  next lineFeed carriageReturn _ =>
  split
  · refine List.forall_mem_singleton.2 ?_
    simp [isLineEnd, lineFeed, carriageReturn]
  · exact isUnbroken_numbered c

theorem isUnbroken_quoted (s : Text) : IsUnbroken (Text.quoted s) := by
  have quote : isLineEnd (Text.quoteFor s) = false := by
    unfold Text.quoteFor
    split <;> decide
  refine isUnbroken_cons.2 ⟨quote, isUnbroken_append.2 ⟨?_, List.forall_mem_singleton.2 quote⟩⟩
  intro d member
  obtain ⟨c, _, inside⟩ := List.mem_flatMap.1 member
  exact isUnbroken_quotedCode quote c d inside

/-- The two layouts of numbers differ in the words for what is not finite only. -/
theorem isUnbroken_consoleLayout_write (x : Float) :
    IsUnbroken (Text.ofChars (consoleLayout.write x)) := by
  cases parts : FloatParts.ofFloat x with
  | nan =>
    rw [FloatLayout.write, parts]
    decide
  | infinite negative =>
    rw [FloatLayout.write, parts]
    cases negative <;> decide
  | finite negative m q =>
    have same : consoleLayout.write x = dataLayout.write x := by
      rw [FloatLayout.write, FloatLayout.write, parts]
      rfl
    rw [same]
    exact isUnbroken_of_isPrinted (isPrinted_write x)

mutual

/-- Data as shown to readers stay within a line. -/
theorem isUnbroken_shown : ∀ j : Json, IsUnbroken (shown j)
  | .null => by decide
  | .bool b => by cases b <;> decide
  | .int n => isUnbroken_of_isPrinted (isPrinted_intDigits n)
  | .float x => isUnbroken_consoleLayout_write x
  | .str s => isUnbroken_quoted s
  | .arr items =>
    isUnbroken_append.2 ⟨isUnbroken_append.2 ⟨by decide, isUnbroken_shownItems items⟩, by decide⟩
  | .obj members =>
    isUnbroken_append.2
      ⟨isUnbroken_append.2 ⟨by decide, isUnbroken_shownMembers members⟩, by decide⟩

theorem isUnbroken_shownItems : ∀ items : List Json, IsUnbroken (shownItems items)
  | [] => by decide
  | [item] => isUnbroken_shown item
  | item :: next :: rest =>
    isUnbroken_append.2 ⟨isUnbroken_append.2 ⟨isUnbroken_shown item, by decide⟩,
      isUnbroken_shownItems (next :: rest)⟩

theorem isUnbroken_shownMembers : ∀ members : List (Text × Json),
    IsUnbroken (shownMembers members)
  | [] => by decide
  | [(name, value)] =>
    isUnbroken_append.2 ⟨isUnbroken_append.2 ⟨isUnbroken_quoted name, by decide⟩,
      isUnbroken_shown value⟩
  | (name, value) :: next :: rest => by
    refine isUnbroken_append.2 ⟨isUnbroken_append.2 ⟨?_, by decide⟩,
      isUnbroken_shownMembers (next :: rest)⟩
    exact isUnbroken_append.2 ⟨isUnbroken_append.2 ⟨isUnbroken_quoted name, by decide⟩,
      isUnbroken_shown value⟩

end

end Unbroken

section Lines

/-- A record is one line, whatever it holds. -/
theorem isLine_print (j : Json) : IsLine (j.print ++ "\n") := by
  refine ⟨Text.ofChars (render j), isUnbroken_of_isPrinted (isPrinted_render j), ?_⟩
  simp [Json.print, Text.ofString]

theorem isUnbroken_levelName (level : Level) : IsUnbroken level.name := by
  cases level <;> decide

theorem isLine_consoleLine {time logType : Text} {entry : Entry} (clock : IsUnbroken time)
    (log : IsUnbroken logType) (event : IsUnbroken entry.event) :
    IsLine (entry.consoleLine time logType) := by
  refine ⟨_, ?_, rfl⟩
  simp only [Entry.consoleText, isUnbroken_append, clock, log, event, isUnbroken_levelName,
    isUnbroken_shown, and_true]
  decide

/-- A leaf writes one line for an event. In the form for readers the time and the names of the log
and of the event stand as they are. -/
theorem isLine_line {leaf : Leaf} {time : Text} {entry : Entry}
    (named : leaf.form = .console →
      IsUnbroken time ∧ IsUnbroken leaf.logType ∧ IsUnbroken entry.event) :
    IsLine (leaf.line time entry) := by
  unfold Leaf.line
  cases form : leaf.form with
  | console =>
    obtain ⟨clock, log, event⟩ := named form
    exact isLine_consoleLine clock log event
  | records => exact isLine_print _
  | file folder => exact isLine_print _

theorem linesOf_line_append {line : Text} (one : IsLine line) (rest : Text) :
    linesOf (line ++ rest) = line :: linesOf rest := by
  obtain ⟨content, unbroken, rfl⟩ := one
  induction content with
  | nil => rfl
  | cons c others ih =>
    obtain ⟨inside, unbroken⟩ := isUnbroken_cons.1 unbroken
    have onward := ih unbroken
    rw [List.cons_append, List.cons_append, linesOf, onward, inside]
    rfl

/-- Lines that are written one after the other are found again. -/
theorem linesOf_flatten {lines : List Text} (each : ∀ line ∈ lines, IsLine line) :
    linesOf lines.flatten = lines := by
  induction lines with
  | nil => rfl
  | cons line rest ih =>
    obtain ⟨one, others⟩ := List.forall_mem_cons.1 each
    rw [List.flatten_cons, linesOf_line_append one, ih others]

theorem isClosed_tail {c : CodePoint} {rest : Text} (present : rest ≠ [])
    (closed : IsClosed (c :: rest)) : IsClosed rest := by
  intro d last
  refine closed d ?_
  rwa [List.getLast?_cons_of_ne_nil present]

/-- Behind a text whose last line is closed a new line begins. -/
theorem linesOf_append {text : Text} (closed : IsClosed text) (rest : Text) :
    linesOf (text ++ rest) = linesOf text ++ linesOf rest := by
  induction text with
  | nil => rfl
  | cons c others ih =>
    by_cases last : others = []
    · subst last
      have ends : isLineEnd c = true := closed c rfl
      simp [linesOf, ends]
    · have onward := ih (isClosed_tail last closed)
      have present : linesOf others ≠ [] := by
        cases others with
        | nil => exact absurd rfl last
        | cons d others =>
          unfold linesOf
          split
          · simp
          · split <;> simp
      rw [List.cons_append, linesOf, linesOf, onward]
      cases found : linesOf others with
      | nil => exact absurd found present
      | cons line lines =>
        split
        · rfl
        · rfl

end Lines

/-- The leaves that write to a file for a call. -/
def Plan.writersTo (plan : Plan) (output : Output) (file : Path) (call : Call) : List Leaf :=
  (plan.writers output call).filter (output.place · == some file)

theorem linesAt_eq (plan : Plan) (output : Output) (file : Path) (call : Call) :
    plan.linesAt output (some file) call =
      (plan.writersTo output file call).map (·.line call.time call.entry) :=
  rfl

/-- Only leaves with a file write to one, and these write records. -/
theorem isLine_of_mem_linesAt {plan : Plan} {output : Output} {file : Path} {call : Call}
    {line : Text} (member : line ∈ plan.linesAt output (some file) call) : IsLine line := by
  obtain ⟨leaf, listed, rfl⟩ := List.mem_map.1 member
  have there := (List.mem_filter.1 listed).2
  refine isLine_line fun form => ?_
  simp [Output.place, Leaf.path?, form] at there

/-- The event that a record of the service is logged as. -/
def entryOf (record : Service.Record) : Entry := ⟨record.level, record.name, record.data⟩

/-- How the logger of an environment is put together. -/
def Environment.plan (env : Environment) (logType : Text) : Plan :=
  let leaf (form : Form) : Plan := .leaf ⟨form, logType, env.level.getD "INFO"⟩
  if env.mode.getD "dev" = "prod" then
    .group [leaf (.file (env.folder.getD "logs")), leaf .records]
  else leaf .console

theorem sink_plan (env : Environment) (logType : Text) :
    (env.plan logType).sink = env.sink logType := by
  unfold Environment.plan Environment.sink Sink.forMode
  split <;> rfl

/-- The line of a write, if it has one. -/
def Write.line? : Write → Option Text
  | .console (.ok line) | .file _ (.ok line) => some line
  | _ => none

/-- If a leaf has a line to write, it is its own. -/
theorem line_of_write {leaf : Leaf} {groups : Nat} {call : Call} {line : Text}
    (written : (leaf.write groups call).line? = some line) :
    leaf.line call.time call.entry = line := by
  unfold Leaf.write Sink.toFile at written
  cases formed : leaf.formed groups call with
  | ok text =>
    have same : text = line := by
      rw [formed] at written
      split at written
      · exact Option.some.inj written
      · split at written
        · cases written
        · exact Option.some.inj written
    exact (formed_eq_ok.1 (same ▸ formed)).2
  | error why =>
    rw [formed] at written
    split at written
    · cases written
    · split at written <;> cases written

theorem isUnbroken_logType (record : Service.Record) : IsUnbroken record.logType := by
  cases record <;> simp only [Service.Record.logType] <;> decide

/-- The names of events hold nothing of what the events tell. -/
theorem isUnbroken_name (record : Service.Record) : IsUnbroken record.name := by
  cases record with
  | service event =>
    cases event <;> simp only [Service.Record.name, Service.Event.name] <;> decide
  | pack event => cases event <;> simp only [Service.Record.name, PackEvent.name] <;> decide

theorem logType_of_mem_leaves {env : Environment} {logType : Text} {leaf : Leaf}
    (member : leaf ∈ (env.plan logType).leaves) : leaf.logType = logType := by
  unfold Environment.plan at member
  split at member
  · simp only [Plan.leaves, leavesOf, List.append_nil, List.mem_append, List.mem_singleton]
      at member
    rcases member with rfl | rfl <;> rfl
  · rw [List.mem_singleton.1 member]

theorem isLine_of_mem_writes {env : Environment} {record : Service.Record} {moment : Moment}
    (clock : IsUnbroken moment.time) {write : Write} {line : Text}
    (member : write ∈ (env.sink record.logType).writes moment (entryOf record) 0)
    (written : write.line? = some line) : IsLine line := by
  rw [← sink_plan, writes_plan ⟨moment, entryOf record⟩] at member
  obtain ⟨stop, passed, member⟩ := List.mem_flatMap.1 member
  rcases List.mem_append.1 member with lost | member
  · unfold Sink.reached at lost
    split at lost
    · rw [List.mem_singleton.1 lost] at written
      cases written
    · cases lost
  · obtain ⟨leaf, here, rfl⟩ := Option.map_eq_some_iff.1 (Option.mem_toList.1 member)
    have listed : leaf ∈ (env.plan record.logType).leaves := by
      have named := List.mem_filterMap.2 ⟨stop, passed, here⟩
      rw [leaves_stops] at named
      exact (List.mem_filter.1 named).1
    have log := logType_of_mem_leaves listed
    rw [← line_of_write written]
    exact isLine_line fun _ => ⟨clock, log ▸ isUnbroken_logType record, isUnbroken_name record⟩

/-- A leaf writes an event as one line, which holds a line feed at its end and no other end of line;
for readers it does so if the time and the names of the log and the event are within a line. So the
lines of a file are those that were there, if the last of them was closed, and one for each event
that a leaf writes to it. Whatever the service has to log, its loggers write it in one line each,
with all texts of a request in the data. -/
theorem lines_cannot_be_forged (plan : Plan) (output : Output) (calls : List Call)
    (accepted : ∀ call ∈ calls, call.entry.reserved? = none) :
    let after := output.logAll plan.sink calls
    (∀ (leaf : Leaf) (time : Text) (entry : Entry),
      (leaf.form = .console →
        IsUnbroken time ∧ IsUnbroken leaf.logType ∧ IsUnbroken entry.event) →
      IsLine (leaf.line time entry)) ∧
    (∀ file, IsClosed ((output.files.lookup file).getD []) →
      linesOf ((after.files.lookup file).getD []) =
        linesOf ((output.files.lookup file).getD []) ++ calls.flatMap (fun call =>
          (plan.writersTo output file call).map (·.line call.time call.entry)) ∧
      (linesOf ((after.files.lookup file).getD [])).length =
        (linesOf ((output.files.lookup file).getD [])).length +
          (calls.flatMap (plan.writersTo output file)).length) ∧
    ∀ (env : Environment) (record : Service.Record) (moment : Moment), IsUnbroken moment.time →
      ∀ write ∈ (env.sink record.logType).writes moment (entryOf record) 0, ∀ line,
        write.line? = some line → IsLine line := by
  intro after
  have lines (file : Path) (closed : IsClosed ((output.files.lookup file).getD [])) :
      linesOf ((after.files.lookup file).getD []) =
        linesOf ((output.files.lookup file).getD []) ++
          calls.flatMap (plan.linesAt output (some file)) := by
    rw [(Output.grows_logAll output plan accepted).content file, linesOf_append closed,
      linesOf_flatten fun line member => ?_]
    obtain ⟨call, _, there⟩ := List.mem_flatMap.1 member
    exact isLine_of_mem_linesAt there
  refine ⟨fun _ _ _ => isLine_line, fun file closed => ⟨lines file closed, ?_⟩,
    fun _ _ _ clock _ member _ => isLine_of_mem_writes clock member⟩
  rw [lines file closed, List.length_append, List.length_flatMap, List.length_flatMap]
  simp only [linesAt_eq, List.length_map]

/-- Names and data full of ends of lines: two calls are two lines of their file, and the console has
one line for each. -/
theorem lines_cannot_be_forged_line_feeds :
    let plan : Plan := .group [.leaf ⟨.file "d", "k\n", "debug"⟩, .leaf ⟨.console, "k", "debug"⟩]
    let output : Output := ⟨[], [], [], [[], ["d"]]⟩
    let moment : Moment := ⟨"t", ⟨1, 1, fun _ => 1, fun _ => 2⟩, .free⟩
    let calls : List Call :=
      [⟨moment, ⟨.info, "e", [("a\n", .str "\r\n")]⟩⟩, ⟨moment, ⟨.warn, "f\r", []⟩⟩]
    let file : Path := ["d", "k\n.log"]
    let entry : Entry := ⟨.error, "g", [("a", .obj [("'\n", .str "\"\r\n'")])]⟩
    (∀ call ∈ calls, call.entry.reserved? = none) ∧
    (linesOf (((output.logAll plan.sink calls).files.lookup file).getD [])).length = 2 ∧
    IsLine (entry.consoleLine "t" "k") := by
  intro plan output moment calls file entry
  have accepted : ∀ call ∈ calls, call.entry.reserved? = none := by decide
  obtain ⟨line, lines, _⟩ := lines_cannot_be_forged plan output calls accepted
  have closed : IsClosed ((output.files.lookup file).getD []) := by
    rintro _ ⟨⟩
  have count := (lines file closed).2
  exact ⟨accepted, count.trans (by decide +kernel),
    line ⟨.console, "k", "debug"⟩ "t" entry fun _ => by decide⟩

end PackOpening.Log
