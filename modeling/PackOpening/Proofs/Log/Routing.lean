import Mathlib.Data.List.TakeWhile
import PackOpening.Proofs.Log.Stops

/-!
Where events go.

At each stop that a call gets past, the leaf there adds its line to the console or to its file, and
changes nothing else; where the call breaks off, a file is opened at most. So over a whole run of
calls the console and every file grow by the lines of their own leaves, in the order of the calls
and within a call in the order of the leaves.
-/
namespace PackOpening.Log

open PackOpening.Json

/-- An output that grew by lines for the console and for files, where some files were opened, while
the folders stayed. A file is made only by being opened. -/
structure Output.Grows (before after : Output) (lines : Option Path → List Text)
    (opened : List Path) : Prop where
  console : after.console = before.console ++ (lines none).flatten
  content : ∀ file, (after.files.lookup file).getD [] =
    (before.files.lookup file).getD [] ++ (lines (some file)).flatten
  made : ∀ file,
    after.files.lookup file = none ↔ before.files.lookup file = none ∧ file ∉ opened
  folders : after.folders = before.folders
  home : after.home = before.home

namespace Output

variable {before middle after output : Output} {lines lines' : Option Path → List Text}
  {opened opened' : List Path} {call : Call}

theorem Grows.refl (output : Output) : output.Grows output (fun _ => []) [] :=
  ⟨by simp, by simp, by simp, rfl, rfl⟩

theorem Grows.trans (first : before.Grows middle lines opened)
    (second : middle.Grows after lines' opened') :
    before.Grows after (fun place => lines place ++ lines' place) (opened ++ opened') where
  console := by rw [second.console, first.console, List.flatten_append, List.append_assoc]
  content file := by
    rw [second.content, first.content, List.flatten_append, List.append_assoc]
  made file := by rw [second.made, first.made, List.mem_append, not_or, and_assoc]
  folders := second.folders.trans first.folders
  home := second.home.trans first.home

/-- A file that was opened is there. -/
theorem Grows.lookup (grows : before.Grows after lines opened) {file : Path}
    (there : file ∈ opened) : after.files.lookup file =
      some ((before.files.lookup file).getD [] ++ (lines (some file)).flatten) := by
  have content := grows.content file
  obtain ⟨text, found⟩ :=
    Option.ne_none_iff_exists'.1 fun none => ((grows.made file).1 none).2 there
  rw [found] at content ⊢
  exact congrArg some content

theorem lookup_appendText (path file : Path) (text : Text) (files : List (Path × Text)) :
    (appendText path text files).lookup file =
      if file = path then some ((files.lookup file).getD [] ++ text) else files.lookup file := by
  induction files with
  | nil =>
    by_cases same : file = path
    · simp [appendText, same]
    · simp [appendText, List.lookup_cons, same, beq_eq_false_iff_ne.2 same]
  | cons entry rest ih =>
    obtain ⟨first, content⟩ := entry
    by_cases there : file = first
    · by_cases here : first = path <;> simp [appendText, there, here]
    · have missed : (file == first) = false := beq_eq_false_iff_ne.2 there
      by_cases here : first = path
      · subst here
        simp [appendText, List.lookup_cons, missed, there]
      · simp only [appendText, here, if_false, List.lookup_cons, missed, ih]

/-- A file that is opened is there, and its content ends with what was added. -/
theorem grows_append (output : Output) (path : Path) (text : Text) :
    output.Grows (output.append path text)
      (fun place => if some (output.home.located path) = place then [text] else [])
      [output.home.located path] where
  console := by simp [append]
  content file := by
    by_cases same : output.home.located path = file
    · simp [append, lookup_appendText, same]
    · simp [append, lookup_appendText, same, Ne.symm same]
  made file := by
    by_cases same : file = output.home.located path <;> simp [append, lookup_appendText, same]
  folders := rfl
  home := rfl

theorem serves_congr (folders : after.folders = before.folders) (home : after.home = before.home) :
    after.serves = before.serves := by
  funext leaf
  simp only [serves, fileFault?, folders, home]

/-- What a call comes to at some stops depends on the folders, which stay. -/
theorem Grows.ways (grows : before.Grows after lines opened) (call : Call) :
    after.passes call = before.passes call ∧ after.writersAt call = before.writersAt call ∧
      after.openedAt call = before.openedAt call ∧ after.linesBy call = before.linesBy call := by
  have served := serves_congr grows.folders grows.home
  have opening : after.opens call = before.opens call := by
    funext groups leaf
    rw [opens, opens, served]
  have places : after.place = before.place := by
    funext leaf
    rw [place, place, grows.home]
  have passing : after.passes call = before.passes call := by
    funext stop
    rw [passes, passes, opening]
  have files : after.opened? call = before.opened? call := by
    funext stop
    rw [opened?, opened?, opening, places]
  refine ⟨passing, ?_, ?_, ?_⟩
  · funext stops
    rw [writersAt, writersAt, passing]
  · funext stops
    rw [openedAt, openedAt, passing, files]
  · funext leaves place
    rw [linesBy, linesBy, places]

theorem Grows.congr (grows : before.Grows after lines opened)
    (same : ∀ place, lines place = lines' place) : before.Grows after lines' opened :=
  funext same ▸ grows

section Steps

variable {leaf : Leaf} {groups : Nat}

/-- A file can be opened if it is not refused and the call gets that far. -/
theorem opens_of_path {path : Path} (there : leaf.path? = some path) :
    output.opens call groups leaf = true ↔
      output.fileFault? path = none ∧ groups ≤ call.moment.stack.fileReach := by
  simp [opens, serves, there]

theorem opens_of_no_path (there : leaf.path? = none) :
    output.opens call groups leaf = true := by
  simp [opens, serves, there]

/-- A file that can be opened takes a line, or is left as it is if the line cannot be formed. -/
theorem add_file {path : Path} {line : Except Refusal Text} (free : output.fileFault? path = none)
    (reached : groups ≤ call.moment.stack.fileReach) :
    output.add (Sink.toFile call.moment groups path line) =
      match line with
      | .ok line => (output.append path line, none)
      | .error why => (output.append path [], some why) := by
  rw [Sink.toFile, if_neg (Nat.not_lt.2 reached)]
  cases line <;> simp only [add, free]

/-- A leaf whose line can be formed adds it where it writes. -/
theorem add_of_forms (opens : output.opens call groups leaf = true)
    (forms : leaf.forms groups call = true) :
    ∃ after, output.add (leaf.write groups call) = (after, none) ∧
      output.Grows after
        (fun place => if output.place leaf = place then [leaf.line call.time call.entry] else [])
        (output.place leaf).toList := by
  have formed : leaf.formed groups call = .ok (leaf.line call.time call.entry) :=
    formed_eq_ok.2 ⟨forms, rfl⟩
  unfold Leaf.write place
  cases there : leaf.path? with
  | none =>
    refine ⟨{ output with console := output.console ++ leaf.line call.time call.entry }, ?_,
      by simp, by simp, by simp, rfl, rfl⟩
    rw [formed]
    rfl
  | some path =>
    obtain ⟨free, reached⟩ := (opens_of_path there).1 opens
    refine ⟨output.append path (leaf.line call.time call.entry), ?_, output.grows_append path _⟩
    rw [formed]
    exact add_file free reached

/-- A leaf whose line cannot be formed breaks the call off when its file is open. -/
theorem add_of_not_forms (opens : output.opens call groups leaf = true)
    (broken : leaf.forms groups call = false) :
    ∃ after why, output.add (leaf.write groups call) = (after, some why) ∧
      output.Grows after (fun _ => []) (output.place leaf).toList := by
  obtain ⟨why, formed⟩ : ∃ why, leaf.formed groups call = .error why := by
    cases formed : leaf.formed groups call with
    | ok line =>
      rw [(formed_eq_ok.1 formed).1] at broken
      cases broken
    | error why => exact ⟨why, rfl⟩
  unfold Leaf.write place
  cases there : leaf.path? with
  | none => exact ⟨output, why, by rw [formed]; rfl, Grows.refl output⟩
  | some path =>
    obtain ⟨free, reached⟩ := (opens_of_path there).1 opens
    have grows := output.grows_append path []
    refine ⟨output.append path [], why, ?_, grows.console.trans ?_, fun file => ?_, grows.made,
      rfl, rfl⟩
    · rw [formed]
      exact add_file free reached
    · simp
    · refine (grows.content file).trans ?_
      split <;> rfl

/-- A leaf that cannot open what it writes to breaks the call off. -/
theorem add_of_not_opens (blocked : output.opens call groups leaf = false) :
    ∃ why, output.add (leaf.write groups call) = (output, some why) := by
  unfold Leaf.write
  cases there : leaf.path? with
  | none =>
    rw [opens_of_no_path there] at blocked
    cases blocked
  | some path =>
    have closed := mt (opens_of_path there).2 (Bool.eq_false_iff.1 blocked)
    by_cases reached : groups ≤ call.moment.stack.fileReach
    · obtain ⟨fault, refused⟩ := Option.ne_none_iff_exists'.1 fun free => closed ⟨free, reached⟩
      refine ⟨.unusable path fault, ?_⟩
      simp only [Sink.toFile, if_neg (Nat.not_lt.2 reached), add, refused]
    · refine ⟨.stackFull, ?_⟩
      simp only [Sink.toFile, if_pos (Nat.not_le.1 reached), add]

end Steps

section Calls

theorem addAll_of_broken {write : Write} {why : Refusal}
    (added : output.add write = (after, some why)) (later : List Write) :
    output.addAll (write :: later) = (after, some why) := by
  simp only [addAll, added]

theorem addAll_of_added {write : Write} (added : output.add write = (after, none))
    (later : List Write) : output.addAll (write :: later) = after.addAll later := by
  simp only [addAll, added]

theorem reached_of_le {groups : Nat} (le : groups ≤ call.moment.stack.reach) :
    Sink.reached call.moment groups = [] :=
  if_neg (Nat.not_lt.2 le)

/-- A call gets past a stop with the line of its leaf, if there is one. -/
theorem addAll_of_passes {stop : Stop} (passes : output.passes call stop = true) :
    ∃ after, (∀ later, output.addAll (stop.writes call ++ later) = after.addAll later) ∧
      output.Grows after (output.linesBy call (stop.leaf? call.entry.level).toList)
        (output.opened? call stop).toList := by
  unfold Output.passes at passes
  obtain ⟨reached, passes⟩ := Bool.and_eq_true_iff.1 passes
  have reached := of_decide_eq_true reached
  simp only [Stop.writes, opened?, reached_of_le reached, if_pos reached, List.nil_append]
  cases here : stop.leaf? call.entry.level with
  | none => exact ⟨output, fun _ => rfl, Grows.refl output⟩
  | some leaf =>
    rw [here, Option.all_some, Bool.and_eq_true] at passes
    obtain ⟨after, added, grows⟩ := add_of_forms passes.1 passes.2
    refine ⟨after, fun later => addAll_of_added added later, ?_⟩
    rw [Option.bind_some, if_pos passes.1]
    refine grows.congr fun place => ?_
    by_cases same : output.place leaf = place <;> simp [linesBy, same]

/-- At a stop that a call does not get past it breaks off without a line. -/
theorem addAll_of_not_passes {stop : Stop} (broken : output.passes call stop = false) :
    ∃ after why, (∀ later, output.addAll (stop.writes call ++ later) = (after, some why)) ∧
      output.Grows after (fun _ => [])
        (output.opened? call stop).toList := by
  by_cases reached : stop.groups ≤ call.moment.stack.reach
  · simp only [Stop.writes, opened?, reached_of_le reached, if_pos reached, List.nil_append]
    cases here : stop.leaf? call.entry.level with
    | none => simp [Output.passes, here, reached] at broken
    | some leaf =>
      cases opens : output.opens call stop.groups leaf with
      | false =>
        obtain ⟨why, blocked⟩ := add_of_not_opens opens
        refine ⟨output, why, fun later => addAll_of_broken blocked later, ?_⟩
        simpa [opens] using Grows.refl output
      | true =>
        have unformed : leaf.forms stop.groups call = false := by
          simpa [Output.passes, here, reached, opens] using broken
        obtain ⟨after, why, failed, grows⟩ := add_of_not_forms opens unformed
        refine ⟨after, why, fun later => addAll_of_broken failed later, ?_⟩
        rwa [Option.bind_some, if_pos opens]
  · have lost : Sink.reached call.moment stop.groups = [.lost] := if_pos (Nat.not_le.1 reached)
    refine ⟨output, .stackFull, fun later => ?_, ?_⟩
    · rw [Stop.writes, lost]
      rfl
    · simpa [opened?, reached] using Grows.refl output

theorem writersAt_cons (output : Output) (call : Call) (stop : Stop) (rest : List Stop) :
    output.writersAt call (stop :: rest) = if output.passes call stop = true then
      (stop.leaf? call.entry.level).toList ++ output.writersAt call rest else [] := by
  cases passes : output.passes call stop <;>
    cases here : stop.leaf? call.entry.level <;> simp [writersAt, passes, here]

theorem openedAt_cons (output : Output) (call : Call) (stop : Stop) (rest : List Stop) :
    output.openedAt call (stop :: rest) = (output.opened? call stop).toList ++
      if output.passes call stop = true then output.openedAt call rest else [] := by
  cases passes : output.passes call stop <;>
    cases here : output.opened? call stop <;> simp [openedAt, passes, here]

/-- One call: stop by stop, up to the first that it does not get past. It is carried out to its end
exactly if it gets past all of them. -/
theorem grows_addAll (output : Output) (call : Call) (stops : List Stop) :
    output.Grows (output.addAll (stops.flatMap (·.writes call))).1
      (output.linesBy call (output.writersAt call stops)) (output.openedAt call stops) ∧
    ((output.addAll (stops.flatMap (·.writes call))).2 = none ↔
      ∀ stop ∈ stops, output.passes call stop = true) := by
  induction stops generalizing output with
  | nil => exact ⟨Grows.refl output, by simp [addAll]⟩
  | cons stop rest ih =>
    rw [List.flatMap_cons, writersAt_cons, openedAt_cons]
    cases passes : output.passes call stop with
    | false =>
      obtain ⟨after, why, broken, grows⟩ := addAll_of_not_passes passes
      rw [broken]
      refine ⟨?_, by simp [passes]⟩
      rw [if_neg Bool.false_ne_true, if_neg Bool.false_ne_true, List.append_nil]
      exact grows
    | true =>
      obtain ⟨after, added, first⟩ := addAll_of_passes passes
      obtain ⟨later, ended⟩ := ih after
      -- Lines change no folder, so the stops behind this one are passed as before.
      obtain ⟨passing, writing, opening, lines⟩ := first.ways call
      rw [writing, opening, lines] at later
      rw [passing] at ended
      rw [added, if_pos rfl, if_pos rfl]
      refine ⟨(first.trans later).congr fun place => ?_, by simp [ended, passes]⟩
      simp [linesBy]

end Calls

/-- One call of a whole logger. -/
theorem grows_log (output : Output) (plan : Plan) {call : Call}
    (accepted : call.entry.reserved? = none) :
    output.Grows (output.log call.moment plan.sink call.entry).1 (plan.linesAt output · call)
      (plan.opened output call) := by
  rw [log, accepted, writes_plan]
  exact (grows_addAll output call _).1

/-- A run of calls: the lines of each, one call after the other. -/
theorem grows_logAll (output : Output) (plan : Plan) {calls : List Call}
    (accepted : ∀ call ∈ calls, call.entry.reserved? = none) :
    output.Grows (output.logAll plan.sink calls)
      (fun place => calls.flatMap (plan.linesAt output place))
      (calls.flatMap (plan.opened output)) := by
  induction calls generalizing output with
  | nil => exact Grows.refl output
  | cons call rest ih =>
    have first := grows_log output plan (accepted call List.mem_cons_self)
    have later := ih (output.log call.moment plan.sink call.entry).1
      fun other there => accepted other (List.mem_cons_of_mem _ there)
    have same : plan.linesAt (output.log call.moment plan.sink call.entry).1 =
        plan.linesAt output := by
      funext place other
      obtain ⟨_, writing, _, lines⟩ := first.ways other
      rw [Plan.linesAt, Plan.writers, writing, lines]
      rfl
    have opening : plan.opened (output.log call.moment plan.sink call.entry).1 =
        plan.opened output := by
      funext other
      exact congrFun (first.ways other).2.2.1 _
    rw [same, opening] at later
    exact first.trans later

end Output

section Losses

variable {plan : Plan} {output : Output} {call : Call} {leaf : Leaf}

end Losses

end PackOpening.Log
