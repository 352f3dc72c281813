import PackOpening.Proofs.Json.RoundTrip
import PackOpening.Proofs.Log.Routing

/-!
What the record of an event tells.

A record on the console keeps the data of an event apart from its own members. In a file the data
stand among these members, and data of the name of a member take its place. So the line in a file
tells the log, the level and the name of its event exactly if the data give nothing else under these
three names.
-/
namespace PackOpening.Log

open PackOpening.Json

/-- What a record of an event has to tell: the log, the level and the name of the event. -/
def Entry.fields (logType : Text) (entry : Entry) : List (Text × Text) :=
  [("log_type", logType), ("level", entry.level.name), ("event", entry.event)]

/-- A record that tells its event. -/
def Tells (record : Json) (logType : Text) (entry : Entry) : Prop :=
  ∀ field ∈ entry.fields logType, record.member? field.1 = some (.str field.2)

/-- An event whose data give nothing else under the names of what its record has to tell. -/
def Entry.Spares (logType : Text) (entry : Entry) : Prop :=
  ∀ field ∈ entry.fields logType, ∀ value, entry.data.lookup field.1 = some value →
    value = .str field.2

section Members

variable {time logType : Text} {entry : Entry}

/-- The names are words of ASCII, and no record has its data under one of them. -/
theorem name_of_mem_fields {field : Text × Text} (listed : field ∈ entry.fields logType) :
    field.1 ≠ "data" ∧ field.1.any CodePoint.isSurrogate = false ∧
      ∀ c ∈ field.1, c.code < 0x10000 := by
  have names : ∀ name ∈ ["log_type", "level", "event"].map Text.ofString, name ≠ "data" ∧
      name.any CodePoint.isSurrogate = false ∧ ∀ c ∈ name, c.code < 0x10000 := by decide
  exact names field.1 (List.mem_map_of_mem listed)

theorem lookup_head {field : Text × Text} (listed : field ∈ entry.fields logType) :
    (entry.head time logType).lookup field.1 = some (.str field.2) := by
  simp only [Entry.fields, List.mem_cons, List.not_mem_nil, or_false] at listed
  rcases listed with rfl | rfl | rfl
  · rfl
  · rfl
  · rfl

/-- In a merged record the data come before the members of the record itself. -/
theorem member?_merged (once : (entry.data.map Prod.fst).Nodup) (name : Text) :
    (entry.merged time logType).member? name =
      (entry.data.lookup name).or ((entry.head time logType).lookup name) :=
  Named.lookup_update once _ name

/-- A merged record tells its event exactly if the data spare the names for that. -/
theorem tells_merged_iff (once : (entry.data.map Prod.fst).Nodup) :
    Tells (entry.merged time logType) logType entry ↔ entry.Spares logType := by
  refine forall_congr' fun field => forall_congr' fun listed => ?_
  rw [member?_merged once, lookup_head listed]
  cases entry.data.lookup field.1 <;> simp

theorem member?_merged_of_mem (once : (entry.data.map Prod.fst).Nodup) {member : Text × Json}
    (given : member ∈ entry.data) :
    (entry.merged time logType).member? member.1 = some member.2 := by
  rw [member?_merged once, (Named.lookup_eq_some_iff once).2 given, Option.some_or]

/-- A nested record tells its event whatever the data are. -/
theorem tells_nested (time logType : Text) (entry : Entry) :
    Tells (entry.nested time logType) logType entry := by
  intro field listed
  have other := (name_of_mem_fields listed).1
  exact (Named.lookup_put_of_ne other _ _).trans (lookup_head listed)

/-- The members of a merged record are those that every record starts with, and the data. -/
theorem mem_of_mem_merged {member : Text × Json}
    (there : member ∈ Named.update (entry.head time logType) entry.data) :
    (∃ s, member.2 = .str s) ∨ member ∈ entry.data := by
  refine (Named.mem_of_mem_update there).imp_left fun own => ?_
  simp only [Entry.head, List.mem_cons, List.not_mem_nil, or_false] at own
  rcases own with rfl | rfl | rfl | rfl <;> exact ⟨_, rfl⟩

theorem nodup_merged (time logType : Text) (entry : Entry) :
    ((Named.update (entry.head time logType) entry.data).map Prod.fst).Nodup := by
  have once : ((entry.head time logType).map Prod.fst).Nodup :=
    (by decide : (["ts", "log_type", "level", "event"].map Text.ofString).Nodup)
  exact Named.nodup_update once _

/-- A printed record of an event is read, and what it has to tell is read as it stands there, as far
as that is exact. -/
theorem read_merged (time logType : Text) {entry : Entry} {room : Nat}
    (fits : ∀ member ∈ entry.data, depth member.2 ≤ room ∧ isBrief member.2 = true) :
    ∃ back, read (room + 1) (entry.merged time logType).print = .ok back ∧
      ∀ field ∈ entry.fields logType, ∀ value,
        (entry.merged time logType).member? field.1 = some value → isExact value = true →
          back.member? field.1 = some value := by
  have once := nodup_merged time logType entry
  have fits : ∀ member ∈ Named.update (entry.head time logType) entry.data,
      depth member.2 ≤ room ∧ isBrief member.2 = true := by
    intro member there
    rcases mem_of_mem_merged there with ⟨s, text⟩ | given
    · simp [text, depth, isBrief]
    · exact fits member given
  have line : ((entry.merged time logType).print : Text) =
      Text.ofChars (render (entry.merged time logType)) := by
    simp [Json.print, Text.ofString]
  obtain ⟨back, reads, found⟩ := read_members once fits
  refine ⟨back, line ▸ reads, fun field listed value there exact => ?_⟩
  obtain ⟨-, plain, small⟩ := name_of_mem_fields listed
  exact found (field.1, value) ((Named.lookup_eq_some_iff once).1 there) plain small exact

end Members

/-- A file that can be opened gets one line more for a call that its leaf lets through and whose
record fits: the record of the event with the data among its members. A call whose record does not
fit is refused, and no line is added for it. All data stand in the record, but it tells the log, the
level and the name of its event exactly if the data give nothing else under these names. What is
read from the line has the same under them, as far as it is exact and the integers of the data are
brief. A record on the console, with the same data as one member, tells its event in any case. -/
theorem file_record_tells_event_iff {output : Output} {leaf : Leaf} {folder : Text} {call : Call}
    (form : leaf.form = .file folder) (accepted : call.entry.reserved? = none)
    (once : (call.entry.data.map Prod.fst).Nodup) (emits : leaf.emits call.entry.level = true)
    (serves : output.serves leaf = true) :
    let file := output.home.located (Path.inFolder folder (leaf.logType ++ ".log"))
    let record := call.entry.merged call.time leaf.logType
    let room := call.moment.stack.recordRoom 0
    (Fits room record → ∃ after, output.log call.moment leaf.sink call.entry = (after, none) ∧
      after.files.lookup file =
        some ((output.files.lookup file).getD [] ++ (record.print ++ "\n"))) ∧
    (¬ Fits room record → ∃ after why,
      output.log call.moment leaf.sink call.entry = (after, some why) ∧
      after.files.lookup file = some ((output.files.lookup file).getD [])) ∧
    (Tells record leaf.logType call.entry ↔ call.entry.Spares leaf.logType) ∧
    (∀ member ∈ call.entry.data, record.member? member.1 = some member.2) ∧
    (∀ room, (∀ member ∈ call.entry.data, depth member.2 ≤ room ∧ isBrief member.2 = true) →
      ∃ back, read (room + 1) record.print = .ok back ∧
        ∀ field ∈ call.entry.fields leaf.logType, ∀ value,
          record.member? field.1 = some value → isExact value = true →
            back.member? field.1 = some value) ∧
    Tells (call.entry.nested call.time leaf.logType) leaf.logType call.entry := by
  intro file record room
  have place : output.place leaf = some file := by
    rw [Output.place, Leaf.path?, form, Option.map_some]
  have line : leaf.line call.time call.entry = record.print ++ "\n" := by
    rw [Leaf.line, form]
  have formed : leaf.forms 0 call = true ↔ Fits room record := by
    rw [Leaf.forms, form, decide_eq_true_iff]
    rfl
  have opens : output.opens call 0 leaf = true := by simp [Output.opens, serves]
  have writes : leaf.sink.writes call.moment call.entry 0 = [leaf.write 0 call] := by
    rw [writes_leaf, Output.reached_of_le (Nat.zero_le _), if_pos emits, List.nil_append]
  refine ⟨fun fits => ?_, fun wide => ?_, tells_merged_iff once,
    fun _ => member?_merged_of_mem once, fun _ => read_merged call.time leaf.logType,
    tells_nested call.time leaf.logType call.entry⟩
  · obtain ⟨after, added, grows⟩ := Output.add_of_forms opens (formed.2 fits)
    refine ⟨after, ?_, (grows.lookup (by simp [place])).trans ?_⟩
    · rw [Output.log, accepted, writes]
      exact Output.addAll_of_added added []
    · simp [place, line]
  · obtain ⟨after, why, failed, grows⟩ :=
      Output.add_of_not_forms opens (Bool.eq_false_iff.2 fun forms => wide (formed.1 forms))
    refine ⟨after, why, ?_, (grows.lookup (by simp [place])).trans ?_⟩
    · rw [Output.log, accepted, writes]
      exact Output.addAll_of_broken failed []
    · simp

/-- Data may have the name of the level if they give the same level. -/
theorem file_record_tells_event_iff_same_level :
    let output : Output := ⟨[], [], [], [[], ["d"]]⟩
    let leaf : Leaf := ⟨.file "d", "k", "debug"⟩
    let moment : Moment := ⟨"t", ⟨0, 0, fun _ => 1, fun _ => 0⟩, .free⟩
    let call : Call := ⟨moment, .warn, "e", [("slot", .int 3), ("level", .str "WARN")]⟩
    let record := call.entry.merged "t" "k"
    let file : Path := ["d", "k.log"]
    let line : Text := record.print ++ "\n"
    (call.entry.reserved? = none ∧ (call.entry.data.map Prod.fst).Nodup ∧
      leaf.emits call.entry.level = true ∧ output.serves leaf = true ∧ Fits 1 record) ∧
    (∃ after, output.log moment leaf.sink call.entry = (after, none) ∧
      after.files.lookup file = some line) ∧
    Tells record "k" call.entry ∧ record.member? "slot" = some (.int 3) ∧
    ∃ back, read 1 record.print = .ok back ∧ back.member? "level" = some (.str "WARN") := by
  intro output leaf moment call record file line
  have accepted : call.entry.reserved? = none := by decide
  have once : (call.entry.data.map Prod.fst).Nodup := by decide
  have emits : leaf.emits call.entry.level = true := by decide
  have serves : output.serves leaf = true := by decide
  have fits : Fits 1 record := by decide
  have spares : call.entry.Spares "k" := by
    intro field listed value found
    simp only [Entry.fields, List.mem_cons, List.not_mem_nil, or_false] at listed
    rcases listed with rfl | rfl | rfl
    · cases found
    · cases found
      rfl
    · cases found
  obtain ⟨written, _, tells, given, reads, _⟩ :=
    file_record_tells_event_iff rfl accepted once emits serves
  obtain ⟨after, logged, content⟩ := written fits
  have place : output.home.located (Path.inFolder "d" (leaf.logType ++ ".log")) = file := by decide
  have fresh : output.files.lookup file = none := rfl
  rw [place, fresh, Option.getD_none, List.nil_append] at content
  obtain ⟨back, reads, found⟩ := reads 0 (by decide)
  have tells : Tells record "k" call.entry := tells.2 spares
  refine ⟨⟨accepted, once, emits, serves, fits⟩, ⟨after, logged, content⟩, tells,
    given ("slot", .int 3) List.mem_cons_self, back, reads, ?_⟩
  have level : (("level", "WARN") : Text × Text) ∈ call.entry.fields "k" := by decide
  exact found _ level (.str "WARN") (tells _ level) (by decide)

/-- Not every record in a file tells its event: an event of the level `INFO` is read as an `ERROR`
if its data say so. -/
theorem not_every_file_record_tells_its_event :
    ¬ ∀ (output : Output) (leaf : Leaf) (folder : Text) (call : Call) (room : Nat),
      leaf.form = .file folder → call.entry.reserved? = none →
      (call.entry.data.map Prod.fst).Nodup → leaf.emits call.entry.level = true →
      output.serves leaf = true →
      Fits (call.moment.stack.recordRoom 0) (call.entry.merged call.time leaf.logType) →
      (∀ member ∈ call.entry.data, depth member.2 ≤ room ∧ isBrief member.2 = true) →
      let file := output.home.located (Path.inFolder folder (leaf.logType ++ ".log"))
      ∃ line back, (output.log call.moment leaf.sink call.entry).1.files.lookup file =
          some ((output.files.lookup file).getD [] ++ (line ++ "\n")) ∧
        read (room + 1) line = .ok back ∧ Tells back leaf.logType call.entry := by
  intro claim
  let entry : Entry := ⟨.info, "e", [("level", .str "ERROR")]⟩
  let moment : Moment := ⟨"t", ⟨0, 0, fun _ => 1, fun _ => 0⟩, .free⟩
  have once : (entry.data.map Prod.fst).Nodup := by decide
  have fits : ∀ member ∈ entry.data, depth member.2 ≤ 0 ∧ isBrief member.2 = true := by decide
  obtain ⟨line, back, content, reads, tells⟩ := claim ⟨[], [], [], [[], ["d"]]⟩
    ⟨.file "d", "k", "debug"⟩ "d" ⟨moment, entry⟩ 0 rfl (by decide) once (by decide) (by decide)
    (by decide) fits
  have printed : line = (entry.merged "t" "k").print :=
    (List.append_cancel_right (Option.some.inj content)).symm
  obtain ⟨back', reads', found⟩ := read_merged "t" "k" fits
  obtain rfl : back = back' := Except.ok.inj (reads.symm.trans (printed ▸ reads'))
  have level : (("level", "INFO") : Text × Text) ∈ entry.fields "k" := by decide
  have overwritten := found _ level (.str "ERROR") (member?_merged_of_mem once List.mem_cons_self)
    (by decide)
  have same := Json.str.inj (Option.some.inj (overwritten.symm.trans (tells _ level)))
  revert same
  decide

end PackOpening.Log
