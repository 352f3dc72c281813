import PackOpening.Proofs.Pool.Grouping
import PackOpening.Proofs.Service.Openings
import PackOpening.Service.Exchange

/-!
What a request refers to in the registry.

A request that comes through with a sound body asks for one of three tasks. A task looks the pools
of some sets up: that of its own set code, and those that the entries of its definition name. If it
brings its seed along, nothing else about the registry, and nothing fresh, shows in its answer.
-/
namespace PackOpening

namespace Json.Checked

variable {α : Type}

/-- The value, if no flaw was found. -/
def value? : Checked α → Option α
  | ok value => some value
  | flawed _ => none

theorem value?_eq_some_iff {checked : Checked α} {value : α} :
    checked.value? = some value ↔ checked = .ok value := by
  cases checked <;> simp [value?]

theorem value?_eq_none_iff {checked : Checked α} :
    checked.value? = none ↔ ∃ flaws, checked = .flawed flaws := by
  cases checked <;> simp [value?]

end Json.Checked

namespace Service

/-- An operation of the service with the body that it is asked to work on. -/
inductive Task where
  | validate (body : DefinitionBody)
  | generate (body : GenerateBody)
  | openPack (body : OpenBody)
  deriving DecidableEq, Repr

/-- Whether an entry of a definition, as far as it compiles, overrides the set code by this one. -/
def OverridesBy (definition code : Text) : Prop :=
  ∃ slot ∈ (Definition.compile definition).slots, ∃ entry ∈ slot.entries,
    entry.setCode = some code

namespace Task

/-- Whether nothing fresh is needed. Validating a definition leaves nothing to chance. -/
def IsSeeded : Task → Prop
  | .validate _ => True
  | .generate body => body.seed.isSome
  | .openPack body => body.seed.isSome

/-- The sets that a task may look up. -/
def RefersTo (code : Text) : Task → Prop
  | .validate _ => False
  | .generate body => code = body.setCode ∨ OverridesBy body.definition code
  | .openPack body =>
    code = body.setCode ∨ ∃ definition, body.definition = some definition ∧
      OverridesBy definition code

/-- Carries a task out. -/
def reply (registry : Registry) (fresh : Int) : Task → Reply
  | .validate body => Service.validate body
  | .generate body => Service.generate registry fresh body
  | .openPack body => Service.openPack registry fresh body

end Task

namespace Request

/-- The checked body of a request, unless it cannot be read or is found to have flaws. -/
def sound? {α : Type} (request : Request) (frame : Framework) (check : Json → Json.Checked α) :
    Option α :=
  match receive frame.bodyRoom ((request.header? "content-type").getD "") request.body with
  | .ok (.data j) => (check j).value?
  | .ok (.plain bytes) =>
    match Text.Utf8.decode bytes with
    | .ok chars => (check (.str (Text.ofChars chars))).value?
    | .error _ => none
  | _ => none

/-- What a request asks for at a place of the service. -/
def taskAt? (request : Request) (frame : Framework) : Route → Option Task
  | .validate => (request.sound? frame DefinitionBody.ofData).map .validate
  | .generate => (request.sound? frame GenerateBody.ofData).map .generate
  | .openPack => (request.sound? frame OpenBody.ofData).map .openPack
  | _ => none

/-- What a request asks for: nothing if it only asks for leave, if there is no such place, or if the
place does not answer to its method. -/
def task? (request : Request) (frame : Framework) : Option Task :=
  match frame.leave? request, Route.at? (pathOf request.target) with
  | none, some route =>
    if route.methods.contains request.method then request.taskAt? frame route else none
  | _, _ => none

end Request

theorem mem_referencedSets {slots : List Slot} {default code : Text}
    (asked : code ∈ referencedSets slots default) :
    code = default ∨ ∃ slot ∈ slots, ∃ entry ∈ slot.entries, entry.setCode = some code := by
  rw [referencedSets, List.mem_eraseDups] at asked
  rcases List.mem_cons.1 asked with own | named
  · exact .inl own
  · obtain ⟨entry, member, kept⟩ := List.mem_filterMap.1 named
    obtain ⟨slot, there, member⟩ := List.mem_flatMap.1 member
    exact .inr ⟨slot, there, entry, member, (Option.filter_eq_some_iff.1 kept).1⟩

section

variable {frame : Framework} {registry registry' : Registry}

theorem poolFor_congr (supplied : SetPools) {code : Text}
    (same : SetPools.of registry code = SetPools.of registry' code) :
    registry.poolFor supplied code = registry'.poolFor supplied code := by
  unfold Registry.poolFor
  rw [same]

theorem stockedPools_congr (supplied : SetPools) {codes : List Text}
    (same : ∀ code ∈ codes, SetPools.of registry code = SetPools.of registry' code) :
    stockedPools registry supplied codes = stockedPools registry' supplied codes := by
  induction codes with
  | nil => rfl
  | cons code rest ih =>
    have later := ih fun other there => same other (List.mem_cons_of_mem _ there)
    simp only [stockedPools, poolFor_congr supplied (same code List.mem_cons_self), later]

theorem ownCards_congr {body : OpenBody}
    (same : SetPools.of registry body.setCode = SetPools.of registry' body.setCode) :
    ownCards registry body = ownCards registry' body := by
  unfold ownCards
  rw [same]

theorem openPools_congr {body : OpenBody} {slots : List Slot}
    (same : ∀ code ∈ referencedSets slots body.setCode,
      SetPools.of registry code = SetPools.of registry' code)
    (own : SetPools.of registry body.setCode = SetPools.of registry' body.setCode) :
    openPools registry body slots = openPools registry' body slots :=
  List.map_congr_left fun code asked => by
    rw [ownCards_congr own, poolFor_congr body.extraPools (same code asked)]

theorem generate_congr (fresh fresh' : Int) {body : GenerateBody} (seeded : body.seed.isSome)
    (same : ∀ code, (Task.generate body).RefersTo code →
      SetPools.of registry code = SetPools.of registry' code) :
    generate registry fresh body = generate registry' fresh' body := by
  obtain ⟨seed, given⟩ := Option.isSome_iff_exists.1 seeded
  have agree : ∀ code ∈ Text.sorted
        (referencedSets (Definition.compile body.definition).slots body.setCode),
      SetPools.of registry code = SetPools.of registry' code := fun code asked =>
    same code (mem_referencedSets (mem_sorted.1 asked))
  simp only [generate, stockedPools_congr body.pools agree, given, Option.getD_some]

theorem openPack_congr (fresh fresh' : Int) {body : OpenBody} (seeded : body.seed.isSome)
    (same : ∀ code, (Task.openPack body).RefersTo code →
      SetPools.of registry code = SetPools.of registry' code) :
    openPack registry fresh body = openPack registry' fresh' body := by
  obtain ⟨seed, given⟩ := Option.isSome_iff_exists.1 seeded
  have own := same body.setCode (.inl rfl)
  have cards := ownCards_congr own
  have now : openNow registry fresh body = openNow registry' fresh' body := by
    cases custom : body.definition with
    | none => simp only [openNow, custom, cards, given, Option.getD_some]
    | some definition =>
      have agree : ∀ code ∈ referencedSets (Definition.compile definition).slots body.setCode,
          SetPools.of registry code = SetPools.of registry' code := fun code asked =>
        same code ((mem_referencedSets asked).imp_right fun named => ⟨definition, custom, named⟩)
      have pools := openPools_congr agree own
      simp only [openNow, custom, pools, given, Option.getD_some]
  rw [openPack, openPack, now]

/-- A task with its own seed replies the same from registries that agree on what it refers to. -/
theorem Task.reply_congr {task : Task} (fresh fresh' : Int) (seeded : task.IsSeeded)
    (same : ∀ code, task.RefersTo code →
      SetPools.of registry code = SetPools.of registry' code) :
    task.reply registry fresh = task.reply registry' fresh' := by
  cases task with
  | validate body => rfl
  | generate body => exact generate_congr fresh fresh' seeded same
  | openPack body => exact openPack_congr fresh fresh' seeded same

/-- A request with a sound body is answered by the reply to it. -/
theorem withBody_of_sound {α : Type} {request : Request} {check : Json → Json.Checked α} {body : α}
    (operate : α → Reply) (sound : request.sound? frame check = some body) :
    withBody frame request check operate = (operate body).outcome frame := by
  unfold Request.sound? at sound
  unfold withBody
  cases received :
      receive frame.bodyRoom ((request.header? "content-type").getD "") request.body with
  | error fault => simp [received] at sound
  | ok content =>
    cases content with
    | nothing => simp [received] at sound
    | data j =>
      simp only [received, Json.Checked.value?_eq_some_iff] at sound
      simp only [sound, Json.Checked.within, Reply.outcome]
    | plain bytes =>
      cases decoded : Text.Utf8.decode bytes with
      | error fault => simp [received, decoded] at sound
      | ok chars =>
        simp only [received, decoded, Json.Checked.value?_eq_some_iff] at sound
        simp only [decoded, sound, Json.Checked.within, Reply.outcome]

/-- A body that is not sound is refused whatever the operation would do with it. -/
theorem withBody_of_unsound {α : Type} {request : Request} {check : Json → Json.Checked α}
    (operate operate' : α → Reply) (unsound : request.sound? frame check = none) :
    withBody frame request check operate = withBody frame request check operate' := by
  unfold Request.sound? at unsound
  unfold withBody
  cases received :
      receive frame.bodyRoom ((request.header? "content-type").getD "") request.body with
  | error fault => cases fault <;> rfl
  | ok content =>
    cases content with
    | nothing => rfl
    | data j =>
      simp only [received, Json.Checked.value?_eq_none_iff] at unsound
      obtain ⟨flaws, checked⟩ := unsound
      simp only [checked, Json.Checked.within]
    | plain bytes =>
      cases decoded : Text.Utf8.decode bytes with
      | error fault => simp only [decoded]
      | ok chars =>
        simp only [received, decoded, Json.Checked.value?_eq_none_iff] at unsound
        obtain ⟨flaws, checked⟩ := unsound
        simp only [decoded, checked, Json.Checked.within]

theorem withBody_congr {α : Type} {request : Request} {check : Json → Json.Checked α}
    {operate operate' : α → Reply}
    (same : ∀ body, request.sound? frame check = some body → operate body = operate' body) :
    withBody frame request check operate = withBody frame request check operate' := by
  cases sound : request.sound? frame check with
  | none => exact withBody_of_unsound operate operate' sound
  | some body =>
    rw [withBody_of_sound operate sound, withBody_of_sound operate' sound, same body sound]

/-- Registries that agree on what a seeded task refers to, and any seeds at hand, give one and the
same outcome. -/
theorem perform_congr (fresh fresh' : Fresh) {request : Request} {route : Route}
    (seeded : ∀ task, request.taskAt? frame route = some task → task.IsSeeded)
    (same : ∀ task, request.taskAt? frame route = some task → ∀ code, task.RefersTo code →
      SetPools.of registry code = SetPools.of registry' code) :
    perform frame registry fresh request route = perform frame registry' fresh' request route := by
  have reply (task : Task) (asked : request.taskAt? frame route = some task) :=
    Task.reply_congr fresh.seed fresh'.seed (seeded task asked) (same task asked)
  cases route with
  | generate =>
    exact withBody_congr fun body sound => reply (.generate body) (by simp [Request.taskAt?, sound])
  | openPack =>
    exact withBody_congr fun body sound => reply (.openPack body) (by simp [Request.taskAt?, sound])
  | _ => rfl

theorem respond_congr (fresh fresh' : Fresh) {request : Request}
    (seeded : ∀ task, request.task? frame = some task → task.IsSeeded)
    (same : ∀ task, request.task? frame = some task → ∀ code, task.RefersTo code →
      SetPools.of registry code = SetPools.of registry' code) :
    respond frame registry fresh request = respond frame registry' fresh' request := by
  unfold respond
  cases asking : frame.leave? request with
  | some method => rfl
  | none =>
    cases place : Route.at? (pathOf request.target) with
    | none => simp only [place]
    | some route =>
      by_cases answers : route.methods.contains request.method = true
      · have asked : request.task? frame = request.taskAt? frame route := by
          simp only [Request.task?, asking, place, answers, if_true]
        rw [asked] at seeded same
        simp only [place, perform_congr fresh fresh' seeded same]
      · simp only [place, if_neg answers]

/-- The answer to a request shows nothing of the registry but the sets that its task refers to. -/
theorem answer_congr (fresh fresh' : Fresh) {request : Request}
    (seeded : ∀ task, request.task? frame = some task → task.IsSeeded)
    (same : ∀ task, request.task? frame = some task → ∀ code, task.RefersTo code →
      SetPools.of registry code = SetPools.of registry' code) :
    (handle frame registry fresh request).answer =
      (handle frame registry' fresh' request).answer := by
  have outcome := respond_congr fresh fresh' seeded same
  unfold handle
  rw [outcome]
  cases respond frame registry' fresh' request <;> rfl

end
end Service
end PackOpening
