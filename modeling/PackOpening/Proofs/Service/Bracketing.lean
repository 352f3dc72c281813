import PackOpening.Proofs.Service.Serving

/-!
The log of one request.

The first event that the service reports for a request is its start, the last its completion or its
failure, all under one id, and between them stands what the task of the request reports. A completed
request has the id in its answer, a failed one has not. An opening reports its attempt and the end
that it comes to; it fails only where the pack that it opened cannot be sent.
-/
namespace PackOpening.Service

/-- The records that an outcome comes with. -/
def Outcome.log : Outcome → List Record
  | .answered _ log | .failed _ log => log

theorem log_send (frame : Framework) (status : Nat) (content : Content) (data : Json)
    (log : List Record) : (send frame status content data log).log = log := by
  unfold send
  split <;> rfl

theorem log_outcome (frame : Framework) (reply : Reply) : (reply.outcome frame).log = reply.log :=
  log_send ..

/-- Nothing is reported about a body that is not sound. -/
theorem log_withBody_of_unsound {α : Type} {frame : Framework} {request : Request}
    {check : Json → Json.Checked α} (operate : α → Reply)
    (unsound : request.sound? frame check = none) :
    (withBody frame request check operate).log = [] := by
  rw [withBody_of_unsound operate (fun _ => ⟨0, .null, []⟩) unsound]
  unfold withBody
  split
  · exact log_send ..
  · exact log_send ..
  · exact log_send ..
  · dsimp only
    split <;> exact log_send ..
  · split
    · dsimp only
      split <;> exact log_send ..
    · rfl

section Requests

variable {frame : Framework} {registry : Registry} {fresh : Fresh} {request : Request}

/-- A request with a task is answered by the reply to it. -/
theorem respond_of_task {task : Task} (asked : request.task? frame = some task) :
    respond frame registry fresh request = (task.reply registry fresh.seed).outcome frame := by
  unfold Request.task? at asked
  unfold respond
  split at asked
  · next route asking place =>
    split at asked
    · next answers =>
      simp only [asking, place, answers, if_true]
      cases route with
      | validate =>
        obtain ⟨body, sound, rfl⟩ := Option.map_eq_some_iff.1 asked
        exact withBody_of_sound _ sound
      | generate =>
        obtain ⟨body, sound, rfl⟩ := Option.map_eq_some_iff.1 asked
        exact withBody_of_sound _ sound
      | openPack =>
        obtain ⟨body, sound, rfl⟩ := Option.map_eq_some_iff.1 asked
        exact withBody_of_sound _ sound
      | _ => cases asked
    · cases asked
  · cases asked

/-- A request without a task leaves no records but those of its start and its end. -/
theorem log_respond_of_taskless (taskless : request.task? frame = none) :
    (respond frame registry fresh request).log = [] := by
  unfold respond
  cases asking : frame.leave? request with
  | some answer => rfl
  | none =>
    cases place : Route.at? (pathOf request.target) with
    | none =>
      simp only [place]
      split
      · rfl
      · exact log_send ..
    | some route =>
      by_cases answers : route.methods.contains request.method = true
      · have asked : request.taskAt? frame route = none := by
          simpa only [Request.task?, asking, place, answers, if_true] using taskless
        simp only [place, answers, if_true]
        cases route with
        | root => exact log_outcome frame ⟨200, .obj [("status", .str "ok")], []⟩
        | validate => exact log_withBody_of_unsound _ (Option.map_eq_none_iff.1 asked)
        | generate => exact log_withBody_of_unsound _ (Option.map_eq_none_iff.1 asked)
        | openPack => exact log_withBody_of_unsound _ (Option.map_eq_none_iff.1 asked)
        | _ => rfl
      · simp only [place, if_neg answers]
        exact log_send ..

end Requests

/-- Whether an event is the start of a request or one of its ends. -/
def Event.isBracket : Event → Bool
  | requestStarted .. | requestFailed .. | requestCompleted .. => true
  | _ => false

def Record.event? : Record → Option Event
  | service event => some event
  | pack _ => none

/-- The events of the service in a log, without those of the assembly of packs. -/
def serviceEvents (log : List Record) : List Event := log.filterMap Record.event?

@[simp] theorem serviceEvents_append (log log' : List Record) :
    serviceEvents (log ++ log') = serviceEvents log ++ serviceEvents log' :=
  List.filterMap_append

@[simp] theorem serviceEvents_service (event : Event) (log : List Record) :
    serviceEvents (.service event :: log) = event :: serviceEvents log :=
  rfl

@[simp] theorem serviceEvents_nil : serviceEvents [] = [] := rfl

@[simp] theorem serviceEvents_pack (events : List PackEvent) :
    serviceEvents (events.map .pack) = [] := by
  simp [serviceEvents, Record.event?]

theorem not_isBracket_of_generate (registry : Registry) (seed : Int) (body : GenerateBody) :
    ∀ event ∈ serviceEvents (generate registry seed body).log, event.isBracket = false := by
  unfold generate
  dsimp only
  split
  · simp [Event.isBracket]
  · split
    · simp [Event.isBracket]
    · simp [openCustom, Event.isBracket]

theorem not_isBracket_of_openPack (registry : Registry) (seed : Int) (body : OpenBody) :
    ∀ event ∈ serviceEvents (openPack registry seed body).log, event.isBracket = false := by
  have ends := openPack_ends registry seed body
  generalize openPack registry seed body = reply at ends ⊢
  cases ends <;> simp [Event.isBracket]

/-- A task reports neither the start nor the end of its request. -/
theorem not_isBracket_of_reply (registry : Registry) (seed : Int) (task : Task) :
    ∀ event ∈ serviceEvents (task.reply registry seed).log, event.isBracket = false := by
  cases task with
  | validate body => simp [Task.reply, validate, Event.isBracket]
  | generate body => exact not_isBracket_of_generate registry seed body
  | openPack body => exact not_isBracket_of_openPack registry seed body

/-- How a request ends under its id: it is completed with the status of its answer, which then
carries the id, or it fails, and its answer carries none. -/
inductive Exchange.Closes (exchange : Exchange) (id path : String) : Event → Prop where
  | completed {duration : Int} (shown : exchange.requestId = some id) :
    Closes exchange id path (.requestCompleted id exchange.answer.status duration)
  | failed {error : Text} (hidden : exchange.requestId = none)
    (status : exchange.answer.status = 500) :
    Closes exchange id path (.requestFailed id path error)

theorem Exchange.Closes.requestId_eq_iff {exchange : Exchange} {id path : String} {last : Event}
    (closes : exchange.Closes id path last) :
    exchange.requestId = some id ↔
      ∃ status duration, last = .requestCompleted id status duration := by
  cases closes with
  | completed shown => simp [shown]
  | failed hidden status => simp [hidden]

/-- An exchange whose log begins with the start of the request and ends with its end, with no other
start or end inside. -/
structure Exchange.IsBracketed (exchange : Exchange) (request : Request) (id : String)
    (client : Option String) (inside : List Event) (last : Event) : Prop where
  events : serviceEvents exchange.log =
    .requestStarted id request.method (reportedPath (pathOf request.target)) client
      (request.header? "content-type") :: (inside ++ [last])
  inside : ∀ event ∈ inside, event.isBracket = false
  closes : exchange.Closes id (reportedPath (pathOf request.target)) last

/-- How an opening ends in the log, how the request does then, and the status of the answer. -/
inductive OpenBody.Concludes (registry : Registry) (body : OpenBody) (id path : String)
    (duration : Int) : Event → Event → Nat → Prop where
  | invalidTemplate {errors : List Text} (invalid : body.IsInvalid) :
    Concludes registry body id path duration (.openInvalidTemplate body.setCode errors)
      (.requestCompleted id 500 duration) 500
  | emptySet (unstocked : body.IsUnstocked registry) :
    Concludes registry body id path duration (.openEmptySet body.setCode)
      (.requestCompleted id 500 duration) 500
  | opened {drawn : List DrawnCard} (serves : body.Serves registry drawn)
    (plain : isEncodable body.packType = true ∧
      ∀ one ∈ drawn, isEncodableCard one.card = true) :
    Concludes registry body id path duration
      (.openSuccess body.setCode body.packType drawn.length) (.requestCompleted id 201 duration) 201
  | unsent {drawn : List DrawnCard} {error : Text} (serves : body.Serves registry drawn)
    (surrogate : ¬ (isEncodable body.packType = true ∧
      ∀ one ∈ drawn, isEncodableCard one.card = true)) :
    Concludes registry body id path duration
      (.openSuccess body.setCode body.packType drawn.length) (.requestFailed id path error) 500

section Requests

variable {frame : Framework} {registry : Registry} {fresh : Fresh} {request : Request}

/-- The event that ends a request with an outcome. -/
def Outcome.lastEvent (outcome : Outcome) (id path : String) (duration : Int) : Event :=
  match outcome with
  | .answered answer _ => .requestCompleted id answer.status duration
  | .failed error _ => .requestFailed id path error

/-- The status that an outcome is answered with. -/
def Outcome.status : Outcome → Nat
  | .answered answer _ => answer.status
  | .failed .. => 500

theorem status_sent (answer : Answer) (request : Request) :
    (answer.sent request).status = answer.status := by
  unfold Answer.sent
  split <;> rfl

theorem not_isBracket_of_respond (frame : Framework) (registry : Registry) (fresh : Fresh)
    (request : Request) :
    ∀ event ∈ serviceEvents (respond frame registry fresh request).log,
      event.isBracket = false := by
  cases asked : request.task? frame with
  | none => simp [log_respond_of_taskless asked]
  | some task =>
    rw [respond_of_task asked, log_outcome]
    exact not_isBracket_of_reply registry fresh.seed task

/-- What is reported of the response to a request stands between the start and the end of the
request. -/
theorem isBracketed_handle (frame : Framework) (registry : Registry) (fresh : Fresh)
    (request : Request) :
    let outcome := respond frame registry fresh request
    (handle frame registry fresh request).IsBracketed request (request.id fresh) fresh.client
      (serviceEvents outcome.log)
      (outcome.lastEvent (request.id fresh) (reportedPath (pathOf request.target))
        fresh.duration) := by
  have inside := not_isBracket_of_respond frame registry fresh request
  unfold handle
  generalize respond frame registry fresh request = outcome at inside ⊢
  cases outcome with
  | answered answer log =>
    refine ⟨by simp [Outcome.log, Outcome.lastEvent], inside, ?_⟩
    simp only [Outcome.lastEvent, ← status_sent answer request]
    exact .completed rfl
  | failed error log =>
    exact ⟨by simp [Outcome.log, Outcome.lastEvent], inside, .failed rfl (status_sent ..)⟩

theorem status_handle (frame : Framework) (registry : Registry) (fresh : Fresh)
    (request : Request) :
    (handle frame registry fresh request).answer.status =
      (respond frame registry fresh request).status := by
  unfold handle
  generalize respond frame registry fresh request = outcome
  cases outcome <;> exact status_sent ..

end Requests

/-- An opening reports its attempt and the end that it comes to, and no more. -/
theorem concludes_of_ends {registry : Registry} {body : OpenBody} {reply : Reply}
    (ends : body.Ends registry reply) (frame : Framework) (id path : String) (duration : Int) :
    ∃ finish, serviceEvents reply.log =
        [.openAttempt body.setCode body.packType body.definition.isSome, finish] ∧
      body.Concludes registry id path duration finish
        ((reply.outcome frame).lastEvent id path duration) (reply.outcome frame).status := by
  cases ends with
  | @invalidTemplate errors invalid =>
    refine ⟨.openInvalidTemplate body.setCode errors, rfl, ?_⟩
    rw [outcome_refusal frame _ (by decide)]
    exact .invalidTemplate invalid
  | emptySet unstocked =>
    refine ⟨.openEmptySet body.setCode, rfl, ?_⟩
    rw [outcome_refusal frame _ (by decide)]
    exact .emptySet unstocked
  | @opened drawn events valid stocked serves =>
    refine ⟨.openSuccess body.setCode body.packType drawn.length, by simp, ?_⟩
    have answered := outcome_opened frame body.packType drawn
    split at answered
    · next plain =>
      rw [answered]
      exact .opened serves plain
    · next surrogate =>
      obtain ⟨error, failed⟩ := answered _
      rw [failed]
      exact .unsent serves surrogate

/-- Every request is bracketed in the log of the service under one id, which is its own if it has
one that is not empty and a fresh one otherwise: its start is reported first and its end last, and
no other start or end is reported. An opening reports its attempt and one end between them, and the
status of the answer matches that end, unless a surrogate keeps the opened pack from being sent. -/
theorem requests_are_bracketed (frame : Framework) (registry : Registry) (fresh : Fresh)
    (request : Request) :
    let exchange := handle frame registry fresh request
    let id := ((request.header? "x-request-id").filter (· ≠ "")).getD fresh.id
    ∃ inside last, exchange.IsBracketed request id fresh.client inside last ∧
      (exchange.requestId = some id ↔
        ∃ status duration, last = .requestCompleted id status duration) ∧
      ∀ body, request.task? frame = some (.openPack body) → ∃ finish,
        inside = [.openAttempt body.setCode body.packType body.definition.isSome, finish] ∧
        body.Concludes registry id (reportedPath (pathOf request.target)) fresh.duration finish last
          exchange.answer.status := by
  intro exchange id
  have own : request.id fresh = id := by
    simp only [Request.id, id]
    cases given : request.header? "x-request-id" with
    | none => rfl
    | some value => by_cases empty : value = "" <;> simp [empty, Option.filter]
  have bracketed := isBracketed_handle frame registry fresh request
  rw [own] at bracketed
  refine ⟨_, _, bracketed, bracketed.closes.requestId_eq_iff, fun body asked => ?_⟩
  have ends : body.Ends registry ((Task.openPack body).reply registry fresh.seed) :=
    openPack_ends registry fresh.seed body
  rw [status_handle, respond_of_task asked, log_outcome]
  exact concludes_of_ends ends frame ..

/-- A request with an id of its own, whose pack has the one slot for a common card and no card to
fill it from: the pack opens without cards. -/
theorem requests_are_bracketed_empty_pack :
    let request : Request := ⟨"POST", "/open_pack", [("content-type", "application/json"),
        ("x-request-id", "own")],
      "\x7b\"set_code\":\"s\",\"definition\":\"c,100\",\"seed\":1\x7d".toList.map
        fun c => UInt8.ofNat c.toNat⟩
    let body : OpenBody := ⟨"s", "play", none, [], some "c,100", [], some 1⟩
    let frame : Framework := .usual 1 0
    let exchange := handle frame [] ⟨"fresh", 0, some "::1", 250⟩ request
    request.task? frame = some (.openPack body) ∧
    exchange.answer.status = 201 ∧ exchange.requestId = some "own" ∧
    serviceEvents exchange.log = [
      .requestStarted "own" "POST" "/open_pack" (some "::1") (some "application/json"),
      .openAttempt "s" "play" true, .openSuccess "s" "play" 0,
      .requestCompleted "own" 201 250] := by
  intro request body frame exchange
  have asked : request.task? frame = some (.openPack body) := by decide +kernel
  have own : ((request.header? "x-request-id").filter (· ≠ "")).getD "fresh" = "own" := by
    decide +kernel
  have path : reportedPath (pathOf request.target) = "/open_pack" := by decide +kernel
  have kind : request.header? "content-type" = some "application/json" := by decide +kernel
  have method : request.method = "POST" := rfl
  have valid : (Definition.compile "c,100").isValid = true := by decide +kernel
  have unstocked (code : Text) : body.entitledPool [] code = [] := by
    simp [OpenBody.entitledPool, SetPools.of, body]
  have bare (drawn : List DrawnCard) (serves : body.Serves [] drawn) : drawn = [] := by
    refine List.eq_nil_iff_forall_not_mem.2 fun one member => ?_
    simpa [unstocked] using (serves.1 one member).2
  clear_value request
  obtain ⟨inside, last, bracketed, shown, openings⟩ :=
    requests_are_bracketed frame [] ⟨"fresh", 0, some "::1", 250⟩ request
  obtain ⟨finish, rfl, concludes⟩ := openings body asked
  have events := bracketed.events
  rw [own] at shown concludes events
  rw [path, kind, method] at events
  generalize (handle frame [] _ request).answer.status = status at concludes ⊢
  cases concludes with
  | invalidTemplate invalid =>
    rw [OpenBody.isInvalid_iff rfl, valid] at invalid
    cases invalid
  | emptySet unstocked => cases unstocked.1
  | opened serves plain =>
    obtain rfl := bare _ serves
    exact ⟨asked, rfl, shown.2 ⟨201, 250, rfl⟩, events⟩
  | unsent serves surrogate =>
    obtain rfl := bare _ serves
    exact absurd ⟨by decide, by simp⟩ surrogate

/-- A success is not always followed by an answer that says so: the pack type of an opened pack can
be a surrogate, and then the request fails. -/
theorem not_every_success_created :
    let frame : Framework := .usual 1 0
    ¬ ∀ (registry : Registry) (fresh : Fresh) (request : Request) (body : OpenBody),
      request.task? frame = some (.openPack body) → ∀ setCode packType cards,
        .openSuccess setCode packType cards ∈
          serviceEvents (handle frame registry fresh request).log →
        (handle frame registry fresh request).answer.status = 201 := by
  intro frame claim
  let fresh : Fresh := ⟨"fresh", 0, none, 0⟩
  let request : Request := ⟨"POST", "/open_pack", [("content-type", "application/json")],
    "\x7b\"set_code\":\"s\",\"pack_type\":\"\\ud800\",\"definition\":\"c,100\"\x7d".toList.map
      fun c => UInt8.ofNat c.toNat⟩
  let body : OpenBody := ⟨"s", [.surrogate 0], none, [], some "c,100", [], none⟩
  have asked : request.task? frame = some (.openPack body) := by decide +kernel
  have valid : (Definition.compile "c,100").isValid = true := by decide +kernel
  have bracketed := isBracketed_handle frame [] fresh request
  have created := claim [] fresh request body asked
  rw [bracketed.events, status_handle, respond_of_task asked, log_outcome] at created
  have ends : body.Ends [] ((Task.openPack body).reply [] 0) := openPack_ends [] 0 body
  obtain ⟨finish, events, concludes⟩ := concludes_of_ends ends frame "fresh" "/open_pack" 0
  rw [events] at created
  generalize ((((Task.openPack body).reply [] 0).outcome frame).lastEvent "fresh" "/open_pack" 0) =
      last, (((Task.openPack body).reply [] 0).outcome frame).status = status at concludes created
  cases concludes with
  | invalidTemplate invalid =>
    rw [OpenBody.isInvalid_iff rfl, valid] at invalid
    cases invalid
  | emptySet unstocked => cases unstocked.1
  | opened serves plain => cases plain.1
  | @unsent drawn error serves surrogate =>
    cases created body.setCode body.packType drawn.length (by simp)

end PackOpening.Service
