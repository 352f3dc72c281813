import PackOpening.Proofs.Service.Bracketing
import PackOpening.Service.Announcement

/-!
Answers that carry the id of their request.

The id is put on an answer last, so a request that fails before it has an answer loses its id. This
is so for the replies and the reports that cannot be sent, and for bodies that are no text. Every
other request has its id in the answer, whether it is served, refused or sent elsewhere. Of the
framework only this is needed, that a report of flaws shows the values found and says nothing else
that is hard to send.
-/
namespace PackOpening.Service

open PackOpening.Json PackOpening.Text

def Outcome.isFailed : Outcome → Bool
  | .answered .. => false
  | .failed .. => true

section Reports

/-- How deep lists and records may be nested in a value that a report shows: the report, its list of
flaws and the record of the flaw stand around it. -/
def Framework.foundRoom (frame : Framework) : Nat := frame.spareRoom + 2

/-- Of a report of flaws only the values that were found may be hard to send, three levels deep. -/
def Framework.ShowsFound (frame : Framework) : Prop :=
  ∀ (room : Nat) (flaws : List Flaw),
    IsSendable (room + 4) (frame.report flaws) ↔ ∀ flaw ∈ flaws, IsSendable (room + 1) flaw.found

def flawData (flaw : Flaw) : Json :=
  .obj [("type", .str flaw.kind.code), ("loc", .arr (flaw.path.map stepData)),
    ("msg", .str flaw.kind.sentence), ("input", flaw.found)]

theorem isSendable_stepData (room : Nat) (step : Step) : IsSendable room (stepData step) := by
  cases step with
  | key name => exact .str (isEncodable_ofString _)
  | index position => exact .int _

/-- Of what a report says of a flaw, only the value that was found there may be hard to send. -/
theorem isSendable_flawData {room : Nat} {flaw : Flaw} :
    IsSendable (room + 2) (flawData flaw) ↔ IsSendable (room + 1) flaw.found := by
  have kept : isSent "type" = true ∧ isSent "loc" = true ∧ isSent "msg" = true ∧
      isSent "input" = true := by decide
  have code : isEncodable flaw.kind.code = true := by
    cases flaw.kind <;> exact isEncodable_ofString _
  have sentence : isEncodable flaw.kind.sentence = true := by
    cases flaw.kind <;> exact isEncodable_ofString _
  have place : IsSendable (room + 1) (.arr (flaw.path.map stepData)) := by
    refine .arr fun item there => ?_
    obtain ⟨step, _, rfl⟩ := List.mem_map.1 there
    exact isSendable_stepData room step
  simp [flawData, isSendable_obj_iff, isSendable_str_iff, kept, code, sentence, place,
    isEncodable_ofString]

theorem isSendable_reportData {room : Nat} {flaws : List Flaw} :
    IsSendable (room + 4) (reportData flaws) ↔
      ∀ flaw ∈ flaws, IsSendable (room + 1) flaw.found := by
  have kept : isSent "detail" = true := by decide
  have each : IsSendable (room + 3) (.arr (flaws.map flawData)) ↔
      ∀ flaw ∈ flaws, IsSendable (room + 1) flaw.found := by
    rw [isSendable_arr_iff, List.forall_mem_map]
    exact forall₂_congr fun flaw _ => isSendable_flawData
  have report : reportData flaws = .obj [("detail", .arr (flaws.map flawData))] := rfl
  rw [report, isSendable_obj_iff, ← each]
  simp [kept, isEncodable_ofString]

theorem showsFound_usual (bodyRoom spareRoom : Nat) :
    (Framework.usual bodyRoom spareRoom).ShowsFound :=
  fun _ _ => isSendable_reportData

variable {frame : Framework}

theorem isFailed_send {status : Nat} {content : Content} {data : Json} {log : List Record} :
    (send frame status content data log).isFailed = true ↔
      ¬ IsSendable (sendRoom frame.spareRoom) data := by
  rw [← sendFault?_eq_none_iff_isSendable]
  unfold send
  cases sendFault? frame.spareRoom data <;> simp [Outcome.isFailed]

/-- A plain note is always sent. -/
theorem isFailed_note {status : Nat} {name note : String} (kept : isSent name = true) :
    (answer frame status (.obj [(name, .str note)]) []).isFailed = false := by
  have sendable : IsSendable (sendRoom frame.spareRoom) (.obj [(name, .str note)]) :=
    isSendable_obj_iff.2 (by simp [kept, isSendable_str_iff, isEncodable_ofString])
  exact Bool.eq_false_iff.2 fun failed => isFailed_send.1 failed sendable

theorem isFailed_outcome {reply : Reply} :
    (reply.outcome frame).isFailed = true ↔ ¬ IsSendable (sendRoom frame.spareRoom) reply.body :=
  isFailed_send

/-- A report fails if it has to show what cannot be sent. -/
theorem isFailed_refuse (shows : frame.ShowsFound) {flaws : List Flaw} :
    (refuse frame flaws).isFailed = true ↔
      ∃ flaw ∈ flaws, ¬ IsSendable frame.foundRoom flaw.found := by
  have report : IsSendable (sendRoom frame.spareRoom) (frame.report flaws) ↔
      ∀ flaw ∈ flaws, IsSendable frame.foundRoom flaw.found := shows (frame.spareRoom + 1) flaws
  rw [refuse, isFailed_send, report]
  simp

end Reports

section Failures

variable (frame : Framework)

/-- The place that a request asks for, if this answers to its method. -/
def Request.route? (request : Request) : Option Route :=
  match frame.leave? request, Route.at? (pathOf request.target) with
  | none, some route => if route.methods.contains request.method then some route else none
  | _, _ => none

/-- The content type of a request, which is empty if none is given. -/
def Request.contentType (request : Request) : String := (request.header? "content-type").getD ""

/-- The value that a body stands for: the data in it if it is announced as data, and else its
text. -/
def Request.held? (request : Request) : Option Json :=
  match receive frame.bodyRoom request.contentType request.body with
  | .ok (.data j) => some j
  | .ok (.plain bytes) => (Utf8.decode bytes).toOption.map fun chars => .str (ofChars chars)
  | _ => none

/-- What a place finds wrong with a value. -/
def Route.flawsIn : Route → Json → List Flaw
  | .validate, j => (DefinitionBody.ofData j).flaws
  | .generate, j => (GenerateBody.ofData j).flaws
  | .openPack, j => (OpenBody.ofData j).flaws
  | _, _ => []

def Route.takesBody : Route → Bool
  | .validate | .generate | .openPack => true
  | _ => false

/-- The requests that get no answer of their own: a surrogate stands in a text of the reply; the
report of a flaw would have to show a value that cannot be sent; or the body is not announced as
data and is no text. -/
inductive Request.Fails (registry : Registry) (seed : Int) (request : Request) : Prop where
  | reply {task : Task} {text : Text} (asked : request.task? frame = some task)
    (told : text ∈ writtenTexts (task.reply registry seed).body)
    (surrogate : isEncodable text = false) : Fails registry seed request
  | report {route : Route} {j : Json} {flaw : Flaw} (asked : request.route? frame = some route)
    (held : request.held? frame = some j) (found : flaw ∈ route.flawsIn j)
    (unsendable : ¬ IsSendable frame.foundRoom flaw.found) : Fails registry seed request
  | noText {route : Route} {fault : Utf8.Fault} (asked : request.route? frame = some route)
    (taken : route.takesBody = true) (plain : announcesData request.contentType = false)
    (broken : Utf8.decode request.body = .error fault) : Fails registry seed request

end Failures

section Requests

variable {frame : Framework} {registry : Registry} {fresh : Fresh} {request : Request}

/-- The replies of the service are nested a few steps deep and hold no floating-point numbers. -/
theorem writeFault?_reply (spare : Nat) (registry : Registry) (seed : Int) (task : Task) :
    writeFault? (sendRoom spare) (task.reply registry seed).body = none := by
  have cards (drawn : List DrawnCard) : writeFault? (spare + 4) (cardsData drawn) = none := by
    simp [cardsData, writeFault?, writeFaultItems?_drawnData]
  have error (message : Text) : writeFault? (sendRoom spare) (errorData message) = none := by
    simp [errorData, sendRoom, writeFault?, writeFaultMembers?]
  have pack (body : OpenBody) (drawn : List DrawnCard) (log : List Record) :
      writeFault? (sendRoom spare) (opened body drawn log).body = none := by
    simp [opened, sendRoom, writeFault?, writeFaultMembers?, cards]
  cases task with
  | validate body =>
    simp [Task.reply, validate, sendRoom, writeFault?, writeFaultMembers?, Json.ofTexts,
      writeFaultItems?_map_str, Json.ofNat]
  | generate body =>
    simp only [Task.reply, generate]
    split
    · exact error _
    · split
      · exact error _
      · simp [sendRoom, writeFault?, writeFaultMembers?, cards]
  | openPack body =>
    simp only [Task.reply, openPack, openNow]
    split
    · split
      · exact error _
      · exact pack ..
    · split
      · exact error _
      · exact pack ..

theorem isFailed_reply {seed : Int} {task : Task} :
    ((task.reply registry seed).outcome frame).isFailed = true ↔
      ∃ text ∈ writtenTexts (task.reply registry seed).body, isEncodable text = false := by
  rw [isFailed_outcome, isSendable_iff, writeFault?_reply]
  simp

/-- A body is empty, or read as data if it is announced as such, and else taken as it is. -/
theorem receive_cases (room : Nat) (contentType : String) (bytes : List UInt8) :
    (bytes = [] ∧ receive room contentType bytes = .ok .nothing) ∨
    (announcesData contentType = true ∧ ∃ fault, receive room contentType bytes = .error fault) ∨
    (announcesData contentType = true ∧ ∃ j, receive room contentType bytes = .ok (.data j)) ∨
    (announcesData contentType = false ∧ receive room contentType bytes = .ok (.plain bytes)) := by
  unfold receive
  cases bytes with
  | nil => exact .inl ⟨rfl, rfl⟩
  | cons first rest =>
    cases announced : announcesData contentType with
    | false => simp
    | true => cases readData room (first :: rest) <;> simp [Except.map]

/-- A value that a body stands for is worked on if it is sound, and reported on if it is not. -/
theorem isFailed_checked (shows : frame.ShowsFound) {α : Type} {checked : Checked α}
    {operate : α → Reply} :
    (match checked.within bodyStep with
      | .flawed flaws => refuse frame flaws
      | .ok body => (operate body).outcome frame).isFailed = true ↔
    (∃ body, checked.value? = some body ∧ ((operate body).outcome frame).isFailed = true) ∨
      ∃ flaw ∈ checked.flaws, ¬ IsSendable frame.foundRoom flaw.found := by
  cases checked with
  | ok body => simp [Checked.within, Checked.value?, Checked.flaws]
  | flawed flaws => simp [Checked.within, Checked.value?, Checked.flaws, isFailed_refuse shows]

theorem isFailed_withBody (shows : frame.ShowsFound) {α : Type} {check : Json → Checked α}
    {operate : α → Reply} :
    (withBody frame request check operate).isFailed = true ↔
      (∃ body, request.sound? frame check = some body ∧
        ((operate body).outcome frame).isFailed = true) ∨
      (∃ j, request.held? frame = some j ∧
        ∃ flaw ∈ (check j).flaws, ¬ IsSendable frame.foundRoom flaw.found) ∨
      (announcesData request.contentType = false ∧
        ∃ fault, Utf8.decode request.body = .error fault) := by
  have detail : isSent "detail" = true := by decide
  have null : IsSendable frame.foundRoom .null := .null
  have empty : IsSendable frame.foundRoom (.obj []) := isSendable_obj_iff.2 (by simp)
  unfold withBody Request.sound? Request.held?
  rw [← Request.contentType]
  rcases receive_cases frame.bodyRoom request.contentType request.body with
    ⟨none, received⟩ | ⟨announced, fault, received⟩ | ⟨announced, j, received⟩ | ⟨plain, received⟩
  · have decoded : Utf8.decode request.body = .ok [] := none ▸ rfl
    simp [received, isFailed_refuse shows, null, decoded]
  · cases fault with
    | malformed offset => simp [received, isFailed_refuse shows, empty, announced]
    | unreadable => simp [received, isFailed_note, detail, announced]
  · rw [received]
    refine (isFailed_checked shows).trans ?_
    simp [announced]
  · rw [received]
    dsimp only
    cases decoded : Utf8.decode request.body with
    | error fault => simp [Outcome.isFailed, plain, Except.toOption]
    | ok chars =>
      refine (isFailed_checked shows).trans ?_
      simp [Except.toOption]

theorem isFailed_perform (shows : frame.ShowsFound) {route : Route} :
    (perform frame registry fresh request route).isFailed = true ↔
      (∃ task, request.taskAt? frame route = some task ∧
        ((task.reply registry fresh.seed).outcome frame).isFailed = true) ∨
      (∃ j, request.held? frame = some j ∧
        ∃ flaw ∈ route.flawsIn j, ¬ IsSendable frame.foundRoom flaw.found) ∨
      (route.takesBody = true ∧ announcesData request.contentType = false ∧
        ∃ fault, Utf8.decode request.body = .error fault) := by
  cases route with
  | root =>
    have status : isSent "status" = true := by decide
    simp [perform, isFailed_note, status, Request.taskAt?, Route.flawsIn, Route.takesBody]
  | validate =>
    refine (isFailed_withBody shows).trans ?_
    simp [Request.taskAt?, Route.flawsIn, Route.takesBody, Task.reply]
  | generate =>
    refine (isFailed_withBody shows).trans ?_
    simp [Request.taskAt?, Route.flawsIn, Route.takesBody, Task.reply]
  | openPack =>
    refine (isFailed_withBody shows).trans ?_
    simp [Request.taskAt?, Route.flawsIn, Route.takesBody, Task.reply]
  | _ =>
    simp [perform, Outcome.isFailed, Request.taskAt?, Route.flawsIn, Route.takesBody]

theorem task?_eq_bind :
    request.task? frame = (request.route? frame).bind (request.taskAt? frame) := by
  unfold Request.task? Request.route?
  cases frame.leave? request with
  | some answer => rfl
  | none =>
    cases Route.at? (pathOf request.target) with
    | none => rfl
    | some route =>
      dsimp only
      split <;> rfl

theorem respond_of_route {route : Route} (asked : request.route? frame = some route) :
    respond frame registry fresh request = perform frame registry fresh request route := by
  unfold Request.route? at asked
  unfold respond
  split at asked
  · next announced place =>
    split at asked
    · next answers =>
      cases asked
      simp only [announced, place, answers, if_true]
    · cases asked
  · cases asked

/-- A request that asks for no place, or for one by a method that it does not answer to, is always
answered. -/
theorem isFailed_respond_of_routeless (routeless : request.route? frame = none) :
    (respond frame registry fresh request).isFailed = false := by
  have detail : isSent "detail" = true := by decide
  unfold Request.route? at routeless
  unfold respond
  cases asking : frame.leave? request with
  | some answer => rfl
  | none =>
    cases place : Route.at? (pathOf request.target) with
    | none =>
      simp only [place]
      split
      · rfl
      · exact isFailed_note detail
    | some route =>
      have refused : request.method ∉ route.methods := by
        simpa [asking, place] using routeless
      simp [place, refused, isFailed_note, detail]

/-- The requests that fail are those that are said to. -/
theorem isFailed_respond (shows : frame.ShowsFound) :
    (respond frame registry fresh request).isFailed = true ↔
      request.Fails frame registry fresh.seed := by
  cases asked : request.route? frame with
  | none =>
    have taskless : request.task? frame = none := by rw [task?_eq_bind, asked, Option.bind_none]
    rw [isFailed_respond_of_routeless asked]
    refine iff_of_false nofun fun fails => ?_
    cases fails with
    | reply there _ _ => rw [taskless] at there; cases there
    | report there _ _ _ => rw [asked] at there; cases there
    | noText there _ _ _ => rw [asked] at there; cases there
  | some route =>
    have task : request.task? frame = request.taskAt? frame route := by
      rw [task?_eq_bind, asked, Option.bind_some]
    rw [respond_of_route asked, isFailed_perform shows]
    constructor
    · rintro (⟨task', there, failed⟩ | ⟨j, held, flaw, found, unsendable⟩ |
        ⟨taken, plain, fault, broken⟩)
      · obtain ⟨text, told, surrogate⟩ := isFailed_reply.1 failed
        exact .reply (task.trans there) told surrogate
      · exact .report asked held found unsendable
      · exact .noText asked taken plain broken
    · intro fails
      cases fails with
      | reply there told surrogate =>
        exact .inl ⟨_, task.symm.trans there, isFailed_reply.2 ⟨_, told, surrogate⟩⟩
      | report there held found unsendable =>
        obtain rfl := Option.some.inj (asked.symm.trans there)
        exact .inr (.inl ⟨_, held, _, found, unsendable⟩)
      | noText there taken plain broken =>
        obtain rfl := Option.some.inj (asked.symm.trans there)
        exact .inr (.inr ⟨taken, plain, _, broken⟩)

end Requests

/-- A request has an id of its own if a header gives one that is not empty. -/
theorem id_eq_own (request : Request) (fresh : Fresh) :
    request.id fresh = ((request.header? "x-request-id").filter (· ≠ "")).getD fresh.id := by
  unfold Request.id
  cases request.header? "x-request-id" with
  | none => rfl
  | some own => by_cases empty : own = "" <;> simp [empty, Option.filter]

theorem requestId_handle (frame : Framework) (registry : Registry) (fresh : Fresh)
    (request : Request) :
    (handle frame registry fresh request).requestId =
      if (respond frame registry fresh request).isFailed then none
      else some (request.id fresh) := by
  unfold handle
  cases respond frame registry fresh request <;> rfl

/-- The answer to a request carries the id under which its start is reported, exactly if the request
does not fail: the id that it has itself, unless that is empty, and otherwise a fresh one. A request
that fails is answered without an id, and its failure is reported last. -/
theorem request_id_is_echoed_iff {frame : Framework} (shows : frame.ShowsFound)
    (registry : Registry) (fresh : Fresh) (request : Request) :
    let exchange := handle frame registry fresh request
    let id := ((request.header? "x-request-id").filter (· ≠ "")).getD fresh.id
    let path := reportedPath (pathOf request.target)
    (serviceEvents exchange.log).head? = some (.requestStarted id request.method path fresh.client
      (request.header? "content-type")) ∧
    (exchange.requestId = some id ↔ ¬ request.Fails frame registry fresh.seed) ∧
    (request.Fails frame registry fresh.seed → exchange.requestId = none ∧
      exchange.answer.status = 500 ∧
      ∃ error, (serviceEvents exchange.log).getLast? = some (.requestFailed id path error)) := by
  intro exchange id path
  have bracketed := isBracketed_handle frame registry fresh request
  have shown := requestId_handle frame registry fresh request
  rw [id_eq_own] at bracketed shown
  rw [← isFailed_respond shows]
  generalize respond frame registry fresh request = outcome at bracketed shown ⊢
  have events := bracketed.events
  refine ⟨by rw [events]; rfl, ?_, fun failed => ?_⟩
  · cases outcome <;> simp [exchange, id, shown, Outcome.isFailed]
  · cases outcome with
    | answered answer log => cases failed
    | failed error log =>
      have closes := bracketed.closes
      cases closes with
      | failed hidden status =>
        refine ⟨hidden, status, error, ?_⟩
        rw [events, ← List.cons_append, List.getLast?_concat]
        rfl

/-- A request without a body and with an empty id is refused under a fresh one. -/
theorem request_id_is_echoed_iff_no_body :
    let frame : Framework := .usual 1 0
    let fresh : Fresh := ⟨"fresh", 0, none, 0⟩
    let request : Request := ⟨"POST", "/open_pack", [("x-request-id", "")], []⟩
    frame.ShowsFound ∧ (handle frame [] fresh request).answer.status = 422 ∧
    (handle frame [] fresh request).requestId = some "fresh" := by
  intro frame fresh request
  have shows : frame.ShowsFound := showsFound_usual 1 0
  have taskless : request.task? frame = none := by decide +kernel
  have served : ¬ request.Fails frame [] 0 := by
    rintro (⟨asked, _, _⟩ | ⟨_, held, _, _⟩ | ⟨_, _, _, broken⟩)
    · rw [taskless] at asked
      cases asked
    · cases held
    · cases broken
  have given : ((request.header? "x-request-id").filter (· ≠ "")).getD "fresh" = "fresh" := by
    decide +kernel
  have echoed := (request_id_is_echoed_iff shows [] fresh request).2.1.2 served
  rw [given] at echoed
  exact ⟨shows, by decide +kernel, echoed⟩

/-- Not every answer carries an id, not even where the request has one in printable ASCII. -/
theorem not_every_request_id_echoed :
    let frame : Framework := .usual 1 0
    ¬ ∀ (registry : Registry) (fresh : Fresh) (request : Request) (own : String),
      request.header? "x-request-id" = some own → own ≠ "" →
      (∀ c ∈ own.toList, 0x20 ≤ c.toNat ∧ c.toNat ≤ 0x7E) →
      (handle frame registry fresh request).requestId = some own := by
  intro frame claim
  let fresh : Fresh := ⟨"fresh", 0, none, 0⟩
  let request : Request := ⟨"POST", "/admin/booster_templates/validate",
    [("content-type", "application/json"), ("x-request-id", "own")],
    "\x7b\"definition\":\"c,1\\ud800\"\x7d".toList.map fun c => UInt8.ofNat c.toNat⟩
  let task : Task := .validate ⟨("c,1" : Text) ++ [.surrogate 0]⟩
  have asked : request.task? frame = some task := by decide +kernel
  have texts :
      ((writtenTexts (task.reply [] 0).body).any fun text => !isEncodable text) = true := by
    decide +kernel
  have own : request.header? "x-request-id" = some "own" := by decide +kernel
  obtain ⟨text, told, surrogate⟩ := List.any_eq_true.1 texts
  have fails : request.Fails frame [] 0 := .reply asked told (by simpa using surrogate)
  have failed : (respond frame [] fresh request).isFailed = true :=
    (isFailed_respond (showsFound_usual 1 0)).2 fails
  have echoed := claim [] fresh request "own" own (by decide) (by simp)
  rw [requestId_handle, failed] at echoed
  cases echoed

end PackOpening.Service
