import PackOpening.Service.Operations
import PackOpening.Service.Request
import PackOpening.Service.Sending

/-!
Requests and their answers.

Every request has an id, its own or a fresh one. Its start is reported first and its end last:
either its completion with the status of the answer, or its failure. Only a completed request has
its id in the answer. A request fails when its body is no text, or when the data of its answer
cannot be sent. Around the service stands a framework, which answers some requests by itself and
words the reports of flaws; what it does there is not settled here.
-/
namespace PackOpening.Service

open PackOpening.Json

/-- What the outer world supplies for one request: an id, a seed for packs without one, the address
of the client if it is known, and how long the answer takes. -/
structure Fresh where
  id : String
  seed : Int
  client : Option String
  duration : Int
  deriving DecidableEq, Repr

/-- The body of an answer: data, plain text, or the flaws of a request. -/
inductive Content where
  | data (j : Json)
  | text (s : String)
  | flaws (flaws : List Flaw)
  deriving Repr

structure Answer where
  status : Nat
  content : Content
  deriving Repr

/-- What the framework around the service settles: how deep lists and records may be nested in the
body of a request, and how much deeper in data that are sent than in the answers of the service; the
answer to a request that only asks for leave to make another one; and the report of flaws. -/
structure Framework where
  bodyRoom : Nat
  spareRoom : Nat
  leave? : Request → Option Answer
  report : List Flaw → Json

/-- The status of an answer that names another address for the same request. -/
def redirectionStatus : Nat := 307

def Answer.redirects (answer : Answer) : Bool := answer.status == redirectionStatus

/-- What happened to a request, and the records written on the way. -/
inductive Outcome where
  | answered (answer : Answer) (log : List Record)
  | failed (error : Text) (log : List Record)
  deriving Repr

section

variable (frame : Framework)

/-- Answers with some content if the data that stand for it can be sent. -/
def send (status : Nat) (content : Content) (data : Json) (log : List Record) : Outcome :=
  match sendFault? frame.spareRoom data with
  | none => .answered ⟨status, content⟩ log
  | some fault => .failed fault.message log

/-- Answers with data. -/
def answer (status : Nat) (data : Json) (log : List Record) : Outcome :=
  send frame status (.data data) data log

/-- Answers with the flaws of a request. -/
def refuse (flaws : List Flaw) : Outcome := send frame 422 (.flaws flaws) (frame.report flaws) []

def bodyStep : Step := .key "body"

/-- Checks a body and passes it on to an operation. -/
def withBody {α : Type} (request : Request) (check : Json → Checked α) (operate : α → Reply) :
    Outcome :=
  let checked (j : Json) : Outcome :=
    match (check j).within bodyStep with
    | .flawed flaws => refuse frame flaws
    | .ok body =>
      let reply := operate body
      answer frame reply.status reply.body reply.log
  match receive frame.bodyRoom ((request.header? "content-type").getD "") request.body with
  | .error (.malformed offset) => refuse frame [⟨.malformed, [bodyStep, .index offset], .obj []⟩]
  | .error .unreadable =>
    answer frame 400 (.obj [("detail", .str "There was an error parsing the body")]) []
  | .ok .nothing => refuse frame [⟨.missing, [bodyStep], .null⟩]
  | .ok (.data j) => checked j
  | .ok (.plain bytes) =>
    match Text.Utf8.decode bytes with
    | .ok chars => checked (.str (Text.ofChars chars))
    | .error fault => .failed (fault.message bytes.length) []

/-- Answers a request for a place of the service with a method of that place. What the service says
of itself is not part of the answers here. -/
def perform (registry : Registry) (fresh : Fresh) (request : Request) : Route → Outcome
  | .root => answer frame 200 (.obj [("status", .str "ok")]) []
  | .validate => withBody frame request DefinitionBody.ofData validate
  | .generate => withBody frame request GenerateBody.ofData (generate registry fresh.seed)
  | .openPack => withBody frame request OpenBody.ofData (openPack registry fresh.seed)
  | .outline | .manual | .manualSignIn | .reference => .answered ⟨200, .text ""⟩ []

/-- Finds the place of a request. A path that only differs from a place by slashes at its end is
redirected there. -/
def respond (registry : Registry) (fresh : Fresh) (request : Request) : Outcome :=
  match frame.leave? request with
  | some answer => .answered answer []
  | none =>
    let path := pathOf request.target
    match Route.at? path with
    | some route =>
      if route.methods.contains request.method then perform frame registry fresh request route
      else answer frame 405 (.obj [("detail", .str "Method Not Allowed")]) []
    | none =>
      if (Route.at? (Route.otherEnding path)).isSome then
        .answered ⟨redirectionStatus, .text ""⟩ []
      else answer frame 404 (.obj [("detail", .str "Not Found")]) []

end

/-- An answer as it reaches the client, the id it carries, and everything reported meanwhile. -/
structure Exchange where
  answer : Answer
  requestId : Option String
  log : List Record
  deriving Repr

/-- The id of a request: its own if it has one that is not empty. -/
def Request.id (request : Request) (fresh : Fresh) : String :=
  match request.header? "x-request-id" with
  | none => fresh.id
  | some own => if own = "" then fresh.id else own

/-- Answers to a request for the head alone have no body. -/
def Answer.sent (answer : Answer) (request : Request) : Answer :=
  if request.method = "HEAD" then { answer with content := .text "" } else answer

/-- Handles one request. The registry is only read: no operation gives one back. -/
def handle (frame : Framework) (registry : Registry) (fresh : Fresh) (request : Request) :
    Exchange :=
  let id := request.id fresh
  let path := reportedPath (pathOf request.target)
  let start := Record.service
    (.requestStarted id request.method path fresh.client (request.header? "content-type"))
  match respond frame registry fresh request with
  | .answered answer log =>
    ⟨answer.sent request, some id,
      start :: log ++ [.service (.requestCompleted id answer.status fresh.duration)]⟩
  | .failed error log =>
    ⟨Answer.sent ⟨500, .text "Internal Server Error"⟩ request, none,
      start :: log ++ [.service (.requestFailed id path error)]⟩

end PackOpening.Service
