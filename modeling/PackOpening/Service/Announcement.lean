import PackOpening.Service.Exchange
import PackOpening.Service.Report

/-!
A framework that the service runs in. A request from another origin may ask for leave to use a
method; such a request is answered in front of the service, which does not see it.
-/
namespace PackOpening.Service

/-- The methods that a request from another origin may announce. -/
def announcedMethods : List String :=
  ["DELETE", "GET", "HEAD", "OPTIONS", "PATCH", "POST", "PUT", "QUERY"]

/-- The method that a request from another origin asks leave for, if it only does that. -/
def Request.announced? (request : Request) : Option String :=
  if request.method = "OPTIONS" then
    (request.header? "origin").bind fun _ => request.header? "access-control-request-method"
  else none

/-- What a request from another origin asks leave for in vain: a method that is not known, and
access to a private network. -/
def Request.denied (request : Request) (method : String) : List String :=
  (if announcedMethods.contains method then [] else ["method"]) ++
  (if (request.header? "access-control-request-private-network").isSome then ["private-network"]
    else [])

/-- The answer to a request that only asks for leave. -/
def Request.leave? (request : Request) : Option Answer :=
  request.announced?.map fun method =>
    match request.denied method with
    | [] => ⟨200, .text "OK"⟩
    | denied => ⟨400, .text ("Disallowed CORS " ++ String.intercalate ", " denied)⟩

/-- The framework with this answer and this report. -/
def Framework.usual (bodyRoom spareRoom : Nat) : Framework :=
  ⟨bodyRoom, spareRoom, Request.leave?, reportData⟩

end PackOpening.Service
