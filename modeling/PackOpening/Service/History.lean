import PackOpening.Service.Exchange

/-!
Histories: loads of pools and requests, one after another. Only loads change the registry, and only
those whose scan did not break off; that a request does not is by construction, since no operation
gives a registry back.
-/
namespace PackOpening.Service

open PackOpening.Json (Container)

/-- A client: why it does not send a request, and why it gives up the answer to one, which may name
another address. -/
structure Client (Refusal : Type) where
  unsent? : Request → Option Refusal
  givenUp? : Request → (isRedirected : Bool) → Option Refusal

inductive Step where
  /-- Scans a folder, given by its entries and the name under which it is shown, with some room for
  nesting in its files. -/
  | load (room : Nat) (shownFolder : Text) (entries : List (Text × Node))
  | request (fresh : Fresh) (request : Request)

/-- What a step shows: the scan of a load and its reports, the container at which the scan broke
off, why a request was not sent, why its answer was given up, or its exchange. -/
inductive Shown (Refusal : Type) where
  | loaded (scan : PoolFile.Scan) (log : List Record)
  | brokenOff (container : Container)
  | unsent (why : Refusal)
  | givenUp (why : Refusal)
  | exchange (exchange : Exchange)

/-- The registry after a step. -/
def Registry.after (registry : Registry) : Step → Registry
  | .load room _ entries =>
    match PoolFile.scanThrough room entries with
    | .ok scan => registry.load scan
    | .error _ => registry
  | .request .. => registry

section

variable {Refusal : Type} (frame : Framework) (client : Client Refusal)

/-- What a step shows in the presence of a registry. -/
def Step.shown (registry : Registry) : Step → Shown Refusal
  | .load room shownFolder entries =>
    match PoolFile.scanThrough room entries with
    | .ok scan => .loaded scan ((Registry.loadEvents shownFolder scan).map .service)
    | .error container => .brokenOff container
  | .request fresh asked =>
    match client.unsent? asked with
    | some why => .unsent why
    | none =>
      let exchange := handle frame registry fresh asked
      match client.givenUp? asked exchange.answer.redirects with
      | some why => .givenUp why
      | none => .exchange exchange

/-- What the steps of a history show. -/
def shownAll (registry : Registry) : List Step → List (Shown Refusal)
  | [] => []
  | step :: rest => step.shown frame client registry :: shownAll (registry.after step) rest

end

/-- The registry after a whole history. -/
def Registry.afterAll (registry : Registry) (steps : List Step) : Registry :=
  steps.foldl Registry.after registry

end PackOpening.Service
