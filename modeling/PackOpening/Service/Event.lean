import PackOpening.Json.Basic
import PackOpening.Log.Level
import PackOpening.Numeric.Decimal
import PackOpening.Pack.Event

/-!
What the service reports: the loading of pools, the life of each request, and what became of the
work that was asked for.
-/
namespace PackOpening.Service

open PackOpening.Log

/-- An event of the service. Durations are in hundredths of a millisecond. -/
inductive Event where
  | poolsLoaded (files sets : List Text)
  | poolLoadErrors (errors : List Text)
  | requestStarted (id method path : String) (client contentType : Option String)
  | requestFailed (id path : String) (error : Text)
  | requestCompleted (id : String) (status : Nat) (duration : Int)
  | templateValidated (valid : Bool) (slots errors : Nat)
  | generateInvalidDefinition (setCode : Text) (errors : List Text)
  | generateMissingSet (setCode : Text)
  | generateSuccess (setCode : Text) (slots cards : Nat)
  | openAttempt (setCode packType : Text) (custom : Bool)
  | openInvalidTemplate (setCode : Text) (errors : List Text)
  | openEmptySet (setCode : Text)
  | openSuccess (setCode packType : Text) (cards : Nat)
  deriving DecidableEq, Repr

namespace Event

def level : Event → Level
  | poolLoadErrors .. | generateInvalidDefinition .. | generateMissingSet .. => .warn
  | requestFailed .. | openInvalidTemplate .. | openEmptySet .. => .error
  | _ => .info

def name : Event → Text
  | poolsLoaded .. => "startup_pools_loaded"
  | poolLoadErrors .. => "startup_pool_load_errors"
  | requestStarted .. => "request_started"
  | requestFailed .. => "request_failed"
  | requestCompleted .. => "request_completed"
  | templateValidated .. => "template_validated"
  | generateInvalidDefinition .. => "test_generate_invalid_definition"
  | generateMissingSet .. => "test_generate_missing_set"
  | generateSuccess .. => "test_generate_success"
  | openAttempt .. => "open_pack_attempt"
  | openInvalidTemplate .. => "open_pack_invalid_template"
  | openEmptySet .. => "open_pack_empty_set"
  | openSuccess .. => "open_pack_success"

/-- A duration in milliseconds. -/
def milliseconds (duration : Int) : Float :=
  Numeric.nearestFloat (duration < 0) duration.natAbs (-2)

def data : Event → List (Text × Json)
  | poolsLoaded files sets => [("files", .ofTexts files), ("sets", .ofTexts sets)]
  | poolLoadErrors errors => [("errors", .ofTexts errors)]
  | requestStarted id method path client contentType =>
    [("req_id", .str id), ("method", .str method), ("path", .str path),
      ("client_ip", .ofText? (client.map Text.ofString)),
      ("content_type", .ofText? (contentType.map Text.ofString))]
  | requestFailed id path error => [("req_id", .str id), ("path", .str path), ("error", .str error)]
  | requestCompleted id status duration =>
    [("req_id", .str id), ("status", .ofNat status),
      ("duration_ms", .float (milliseconds duration))]
  | templateValidated valid slots errors =>
    [("valid", .bool valid), ("slot_count", .ofNat slots), ("error_count", .ofNat errors)]
  | generateInvalidDefinition setCode errors =>
    [("set_code", .str setCode), ("errors", .ofTexts errors)]
  | generateMissingSet setCode => [("set_code", .str setCode)]
  | generateSuccess setCode slots cards =>
    [("set_code", .str setCode), ("slot_count", .ofNat slots), ("cards_generated", .ofNat cards)]
  | openAttempt setCode packType custom =>
    [("set_code", .str setCode), ("pack_type", .str packType), ("custom", .bool custom)]
  | openInvalidTemplate setCode errors =>
    [("set_code", .str setCode), ("errors", .ofTexts errors)]
  | openEmptySet setCode => [("set_code", .str setCode)]
  | openSuccess setCode packType cards =>
    [("set_code", .str setCode), ("pack_type", .str packType), ("cards_received", .ofNat cards)]

end Event

/-- One line of the two logs: of the service, or of the assembly of packs, whose events are all of
the lowest level. -/
inductive Record where
  | service (event : Event)
  | pack (event : PackEvent)
  deriving DecidableEq, Repr

namespace Record

def logType : Record → Text
  | service _ => "server"
  | pack _ => "booster"

def level : Record → Level
  | service event => event.level
  | pack _ => .debug

def name : Record → Text
  | service event => event.name
  | pack event => event.name

def data : Record → List (Text × Json)
  | service event => event.data
  | pack event => event.data

end Record
end PackOpening.Service
