import PackOpening.Card.Data
import PackOpening.Json.Reader
import PackOpening.Pool.Basic
import PackOpening.Text.Encoding

/-!
Request bodies: how bytes become data, and the three forms of data that the operations take.
-/
namespace PackOpening.Service

open PackOpening.Json

/-- A definition to be validated. -/
structure DefinitionBody where
  definition : Text
  deriving DecidableEq, Repr

/-- A definition to be tried out on some pools. -/
structure GenerateBody where
  definition : Text
  setCode : Text
  pools : SetPools
  seed : Option Int
  deriving DecidableEq, Repr

/-- A pack to be opened, by a definition if there is one and else by a built-in policy. -/
structure OpenBody where
  setCode : Text
  packType : Text
  releaseDate : Option Text
  cards : List Card
  definition : Option Text
  extraPools : SetPools
  seed : Option Int
  deriving DecidableEq, Repr

def DefinitionBody.ofData : Json → Checked DefinitionBody :=
  record fun whole => DefinitionBody.mk <$> required "definition" text whole

def cardPools : Json → Checked SetPools := dictionaryOf (listOf Card.ofData)

def GenerateBody.ofData : Json → Checked GenerateBody :=
  record fun whole =>
    GenerateBody.mk <$> required "definition" text whole
      <*> required "set_code" text whole
      <*> withDefault "pools" [] cardPools whole
      <*> withDefault "seed" none (optional integer) whole

def OpenBody.ofData : Json → Checked OpenBody :=
  record fun whole =>
    OpenBody.mk <$> required "set_code" text whole
      <*> withDefault "pack_type" "play" text whole
      <*> withDefault "release_date" none (optional text) whole
      <*> withDefault "cards" [] (listOf Card.ofData) whole
      <*> withDefault "definition" none (optional text) whole
      <*> withDefault "extra_pools" [] cardPools whole
      <*> withDefault "seed" none (optional integer) whole

/-- What a body was found to hold. -/
inductive Received where
  | nothing
  | data (j : Json)
  | plain (bytes : List UInt8)
  deriving Repr

/-- Why the bytes of a body are no data: a fault in their notation with its place, or bytes that are
no text, hold a number that is too long or are nested too deep. -/
inductive BodyFault where
  | malformed (offset : Nat)
  | unreadable
  deriving DecidableEq, Repr

/-- Whether a content type announces data. -/
def announcesData (contentType : String) : Bool :=
  let media := (Text.trim (Text.cut (.char ';') contentType).1).map (·.map Char.toLower)
  match Text.pieces (.char '/') media with
  | [main, sub] => main == "application" && (sub == "json" || ("+json" : Text).isSuffixOf sub)
  | _ => false

/-- Reads a body as data in which there is some room for nesting. -/
def readData (room : Nat) (bytes : List UInt8) : Except BodyFault Json :=
  match Text.decodeDetected? bytes with
  | none => .error .unreadable
  | some text =>
    match readWithin room text with
    | .ok j => .ok j
    | .error ⟨.tooManyDigits _, _⟩ | .error ⟨.nestedTooDeep _, _⟩ => .error .unreadable
    | .error fault => .error (.malformed (text.length - fault.left))

/-- Reads a body; bytes that are not announced as data are taken as they are. -/
def receive (room : Nat) (contentType : String) (bytes : List UInt8) :
    Except BodyFault Received :=
  if bytes.isEmpty then .ok .nothing
  else if announcesData contentType then (readData room bytes).map .data
  else .ok (.plain bytes)

end PackOpening.Service
