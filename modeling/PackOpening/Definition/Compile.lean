import PackOpening.Definition.Basic
import PackOpening.Numeric.Decimal

/-!
The language of pack definitions.

A definition is a list of slots between semicolons, perhaps within braces; a slot is a list of
tokens between commas, alternately a rarity letter and a whole percentage. A rarity letter may
follow a set code and a colon. Blanks around any part and the case of letters do not matter.

Every piece of a definition is read on its own: it gives one slot, one fault, or nothing if it is
blank. So a fault in one slot never changes another, and a slot's number counts all pieces up to it.
-/
namespace PackOpening

open PackOpening.Text PackOpening.Numeric

/-- What is wrong with one slot. Tokens are quoted trimmed and in lower case. -/
inductive SlotFault where
  | unknownRarity (token : Text)
  | missingProbability (token : Text)
  | badProbability (token : Text)
  | wrongTotal (total : Int)
  deriving DecidableEq, Repr

/-- What is wrong with a definition. -/
inductive DefinitionFault where
  | empty
  | noSlots
  | inSlot (number : Nat) (fault : SlotFault)
  deriving DecidableEq, Repr

namespace Definition

/-- A rarity token: its set code if it has one that is not blank, and the letter's text. -/
def splitCode (token : Text) : Option Text × Text :=
  match cut (.char ':') token with
  | (_, none) => (none, token)
  | (code, some letter) =>
    let code := trim code
    (if code.isEmpty then none else some code, trim letter)

/-- A percentage: one to three ASCII digits whose value is from 1 to 100. -/
def percentage? (token : Text) : Option Nat :=
  if token.isEmpty || 3 < token.length || !token.all CodePoint.isAsciiDigit then none
  else
    let value := ofAsciiDigits token
    if 1 ≤ value ∧ value ≤ 100 then some value else none

/-- Reads tokens pairwise and stops at the first that does not fit. -/
def entries : List Text → Except SlotFault (List SlotEntry)
  | [] => .ok []
  | [first] =>
    let (_, letter) := splitCode first
    match Rarity.ofCode? letter with
    | none => .error (.unknownRarity letter)
    | some _ => .error (.missingProbability letter)
  | first :: second :: rest =>
    let (code, letter) := splitCode first
    match Rarity.ofCode? letter with
    | none => .error (.unknownRarity letter)
    | some rarity =>
      match percentage? second with
      | none => .error (.badProbability second)
      | some value =>
        match entries rest with
        | .error fault => .error fault
        | .ok others => .ok (⟨rarity, value, code⟩ :: others)

/-- The tokens of a piece, trimmed and in lower case. -/
def tokens (piece : Text) : List Text :=
  (pieces (.char ',') piece).map (fun token => lowercase (trim token))

/-- The slot that a piece spells. -/
def readSlot (piece : Text) : Except SlotFault Slot :=
  match entries (tokens piece) with
  | .error fault => .error fault
  | .ok es =>
    let slot : Slot := ⟨es⟩
    if slot.total = 100 then .ok slot else .error (.wrongTotal slot.total)

/-- What one piece of a definition contributes. -/
inductive Outcome where
  | blank
  | slot (slot : Slot)
  | fault (fault : SlotFault)
  deriving DecidableEq, Repr

def outcome (piece : Text) : Outcome :=
  let piece := trim piece
  if piece.isEmpty then .blank
  else match readSlot piece with
    | .ok slot => .slot slot
    | .error fault => .fault fault

def Outcome.slot? : Outcome → Option Slot
  | slot s => some s
  | _ => none

def Outcome.fault? : Outcome → Option SlotFault
  | fault f => some f
  | _ => none

def dropOpening : Text → Text
  | .char '\x7b' :: rest => rest
  | text => text

def dropClosing (text : Text) : Text :=
  if text.getLast? = some (.char '\x7d') then text.dropLast else text

/-- The text inside the braces: either brace may be missing. -/
def body (text : Text) : Text := trim (dropClosing (dropOpening (trim text)))

end Definition

/-- A definition read: the slots without fault in their order, and the faults of the others. -/
structure Definition where
  slots : List Slot
  faults : List DefinitionFault
  deriving DecidableEq, Repr

namespace Definition

/-- The faults among outcomes whose first has the given number. -/
def faultsFrom (number : Nat) : List Outcome → List DefinitionFault
  | [] => []
  | .fault f :: rest => .inSlot number f :: faultsFrom (number + 1) rest
  | _ :: rest => faultsFrom (number + 1) rest

/-- Collects the outcomes of all pieces. A definition of nothing but blank pieces has no slots. -/
def ofOutcomes (outcomes : List Outcome) : Definition :=
  let slots := outcomes.filterMap Outcome.slot?
  let faults := faultsFrom 1 outcomes
  ⟨slots, if slots.isEmpty && faults.isEmpty then [.noSlots] else faults⟩

/-- Compiles a definition. Nothing is refused as a whole: the slots that can be read are returned
beside the faults of the rest. -/
def compile (text : Text) : Definition :=
  let body := body text
  if body.isEmpty then ⟨[], [.empty]⟩ else ofOutcomes ((pieces (.char ';') body).map outcome)

end Definition

def SlotFault.message : SlotFault → Text
  | .unknownRarity token =>
    "unknown rarity \"" ++ token ++ "\". Use c, u, r, or m. (Optional set prefix: setcode:r)"
  | .missingProbability token => "missing probability after rarity \"" ++ token ++ "\"."
  | .badProbability token => "invalid probability \"" ++ token ++ "\". Must be 1-100."
  | .wrongTotal total =>
    "probabilities sum to " ++ ofChars (intDigits total) ++ "%, must be 100%."

def DefinitionFault.message : DefinitionFault → Text
  | .empty => "Empty definition"
  | .noSlots => "No valid slots found in definition."
  | .inSlot number fault =>
    "Slot " ++ ofChars (digitsOf number) ++ ": " ++ fault.message

def Definition.errors (d : Definition) : List Text := d.faults.map DefinitionFault.message

def Definition.isValid (d : Definition) : Bool := d.faults.isEmpty

end PackOpening
