import PackOpening.Numeric.Decimal
import PackOpening.Text.Quoted

/-!
The code points that an encoding has bytes for: UTF-8 has them for all but surrogates, ASCII for
those below U+0080. The report of a text that cannot be encoded is about the first stretch of code
points at fault.
-/
namespace PackOpening.Text

inductive Charset where
  | ascii
  | utf8
  deriving DecidableEq, Repr

namespace Charset

def name : Charset → String
  | ascii => "ascii"
  | utf8 => "utf-8"

def holds : Charset → CodePoint → Bool
  | ascii, c => c.code < 0x80
  | utf8, c => !c.isSurrogate

/-- What a code point at fault comes up against. -/
def limit : Charset → String
  | ascii => "ordinal not in range(128)"
  | utf8 => "surrogates not allowed"

/-- Code points at fault, one after another: the place of the first, the first itself, and how many
follow it. -/
structure Fault where
  charset : Charset
  start : Nat
  first : CodePoint
  others : Nat
  deriving DecidableEq, Repr

/-- The first stretch at fault in a text in front of which some code points stand. -/
def faultFrom? (charset : Charset) (before : Nat) : Text → Option Fault
  | [] => none
  | c :: rest =>
    if charset.holds c then charset.faultFrom? (before + 1) rest
    else some ⟨charset, before, c, (rest.takeWhile (!charset.holds ·)).length⟩

/-- What keeps a text from being encoded. -/
def fault? (charset : Charset) (text : Text) : Option Fault := charset.faultFrom? 0 text

def Fault.message (fault : Fault) : Text :=
  let place (n : Nat) : Text := ofChars (Numeric.digitsOf n)
  let stretch :=
    if fault.others = 0 then
      "character '" ++ numbered fault.first ++ "' in position " ++ place fault.start
    else "characters in position " ++ place fault.start ++ "-" ++ place (fault.start + fault.others)
  "'" ++ fault.charset.name ++ "' codec can't encode " ++ stretch ++ ": " ++ fault.charset.limit

/-- Only a text that holds nothing at fault can be encoded. -/
theorem faultFrom?_eq_none_iff (charset : Charset) (before : Nat) (text : Text) :
    charset.faultFrom? before text = none ↔ text.all charset.holds = true := by
  induction text generalizing before with
  | nil => simp [faultFrom?]
  | cons c rest ih =>
    by_cases h : charset.holds c = true
    · simp [faultFrom?, h, ih]
    · simp [faultFrom?, h]

example : (fault? .ascii "aéü").map Fault.message =
    some (("'ascii' codec can't encode characters in position 1-2: " ++
      "ordinal not in range(128)" : String) : Text) := by decide +kernel

end Charset
end PackOpening.Text
