import PackOpening.Numeric.Decimal
import PackOpening.Text.Blank

/-!
Hosts that are given by an address: four numbers with dots between them, or, in brackets, groups of
hexadecimal digits with colons between them.
-/
namespace PackOpening.Host

open PackOpening.Text

/-- Whether a host looks like an address of four numbers. -/
def looksDotted (host : Text) : Bool :=
  let numbers := pieces (.char '.') host
  numbers.length == 4 && numbers.all fun number =>
    !number.isEmpty && number.all CodePoint.isAsciiDigit

/-- A number up to 255 in decimal digits, without zeros in front. -/
def isOctet (text : Text) : Bool :=
  !text.isEmpty && text.length ≤ 3 && text.all CodePoint.isAsciiDigit &&
    (text.length == 1 || text.head? != some (.char '0')) && Numeric.ofAsciiDigits text ≤ 255

/-- Whether a text is an address of four numbers. -/
def isDotted (text : Text) : Bool :=
  let numbers := pieces (.char '.') text
  numbers.length == 4 && numbers.all isOctet

def isHexDigit (c : CodePoint) : Bool :=
  c.satisfies fun c => c.isDigit || ('a' ≤ c && c ≤ 'f') || ('A' ≤ c && c ≤ 'F')

/-- A group of an address in brackets. -/
def isGroup (text : Text) : Bool := !text.isEmpty && text.length ≤ 4 && text.all isHexDigit

/-- The number of groups in a part of an address; an address of four numbers may take the place of
the last two. -/
def groupCount? (text : Text) (mayEndDotted : Bool) : Option Nat :=
  let groups := pieces (.char ':') text
  let dotted := mayEndDotted && groups.getLast?.any isDotted
  if text.isEmpty then some 0
  else if (if dotted then groups.dropLast else groups).all isGroup then
    some (groups.length + (if dotted then 1 else 0))
  else none

/-- The text before the first pair of colons, and the text after it if there is one. -/
def cutAtPair : Text → Text × Option Text
  | .char ':' :: .char ':' :: rest => ([], some rest)
  | c :: rest => let (before, after) := cutAtPair rest; (c :: before, after)
  | [] => ([], none)

/-- Whether a text is an address of eight groups. A pair of colons stands for at least one group of
zeros. The name of a zone may follow behind a percent sign. -/
def isGrouped (text : Text) : Bool :=
  let (address, zone) := cut (.char '%') text
  let zoneFits := zone.all fun zone => !zone.isEmpty && !zone.contains (.char '%')
  zoneFits &&
    match cutAtPair address with
    | (whole, none) => groupCount? whole true == some 8
    | (front, some back) =>
      match groupCount? front false, groupCount? back true with
      | some before, some behind => before + behind ≤ 7
      | _, _ => false

example : isDotted "1.2.3.255" = true ∧ isDotted "1.2.3.256" = false ∧
    isDotted "1.2.3.04" = false ∧ looksDotted "1.2.3.1000" = true ∧ looksDotted "1.2.3" = false ∧
    looksDotted "1-2-3-4" = false := by decide +kernel

example : isGrouped "::" = true ∧ isGrouped "::ffff:1.2.3.4%eth0" = true ∧
    isGrouped "1:2:3:4:5:6:7::" = true ∧ isGrouped "1:::2" = false ∧ isGrouped "::g" = false ∧
    isGrouped "1.2.3.4" = false ∧ isGrouped "1:2:3:4:5:6:7::8" = false := by decide +kernel

end PackOpening.Host
