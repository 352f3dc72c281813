import PackOpening.Host.Alphabet
import PackOpening.Text.Mark

/-!
Directions of writing in labels. A label that holds anything written from right to left starts with
a letter of one direction, keeps to what goes along with that direction, and ends in a letter or a
number; in one that runs to the left, only one kind of number stands.
-/
namespace PackOpening.Host

open PackOpening.Text

/-- The direction of a code point. Letters start at the left or at the right, the Arabic ones apart
from the others at the right. There are numbers of two kinds, separators of numbers, neutral signs,
signs without any effect, marks, and code points whose direction is not on record. -/
inductive Direction where
  | left | right | arabic | number | arabicNumber | separator | neutral | boundary | mark | unknown
  deriving DecidableEq, Repr

namespace Direction

/-- Runs of the code points of labels that are neither marks nor letters that start at the left. -/
def rows : List (Nat × Nat × Direction) :=
  [(0x002D, 0x002D, .separator), (0x0030, 0x0039, .number), (0x00B7, 0x00B7, .neutral),
    (0x02B9, 0x02BA, .neutral), (0x02C6, 0x02CF, .neutral), (0x02EC, 0x02EC, .neutral),
    (0x0375, 0x0375, .neutral), (0x05D0, 0x05F4, .right), (0x0620, 0x064A, .arabic),
    (0x0660, 0x0669, .arabicNumber), (0x066E, 0x066F, .arabic), (0x0671, 0x06D5, .arabic),
    (0x06E5, 0x06E6, .arabic), (0x06EE, 0x06EF, .arabic), (0x06F0, 0x06F9, .number),
    (0x06FA, 0x0710, .arabic), (0x0712, 0x072F, .arabic), (0x074D, 0x07A5, .arabic),
    (0x07B1, 0x07B1, .arabic), (0x07C0, 0x07EA, .right), (0x07F4, 0x07F5, .right),
    (0x0800, 0x0815, .right), (0x081A, 0x081A, .right), (0x0824, 0x0824, .right),
    (0x0828, 0x0828, .right), (0x0840, 0x0858, .right), (0x0860, 0x088E, .arabic),
    (0x08A0, 0x08C9, .arabic), (0x200C, 0x200D, .boundary), (0x2E2F, 0x2E2F, .neutral),
    (0x30FB, 0x30FB, .neutral), (0xA67F, 0xA67F, .neutral), (0xA717, 0xA71F, .neutral),
    (0xA788, 0xA788, .neutral), (0xFE73, 0xFE73, .arabic), (0x10800, 0x10A00, .right),
    (0x10A10, 0x10A35, .right), (0x10A60, 0x10AE4, .right), (0x10B00, 0x10CF2, .right),
    (0x10D00, 0x10D23, .arabic), (0x10D30, 0x10D39, .arabicNumber), (0x10E80, 0x10EA9, .right),
    (0x10EB0, 0x10F27, .right), (0x10F30, 0x10F45, .arabic), (0x10F70, 0x10F81, .right),
    (0x10FB0, 0x10FF6, .right), (0x1E800, 0x1E8C4, .right), (0x1E922, 0x1E943, .right),
    (0x1E94B, 0x1E959, .right)]

/-- Marks that take no space and yet have the direction of letters. -/
def letterlikeMarks : List CodeRange :=
  [(0x0CBF, 0x0CBF), (0x0CC6, 0x0CC6), (0x11A07, 0x11A08), (0x11C3F, 0x11C3F)]

/-- The direction of a code point that a label may hold. -/
def of (c : CodePoint) : Direction :=
  if isUnrecorded c then unknown
  else match rows.find? fun (first, last, _) => first ≤ c.code && c.code ≤ last with
    | some row => row.2.2
    | none => if isNonspacing c && !coveredBy letterlikeMarks c then mark else left

def startsAtRight : Direction → Bool
  | right | arabic => true
  | _ => false

/-- Whether a code point makes its label one that holds writing from right to left. -/
def makesMixed (d : Direction) : Bool := d.startsAtRight || d == arabicNumber

/-- Whether a code point goes along with letters that start at the right, or else at the left. -/
def goesAlong (atRight : Bool) : Direction → Bool
  | left => !atRight
  | right | arabic | arabicNumber => atRight
  | number | separator | neutral | boundary | mark => true
  | unknown => false

/-- Whether a label may end with a code point, marks behind it aside. -/
def mayEnd (atRight : Bool) : Direction → Bool
  | left => !atRight
  | right | arabic | arabicNumber => atRight
  | number => true
  | separator | neutral | boundary | mark | unknown => false

def isNumber (d : Direction) : Bool := d == number || d == arabicNumber

end Direction
end PackOpening.Host
