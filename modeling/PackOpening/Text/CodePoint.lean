/-!
Texts: sequences of code points. A code point is a character or a surrogate, one half of a pair that
stands for a character in sixteen-bit units. Texts that come from outside may hold surrogates
without their partners, which no string can, so texts are lists of code points. A string counts as
the text of its characters.

The main statements: a code point is determined by its number, and so is a string by its text.
-/
namespace PackOpening

inductive CodePoint where
  | char (c : Char)
  | surrogate (offset : Fin 0x800)
  deriving DecidableEq, Repr, Inhabited

namespace CodePoint

instance : Coe Char CodePoint := ⟨char⟩

/-- The number of a code point; the surrogates lie between U+D800 and U+DFFF. -/
def code : CodePoint → Nat
  | char c => c.toNat
  | surrogate offset => 0xD800 + offset.val

/-- The code point with a number; a number beyond the last one gives NUL. -/
def ofCode (code : Nat) : CodePoint :=
  if h : 0xD800 ≤ code ∧ code < 0xE000 then surrogate ⟨code - 0xD800, by omega⟩
  else char (Char.ofNat code)

def isSurrogate : CodePoint → Bool
  | char _ => false
  | surrogate _ => true

/-- Applies a function to a character and leaves a surrogate as it is. -/
def map (f : Char → Char) : CodePoint → CodePoint
  | char c => char (f c)
  | surrogate offset => surrogate offset

/-- Whether a character has a property; no surrogate has it. -/
def satisfies (property : Char → Bool) : CodePoint → Bool
  | char c => property c
  | surrogate _ => false

def isAsciiDigit (c : CodePoint) : Bool := c.satisfies Char.isDigit

instance : LT CodePoint := ⟨fun a b => a.code < b.code⟩

instance (a b : CodePoint) : Decidable (a < b) := inferInstanceAs (Decidable (a.code < b.code))

theorem ofCode_code (c : CodePoint) : ofCode c.code = c := by
  cases c with
  | char c =>
    have valid : c.toNat < 0xD800 ∨ 0xDFFF < c.toNat ∧ c.toNat < 0x110000 := c.valid
    have plain : ¬ (0xD800 ≤ c.toNat ∧ c.toNat < 0xE000) := by omega
    simp [code, ofCode, plain]
  | surrogate offset =>
    have bound := offset.isLt
    have inside : 0xD800 ≤ 0xD800 + offset.val ∧ 0xD800 + offset.val < 0xE000 := by omega
    simp [code, ofCode, inside]

theorem code_injective {a b : CodePoint} (h : a.code = b.code) : a = b := by
  rw [← ofCode_code a, ← ofCode_code b, h]

end CodePoint

abbrev Text := List CodePoint

namespace Text

def ofChars (chars : List Char) : Text := chars.map .char

def ofString (s : String) : Text := ofChars s.toList

instance : Coe String Text := ⟨ofString⟩

/-- A text as plain characters: each of the three bytes that a surrogate takes is replaced. -/
def plain (text : Text) : String :=
  String.ofList (text.flatMap fun
    | .char c => [c]
    | .surrogate _ => List.replicate 3 (Char.ofNat 0xFFFD))

theorem ofChars_injective {a b : List Char} (h : ofChars a = ofChars b) : a = b :=
  (List.map_inj_right fun _ _ => CodePoint.char.inj).1 h

end Text
end PackOpening
