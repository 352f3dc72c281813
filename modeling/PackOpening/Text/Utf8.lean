import PackOpening.Text.CodePoint

/-!
Reading UTF-8. The reader goes from byte to byte; within a character it knows how many bytes are
still to come and which values the next one may have. A fault is found at the first byte that no
text can have there, and covers the bytes of the character that was begun.
-/
namespace PackOpening.Text.Utf8

inductive Reason where
  | badStart
  | badContinuation
  | unexpectedEnd
  deriving DecidableEq, Repr

/-- Why bytes are no text: the first byte at fault, how many bytes are at fault, and how many were
left from there on. -/
structure Fault where
  reason : Reason
  first : UInt8
  size : Nat
  left : Nat
  deriving DecidableEq, Repr

/-- A character begun: the bytes still to come, the values allowed for the next of them, and the
bits read so far; then its first byte, the bytes behind that, and how many of its bytes were read.
-/
structure Begun where
  toCome : Nat
  low : Nat
  high : Nat
  bits : Nat
  first : UInt8
  behind : List UInt8
  seen : Nat
  deriving DecidableEq, Repr

/-- What a byte above ASCII begins: overlong forms, surrogates and values beyond the last code point
are shut out by the first byte or by the range of the second. Surrogates may be let in. -/
def begin? (surrogates : Bool) (first : UInt8) (behind : List UInt8) : Option Begun :=
  let b := first.toNat
  if b < 0xC2 then none
  else if b < 0xE0 then some ⟨1, 0x80, 0xBF, b - 0xC0, first, behind, 1⟩
  else if b = 0xE0 then some ⟨2, 0xA0, 0xBF, 0, first, behind, 1⟩
  else if b = 0xED then some ⟨2, 0x80, if surrogates then 0xBF else 0x9F, 0xD, first, behind, 1⟩
  else if b < 0xF0 then some ⟨2, 0x80, 0xBF, b - 0xE0, first, behind, 1⟩
  else if b = 0xF0 then some ⟨3, 0x90, 0xBF, 0, first, behind, 1⟩
  else if b < 0xF4 then some ⟨3, 0x80, 0xBF, b - 0xF0, first, behind, 1⟩
  else if b = 0xF4 then some ⟨3, 0x80, 0x8F, 4, first, behind, 1⟩
  else none

def Begun.fault (begun : Begun) (reason : Reason) : Fault :=
  ⟨reason, begun.first, begun.seen, begun.behind.length + 1⟩

/-- The numbers of the code points read on, within a character if one was begun. -/
def codesFrom (surrogates : Bool) : (begun : Option Begun) → List UInt8 → Except Fault (List Nat)
  | none, [] => .ok []
  | some begun, [] => .error (begun.fault .unexpectedEnd)
  | none, b :: rest =>
    if b < 0x80 then do
      let codes ← codesFrom surrogates none rest
      .ok (b.toNat :: codes)
    else match begin? surrogates b rest with
      | none => .error ⟨.badStart, b, 1, rest.length + 1⟩
      | some begun => codesFrom surrogates (some begun) rest
  | some begun, b :: rest =>
    if begun.low ≤ b.toNat ∧ b.toNat ≤ begun.high then
      let bits := begun.bits * 64 + (b.toNat - 0x80)
      if begun.toCome ≤ 1 then do
        let codes ← codesFrom surrogates none rest
        .ok (bits :: codes)
      else
        codesFrom surrogates (some { begun with
          toCome := begun.toCome - 1, low := 0x80, high := 0xBF, bits := bits,
          seen := begun.seen + 1 }) rest
    else .error (begun.fault .badContinuation)

/-- The characters that bytes encode. -/
def decode (bytes : List UInt8) : Except Fault (List Char) :=
  (codesFrom false none bytes).map (·.map Char.ofNat)

/-- The text that bytes encode, surrogates let in. -/
def decodeLoosely (bytes : List UInt8) : Except Fault Text :=
  (codesFrom true none bytes).map (·.map CodePoint.ofCode)

def Reason.message : Reason → String
  | .badStart => "invalid start byte"
  | .badContinuation => "invalid continuation byte"
  | .unexpectedEnd => "unexpected end of data"

/-- Two lower-case hexadecimal digits. -/
def byteDigits (b : UInt8) : List Char :=
  [Nat.digitChar (b.toNat / 16), Nat.digitChar (b.toNat % 16)]

/-- The report of a fault among `total` bytes, whose places are counted from zero. -/
def Fault.message (total : Nat) (fault : Fault) : String :=
  let start := total - fault.left
  let place (n : Nat) : String := String.ofList (Nat.toDigits 10 n)
  let stretch :=
    if fault.size = 1 then
      "byte 0x" ++ String.ofList (byteDigits fault.first) ++ " in position " ++ place start
    else "bytes in position " ++ place start ++ "-" ++ place (start + fault.size - 1)
  "'utf-8' codec can't decode " ++ stretch ++ ": " ++ fault.reason.message

example : (decode [0xC3, 0xA9, 0x41]).toOption = some ['é', 'A'] := by decide +kernel

end PackOpening.Text.Utf8
