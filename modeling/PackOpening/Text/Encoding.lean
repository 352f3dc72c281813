import PackOpening.Text.Utf8

/-!
Texts in any of the encodings that data may arrive in. A byte order mark names the encoding and is
not part of the text; without one the zeros among the first bytes tell it, since data start with
ASCII characters.
-/
namespace PackOpening.Text

inductive Encoding where
  | utf8
  | utf16 (bigEndian : Bool)
  | utf32 (bigEndian : Bool)
  deriving DecidableEq, Repr

/-- The encoding of some bytes, and the bytes behind the byte order mark. -/
def detectEncoding : List UInt8 → Encoding × List UInt8
  | 0x00 :: 0x00 :: 0xFE :: 0xFF :: rest => (.utf32 true, rest)
  | 0xFF :: 0xFE :: 0x00 :: 0x00 :: rest => (.utf32 false, rest)
  | 0xFE :: 0xFF :: rest => (.utf16 true, rest)
  | 0xFF :: 0xFE :: rest => (.utf16 false, rest)
  | 0xEF :: 0xBB :: 0xBF :: rest => (.utf8, rest)
  | a :: b :: c :: d :: rest =>
    (if a = 0 then (if b = 0 then .utf32 true else .utf16 true)
      else if b = 0 then (if c = 0 ∧ d = 0 then .utf32 false else .utf16 false)
      else .utf8,
     a :: b :: c :: d :: rest)
  | [a, b] => (if a = 0 then .utf16 true else if b = 0 then .utf16 false else .utf8, [a, b])
  | bytes => (.utf8, bytes)

/-- Sixteen-bit units; an odd byte at the end is a fault. -/
def units16? (bigEndian : Bool) : List UInt8 → Option (List Nat)
  | [] => some []
  | [_] => none
  | a :: b :: rest =>
    let unit := if bigEndian then a.toNat * 256 + b.toNat else b.toNat * 256 + a.toNat
    (units16? bigEndian rest).map (unit :: ·)

/-- The numbers of the code points that sixteen-bit units spell; a surrogate without its partner
stays. -/
def joinUnits16 : List Nat → List Nat
  | [] => []
  | [unit] => [unit]
  | high :: low :: rest =>
    if 0xD800 ≤ high ∧ high < 0xDC00 ∧ 0xDC00 ≤ low ∧ low < 0xE000 then
      (0x10000 + (high - 0xD800) * 0x400 + (low - 0xDC00)) :: joinUnits16 rest
    else high :: joinUnits16 (low :: rest)

/-- Thirty-two-bit numbers; one beyond the last code point or an incomplete one is a fault. -/
def decode32? (bigEndian : Bool) : List UInt8 → Option (List Nat)
  | [] => some []
  | a :: b :: c :: d :: rest =>
    let read (w x y z : UInt8) : Nat :=
      ((w.toNat * 256 + x.toNat) * 256 + y.toNat) * 256 + z.toNat
    let code := if bigEndian then read a b c d else read d c b a
    if 0x10FFFF < code then none
    else (decode32? bigEndian rest).map (code :: ·)
  | _ => none

/-- The text that bytes hold, in the encoding that they show. -/
def decodeDetected? (bytes : List UInt8) : Option Text :=
  match detectEncoding bytes with
  | (.utf8, rest) => (Utf8.decodeLoosely rest).toOption
  | (.utf16 bigEndian, rest) =>
    (units16? bigEndian rest).map fun units => (joinUnits16 units).map CodePoint.ofCode
  | (.utf32 bigEndian, rest) => (decode32? bigEndian rest).map (·.map CodePoint.ofCode)

end PackOpening.Text
