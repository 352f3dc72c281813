import PackOpening.Chance.Basic
import PackOpening.Numeric.Power

/-!
A seeded source: the Mersenne Twister with 624 words of state.

The seed may be any integer; its sign is dropped and its 32-bit words, least significant first, are
the key of the state. A roll joins 53 bits of two outputs to a number below one. A pick takes the
highest bits of an output that are enough for the number of choices, and asks again while they name
no choice.
-/
namespace PackOpening

structure Twister where
  words : Vector UInt32 624
  /-- How many words of the present state have been given out. -/
  position : Nat

namespace Twister

/-- The word at a place, counted around the state. -/
def word (words : Vector UInt32 624) (i : Nat) : UInt32 :=
  words.get ⟨i % 624, Nat.mod_lt _ (by decide)⟩

def setWord (words : Vector UInt32 624) (i : Nat) (value : UInt32) : Vector UInt32 624 :=
  words.set (i % 624) value (Nat.mod_lt _ (by decide))

/-- Mixes a word's highest bits into its lowest. -/
def fold30 (w : UInt32) : UInt32 := w ^^^ (w >>> 30)

/-- The state that a single word spreads to. -/
def spread (seed : UInt32) : Vector UInt32 624 :=
  (List.range 623).foldl
    (fun words k => setWord words (k + 1) (1812433253 * fold30 (word words k) + (k + 1).toUInt32))
    (Vector.replicate 624 seed)

/-- Steps to the next place from 1 to 623; the last word is copied to place 0 on the way round. -/
def advance (words : Vector UInt32 624) (i : Nat) : Vector UInt32 624 × Nat :=
  if 624 ≤ i + 1 then (setWord words 0 (word words 623), 1) else (words, i + 1)

/-- The state for a key that is not empty. -/
def keyed (key : Array UInt32) : Vector UInt32 624 :=
  let step (state : Vector UInt32 624 × Nat) (k : Nat) :=
    let (words, i) := state
    let j := k % key.size
    advance (setWord words i
      ((word words i ^^^ (fold30 (word words (i - 1)) * 1664525)) + key.getD j 0 + j.toUInt32)) i
  let mixed := (List.range (max 624 key.size)).foldl step (spread 19650218, 1)
  let settle (state : Vector UInt32 624 × Nat) (_ : Nat) :=
    let (words, i) := state
    advance (setWord words i
      ((word words i ^^^ (fold30 (word words (i - 1)) * 1566083941)) - i.toUInt32)) i
  setWord ((List.range 623).foldl settle mixed).1 0 0x80000000

/-- The 32-bit words of a number, least significant first; zero has one. -/
def keyOf (n : Nat) : Array UInt32 :=
  ((List.range (n.log2 / 32 + 1)).map (fun i => (n >>> (32 * i)).toUInt32)).toArray

/-- The source for a seed. -/
def seeded (seed : Int) : Twister := ⟨keyed (keyOf seed.natAbs), 624⟩

/-- The state after all its words have been given out. -/
def twist (words : Vector UInt32 624) : Vector UInt32 624 :=
  (List.range 624).foldl
    (fun words k =>
      let y := (word words k &&& 0x80000000) ||| (word words (k + 1) &&& 0x7FFFFFFF)
      let odd : UInt32 := if y &&& 1 = 1 then 0x9908B0DF else 0
      setWord words k (word words (k + 397) ^^^ (y >>> 1) ^^^ odd))
    words

/-- Spreads a word of state over the bits of an output. -/
def temper (y : UInt32) : UInt32 :=
  let y := y ^^^ (y >>> 11)
  let y := y ^^^ ((y <<< 7) &&& 0x9D2C5680)
  let y := y ^^^ ((y <<< 15) &&& 0xEFC60000)
  y ^^^ (y >>> 18)

def next (source : Twister) : UInt32 × Twister :=
  let source := if 624 ≤ source.position then ⟨twist source.words, 0⟩ else source
  (temper (word source.words source.position), { source with position := source.position + 1 })

def nextRoll (source : Twister) : Float × Twister :=
  let (high, source) := source.next
  let (low, source) := source.next
  let bits := (high >>> 5).toNat * Numeric.twoTo 26 + (low >>> 6).toNat
  (bits.toUInt64.toFloat / 9007199254740992.0, source)

/-- Asks until the highest bits of an output name one of `last + 1` choices. Each try succeeds with
a chance of at least one half, so the first choice at the end of the tries is out of reach. -/
def pickWithin (last : Nat) : (tries : Nat) → Twister → Fin (last + 1) × Twister
  | 0, source => (Fin.ofNat (last + 1) 0, source)
  | tries + 1, source =>
    let (output, source) := source.next
    let i := output.toNat >>> (31 - (last + 1).log2)
    if h : i < last + 1 then (⟨i, h⟩, source) else pickWithin last tries source

instance : Source Twister where
  roll := nextRoll
  pick last := pickWithin last 10000

end Twister
end PackOpening
