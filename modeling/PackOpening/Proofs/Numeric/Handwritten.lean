import Mathlib
import PackOpening.Numeric.Written
import PackOpening.Proofs.Text.Ends

/-!
Which texts write an integer, and which integer.

Digits of any script write a number, single underscores between them included; a sign may stand
before them and margins around the whole. Everything but the digits takes room without making the
number greater, so a text that is not digits alone writes a number with fewer digits than it has
characters.
-/
namespace PackOpening.Numeric

open PackOpening.Text

/-- Digits with their values, of which any two may have one underscore between them. -/
inductive Grouped : Text → List Nat → Prop where
  | last {c : CodePoint} {d : Nat} (digit : digitValue? c = some d) : Grouped [c] [d]
  | next {c : CodePoint} {d : Nat} {rest : Text} {digits : List Nat} (digit : digitValue? c = some d)
    (behind : Grouped rest digits) : Grouped (c :: rest) (d :: digits)
  | underscore {c : CodePoint} {d : Nat} {rest : Text} {digits : List Nat}
    (digit : digitValue? c = some d) (behind : Grouped rest digits) :
    Grouped (c :: .char '_' :: rest) (d :: digits)

/-- Digits with the number that they and the sign before them stand for. -/
inductive Signed : Text → Int → Prop where
  | bare {run : Text} {digits : List Nat} (grouped : Grouped run digits) :
    Signed run (ofDigitValues digits)
  | plus {run : Text} {digits : List Nat} (grouped : Grouped run digits) :
    Signed (.char '+' :: run) (ofDigitValues digits)
  | minus {run : Text} {digits : List Nat} (grouped : Grouped run digits) :
    Signed (.char '-' :: run) (-(ofDigitValues digits : Int))

def AreMargins (text : Text) : Prop := ∀ c ∈ text, isMargin c = true

/-- A text that writes an integer, whatever margins stand around it. -/
def Writes (text : Text) (n : Int) : Prop :=
  ∃ before core behind, AreMargins before ∧ AreMargins behind ∧ Signed core n ∧
    text = before ++ core ++ behind

/-- Digits alone, with their values. -/
def AreDigits (text : Text) (digits : List Nat) : Prop :=
  List.Forall₂ (fun c d => digitValue? c = some d) text digits

section Digits

variable {c : CodePoint} {d : Nat} {text : Text} {digits : List Nat}

theorem exists_zero_of_digitValue? (digit : digitValue? c = some d) :
    ∃ first ∈ digitZeros, c.code = first + d ∧ d ≤ 9 := by
  obtain ⟨first, found, rfl⟩ := Option.map_eq_some_iff.1 digit
  have inside := List.find?_some found
  simp only [Bool.and_eq_true, decide_eq_true_eq] at inside
  exact ⟨first, List.mem_of_find?_eq_some found, by omega, by omega⟩

/-- No digit is a margin. -/
theorem isMargin_of_digitValue? (digit : digitValue? c = some d) : isMargin c = false := by
  obtain ⟨first, listed, place, small⟩ := exists_zero_of_digitValue? digit
  have apart : ∀ first ∈ digitZeros, (0x20 < first ∧ first + 9 < 0x85) ∨
      (0xA0 < first ∧ first + 9 < 0x1680) ∨ (0x1680 < first ∧ first + 9 < 0x2000) ∨
      0x3000 < first := by decide
  have := apart first listed
  simp only [isMargin, isBlank, Bool.and_eq_false_iff, Bool.or_eq_false_iff,
    decide_eq_false_iff_not, beq_eq_false_iff_ne]
  left
  omega

theorem digitValue?_of_isAsciiDigit (digit : c.isAsciiDigit = true) :
    digitValue? c = some (c.code - 0x30) ∧ 0x30 ≤ c.code ∧ c.code ≤ 0x39 := by
  cases c with
  | surrogate offset => cases digit
  | char c =>
    simp only [CodePoint.isAsciiDigit, CodePoint.satisfies, Char.isDigit, Bool.and_eq_true,
      decide_eq_true_eq, ge_iff_le, UInt32.le_iff_toNat_le] at digit
    have low : 0x30 ≤ (CodePoint.char c).code := digit.1
    have high : (CodePoint.char c).code ≤ 0x39 := digit.2
    have first : digitZeros = 0x30 :: digitZeros.tail := rfl
    refine ⟨?_, low, high⟩
    rw [digitValue?, first, List.find?_cons_of_pos (by simp [low, high])]
    rfl

end Digits

section Grouped

variable {text : Text} {digits : List Nat}

theorem Grouped.head? (grouped : Grouped text digits) :
    ∃ c d, text.head? = some c ∧ digitValue? c = some d := by
  cases grouped with
  | last digit => exact ⟨_, _, rfl, digit⟩
  | next digit _ => exact ⟨_, _, rfl, digit⟩
  | underscore digit _ => exact ⟨_, _, rfl, digit⟩

theorem Grouped.getLast? (grouped : Grouped text digits) :
    ∃ c d, text.getLast? = some c ∧ digitValue? c = some d := by
  induction grouped with
  | last digit => exact ⟨_, _, rfl, digit⟩
  | next _ behind ih =>
    obtain ⟨c, d, last, digit⟩ := ih
    exact ⟨c, d, by rw [List.getLast?_cons, last]; rfl, digit⟩
  | underscore _ behind ih =>
    obtain ⟨c, d, last, digit⟩ := ih
    exact ⟨c, d, by rw [List.getLast?_cons, List.getLast?_cons, last]; rfl, digit⟩

theorem groupedDigits?_of_grouped (grouped : Grouped text digits) (afterDigit : Bool) :
    groupedDigits? afterDigit text = some digits := by
  induction grouped generalizing afterDigit with
  | last digit => simp [groupedDigits?, digit]
  | next digit _ ih => simp [groupedDigits?, digit, ih]
  | underscore digit _ ih =>
    have mark : digitValue? '_' = none := by decide
    simp [groupedDigits?, digit, mark, ih]

/-- What is read behind a digit: nothing more, further digits, or an underscore and digits. -/
theorem grouped_of_groupedDigits? : ∀ {text : Text} {digits : List Nat},
    (groupedDigits? false text = some digits → Grouped text digits) ∧
    (groupedDigits? true text = some digits → text = [] ∧ digits = [] ∨ Grouped text digits ∨
      ∃ rest, text = .char '_' :: rest ∧ Grouped rest digits)
  | [], digits => by
    refine ⟨fun read => ?_, fun read => .inl ⟨rfl, ?_⟩⟩
    · cases read
    · cases read
      rfl
  | c :: rest, digits => by
    have digit {d : Nat} (value : digitValue? c = some d) (afterDigit : Bool)
        (read : groupedDigits? afterDigit (c :: rest) = some digits) :
        Grouped (c :: rest) digits := by
      simp only [groupedDigits?, value, Option.map_eq_some_iff] at read
      obtain ⟨others, read, rfl⟩ := read
      rcases grouped_of_groupedDigits?.2 read with ⟨rfl, rfl⟩ | behind | ⟨rest, rfl, behind⟩
      · exact .last value
      · exact .next value behind
      · exact .underscore value behind
    cases value : digitValue? c with
    | some d => exact ⟨digit value false, fun read => .inr (.inl (digit value true read))⟩
    | none =>
      refine ⟨fun read => ?_, fun read => ?_⟩
      · simp [groupedDigits?, value] at read
      · simp only [groupedDigits?, value, and_true] at read
        split at read
        · next mark => exact .inr (.inr ⟨rest, by rw [mark], grouped_of_groupedDigits?.1 read⟩)
        · cases read

end Grouped

section Signed

variable {core text : Text} {n : Int}

/-- What is left of a written integer when its margins are gone shows a digit at its end, and a sign
or a digit at its front. -/
theorem Signed.trimWhile_eq (signed : Signed core n) : trimWhile isMargin core = core := by
  have sign : isMargin '+' = false ∧ isMargin '-' = false := by decide
  have behind {run : Text} {digits : List Nat} (grouped : Grouped run digits) (front : Text)
      (c : CodePoint) (last : (front ++ run).getLast? = some c) : isMargin c = false := by
    obtain ⟨d, value, found, digit⟩ := grouped.getLast?
    rw [List.getLast?_append, found] at last
    obtain rfl := Option.some.inj last
    exact isMargin_of_digitValue? digit
  cases signed with
  | bare grouped =>
    refine trimWhile_eq_self (fun c first => ?_) (behind grouped [])
    obtain ⟨d, value, found, digit⟩ := grouped.head?
    obtain rfl := Option.some.inj (found.symm.trans first)
    exact isMargin_of_digitValue? digit
  | plus grouped =>
    refine trimWhile_eq_self (fun c first => ?_) (behind grouped ['+'])
    obtain rfl := Option.some.inj first
    exact sign.1
  | minus grouped =>
    refine trimWhile_eq_self (fun c first => ?_) (behind grouped ['-'])
    obtain rfl := Option.some.inj first
    exact sign.2

theorem splitSign_of_grouped {run : Text} {digits : List Nat} (grouped : Grouped run digits) :
    splitSign run = (false, run) := by
  obtain ⟨c, d, first, digit⟩ := grouped.head?
  have sign : digitValue? '-' = none ∧ digitValue? '+' = none := by decide
  unfold splitSign
  split
  · obtain rfl := Option.some.inj first
    rw [sign.1] at digit
    cases digit
  · obtain rfl := Option.some.inj first
    rw [sign.2] at digit
    cases digit
  · rfl

/-- The number that digits behind a sign stand for. -/
def readSigned? (core : Text) : Option Int :=
  (groupedDigits? false (splitSign core).2).map fun digits =>
    if (splitSign core).1 then -(ofDigitValues digits : Int) else ofDigitValues digits

theorem readSigned?_eq_some_iff : readSigned? core = some n ↔ Signed core n := by
  constructor
  · intro read
    obtain ⟨digits, run, rfl⟩ := Option.map_eq_some_iff.1 read
    have grouped := grouped_of_groupedDigits?.1 run
    unfold splitSign at grouped ⊢
    split at grouped
    · exact .minus grouped
    · exact .plus grouped
    · exact .bare grouped
  · intro signed
    cases signed with
    | bare grouped =>
      rw [readSigned?, splitSign_of_grouped grouped, groupedDigits?_of_grouped grouped]
      rfl
    | plus grouped =>
      rw [readSigned?, splitSign, groupedDigits?_of_grouped grouped]
      rfl
    | minus grouped =>
      rw [readSigned?, splitSign, groupedDigits?_of_grouped grouped]
      rfl

/-- An integer is read from exactly the texts that write it. -/
theorem readInt?_eq_some_iff : readInt? text = some n ↔ Writes text n := by
  have core : readInt? text = readSigned? (trimWhile isMargin text) := rfl
  rw [core, readSigned?_eq_some_iff]
  constructor
  · intro signed
    obtain ⟨before, behind, margins, margins', whole⟩ := exists_trimWhile isMargin text
    exact ⟨before, _, behind, margins, margins', signed, whole⟩
  · rintro ⟨before, core, behind, margins, margins', signed, rfl⟩
    rw [trimWhile_append_behind margins', trimWhile_append_front margins, signed.trimWhile_eq]
    exact signed

end Signed

section Size

variable {text : Text} {digits : List Nat} {n : Int}

theorem ofDigitValues_eq (digits : List Nat) :
    ofDigitValues digits = Nat.ofDigits 10 digits.reverse := by
  rw [Nat.ofDigits_eq_foldr, List.foldr_reverse, ofDigitValues]
  simp only [Nat.cast_id, Nat.add_comm]

/-- A digit is less than ten, so digits stand for less than the power of ten of their count. -/
theorem Grouped.value_lt (grouped : Grouped text digits) :
    ofDigitValues digits < 10 ^ digits.length := by
  have small : ∀ d ∈ digits, d < 10 := by
    have one {c : CodePoint} {d : Nat} (digit : digitValue? c = some d) : d < 10 := by
      obtain ⟨first, _, _, small⟩ := exists_zero_of_digitValue? digit
      omega
    induction grouped with
    | last digit => exact List.forall_mem_singleton.2 (one digit)
    | next digit _ ih => exact List.forall_mem_cons.2 ⟨one digit, ih⟩
    | underscore digit _ ih => exact List.forall_mem_cons.2 ⟨one digit, ih⟩
  have bound := Nat.ofDigits_lt_base_pow_length (b := 10) (l := digits.reverse) (by decide)
    fun d there => small d (List.mem_reverse.1 there)
  rwa [← ofDigitValues_eq, List.length_reverse] at bound

/-- Only digits alone are as many as the characters of the text. -/
theorem Grouped.areDigits_or_length_lt (grouped : Grouped text digits) :
    AreDigits text digits ∨ digits.length < text.length := by
  induction grouped with
  | last digit => exact .inl (.cons digit .nil)
  | next digit _ ih =>
    rcases ih with alone | short
    · exact .inl (.cons digit alone)
    · exact .inr (Nat.succ_lt_succ short)
  | underscore digit _ ih =>
    refine .inr ?_
    simp only [List.length_cons]
    rcases ih with alone | short
    · have same := alone.length_eq
      omega
    · omega

theorem AreDigits.grouped (alone : AreDigits text digits) (nonempty : text ≠ []) :
    Grouped text digits := by
  induction alone with
  | nil => exact absurd rfl nonempty
  | @cons c d rest others digit behind ih =>
    cases behind with
    | nil => exact .last digit
    | cons digit' behind => exact .next digit (ih (List.cons_ne_nil _ _))

/-- Digits alone write the number that they stand for. -/
theorem AreDigits.writes (alone : AreDigits text digits) (nonempty : text ≠ []) :
    Writes text (ofDigitValues digits) :=
  ⟨[], text, [], fun _ there => absurd there List.not_mem_nil,
    fun _ there => absurd there List.not_mem_nil, .bare (alone.grouped nonempty), by simp⟩

theorem AreDigits.value_lt (alone : AreDigits text digits) :
    ofDigitValues digits < 10 ^ text.length := by
  cases text with
  | nil =>
    cases alone
    decide
  | cons c rest =>
    rw [alone.length_eq]
    exact (alone.grouped (List.cons_ne_nil _ _)).value_lt

/-- A number of fewer digits than there is room for. -/
theorem ten_mul_lt {value count room : Nat} (fits : value < 10 ^ count) (short : count < room) :
    10 * value < 10 ^ room := by
  calc 10 * value < 10 * 10 ^ count := Nat.mul_lt_mul_of_pos_left fits (by decide)
    _ = 10 ^ (count + 1) := (Nat.pow_succ').symm
    _ ≤ 10 ^ room := Nat.pow_le_pow_right (by decide) short

/-- A sign and an underscore take the room of a digit. -/
theorem Signed.areDigits_or_small (signed : Signed text n) :
    (∃ digits, AreDigits text digits ∧ n = ofDigitValues digits) ∨
      10 * n.natAbs < 10 ^ text.length := by
  have fits {run : Text} {digits : List Nat} (grouped : Grouped run digits) :
      digits.length ≤ run.length := by
    rcases grouped.areDigits_or_length_lt with alone | short
    · exact Nat.le_of_eq alone.length_eq.symm
    · exact Nat.le_of_lt short
  cases signed with
  | bare grouped =>
    rcases grouped.areDigits_or_length_lt with alone | short
    · exact .inl ⟨_, alone, rfl⟩
    · exact .inr (ten_mul_lt grouped.value_lt short)
  | plus grouped => exact .inr (ten_mul_lt grouped.value_lt (Nat.lt_succ_of_le (fits grouped)))
  | minus grouped =>
    rw [Int.natAbs_neg]
    exact .inr (ten_mul_lt grouped.value_lt (Nat.lt_succ_of_le (fits grouped)))

/-- Digits alone write their number, and any other text writes a number with fewer digits than it
has characters. -/
theorem Writes.areDigits_or_small (writes : Writes text n) :
    (∃ digits, AreDigits text digits ∧ n = ofDigitValues digits) ∨
      10 * n.natAbs < 10 ^ text.length := by
  obtain ⟨before, core, behind, _, _, signed, rfl⟩ := writes
  have length : (before ++ core ++ behind).length =
      before.length + core.length + behind.length := by
    rw [List.length_append, List.length_append]
  rcases signed.areDigits_or_small with ⟨digits, alone, rfl⟩ | small
  · by_cases bare : before = [] ∧ behind = []
    · obtain ⟨rfl, rfl⟩ := bare
      exact .inl ⟨digits, by simpa using alone, rfl⟩
    · refine .inr (ten_mul_lt alone.value_lt ?_)
      rw [not_and_or, ← ne_eq, ← ne_eq, ← List.length_pos_iff, ← List.length_pos_iff] at bare
      omega
  · exact .inr (Nat.lt_of_lt_of_le small (Nat.pow_le_pow_right (by decide) (by omega)))

end Size

end PackOpening.Numeric
