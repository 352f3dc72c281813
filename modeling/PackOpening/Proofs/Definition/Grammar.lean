import Mathlib
import PackOpening.Definition.Compile
import PackOpening.Proofs.Text.Letters
import PackOpening.Proofs.Text.Parts

/-!
The grammar of slots, stated by the places of the tokens, and the reading of slots against it.

A piece is good when its tokens are rarities and percentages in turn and the percentages make a
hundred. A good piece spells exactly one slot. Reading a piece succeeds exactly on the good ones and
gives the slot that is spelled.
-/
namespace PackOpening.Definition

open PackOpening.Text PackOpening.Numeric

/-- The letter of a rarity token: what stands behind its first colon, or all of it. -/
def letterOf (token : Text) : Text :=
  trim (if .char ':' ∈ token then (token.dropWhile (· ≠ .char ':')).tail else token)

/-- The set code of a rarity token: what stands before its first colon, unless that is blank. -/
def codeOf (token : Text) : Option Text :=
  let code := trim (token.takeWhile (· ≠ .char ':'))
  if .char ':' ∈ token ∧ code ≠ [] then some code else none

/-- A token whose letter is that of a rarity. -/
def IsRarity (token : Text) : Prop := ∃ rarity ∈ Rarity.all, letterOf token = [.char rarity.letter]

/-- One to three ASCII digits with a value from 1 to 100. -/
def IsPercentage (token : Text) : Prop :=
  (1 ≤ token.length ∧ token.length ≤ 3) ∧ (∀ c ∈ token, c.isAsciiDigit = true) ∧
    1 ≤ ofAsciiDigits token ∧ ofAsciiDigits token ≤ 100

/-- What a rarity token and the token behind it say of an entry. -/
def Names (rarity share : Text) (entry : SlotEntry) : Prop :=
  letterOf rarity = [.char entry.rarity.letter] ∧ entry.probability = ofAsciiDigits share ∧
    entry.setCode = codeOf rarity

/-- Tokens that alternate between rarities and percentages, `count` of each. -/
def Alternate (tokens : List Text) (count : Nat) : Prop :=
  tokens.length = 2 * count ∧
  (∀ i < count, IsRarity (tokens.getD (2 * i) [])) ∧
  ∀ i < count, IsPercentage (tokens.getD (2 * i + 1) [])

/-- The sum of the first `count` percentages. -/
def shared (tokens : List Text) (count : Nat) : Nat :=
  ∑ i ∈ Finset.range count, ofAsciiDigits (tokens.getD (2 * i + 1) [])

/-- A piece of a definition that spells a slot. -/
def IsGood (piece : Text) : Prop :=
  ∃ count ≥ 1, Alternate (tokens (trim piece)) count ∧ shared (tokens (trim piece)) count = 100

/-- The slot that a good piece spells has one entry for each two tokens. -/
def Spells (piece : Text) (slot : Slot) : Prop :=
  IsGood piece ∧ (tokens (trim piece)).length = 2 * slot.entries.length ∧
  ∀ i entry, slot.entries[i]? = some entry →
    Names ((tokens (trim piece)).getD (2 * i) []) ((tokens (trim piece)).getD (2 * i + 1) []) entry

instance : DecidablePred IsRarity := fun _ =>
  inferInstanceAs (Decidable (∃ rarity ∈ Rarity.all, _))

instance : DecidablePred IsPercentage := fun _ =>
  inferInstanceAs (Decidable (_ ∧ _ ∧ _ ∧ _))

instance (tokens : List Text) (count : Nat) : Decidable (Alternate tokens count) :=
  inferInstanceAs (Decidable (_ ∧ _ ∧ _))

/-- Only half the number of tokens can count the pairs. -/
theorem isGood_iff (piece : Text) :
    IsGood piece ↔ 1 ≤ (tokens (trim piece)).length / 2 ∧
      Alternate (tokens (trim piece)) ((tokens (trim piece)).length / 2) ∧
      shared (tokens (trim piece)) ((tokens (trim piece)).length / 2) = 100 := by
  constructor
  · rintro ⟨count, positive, alternate, total⟩
    have half : (tokens (trim piece)).length / 2 = count := by
      rw [alternate.1]
      omega
    rw [half]
    exact ⟨positive, alternate, total⟩
  · rintro ⟨positive, alternate, total⟩
    exact ⟨_, positive, alternate, total⟩

instance : DecidablePred IsGood := fun piece => decidable_of_iff _ (isGood_iff piece).symm

theorem splitCode_eq (token : Text) :
    (splitCode token).1 = codeOf token ∧ trim (splitCode token).2 = letterOf token := by
  by_cases colon : .char ':' ∈ token
  · simp [splitCode, cut_eq, codeOf, letterOf, colon, trim_trim]
  · simp [splitCode, cut_eq, codeOf, letterOf, colon]

theorem ofCode?_eq_some_iff (code : Text) (rarity : Rarity) :
    Rarity.ofCode? code = some rarity ↔ lowercase (trim code) = [.char rarity.letter] := by
  constructor
  · intro found
    unfold Rarity.ofCode? at found
    exact eq_of_beq (List.find?_some found :)
  · intro same
    unfold Rarity.ofCode?
    rw [same]
    cases rarity <;> rfl

/-- A token without capitals names the rarity whose letter it holds. -/
theorem ofCode?_splitCode {token : Text} (small : ∀ c ∈ token, c.isCapital = false)
    (rarity : Rarity) :
    Rarity.ofCode? (splitCode token).2 = some rarity ↔
      letterOf token = [.char rarity.letter] := by
  have letters : ∀ c ∈ letterOf token, c.isCapital = false := by
    intro c member
    have part := mem_of_mem_trim member
    split at part
    · exact small c (List.dropWhile_subset _ (List.mem_of_mem_tail part))
    · exact small c part
  have plain : (CodePoint.char rarity.letter).code < 0x80 ∧
      (CodePoint.char rarity.letter).isCapital = false ∧
      (CodePoint.char rarity.letter).code ≠ 0x69 ∧ (CodePoint.char rarity.letter).code ≠ 0x6B := by
    cases rarity <;> decide
  obtain ⟨ascii, own, other⟩ := plain
  rw [ofCode?_eq_some_iff, (splitCode_eq token).2]
  constructor
  · exact eq_singleton_of_lowercase letters ascii other
  · intro same
    rw [same, lowercase_singleton ascii own]

theorem percentage?_eq_some_iff (token : Text) (value : Nat) :
    percentage? token = some value ↔ IsPercentage token ∧ value = ofAsciiDigits token := by
  have shape : (token.isEmpty || 3 < token.length || !token.all CodePoint.isAsciiDigit) = false ↔
      (1 ≤ token.length ∧ token.length ≤ 3) ∧ ∀ c ∈ token, c.isAsciiDigit = true := by
    simp [Nat.one_le_iff_ne_zero]
  unfold percentage? IsPercentage
  rw [← and_assoc, ← shape]
  split
  · next flawed => simp [flawed]
  · next sound =>
    dsimp only
    split
    · next range => simp [sound, range, eq_comm]
    · next range => simp [sound, range]

/-- Tokens read pairwise: a rarity and a percentage give an entry. -/
inductive Reads : List Text → List SlotEntry → Prop where
  | nil : Reads [] []
  | cons {first second : Text} {rest : List Text} {entry : SlotEntry} {others : List SlotEntry} :
      Names first second entry → IsPercentage second → Reads rest others →
        Reads (first :: second :: rest) (entry :: others)

theorem entries_pair_eq_ok_iff {first second : Text} {rest : List Text} {es : List SlotEntry} :
    entries (first :: second :: rest) = .ok es ↔
      ∃ rarity value others, Rarity.ofCode? (splitCode first).2 = some rarity ∧
        percentage? second = some value ∧ entries rest = .ok others ∧
        es = ⟨rarity, value, (splitCode first).1⟩ :: others := by
  cases named : Rarity.ofCode? (splitCode first).2 with
  | none => simp [entries, named]
  | some rarity =>
    cases share : percentage? second with
    | none => simp [entries, named, share]
    | some value =>
      cases read : entries rest with
      | error fault => simp [entries, named, share, read]
      | ok others => simp [entries, named, share, read, eq_comm]

theorem entries_single_ne_ok (first : Text) (es : List SlotEntry) : entries [first] ≠ .ok es := by
  cases named : Rarity.ofCode? (splitCode first).2 with
  | none => simp [entries, named]
  | some rarity => simp [entries, named]

/-- Tokens without capitals are read as they are to be. -/
theorem entries_eq_ok_iff : ∀ {tokens : List Text} {es : List SlotEntry},
    (∀ token ∈ tokens, ∀ c ∈ token, c.isCapital = false) →
      (entries tokens = .ok es ↔ Reads tokens es)
  | [], es, _ => by
    constructor
    · rintro ⟨⟩
      exact .nil
    · rintro ⟨⟩
      rfl
  | [first], es, _ => by
    constructor
    · intro read
      exact absurd read (entries_single_ne_ok first es)
    · rintro ⟨⟩
  | first :: second :: rest, es, small => by
    have named := ofCode?_splitCode (small first List.mem_cons_self)
    have onward : ∀ token ∈ rest, ∀ c ∈ token, c.isCapital = false := fun token member =>
      small token (List.mem_cons_of_mem _ (List.mem_cons_of_mem _ member))
    rw [entries_pair_eq_ok_iff]
    constructor
    · rintro ⟨rarity, value, others, letter, share, read, rfl⟩
      obtain ⟨percentage, rfl⟩ := (percentage?_eq_some_iff second value).1 share
      refine .cons ⟨(named rarity).1 letter, rfl, (splitCode_eq first).1⟩ percentage ?_
      exact (entries_eq_ok_iff onward).1 read
    · intro reads
      cases reads with
      | @cons _ _ _ entry others names percentage reads =>
        obtain ⟨letter, share, code⟩ := names
        refine ⟨entry.rarity, ofAsciiDigits second, others, (named entry.rarity).2 letter,
          (percentage?_eq_some_iff second _).2 ⟨percentage, rfl⟩,
          (entries_eq_ok_iff onward).2 reads, ?_⟩
        rw [(splitCode_eq first).1, ← share, ← code]

/-- What is read stands at the even and the odd places. -/
theorem reads_iff {tokens : List Text} {es : List SlotEntry} :
    Reads tokens es ↔ tokens.length = 2 * es.length ∧ ∀ i entry, es[i]? = some entry →
      Names (tokens.getD (2 * i) []) (tokens.getD (2 * i + 1) []) entry ∧
        IsPercentage (tokens.getD (2 * i + 1) []) := by
  constructor
  · intro reads
    induction reads with
    | nil => simp
    | cons names percentage _ ih =>
      refine ⟨by simp only [List.length_cons, ih.1]; omega, fun i entry there => ?_⟩
      cases i with
      | zero =>
        cases there
        exact ⟨names, percentage⟩
      | succ i => exact ih.2 i entry there
  · rintro ⟨paired, placed⟩
    -- an entry takes two tokens off the front, so the places of the others move by two
    induction es generalizing tokens with
    | nil =>
      rw [List.length_eq_zero_iff.1 paired]
      exact .nil
    | cons entry others ih =>
      match tokens, paired, placed with
      | first :: second :: rest, paired, placed =>
        obtain ⟨names, percentage⟩ := placed 0 entry rfl
        refine .cons names percentage (ih ?_ fun i e there => placed (i + 1) e there)
        simp only [List.length_cons] at paired
        omega

theorem shared_cons (first second : Text) (rest : List Text) (count : Nat) :
    shared (first :: second :: rest) (count + 1) = ofAsciiDigits second + shared rest count := by
  rw [shared, Finset.sum_range_succ', add_comm]
  rfl

theorem total_cons (entry : SlotEntry) (others : List SlotEntry) :
    Slot.total ⟨entry :: others⟩ = entry.probability + Slot.total ⟨others⟩ :=
  rfl

theorem Reads.total {tokens : List Text} {es : List SlotEntry} (reads : Reads tokens es) :
    Slot.total ⟨es⟩ = shared tokens es.length := by
  induction reads with
  | nil => rfl
  | cons names _ _ ih =>
    rw [total_cons, ih, names.2.1, List.length_cons, shared_cons, Nat.cast_add]

/-- Tokens that alternate can be read. -/
theorem Alternate.reads {tokens : List Text} {count : Nat} (alternate : Alternate tokens count) :
    ∃ es, Reads tokens es ∧ es.length = count := by
  induction count generalizing tokens with
  | zero =>
    rw [List.length_eq_zero_iff.1 alternate.1]
    exact ⟨[], .nil, rfl⟩
  | succ count ih =>
    match tokens, alternate with
    | first :: second :: rest, ⟨paired, rarities, percentages⟩ =>
      obtain ⟨rarity, _, letter⟩ := rarities 0 (by omega)
      have onward : Alternate rest count := by
        refine ⟨?_, fun i low => rarities (i + 1) (by omega),
          fun i low => percentages (i + 1) (by omega)⟩
        simp only [List.length_cons] at paired
        omega
      obtain ⟨others, reads, length⟩ := ih onward
      refine ⟨⟨rarity, ofAsciiDigits second, codeOf first⟩ :: others,
        .cons ⟨letter, rfl, rfl⟩ (percentages 0 (by omega)) reads, ?_⟩
      rw [List.length_cons, length]

/-- A piece spells what its tokens read as, if the percentages make a hundred. -/
theorem spells_iff {piece : Text} {slot : Slot} :
    Spells piece slot ↔ Reads (tokens (trim piece)) slot.entries ∧ slot.total = 100 := by
  constructor
  · rintro ⟨⟨count, _, alternate, total⟩, paired, names⟩
    have same : count = slot.entries.length := by
      have := alternate.1
      omega
    subst same
    have reads : Reads (tokens (trim piece)) slot.entries := by
      refine reads_iff.2 ⟨paired, fun i entry there => ⟨names i entry there, ?_⟩⟩
      exact alternate.2.2 i (List.getElem?_eq_some_iff.1 there).1
    exact ⟨reads, by rw [reads.total, total]; rfl⟩
  · rintro ⟨reads, total⟩
    obtain ⟨paired, placed⟩ := reads_iff.1 reads
    have inside {i : Nat} (low : i < slot.entries.length) :=
      placed i slot.entries[i] (List.getElem?_eq_getElem low)
    refine ⟨⟨slot.entries.length, ?_, ⟨paired, ?_, ?_⟩, ?_⟩, paired, ?_⟩
    · cases none : slot.entries with
      | nil => simp [Slot.total, none] at total
      | cons entry others => simp
    · intro i low
      exact ⟨slot.entries[i].rarity, by cases slot.entries[i].rarity <;> decide,
        (inside low).1.1⟩
    · exact fun i low => (inside low).2
    · exact_mod_cast reads.total.symm.trans total
    · exact fun i entry there => (placed i entry there).1

/-- A slot whose entries share a hundred, each of them with at least one of it. -/
structure SharesHundred (slot : Slot) : Prop where
  entries_ne_nil : slot.entries ≠ []
  bounds : ∀ entry ∈ slot.entries, 1 ≤ entry.probability ∧ entry.probability ≤ 100
  total : slot.total = 100

theorem Spells.sharesHundred {piece : Text} {slot : Slot} (spelled : Spells piece slot) :
    SharesHundred slot := by
  obtain ⟨reads, total⟩ := spells_iff.1 spelled
  refine ⟨?_, fun entry member => ?_, total⟩
  · intro none
    simp [Slot.total, none] at total
  · obtain ⟨i, there⟩ := List.mem_iff_getElem?.1 member
    obtain ⟨⟨_, share, _⟩, _, _, low, high⟩ := (reads_iff.1 reads).2 i entry there
    omega

/-- Only good pieces spell a slot, and each of them spells one. -/
theorem isGood_iff_spells (piece : Text) : IsGood piece ↔ ∃ slot, Spells piece slot := by
  constructor
  · rintro ⟨count, _, alternate, total⟩
    obtain ⟨es, reads, rfl⟩ := alternate.reads
    exact ⟨⟨es⟩, spells_iff.2 ⟨reads, by rw [reads.total, total]; rfl⟩⟩
  · rintro ⟨slot, good, _⟩
    exact good

/-- The tokens of a piece hold no capitals. -/
theorem tokens_small (piece : Text) :
    ∀ token ∈ tokens piece, ∀ c ∈ token, c.isCapital = false := by
  intro token member c inside
  obtain ⟨_, _, rfl⟩ := List.mem_map.1 member
  exact isCapital_of_mem_lowercase inside

theorem readSlot_eq_ok_iff {piece : Text} {slot : Slot} :
    readSlot piece = .ok slot ↔ entries (tokens piece) = .ok slot.entries ∧ slot.total = 100 := by
  obtain ⟨expected⟩ := slot
  cases read : entries (tokens piece) with
  | error fault => simp [readSlot, read]
  | ok es =>
    simp only [readSlot, read]
    constructor
    · intro made
      split at made
      · next total =>
        cases made
        exact ⟨rfl, total⟩
      · cases made
    · rintro ⟨⟨⟩, total⟩
      rw [if_pos total]

theorem readSlot_iff_spells {piece : Text} {slot : Slot} :
    readSlot (trim piece) = .ok slot ↔ Spells piece slot := by
  rw [readSlot_eq_ok_iff, spells_iff, entries_eq_ok_iff (tokens_small _)]

theorem spells_unique {piece : Text} {slot slot' : Slot} (spelled : Spells piece slot)
    (spelled' : Spells piece slot') : slot = slot' := by
  have read := readSlot_iff_spells.2 spelled
  rw [readSlot_iff_spells.2 spelled'] at read
  cases read
  rfl

end PackOpening.Definition
