import PackOpening.Proofs.Text.Letters

/-!
Lowercasing once is enough.

The small letters of any character are their own small letters, wherever they stand: none of them is
a letter of the table, the dotted I or a capital sigma. So lowercasing leaves a text alone exactly
when it holds only such characters, and every lowercased text does. Nor does lowercasing bring in
any ASCII character before the letters.
-/
namespace PackOpening.Text

open CodePoint

/-- Whether a character stays as it is wherever it stands. -/
def IsSmall (c : CodePoint) : Prop := c ≠ capitalSigma ∧ smallLetters c = [c]

instance : DecidablePred IsSmall := fun _ => inferInstanceAs (Decidable (_ ∧ _))

/-- Whether no counterpart of a letter of one row is a letter of the other: the rows lie apart, or
both skip every second code point and miss each other. -/
def CaseRow.misses (row other : CaseRow) : Bool :=
  let first := Int.toNat (row.1 + row.2.2.2)
  let last := Int.toNat (row.2.1 + row.2.2.2)
  last.blt other.1 || other.2.1.blt first ||
    (other.2.2.1.beq 2 && (row.2.2.1.beq 2 || first.beq last) && ((first + other.1) % 2).beq 1)

/-- A counterpart from the first row is no letter of the second. -/
theorem CaseRow.covers_eq_false {row other : CaseRow} {c d : CodePoint}
    (apart : row.misses other = true) (low : 0 ≤ (row.1 : Int) + row.2.2.2)
    (covered : row.covers c = true) (code : (d.code : Int) = c.code + row.2.2.2) :
    other.covers d = false := by
  obtain ⟨first, last, stride, shift⟩ := row
  obtain ⟨first', last', stride', shift'⟩ := other
  unfold misses at apart
  simp only [Bool.or_eq_true, Bool.and_eq_true, Nat.blt_eq, Nat.beq_eq] at apart
  simp only [covers, Bool.and_eq_true, decide_eq_true_eq, beq_iff_eq] at covered low code
  refine Bool.eq_false_iff.2 fun covered' => ?_
  simp only [covers, Bool.and_eq_true, decide_eq_true_eq, beq_iff_eq] at covered'
  rcases apart with (before | behind) | ⟨⟨rfl, rfl | single⟩, odd⟩ <;> omega

/-- The dotted I and the capital sigma, which have small letters of their own. -/
def ownRows : List CaseRow := [(0x0130, 0x0130, 1, 0), (0x03A3, 0x03A3, 1, 0)]

/-- Every row misses every row. -/
theorem misses_of_mem_caseRows {row other : CaseRow} (inside : row ∈ caseRows)
    (inside' : other ∈ ownRows ++ caseRows) : row.misses other = true := by
  -- rows are compared and not the letters in them, which are too many to try in pairs
  have checked : (caseRows.all fun row => (ownRows ++ caseRows).all row.misses) = true := by
    decide +kernel
  exact List.all_eq_true.1 (List.all_eq_true.1 checked row inside) other inside'

/-- A counterpart has none itself. -/
theorem isSmall_of_counterpart {c d : CodePoint} (found : counterpart? caseRows c = some d) :
    IsSmall d := by
  obtain ⟨row, inside, covered, low, code⟩ := exists_row_of_counterpart found
  have uncovered : ∀ other ∈ ownRows ++ caseRows, other.covers d = false := fun other inside' =>
    CaseRow.covers_eq_false (misses_of_mem_caseRows inside inside') low covered code
  have own : d.code ≠ 0x0130 ∧ d.code ≠ 0x03A3 := by
    have dotted := uncovered (0x0130, 0x0130, 1, 0) (by decide)
    have sigma := uncovered (0x03A3, 0x03A3, 1, 0) (by decide)
    simp only [CaseRow.covers, Bool.and_eq_false_iff, decide_eq_false_iff_not,
      beq_eq_false_iff_ne] at dotted sigma
    omega
  have none : counterpart? caseRows d = none := by
    rw [counterpart?, Option.map_eq_none_iff, List.find?_eq_none]
    intro other inside'
    simp [uncovered other (List.mem_append_right _ inside')]
  refine ⟨fun sigma => own.2 (by rw [sigma]; rfl), ?_⟩
  rcases code_of_counterpart found with kelvin | beyond
  · have letter : d = .char 'k' := code_injective kelvin
    rw [letter]
    rfl
  · rw [smallLetters, if_neg (by omega), if_neg own.1, none, Option.getD_none]

/-- Small letters are small. -/
theorem isSmall_of_mem_smallLettersIn {before after : Text} {c d : CodePoint}
    (member : d ∈ smallLettersIn before c after) : IsSmall d := by
  unfold smallLettersIn at member
  split at member
  · have sigmas : IsSmall finalSigma ∧ IsSmall smallSigma := by decide
    rw [List.mem_singleton.1 member]
    split
    · exact sigmas.1
    · exact sigmas.2
  next other =>
  unfold smallLetters at member
  split at member
  · next ascii =>
    have checked : ∀ n < 0x80, IsSmall ((ofCode n).map Char.toLower) := by decide
    have small := checked c.code ascii
    rw [ofCode_code] at small
    rwa [List.mem_singleton.1 member]
  split at member
  · have both : ∀ e ∈ (['i', .ofCode 0x0307] : Text), IsSmall e := by decide
    exact both d member
  · next beyond dotted =>
    rw [List.mem_singleton] at member
    cases found : counterpart? caseRows c with
    | none =>
      rw [found, Option.getD_none] at member
      subst member
      exact ⟨other, by rw [smallLetters, if_neg beyond, if_neg dotted, found, Option.getD_none]⟩
    | some e =>
      rw [found, Option.getD_some] at member
      subst member
      exact isSmall_of_counterpart found

theorem isSmall_of_mem_lowercase {text : Text} {d : CodePoint} (member : d ∈ lowercase text) :
    IsSmall d := by
  obtain ⟨_, _, _, _, small⟩ := mem_lowercaseFrom member
  exact isSmall_of_mem_smallLettersIn small

theorem lowercaseFrom_eq_self {text : Text} (small : ∀ c ∈ text, IsSmall c) (before : Text) :
    lowercaseFrom before text = text := by
  induction text generalizing before with
  | nil => rfl
  | cons c rest ih =>
    obtain ⟨plain, own⟩ := small c List.mem_cons_self
    have onward := ih (fun d there => small d (List.mem_cons_of_mem _ there)) (c :: before)
    rw [lowercaseFrom, onward, smallLettersIn, if_neg plain, own]
    rfl

/-- A text of small characters is lowercased already, and no other text is. -/
theorem lowercase_eq_self_iff {text : Text} :
    lowercase text = text ↔ ∀ c ∈ text, IsSmall c := by
  constructor
  · intro same c member
    rw [← same] at member
    exact isSmall_of_mem_lowercase member
  · intro small
    exact lowercaseFrom_eq_self small []

/-- A character in front of the small ASCII letters was there before. -/
theorem mem_of_mem_lowercase {text : Text} {d : CodePoint} (low : d.code < 0x61)
    (member : d ∈ lowercase text) : d ∈ text := by
  have checked : ∀ n < 0x80, ((ofCode n).map Char.toLower).code < 0x61 →
      (ofCode n).map Char.toLower = ofCode n := by decide
  obtain ⟨_, c, _, inside, small⟩ := mem_lowercaseFrom member
  rcases mem_smallLettersIn small with ⟨ascii, rfl⟩ | beyond
  · have same := checked c.code ascii
    rw [ofCode_code] at same
    rwa [same low]
  · omega

end PackOpening.Text
