import PackOpening.Text.Lowercase

/-!
Small letters and ASCII.

A lowercased text holds no ASCII capital. Of the characters beyond ASCII only the dotted I and the
Kelvin sign have ASCII among their small letters, so an ASCII letter other than i and k is the small
letter of its own two forms alone.
-/
namespace PackOpening

namespace CodePoint

/-- Whether a code point is one of the letters A to Z. -/
def isCapital (c : CodePoint) : Bool := 0x41 ≤ c.code && c.code ≤ 0x5A

theorem code_ofCode {n : Nat} (bound : n < 0x110000) : (ofCode n).code = n := by
  unfold ofCode
  split
  · next inside => simp only [code]; omega
  · next outside =>
    have valid : n.isValidChar := by
      unfold Nat.isValidChar
      omega
    rw [code, Char.ofNat, dif_pos valid]
    rfl

/-- The small letter of an ASCII character is no capital, and what is no capital is its own. -/
theorem toLower_of_ascii {c : CodePoint} (ascii : c.code < 0x80) :
    (c.map Char.toLower).isCapital = false ∧
      (c.isCapital = false → c.map Char.toLower = c) := by
  have checked : ∀ n < 0x80, ((ofCode n).map Char.toLower).isCapital = false ∧
      ((ofCode n).isCapital = false → (ofCode n).map Char.toLower = ofCode n) := by
    decide +kernel
  have found := checked c.code ascii
  rwa [ofCode_code] at found

end CodePoint

namespace Text

open CodePoint

/-- A counterpart stands as far on as its row says. -/
theorem exists_row_of_counterpart {c d : CodePoint} (found : counterpart? caseRows c = some d) :
    ∃ row ∈ caseRows, row.covers c = true ∧ 0 ≤ (row.1 : Int) + row.2.2.2 ∧
      (d.code : Int) = c.code + row.2.2.2 := by
  have bounds : ∀ row ∈ caseRows, 0 ≤ (row.1 : Int) + row.2.2.2 ∧
      (row.2.1 : Int) + row.2.2.2 < 0x110000 := by
    decide +kernel
  obtain ⟨row, look, rfl⟩ := Option.map_eq_some_iff.1 found
  have covered := List.find?_some look
  obtain ⟨low, high⟩ := bounds row (List.mem_of_find?_eq_some look)
  refine ⟨row, List.mem_of_find?_eq_some look, covered, low, ?_⟩
  simp only [CaseRow.covers, Bool.and_eq_true, decide_eq_true_eq] at covered
  rw [code_ofCode (by omega)]
  omega

/-- Beyond ASCII, only the Kelvin sign has a small letter in ASCII. -/
theorem code_of_counterpart {c d : CodePoint} (found : counterpart? caseRows c = some d) :
    d.code = 0x6B ∨ 0x80 ≤ d.code := by
  have bounds : ∀ row ∈ caseRows, row.1 = row.2.1 ∧ (row.1 : Int) + row.2.2.2 = 0x6B ∨
      0x80 ≤ (row.1 : Int) + row.2.2.2 := by
    decide +kernel
  obtain ⟨row, inside, covered, _, code⟩ := exists_row_of_counterpart found
  have := bounds row inside
  simp only [CaseRow.covers, Bool.and_eq_true, decide_eq_true_eq] at covered
  omega

/-- Where a small letter comes from: an ASCII character, the dotted I or the Kelvin sign, or it lies
beyond ASCII itself. -/
theorem mem_smallLettersIn {before after : Text} {c d : CodePoint}
    (member : d ∈ smallLettersIn before c after) :
    (c.code < 0x80 ∧ d = c.map Char.toLower) ∨ d.code = 0x69 ∨ d.code = 0x6B ∨
      0x80 ≤ d.code := by
  unfold smallLettersIn at member
  split at member
  · have sigmas : 0x80 ≤ finalSigma.code ∧ 0x80 ≤ smallSigma.code := by decide
    rw [List.mem_singleton.1 member]
    split <;> omega
  · unfold smallLetters at member
    split at member
    · next ascii => exact Or.inl ⟨ascii, List.mem_singleton.1 member⟩
    split at member
    · next beyond dotted =>
      have both : ∀ e ∈ (['i', .ofCode 0x0307] : Text), e.code = 0x69 ∨ 0x80 ≤ e.code := by
        decide
      have := both d member
      omega
    · next beyond _ =>
      rw [List.mem_singleton] at member
      cases found : counterpart? caseRows c with
      | none =>
        rw [found, Option.getD_none] at member
        subst member
        omega
      | some e =>
        rw [found, Option.getD_some] at member
        have := code_of_counterpart (member ▸ found)
        omega

theorem smallLettersIn_ne_nil (before : Text) (c : CodePoint) (after : Text) :
    smallLettersIn before c after ≠ [] := by
  unfold smallLettersIn smallLetters
  repeat' split
  all_goals exact List.cons_ne_nil _ _

theorem mem_lowercaseFrom {before text : Text} {d : CodePoint}
    (member : d ∈ lowercaseFrom before text) :
    ∃ before' c after, c ∈ text ∧ d ∈ smallLettersIn before' c after := by
  induction text generalizing before with
  | nil => cases member
  | cons c rest ih =>
    rcases List.mem_append.1 member with here | onward
    · exact ⟨before, c, rest, List.mem_cons_self, here⟩
    · obtain ⟨before', c', after, there, small⟩ := ih onward
      exact ⟨before', c', after, List.mem_cons_of_mem _ there, small⟩

/-- A lowercased text holds no capital. -/
theorem isCapital_of_mem_lowercase {text : Text} {d : CodePoint} (member : d ∈ lowercase text) :
    d.isCapital = false := by
  obtain ⟨_, c, _, _, small⟩ := mem_lowercaseFrom member
  rcases mem_smallLettersIn small with ⟨ascii, rfl⟩ | other
  · exact (toLower_of_ascii ascii).1
  · simp only [isCapital, Bool.and_eq_false_iff, decide_eq_false_iff_not]
    omega

theorem lowercaseFrom_eq_nil_iff {before text : Text} :
    lowercaseFrom before text = [] ↔ text = [] := by
  cases text with
  | nil => simp [lowercaseFrom]
  | cons c rest => simp [lowercaseFrom, smallLettersIn_ne_nil]

/-- An ASCII character that is no capital is its own small letter. -/
theorem lowercase_singleton {d : CodePoint} (ascii : d.code < 0x80)
    (small : d.isCapital = false) : lowercase [d] = [d] := by
  have plain : d ≠ capitalSigma := by
    rintro rfl
    exact absurd ascii (by decide)
  simp [lowercase, lowercaseFrom, smallLettersIn, smallLetters, plain, ascii,
    (toLower_of_ascii ascii).2 small]

/-- A text without capitals that lowercases to one ASCII letter, but for the i and the k, is that
letter. -/
theorem eq_singleton_of_lowercase {text : Text} {d : CodePoint}
    (small : ∀ c ∈ text, c.isCapital = false) (ascii : d.code < 0x80)
    (other : d.code ≠ 0x69 ∧ d.code ≠ 0x6B) (same : lowercase text = [d]) : text = [d] := by
  cases text with
  | nil => cases same
  | cons c rest =>
    have joined : smallLettersIn [] c rest ++ lowercaseFrom [c] rest = [d] := same
    rcases List.append_eq_singleton_iff.1 joined with ⟨none, _⟩ | ⟨letters, ending⟩
    · exact absurd none (smallLettersIn_ne_nil _ _ _)
    · have member : d ∈ smallLettersIn [] c rest := letters ▸ List.mem_singleton_self d
      rcases mem_smallLettersIn member with ⟨low, rfl⟩ | beyond
      · rw [lowercaseFrom_eq_nil_iff.1 ending,
          (toLower_of_ascii low).2 (small c List.mem_cons_self)]
      · omega

end Text
end PackOpening
