import PackOpening.Proofs.Text.Ends
import PackOpening.Proofs.Text.Small

/-!
What lowercasing takes no notice of.

The case of ASCII letters makes no difference, not even to a sigma beside them. Blanks stay as they
are. Without a capital sigma each character is lowercased on its own, so that a text may be cut
anywhere.
-/
namespace PackOpening.Text

open CodePoint

/-- Only capitals have another small letter. -/
theorem toLower_of_not_isCapital {c : CodePoint} (other : c.isCapital = false) :
    c.map Char.toLower = c := by
  cases c with
  | surrogate offset => rfl
  | char c =>
    refine congrArg char (dif_neg fun capital => ?_)
    have low : 0x41 ≤ c.toNat := UInt32.le_iff_toNat_le.1 capital.1
    have high : c.toNat ≤ 0x5A := UInt32.le_iff_toNat_le.1 capital.2
    simp [isCapital, code, low, high] at other

/-- What does not tell the two forms of an ASCII letter apart tells no character from its small
letter. -/
theorem congr_toLower {β : Type} (g : CodePoint → β)
    (checked : ∀ n < 26, g (ofCode (0x61 + n)) = g (ofCode (0x41 + n))) (c : CodePoint) :
    g (c.map Char.toLower) = g c := by
  cases capital : c.isCapital with
  | false => rw [toLower_of_not_isCapital capital]
  | true =>
    have letters : ∀ n < 26, (ofCode (0x41 + n)).map Char.toLower = ofCode (0x61 + n) := by decide
    simp only [isCapital, Bool.and_eq_true, decide_eq_true_eq] at capital
    have inside : c.code - 0x41 < 26 := by omega
    have found := checked _ inside
    rwa [← letters _ inside, Nat.add_sub_cancel' capital.1, ofCode_code] at found

theorem toLower_eq_iff (mark : CodePoint)
    (checked : ∀ n < 26, decide (ofCode (0x61 + n) = mark) = decide (ofCode (0x41 + n) = mark))
    (c : CodePoint) : c.map Char.toLower = mark ↔ c = mark := by
  simpa using congr_toLower (fun c => decide (c = mark)) checked c

theorem isBlank_comp_toLower : isBlank ∘ (·.map Char.toLower) = isBlank :=
  funext (congr_toLower isBlank (by decide))

theorem trim_map_toLower (text : Text) :
    trim (text.map (·.map Char.toLower)) = (trim text).map (·.map Char.toLower) := by
  simp only [trim, trimWhile, List.dropWhile_map, ← List.map_reverse, isBlank_comp_toLower]

theorem startsCased_map_toLower (text : Text) :
    startsCased (text.map (·.map Char.toLower)) = startsCased text := by
  have ignorable := congr_toLower isCaseIgnorable (by decide +kernel)
  have cased := congr_toLower isCased (by decide)
  induction text with
  | nil => rfl
  | cons c rest ih => rw [List.map_cons, startsCased, startsCased, ignorable, cased, ih]

theorem smallLettersIn_map_toLower (before : Text) (c : CodePoint) (after : Text) :
    smallLettersIn (before.map (·.map Char.toLower)) (c.map Char.toLower)
      (after.map (·.map Char.toLower)) = smallLettersIn before c after := by
  have sigma := toLower_eq_iff capitalSigma (by decide) c
  have letters := congr_toLower smallLetters (by decide) c
  simp only [smallLettersIn, sigma, letters, startsCased_map_toLower]

/-- Lowercasing does not depend on the case of ASCII letters. -/
theorem lowercase_map_toLower (text : Text) :
    lowercase (text.map (·.map Char.toLower)) = lowercase text := by
  have from_before (before : Text) : lowercaseFrom (before.map (·.map Char.toLower))
      (text.map (·.map Char.toLower)) = lowercaseFrom before text := by
    induction text generalizing before with
    | nil => rfl
    | cons c rest ih =>
      rw [List.map_cons, lowercaseFrom, lowercaseFrom, smallLettersIn_map_toLower, ← List.map_cons,
        ih]
  exact from_before []

/-- Without a capital sigma the letters are lowercased one by one. -/
theorem lowercase_of_not_mem {text : Text} (plain : capitalSigma ∉ text) :
    lowercase text = text.flatMap smallLetters := by
  have from_before (before : Text) : lowercaseFrom before text = text.flatMap smallLetters := by
    induction text generalizing before with
    | nil => rfl
    | cons c rest ih =>
      obtain ⟨other, onward⟩ := not_or.1 (mt List.mem_cons.2 plain)
      rw [lowercaseFrom, smallLettersIn, if_neg (Ne.symm other), ih onward, List.flatMap_cons]
  exact from_before []

theorem lowercase_append {text text' : Text} (plain : capitalSigma ∉ text)
    (plain' : capitalSigma ∉ text') :
    lowercase (text ++ text') = lowercase text ++ lowercase text' := by
  have both : capitalSigma ∉ text ++ text' := fun there =>
    (List.mem_append.1 there).elim plain plain'
  rw [lowercase_of_not_mem both, lowercase_of_not_mem plain, lowercase_of_not_mem plain',
    List.flatMap_append]

/-- The numbers of the blanks. -/
def blankCodes : List Nat :=
  [0x09, 0x0A, 0x0B, 0x0C, 0x0D, 0x1C, 0x1D, 0x1E, 0x1F, 0x20, 0x85, 0xA0, 0x1680, 0x2000, 0x2001,
    0x2002, 0x2003, 0x2004, 0x2005, 0x2006, 0x2007, 0x2008, 0x2009, 0x200A, 0x2028, 0x2029, 0x202F,
    0x205F, 0x3000]

theorem code_mem_blankCodes {c : CodePoint} (blank : isBlank c = true) : c.code ∈ blankCodes := by
  simp only [isBlank, Bool.or_eq_true, Bool.and_eq_true, decide_eq_true_eq, beq_iff_eq] at blank
  simp only [blankCodes, List.mem_cons, List.not_mem_nil, or_false]
  omega

/-- Blanks have no other case. -/
theorem isSmall_of_isBlank {c : CodePoint} (blank : isBlank c = true) : IsSmall c := by
  have checked : ∀ n ∈ blankCodes, IsSmall (ofCode n) := by decide
  have small := checked c.code (code_mem_blankCodes blank)
  rwa [ofCode_code] at small

theorem lowercase_of_areBlank {text : Text} (blank : AreBlank text) : lowercase text = text :=
  lowercase_eq_self_iff.2 fun c there => isSmall_of_isBlank (blank c there)

/-- A lowercased text is its trimmed part in lower case, between the same blanks. -/
theorem exists_lowercase_trim {text : Text} (plain : capitalSigma ∉ text) :
    ∃ before behind, AreBlank before ∧ AreBlank behind ∧
      lowercase text = before ++ lowercase (trim text) ++ behind := by
  obtain ⟨before, behind, blank, blank', whole⟩ := exists_trim text
  have sigma : isBlank capitalSigma = false := by decide
  refine ⟨before, behind, blank, blank', ?_⟩
  have inside : capitalSigma ∉ before ++ trim text := by
    simp [not_mem_of_areBlank sigma blank, mt mem_of_mem_trim plain]
  conv => lhs; rw [whole]
  rw [lowercase_append inside (not_mem_of_areBlank sigma blank'),
    lowercase_append (not_mem_of_areBlank sigma blank) (mt mem_of_mem_trim plain),
    lowercase_of_areBlank blank, lowercase_of_areBlank blank']

end PackOpening.Text
