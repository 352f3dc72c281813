import Mathlib.Data.List.TakeWhile
import PackOpening.Proofs.Text.Parts

/-!
The ends of a text. What would be trimmed may be put at either end of a text or taken from it, and a
trimmed text shows the first and the last character that are kept.
-/
namespace PackOpening.Text

variable {α : Type} {drop : α → Bool}

theorem trimWhile_append_front {dropped : List α} (all : ∀ c ∈ dropped, drop c = true)
    (text : List α) : trimWhile drop (dropped ++ text) = trimWhile drop text := by
  rw [trimWhile, List.dropWhile_append_of_pos all, trimWhile]

theorem trimWhile_append_behind {dropped : List α} (all : ∀ c ∈ dropped, drop c = true)
    (text : List α) : trimWhile drop (text ++ dropped) = trimWhile drop text := by
  have back : ∀ c ∈ dropped.reverse, drop c = true := fun c there =>
    all c (List.mem_reverse.1 there)
  rw [trimWhile, trimWhile, List.dropWhile_append]
  split
  · next none =>
    rw [List.isEmpty_iff.1 none, List.dropWhile_eq_nil_iff.2 all]
  · rw [List.reverse_append, List.dropWhile_append_of_pos back]

/-- What is dropped at the front stands before the rest. -/
theorem exists_dropWhile (drop : α → Bool) (text : List α) :
    ∃ dropped, (∀ c ∈ dropped, drop c = true) ∧ text = dropped ++ text.dropWhile drop :=
  ⟨text.takeWhile drop, fun _ => List.mem_takeWhile_imp, (List.takeWhile_append_dropWhile).symm⟩

theorem head?_trimWhile (drop : α → Bool) (text : List α) :
    (trimWhile drop text).head? = (text.dropWhile drop).head? := by
  cases left : text.dropWhile drop with
  | nil =>
    rw [trimWhile, left]
    rfl
  | cons c rest =>
    have first : (text.dropWhile drop).head? = some c := by rw [left]; rfl
    have kept : drop c = false := not_drop_of_head?_dropWhile first
    rw [trimWhile, left, List.reverse_cons, List.dropWhile_append]
    split
    · simp [kept]
    · simp

theorem getLast?_trimWhile (drop : α → Bool) (text : List α) :
    (trimWhile drop text).getLast? = (text.reverse.dropWhile drop).head? := by
  obtain ⟨dropped, all, whole⟩ := exists_dropWhile drop text
  have back : ∀ c ∈ dropped.reverse, drop c = true := fun c there =>
    all c (List.mem_reverse.1 there)
  have reversed : text.reverse = (text.dropWhile drop).reverse ++ dropped.reverse := by
    rw [← List.reverse_append, ← whole]
  rw [trimWhile, List.getLast?_reverse, reversed, List.dropWhile_append]
  split
  · next none =>
    rw [List.isEmpty_iff.1 none, List.dropWhile_eq_nil_iff.2 back]
  · next present =>
    rw [List.head?_append, Option.or_of_isSome]
    simpa [List.isEmpty_iff] using present

/-- What is dropped at the ends stands around the rest. -/
theorem exists_trimWhile (drop : α → Bool) (text : List α) :
    ∃ before behind, (∀ c ∈ before, drop c = true) ∧ (∀ c ∈ behind, drop c = true) ∧
      text = before ++ trimWhile drop text ++ behind := by
  obtain ⟨before, all, front⟩ := exists_dropWhile drop text
  obtain ⟨behind, all', back⟩ := exists_dropWhile drop (text.dropWhile drop).reverse
  refine ⟨before, behind.reverse, all, fun c there => all' c (List.mem_reverse.1 there), ?_⟩
  have kept : text.dropWhile drop = trimWhile drop text ++ behind.reverse := by
    rw [trimWhile, ← List.reverse_append, ← back, List.reverse_reverse]
  rw [List.append_assoc, ← kept]
  exact front

/-- Only blanks. -/
def AreBlank (text : Text) : Prop := ∀ c ∈ text, isBlank c = true

instance : DecidablePred AreBlank := fun text =>
  inferInstanceAs (Decidable (∀ c ∈ text, isBlank c = true))

theorem areBlank_nil : AreBlank [] := fun _ there => absurd there List.not_mem_nil

/-- Trimming takes blanks off both ends. -/
theorem exists_trim (text : Text) :
    ∃ before behind, AreBlank before ∧ AreBlank behind ∧ text = before ++ trim text ++ behind :=
  exists_trimWhile isBlank text

/-- What takes no notice of blanks at the ends of a text takes none of trimming. -/
theorem congr_trim {β : Type} {f : Text → β}
    (front : ∀ {blanks : Text}, AreBlank blanks → ∀ text, f (blanks ++ text) = f text)
    (behind : ∀ {blanks : Text}, AreBlank blanks → ∀ text, f (text ++ blanks) = f text)
    (text : Text) : f (trim text) = f text := by
  obtain ⟨before, after, blank, blank', whole⟩ := exists_trim text
  conv => rhs; rw [whole, behind blank', front blank]

theorem not_mem_of_areBlank {blanks : Text} {c : CodePoint} (visible : isBlank c = false)
    (blank : AreBlank blanks) : c ∉ blanks := by
  intro there
  exact absurd (blank c there) (by simp [visible])

theorem mem_trim_of_mem {text : Text} {c : CodePoint} (visible : isBlank c = false)
    (there : c ∈ text) : c ∈ trim text := by
  obtain ⟨before, behind, blank, blank', whole⟩ := exists_trim text
  rw [whole, List.mem_append, List.mem_append] at there
  rcases there with (front | inside) | back
  · exact absurd front (not_mem_of_areBlank visible blank)
  · exact inside
  · exact absurd back (not_mem_of_areBlank visible blank')

end PackOpening.Text
