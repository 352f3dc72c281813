import PackOpening.Text.Blank

/-!
Trimming and cutting: a trimmed text has nothing left to trim, and a cut falls at the first mark.
-/
namespace PackOpening.Text

variable {α : Type} {drop : α → Bool} {text : List α} {c : α}

theorem dropWhile_eq_self (kept : ∀ c, text.head? = some c → drop c = false) :
    text.dropWhile drop = text := by
  cases text with
  | nil => rfl
  | cons first rest => simp [kept first rfl]

theorem not_drop_of_head?_dropWhile (first : (text.dropWhile drop).head? = some c) :
    drop c = false := by
  have kept := List.head?_dropWhile_not drop text
  rwa [first] at kept

/-- Trimming the end leaves a beginning of what was left when the front was trimmed. -/
theorem trimWhile_isPrefix (drop : α → Bool) (text : List α) :
    trimWhile drop text <+: text.dropWhile drop := by
  have ending : (text.dropWhile drop).reverse.dropWhile drop <:+ (text.dropWhile drop).reverse :=
    List.dropWhile_suffix drop
  simpa [trimWhile] using List.reverse_prefix.2 ending

theorem mem_of_mem_trimWhile (member : c ∈ trimWhile drop text) : c ∈ text :=
  List.dropWhile_subset drop ((trimWhile_isPrefix drop text).subset member)

theorem mem_of_mem_trim {text : Text} {c : CodePoint} (member : c ∈ trim text) : c ∈ text :=
  mem_of_mem_trimWhile member

theorem not_drop_of_head?_trimWhile (first : (trimWhile drop text).head? = some c) :
    drop c = false := by
  obtain ⟨rest, whole⟩ := trimWhile_isPrefix drop text
  have same : (text.dropWhile drop).head? = some c := by
    rw [← whole, List.head?_append, first]
    rfl
  exact not_drop_of_head?_dropWhile same

theorem not_drop_of_getLast?_trimWhile (last : (trimWhile drop text).getLast? = some c) :
    drop c = false := by
  rw [trimWhile, List.getLast?_reverse] at last
  exact not_drop_of_head?_dropWhile last

/-- A text with nothing to drop at either end stays as it is. -/
theorem trimWhile_eq_self (first : ∀ c, text.head? = some c → drop c = false)
    (last : ∀ c, text.getLast? = some c → drop c = false) : trimWhile drop text = text := by
  rw [trimWhile, dropWhile_eq_self first, dropWhile_eq_self, List.reverse_reverse]
  simpa only [List.head?_reverse] using last

theorem trim_trim (text : Text) : trim (trim text) = trim text :=
  trimWhile_eq_self (fun _ => not_drop_of_head?_trimWhile)
    fun _ => not_drop_of_getLast?_trimWhile

/-- A cut keeps what stands before the first mark, and what stands behind it if there is one. -/
theorem cut_eq [DecidableEq α] (mark : α) (text : List α) :
    cut mark text = (text.takeWhile (· ≠ mark),
      if mark ∈ text then some (text.dropWhile (· ≠ mark)).tail else none) := by
  induction text with
  | nil => rfl
  | cons c rest ih =>
    by_cases here : c = mark
    · simp [cut, here]
    · have distinct : ¬ mark = c := fun same => here same.symm
      simp [cut, here, distinct, ih]

theorem cut_append_mark [DecidableEq α] {mark : α} {front : List α} (absent : mark ∉ front)
    (back : List α) : cut mark (front ++ mark :: back) = (front, some back) := by
  induction front with
  | nil => rw [List.nil_append, cut, if_pos rfl]
  | cons c rest ih =>
    obtain ⟨distinct, absent⟩ := not_or.1 (mt List.mem_cons.2 absent)
    rw [List.cons_append, cut, if_neg (Ne.symm distinct), ih absent]

end PackOpening.Text
