import PackOpening.Policy.Selection
import PackOpening.Proofs.Numeric.Handwritten
import PackOpening.Proofs.Text.Order

/-!
Which policy opens a pack.

Play packs are opened for dates that begin with four decimal digits of a number that is late enough.
The year of any date is the integer that its first four characters write, and that is small unless
these are four digits: no sign, underscore or blank leads to a year of play packs. Dates that begin
with four ASCII digits are ordered as their years.
-/
namespace PackOpening.Policy

open PackOpening.Numeric PackOpening.Text

/-- The first four characters of a date, or fewer if it has no more. -/
def yearText (date : Option Text) : Text := (date.getD []).take 4

/-- A date that begins with four decimal digits, and the number that they stand for. -/
inductive BeginsWithYear (date : Option Text) (year : Nat) : Prop where
  | digits {a b c d : CodePoint} {w x y z : Nat} (rest : Text)
    (text : date = some (a :: b :: c :: d :: rest)) (thousands : digitValue? a = some w)
    (hundreds : digitValue? b = some x) (tens : digitValue? c = some y)
    (ones : digitValue? d = some z) (stands : year = 1000 * w + 100 * x + 10 * y + z)

/-- A date that begins with four ASCII digits. -/
def IsDated (date : Text) : Prop := 4 ≤ date.length ∧ ∀ c ∈ date.take 4, c.isAsciiDigit = true

instance : DecidablePred IsDated := fun date =>
  inferInstanceAs (Decidable (4 ≤ date.length ∧ ∀ c ∈ date.take 4, c.isAsciiDigit = true))

section Years

variable {date : Option Text} {year : Nat} {n : Int}

/-- The year is the integer that the first four characters write. -/
theorem releaseYear_of_writes (writes : Writes (yearText date) n) : releaseYear date = n := by
  have read : readInt? (yearText date) = some n := readInt?_eq_some_iff.2 writes
  rw [releaseYear, ← yearText, read, Option.getD_some]

theorem releaseYear_of_not_writes (none : ∀ n, ¬ Writes (yearText date) n) :
    releaseYear date = 0 := by
  have unread : readInt? (yearText date) = .none :=
    Option.eq_none_iff_forall_ne_some.2 fun n read => none n (readInt?_eq_some_iff.1 read)
  rw [releaseYear, ← yearText, unread, Option.getD_none]

theorem BeginsWithYear.areDigits (begins : BeginsWithYear date year) :
    ∃ digits, AreDigits (yearText date) digits ∧ ofDigitValues digits = year := by
  obtain ⟨rest, rfl, thousands, hundreds, tens, ones, stands⟩ := begins
  refine ⟨_, .cons thousands (.cons hundreds (.cons tens (.cons ones .nil))), ?_⟩
  simp only [ofDigitValues, List.foldl_cons, List.foldl_nil, stands]
  omega

theorem beginsWithYear_of_areDigits {digits : List Nat} (alone : AreDigits (yearText date) digits)
    (full : (yearText date).length = 4) : BeginsWithYear date (ofDigitValues digits) := by
  cases date with
  | none => cases full
  | some text =>
    match text, full, alone with
    | a :: b :: c :: d :: rest, _, .cons thousands (.cons hundreds (.cons tens (.cons ones .nil))) =>
      refine .digits rest rfl thousands hundreds tens ones ?_
      simp only [ofDigitValues, List.foldl_cons, List.foldl_nil]
      omega

theorem releaseYear_of_beginsWithYear (begins : BeginsWithYear date year) :
    releaseYear date = year := by
  obtain ⟨digits, alone, rfl⟩ := begins.areDigits
  refine releaseYear_of_writes (alone.writes ?_)
  obtain ⟨rest, rfl, _⟩ := begins
  exact List.cons_ne_nil _ _

/-- Only four digits stand for a year of four digits. -/
theorem releaseYear_cases (date : Option Text) :
    (∃ year : Nat, BeginsWithYear date year ∧ releaseYear date = year ∧ year ≤ 9999) ∨
      (-999 ≤ releaseYear date ∧ releaseYear date ≤ 999) := by
  have short : (yearText date).length ≤ 4 := List.length_take_le 4 _
  by_cases written : ∃ n, Writes (yearText date) n
  · obtain ⟨n, writes⟩ := written
    rw [releaseYear_of_writes writes]
    rcases writes.areDigits_or_small with ⟨digits, alone, rfl⟩ | small
    · have bound := alone.value_lt
      by_cases full : (yearText date).length = 4
      · rw [full] at bound
        exact .inl ⟨_, beginsWithYear_of_areDigits alone full, rfl, by omega⟩
      · have less : 10 ^ (yearText date).length ≤ 10 ^ 3 :=
          Nat.pow_le_pow_right (by decide) (by omega)
        exact .inr (by omega)
    · have less : 10 ^ (yearText date).length ≤ 10 ^ 4 := Nat.pow_le_pow_right (by decide) short
      exact .inr (by omega)
  · rw [releaseYear_of_not_writes (not_exists.1 written)]
    exact .inr (by decide)

/-- A year of four digits is reached only by dates that begin with one. -/
theorem le_releaseYear_iff {first : Nat} (late : 999 < first) :
    first ≤ releaseYear date ↔ ∃ year, BeginsWithYear date year ∧ first ≤ year := by
  constructor
  · intro reached
    rcases releaseYear_cases date with ⟨year, begins, same, _⟩ | small
    · exact ⟨year, begins, Int.ofNat_le.1 (same ▸ reached)⟩
    · omega
  · rintro ⟨year, begins, reached⟩
    rw [releaseYear_of_beginsWithYear begins]
    exact Int.ofNat_le.2 reached

theorem releaseYear_bounds (date : Option Text) :
    -999 ≤ releaseYear date ∧ releaseYear date ≤ 9999 := by
  rcases releaseYear_cases date with ⟨year, _, same, bound⟩ | small
  · omega
  · omega

theorem beginsWithYear_of_isDated {a b c d : CodePoint} {rest : Text}
    (dated : IsDated (a :: b :: c :: d :: rest)) :
    BeginsWithYear (some (a :: b :: c :: d :: rest)) (1000 * (a.code - 0x30) +
      100 * (b.code - 0x30) + 10 * (c.code - 0x30) + (d.code - 0x30)) := by
  have value (e : CodePoint) (there : e ∈ [a, b, c, d]) :=
    (digitValue?_of_isAsciiDigit (dated.2 e there)).1
  exact .digits rest rfl (value a (by simp)) (value b (by simp)) (value c (by simp))
    (value d (by simp)) rfl

/-- ASCII digits are ordered by their values, so an earlier date is of no later year. -/
theorem releaseYear_mono {earlier later : Text} (dated : IsDated earlier) (dated' : IsDated later)
    (le : earlier ≤ later) : releaseYear (some earlier) ≤ releaseYear (some later) := by
  match earlier, later, dated, dated' with
  | a :: b :: c :: d :: rest, a' :: b' :: c' :: d' :: rest', dated, dated' =>
    rw [releaseYear_of_beginsWithYear (beginsWithYear_of_isDated dated),
      releaseYear_of_beginsWithYear (beginsWithYear_of_isDated dated')]
    have range (e : CodePoint) (there : e ∈ [a, b, c, d]) :=
      (digitValue?_of_isAsciiDigit (dated.2 e there)).2
    have range' (e : CodePoint) (there : e ∈ [a', b', c', d']) :=
      (digitValue?_of_isAsciiDigit (dated'.2 e there)).2
    simp only [List.forall_mem_cons] at range range'
    have less {e e' : CodePoint} (before : e < e') : e.code < e'.code := before
    refine Int.ofNat_le.2 ?_
    simp only [List.cons_le_cons_iff] at le
    rcases le with first | ⟨rfl, second | ⟨rfl, third | ⟨rfl, fourth | ⟨rfl, -⟩⟩⟩⟩
    · have := less first
      omega
    · have := less second
      omega
    · have := less third
      omega
    · have := less fourth
      omega
    · exact Nat.le_refl _

end Years

section Names

variable {name : Text} {date : Option Text}

/-- A play pack asked for by its name, for a date late enough. -/
def AsksForPlay (name : Text) (date : Option Text) : Prop :=
  name = "play" ∧ ∃ year, BeginsWithYear date year ∧ 2024 ≤ year

theorem select_of_asksForPlay (asks : AsksForPlay name date) : select name date = play := by
  obtain ⟨rfl, late⟩ := asks
  have reached : firstPlayYear ≤ releaseYear date := (le_releaseYear_iff (by decide)).2 late
  rw [select, if_neg (by decide), if_pos ⟨rfl, reached⟩]

theorem select_of_others (other : name ≠ "collector") (early : ¬ AsksForPlay name date) :
    select name date = legacy := by
  rw [select, if_neg other, if_neg]
  rintro ⟨named, reached⟩
  exact early ⟨named, (le_releaseYear_iff (by decide)).1 reached⟩

/-- The three policies, each with the names and dates that it is chosen for. -/
theorem select_iff (name : Text) (date : Option Text) :
    (select name date = collector ↔ name = "collector") ∧
    (select name date = play ↔ AsksForPlay name date) ∧
    (select name date = legacy ↔ name ≠ "collector" ∧ ¬ AsksForPlay name date) := by
  by_cases own : name = "collector"
  · have chosen : select name date = collector := if_pos own
    have other : ¬ AsksForPlay name date := fun asks =>
      absurd (own.symm.trans asks.1) (by decide)
    rw [chosen]
    exact ⟨iff_of_true rfl own, iff_of_false nofun other, iff_of_false nofun fun h => h.1 own⟩
  by_cases asks : AsksForPlay name date
  · simp [select_of_asksForPlay asks, own, asks]
  · simp [select_of_others own asks, own, asks]

end Names

/-- A collector pack is opened for its name, a play pack for its name and a date that begins with
four digits of at least 2024, and a legacy pack otherwise. Every date has a year from -999 to 9999:
the integer that the first four characters write, and zero if they write none. What stands behind
them does not count, and of two dates that begin with ASCII digits the earlier is of no later
year. -/
theorem policy_chosen_by_name_and_year (name : Text) (date : Option Text) :
    (select name date = collector ↔ name = "collector") ∧
    (select name date = play ↔
      name = "play" ∧ ∃ year, BeginsWithYear date year ∧ 2024 ≤ year) ∧
    (select name date = legacy ↔ name ≠ "collector" ∧
      ¬ (name = "play" ∧ ∃ year, BeginsWithYear date year ∧ 2024 ≤ year)) ∧
    (-999 ≤ releaseYear date ∧ releaseYear date ≤ 9999) ∧
    ((∀ n, Writes (yearText date) n → releaseYear date = n) ∧
      ((∀ n, ¬ Writes (yearText date) n) → releaseYear date = 0)) ∧
    (∀ other, yearText other = yearText date → releaseYear other = releaseYear date) ∧
    ∀ earlier later, IsDated earlier → IsDated later → earlier ≤ later →
      releaseYear (some earlier) ≤ releaseYear (some later) := by
  obtain ⟨ofCollector, ofPlay, ofLegacy⟩ := select_iff name date
  refine ⟨ofCollector, ofPlay, ofLegacy, releaseYear_bounds date,
    ⟨fun n => releaseYear_of_writes, releaseYear_of_not_writes⟩, fun other same => ?_,
    fun earlier later => releaseYear_mono⟩
  rw [releaseYear, releaseYear, ← yearText, ← yearText, same]

/-- Digits of another script, a year behind a minus, a word, and two dates around the first year of
play packs. -/
theorem policy_chosen_by_name_and_year_other_script :
    let date : Option Text := some "٢٠٢٤-02-09"
    BeginsWithYear date 2024 ∧ select "play" date = play ∧
    Writes (yearText (some "-999 BC")) (-999) ∧ releaseYear (some "-999 BC") = -999 ∧
    (∀ n, ¬ Writes (yearText (some "TBA")) n) ∧ releaseYear (some "TBA") = 0 ∧
    yearText (some "٢٠٢٤") = yearText date ∧ releaseYear (some "٢٠٢٤") = releaseYear date ∧
    IsDated "2023-12-31" ∧ IsDated "2024-01-01" ∧ ("2023-12-31" : Text) ≤ "2024-01-01" ∧
    releaseYear (some "2023-12-31") ≤ releaseYear (some "2024-01-01") := by
  intro date
  have digits : digitValue? '٢' = some 2 ∧ digitValue? '٠' = some 0 ∧ digitValue? '٤' = some 4 := by
    decide
  have begins : BeginsWithYear date 2024 :=
    .digits "-02-09" rfl digits.1 digits.2.1 digits.1 digits.2.2 rfl
  have ancient : Writes (yearText (some "-999 BC")) (-999) :=
    readInt?_eq_some_iff.1 (by decide)
  have wordless : ∀ n, ¬ Writes (yearText (some "TBA")) n := by
    intro n writes
    have read := readInt?_eq_some_iff.2 writes
    have none : readInt? (yearText (some "TBA")) = none := by decide
    rw [none] at read
    cases read
  have dated : IsDated "2023-12-31" ∧ IsDated "2024-01-01" ∧
      ("2023-12-31" : Text) ≤ "2024-01-01" := by decide
  have same : yearText (some "٢٠٢٤") = yearText date := by decide
  obtain ⟨_, ofPlay, _, _, _, behind, ordered⟩ := policy_chosen_by_name_and_year "play" date
  obtain ⟨_, _, _, _, written, _⟩ := policy_chosen_by_name_and_year "play" (some "-999 BC")
  obtain ⟨_, _, _, _, unwritten, _⟩ := policy_chosen_by_name_and_year "play" (some "TBA")
  exact ⟨begins, ofPlay.2 ⟨rfl, 2024, begins, Nat.le_refl _⟩, ancient, written.1 _ ancient,
    wordless, unwritten.2 wordless, same, behind _ same, dated.1, dated.2.1, dated.2.2,
    ordered _ _ dated.1 dated.2.1 dated.2.2⟩

end PackOpening.Policy
