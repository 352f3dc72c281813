import PackOpening.Json.Printer
import PackOpening.Json.Reader
import PackOpening.Proofs.Text.Letters

/-!
Quoted texts are read back.

A printed text holds printable ASCII characters only. Reading it takes one step for each code point
and one for the closing quote, and gives the text again if there is no surrogate in it. A high
surrogate right before a low one is read as the character that the two units spell together.
-/
namespace PackOpening.Json

open PackOpening.Text

/-- How a code point is escaped: by one letter, not at all, by its unit, or by its two units. -/
inductive Escaping : CodePoint → List Char → Prop where
  | letter {c : CodePoint} {e : Char} (plain : e ≠ 'u') (spells : plainEscape? e = some c)
    (printed : 0x20 ≤ e.toNat ∧ e.toNat ≤ 0x7E) :
    Escaping c ['\\', e]
  | itself {d : Char} (quote : d ≠ '"') (slash : d ≠ '\\')
    (printed : 0x20 ≤ d.toNat ∧ d.toNat ≤ 0x7E) : Escaping d [d]
  | unit {c : CodePoint} (small : c.code < 0x10000) : Escaping c (escapedUnit c.code)
  | units {c : CodePoint} {n : Nat} (large : c.code = 0x10000 + n) (bound : n < 0x100000) :
    Escaping c (escapedUnit (0xD800 + n / 0x400) ++ escapedUnit (0xDC00 + n % 0x400))

theorem code_lt (c : CodePoint) : c.code < 0x110000 := by
  cases c with
  | char c =>
    have valid : c.toNat < 0xD800 ∨ 0xDFFF < c.toNat ∧ c.toNat < 0x110000 := c.valid
    simp only [CodePoint.code]
    omega
  | surrogate offset =>
    have bound := offset.isLt
    simp only [CodePoint.code]
    omega

theorem escaping (c : CodePoint) : Escaping c (escaped c) := by
  unfold escaped
  split
  · next same => exact same ▸ .letter (by decide) (by decide) (by decide)
  split
  · next same => exact same ▸ .letter (by decide) (by decide) (by decide)
  split
  · next same => exact same ▸ .letter (by decide) (by decide) (by decide)
  split
  · next same => exact same ▸ .letter (by decide) (by decide) (by decide)
  split
  · next same => exact same ▸ .letter (by decide) (by decide) (by decide)
  split
  · next code =>
    obtain rfl : c = .ofCode 0x08 := by rw [← code, CodePoint.ofCode_code]
    exact .letter (by decide) (by decide) (by decide)
  split
  · next code =>
    obtain rfl : c = .ofCode 0x0C := by rw [← code, CodePoint.ofCode_code]
    exact .letter (by decide) (by decide) (by decide)
  split
  · next quote slash _ _ _ _ _ printed =>
    cases c with
    | surrogate offset =>
      simp only [CodePoint.code] at printed
      omega
    | char d =>
      simp only [CodePoint.code, Char.ofNat_toNat] at printed ⊢
      exact .itself (fun same => quote (same ▸ rfl)) (fun same => slash (same ▸ rfl)) printed
  split
  · next small => exact .unit small
  · next large =>
    have bound := code_lt c
    exact .units (by omega) (by omega)

/-- A hex digit is read as the last digit of the number. -/
theorem hexValue?_hexDigit (n : Nat) : hexValue? (hexDigit n).toNat = some (n % 16) := by
  have digits : ∀ m < 16, hexValue? (Nat.digitChar m).toNat = some m := by decide
  exact digits _ (Nat.mod_lt n (by decide))

theorem printed_hexDigit (n : Nat) : 0x20 ≤ (hexDigit n).toNat ∧ (hexDigit n).toNat ≤ 0x7E := by
  have digits : ∀ m < 16, 0x20 ≤ (Nat.digitChar m).toNat ∧ (Nat.digitChar m).toNat ≤ 0x7E := by
    decide
  exact digits _ (Nat.mod_lt n (by decide))

/-- The four digits of a unit spell it. -/
theorem unit?_unitDigits {n : Nat} (small : n < 0x10000) (next : CodePoint) (rest : Text) :
    unit? (ofChars (unitDigits n) ++ next :: rest) = some (n, next :: rest) := by
  simp only [unitDigits, ofChars, List.map_cons, List.map_nil, List.cons_append, List.nil_append,
    unit?, CodePoint.code, hexValue?_hexDigit, Option.bind_eq_bind, Option.bind_some]
  congr 2
  omega

/-- The characters of a printed value are printable ASCII. -/
def IsPrinted (chars : List Char) : Prop := ∀ c ∈ chars, 0x20 ≤ c.toNat ∧ c.toNat ≤ 0x7E

instance : DecidablePred IsPrinted := fun chars =>
  List.decidableBAll (fun c : Char => 0x20 ≤ c.toNat ∧ c.toNat ≤ 0x7E) chars

theorem isPrinted_append {chars chars' : List Char} :
    IsPrinted (chars ++ chars') ↔ IsPrinted chars ∧ IsPrinted chars' :=
  List.forall_mem_append

theorem isPrinted_escapedUnit (n : Nat) : IsPrinted (escapedUnit n) := by
  simp only [IsPrinted, escapedUnit, unitDigits, List.forall_mem_cons, printed_hexDigit,
    List.not_mem_nil, false_implies, implies_true, and_true]
  decide

theorem isPrinted_escaped (c : CodePoint) : IsPrinted (escaped c) := by
  have escaping := escaping c
  generalize escaped c = chars at escaping ⊢
  cases escaping with
  | letter _ _ printed =>
    exact List.forall_mem_cons.2 ⟨by decide, List.forall_mem_singleton.2 printed⟩
  | itself _ _ printed => exact List.forall_mem_singleton.2 printed
  | unit => exact isPrinted_escapedUnit _
  | units => exact isPrinted_append.2 ⟨isPrinted_escapedUnit _, isPrinted_escapedUnit _⟩

theorem isPrinted_quoted (s : Text) : IsPrinted (quoted s) := by
  refine List.forall_mem_cons.2 ⟨by decide, isPrinted_append.2
    ⟨?_, List.forall_mem_singleton.2 (by decide)⟩⟩
  intro c member
  obtain ⟨d, _, there⟩ := List.mem_flatMap.1 member
  exact isPrinted_escaped d c there

/-- What is left of a printed text behind its opening quote. -/
def behindQuote (s : Text) (rest : Text) : Text :=
  ofChars (s.flatMap escaped) ++ .char '"' :: rest

theorem behindQuote_cons (c : CodePoint) (s rest : Text) :
    behindQuote (c :: s) rest = ofChars (escaped c) ++ behindQuote s rest := by
  simp [behindQuote, ofChars]

theorem behindQuote_eq_cons (s rest : Text) : ∃ next tail, behindQuote s rest = next :: tail := by
  cases h : behindQuote s rest with
  | nil => simp [behindQuote] at h
  | cons next tail => exact ⟨next, tail, rfl⟩

/-- A unit behind which no low unit is escaped stands for itself. -/
theorem joinUnits_of_not_high {unit : Nat} (plain : isHighUnit unit = false) (rest : Text) :
    joinUnits unit rest = .ok (.ofCode unit, rest) := by
  unfold joinUnits
  rw [plain]

theorem joinUnits_escapedUnit {unit low : Nat} (high : isHighUnit unit = true)
    (small : low < 0x10000) (next : CodePoint) (rest : Text) :
    joinUnits unit (ofChars (escapedUnit low) ++ next :: rest) =
      if isLowUnit low then
        .ok (.ofCode (0x10000 + (unit - 0xD800) * 0x400 + (low - 0xDC00)), next :: rest)
      else .ok (.ofCode unit, ofChars (escapedUnit low) ++ next :: rest) := by
  have spelt := unit?_unitDigits small next rest
  have long : ¬ (ofChars (unitDigits low) ++ next :: rest).length < 5 := by
    simp [ofChars, unitDigits]
  have shape : ofChars (escapedUnit low) ++ next :: rest =
      .char '\\' :: .char 'u' :: (ofChars (unitDigits low) ++ next :: rest) := rfl
  rw [shape]
  simp only [joinUnits, high, long, if_false, spelt]

theorem isSurrogate_of_code {c : CodePoint} (low : 0xD800 ≤ c.code) (high : c.code < 0xE000) :
    c.isSurrogate = true := by
  cases c with
  | surrogate offset => rfl
  | char c =>
    have valid : c.toNat < 0xD800 ∨ 0xDFFF < c.toNat ∧ c.toNat < 0x110000 := c.valid
    simp only [CodePoint.code] at low high
    omega

/-- A unit takes at most one code point of the text behind it along. That is a surrogate, and the
character that is read then is large. -/
theorem joinUnits_behindQuote (unit : Nat) (s rest : Text) :
    joinUnits unit (behindQuote s rest) = .ok (.ofCode unit, behindQuote s rest) ∨
      ∃ c d s', s = d :: s' ∧ d.isSurrogate = true ∧ 0x10000 ≤ c.code ∧
        joinUnits unit (behindQuote s rest) = .ok (c, behindQuote s' rest) := by
  cases high : isHighUnit unit with
  | false => exact .inl (joinUnits_of_not_high high _)
  | true =>
    cases s with
    | nil =>
      left
      simp [behindQuote, ofChars, joinUnits, high]
    | cons d s' =>
      rw [behindQuote_cons]
      have escaping := escaping d
      generalize escaped d = chars at escaping ⊢
      cases escaping with
      | letter plain spells printed =>
        left
        simp [ofChars, joinUnits, high, plain]
      | itself quote slash printed =>
        left
        simp [ofChars, joinUnits, high, slash]
      | unit small =>
        obtain ⟨next, tail, behind⟩ := behindQuote_eq_cons s' rest
        rw [behind, joinUnits_escapedUnit high small]
        cases low : isLowUnit d.code with
        | false => exact .inl rfl
        | true =>
          simp only [isLowUnit, Bool.and_eq_true, decide_eq_true_eq] at low
          simp only [isHighUnit, Bool.and_eq_true, decide_eq_true_eq] at high
          have code := CodePoint.code_ofCode
            (n := 0x10000 + (unit - 0xD800) * 0x400 + (d.code - 0xDC00)) (by omega)
          rw [← behind]
          exact .inr ⟨_, d, s', rfl, isSurrogate_of_code (by omega) low.2, by omega, rfl⟩
      | @units _ n large bound =>
        left
        have split : ofChars (escapedUnit (0xD800 + n / 0x400) ++ escapedUnit (0xDC00 + n % 0x400))
            ++ behindQuote s' rest = ofChars (escapedUnit (0xD800 + n / 0x400)) ++
              .char '\\' :: (.char 'u' :: ofChars (unitDigits (0xDC00 + n % 0x400)) ++
                behindQuote s' rest) := by
          simp [ofChars, escapedUnit]
        have single : isLowUnit (0xD800 + n / 0x400) = false := by
          simp [isLowUnit]
          omega
        rw [split, joinUnits_escapedUnit high (by omega), single]
        rfl

/-- What is read of a quoted text from somewhere behind its opening quote, given enough steps. -/
def ReadsText (need : Nat) (text s rest : Text) : Prop :=
  ∀ opening steps, need ≤ steps → readText opening steps text = .ok (s, rest)

namespace ReadsText

variable {need : Nat} {text s rest : Text} {c : CodePoint}

theorem quote (rest : Text) : ReadsText 1 (.char '"' :: rest) [] rest
  | _, _ + 1, _ => rfl

theorem letter {e : Char} (plain : e ≠ 'u') (spells : plainEscape? e = some c)
    (reads : ReadsText need text s rest) :
    ReadsText (need + 1) (.char '\\' :: .char e :: text) (c :: s) rest
  | opening, steps + 1, enough => by
    rw [readText]
    · simp only [spells, reads opening steps (Nat.le_of_succ_le_succ enough), bind, Except.bind]
    · simpa using plain

theorem itself {d : Char} (quote : d ≠ '"') (slash : d ≠ '\\') (printed : 0x20 ≤ d.toNat)
    (reads : ReadsText need text s rest) : ReadsText (need + 1) (.char d :: text) (d :: s) rest
  | opening, steps + 1, enough => by
    have above : ¬ (CodePoint.char d).code < 0x20 := by simpa [CodePoint.code] using printed
    rw [readText]
    · simp only [above, if_false, reads opening steps (Nat.le_of_succ_le_succ enough), bind,
        Except.bind]
    · simpa using quote
    · simp [slash]
    · simp [slash]
    · simp [slash]

theorem unit {n : Nat} {next : CodePoint} {after : Text} (small : n < 0x10000)
    (joined : joinUnits n (next :: text) = .ok (c, after)) (reads : ReadsText need after s rest) :
    ReadsText (need + 1) (ofChars (escapedUnit n) ++ next :: text) (c :: s) rest
  | opening, steps + 1, enough => by
    have spelt := unit?_unitDigits small next text
    have shape : ofChars (escapedUnit n) ++ next :: text =
        .char '\\' :: .char 'u' :: (ofChars (unitDigits n) ++ next :: text) := rfl
    rw [shape, readText]
    simp only [spelt, joined, reads opening steps (Nat.le_of_succ_le_succ enough), bind,
      Except.bind]

theorem units {n : Nat} (large : c.code = 0x10000 + n) (bound : n < 0x100000) {next : CodePoint}
    (reads : ReadsText need (next :: text) s rest) :
    ReadsText (need + 1)
      (ofChars (escapedUnit (0xD800 + n / 0x400) ++ escapedUnit (0xDC00 + n % 0x400)) ++
        next :: text) (c :: s) rest := by
  have high : isHighUnit (0xD800 + n / 0x400) = true := by
    simp [isHighUnit]
    omega
  have low : isLowUnit (0xDC00 + n % 0x400) = true := by
    simp [isLowUnit]
    omega
  have joined := joinUnits_escapedUnit high (show 0xDC00 + n % 0x400 < 0x10000 by omega) next text
  have spelt : 0x10000 + (0xD800 + n / 0x400 - 0xD800) * 0x400 + (0xDC00 + n % 0x400 - 0xDC00) =
      c.code := by omega
  rw [if_pos low, spelt, CodePoint.ofCode_code] at joined
  have split : ofChars (escapedUnit (0xD800 + n / 0x400) ++ escapedUnit (0xDC00 + n % 0x400)) ++
      next :: text = ofChars (escapedUnit (0xD800 + n / 0x400)) ++
        (ofChars (escapedUnit (0xDC00 + n % 0x400)) ++ next :: text) := by
    simp [ofChars]
  rw [split]
  exact unit (by omega) joined reads

theorem mono {need' : Nat} (reads : ReadsText need text s rest) (le : need ≤ need') :
    ReadsText need' text s rest :=
  fun opening steps enough => reads opening steps (Nat.le_trans le enough)

end ReadsText

/-- The text that is read for a printed one: the same, or one with surrogates joined. -/
def RereadAs (s s' : Text) : Prop :=
  s' = s ∨ s.any CodePoint.isSurrogate = true ∧ ∃ c ∈ s', 0x10000 ≤ c.code

theorem RereadAs.cons {s s' : Text} (same : RereadAs s s') (c : CodePoint) :
    RereadAs (c :: s) (c :: s') := by
  rcases same with rfl | ⟨surrogate, d, member, large⟩
  · exact .inl rfl
  · exact .inr ⟨by simp [surrogate], d, List.mem_cons_of_mem _ member, large⟩

theorem RereadAs.eq_of_plain {s s' : Text} (same : RereadAs s s')
    (plain : s.any CodePoint.isSurrogate = false) : s' = s := by
  rcases same with same | ⟨surrogate, _⟩
  · exact same
  · rw [surrogate] at plain
    cases plain

/-- A small text is read only for itself. -/
theorem RereadAs.eq_of_small {s s' : Text} (same : RereadAs s s')
    (small : ∀ c ∈ s', c.code < 0x10000) : s' = s := by
  rcases same with same | ⟨_, c, member, large⟩
  · exact same
  · have := small c member
    omega

/-- A printed text is read up to its closing quote, a step for each of its code points. -/
theorem readsText_behindQuote (rest : Text) : ∀ s : Text,
    ∃ s', ReadsText (s.length + 1) (behindQuote s rest) s' rest ∧ RereadAs s s'
  | [] => ⟨[], .quote rest, .inl rfl⟩
  | c :: s => by
    obtain ⟨others, reads, same⟩ := readsText_behindQuote rest s
    obtain ⟨next, tail, behind⟩ := behindQuote_eq_cons s rest
    rw [behindQuote_cons, List.length_cons]
    have escaping := escaping c
    generalize escaped c = chars at escaping ⊢
    cases escaping with
    | letter plain spells => exact ⟨c :: others, reads.letter plain spells, same.cons c⟩
    | itself quote slash printed => exact ⟨_, reads.itself quote slash printed.1, same.cons _⟩
    | units large bound =>
      rw [behind] at reads ⊢
      exact ⟨c :: others, reads.units large bound, same.cons c⟩
    | unit small =>
      rcases joinUnits_behindQuote c.code s rest with
        alone | ⟨joint, d, s', split, surrogate, large, joined⟩
      · rw [CodePoint.ofCode_code, behind] at alone
        rw [behind] at reads ⊢
        exact ⟨c :: others, reads.unit small alone, same.cons c⟩
      · -- Both halves of a pair are taken at once, so the rest to be read starts behind the second.
        have shorter : s.length = s'.length + 1 := by rw [split, List.length_cons]
        obtain ⟨others', reads', _⟩ := readsText_behindQuote rest s'
        rw [behind] at joined ⊢
        have enough : s'.length + 1 + 1 ≤ s.length + 1 + 1 := by omega
        have reads := (reads'.unit small joined).mono enough
        refine ⟨joint :: others', reads, .inr ⟨?_, joint, ?_, large⟩⟩
        · simp [split, surrogate]
        · exact List.mem_cons_self
termination_by s => s.length

end PackOpening.Json
