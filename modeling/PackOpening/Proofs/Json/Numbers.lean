import PackOpening.Json.Printer
import PackOpening.Json.Reader

/-!
Numbers are read back.

A number is a whole part, perhaps digits behind a point, and perhaps a power of ten. The text of an
integer is a whole part alone and gives the integer again; every finite floating-point number is
laid out with a point or a power, and is read as a floating-point number. What follows a value in
data, if anything does, is a comma or a closing bracket or brace, so a number ends where its own
text does.
-/
namespace PackOpening.Json

open PackOpening.Numeric PackOpening.Text

/-- What can follow a value. -/
inductive Ends : Text → Prop where
  | text : Ends []
  | item (rest : Text) : Ends (.char ',' :: rest)
  | list (rest : Text) : Ends (.char ']' :: rest)
  | record (rest : Text) : Ends (.char '\x7d' :: rest)

def IsDigits (digits : List Char) : Prop := ∀ c ∈ digits, c.isDigit = true

/-- The whole part of a number: a lone zero, or digits that do not start with one. -/
inductive IsWhole : List Char → Prop where
  | zero : IsWhole ['0']
  | digits {first : Char} {others : List Char} (nonzero : first ≠ '0')
    (digits : IsDigits (first :: others)) : IsWhole (first :: others)

/-- A run of digits, at least one. -/
structure IsRun (digits : List Char) : Prop where
  nonempty : digits ≠ []
  digits : IsDigits digits

/-- The text of a number without its sign, that is not the text of an integer: with digits behind a
point, with a power of ten, or with both. -/
inductive IsReal : List Char → Prop where
  | point {whole digits : List Char} (start : IsWhole whole) (run : IsRun digits) :
    IsReal (whole ++ '.' :: digits)
  | power {whole size : List Char} {sign : Char} (start : IsWhole whole)
    (signed : sign = '-' ∨ sign = '+') (run : IsRun size) :
    IsReal (whole ++ 'e' :: sign :: size)
  | both {whole digits size : List Char} {sign : Char} (start : IsWhole whole)
    (behind : IsRun digits) (signed : sign = '-' ∨ sign = '+') (run : IsRun size) :
    IsReal (whole ++ '.' :: (digits ++ 'e' :: sign :: size))

/-- A text that does not go on with a digit. -/
def NoDigit (rest : Text) : Prop := ∀ c ∈ rest.head?, CodePoint.isAsciiDigit c = false

theorem noDigit_cons {c : Char} (other : c.isDigit = false) (rest : Text) :
    NoDigit (.char c :: rest) := by
  intro d there
  obtain rfl := Option.some.inj there
  exact other

section Reading

variable {digits whole size rest : List Char} {tail : Text}

theorem digitRun_append (run : IsDigits digits) (stops : NoDigit tail) :
    digitRun (ofChars digits ++ tail) = (ofChars digits, tail) := by
  have all : ∀ c ∈ ofChars digits, CodePoint.isAsciiDigit c = true := by
    intro c member
    obtain ⟨digit, there, rfl⟩ := List.mem_map.1 member
    exact run digit there
  have none : tail.takeWhile CodePoint.isAsciiDigit = [] ∧
      tail.dropWhile CodePoint.isAsciiDigit = tail := by
    cases tail with
    | nil => exact ⟨rfl, rfl⟩
    | cons c tail =>
      have other : CodePoint.isAsciiDigit c = false := stops c rfl
      simp [other]
  rw [digitRun, List.takeWhile_append_of_pos all, List.dropWhile_append_of_pos all, none.1, none.2,
    List.append_nil]

theorem wholePart?_append (start : IsWhole whole) (stops : NoDigit tail) :
    wholePart? (ofChars whole ++ tail) = some (ofChars whole, tail) := by
  cases start with
  | zero => rfl
  | @digits first others nonzero digits =>
    have run := digitRun_append digits stops
    have shape : ofChars (first :: others) ++ tail = .char first :: (ofChars others ++ tail) := rfl
    rw [shape] at run ⊢
    rw [wholePart?, run]
    · simp [ofChars]
    · simpa using nonzero

theorem fraction?_append (run : IsRun digits) (stops : NoDigit tail) :
    fraction? (.char '.' :: (ofChars digits ++ tail)) = some (ofChars digits, tail) := by
  have nonempty : ofChars digits ≠ [] := by simpa [ofChars] using run.nonempty
  simp [fraction?, digitRun_append run.digits stops, nonempty]

theorem exponent?_append {sign : Char} (signed : sign = '-' ∨ sign = '+') (run : IsRun size)
    (stops : NoDigit tail) :
    ∃ power, exponent? (.char 'e' :: .char sign :: (ofChars size ++ tail)) =
      some (power, tail) := by
  have nonempty : ofChars size ≠ [] := by simpa [ofChars] using run.nonempty
  rcases signed with rfl | rfl
  · exact ⟨_, by simp [exponent?, digitRun_append run.digits stops, nonempty]; rfl⟩
  · exact ⟨_, by simp [exponent?, digitRun_append run.digits stops, nonempty]; rfl⟩

theorem Ends.noDigit (ends : Ends tail) : NoDigit tail := by
  cases ends with
  | text => intro c there; cases there
  | item | list | record => exact noDigit_cons (by decide) _

theorem Ends.fraction?_eq_none (ends : Ends tail) : fraction? tail = none := by
  cases ends <;> rfl

theorem Ends.exponent?_eq_none (ends : Ends tail) : exponent? tail = none := by
  cases ends with
  | text => rfl
  | item | list | record => rfl

/-- The text of an integer without its sign is read unless it is too long. -/
theorem readNumber?_whole (negative : Bool) (start : IsWhole whole) (ends : Ends tail) :
    readNumber? negative (ofChars whole ++ tail) =
      some (if digitLimit < whole.length then .error (.tooManyDigits whole.length)
        else .ok (.int (if negative then -(ofAsciiDigits (ofChars whole) : Int)
          else ofAsciiDigits (ofChars whole))), tail) := by
  have length : (ofChars whole).length = whole.length := by simp [ofChars]
  simp only [readNumber?, wholePart?_append start ends.noDigit, ends.fraction?_eq_none,
    ends.exponent?_eq_none, length]

/-- The text of any other number without its sign. -/
theorem readNumber?_real (negative : Bool) {text : List Char} (real : IsReal text)
    (ends : Ends tail) :
    ∃ x, readNumber? negative (ofChars text ++ tail) = some (.ok (.float x), tail) := by
  cases real with
  | @point whole digits start run =>
    have before := wholePart?_append start (noDigit_cons (c := '.') rfl (ofChars digits ++ tail))
    have behind := fraction?_append run ends.noDigit
    have shape : ofChars (whole ++ '.' :: digits) ++ tail =
        ofChars whole ++ .char '.' :: (ofChars digits ++ tail) := by simp [ofChars]
    rw [shape]
    exact ⟨_, by simp only [readNumber?, before, behind, ends.exponent?_eq_none]; rfl⟩
  | @power whole size sign start signed run =>
    let powerText : Text := .char 'e' :: .char sign :: (ofChars size ++ tail)
    have boundary : NoDigit powerText := noDigit_cons (c := 'e') rfl _
    have before := wholePart?_append start boundary
    have pointless : fraction? powerText = none := rfl
    obtain ⟨power, behind⟩ := exponent?_append signed run ends.noDigit
    have shape : ofChars (whole ++ 'e' :: sign :: size) ++ tail = ofChars whole ++ powerText := by
      simp [ofChars, powerText]
    rw [shape]
    exact ⟨_, by simp only [readNumber?, before, pointless, powerText, behind]; rfl⟩
  | @both whole digits size sign start behindPoint signed run =>
    let powerText : Text := .char 'e' :: .char sign :: (ofChars size ++ tail)
    have boundary : NoDigit powerText := noDigit_cons (c := 'e') rfl _
    have before := wholePart?_append start
      (noDigit_cons (c := '.') rfl (ofChars digits ++ powerText))
    have point := fraction?_append behindPoint boundary
    obtain ⟨power, behind⟩ := exponent?_append signed run ends.noDigit
    have shape : ofChars (whole ++ '.' :: (digits ++ 'e' :: sign :: size)) ++ tail =
        ofChars whole ++ .char '.' :: (ofChars digits ++ powerText) := by
      simp [ofChars, powerText]
    rw [shape]
    exact ⟨_, by simp only [readNumber?, before, point, powerText, behind]; rfl⟩

end Reading

section Digits

theorem isDigits_digitsOf (n : Nat) : IsDigits (digitsOf n) := fun _ =>
  Nat.isDigit_of_mem_toDigits (by decide) (by decide)

theorem isRun_digitsOf (n : Nat) : IsRun (digitsOf n) :=
  ⟨List.ne_nil_of_length_pos Nat.length_toDigits_pos, isDigits_digitsOf n⟩

/-- The digits of a positive number do not start with a zero. -/
theorem head?_digitsOf : ∀ {n : Nat}, 0 < n → ∀ c ∈ (digitsOf n).head?, c ≠ '0'
  | n, positive => by
    rw [digitsOf, Nat.toDigits_eq_if (by decide)]
    split
    · next small =>
      have nonzero : ∀ m < 10, 0 < m → Nat.digitChar m ≠ '0' := by decide
      intro c there
      obtain rfl := Option.some.inj there
      exact nonzero n small positive
    · next large =>
      have before := head?_digitsOf (n := n / 10) (by omega)
      obtain ⟨first, others, start⟩ := List.exists_cons_of_ne_nil (isRun_digitsOf (n / 10)).nonempty
      rw [start] at before
      rw [digitsOf] at start
      rw [start]
      exact before
termination_by n => n

theorem isWhole_digitsOf (n : Nat) : IsWhole (digitsOf n) := by
  rcases Nat.eq_zero_or_pos n with rfl | positive
  · exact .zero
  · have head := head?_digitsOf positive
    have run := isRun_digitsOf n
    cases digits : digitsOf n with
    | nil => exact absurd digits run.nonempty
    | cons first others =>
      rw [digits] at head run
      exact .digits (head first rfl) run.digits

theorem ofAsciiDigits_digitsOf (n : Nat) : ofAsciiDigits (ofChars (digitsOf n)) = n := by
  have read := Nat.ofDigitChars_toDigits (b := 10) (n := n) (by decide) (by decide)
  rw [Nat.ofDigitChars] at read
  rw [ofAsciiDigits, ofDigitValues, ofChars, List.map_map, List.foldl_map]
  exact read

/-- Digits without their final zeros still start with the first digit, if that is not zero. -/
theorem dropFinalZeros_cons {first : Char} (nonzero : first ≠ '0') (others : List Char) :
    dropFinalZeros (first :: others) = first :: dropFinalZeros others := by
  have kept : (first == '0') = false := by simpa using nonzero
  rw [dropFinalZeros, List.reverse_cons, List.dropWhile_append]
  split
  · next empty =>
    rw [List.isEmpty_iff] at empty
    simp [dropFinalZeros, empty, kept]
  · simp [dropFinalZeros]

theorem isDigits_dropFinalZeros {digits : List Char} (run : IsDigits digits) :
    IsDigits (dropFinalZeros digits) := by
  intro c member
  have inside := List.mem_reverse.1 member
  exact run c (List.mem_reverse.1 ((List.dropWhile_sublist _).subset inside))

end Digits

section Layout

theorem isDigits_zeros (count : Nat) : IsDigits (List.replicate count '0') := by
  intro c member
  rw [List.eq_of_mem_replicate member]
  rfl

/-- Digits that do not start with a zero are laid out with a point or a power. -/
theorem isReal_digits {first : Char} {others : List Char} (nonzero : first ≠ '0')
    (digits : IsDigits (first :: others)) (leading : Int) :
    IsReal (dataLayout.digits (first :: others) leading) := by
  have isDigit := List.forall_mem_cons.1 digits
  unfold FloatLayout.digits
  split
  · split
    · have behind : IsRun (List.replicate (-leading - 1).toNat '0' ++ first :: others) :=
        ⟨by simp, List.forall_mem_append.2 ⟨isDigits_zeros _, digits⟩⟩
      exact .point .zero behind
    · let whole := leading.toNat + 1
      let tail := (first :: others).drop whole
      have before : IsWhole ((first :: others).take whole ++
          List.replicate (whole - (first :: others).length) '0') := by
        have taken : IsDigits ((first :: others).take whole) := fun c member =>
          digits c (List.mem_of_mem_take member)
        exact .digits nonzero (List.forall_mem_append.2 ⟨taken, isDigits_zeros _⟩)
      have behind : IsRun (if tail.isEmpty then ['0'] else tail) := by
        split
        · exact ⟨by simp, by intro c member; rw [List.mem_singleton.1 member]; rfl⟩
        · next nonempty =>
          exact ⟨by simpa using nonempty, fun c member => digits c (List.mem_of_mem_drop member)⟩
      exact .point before behind
  · let size := digitsOf leading.natAbs
    let sign : Char := if leading < 0 then '-' else '+'
    have before : IsWhole [first] := .digits nonzero (by simpa [IsDigits] using isDigit.1)
    have signed : sign = '-' ∨ sign = '+' := by
      by_cases below : leading < 0 <;> simp [sign, below]
    have run : IsRun (List.replicate (2 - size.length) '0' ++ size) :=
      ⟨by simp [size, (isRun_digitsOf _).nonempty],
        List.forall_mem_append.2 ⟨isDigits_zeros _, isDigits_digitsOf _⟩⟩
    cases others with
    | nil => exact .power before signed run
    | cons second others =>
      have behind : IsRun (second :: others) := ⟨by simp, isDigit.2⟩
      exact .both before behind signed run

/-- Of two neighbours the lower is only taken where it is positive. -/
theorem choice_pos {lower upper nearer : Bool} {d taken : Nat} (low : lower = true → 0 < d)
    (found : (if lower && upper then some (if nearer then d else d + 1)
      else if lower then some d else if upper then some (d + 1) else none) = some taken) :
    0 < taken := by
  cases lower <;> cases upper <;> cases nearer <;> simp_all <;> omega

theorem onGrid?_pos {m : Nat} {q k : Int} {d : Nat} (found : onGrid? m q k = some d) : 0 < d := by
  unfold onGrid? at found
  exact choice_pos (fun lower => of_decide_eq_true (Bool.and_eq_true_iff.1 lower).1) found

theorem coarsest_pos {m : Nat} (positive : 0 < m) (q : Int) :
    ∀ (steps : Nat) (k : Int), 0 < (coarsest m q steps k).digits
  | 0, k => positive
  | steps + 1, k => by
    unfold coarsest
    split
    · next found => exact onGrid?_pos found
    · exact coarsest_pos positive q steps (k - 1)

/-- The text of a floating-point number is a word, or a real perhaps with a sign. -/
inductive IsFloatText : List Char → Prop where
  | nan : IsFloatText "NaN".toList
  | infinity : IsFloatText "Infinity".toList
  | minusInfinity : IsFloatText "-Infinity".toList
  | real {text : List Char} (real : IsReal text) : IsFloatText text
  | minusReal {text : List Char} (real : IsReal text) : IsFloatText ('-' :: text)

theorem isFloatText_write (x : Float) : IsFloatText (dataLayout.write x) := by
  unfold FloatLayout.write
  dsimp only
  split
  · exact .nan
  · next negative _ =>
    cases negative with
    | false => exact .infinity
    | true => exact .minusInfinity
  · next negative m q _ =>
    have real : ∀ {text : List Char}, IsReal text →
        IsFloatText (if negative then '-' :: text else text) := by
      intro text real
      split
      · exact .minusReal real
      · exact .real real
    split
    · exact real (.point .zero ⟨by simp, isDigits_zeros 1⟩)
    · next nonzero =>
      have positive := coarsest_pos (Nat.pos_of_ne_zero nonzero) q 24
        (((m.log2 : Int) + q + 1) * 30103 / 100000 + 2)
      rw [← shortest] at positive
      have head := head?_digitsOf positive
      have digits := isDigits_digitsOf (shortest m q).digits
      obtain ⟨first, others, start⟩ :=
        List.exists_cons_of_ne_nil (isRun_digitsOf (shortest m q).digits).nonempty
      rw [start] at head digits ⊢
      have kept := dropFinalZeros_cons (head first rfl) others
      have run := isDigits_dropFinalZeros digits
      rw [kept] at run ⊢
      exact real (isReal_digits (head first rfl) run _)

end Layout

section Atoms

theorem findWord_eq_none {c : Char} (digit : c.isDigit = true) (rest : Text) :
    words.findSome? (fun (word, value) => (dropWord? word (.char c :: rest)).map ((value, ·))) =
      none := by
  have other (d : Char) (plain : d.isDigit = false) : d ≠ c := by
    rintro rfl
    rw [digit] at plain
    cases plain
  simp [words, dropWord?, Text.ofString, Text.ofChars, other]

theorem findWord_minus {c : Char} (digit : c.isDigit = true) (rest : Text) :
    words.findSome? (fun (word, value) =>
      (dropWord? word (.char '-' :: .char c :: rest)).map ((value, ·))) = none := by
  have other (d : Char) (plain : d.isDigit = false) : d ≠ c := by
    rintro rfl
    rw [digit] at plain
    cases plain
  simp [words, dropWord?, Text.ofString, Text.ofChars, other]

theorem IsWhole.starts {whole : List Char} (start : IsWhole whole) :
    ∃ c others, whole = c :: others ∧ c.isDigit = true := by
  cases start with
  | zero => exact ⟨_, _, rfl, rfl⟩
  | @digits first others _ digits => exact ⟨first, others, rfl, digits _ List.mem_cons_self⟩

theorem IsReal.starts {text : List Char} (real : IsReal text) :
    ∃ c others, text = c :: others ∧ c.isDigit = true := by
  cases real with
  | point start | power start | both start =>
    obtain ⟨c, others, rfl, digit⟩ := start.starts
    exact ⟨c, _, rfl, digit⟩

/-- The first character of a printed number: a digit, a sign or the capital of a word. -/
def StartsNumber (c : Char) : Prop := c.isDigit = true ∨ c ∈ ['-', 'N', 'I']

theorem StartsNumber.ne {c d : Char} (starts : StartsNumber c) (plain : d.isDigit = false)
    (other : d ∉ ['-', 'N', 'I']) : c ≠ d := by
  rintro rfl
  rcases starts with digit | member
  · rw [digit] at plain
    cases plain
  · exact other member

theorem intDigits_starts (n : Int) : ∃ c others, intDigits n = c :: others ∧ StartsNumber c := by
  unfold intDigits
  split
  · exact ⟨'-', _, rfl, .inr (by decide)⟩
  · obtain ⟨c, others, start, digit⟩ := (isWhole_digitsOf n.natAbs).starts
    exact ⟨c, others, start, .inl digit⟩

theorem write_starts (x : Float) :
    ∃ c others, dataLayout.write x = c :: others ∧ StartsNumber c := by
  have shape := isFloatText_write x
  generalize dataLayout.write x = text at shape ⊢
  cases shape with
  | nan => exact ⟨'N', _, rfl, .inr (by decide)⟩
  | infinity => exact ⟨'I', _, rfl, .inr (by decide)⟩
  | minusInfinity | minusReal => exact ⟨'-', _, rfl, .inr (by decide)⟩
  | real real =>
    obtain ⟨c, others, rfl, digit⟩ := real.starts
    exact ⟨c, others, rfl, .inl digit⟩

/-- What comes of a number that was read. -/
def numberRead : Except Cause Json × Text → Except Fault (Json × Text)
  | (.ok value, rest) => .ok (value, rest)
  | (.error cause, rest) => stop cause rest

theorem readAtom_plain {c : Char} {text : Text} {number : Except Cause Json × Text}
    (digit : c.isDigit = true) (read : readNumber? false (.char c :: text) = some number) :
    readAtom (.char c :: text) = numberRead number := by
  have signless : c ≠ '-' := by
    rintro rfl
    cases digit
  obtain ⟨value | cause, rest⟩ := number
  all_goals
    unfold readAtom
    rw [findWord_eq_none digit]
    simp [signless, read, numberRead]

theorem readAtom_minus {c : Char} {text : Text} {number : Except Cause Json × Text}
    (digit : c.isDigit = true) (read : readNumber? true (.char c :: text) = some number) :
    readAtom (.char '-' :: .char c :: text) = numberRead number := by
  obtain ⟨value | cause, rest⟩ := number
  all_goals
    unfold readAtom
    rw [findWord_minus digit]
    simp [read, numberRead]

/-- The text of an integer is read as the integer, or refused for its length. -/
theorem readAtom_intDigits (n : Int) {rest : Text} (ends : Ends rest) :
    readAtom (ofChars (intDigits n) ++ rest) =
      if digitLimit < (digitsOf n.natAbs).length then
        stop (.tooManyDigits (digitsOf n.natAbs).length) rest
      else .ok (.int n, rest) := by
  have whole := isWhole_digitsOf n.natAbs
  obtain ⟨c, others, start, digit⟩ := whole.starts
  have read (negative : Bool) := readNumber?_whole negative whole ends
  rw [ofAsciiDigits_digitsOf, start] at read
  rw [start]
  unfold intDigits
  split
  · next negative =>
    have value : -(n.natAbs : Int) = n := by omega
    have minus := readAtom_minus digit (read true)
    rw [if_pos rfl, value] at minus
    rw [start]
    refine minus.trans ?_
    split <;> rfl
  · next positive =>
    have value : (n.natAbs : Int) = n := by omega
    have plain := readAtom_plain digit (read false)
    rw [if_neg Bool.false_ne_true, value] at plain
    rw [start]
    refine plain.trans ?_
    split <;> rfl

theorem readAtom_float (x : Float) {rest : Text} (ends : Ends rest) :
    ∃ y, readAtom (ofChars (dataLayout.write x) ++ rest) = .ok (.float y, rest) := by
  have shape := isFloatText_write x
  generalize dataLayout.write x = text at shape ⊢
  cases shape with
  | nan => exact ⟨_, rfl⟩
  | infinity => exact ⟨_, rfl⟩
  | minusInfinity => exact ⟨_, rfl⟩
  | real real =>
    obtain ⟨y, read⟩ := readNumber?_real false real ends
    obtain ⟨c, others, rfl, digit⟩ := real.starts
    exact ⟨y, readAtom_plain digit read⟩
  | minusReal real =>
    obtain ⟨y, read⟩ := readNumber?_real true real ends
    obtain ⟨c, others, rfl, digit⟩ := real.starts
    exact ⟨y, readAtom_minus digit read⟩

end Atoms

end PackOpening.Json
