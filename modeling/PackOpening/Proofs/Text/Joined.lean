import PackOpening.Proofs.Text.Parts

/-!
Joining and splitting. Parts that do not hold the mark are joined by it and found again between its
occurrences. Parts without blanks at their ends make a text without blanks at its ends, which
trimming leaves alone.
-/
namespace PackOpening.Text

section

variable {α : Type} {mark c : α} {part text : List α}

/-- Whatever is joined comes from the parts or from the separator. -/
theorem mem_of_mem_intercalate {separator : List α} {parts : List (List α)}
    (member : c ∈ List.intercalate separator parts) : c ∈ separator ∨ ∃ part ∈ parts, c ∈ part := by
  induction parts with
  | nil => cases member
  | cons first rest ih =>
    cases rest with
    | nil =>
      rw [List.intercalate_singleton] at member
      exact .inr ⟨first, List.mem_cons_self, member⟩
    | cons second others =>
      rw [List.intercalate_cons_cons] at member
      rcases List.mem_append.1 member with front | onward
      · rcases List.mem_append.1 front with inside | between
        · exact .inr ⟨first, List.mem_cons_self, inside⟩
        · exact .inl between
      · exact (ih onward).imp_right fun ⟨part, there, inside⟩ =>
          ⟨part, List.mem_cons_of_mem _ there, inside⟩

variable [DecidableEq α]

theorem pieces_of_not_mem (absent : mark ∉ part) : pieces mark part = [part] := by
  induction part with
  | nil => rfl
  | cons c rest ih =>
    obtain ⟨distinct, absent⟩ := not_or.1 (mt List.mem_cons.2 absent)
    rw [pieces, if_neg (Ne.symm distinct), ih absent]

theorem pieces_append_mark (absent : mark ∉ part) (rest : List α) :
    pieces mark (part ++ mark :: rest) = part :: pieces mark rest := by
  induction part with
  | nil => rw [List.nil_append, pieces, if_pos rfl]
  | cons c others ih =>
    obtain ⟨distinct, absent⟩ := not_or.1 (mt List.mem_cons.2 absent)
    rw [List.cons_append, pieces, if_neg (Ne.symm distinct), ih absent]

/-- Splitting undoes joining. -/
theorem pieces_intercalate {parts : List (List α)} (present : parts ≠ [])
    (absent : ∀ part ∈ parts, mark ∉ part) :
    pieces mark (List.intercalate [mark] parts) = parts := by
  induction parts with
  | nil => exact absurd rfl present
  | cons first rest ih =>
    have clear := absent first List.mem_cons_self
    cases rest with
    | nil => rw [List.intercalate_singleton, pieces_of_not_mem clear]
    | cons second others =>
      have onward := ih (List.cons_ne_nil _ _)
        fun part there => absent part (List.mem_cons_of_mem _ there)
      rw [List.intercalate_cons_cons, List.append_assoc, List.singleton_append,
        pieces_append_mark clear, onward]

/-- A piece holds nothing but what the text holds, and no mark. -/
theorem of_mem_pieces (member : part ∈ pieces mark text) (inside : c ∈ part) :
    c ∈ text ∧ c ≠ mark := by
  induction text generalizing part with
  | nil =>
    rw [List.mem_singleton.1 member] at inside
    cases inside
  | cons first rest ih =>
    unfold pieces at member
    split at member
    · rcases List.mem_cons.1 member with rfl | onward
      · cases inside
      · obtain ⟨there, other⟩ := ih onward inside
        exact ⟨List.mem_cons_of_mem _ there, other⟩
    next distinct =>
    split at member
    · next none => exact absurd none (pieces_ne_nil mark rest)
    · next piece others found =>
      rw [found] at ih
      rcases List.mem_cons.1 member with rfl | onward
      · rcases List.mem_cons.1 inside with rfl | inside
        · exact ⟨List.mem_cons_self, distinct⟩
        · obtain ⟨there, other⟩ := ih List.mem_cons_self inside
          exact ⟨List.mem_cons_of_mem _ there, other⟩
      · obtain ⟨there, other⟩ := ih (List.mem_cons_of_mem _ onward) inside
        exact ⟨List.mem_cons_of_mem _ there, other⟩

/-- Where two texts meet, the last piece of the one and the first of the other are one piece. -/
theorem pieces_append {front back : List α} {before others : List (List α)} {last first : List α}
    (ends : pieces mark front = before ++ [last]) (begins : pieces mark back = first :: others) :
    pieces mark (front ++ back) = before ++ (last ++ first) :: others := by
  induction front generalizing before last with
  | nil =>
    cases before with
    | nil =>
      cases ends
      exact begins
    | cons piece before => simp [pieces] at ends
  | cons c rest ih =>
    rw [List.cons_append, pieces]
    rw [pieces] at ends
    split
    · next here =>
      rw [if_pos here] at ends
      cases before with
      | nil => exact absurd (List.cons.inj ends).2 (pieces_ne_nil mark rest)
      | cons piece before =>
        obtain ⟨rfl, onward⟩ := List.cons.inj ends
        rw [ih onward]
        rfl
    · next other =>
      rw [if_neg other] at ends
      split at ends
      · next none => exact absurd none (pieces_ne_nil mark rest)
      · next piece pieces found =>
        cases before with
        | nil =>
          obtain ⟨rfl, rfl⟩ := List.cons.inj ends
          rw [@ih [] _ found]
          rfl
        | cons piece' before =>
          obtain ⟨rfl, rfl⟩ := List.cons.inj ends
          rw [@ih (piece :: before) _ found]
          rfl

theorem pieces_append_mark_append (front back : List α) :
    pieces mark (front ++ mark :: back) = pieces mark front ++ pieces mark back := by
  have ends := (List.dropLast_concat_getLast (pieces_ne_nil mark front)).symm
  have begins : pieces mark (mark :: back) = [] :: pieces mark back := by rw [pieces, if_pos rfl]
  rw [pieces_append ends begins, List.append_nil, List.append_cons, ← ends]

/-- A text that is one piece holds no mark. -/
theorem eq_of_pieces_eq_singleton (alone : pieces mark text = [part]) : text = part := by
  by_cases there : mark ∈ text
  · obtain ⟨front, back, rfl⟩ := List.append_of_mem there
    have counted := congrArg List.length alone
    rw [pieces_append_mark_append, List.length_append, List.length_singleton] at counted
    have first := List.length_pos_iff.2 (pieces_ne_nil mark front)
    have second := List.length_pos_iff.2 (pieces_ne_nil mark back)
    omega
  · rw [pieces_of_not_mem there] at alone
    exact (List.cons.inj alone).1

/-- What is ignored at the front of every piece is ignored at the front of a text. -/
theorem map_pieces_append_front {β : Type} {read : List α → β} (absent : mark ∉ part)
    (ignored : ∀ piece, read (part ++ piece) = read piece) (text : List α) :
    (pieces mark (part ++ text)).map read = (pieces mark text).map read := by
  obtain ⟨first, others, begins⟩ := List.exists_cons_of_ne_nil (pieces_ne_nil mark text)
  have joined : pieces mark (part ++ text) = [] ++ (part ++ first) :: others :=
    pieces_append (pieces_of_not_mem absent) begins
  rw [joined, begins]
  simp [ignored]

theorem map_pieces_append_behind {β : Type} {read : List α → β} (absent : mark ∉ part)
    (ignored : ∀ piece, read (piece ++ part) = read piece) (text : List α) :
    (pieces mark (text ++ part)).map read = (pieces mark text).map read := by
  have ends := (List.dropLast_concat_getLast (pieces_ne_nil mark text)).symm
  rw [pieces_append ends (pieces_of_not_mem absent)]
  conv => rhs; rw [ends]
  simp [ignored]

theorem pieces_map {f : α → α} (same : ∀ c, f c = mark ↔ c = mark) (text : List α) :
    pieces mark (text.map f) = (pieces mark text).map (List.map f) := by
  induction text with
  | nil => rfl
  | cons c rest ih =>
    rw [List.map_cons, pieces, pieces, ih]
    by_cases here : c = mark
    · rw [if_pos here, if_pos ((same c).2 here)]
      rfl
    · rw [if_neg here, if_neg (mt (same c).1 here)]
      cases pieces mark rest <;> rfl

end

/-- A text with something in it and no blank at either end. -/
structure IsTight (text : Text) : Prop where
  present : text ≠ []
  first : ∀ c, text.head? = some c → isBlank c = false
  last : ∀ c, text.getLast? = some c → isBlank c = false

variable {text front back : Text}

theorem IsTight.trim_eq (tight : IsTight text) : trim text = text :=
  trimWhile_eq_self tight.first tight.last

theorem isTight_of_trim_eq (present : text ≠ []) (same : trim text = text) : IsTight text := by
  refine ⟨present, fun c first => ?_, fun c last => ?_⟩
  · rw [← same] at first
    exact not_drop_of_head?_trimWhile first
  · rw [← same] at last
    exact not_drop_of_getLast?_trimWhile last

theorem isTight_of_forall (present : text ≠ []) (visible : ∀ c ∈ text, isBlank c = false) :
    IsTight text :=
  ⟨present, fun c first => visible c (List.mem_of_head? first),
    fun c last => visible c (List.mem_of_getLast? last)⟩

/-- Only the ends matter. -/
theorem IsTight.append (tight : IsTight front) (middle : Text) (tight' : IsTight back) :
    IsTight (front ++ middle ++ back) := by
  refine ⟨by simp [tight.present], fun c first => tight.first c ?_, fun c last => tight'.last c ?_⟩
  · rwa [List.append_assoc, List.head?_append, Option.or_of_isSome (by simp [tight.present])]
      at first
  · rwa [List.getLast?_append, Option.or_of_isSome (by simp [tight'.present])] at last

theorem isTight_intercalate (separator : Text) {parts : List Text} (present : parts ≠ [])
    (tight : ∀ part ∈ parts, IsTight part) : IsTight (List.intercalate separator parts) := by
  induction parts with
  | nil => exact absurd rfl present
  | cons first rest ih =>
    have start := tight first List.mem_cons_self
    cases rest with
    | nil => rwa [List.intercalate_singleton]
    | cons second others =>
      rw [List.intercalate_cons_cons]
      exact start.append separator (ih (List.cons_ne_nil _ _)
        fun part there => tight part (List.mem_cons_of_mem _ there))

end PackOpening.Text
