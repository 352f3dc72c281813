import PackOpening.Proofs.Definition.Grammar

/-!
Definitions against the grammar: the slots of a definition are those that its good pieces spell, and
a definition has no fault exactly when it has a piece that is not blank and all such pieces are
good.

Every piece is settled on its own first: it gives the slot that it spells, it is blank, or it is at
fault.
-/
namespace PackOpening.Definition

open PackOpening.Text

/-- The text between a brace at the beginning and a brace at the end, either of which may be
missing. -/
def unwrapped (text : Text) : Text :=
  let text := trim text
  let text := if text.head? = some (.char '\x7b') then text.tail else text
  let text := if text.getLast? = some (.char '\x7d') then text.dropLast else text
  trim text

/-- The pieces of a definition between its semicolons. -/
def piecesOf (text : Text) : List Text := pieces (.char ';') (unwrapped text)

theorem dropOpening_eq (text : Text) :
    dropOpening text = if text.head? = some (.char '\x7b') then text.tail else text := by
  cases text with
  | nil => rfl
  | cons c rest =>
    by_cases brace : c = .char '\x7b'
    · subst brace
      rfl
    · rw [if_neg (by simpa using brace)]
      unfold dropOpening
      split
      · next same => exact absurd (List.cons.inj same).1 brace
      · rfl

theorem body_eq_unwrapped (text : Text) : body text = unwrapped text := by
  rw [body, dropOpening_eq, dropClosing]
  rfl

/-- What is spelled is not blank. -/
theorem trim_ne_nil_of_isGood {piece : Text} (good : IsGood piece) : trim piece ≠ [] := by
  intro blank
  obtain ⟨count, _, ⟨paired, _⟩, _⟩ := good
  have single : (tokens (trim piece)).length = 1 := by
    rw [blank]
    rfl
  omega

/-- What a piece comes to: nothing if it is blank, the slot that it spells if it is good, and else a
fault. -/
theorem outcome_cases (piece : Text) :
    (trim piece = [] ∧ outcome piece = .blank) ∨
    (∃ slot, Spells piece slot ∧ outcome piece = .slot slot) ∨
    (trim piece ≠ [] ∧ ¬ IsGood piece ∧ ∃ fault, outcome piece = .fault fault) := by
  by_cases blank : trim piece = []
  · exact Or.inl ⟨blank, by simp [outcome, blank]⟩
  · refine Or.inr ?_
    cases read : readSlot (trim piece) with
    | ok slot =>
      exact Or.inl ⟨slot, readSlot_iff_spells.1 read, by simp [outcome, blank, read]⟩
    | error fault =>
      refine Or.inr ⟨blank, ?_, fault, by simp [outcome, blank, read]⟩
      intro good
      obtain ⟨slot, spelled⟩ := (isGood_iff_spells piece).1 good
      rw [readSlot_iff_spells.2 spelled] at read
      cases read

/-- The slots among the outcomes of pieces are those that the good ones spell, in their order. -/
theorem forall₂_spells (ps : List Text) :
    List.Forall₂ Spells (ps.filter fun piece => IsGood piece)
      ((ps.map outcome).filterMap Outcome.slot?) := by
  induction ps with
  | nil => exact .nil
  | cons piece rest ih =>
    rw [List.map_cons]
    rcases outcome_cases piece with ⟨blank, made⟩ | ⟨slot, spelled, made⟩ | ⟨_, bad, _, made⟩
    · have bad : ¬ IsGood piece := fun good => trim_ne_nil_of_isGood good blank
      rw [List.filter_cons_of_neg (by simpa using bad), made]
      exact ih
    · rw [List.filter_cons_of_pos (by simpa using spelled.1), made]
      exact .cons spelled ih
    · rw [List.filter_cons_of_neg (by simpa using bad), made]
      exact ih

theorem slot?_eq_some_iff {piece : Text} {slot : Slot} :
    (outcome piece).slot? = some slot ↔ Spells piece slot := by
  rcases outcome_cases piece with ⟨blank, made⟩ | ⟨own, spelled, made⟩ | ⟨_, bad, _, made⟩
  · have nothing : ¬ Spells piece slot := fun spells => trim_ne_nil_of_isGood spells.1 blank
    simp [made, Outcome.slot?, nothing]
  · rw [made, Outcome.slot?, Option.some.injEq]
    constructor
    · rintro rfl
      exact spelled
    · exact spells_unique spelled
  · have nothing : ¬ Spells piece slot := fun spells => bad spells.1
    simp [made, Outcome.slot?, nothing]

/-- A piece is at no fault if it is blank or good. -/
theorem fault?_eq_none_iff (piece : Text) :
    (outcome piece).fault? = none ↔ (trim piece ≠ [] → IsGood piece) := by
  rcases outcome_cases piece with ⟨blank, made⟩ | ⟨slot, spelled, made⟩ | ⟨present, bad, _, made⟩
  · simp [made, Outcome.fault?, blank]
  · simp [made, Outcome.fault?, spelled.1]
  · simp [made, Outcome.fault?, present, bad]

theorem faultsFrom_eq_nil_iff (number : Nat) (outcomes : List Outcome) :
    faultsFrom number outcomes = [] ↔ ∀ o ∈ outcomes, o.fault? = none := by
  induction outcomes generalizing number with
  | nil => simp [faultsFrom]
  | cons o rest ih =>
    cases o with
    | fault f => simp [faultsFrom, Outcome.fault?]
    | blank => simp [faultsFrom, Outcome.fault?, ih]
    | slot s => simp [faultsFrom, Outcome.fault?, ih]

/-- Outcomes are without fault together when none is a fault and one of them is a slot. -/
theorem faults_ofOutcomes_eq_nil_iff (outcomes : List Outcome) :
    (ofOutcomes outcomes).faults = [] ↔
      outcomes.filterMap Outcome.slot? ≠ [] ∧ ∀ o ∈ outcomes, o.fault? = none := by
  rw [← faultsFrom_eq_nil_iff 1]
  cases slots : outcomes.filterMap Outcome.slot? with
  | nil =>
    cases faults : faultsFrom 1 outcomes with
    | nil => simp [ofOutcomes, slots, faults]
    | cons fault others => simp [ofOutcomes, slots, faults]
  | cons slot others => simp [ofOutcomes, slots]

theorem compile_eq (text : Text) :
    compile text = if unwrapped text = [] then ⟨[], [.empty]⟩
      else ofOutcomes ((piecesOf text).map outcome) := by
  simp [compile, piecesOf, body_eq_unwrapped]

/-- Where there is nothing between the braces, there is one piece and it is blank. -/
theorem piecesOf_eq_of_empty {text : Text} (empty : unwrapped text = []) :
    piecesOf text = [[]] := by
  rw [piecesOf, empty]
  rfl

theorem slots_compile (text : Text) :
    (compile text).slots = ((piecesOf text).map outcome).filterMap Outcome.slot? := by
  rw [compile_eq]
  split
  · next empty =>
    rw [piecesOf_eq_of_empty empty]
    rfl
  · rfl

/-- A compiled slot is spelled by a piece of its definition. -/
theorem exists_spells_of_mem_compile {text : Text} {slot : Slot}
    (compiled : slot ∈ (compile text).slots) : ∃ piece ∈ piecesOf text, Spells piece slot := by
  rw [slots_compile, List.mem_filterMap] at compiled
  obtain ⟨o, member, given⟩ := compiled
  obtain ⟨piece, there, rfl⟩ := List.mem_map.1 member
  exact ⟨piece, there, slot?_eq_some_iff.1 given⟩

theorem sharesHundred_of_mem_compile {text : Text} {slot : Slot}
    (compiled : slot ∈ (compile text).slots) : SharesHundred slot := by
  obtain ⟨_, _, spelled⟩ := exists_spells_of_mem_compile compiled
  exact spelled.sharesHundred

/-- A definition has no error when one piece is not blank and all such pieces are good. -/
theorem errors_compile_eq_nil_iff (text : Text) :
    (compile text).errors = [] ↔ (∃ piece ∈ piecesOf text, trim piece ≠ []) ∧
      ∀ piece ∈ piecesOf text, trim piece ≠ [] → IsGood piece := by
  rw [errors, List.map_eq_nil_iff, compile_eq]
  split
  · next empty =>
    rw [piecesOf_eq_of_empty empty]
    simp [trim, trimWhile]
  · have faultless : (∀ o ∈ (piecesOf text).map outcome, o.fault? = none) ↔
        ∀ piece ∈ piecesOf text, trim piece ≠ [] → IsGood piece := by
      simp only [List.forall_mem_map, fault?_eq_none_iff]
    have given : ((piecesOf text).map outcome).filterMap Outcome.slot? ≠ [] ↔
        ∃ piece ∈ piecesOf text, IsGood piece := by
      simp [List.filterMap_eq_nil_iff, Option.eq_none_iff_forall_ne_some, slot?_eq_some_iff,
        isGood_iff_spells]
    rw [faults_ofOutcomes_eq_nil_iff, faultless, given]
    constructor
    · rintro ⟨⟨piece, member, good⟩, all⟩
      exact ⟨⟨piece, member, trim_ne_nil_of_isGood good⟩, all⟩
    · rintro ⟨⟨piece, member, present⟩, all⟩
      exact ⟨⟨piece, member, all piece member present⟩, all⟩

/-- A definition gives exactly the slots that its good pieces spell, in their order. A piece is good
when it spells a slot, which is then the only one, and its entries share a hundred. There is no
error exactly when a piece is not blank and all that are not blank are good. -/
theorem compile_accepts_exactly_grammar (text : Text) :
    (∀ piece, IsGood piece ↔ ∃! slot, Spells piece slot) ∧
    List.Forall₂ Spells ((piecesOf text).filter fun piece => IsGood piece)
      (compile text).slots ∧
    ((compile text).errors = [] ↔ (∃ piece ∈ piecesOf text, trim piece ≠ []) ∧
      ∀ piece ∈ piecesOf text, trim piece ≠ [] → IsGood piece) ∧
    ∀ slot ∈ (compile text).slots, SharesHundred slot := by
  have spelled := forall₂_spells (piecesOf text)
  rw [← slots_compile] at spelled
  refine ⟨fun piece => ?_, spelled, errors_compile_eq_nil_iff text, fun slot member => ?_⟩
  · rw [isGood_iff_spells]
    constructor
    · rintro ⟨slot, spells⟩
      exact ⟨slot, spells, fun _ spells' => spells_unique spells' spells⟩
    · rintro ⟨slot, spells, _⟩
      exact ⟨slot, spells⟩
  · rw [slots_compile, List.mem_filterMap] at member
    obtain ⟨o, member, given⟩ := member
    obtain ⟨piece, _, rfl⟩ := List.mem_map.1 member
    exact (slot?_eq_some_iff.1 given).sharesHundred

/-- Blanks, capitals, leading zeros and an empty piece are no obstacle. -/
theorem compile_accepts_exactly_grammar_spaced :
    let text : Text := "\x7b NEO : R , 75,m,025 ; ; u,100\x7d"
    let slot : Slot := ⟨[⟨.rare, 75, some "neo"⟩, ⟨.mythic, 25, none⟩]⟩
    slot ∈ (compile text).slots ∧ SharesHundred slot ∧ (compile text).errors = [] ∧
      IsGood "NEO : R , 75,m,025 " := by
  intro text slot
  have member : slot ∈ (compile text).slots := by decide +kernel
  have faultless : (compile text).errors = [] := by decide +kernel
  obtain ⟨_, _, accepted, shares⟩ := compile_accepts_exactly_grammar text
  exact ⟨member, shares slot member, faultless,
    (accepted.1 faultless).2 _ (by decide +kernel) (by decide +kernel)⟩

end PackOpening.Definition
