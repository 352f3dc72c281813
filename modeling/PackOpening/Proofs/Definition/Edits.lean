import Mathlib.Logic.Relation
import PackOpening.Proofs.Definition.Spacing

/-!
Edits that leave the meaning of a definition alone.

Blanks may be put where they make no difference and taken away from there, ASCII letters may change
their case, braces may be put around a definition without them, and blank pieces behind its last
one. However many of these edits are made or undone, one after the other, the definition has the
same slots and the same errors.
-/
namespace PackOpening.Definition

open PackOpening.Text

def IsOpened (text : Text) : Prop := (trim text).head? = some (.char '\x7b')

def IsClosed (text : Text) : Prop := (trim text).getLast? = some (.char '\x7d')

instance : DecidablePred IsOpened := fun _ => inferInstanceAs (Decidable (_ = _))

instance : DecidablePred IsClosed := fun _ => inferInstanceAs (Decidable (_ = _))

/-- Blank pieces, each behind a semicolon. -/
def emptyPieces (blanks : List Text) : Text := blanks.flatMap (.char ';' :: ·)

/-- One edit of a definition. -/
inductive Edit : Text → Text → Prop where
  | blanks {before after blanks : Text} (loose : IsLoose before after) (blank : AreBlank blanks) :
    Edit (before ++ after) (before ++ blanks ++ after)
  | letterCase {text text' : Text}
    (same : text.map (·.map Char.toLower) = text'.map (·.map Char.toLower)) : Edit text text'
  | openingBrace {text : Text} (bare : ¬ IsOpened text ∧ ¬ IsClosed text) :
    Edit text (.char '\x7b' :: text)
  | closingBrace {text : Text} (bare : ¬ IsOpened text ∧ ¬ IsClosed text) :
    Edit text (text ++ [CodePoint.char '\x7d'])
  | bothBraces {text : Text} (bare : ¬ IsOpened text ∧ ¬ IsClosed text) :
    Edit text (.char '\x7b' :: (text ++ [CodePoint.char '\x7d']))
  | emptyPieces {text : Text} {blanks : List Text}
    (present : ∃ piece ∈ piecesOf text, trim piece ≠ []) (unclosed : ¬ IsClosed text)
    (blank : ∀ piece ∈ blanks, AreBlank piece) : Edit text (text ++ emptyPieces blanks)
  | emptyPiecesInside {text outer : Text} {blanks : List Text}
    (present : ∃ piece ∈ piecesOf (text ++ .char '\x7d' :: outer), trim piece ≠ [])
    (outside : AreBlank outer) (blank : ∀ piece ∈ blanks, AreBlank piece) :
    Edit (text ++ .char '\x7d' :: outer) (text ++ emptyPieces blanks ++ .char '\x7d' :: outer)

section Edits

variable {text : Text}

theorem inner_map_toLower (text : Text) :
    inner (text.map (·.map Char.toLower)) = (inner text).map (·.map Char.toLower) := by
  have opening := peel_map_toLower (toLower_eq_iff (.char '\x7b') (by decide))
  have closing := peel_map_toLower (toLower_eq_iff (.char '\x7d') (by decide))
  simp only [inner, front, back, opening, ← List.map_reverse, closing]

theorem rowsOf_map_toLower (text : Text) :
    rowsOf (text.map (·.map Char.toLower)) = rowsOf text := by
  have comma := toLower_eq_iff (.char ',') (by decide)
  have semicolon := toLower_eq_iff (.char ';') (by decide)
  have row (piece : Text) : tokens (piece.map (·.map Char.toLower)) = tokens piece := by
    simp only [tokens, pieces_map comma, List.map_map, Function.comp_def, trim_map_toLower,
      lowercase_map_toLower]
  simp only [rowsOf, pieces_map semicolon, List.map_map, Function.comp_def, row]

theorem compile_letterCase {text' : Text}
    (same : text.map (·.map Char.toLower) = text'.map (·.map Char.toLower)) :
    compile text = compile text' := by
  have lowered (text : Text) : compile (text.map (·.map Char.toLower)) = compile text :=
    compile_congr_rows (by rw [inner_map_toLower, rowsOf_map_toLower])
  rw [← lowered text, same, lowered text']

theorem rowsOf_front (unopened : ¬ IsOpened text) : rowsOf (front text) = rowsOf text := by
  rw [IsOpened, trim, head?_trimWhile] at unopened
  obtain ⟨blanks, blank, whole⟩ := exists_peel unopened
  conv => rhs; rw [whole, rowsOf_append_front blank]
  rfl

theorem rowsOf_back (unclosed : ¬ IsClosed text) : rowsOf (back text) = rowsOf text := by
  rw [IsClosed, trim, getLast?_trimWhile] at unclosed
  obtain ⟨blanks, blank, whole⟩ := exists_peel unclosed
  have turned : text = back text ++ blanks.reverse := by
    rw [back, ← List.reverse_append, ← whole, List.reverse_reverse]
  conv => rhs; rw [turned, rowsOf_append_behind (areBlank_reverse blank)]

/-- Without a closing brace, what is left behind an opening one has none either. -/
theorem not_isClosed_front (unclosed : ¬ IsClosed text) : ¬ IsClosed (front text) := by
  obtain ⟨peeled, whole⟩ := peel_isSuffix (.char '\x7b') text
  have reversed : text.reverse = (front text).reverse ++ peeled.reverse := by
    rw [← List.reverse_append, front, whole]
  rw [IsClosed, trim, getLast?_trimWhile, reversed, List.dropWhile_append] at unclosed
  rw [IsClosed, trim, getLast?_trimWhile]
  split at unclosed
  · next none => simp [List.isEmpty_iff.1 none]
  · next present =>
    rwa [List.head?_append, Option.or_of_isSome] at unclosed
    simpa [List.isEmpty_iff] using present

theorem rowsOf_inner (unclosed : ¬ IsClosed text) : rowsOf (inner text) = rowsOf (front text) :=
  rowsOf_back (not_isClosed_front unclosed)

/-- Braces around a text without them are peeled off again. -/
theorem rowsOf_inner_braced (bare : ¬ IsOpened text ∧ ¬ IsClosed text) :
    rowsOf (inner text) = rowsOf text ∧
    rowsOf (inner (.char '\x7b' :: text)) = rowsOf text ∧
    rowsOf (inner (text ++ [CodePoint.char '\x7d'])) = rowsOf text ∧
    rowsOf (inner (.char '\x7b' :: (text ++ [CodePoint.char '\x7d']))) = rowsOf text := by
  have opened (text : Text) : inner (.char '\x7b' :: text) = back text :=
    inner_of_opening areBlank_nil text
  refine ⟨?_, ?_, ?_, ?_⟩
  · rw [rowsOf_inner bare.2, rowsOf_front bare.1]
  · rw [opened, rowsOf_back bare.2]
  · rw [inner_of_closing areBlank_nil, rowsOf_front bare.1]
  · rw [opened, back_of_brace areBlank_nil]

theorem rowsOf_append_emptyPieces {pieces : List Text} (blank : ∀ piece ∈ pieces, AreBlank piece)
    (text : Text) :
    rowsOf (text ++ emptyPieces pieces) = rowsOf text ++ List.replicate pieces.length [[]] := by
  induction pieces generalizing text with
  | nil => simp [emptyPieces]
  | cons piece rest ih =>
    obtain ⟨first, others⟩ := List.forall_mem_cons.1 blank
    have row : rowsOf piece = [[[]]] := rowsOf_append_behind first []
    have regroup : text ++ emptyPieces (piece :: rest) =
        text ++ .char ';' :: piece ++ emptyPieces rest := by simp [emptyPieces]
    rw [regroup, ih others, rowsOf_semicolon, row, List.append_assoc]
    rfl

theorem faultsFrom_append_blanks (number count : Nat) (outcomes : List Outcome) :
    faultsFrom number (outcomes ++ List.replicate count .blank) = faultsFrom number outcomes := by
  induction outcomes generalizing number with
  | nil =>
    refine (faultsFrom_eq_nil_iff number _).2 fun o there => ?_
    rw [List.eq_of_mem_replicate there]
    rfl
  | cons o rest ih => cases o <;> simp [faultsFrom, ih]

/-- Blank pieces behind a piece that is not blank contribute nothing. -/
theorem ofPieces_append_blanks {outcomes : List Outcome} (present : ∃ o ∈ outcomes, o ≠ .blank)
    (count : Nat) : ofPieces (outcomes ++ List.replicate count .blank) = ofPieces outcomes := by
  obtain ⟨o, there, visible⟩ := present
  have some_visible {others : List Outcome} (member : o ∈ others) : others ≠ [.blank] := by
    rintro rfl
    exact visible (List.mem_singleton.1 member)
  rw [ofPieces, if_neg (some_visible (List.mem_append_left _ there)), ofPieces,
    if_neg (some_visible there), ofOutcomes, ofOutcomes, faultsFrom_append_blanks]
  simp [List.filterMap_append, Outcome.slot?]

theorem compile_of_blank_rows {text' : Text} {count : Nat}
    (present : ∃ piece ∈ piecesOf text, trim piece ≠ [])
    (rows : rowsOf (inner text') = rowsOf (inner text) ++ List.replicate count [[]]) :
    compile text' = compile text := by
  obtain ⟨piece, there, visible⟩ := present
  have outcomes : ∃ o ∈ (rowsOf (inner text)).map Outcome.ofRow, o ≠ .blank := by
    rw [← map_outcome_piecesOf]
    refine ⟨outcome piece, List.mem_map_of_mem there, fun blank => ?_⟩
    rcases outcome_cases piece with ⟨none, _⟩ | ⟨_, _, spelled⟩ | ⟨_, _, _, faulty⟩
    · exact visible none
    · rw [blank] at spelled
      cases spelled
    · rw [blank] at faulty
      cases faulty
  have blank : Outcome.ofRow [[]] = .blank := rfl
  rw [compile_eq_ofPieces, compile_eq_ofPieces, rows, List.map_append, List.map_replicate, blank,
    ofPieces_append_blanks outcomes]

theorem brace_not_mem_emptyPieces {pieces : List Text} (blank : ∀ piece ∈ pieces, AreBlank piece) :
    .char '\x7d' ∉ emptyPieces pieces := by
  intro there
  obtain ⟨piece, listed, inside⟩ := List.mem_flatMap.1 there
  rcases List.mem_cons.1 inside with semicolon | behind
  · cases semicolon
  · exact not_mem_of_areBlank (by decide) (blank piece listed) behind

theorem front_append_emptyPieces (text : Text) (pieces : List Text) :
    front (text ++ emptyPieces pieces) = front text ++ emptyPieces pieces := by
  cases pieces with
  | nil => simp [emptyPieces]
  | cons piece rest => exact front_append_cons (by decide) (by decide) text (piece ++ _)

theorem rowsOf_inner_append_emptyPieces {pieces : List Text} (unclosed : ¬ IsClosed text)
    (blank : ∀ piece ∈ pieces, AreBlank piece) :
    rowsOf (inner (text ++ emptyPieces pieces)) =
      rowsOf (inner text) ++ List.replicate pieces.length [[]] := by
  rw [rowsOf_inner unclosed, ← rowsOf_append_emptyPieces blank, inner, front_append_emptyPieces]
  cases pieces with
  | nil =>
    rw [emptyPieces, List.flatMap_nil, List.append_nil]
    exact rowsOf_inner unclosed
  | cons piece rest =>
    obtain ⟨first, others⟩ := List.forall_mem_cons.1 blank
    have brace : .char '\x7d' ∉ piece ++ emptyPieces rest := by
      have bare : .char '\x7d' ∉ piece := not_mem_of_areBlank (by decide) first
      simp [bare, brace_not_mem_emptyPieces others]
    have behind := mt (fun closed => mem_of_mem_trim (List.mem_of_getLast? closed)) brace
    have same : back (front text ++ emptyPieces (piece :: rest)) =
        front text ++ .char ';' :: back (piece ++ emptyPieces rest) :=
      back_append_cons (by decide) (by decide) (front text) (piece ++ emptyPieces rest)
    rw [same]
    exact rowsOf_mark_congr (.inr rfl) rfl (rowsOf_back behind)

/-- One edit leaves a definition what it is. -/
theorem compile_edit {text' : Text} (edit : Edit text text') : compile text' = compile text := by
  cases edit with
  | blanks loose blank => exact compile_blanks loose blank
  | letterCase same => exact compile_letterCase same.symm
  | openingBrace bare =>
    obtain ⟨plain, opened, _, _⟩ := rowsOf_inner_braced bare
    exact compile_congr_rows (opened.trans plain.symm)
  | closingBrace bare =>
    obtain ⟨plain, _, closed, _⟩ := rowsOf_inner_braced bare
    exact compile_congr_rows (closed.trans plain.symm)
  | bothBraces bare =>
    obtain ⟨plain, _, _, both⟩ := rowsOf_inner_braced bare
    exact compile_congr_rows (both.trans plain.symm)
  | emptyPieces present unclosed blank =>
    exact compile_of_blank_rows present (rowsOf_inner_append_emptyPieces unclosed blank)
  | @emptyPiecesInside text outer pieces present outside blank =>
    refine @compile_of_blank_rows _ _ pieces.length present ?_
    rw [inner_of_closing outside, inner_of_closing outside, front_append_emptyPieces,
      rowsOf_append_emptyPieces blank]

/-- A definition keeps its slots and its errors under any number of edits, made or undone. -/
theorem compile_eq_of_edits {text' : Text} (edits : Relation.EqvGen Edit text text') :
    compile text' = compile text := by
  induction edits with
  | rel text text' edit => exact compile_edit edit
  | refl text => rfl
  | symm text text' _ same => exact same.symm
  | trans text middle text' _ _ first second => exact second.trans first

/-- A blank before the colon of the second rarity, braces, a blank piece inside them and other
letters. -/
theorem compile_eq_of_edits_braced :
    let text : Text := "c,50,neo:R,50"
    let text' : Text := "\x7bC,50,NEO :r,50; \x7d"
    Relation.EqvGen Edit text text' ∧ compile text' = compile text := by
  intro text text'
  have place : RarityPlace "c,50," :=
    @RarityPlace.pair [] "c" "50" .start (by decide) (by decide)
  have token : ColonAt "c,50," "neo" "R" ",50" :=
    ⟨place, by decide, by decide, by decide, by simp [IsMark, ofString, ofChars]⟩
  have spaced : Edit text "c,50,neo :R,50" :=
    .blanks (.beforeColon token) (by decide : AreBlank " ")
  have braced : Edit "c,50,neo :R,50" "\x7bc,50,neo :R,50\x7d" := .bothBraces (by decide +kernel)
  have extended : Edit "\x7bc,50,neo :R,50\x7d" "\x7bc,50,neo :R,50; \x7d" :=
    @Edit.emptyPiecesInside "\x7bc,50,neo :R,50" [] [" "] (by decide +kernel) (by decide)
      (by decide)
  have cased : Edit "\x7bc,50,neo :R,50; \x7d" text' := .letterCase (by decide +kernel)
  have edits : Relation.EqvGen Edit text text' :=
    .trans _ _ _ (.rel _ _ spaced) (.trans _ _ _ (.rel _ _ braced)
      (.trans _ _ _ (.rel _ _ extended) (.rel _ _ cased)))
  exact ⟨edits, compile_eq_of_edits edits⟩

end Edits

end PackOpening.Definition
