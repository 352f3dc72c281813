import PackOpening.Proofs.Definition.Accepted
import PackOpening.Proofs.Text.Casing
import PackOpening.Proofs.Text.Joined

/-!
A definition as rows of tokens.

What is left inside the braces is split into pieces and each piece into tokens; nothing else of the
text is read. Braces and the blanks around them are peeled off either end, and what stands between
stays as it is. Blanks at the ends of a text make no difference to its rows, so they make none
around a mark either.
-/
namespace PackOpening.Definition

open PackOpening.Text

/-- What is left of a text without the blanks at its front and a brace behind them. -/
def peel (brace : CodePoint) (text : Text) : Text :=
  let text := text.dropWhile isBlank
  if text.head? = some brace then text.tail else text

/-- What is left behind an opening brace. -/
def front (text : Text) : Text := peel (.char '\x7b') text

/-- What is left before a closing brace. -/
def back (text : Text) : Text := (peel (.char '\x7d') text.reverse).reverse

/-- The text inside the braces with the blanks around it. -/
def inner (text : Text) : Text := back (front text)

section Peel

variable {brace c : CodePoint} {text text' blanks : Text}

/-- Peeling ends in front of anything else. -/
theorem peel_append_cons (visible : isBlank c = false) (other : c ≠ brace) (text text' : Text) :
    peel brace (text ++ c :: text') = peel brace text ++ c :: text' := by
  simp only [peel, List.dropWhile_append]
  cases left : text.dropWhile isBlank with
  | nil => simp [visible, other]
  | cons d rest =>
    by_cases here : d = brace
    · simp [here]
    · simp [here]

/-- Blanks behind a text are kept, unless nothing is left in front of them. -/
theorem peel_append_blanks (brace : CodePoint) (text : Text) (blank : AreBlank blanks) :
    ∃ kept, AreBlank kept ∧ peel brace (text ++ blanks) = peel brace text ++ kept := by
  have all := List.dropWhile_eq_nil_iff.2 blank
  simp only [peel, List.dropWhile_append]
  cases left : text.dropWhile isBlank with
  | nil => exact ⟨[], areBlank_nil, by simp [all]⟩
  | cons d rest =>
    refine ⟨blanks, blank, ?_⟩
    by_cases here : d = brace
    · simp [here]
    · simp [here]

theorem peel_of_brace (visible : isBlank brace = false) (blank : AreBlank blanks) (text : Text) :
    peel brace (blanks ++ brace :: text) = text := by
  simp [peel, List.dropWhile_append_of_pos blank, visible]

/-- Without a brace only blanks are peeled off. -/
theorem exists_peel (none : (text.dropWhile isBlank).head? ≠ some brace) :
    ∃ blanks, AreBlank blanks ∧ text = blanks ++ peel brace text := by
  rw [peel, if_neg none]
  exact exists_dropWhile isBlank text

theorem peel_isSuffix (brace : CodePoint) (text : Text) : peel brace text <:+ text := by
  unfold peel
  dsimp only
  split
  · exact (List.tail_suffix _).trans (List.dropWhile_suffix _)
  · exact List.dropWhile_suffix _

theorem peel_map_toLower (same : ∀ c : CodePoint, c.map Char.toLower = brace ↔ c = brace)
    (text : Text) :
    peel brace (text.map (·.map Char.toLower)) = (peel brace text).map (·.map Char.toLower) := by
  simp only [peel, List.dropWhile_map, isBlank_comp_toLower]
  cases text.dropWhile isBlank with
  | nil => simp
  | cons d rest =>
    by_cases here : d = brace
    · simp [here, same]
    · simp [here, same]

end Peel

section Inner

variable {c : CodePoint} {text blanks : Text}

theorem front_append_cons (visible : isBlank c = false) (other : c ≠ .char '\x7b')
    (text text' : Text) : front (text ++ c :: text') = front text ++ c :: text' :=
  peel_append_cons visible other text text'

theorem back_append_cons (visible : isBlank c = false) (other : c ≠ .char '\x7d')
    (text text' : Text) : back (text ++ c :: text') = text ++ c :: back text' := by
  have reversed : (text ++ c :: text').reverse = text'.reverse ++ c :: text.reverse := by simp
  rw [back, reversed, peel_append_cons visible other]
  simp [back]

theorem exists_front_append (text : Text) (blank : AreBlank blanks) :
    ∃ kept, AreBlank kept ∧ front (text ++ blanks) = front text ++ kept :=
  peel_append_blanks _ text blank

theorem areBlank_reverse (blank : AreBlank blanks) : AreBlank blanks.reverse :=
  fun c there => blank c (List.mem_reverse.1 there)

theorem exists_back_append (text : Text) (blank : AreBlank blanks) :
    ∃ kept, AreBlank kept ∧ back (blanks ++ text) = kept ++ back text := by
  obtain ⟨kept, blank', same⟩ :=
    peel_append_blanks (.char '\x7d') text.reverse (areBlank_reverse blank)
  refine ⟨kept.reverse, areBlank_reverse blank', ?_⟩
  rw [back, List.reverse_append, same, List.reverse_append, back]

theorem front_of_brace (blank : AreBlank blanks) (text : Text) :
    front (blanks ++ .char '\x7b' :: text) = text :=
  peel_of_brace (by decide) blank text

theorem back_of_brace (blank : AreBlank blanks) (text : Text) :
    back (text ++ .char '\x7d' :: blanks) = text := by
  have reversed : (text ++ .char '\x7d' :: blanks).reverse =
      blanks.reverse ++ .char '\x7d' :: text.reverse := by simp
  rw [back, reversed, peel_of_brace (by decide) (areBlank_reverse blank), List.reverse_reverse]

/-- What stands around a character that is neither blank nor a brace is peeled on its own. -/
theorem inner_append_cons (visible : isBlank c = false) (opening : c ≠ .char '\x7b')
    (closing : c ≠ .char '\x7d') (text text' : Text) :
    inner (text ++ c :: text') = front text ++ c :: back text' := by
  rw [inner, front_append_cons visible opening, back_append_cons visible closing]

theorem back_eq (text : Text) :
    back text =
      let kept := (text.reverse.dropWhile isBlank).reverse
      if kept.getLast? = some (.char '\x7d') then kept.dropLast else kept := by
  simp only [back, peel, List.getLast?_reverse]
  split
  · rw [List.dropLast_reverse]
  · rfl

/-- Trimming first and trimming last come to the same. -/
theorem unwrapped_eq_trim_inner (text : Text) : unwrapped text = trim (inner text) := by
  have opened : (if (trim text).head? = some (.char '\x7b') then (trim text).tail else trim text) =
      ((front text).reverse.dropWhile isBlank).reverse := by
    rw [trim, head?_trimWhile, trimWhile, front, peel]
    cases left : text.dropWhile isBlank with
    | nil => rfl
    | cons c rest =>
      have visible : isBlank c = false := not_drop_of_head?_dropWhile (by rw [left]; rfl)
      have kept : ((c :: rest).reverse.dropWhile isBlank).reverse =
          c :: (rest.reverse.dropWhile isBlank).reverse := by
        rw [List.reverse_cons, List.dropWhile_append]
        split
        · next none => simp [List.isEmpty_iff.1 none, visible]
        · simp
      by_cases brace : c = .char '\x7b'
      · subst brace
        rw [kept]
        simp
      · simp only [List.head?_cons, Option.some.injEq, brace, if_false]
  rw [inner, back_eq, ← opened]
  rfl

end Inner

section Rows

variable {blanks piece : Text}

/-- The tokens of each piece of a text. -/
def rowsOf (text : Text) : List (List Text) := (pieces (.char ';') text).map tokens

/-- What a piece with these tokens contributes. -/
def Outcome.ofRow (row : List Text) : Outcome :=
  if row = [[]] then .blank
  else match entries row with
    | .error flaw => .fault flaw
    | .ok es =>
      if Slot.total ⟨es⟩ = 100 then .slot ⟨es⟩ else .fault (.wrongTotal (Slot.total ⟨es⟩))

/-- Collects the outcomes of all pieces, where a blank piece alone makes an empty definition. -/
def ofPieces (outcomes : List Outcome) : Definition :=
  if outcomes = [.blank] then ⟨[], [.empty]⟩ else ofOutcomes outcomes

theorem tokens_append_front (blank : AreBlank blanks) (piece : Text) :
    tokens (blanks ++ piece) = tokens piece := by
  refine map_pieces_append_front (not_mem_of_areBlank (by decide) blank) (fun token => ?_) piece
  rw [trim, trimWhile_append_front blank, trim]

theorem tokens_append_behind (blank : AreBlank blanks) (piece : Text) :
    tokens (piece ++ blanks) = tokens piece := by
  refine map_pieces_append_behind (not_mem_of_areBlank (by decide) blank) (fun token => ?_) piece
  rw [trim, trimWhile_append_behind blank, trim]

theorem tokens_trim (piece : Text) : tokens (trim piece) = tokens piece :=
  congr_trim tokens_append_front tokens_append_behind piece

theorem tokens_eq_iff_of_blank : tokens piece = [[]] ↔ trim piece = [] := by
  constructor
  · intro alone
    obtain ⟨token, split, small⟩ := List.map_eq_singleton_iff.1 alone
    rw [eq_of_pieces_eq_singleton split]
    exact lowercaseFrom_eq_nil_iff.1 small
  · intro blank
    rw [← tokens_trim, blank]
    rfl

theorem outcome_eq_ofRow (piece : Text) : outcome piece = Outcome.ofRow (tokens piece) := by
  by_cases blank : trim piece = []
  · have row := tokens_eq_iff_of_blank.2 blank
    simp [outcome, Outcome.ofRow, blank, row]
  · have row := mt tokens_eq_iff_of_blank.1 blank
    simp only [outcome, Outcome.ofRow, List.isEmpty_iff, blank, row, if_false, readSlot,
      tokens_trim]
    cases entries (tokens piece) with
    | error fault => rfl
    | ok es => by_cases total : Slot.total ⟨es⟩ = 100 <;> simp [total]

theorem map_outcome (text : Text) :
    (pieces (.char ';') text).map outcome = (rowsOf text).map Outcome.ofRow := by
  rw [rowsOf, List.map_map]
  exact List.map_congr_left fun piece _ => outcome_eq_ofRow piece

theorem rowsOf_append_front (blank : AreBlank blanks) (text : Text) :
    rowsOf (blanks ++ text) = rowsOf text :=
  map_pieces_append_front (not_mem_of_areBlank (by decide) blank) (tokens_append_front blank) text

theorem rowsOf_append_behind (blank : AreBlank blanks) (text : Text) :
    rowsOf (text ++ blanks) = rowsOf text :=
  map_pieces_append_behind (not_mem_of_areBlank (by decide) blank) (tokens_append_behind blank) text

theorem rowsOf_trim (text : Text) : rowsOf (trim text) = rowsOf text :=
  congr_trim rowsOf_append_front rowsOf_append_behind text

theorem map_outcome_piecesOf (text : Text) :
    (piecesOf text).map outcome = (rowsOf (inner text)).map Outcome.ofRow := by
  rw [piecesOf, map_outcome, unwrapped_eq_trim_inner, rowsOf_trim]

/-- A definition is compiled from the rows inside its braces. -/
theorem compile_eq_ofPieces (text : Text) :
    compile text = ofPieces ((rowsOf (inner text)).map Outcome.ofRow) := by
  have empty : unwrapped text = [] ↔ (piecesOf text).map outcome = [.blank] := by
    constructor
    · intro none
      rw [piecesOf_eq_of_empty none]
      rfl
    · intro alone
      obtain ⟨piece, split, made⟩ := List.map_eq_singleton_iff.1 alone
      have whole : unwrapped text = piece := eq_of_pieces_eq_singleton split
      rcases outcome_cases piece with ⟨blank, _⟩ | ⟨_, _, spelled⟩ | ⟨_, _, _, faulty⟩
      · rw [← whole, unwrapped_eq_trim_inner, trim_trim] at blank
        rw [unwrapped_eq_trim_inner, blank]
      · rw [made] at spelled
        cases spelled
      · rw [made] at faulty
        cases faulty
  rw [compile_eq, ofPieces, ← map_outcome_piecesOf]
  simp only [empty]

end Rows

section Marks

variable {text text' : Text}

/-- What separates tokens or pieces. -/
def IsMark (c : CodePoint) : Prop := c = .char ',' ∨ c = .char ';'

instance : DecidablePred IsMark := fun _ => inferInstanceAs (Decidable (_ ∨ _))

theorem IsMark.plain {mark : CodePoint} (separates : IsMark mark) :
    isBlank mark = false ∧ mark ≠ .char '\x7b' ∧ mark ≠ .char '\x7d' := by
  rcases separates with rfl | rfl <;> decide

theorem rowsOf_ne_nil (text : Text) : rowsOf text ≠ [] :=
  mt List.map_eq_nil_iff.1 (pieces_ne_nil _ text)

theorem rowsOf_semicolon (text text' : Text) :
    rowsOf (text ++ .char ';' :: text') = rowsOf text ++ rowsOf text' := by
  rw [rowsOf, pieces_append_mark_append, List.map_append, rowsOf, rowsOf]

theorem tokens_comma (piece piece' : Text) :
    tokens (piece ++ .char ',' :: piece') = tokens piece ++ tokens piece' := by
  rw [tokens, pieces_append_mark_append, List.map_append, tokens, tokens]

/-- A comma joins the last row before it with the first row behind it. -/
theorem rowsOf_comma {rows others : List (List Text)} {row first : List Text}
    (ends : rowsOf text = rows ++ [row]) (begins : rowsOf text' = first :: others) :
    rowsOf (text ++ .char ',' :: text') = rows ++ (row ++ first) :: others := by
  obtain ⟨before, last, split, rfl, alone⟩ := List.map_eq_append_iff.1 ends
  obtain ⟨piece, rfl, rfl⟩ := List.map_eq_singleton_iff.1 alone
  obtain ⟨piece', behind, split', rfl, rfl⟩ := List.map_eq_cons_iff.1 begins
  have marked : pieces (.char ';') (.char ',' :: text') = (.char ',' :: piece') :: behind := by
    rw [pieces, if_neg (by decide), split']
  rw [rowsOf, pieces_append split marked, List.map_append, List.map_cons, tokens_comma]

/-- Around a mark, texts may be replaced by others with the same rows. -/
theorem rowsOf_mark_congr {mark : CodePoint} {front front' back back' : Text}
    (separates : IsMark mark) (before : rowsOf front = rowsOf front')
    (behind : rowsOf back = rowsOf back') :
    rowsOf (front ++ mark :: back) = rowsOf (front' ++ mark :: back') := by
  rcases separates with rfl | rfl
  · have ends := (List.dropLast_concat_getLast (rowsOf_ne_nil front)).symm
    obtain ⟨first, others, begins⟩ := List.exists_cons_of_ne_nil (rowsOf_ne_nil back)
    rw [rowsOf_comma ends begins, rowsOf_comma (before.symm.trans ends) (behind.symm.trans begins)]
  · rw [rowsOf_semicolon, rowsOf_semicolon, before, behind]

end Marks

end PackOpening.Definition
