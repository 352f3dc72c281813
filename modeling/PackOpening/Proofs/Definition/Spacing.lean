import PackOpening.Proofs.Definition.Rows

/-!
Blanks in a definition.

There are places where blanks make no difference: at the ends of a definition, around its commas and
semicolons, on both sides of its outer braces, and around the first colon of a rarity token. At all
but the last the rows stay the same. Around a colon the token itself changes; it still names the
same set and the same letter, which is all that is read of it.

A capital sigma in the token is in the way of that: it is lowercased with an eye on the letters
around it, before the token is cut at the colon.
-/
namespace PackOpening.Definition

open PackOpening.Text

/-- A text that holds no mark, such as a token. -/
def IsUnmarked (text : Text) : Prop := ∀ c ∈ text, ¬ IsMark c

instance : DecidablePred IsUnmarked := fun text =>
  inferInstanceAs (Decidable (∀ c ∈ text, ¬ IsMark c))

/-- What stands before a token where a rarity is expected: nothing, all up to a semicolon, or all up
to another such place with two tokens and their commas. -/
inductive RarityPlace : Text → Prop where
  | start : RarityPlace []
  | slot (before : Text) : RarityPlace (before ++ [CodePoint.char ';'])
  | pair {before first second : Text} (place : RarityPlace before) (rarity : IsUnmarked first)
    (share : IsUnmarked second) :
    RarityPlace (before ++ first ++ [CodePoint.char ','] ++ second ++ [CodePoint.char ','])

/-- A token where a rarity is expected, cut at its first colon: what stands before the token, the
token without its colon, and what stands behind it. It holds no capital sigma. -/
structure ColonAt (before code letter after : Text) : Prop where
  place : RarityPlace before
  unmarked : IsUnmarked code ∧ IsUnmarked letter
  first : .char ':' ∉ code
  plain : capitalSigma ∉ code ∧ capitalSigma ∉ letter
  ends : ∀ c, after.head? = some c → IsMark c

/-- A place, given by what stands before and behind it, where blanks make no difference. An outer
brace has nothing but blanks on its outer side. -/
inductive IsLoose : Text → Text → Prop where
  | start (after : Text) : IsLoose [] after
  | finish (before : Text) : IsLoose before []
  | beforeMark {mark : CodePoint} (separates : IsMark mark) (before after : Text) :
    IsLoose before (mark :: after)
  | behindMark {mark : CodePoint} (separates : IsMark mark) (before after : Text) :
    IsLoose (before ++ [mark]) after
  | beforeOpening {outer : Text} (blank : AreBlank outer) (after : Text) :
    IsLoose outer (.char '\x7b' :: after)
  | behindOpening {outer : Text} (blank : AreBlank outer) (after : Text) :
    IsLoose (outer ++ [CodePoint.char '\x7b']) after
  | beforeClosing {outer : Text} (blank : AreBlank outer) (before : Text) :
    IsLoose before (.char '\x7d' :: outer)
  | behindClosing {outer : Text} (blank : AreBlank outer) (before : Text) :
    IsLoose (before ++ [CodePoint.char '\x7d']) outer
  | beforeColon {before code letter after : Text} (token : ColonAt before code letter after) :
    IsLoose (before ++ code) (.char ':' :: (letter ++ after))
  | behindColon {before code letter after : Text} (token : ColonAt before code letter after) :
    IsLoose (before ++ code ++ [CodePoint.char ':']) (letter ++ after)

section Blanks

variable {text text' blanks : Text}

theorem compile_congr_rows (same : rowsOf (inner text) = rowsOf (inner text')) :
    compile text = compile text' := by
  rw [compile_eq_ofPieces, compile_eq_ofPieces, same]

theorem compile_congr_trim (same : trim text = trim text') : compile text = compile text' := by
  have bodies : body text = body text' := by rw [body, body, same]
  unfold compile
  rw [bodies]

theorem inner_mark {mark : CodePoint} (separates : IsMark mark) (before after : Text) :
    inner (before ++ mark :: after) = front before ++ mark :: back after :=
  inner_append_cons separates.plain.1 separates.plain.2.1 separates.plain.2.2 before after

theorem rowsOf_front_append (text : Text) (blank : AreBlank blanks) :
    rowsOf (front (text ++ blanks)) = rowsOf (front text) := by
  obtain ⟨kept, blank', same⟩ := exists_front_append text blank
  rw [same, rowsOf_append_behind blank']

theorem rowsOf_back_append (text : Text) (blank : AreBlank blanks) :
    rowsOf (back (blanks ++ text)) = rowsOf (back text) := by
  obtain ⟨kept, blank', same⟩ := exists_back_append text blank
  rw [same, rowsOf_append_front blank']

theorem inner_of_opening {outer : Text} (blank : AreBlank outer) (text : Text) :
    inner (outer ++ .char '\x7b' :: text) = back text := by
  rw [inner, front_of_brace blank]

theorem inner_of_closing {outer : Text} (blank : AreBlank outer) (text : Text) :
    inner (text ++ .char '\x7d' :: outer) = front text := by
  rw [inner, front_append_cons (by decide) (by decide), back_of_brace blank]

end Blanks

section Colons

/-- Tokens of a rarity that read the same; only one that is empty stands for the other if it is
empty too. -/
def SameRarity (token token' : Text) : Prop :=
  splitCode token = splitCode token' ∧ (token = [] ↔ token' = [])

/-- Rows whose rarities read the same and whose percentages are the same. -/
inductive SameRow : List Text → List Text → Prop where
  | nil : SameRow [] []
  | single {token token' : Text} (same : SameRarity token token') : SameRow [token] [token']
  | pair {token token' share : Text} {row row' : List Text} (same : SameRarity token token')
    (rest : SameRow row row') : SameRow (token :: share :: row) (token' :: share :: row')

theorem SameRarity.refl (token : Text) : SameRarity token token := ⟨rfl, Iff.rfl⟩

theorem SameRow.refl : ∀ row : List Text, SameRow row row
  | [] => .nil
  | [token] => .single (.refl token)
  | token :: _ :: row => .pair (.refl token) (SameRow.refl row)

theorem SameRow.entries_eq {row row' : List Text} (same : SameRow row row') :
    entries row = entries row' := by
  induction same with
  | nil => rfl
  | single same => rw [entries, entries, same.1]
  | pair same _ ih => rw [entries, entries, same.1, ih]

theorem SameRow.eq_blank_iff {row row' : List Text} (same : SameRow row row') :
    row = [[]] ↔ row' = [[]] := by
  cases same with
  | nil => exact Iff.rfl
  | single same => simp [same.2]
  | pair same rest => simp

theorem SameRow.ofRow_eq {row row' : List Text} (same : SameRow row row') :
    Outcome.ofRow row = Outcome.ofRow row' := by
  simp only [Outcome.ofRow, same.eq_blank_iff, same.entries_eq]

theorem map_ofRow_congr {rows rows' : List (List Text)} (same : List.Forall₂ SameRow rows rows') :
    rows.map Outcome.ofRow = rows'.map Outcome.ofRow := by
  induction same with
  | nil => rfl
  | cons first _ ih => rw [List.map_cons, List.map_cons, first.ofRow_eq, ih]

theorem compile_congr_sameRows {text text' : Text}
    (same : List.Forall₂ SameRow (rowsOf (inner text)) (rowsOf (inner text'))) :
    compile text = compile text' := by
  rw [compile_eq_ofPieces, compile_eq_ofPieces, map_ofRow_congr same]

variable {code letter blanks blanks' before after : Text}

theorem splitCode_colon (first : .char ':' ∉ code) (letter : Text) :
    splitCode (code ++ .char ':' :: letter) =
      (if (trim code).isEmpty then none else some (trim code), trim letter) := by
  rw [splitCode, cut_append_mark first]

/-- Blanks around a token do not matter if they are not cut off with the letter. -/
theorem splitCode_append_blanks (blank : AreBlank blanks) (blank' : AreBlank blanks') {token : Text}
    (colon : .char ':' ∈ token) : splitCode (blanks ++ token ++ blanks') = splitCode token := by
  obtain ⟨code, letter, rfl, first⟩ := List.eq_append_cons_of_mem colon
  have absent : .char ':' ∉ blanks ++ code := fun there =>
    (List.mem_append.1 there).elim (not_mem_of_areBlank (by decide) blank) first
  have whole : blanks ++ (code ++ .char ':' :: letter) ++ blanks' =
      blanks ++ code ++ .char ':' :: (letter ++ blanks') := by simp
  rw [whole, splitCode_colon absent, splitCode_colon first, trim, trim,
    trimWhile_append_front blank, trimWhile_append_behind blank', trim, trim]

/-- A rarity token of which the code, the letter and blanks around the colon are given. -/
def spaced (code blanks blanks' letter : Text) : Text :=
  code ++ blanks ++ .char ':' :: (blanks' ++ letter)

theorem capitalSigma_not_mem_spaced (plain : capitalSigma ∉ code ∧ capitalSigma ∉ letter)
    (blank : AreBlank blanks) (blank' : AreBlank blanks') :
    capitalSigma ∉ spaced code blanks blanks' letter := by
  have visible : isBlank capitalSigma = false := by decide
  have other : capitalSigma ≠ .char ':' := by decide
  simp [spaced, plain, other, not_mem_of_areBlank visible blank, not_mem_of_areBlank visible blank']

theorem lowercase_spaced (plain : capitalSigma ∉ code ∧ capitalSigma ∉ letter)
    (blank : AreBlank blanks) (blank' : AreBlank blanks') :
    lowercase (spaced code blanks blanks' letter) =
      spaced (lowercase code) blanks blanks' (lowercase letter) := by
  rw [lowercase_of_not_mem (capitalSigma_not_mem_spaced plain blank blank'),
    lowercase_of_not_mem plain.1, lowercase_of_not_mem plain.2]
  have kept {blanks : Text} (blank : AreBlank blanks) : blanks.flatMap smallLetters = blanks := by
    rw [← lowercase_of_not_mem (not_mem_of_areBlank (by decide) blank), lowercase_of_areBlank blank]
  have colon : smallLetters (.char ':') = [CodePoint.char ':'] := by decide
  simp only [spaced, List.flatMap_append, List.flatMap_cons, kept blank, kept blank', colon,
    List.singleton_append]

theorem colon_mem_token (plain : capitalSigma ∉ spaced code blanks blanks' letter) :
    .char ':' ∈ lowercase (trim (spaced code blanks blanks' letter)) := by
  have there : .char ':' ∈ trim (spaced code blanks blanks' letter) :=
    mem_trim_of_mem (by decide) (by simp [spaced])
  rw [lowercase_of_not_mem (mt mem_of_mem_trim plain)]
  exact List.mem_flatMap.2 ⟨_, there, by decide⟩

/-- What a rarity token says does not depend on the blanks around its colon. -/
theorem splitCode_spaced (first : .char ':' ∉ code)
    (plain : capitalSigma ∉ code ∧ capitalSigma ∉ letter) (blank : AreBlank blanks)
    (blank' : AreBlank blanks') :
    splitCode (lowercase (trim (spaced code blanks blanks' letter))) =
      (if (trim (lowercase code)).isEmpty then none else some (trim (lowercase code)),
        trim (lowercase letter)) := by
  have sigma := capitalSigma_not_mem_spaced plain blank blank'
  -- blanks are put back around the token, so that it can be lowercased part by part
  obtain ⟨outer, outer', wide, wide', whole⟩ := exists_lowercase_trim sigma
  rw [lowercase_spaced plain blank blank'] at whole
  have absent : .char ':' ∉ lowercase code ++ blanks := fun there =>
    (List.mem_append.1 there).elim (fun early => first (mem_of_mem_lowercase (by decide) early))
      (not_mem_of_areBlank (by decide) blank)
  have before : trim (lowercase code ++ blanks) = trim (lowercase code) :=
    trimWhile_append_behind blank _
  have behind : trim (blanks' ++ lowercase letter) = trim (lowercase letter) :=
    trimWhile_append_front blank' _
  rw [← splitCode_append_blanks wide wide' (colon_mem_token sigma), ← whole, spaced,
    splitCode_colon absent, before, behind]

theorem sameRarity_spaced {wide wide' : Text} (first : .char ':' ∉ code)
    (plain : capitalSigma ∉ code ∧ capitalSigma ∉ letter) (blank : AreBlank blanks)
    (blank' : AreBlank blanks') (blankWide : AreBlank wide) (blankWide' : AreBlank wide') :
    SameRarity (lowercase (trim (spaced code blanks blanks' letter)))
      (lowercase (trim (spaced code wide wide' letter))) := by
  have colon := colon_mem_token (capitalSigma_not_mem_spaced plain blank blank')
  have colon' := colon_mem_token (capitalSigma_not_mem_spaced plain blankWide blankWide')
  refine ⟨?_, by simp [List.ne_nil_of_mem colon, List.ne_nil_of_mem colon']⟩
  rw [splitCode_spaced first plain blank blank', splitCode_spaced first plain blankWide blankWide']

end Colons

section Places

variable {before after text text' token token' : Text}

theorem rowsOf_of_isUnmarked (unmarked : IsUnmarked token) :
    rowsOf token = [[lowercase (trim token)]] := by
  have comma : .char ',' ∉ token := fun there => unmarked _ there (.inl rfl)
  have semicolon : .char ';' ∉ token := fun there => unmarked _ there (.inr rfl)
  rw [rowsOf, pieces_of_not_mem semicolon, List.map_singleton, tokens, pieces_of_not_mem comma,
    List.map_singleton]

/-- A comma puts a token in front of a row. -/
theorem rowsOf_token_comma {first : List Text} {others : List (List Text)}
    (unmarked : IsUnmarked token) (begins : rowsOf text = first :: others) :
    rowsOf (token ++ .char ',' :: text) = (lowercase (trim token) :: first) :: others :=
  @rowsOf_comma token text [] others _ first (rowsOf_of_isUnmarked unmarked) begins

theorem forall₂_sameRow_refl (rows : List (List Text)) : List.Forall₂ SameRow rows rows :=
  List.forall₂_same.2 fun row _ => .refl row

/-- A rarity may stand for one that reads the same, whatever follows. -/
theorem sameRows_token (unmarked : IsUnmarked token) (unmarked' : IsUnmarked token')
    (same : SameRarity (lowercase (trim token)) (lowercase (trim token')))
    (ends : ∀ c, after.head? = some c → IsMark c) :
    List.Forall₂ SameRow (rowsOf (token ++ after)) (rowsOf (token' ++ after)) := by
  cases after with
  | nil =>
    rw [List.append_nil, List.append_nil, rowsOf_of_isUnmarked unmarked,
      rowsOf_of_isUnmarked unmarked']
    exact .cons (.single same) .nil
  | cons mark rest =>
    rcases ends mark rfl with rfl | rfl
    · obtain ⟨row, others, begins⟩ := List.exists_cons_of_ne_nil (rowsOf_ne_nil rest)
      rw [rowsOf_token_comma unmarked begins, rowsOf_token_comma unmarked' begins]
      refine .cons ?_ (forall₂_sameRow_refl others)
      cases row with
      | nil => exact .single same
      | cons share row => exact .pair same (.refl row)
    · rw [rowsOf_semicolon, rowsOf_semicolon, rowsOf_of_isUnmarked unmarked,
        rowsOf_of_isUnmarked unmarked']
      exact .cons (.single same) (forall₂_sameRow_refl _)

/-- Texts whose rows read the same may stand for each other where a rarity is expected. -/
theorem sameRows_place (place : RarityPlace before)
    (same : List.Forall₂ SameRow (rowsOf text) (rowsOf text')) :
    List.Forall₂ SameRow (rowsOf (before ++ text)) (rowsOf (before ++ text')) := by
  induction place generalizing text text' with
  | start => exact same
  | slot before =>
    rw [List.append_assoc, List.append_assoc, List.singleton_append, List.singleton_append,
      rowsOf_semicolon, rowsOf_semicolon]
    exact List.rel_append (forall₂_sameRow_refl _) same
  | @pair before first second _ rarity share ih =>
    have regroup (text : Text) :
        before ++ first ++ [CodePoint.char ','] ++ second ++ [CodePoint.char ','] ++ text =
          before ++ (first ++ .char ',' :: (second ++ .char ',' :: text)) := by simp
    rw [regroup, regroup]
    obtain ⟨row, others, begins⟩ := List.exists_cons_of_ne_nil (rowsOf_ne_nil text)
    obtain ⟨row', others', begins'⟩ := List.exists_cons_of_ne_nil (rowsOf_ne_nil text')
    rw [begins, begins'] at same
    cases same with
    | cons head rest =>
      refine ih ?_
      rw [rowsOf_token_comma rarity (rowsOf_token_comma share begins),
        rowsOf_token_comma rarity (rowsOf_token_comma share begins')]
      exact .cons (.pair (.refl _) head) rest

theorem IsUnmarked.subset (unmarked : IsUnmarked text) (part : token ⊆ text) : IsUnmarked token :=
  fun c there => unmarked c (part there)

theorem isUnmarked_append : IsUnmarked (text ++ text') ↔ IsUnmarked text ∧ IsUnmarked text' :=
  List.forall_mem_append

theorem isUnmarked_of_areBlank {blanks : Text} (blank : AreBlank blanks) : IsUnmarked blanks :=
  fun _ there separates => not_mem_of_areBlank separates.plain.1 blank there

theorem isUnmarked_spaced {code blanks blanks' letter : Text} (unmarked : IsUnmarked code)
    (blank : AreBlank blanks) (blank' : AreBlank blanks') (unmarked' : IsUnmarked letter) :
    IsUnmarked (spaced code blanks blanks' letter) := by
  have colon : ¬ IsMark (.char ':') := by simp [IsMark]
  refine isUnmarked_append.2 ⟨isUnmarked_append.2 ⟨unmarked, isUnmarked_of_areBlank blank⟩, ?_⟩
  exact List.forall_mem_cons.2
    ⟨colon, isUnmarked_append.2 ⟨isUnmarked_of_areBlank blank', unmarked'⟩⟩

theorem front_subset (text : Text) : front text ⊆ text := (peel_isSuffix _ text).subset

theorem back_subset (text : Text) : back text ⊆ text := fun _ there =>
  List.mem_reverse.1 ((peel_isSuffix _ text.reverse).subset (List.mem_reverse.1 there))

/-- What peeling the front off leaves of a place for a rarity and of the token there. -/
theorem exists_front_place (place : RarityPlace before) (unmarked : IsUnmarked token) :
    ∃ before' token', RarityPlace before' ∧ token' ⊆ token ∧ ∀ blanks, AreBlank blanks →
      ∃ kept, AreBlank kept ∧ front (before ++ token ++ blanks) = before' ++ token' ++ kept := by
  induction place generalizing token with
  | start =>
    refine ⟨[], front token, .start, front_subset token, fun blanks blank => ?_⟩
    exact exists_front_append token blank
  | slot before =>
    refine ⟨front before ++ [CodePoint.char ';'], token, .slot _, List.Subset.refl _,
      fun blanks blank => ⟨blanks, blank, ?_⟩⟩
    have regroup : before ++ [CodePoint.char ';'] ++ token ++ blanks =
        before ++ .char ';' :: (token ++ blanks) := by simp
    rw [regroup, front_append_cons (by decide) (by decide)]
    simp
  | @pair before first second _ rarity share ih =>
    obtain ⟨before', first', place', part, peeled⟩ := ih rarity
    obtain ⟨kept, blank', same⟩ := peeled [] areBlank_nil
    have rarity' : IsUnmarked (first' ++ kept) :=
      isUnmarked_append.2 ⟨rarity.subset part, isUnmarked_of_areBlank blank'⟩
    refine ⟨_, token, place'.pair rarity' share, List.Subset.refl _, fun blanks blank =>
      ⟨blanks, blank, ?_⟩⟩
    have regroup : before ++ first ++ [CodePoint.char ','] ++ second ++ [CodePoint.char ','] ++
        token ++ blanks = before ++ first ++ [] ++
          .char ',' :: (second ++ [CodePoint.char ','] ++ token ++ blanks) := by simp
    rw [regroup, front_append_cons (by decide) (by decide), same]
    simp

/-- What peeling the back off leaves of a token and of what follows it. -/
theorem exists_back_token (token : Text) (ends : ∀ c, after.head? = some c → IsMark c) :
    ∃ token' after', token' ⊆ token ∧ (∀ c, after'.head? = some c → IsMark c) ∧
      ∀ blanks, AreBlank blanks →
        ∃ kept, AreBlank kept ∧ back (blanks ++ (token ++ after)) = kept ++ (token' ++ after') := by
  cases after with
  | nil =>
    refine ⟨back token, [], back_subset token, by simp, fun blanks blank => ?_⟩
    simpa using exists_back_append token blank
  | cons mark rest =>
    have separates := ends mark rfl
    refine ⟨token, mark :: back rest, List.Subset.refl _, by simpa using separates,
      fun blanks blank => ⟨blanks, blank, ?_⟩⟩
    rw [← List.append_assoc, back_append_cons separates.plain.1 separates.plain.2.2,
      List.append_assoc]

/-- Blanks around the colon of a rarity token make no difference. -/
theorem compile_colon {code letter blanks blanks' : Text} (token : ColonAt before code letter after)
    (blank : AreBlank blanks) (blank' : AreBlank blanks') :
    compile (before ++ code ++ blanks ++ .char ':' :: (blanks' ++ (letter ++ after))) =
      compile (before ++ code ++ .char ':' :: (letter ++ after)) := by
  obtain ⟨place, ⟨unmarked, unmarked'⟩, first, ⟨plain, plain'⟩, ends⟩ := token
  obtain ⟨before', code', place', part, fronts⟩ := exists_front_place place unmarked
  obtain ⟨letter', after', part', ends', backs⟩ := exists_back_token letter ends
  -- what is left inside the braces differs in blanks around the colon only
  have left {blanks blanks' : Text} (blank : AreBlank blanks) (blank' : AreBlank blanks') :
      ∃ kept kept', AreBlank kept ∧ AreBlank kept' ∧
        inner (before ++ code ++ blanks ++ .char ':' :: (blanks' ++ (letter ++ after))) =
          before' ++ (spaced code' kept kept' letter' ++ after') := by
    obtain ⟨kept, blank, same⟩ := fronts blanks blank
    obtain ⟨kept', blank', same'⟩ := backs blanks' blank'
    refine ⟨kept, kept', blank, blank', ?_⟩
    rw [inner_append_cons (by decide) (by decide) (by decide), same, same']
    simp [spaced]
  obtain ⟨kept, kept', wide, wide', same⟩ := left blank blank'
  obtain ⟨bare, bare', tight, tight', same'⟩ := left areBlank_nil areBlank_nil
  rw [List.append_nil, List.nil_append] at same'
  have inside := unmarked.subset part
  have inside' := unmarked'.subset part'
  refine compile_congr_sameRows ?_
  rw [same, same']
  refine sameRows_place place' (sameRows_token (isUnmarked_spaced inside wide wide' inside')
    (isUnmarked_spaced inside tight tight' inside') ?_ ends')
  exact sameRarity_spaced (fun there => first (part there))
    ⟨fun there => plain (part there), fun there => plain' (part' there)⟩ wide wide' tight tight'

end Places

section Loose

variable {before after blanks : Text}

/-- Blanks at a loose place leave a definition what it is. -/
theorem compile_blanks (loose : IsLoose before after) (blank : AreBlank blanks) :
    compile (before ++ blanks ++ after) = compile (before ++ after) := by
  cases loose with
  | start => exact compile_congr_trim (trimWhile_append_front blank after)
  | finish =>
    rw [List.append_nil, List.append_nil]
    exact compile_congr_trim (trimWhile_append_behind blank before)
  | @beforeMark mark separates _ after =>
    refine compile_congr_rows ?_
    rw [inner_mark separates, inner_mark separates]
    exact rowsOf_mark_congr separates (rowsOf_front_append before blank) rfl
  | @behindMark mark separates before _ =>
    have regroup (text : Text) : before ++ [mark] ++ text = before ++ mark :: text := by simp
    refine compile_congr_rows ?_
    rw [List.append_assoc, regroup, regroup, inner_mark separates, inner_mark separates]
    exact rowsOf_mark_congr separates rfl (rowsOf_back_append after blank)
  | beforeOpening outside after =>
    refine compile_congr_rows ?_
    rw [inner_of_opening (List.forall_mem_append.2 ⟨outside, blank⟩), inner_of_opening outside]
  | @behindOpening outer outside _ =>
    have regroup (text : Text) :
        outer ++ [CodePoint.char '\x7b'] ++ text = outer ++ .char '\x7b' :: text := by simp
    refine compile_congr_rows ?_
    rw [List.append_assoc, regroup, regroup, inner_of_opening outside, inner_of_opening outside]
    exact rowsOf_back_append after blank
  | beforeClosing outside _ =>
    refine compile_congr_rows ?_
    rw [inner_of_closing outside, inner_of_closing outside]
    exact rowsOf_front_append before blank
  | behindClosing outside before =>
    have regroup (text : Text) :
        before ++ [CodePoint.char '\x7d'] ++ text = before ++ .char '\x7d' :: text := by simp
    refine compile_congr_rows ?_
    rw [List.append_assoc, regroup, regroup, inner_of_closing outside,
      inner_of_closing (List.forall_mem_append.2 ⟨blank, outside⟩)]
  | beforeColon token =>
    have same := compile_colon token blank areBlank_nil
    rwa [List.nil_append] at same
  | behindColon token =>
    have same := compile_colon token areBlank_nil blank
    simpa using same

end Loose

end PackOpening.Definition
