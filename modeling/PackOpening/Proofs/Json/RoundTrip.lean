import Mathlib.Data.List.Forall2
import PackOpening.Proofs.Json.Numbers
import PackOpening.Proofs.Json.Quoting
import PackOpening.Proofs.Pool.Grouping

/-!
Printed data are read back.

Every value that is not nested too deep and holds no integer that is too long is read up to the end
of its text. What is read is the value itself if it holds no floating-point number, no surrogate and
no name twice. A record is read member by member, whatever the others hold.
-/
namespace PackOpening

namespace Json

open PackOpening.Numeric PackOpening.Text

mutual

/-- How deep lists and records are nested in a value. -/
def depth : Json → Nat
  | .arr items => depthOfItems items + 1
  | .obj members => depthOfMembers members + 1
  | _ => 0

def depthOfItems : List Json → Nat
  | [] => 0
  | item :: rest => max (depth item) (depthOfItems rest)

def depthOfMembers : List (Text × Json) → Nat
  | [] => 0
  | (_, value) :: rest => max (depth value) (depthOfMembers rest)

end

mutual

/-- Whether every integer in a value has few enough digits to be read. -/
def isBrief : Json → Bool
  | .int n => (digitsOf n.natAbs).length ≤ digitLimit
  | .arr items => areBrief items
  | .obj members => haveBrief members
  | _ => true

def areBrief : List Json → Bool
  | [] => true
  | item :: rest => isBrief item && areBrief rest

def haveBrief : List (Text × Json) → Bool
  | [] => true
  | (_, value) :: rest => isBrief value && haveBrief rest

end

mutual

/-- Whether a value is read back as it is: it holds no floating-point number, no surrogate, and no
name twice in one record. -/
def isExact : Json → Bool
  | .float _ => false
  | .str s => !s.any CodePoint.isSurrogate
  | .arr items => areExact items
  | .obj members => (members.map Prod.fst).Nodup && haveExact members
  | _ => true

def areExact : List Json → Bool
  | [] => true
  | item :: rest => isExact item && areExact rest

def haveExact : List (Text × Json) → Bool
  | [] => true
  | (name, value) :: rest => !name.any CodePoint.isSurrogate && isExact value && haveExact rest

end

theorem depthOfMembers_le_iff {members : List (Text × Json)} {room : Nat} :
    depthOfMembers members ≤ room ↔ ∀ member ∈ members, depth member.2 ≤ room := by
  induction members with
  | nil => simp [depthOfMembers]
  | cons member rest ih =>
    rw [depthOfMembers, Nat.max_le, ih, List.forall_mem_cons]

theorem haveBrief_iff {members : List (Text × Json)} :
    haveBrief members = true ↔ ∀ member ∈ members, isBrief member.2 = true := by
  induction members with
  | nil => simp [haveBrief]
  | cons member rest ih =>
    rw [haveBrief, Bool.and_eq_true, ih, List.forall_mem_cons]

/-- A member that is read for a printed one. -/
def RereadMember (member member' : Text × Json) : Prop :=
  RereadAs member.1 member'.1 ∧ (isExact member.2 = true → member'.2 = member.2)

theorem StartsNumber.plain {c : Char} (starts : StartsNumber c) :
    isLayout (.char c) = false ∧ c ≠ ']' := by
  have other (d : Char) (plain : d.isDigit = false) (other : d ∉ ['-', 'N', 'I']) : c ≠ d :=
    starts.ne plain other
  simp [isLayout, other]

theorem eq_of_reread {members members' : List (Text × Json)}
    (same : List.Forall₂ RereadMember members members') (exact : haveExact members = true) :
    members' = members := by
  induction same with
  | nil => rfl
  | @cons member member' rest rest' alike _ ih =>
    obtain ⟨name, value⟩ := member
    simp only [haveExact, Bool.and_eq_true, Bool.not_eq_true'] at exact
    have name := alike.1.eq_of_plain exact.1.1
    have value := alike.2 exact.1.2
    rw [ih exact.2, Prod.ext name value]

/-- The first character of a printed value is no layout, and does not close a list. -/
theorem render_starts (j : Json) : ∃ c others, render j = c :: others ∧
    isLayout (.char c) = false ∧ c ≠ ']' := by
  cases j with
  | null => exact ⟨'n', _, rfl, rfl, by decide⟩
  | bool b =>
    cases b with
    | true => exact ⟨'t', _, rfl, rfl, by decide⟩
    | false => exact ⟨'f', _, rfl, rfl, by decide⟩
  | int n =>
    obtain ⟨c, others, start, starts⟩ := intDigits_starts n
    exact ⟨c, others, start, starts.plain⟩
  | float x =>
    obtain ⟨c, others, start, starts⟩ := write_starts x
    exact ⟨c, others, start, starts.plain⟩
  | str s => exact ⟨'"', _, rfl, rfl, by decide⟩
  | arr items => exact ⟨'[', _, rfl, rfl, by decide⟩
  | obj members => exact ⟨'\x7b', _, rfl, rfl, by decide⟩

theorem skipLayout_cons {c : CodePoint} (plain : isLayout c = false) (rest : Text) :
    skipLayout (c :: rest) = c :: rest :=
  List.dropWhile_cons_of_neg (by simp [plain])

theorem skipLayout_render (j : Json) (rest : Text) :
    skipLayout (ofChars (render j) ++ rest) = ofChars (render j) ++ rest := by
  obtain ⟨c, others, start, plain, _⟩ := render_starts j
  rw [start]
  exact skipLayout_cons plain _

/-- The text of a value with its rest, where the value is a quoted text. -/
theorem quoted_append (s rest : Text) :
    ofChars (quoted s) ++ rest = .char '"' :: behindQuote s rest := by
  simp [quoted, behindQuote, ofChars]

theorem length_le_flatMap (s : Text) : s.length ≤ (s.flatMap escaped).length := by
  have longer (c : CodePoint) : 0 < (escaped c).length := by
    have escaping := escaping c
    generalize escaped c = chars at escaping ⊢
    cases escaping <;> simp [escapedUnit]
  induction s with
  | nil => exact Nat.le_refl 0
  | cons c rest ih =>
    have first := longer c
    rw [List.flatMap_cons, List.length_append, List.length_cons]
    omega

/-- A name or a quoted text is read back from behind its opening quote. -/
theorem readsText_quoted (s rest : Text) :
    ∃ s', ReadsText ((quoted s).length - 1) (behindQuote s rest) s' rest ∧ RereadAs s s' := by
  have inside := length_le_flatMap s
  obtain ⟨s', reads, same⟩ := readsText_behindQuote rest s
  refine ⟨s', reads.mono ?_, same⟩
  simp only [quoted, List.length_cons, List.length_append, List.length_nil]
  omega

/-- What is read of a value, of items or of members, given enough steps. -/
def ReadsValue (need room : Nat) (text : Text) (value : Json) (rest : Text) : Prop :=
  ∀ steps, need ≤ steps → readValue steps room text = .ok (value, rest)

@[inherit_doc ReadsValue]
def ReadsItems (need room : Nat) (text : Text) (items : List Json) (rest : Text) : Prop :=
  ∀ steps, need ≤ steps → readItems steps room text = .ok (items, rest)

@[inherit_doc ReadsValue]
def ReadsMembers (need room : Nat) (text : Text) (members : List (Text × Json))
    (rest : Text) : Prop :=
  ∀ steps, need ≤ steps → readMembers steps room text = .ok (members, rest)

section Rules

variable {need need' room : Nat} {text next rest : Text} {value : Json} {items : List Json}
  {members : List (Text × Json)} {name : Text}

theorem ReadsValue.mono (reads : ReadsValue need room text value rest) (le : need ≤ need') :
    ReadsValue need' room text value rest :=
  fun steps enough => reads steps (Nat.le_trans le enough)

theorem ReadsItems.mono (reads : ReadsItems need room text items rest) (le : need ≤ need') :
    ReadsItems need' room text items rest :=
  fun steps enough => reads steps (Nat.le_trans le enough)

theorem ReadsMembers.mono (reads : ReadsMembers need room text members rest) (le : need ≤ need') :
    ReadsMembers need' room text members rest :=
  fun steps enough => reads steps (Nat.le_trans le enough)

theorem ReadsValue.atom {c : Char} (quote : c ≠ '"') (list : c ≠ '[') (record : c ≠ '\x7b')
    (read : readAtom (.char c :: text) = .ok (value, rest)) :
    ReadsValue 1 room (.char c :: text) value rest
  | steps + 1, _ => by rw [readValue, read] <;> simp [quote, list, record]

/-- A number is read as the atom that it is. -/
theorem ReadsValue.number {c : Char} (starts : StartsNumber c)
    (read : readAtom (.char c :: text) = .ok (value, rest)) :
    ReadsValue 1 room (.char c :: text) value rest :=
  .atom (starts.ne rfl (by decide)) (starts.ne rfl (by decide)) (starts.ne rfl (by decide)) read

theorem ReadsValue.str (reads : ReadsText need text name rest) :
    ReadsValue (need + 1) room (.char '"' :: text) (.str name) rest
  | steps + 1, enough => by
    rw [readValue, reads _ steps (Nat.le_of_succ_le_succ enough)]
    rfl

section Steps

variable {steps : Nat} {behind : Text}

/-- An item with further ones behind it. -/
theorem readItems_behind (start : skipLayout next = next)
    (reads : readValue steps room text = .ok (value, .char ',' :: .char ' ' :: next)) :
    readItems (steps + 1) room text = (readItems steps room next).map (.map (value :: ·) id) := by
  have comma : skipLayout (.char ',' :: .char ' ' :: next) = .char ',' :: .char ' ' :: next := rfl
  have skipped : skipLayout (.char ' ' :: next) = next := start
  simp only [readItems, reads, bind, Except.bind, comma, skipped]
  cases readItems steps room next <;> rfl

/-- A member with further ones behind it. -/
theorem readMembers_behind (start : skipLayout next = next) (start' : skipLayout behind = behind)
    (named : ∀ texts, readText texts steps text = .ok (name, .char ':' :: .char ' ' :: next))
    (reads : readValue steps room next = .ok (value, .char ',' :: .char ' ' :: behind)) :
    readMembers (steps + 1) room (.char '"' :: text) =
      (readMembers steps room behind).map (.map ((name, value) :: ·) id) := by
  have colon : skipLayout (.char ':' :: .char ' ' :: next) = .char ':' :: .char ' ' :: next := rfl
  have skipped : skipLayout (.char ' ' :: next) = next := start
  have comma : skipLayout (.char ',' :: .char ' ' :: behind) =
      .char ',' :: .char ' ' :: behind := rfl
  have skipped' : skipLayout (.char ' ' :: behind) = behind := start'
  simp only [readMembers, named, reads, bind, Except.bind, colon, skipped, comma, skipped']
  cases readMembers steps room behind <;> rfl

theorem readValue_list (start : skipLayout text = text)
    (first : text.head? ≠ some (.char ']')) :
    readValue (steps + 1) (room + 1) (.char '[' :: text) =
      (readItems steps room text).map (.map .arr id) := by
  rw [readValue, start]
  split
  · exact absurd rfl first
  · cases readItems steps room text <;> rfl

theorem readValue_record : readValue (steps + 1) (room + 1) (.char '\x7b' :: .char '"' :: text) =
    (readMembers steps room (.char '"' :: text)).map
      (.map (fun members => .obj (Named.update [] members)) id) := by
  have start : skipLayout (.char '"' :: text) = .char '"' :: text := rfl
  rw [readValue, start]
  split
  · next same => simp at same
  · cases readMembers steps room (.char '"' :: text) <;> rfl

end Steps

theorem ReadsItems.last (reads : ReadsValue need room text value (.char ']' :: rest)) :
    ReadsItems (need + 1) room text [value] rest
  | steps + 1, enough => by
    rw [readItems, reads steps (Nat.le_of_succ_le_succ enough)]
    rfl

theorem ReadsItems.cons (start : skipLayout next = next)
    (reads : ReadsValue need room text value (.char ',' :: .char ' ' :: next))
    (others : ReadsItems need room next items rest) :
    ReadsItems (need + 1) room text (value :: items) rest
  | steps + 1, enough => by
    have enough := Nat.le_of_succ_le_succ enough
    rw [readItems_behind start (reads steps enough), others steps enough]
    rfl

theorem ReadsMembers.last (start : skipLayout next = next)
    (named : ReadsText need text name (.char ':' :: .char ' ' :: next))
    (reads : ReadsValue need room next value (.char '\x7d' :: rest)) :
    ReadsMembers (need + 1) room (.char '"' :: text) [(name, value)] rest
  | steps + 1, enough => by
    have colon : skipLayout (.char ':' :: .char ' ' :: next) = .char ':' :: .char ' ' :: next := rfl
    have skipped : skipLayout (.char ' ' :: next) = next := start
    have brace : skipLayout (.char '\x7d' :: rest) = .char '\x7d' :: rest := rfl
    have enough := Nat.le_of_succ_le_succ enough
    simp only [readMembers, named _ steps enough, reads steps enough, bind, Except.bind, colon,
      skipped, brace]

theorem ReadsMembers.cons {behind : Text} (start : skipLayout next = next)
    (start' : skipLayout behind = behind)
    (named : ReadsText need text name (.char ':' :: .char ' ' :: next))
    (reads : ReadsValue need room next value (.char ',' :: .char ' ' :: behind))
    (others : ReadsMembers need room behind members rest) :
    ReadsMembers (need + 1) room (.char '"' :: text) ((name, value) :: members) rest
  | steps + 1, enough => by
    have enough := Nat.le_of_succ_le_succ enough
    rw [readMembers_behind start start' (named · steps enough) (reads steps enough),
      others steps enough]
    rfl

theorem ReadsValue.list (start : skipLayout text = text) (first : text.head? ≠ some (.char ']'))
    (reads : ReadsItems need room text items rest) :
    ReadsValue (need + 1) (room + 1) (.char '[' :: text) (.arr items) rest
  | steps + 1, enough => by
    rw [readValue_list start first, reads steps (Nat.le_of_succ_le_succ enough)]
    rfl

theorem ReadsValue.record (reads : ReadsMembers need room (.char '"' :: text) members rest) :
    ReadsValue (need + 1) (room + 1) (.char '\x7b' :: .char '"' :: text)
      (.obj (Named.update [] members)) rest
  | steps + 1, enough => by
    rw [readValue_record, reads steps (Nat.le_of_succ_le_succ enough)]
    rfl

end Rules

theorem renderItems_cons (item : Json) (others : List Json) (rest : Text) :
    ∃ behind, ofChars (renderItems (item :: others)) ++ rest = ofChars (render item) ++ behind := by
  cases others with
  | nil => exact ⟨rest, by simp [renderItems]⟩
  | cons next others =>
    exact ⟨ofChars (',' :: ' ' :: renderItems (next :: others)) ++ rest, by
      simp [renderItems, ofChars]⟩

theorem skipLayout_renderItems (item : Json) (others : List Json) (rest : Text) :
    skipLayout (ofChars (renderItems (item :: others)) ++ rest) =
      ofChars (renderItems (item :: others)) ++ rest := by
  obtain ⟨behind, start⟩ := renderItems_cons item others rest
  rw [start, skipLayout_render]

theorem head?_renderItems (item : Json) (others : List Json) (rest : Text) :
    (ofChars (renderItems (item :: others)) ++ rest).head? ≠ some (.char ']') := by
  obtain ⟨behind, start⟩ := renderItems_cons item others rest
  obtain ⟨c, chars, first, _, other⟩ := render_starts item
  rw [start, first]
  simpa [ofChars] using other

theorem renderMembers_cons (name : Text) (value : Json) (others : List (Text × Json))
    (rest : Text) : ∃ behind, ofChars (renderMembers ((name, value) :: others)) ++ rest =
      .char '"' :: behind := by
  cases others with
  | nil => exact ⟨_, rfl⟩
  | cons next others => exact ⟨_, rfl⟩

theorem length_items (item next : Json) (others : List Json) :
    (renderItems (item :: next :: others)).length =
      (render item).length + (renderItems (next :: others)).length + 2 := by
  simp only [renderItems, List.length_append, List.length_cons]
  omega

theorem length_member (name : Text) (value : Json) :
    (renderMembers [(name, value)]).length = (quoted name).length + (render value).length + 2 := by
  simp only [renderMembers, List.length_append, List.length_cons]
  omega

theorem length_members (name : Text) (value : Json) (next : Text × Json)
    (others : List (Text × Json)) : (renderMembers ((name, value) :: next :: others)).length =
      (quoted name).length + (render value).length + (renderMembers (next :: others)).length +
        4 := by
  simp only [renderMembers, List.length_append, List.length_cons]
  omega

section Shapes

variable (rest : Text)

theorem ofChars_list (items : List Json) : ofChars (render (.arr items)) ++ rest =
    .char '[' :: (ofChars (renderItems items) ++ .char ']' :: rest) := by
  simp [render, ofChars]

theorem ofChars_items (item next : Json) (others : List Json) :
    ofChars (renderItems (item :: next :: others)) ++ rest =
      ofChars (render item) ++ .char ',' :: .char ' ' ::
        (ofChars (renderItems (next :: others)) ++ rest) := by
  simp [renderItems, ofChars]

theorem ofChars_record (members : List (Text × Json)) : ofChars (render (.obj members)) ++ rest =
    .char '\x7b' :: (ofChars (renderMembers members) ++ .char '\x7d' :: rest) := by
  simp [render, ofChars]

theorem ofChars_member (name : Text) (value : Json) :
    ofChars (renderMembers [(name, value)]) ++ rest =
      .char '"' :: behindQuote name
        (.char ':' :: .char ' ' :: (ofChars (render value) ++ rest)) := by
  rw [← quoted_append]
  simp [renderMembers, ofChars]

theorem ofChars_members (name : Text) (value : Json) (next : Text × Json)
    (others : List (Text × Json)) :
    ofChars (renderMembers ((name, value) :: next :: others)) ++ rest =
      .char '"' :: behindQuote name (.char ':' :: .char ' ' ::
        (ofChars (render value) ++ .char ',' :: .char ' ' ::
          (ofChars (renderMembers (next :: others)) ++ rest))) := by
  rw [← quoted_append]
  simp [renderMembers, ofChars]

end Shapes

theorem skipLayout_renderMembers (member : Text × Json) (others : List (Text × Json))
    (rest : Text) : skipLayout (ofChars (renderMembers (member :: others)) ++ rest) =
      ofChars (renderMembers (member :: others)) ++ rest := by
  obtain ⟨behind, start⟩ := renderMembers_cons member.1 member.2 others rest
  rw [start]
  exact skipLayout_cons rfl behind

/-- A record is read as the assignments that its members are. -/
theorem readsValue_render_record {member : Text × Json} {others members' : List (Text × Json)}
    {room : Nat} {rest : Text}
    (reads : ReadsMembers (2 * (renderMembers (member :: others)).length + 1) room
      (ofChars (renderMembers (member :: others)) ++ .char '\x7d' :: rest) members' rest) :
    ReadsValue (2 * (render (.obj (member :: others))).length) (room + 1)
      (ofChars (render (.obj (member :: others))) ++ rest) (.obj (Named.update [] members'))
      rest := by
  obtain ⟨text, start⟩ := renderMembers_cons member.1 member.2 others (.char '\x7d' :: rest)
  rw [start] at reads
  rw [ofChars_record, start]
  refine (ReadsValue.record reads).mono ?_
  simp only [render, List.length_cons, List.length_append]
  omega

-- The induction is on the value. A step is taken for each value, member and code point, and none of
-- them is printed without a character of its own: two steps for each character are enough.
mutual

/-- A printed value is read back up to its end. -/
theorem readsValue_render : ∀ (j : Json) {room : Nat} {rest : Text}, depth j ≤ room →
    isBrief j = true → Ends rest →
    ∃ j', ReadsValue (2 * (render j).length) room (ofChars (render j) ++ rest) j' rest ∧
      (isExact j = true → j' = j)
  | .null, room, rest, _, _, _ => ⟨.null,
      (ReadsValue.atom (by decide) (by decide) (by decide) rfl).mono (by decide), fun _ => rfl⟩
  | .bool b, room, rest, _, _, _ => by
    refine ⟨.bool b, ?_, fun _ => rfl⟩
    cases b <;>
      exact (ReadsValue.atom (by decide) (by decide) (by decide) rfl).mono (by decide)
  | .int n, room, rest, _, brief, ends => by
    have read := readAtom_intDigits n ends
    rw [if_neg (Nat.not_lt.2 (of_decide_eq_true brief))] at read
    obtain ⟨c, others, start, starts⟩ := intDigits_starts n
    rw [start] at read
    rw [render, start]
    exact ⟨.int n, (ReadsValue.number starts read).mono (by simp; omega), fun _ => rfl⟩
  | .float x, room, rest, _, _, ends => by
    obtain ⟨y, read⟩ := readAtom_float x ends
    obtain ⟨c, others, start, starts⟩ := write_starts x
    rw [start] at read
    rw [render, start]
    exact ⟨.float y, (ReadsValue.number starts read).mono (by simp; omega), fun exact => by
      cases exact⟩
  | .str s, room, rest, _, _, _ => by
    obtain ⟨s', reads, same⟩ := readsText_quoted s rest
    rw [render, quoted_append]
    refine ⟨.str s', (ReadsValue.str reads).mono ?_, fun exact => ?_⟩
    · simp only [quoted, List.length_cons]
      omega
    · rw [same.eq_of_plain (by simpa [isExact] using exact)]
  | .arr [], room + 1, rest, _, _, _ => ⟨.arr [], fun | steps + 1, _ => rfl, fun _ => rfl⟩
  | .arr (item :: others), room + 1, rest, deep, brief, _ => by
    obtain ⟨items', reads, same⟩ := readsItems_render (item :: others) rest (by simp)
      (Nat.le_of_succ_le_succ deep) brief
    have start := skipLayout_renderItems item others (.char ']' :: rest)
    have first := head?_renderItems item others (.char ']' :: rest)
    rw [ofChars_list]
    refine ⟨.arr items', (ReadsValue.list start first reads).mono ?_, fun exact => ?_⟩
    · simp only [render, List.length_cons, List.length_append]
      omega
    · rw [same exact]
  | .obj [], room + 1, rest, _, _, _ => ⟨.obj [], fun | steps + 1, _ => rfl, fun _ => rfl⟩
  | .obj ((name, value) :: others), room + 1, rest, deep, brief, _ => by
    obtain ⟨members', reads, same⟩ := readsMembers_render ((name, value) :: others) rest (by simp)
      (Nat.le_of_succ_le_succ deep) brief
    refine ⟨.obj (Named.update [] members'), readsValue_render_record reads, fun exact => ?_⟩
    rw [isExact, Bool.and_eq_true, decide_eq_true_eq] at exact
    rw [eq_of_reread same exact.2, Named.update_nil exact.1]

theorem readsItems_render : ∀ (items : List Json) {room : Nat} (rest : Text), items ≠ [] →
    depthOfItems items ≤ room → areBrief items = true →
    ∃ items', ReadsItems (2 * (renderItems items).length + 1) room
        (ofChars (renderItems items) ++ .char ']' :: rest) items' rest ∧
      (areExact items = true → items' = items)
  | [item], room, rest, _, deep, brief => by
    simp only [renderItems, depthOfItems, areBrief, Nat.max_zero, Bool.and_true] at deep brief ⊢
    obtain ⟨item', reads, same⟩ := readsValue_render item deep brief (.list rest)
    refine ⟨[item'], ReadsItems.last reads, fun exact => ?_⟩
    rw [same (by simpa [areExact] using exact)]
  | item :: next :: others, room, rest, _, deep, brief => by
    rw [areBrief, Bool.and_eq_true] at brief
    rw [depthOfItems, Nat.max_le] at deep
    obtain ⟨item', reads, same⟩ := readsValue_render item deep.1 brief.1
      (.item (.char ' ' :: (ofChars (renderItems (next :: others)) ++ .char ']' :: rest)))
    obtain ⟨others', reads', same'⟩ := readsItems_render (next :: others) rest (by simp) deep.2
      brief.2
    have start := skipLayout_renderItems next others (.char ']' :: rest)
    have length := length_items item next others
    rw [ofChars_items]
    refine ⟨item' :: others', ReadsItems.cons start (reads.mono (by omega))
      (reads'.mono (by omega)),
      fun exact => ?_⟩
    rw [areExact, Bool.and_eq_true] at exact
    rw [same exact.1, same' exact.2]

theorem readsMembers_render : ∀ (members : List (Text × Json)) {room : Nat} (rest : Text),
    members ≠ [] → depthOfMembers members ≤ room → haveBrief members = true →
    ∃ members', ReadsMembers (2 * (renderMembers members).length + 1) room
        (ofChars (renderMembers members) ++ .char '\x7d' :: rest) members' rest ∧
      List.Forall₂ RereadMember members members'
  | [(name, value)], room, rest, _, deep, brief => by
    simp only [depthOfMembers, haveBrief, Nat.max_zero, Bool.and_true] at deep brief
    obtain ⟨value', reads, same⟩ := readsValue_render value deep brief (.record rest)
    obtain ⟨name', named, alike⟩ := readsText_quoted name (.char ':' :: .char ' ' ::
      (ofChars (render value) ++ .char '\x7d' :: rest))
    have start := skipLayout_render value (.char '\x7d' :: rest)
    have length := length_member name value
    rw [ofChars_member]
    exact ⟨[(name', value')], ReadsMembers.last start (named.mono (by omega))
      (reads.mono (by omega)), .cons ⟨alike, same⟩ .nil⟩
  | (name, value) :: next :: others, room, rest, _, deep, brief => by
    rw [haveBrief, Bool.and_eq_true] at brief
    rw [depthOfMembers, Nat.max_le] at deep
    obtain ⟨value', reads, same⟩ := readsValue_render value deep.1 brief.1
      (.item (.char ' ' :: (ofChars (renderMembers (next :: others)) ++ .char '\x7d' :: rest)))
    obtain ⟨others', reads', same'⟩ := readsMembers_render (next :: others) rest (by simp) deep.2
      brief.2
    let behind := ofChars (renderMembers (next :: others)) ++ .char '\x7d' :: rest
    obtain ⟨name', named, alike⟩ := readsText_quoted name (.char ':' :: .char ' ' ::
      (ofChars (render value) ++ .char ',' :: .char ' ' :: behind))
    have start := skipLayout_render value (.char ',' :: .char ' ' :: behind)
    have start' : skipLayout behind = behind := skipLayout_renderMembers next others _
    have length := length_members name value next others
    rw [ofChars_members]
    exact ⟨(name', value') :: others', ReadsMembers.cons start start' (named.mono (by omega))
      (reads.mono (by omega)) (reads'.mono (by omega)), .cons ⟨alike, same⟩ same'⟩

end

section Printed

theorem isPrinted_of_isDigits {digits : List Char} (run : IsDigits digits) : IsPrinted digits := by
  intro c member
  have digit := run c member
  simp only [Char.isDigit, Bool.and_eq_true, decide_eq_true_eq, ge_iff_le,
    UInt32.le_iff_toNat_le] at digit
  have low : 48 ≤ c.toNat := digit.1
  have high : c.toNat ≤ 57 := digit.2
  omega

theorem isPrinted_intDigits (n : Int) : IsPrinted (intDigits n) := by
  have digits := isPrinted_of_isDigits (isDigits_digitsOf n.natAbs)
  unfold intDigits
  split
  · exact List.forall_mem_cons.2 ⟨by decide, digits⟩
  · exact digits

theorem IsWhole.isDigits {whole : List Char} (start : IsWhole whole) : IsDigits whole := by
  cases start with
  | zero => exact isDigits_zeros 1
  | digits _ run => exact run

theorem isPrinted_of_isReal {text : List Char} (real : IsReal text) : IsPrinted text := by
  have power {sign : Char} {size : List Char} (signed : sign = '-' ∨ sign = '+')
      (run : IsRun size) : IsPrinted ('e' :: sign :: size) := by
    refine List.forall_mem_cons.2 ⟨by decide, List.forall_mem_cons.2 ⟨?_, ?_⟩⟩
    · rcases signed with rfl | rfl <;> decide
    · exact isPrinted_of_isDigits run.digits
  cases real with
  | point start run =>
    exact isPrinted_append.2 ⟨isPrinted_of_isDigits start.isDigits,
      List.forall_mem_cons.2 ⟨by decide, isPrinted_of_isDigits run.digits⟩⟩
  | power start signed run =>
    exact isPrinted_append.2 ⟨isPrinted_of_isDigits start.isDigits, power signed run⟩
  | both start behind signed run =>
    exact isPrinted_append.2 ⟨isPrinted_of_isDigits start.isDigits, List.forall_mem_cons.2
      ⟨by decide, isPrinted_append.2 ⟨isPrinted_of_isDigits behind.digits, power signed run⟩⟩⟩

theorem isPrinted_write (x : Float) : IsPrinted (dataLayout.write x) := by
  have shape := isFloatText_write x
  generalize dataLayout.write x = text at shape ⊢
  cases shape with
  | nan | infinity | minusInfinity => decide
  | real real => exact isPrinted_of_isReal real
  | minusReal real => exact List.forall_mem_cons.2 ⟨by decide, isPrinted_of_isReal real⟩

mutual

/-- Values are printed in printable ASCII. -/
theorem isPrinted_render : ∀ j : Json, IsPrinted (render j)
  | .null => by decide
  | .bool b => by cases b <;> decide
  | .int n => isPrinted_intDigits n
  | .float x => isPrinted_write x
  | .str s => isPrinted_quoted s
  | .arr items => by
    refine List.forall_mem_cons.2 ⟨by decide, isPrinted_append.2 ⟨isPrinted_renderItems items, ?_⟩⟩
    exact List.forall_mem_singleton.2 (by decide)
  | .obj members => by
    refine List.forall_mem_cons.2
      ⟨by decide, isPrinted_append.2 ⟨isPrinted_renderMembers members, ?_⟩⟩
    exact List.forall_mem_singleton.2 (by decide)

theorem isPrinted_renderItems : ∀ items : List Json, IsPrinted (renderItems items)
  | [] => by simp [renderItems, IsPrinted]
  | [item] => isPrinted_render item
  | item :: next :: rest => by
    refine isPrinted_append.2 ⟨isPrinted_render item, ?_⟩
    exact List.forall_mem_cons.2 ⟨by decide, List.forall_mem_cons.2
      ⟨by decide, isPrinted_renderItems (next :: rest)⟩⟩

theorem isPrinted_renderMembers : ∀ members : List (Text × Json),
    IsPrinted (renderMembers members)
  | [] => by simp [renderMembers, IsPrinted]
  | [(name, value)] => by
    refine isPrinted_append.2 ⟨isPrinted_quoted name, ?_⟩
    exact List.forall_mem_cons.2 ⟨by decide, List.forall_mem_cons.2
      ⟨by decide, isPrinted_render value⟩⟩
  | (name, value) :: next :: rest => by
    refine isPrinted_append.2 ⟨isPrinted_quoted name, ?_⟩
    refine List.forall_mem_cons.2 ⟨by decide, List.forall_mem_cons.2 ⟨by decide, ?_⟩⟩
    refine isPrinted_append.2 ⟨isPrinted_render value, ?_⟩
    exact List.forall_mem_cons.2 ⟨by decide, List.forall_mem_cons.2
      ⟨by decide, isPrinted_renderMembers (next :: rest)⟩⟩

end

end Printed

/-- A printed value starts with no byte order mark and no layout. -/
theorem read_render_eq (room : Nat) (j : Json) :
    read room (ofChars (render j)) = readWithin room (ofChars (render j)) ∧
      skipLayout (ofChars (render j)) = ofChars (render j) := by
  have start := skipLayout_render j []
  rw [List.append_nil] at start
  obtain ⟨c, others, first, -⟩ := render_starts j
  have small := (isPrinted_render j c (by simp [first])).2
  have mark : ¬ (CodePoint.char c).code = 0xFEFF := by
    simp only [CodePoint.code]
    omega
  rw [first] at start ⊢
  exact ⟨if_neg mark, start⟩

/-- A value that was read to the end of its text is what the text is read as. -/
theorem read_of_readsValue {j value : Json} {room : Nat}
    (reads : ReadsValue (2 * (render j).length) room (ofChars (render j) ++ []) value []) :
    read room (ofChars (render j)) = .ok value := by
  obtain ⟨within, start⟩ := read_render_eq room j
  rw [List.append_nil] at reads
  rw [within, readWithin, start, reads _ (by simp [ofChars])]
  rfl

/-- A printed value is read, as itself if it is exact. -/
theorem read_render {j : Json} {room : Nat} (deep : depth j ≤ room) (brief : isBrief j = true) :
    ∃ j', read room (ofChars (render j)) = .ok j' ∧ (isExact j = true → j' = j) := by
  obtain ⟨j', reads, same⟩ := readsValue_render j deep brief .text
  exact ⟨j', read_of_readsValue reads, same⟩

/-- A printed record is read member by member. -/
theorem read_record {member : Text × Json} {others : List (Text × Json)} {room : Nat}
    (deep : depthOfMembers (member :: others) ≤ room)
    (brief : haveBrief (member :: others) = true) :
    ∃ members', read (room + 1) (ofChars (render (.obj (member :: others)))) =
        .ok (.obj (Named.update [] members')) ∧
      List.Forall₂ RereadMember (member :: others) members' := by
  obtain ⟨members', reads, same⟩ :=
    readsMembers_render (member :: others) [] (by simp) deep brief
  exact ⟨members', read_of_readsValue (readsValue_render_record reads), same⟩

/-- Of members that are read one by one, the one at a place is read for the one there. -/
theorem split_of_forall₂ {α β : Type} {related : α → β → Prop} {before after : List α} {at' : α}
    {all : List β} (related_all : List.Forall₂ related (before ++ at' :: after) all) :
    ∃ before' b after', all = before' ++ b :: after' ∧ related at' b ∧
      List.Forall₂ related after after' := by
  induction before generalizing all with
  | nil =>
    cases related_all with
    | @cons _ b _ after' here there => exact ⟨[], b, after', rfl, here, there⟩
  | cons first rest ih =>
    cases related_all with
    | @cons _ b _ later _ there =>
      obtain ⟨before', c, after', rfl, here, behind⟩ := ih there
      exact ⟨b :: before', c, after', rfl, here, behind⟩

theorem not_mem_names_of_reread {after after' : List (Text × Json)} {name : Text}
    (small : ∀ c ∈ name, c.code < 0x10000) (same : List.Forall₂ RereadMember after after')
    (other : name ∉ after.map Prod.fst) : name ∉ after'.map Prod.fst := by
  induction same with
  | nil => exact other
  | @cons member member' rest rest' alike _ ih =>
    rw [List.map_cons, List.mem_cons, not_or] at other ⊢
    refine ⟨fun named => other.1 ?_, ih other.2⟩
    rw [named] at small
    rw [named, alike.1.eq_of_small small]

/-- What is found under a plain name in a record that was read is the last value that was printed
under it. -/
theorem lookup_reread {before after members' : List (Text × Json)} {name : Text} {value : Json}
    (same : List.Forall₂ RereadMember (before ++ (name, value) :: after) members')
    (plain : name.any CodePoint.isSurrogate = false) (small : ∀ c ∈ name, c.code < 0x10000)
    (exact : isExact value = true) (last : name ∉ after.map Prod.fst) :
    (Named.update [] members').lookup name = some value := by
  obtain ⟨before', ⟨name', value'⟩, after', rfl, ⟨named, same⟩, behind⟩ := split_of_forall₂ same
  obtain rfl : name' = name := named.eq_of_plain plain
  obtain rfl : value' = value := same exact
  exact Named.lookup_update_of_last value' [] before' (not_mem_names_of_reread small behind last)

/-- A printed record of distinct names is read, and under each of its plain names the value is found
that was printed there, if this is exact. -/
theorem read_members {members : List (Text × Json)} {room : Nat}
    (once : (members.map Prod.fst).Nodup)
    (fits : ∀ member ∈ members, depth member.2 ≤ room ∧ isBrief member.2 = true) :
    ∃ back, read (room + 1) (ofChars (render (.obj members))) = .ok back ∧
      ∀ member ∈ members, member.1.any CodePoint.isSurrogate = false →
        (∀ c ∈ member.1, c.code < 0x10000) → isExact member.2 = true →
          back.member? member.1 = some member.2 := by
  cases members with
  | nil =>
    have deep : depth (.obj []) ≤ room + 1 := by simp [depth, depthOfMembers]
    obtain ⟨back, reads, -⟩ := read_render deep rfl
    exact ⟨back, reads, by simp⟩
  | cons first rest =>
    have deep := depthOfMembers_le_iff.2 fun member there => (fits member there).1
    have brief := haveBrief_iff.2 fun member there => (fits member there).2
    obtain ⟨members', reads, same⟩ := read_record deep brief
    refine ⟨_, reads, fun member there plain small exact => ?_⟩
    obtain ⟨before, after, split⟩ := List.append_of_mem there
    rw [split, List.map_append, List.map_cons] at once
    have last := (List.nodup_cons.1 (List.nodup_append.1 once).2.1).1
    exact lookup_reread (split ▸ same) plain small exact last

end Json
end PackOpening
