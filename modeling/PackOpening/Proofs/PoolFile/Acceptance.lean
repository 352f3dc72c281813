import Mathlib.Order.Bounds.Basic
import PackOpening.Proofs.PoolFile.Exports

/-!
Which pool files are taken.

A file is taken exactly if its data hold a list and each element of the list is an object that
describes a card. Every element gives one card then. A file that is not taken is reported for its
want of a list, or for the first element that describes no card, whatever stands behind it.
-/
namespace PackOpening

open PackOpening.Json PackOpening.Text

namespace Json

variable {α β : Type}

theorem map_eq_ok_iff {f : α → β} {x : Checked α} {value : β} :
    f <$> x = .ok value ↔ ∃ a, x = .ok a ∧ f a = value := by
  cases x with
  | ok a =>
    constructor
    · intro same
      exact ⟨a, rfl, Checked.ok.inj same⟩
    · rintro ⟨_, ⟨⟩, rfl⟩
      rfl
  | flawed flaws =>
    constructor
    · intro same
      cases same
    · rintro ⟨_, ⟨⟩, _⟩

/-- Two checks succeed together only if each does. -/
theorem seq_eq_ok_iff {f : Checked (α → β)} {x : Checked α} {value : β} :
    f <*> x = .ok value ↔ ∃ g a, f = .ok g ∧ x = .ok a ∧ g a = value := by
  cases f with
  | flawed flaws =>
    constructor
    · intro same
      cases same
    · rintro ⟨_, _, ⟨⟩, _⟩
  | ok g =>
    cases x with
    | ok a =>
      constructor
      · intro same
        exact ⟨g, a, rfl, rfl, Checked.ok.inj same⟩
      · rintro ⟨_, _, ⟨⟩, ⟨⟩, rfl⟩
        rfl
    | flawed flaws =>
      constructor
      · intro same
        cases same
      · rintro ⟨_, _, _, ⟨⟩, _⟩

theorem within_eq_ok_iff {step : Step} {x : Checked α} {value : α} :
    x.within step = .ok value ↔ x = .ok value := by
  cases x <;> simp [Checked.within]

theorem text_eq_ok_iff {j : Json} {s : Text} : text j = .ok s ↔ j = .str s := by
  cases j <;> simp [text, reject]

theorem optional_text_eq_ok_iff {j : Json} {value : Option Text} :
    optional text j = .ok value ↔ j = .ofText? value := by
  cases value <;> cases j <;> simp [optional, text, reject, Checked.map, Json.ofText?]

theorem itemsFrom_text_eq_ok_iff {items : List Json} {texts : List Text} {position : Nat} :
    itemsFrom text position items = .ok texts ↔ items = texts.map .str := by
  constructor
  · intro checked
    induction items generalizing texts position with
    | nil =>
      cases checked
      rfl
    | cons item rest ih =>
      rw [itemsFrom, seq_eq_ok_iff] at checked
      obtain ⟨_, others, first, later, rfl⟩ := checked
      obtain ⟨s, here, rfl⟩ := map_eq_ok_iff.1 first
      rw [text_eq_ok_iff.1 (within_eq_ok_iff.1 here), ih later]
      rfl
  · rintro rfl
    exact itemsFrom_map .str (fun _ => rfl) texts position

theorem listOf_text_eq_ok_iff {j : Json} {texts : List Text} :
    listOf text j = .ok texts ↔ j = .ofTexts texts := by
  cases j <;> simp [listOf, reject, Json.ofTexts, itemsFrom_text_eq_ok_iff]

theorem required_eq_ok_iff {name : Text} {check : Json → Checked α} {whole : Json} {value : α} :
    required name check whole = .ok value ↔
      ∃ j, whole.member? name = some j ∧ check j = .ok value := by
  unfold required
  cases whole.member? name <;> simp [within_eq_ok_iff]

/-- A member that is there is checked, and its default plays no part. -/
theorem withDefault_eq_ok_iff {name : Text} {default value : α} {check : Json → Checked α}
    {whole j : Json} (given : whole.member? name = some j) :
    withDefault name default check whole = .ok value ↔ check j = .ok value := by
  unfold withDefault
  rw [given, within_eq_ok_iff]

end Json

namespace Card

/-- The texts that an exported object may leave out. -/
def textNames : List Text := ["name", "set", "rarity"]

/-- The texts for which an exported object may also have null. -/
def nullableNames : List Text := ["collector_number", "type_line", "border_color"]

/-- An object that describes a card: it has a text for its id, and wherever it gives one of the
other texts or the frame effects, it gives them in their kind. Only an object has members. -/
structure IsWellFormed (item : Json) : Prop where
  id : ∃ s, item.member? "id" = some (.str s)
  texts : ∀ name ∈ textNames, ∀ value, item.member? name = some value → ∃ s, value = .str s
  nullable : ∀ name ∈ nullableNames, ∀ value, item.member? name = some value →
    value = .null ∨ ∃ s, value = .str s
  effects : ∀ value, item.member? "frame_effects" = some value →
    value.truthy = false ∨ ∃ texts, value = .ofTexts texts

/-- The text that a member is, the empty one if it is absent. -/
def textOf : Option Json → Text
  | some (.str s) => s
  | _ => []

def textOf? : Option Json → Option Text
  | some (.str s) => some s
  | _ => none

def textsOf : Option Json → List Text
  | some (.arr items) => items.map fun item => textOf (some item)
  | _ => []

/-- The card that an object describes. What it does not say is empty, absent or false. -/
def described (item : Json) : Card where
  id := textOf (item.member? "id")
  name := textOf (item.member? "name")
  setCode := textOf (item.member? "set")
  collectorNumber := textOf? (item.member? "collector_number")
  rarity := textOf (item.member? "rarity")
  disabled := (item.member? "disabled").any Json.truthy
  typeLine := textOf? (item.member? "type_line")
  borderColor := textOf? (item.member? "border_color")
  fullArt := (item.member? "full_art").any Json.truthy
  frameEffects := textsOf (item.member? "frame_effects")

section Members

variable {member : Option Json}

theorem getD_text (given : ∀ value, member = some value → ∃ s, value = .str s) :
    member.getD (.str "") = .str (textOf member) := by
  cases member with
  | none => rfl
  | some value =>
    obtain ⟨s, rfl⟩ := given value rfl
    rfl

theorem getD_nullable (given : ∀ value, member = some value → value = .null ∨ ∃ s, value = .str s) :
    member.getD .null = .ofText? (textOf? member) := by
  cases member with
  | none => rfl
  | some value =>
    obtain rfl | ⟨s, rfl⟩ := given value rfl
    · rfl
    · rfl

theorem getD_truth : (member.getD (.bool false)).truthy = member.any Json.truthy := by
  cases member <;> rfl

theorem textsOf_ofTexts (texts : List Text) : textsOf (some (.ofTexts texts)) = texts := by
  simp [textsOf, Json.ofTexts, textOf, Function.comp_def]

/-- Whatever is empty or zero stands for no frame effects. -/
theorem textsOf_of_not_truthy {value : Json} (falsy : value.truthy = false) :
    textsOf (some value) = [] := by
  cases value with
  | arr items => simpa [Json.truthy, textsOf] using falsy
  | null | bool | int | float | str | obj => rfl

theorem effects_eq (given : ∀ value, member = some value →
      value.truthy = false ∨ ∃ texts, value = .ofTexts texts) :
    (if (member.getD .null).truthy then member.getD .null else .arr []) =
      .ofTexts (textsOf member) := by
  cases member with
  | none => rfl
  | some value =>
    rw [Option.getD_some]
    cases truthy : value.truthy with
    | false =>
      rw [textsOf_of_not_truthy truthy]
      rfl
    | true =>
      obtain falsy | ⟨texts, rfl⟩ := given value rfl
      · rw [truthy] at falsy
        cases falsy
      · rw [textsOf_ofTexts]
        rfl

end Members

variable {item : Json}

theorem ofExport_of_isWellFormed (wellFormed : IsWellFormed item) :
    ofExport false item = .ok (described item) := by
  obtain ⟨s, id⟩ := wellFormed.id
  cases item with
  | obj members =>
    have named (name : Text) (listed : name ∈ textNames) := getD_text (wellFormed.texts name listed)
    have nullable (name : Text) (listed : name ∈ nullableNames) :=
      getD_nullable (wellFormed.nullable name listed)
    have effects := effects_eq wellFormed.effects
    have described : (described (.obj members)).IsDescribedBy
        (.obj (exportedMembers false (.str s) (.obj members))) :=
      { id := by rw [Card.described, id]; rfl
        name := congrArg some (named "name" (by decide))
        setCode := congrArg some (named "set" (by decide))
        collectorNumber := congrArg some (nullable "collector_number" (by decide))
        rarity := congrArg some (named "rarity" (by decide))
        disabled := congrArg (some ∘ Json.bool) getD_truth
        typeLine := congrArg some (nullable "type_line" (by decide))
        borderColor := congrArg some (nullable "border_color" (by decide))
        fullArt := congrArg (some ∘ Json.bool) getD_truth
        frameEffects := congrArg some effects }
    have there : members.lookup ("id" : Text) = some (.str s) := id
    simp only [ofExport, there, ofRecord_of_isDescribedBy described]
  | null | bool | int | float | str | arr => cases id

/-- Where a card was read, each text and each list of texts was. -/
theorem of_ofRecord {card : Card} {whole : Json} (read : ofRecord whole = .ok card) :
    required "id" text whole = .ok card.id ∧
    withDefault "name" ("" : Text) text whole = .ok card.name ∧
    withDefault "set_code" ("" : Text) text whole = .ok card.setCode ∧
    withDefault "collector_number" none (optional text) whole = .ok card.collectorNumber ∧
    required "rarity" text whole = .ok card.rarity ∧
    withDefault "type_line" none (optional text) whole = .ok card.typeLine ∧
    withDefault "border_color" none (optional text) whole = .ok card.borderColor ∧
    withDefault "frame_effects" [] (listOf text) whole = .ok card.frameEffects := by
  simp only [ofRecord, seq_eq_ok_iff, map_eq_ok_iff] at read
  obtain ⟨_, _, ⟨_, _, ⟨_, _, ⟨_, _, ⟨_, _, ⟨_, _, ⟨_, _, ⟨_, _, ⟨_, _, ⟨_, id, rfl⟩, name, rfl⟩,
    set, rfl⟩, number, rfl⟩, rarity, rfl⟩, -, rfl⟩, line, rfl⟩, border, rfl⟩, -, rfl⟩, effects,
    rfl⟩ := read
  exact ⟨id, name, set, number, rarity, line, border, effects⟩

theorem eq_of_getD_eq {member : Option Json} {default j value : Json}
    (read : member.getD default = j) (there : member = some value) : value = j := by
  rwa [there] at read

theorem null_or_str_of_getD {member : Option Json} {read : Option Text} {value : Json}
    (same : member.getD .null = .ofText? read) (there : member = some value) :
    value = .null ∨ ∃ s, value = .str s := by
  rw [eq_of_getD_eq same there]
  cases read with
  | none => exact .inl rfl
  | some s => exact .inr ⟨s, rfl⟩

theorem effects_of_getD {member : Option Json} {texts : List Text} {value : Json}
    (same : (if (member.getD .null).truthy then member.getD .null else .arr []) = .ofTexts texts)
    (there : member = some value) : value.truthy = false ∨ ∃ texts, value = .ofTexts texts := by
  rw [there, Option.getD_some] at same
  cases truthy : value.truthy with
  | false => exact .inl rfl
  | true =>
    rw [if_pos truthy] at same
    exact .inr ⟨texts, same⟩

theorem isWellFormed_of_ofExport {card : Card} (taken : ofExport false item = .ok card) :
    IsWellFormed item := by
  cases item with
  | obj members =>
    simp only [ofExport] at taken
    split at taken
    · cases taken
    next id there =>
    split at taken
    · next read =>
      obtain ⟨own, name, set, number, rarity, line, border, effects⟩ := of_ofRecord read
      rw [required_eq_ok_iff] at own rarity
      obtain ⟨_, ⟨⟩, own⟩ := own
      obtain ⟨_, ⟨⟩, rarity⟩ := rarity
      rw [withDefault_eq_ok_iff rfl] at name set number line border effects
      rw [text_eq_ok_iff] at own name set rarity
      rw [optional_text_eq_ok_iff] at number line border
      rw [listOf_text_eq_ok_iff] at effects
      refine ⟨⟨_, own ▸ there⟩, ?_, ?_, ?_⟩
      · intro listed member value given
        simp only [textNames, List.mem_cons, List.not_mem_nil, or_false] at member
        rcases member with rfl | rfl | rfl
        · exact ⟨_, eq_of_getD_eq name given⟩
        · exact ⟨_, eq_of_getD_eq set given⟩
        · exact ⟨_, eq_of_getD_eq rarity given⟩
      · intro listed member value given
        simp only [nullableNames, List.mem_cons, List.not_mem_nil, or_false] at member
        rcases member with rfl | rfl | rfl
        · exact null_or_str_of_getD number given
        · exact null_or_str_of_getD line given
        · exact null_or_str_of_getD border given
      · intro value given
        exact effects_of_getD effects given
    · cases taken
  | null | bool | int | float | str | arr => cases taken

/-- An object gives a card exactly if it is well-formed, and then the one that it describes. -/
theorem ofExport_cases (item : Json) :
    (IsWellFormed item ∧ ofExport false item = .ok (described item)) ∨
      (¬ IsWellFormed item ∧ ∃ fault, ofExport false item = .error fault) := by
  cases taken : ofExport false item with
  | ok card =>
    have wellFormed := isWellFormed_of_ofExport taken
    exact .inl ⟨wellFormed, taken.symm.trans (ofExport_of_isWellFormed wellFormed)⟩
  | error fault =>
    refine .inr ⟨fun wellFormed => ?_, fault, rfl⟩
    rw [ofExport_of_isWellFormed wellFormed] at taken
    cases taken

end Card

namespace PoolFile

open Card (IsWellFormed described)

/-- The list of card objects that data hold: the data itself, or the member `data` of a record,
which may be absent if there are no cards. -/
inductive HoldsCards : Json → List Json → Prop where
  | bare (items : List Json) : HoldsCards (.arr items) items
  | listed {members : List (Text × Json)} {items : List Json} :
      members.lookup ("data" : Text) = some (.arr items) → HoldsCards (.obj members) items
  | absent {members : List (Text × Json)} :
      members.lookup ("data" : Text) = none → HoldsCards (.obj members) []

theorem cardList?_eq_some_iff {data : Json} {items : List Json} :
    cardList? data = some items ↔ HoldsCards data items := by
  constructor
  · intro listed
    unfold cardList? at listed
    split at listed
    · cases listed
      exact .bare items
    · split at listed
      · next absent =>
        cases listed
        exact .absent absent
      · next there =>
        cases listed
        exact .listed there
      · cases listed
    · cases listed
  · rintro (_ | there | absent)
    · rfl
    · simp only [cardList?, there]
    · simp only [cardList?, absent]

/-- Objects are read up to the first that describes no card. -/
theorem cardsFrom_cases (index : Nat) (items : List Json) :
    ((∀ item ∈ items, IsWellFormed item) ∧ cardsFrom index items = .ok (items.map described)) ∨
    ∃ before item after fault, items = before ++ item :: after ∧
      (∀ earlier ∈ before, IsWellFormed earlier) ∧ ¬ IsWellFormed item ∧
      cardsFrom index items = .error (.badCard (index + before.length) fault) := by
  induction items generalizing index with
  | nil => exact .inl ⟨by simp, rfl⟩
  | cons first rest ih =>
    rcases Card.ofExport_cases first with ⟨good, taken⟩ | ⟨bad, fault, refused⟩
    · rcases ih (index + 1) with ⟨all, cards⟩ | ⟨before, item, after, fault, rfl, all, bad, blamed⟩
      · exact .inl ⟨List.forall_mem_cons.2 ⟨good, all⟩, by simp only [cardsFrom, taken, cards,
          List.map_cons]⟩
      · refine .inr ⟨first :: before, item, after, fault, rfl, List.forall_mem_cons.2 ⟨good, all⟩,
          bad, ?_⟩
        have moved : index + 1 + before.length = index + (first :: before).length := by
          rw [List.length_cons]
          omega
        simp only [cardsFrom, taken, blamed, moved]
    · exact .inr ⟨[], first, rest, fault, rfl, by simp, bad, by simp only [cardsFrom, refused,
        List.length_nil, Nat.add_zero]⟩

/-- The places in a list of objects that describe no card. -/
def badPlaces (items : List Json) : Set Nat :=
  {place | ∃ item, items[place]? = some item ∧ ¬ IsWellFormed item}

theorem isLeast_badPlaces {before after : List Json} {item : Json}
    (all : ∀ earlier ∈ before, IsWellFormed earlier) (bad : ¬ IsWellFormed item) :
    IsLeast (badPlaces (before ++ item :: after)) before.length := by
  constructor
  · exact ⟨item, by simp, bad⟩
  · rintro place ⟨other, there, flawed⟩
    by_contra low
    rw [List.getElem?_append_left (Nat.not_le.1 low)] at there
    exact flawed (all other (List.mem_of_getElem? there))

theorem HoldsCards.unique {data : Json} {items items' : List Json} (holds : HoldsCards data items)
    (holds' : HoldsCards data items') : items = items' := by
  rw [← cardList?_eq_some_iff] at holds holds'
  exact Option.some.inj (holds.symm.trans holds')

/-- Data that are a pool give its cards, and other data want a list or hold something that describes
no card. -/
theorem ofData_cases (data : Json) :
    (∃ items, HoldsCards data items ∧ (∀ item ∈ items, IsWellFormed item) ∧
      ofData data = .ok (items.map described)) ∨
    ((∀ items, ¬ HoldsCards data items) ∧ ofData data = .error .notAList) ∨
    ∃ items place fault, HoldsCards data items ∧ IsLeast (badPlaces items) place ∧
      ofData data = .error (.badCard place fault) := by
  cases listed : cardList? data with
  | none =>
    refine .inr (.inl ⟨fun items holds => ?_, by simp only [ofData, listed]⟩)
    rw [cardList?_eq_some_iff.2 holds] at listed
    cases listed
  | some items =>
    have holds : HoldsCards data items := cardList?_eq_some_iff.1 listed
    have settled : ofData data = cardsFrom 0 items := by simp only [ofData, listed]
    rw [settled]
    rcases cardsFrom_cases 0 items with
      ⟨all, cards⟩ | ⟨before, item, after, fault, rfl, all, bad, blamed⟩
    · exact .inl ⟨items, holds, all, cards⟩
    · rw [Nat.zero_add] at blamed
      exact .inr (.inr ⟨_, _, fault, holds, isLeast_badPlaces all bad, blamed⟩)

/-- Whatever room there is for nesting, a file whose data are read is taken exactly if they hold a
list of objects that each describe a card, and these are its cards, one for each object in their
order. Any other file is refused, for its want of a list or else for the first object that describes
no card. -/
theorem pool_file_taken_or_blamed {room : Nat} {root : Node} {path : Path} {bytes : List UInt8}
    {chars : List Char} {data : Json} (there : root.find path = .ok (.file bytes))
    (decoded : Utf8.decode bytes = .ok chars)
    (read : Json.read room (ofChars (lineFeeds chars)) = .ok data) (given plain : Text) :
    ((∃ cards, load room root path = .ok cards) ↔
      ∃ items, HoldsCards data items ∧ ∀ item ∈ items, IsWellFormed item) ∧
    (∀ cards, load room root path = .ok cards →
      ∃ items, HoldsCards data items ∧ cards = items.map described) ∧
    ∀ fault, load room root path = .error fault →
      ((∀ items, ¬ HoldsCards data items) ∧ fault = .notAList ∧
        fault.message given plain = given ++ ": expected a list of cards") ∨
      ∃ items place cause, HoldsCards data items ∧ IsLeast (badPlaces items) place ∧
        fault = .badCard place cause ∧
        fault.message given plain = given ++ ": card #" ++ ofChars (Numeric.digitsOf place) ++
          " is malformed (" ++ cause.message ++ ")" := by
  have loaded : load room root path = ofData data := by
    rw [load_of_file there]
    simp only [ofBytes, decoded, ofText, read]
  rw [loaded]
  rcases ofData_cases data with
    ⟨items, holds, all, taken⟩ | ⟨none, refused⟩ | ⟨items, place, cause, holds, least, blamed⟩
  · rw [taken]
    refine ⟨iff_of_true ⟨_, rfl⟩ ⟨items, holds, all⟩, ?_, ?_⟩
    · rintro _ ⟨⟩
      exact ⟨items, holds, rfl⟩
    · rintro _ ⟨⟩
  · rw [refused]
    refine ⟨iff_of_false ?_ ?_, ?_, ?_⟩
    · rintro ⟨_, ⟨⟩⟩
    · rintro ⟨items, holds, _⟩
      exact none items holds
    · rintro _ ⟨⟩
    · rintro _ ⟨⟩
      exact .inl ⟨none, rfl, rfl⟩
  · rw [blamed]
    refine ⟨iff_of_false ?_ ?_, ?_, ?_⟩
    · rintro ⟨_, ⟨⟩⟩
    · rintro ⟨others, holds', all⟩
      obtain ⟨item, at', bad⟩ := least.1
      rw [holds.unique holds'] at at'
      exact bad (all item (List.mem_of_getElem? at'))
    · rintro _ ⟨⟩
    · rintro _ ⟨⟩
      exact .inr ⟨items, place, cause, holds, least, rfl, rfl⟩

/-- A card that says little but is read, one whose name is null, and something that is no object:
the second is blamed. -/
theorem pool_file_taken_or_blamed_second :
    let first : Json := .obj [("id", .str "a"), ("frame_effects", .int 0), ("full_art", .str "no")]
    let second : Json := .obj [("id", .str "b"), ("name", .null)]
    let data : Json := .obj [("object", .str "list"), ("data", .arr [first, second, .int 3])]
    let bytes := asciiBytes (render data)
    let root : Node := .folder [("f.json", .file bytes)]
    (root.find ["f.json"] = .ok (.file bytes) ∧ Utf8.decode bytes = .ok (render data) ∧
      Json.read 4 (ofChars (lineFeeds (render data))) = .ok data) ∧
    ∃ fault cause, load 4 root ["f.json"] = .error fault ∧
      fault.message "f.json" "f.json" = "f.json: card #1 is malformed (" ++ cause ++ ")" := by
  intro first second data bytes root
  have printed := isPrinted_render data
  have there : root.find [("f.json" : Text)] = .ok (.file bytes) := rfl
  have decoded : Utf8.decode bytes = .ok (render data) := decode_asciiBytes printed
  have read : Json.read 4 (ofChars (lineFeeds (render data))) = .ok data := by
    obtain ⟨j, read, same⟩ := @read_render data 4 (by decide) (by decide)
    rw [lineFeeds_of_printed printed, read, same (by decide)]
  have holds : HoldsCards data [first, second, .int 3] := .listed rfl
  have good : IsWellFormed first := by
    refine ⟨⟨_, rfl⟩, ?_, ?_, ?_⟩
    · intro name listed value given
      simp only [Card.textNames, List.mem_cons, List.not_mem_nil, or_false] at listed
      rcases listed with rfl | rfl | rfl <;> cases given
    · intro name listed value given
      simp only [Card.nullableNames, List.mem_cons, List.not_mem_nil, or_false] at listed
      rcases listed with rfl | rfl | rfl <;> cases given
    · rintro _ ⟨⟩
      exact .inl rfl
  have bad : ¬ IsWellFormed second := by
    intro wellFormed
    obtain ⟨_, ⟨⟩⟩ := wellFormed.texts "name" (by decide) .null rfl
  have least : IsLeast (badPlaces [first, second, .int 3]) 1 :=
    @isLeast_badPlaces [first] [.int 3] second (List.forall_mem_singleton.2 good) bad
  obtain ⟨taken, _, refused⟩ := pool_file_taken_or_blamed there decoded read "f.json" "f.json"
  refine ⟨⟨there, decoded, read⟩, ?_⟩
  cases loaded : load 4 root [("f.json" : Text)] with
  | ok cards =>
    obtain ⟨items, holds', all⟩ := taken.1 ⟨cards, loaded⟩
    rw [← holds.unique holds'] at all
    exact absurd (all second (by simp)) bad
  | error fault =>
    obtain ⟨none, _⟩ | ⟨items, place, cause, holds', least', _, message⟩ := refused fault loaded
    · exact absurd holds (none _)
    · rw [← holds.unique holds'] at least'
      rw [least'.unique least] at message
      exact ⟨fault, cause.message, rfl, message⟩

end PoolFile
end PackOpening
