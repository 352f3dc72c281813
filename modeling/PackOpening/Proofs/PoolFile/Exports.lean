import PackOpening.PoolFile.Load
import PackOpening.Proofs.Json.Limits
import PackOpening.Proofs.Service.Sending
import PackOpening.Service.Body

/-!
Exported pools load back.

A card keeps its ten members both in the data of an answer and in an exported object, where the set
code goes under another name. So the cards of an answer can be sent again, and a file with exported
cards is loaded as these cards, whether it holds their list alone or as one member of a record. The
other members of the record are read over, as long as they are not nested too deep and hold no
integer with too many digits.
-/
namespace PackOpening

open PackOpening.Json PackOpening.Numeric PackOpening.Text

namespace Json

/-- Items that were written are read back, if each of them is. -/
theorem itemsFrom_map {α : Type} {check : Json → Checked α} (write : α → Json)
    (back : ∀ value, check (write value) = .ok value) (values : List α) (position : Nat) :
    itemsFrom check position (values.map write) = .ok values := by
  induction values generalizing position with
  | nil => rfl
  | cons first rest ih =>
    rw [List.map_cons, itemsFrom, back, ih]
    rfl

theorem optional_ofText? (value : Option Text) : optional text (.ofText? value) = .ok value := by
  cases value <;> rfl

end Json

namespace Card

/-- Data with the ten members of a card. -/
structure IsDescribedBy (card : Card) (whole : Json) : Prop where
  id : whole.member? "id" = some (.str card.id)
  name : whole.member? "name" = some (.str card.name)
  setCode : whole.member? "set_code" = some (.str card.setCode)
  collectorNumber : whole.member? "collector_number" = some (.ofText? card.collectorNumber)
  rarity : whole.member? "rarity" = some (.str card.rarity)
  disabled : whole.member? "disabled" = some (.bool card.disabled)
  typeLine : whole.member? "type_line" = some (.ofText? card.typeLine)
  borderColor : whole.member? "border_color" = some (.ofText? card.borderColor)
  fullArt : whole.member? "full_art" = some (.bool card.fullArt)
  frameEffects : whole.member? "frame_effects" = some (.ofTexts card.frameEffects)

theorem ofRecord_of_isDescribedBy {card : Card} {whole : Json}
    (described : card.IsDescribedBy whole) : ofRecord whole = .ok card := by
  have effects : listOf text (.ofTexts card.frameEffects) = .ok card.frameEffects :=
    itemsFrom_map .str (fun _ => rfl) card.frameEffects 0
  simp only [ofRecord, required, withDefault, described.id, described.name, described.setCode,
    described.collectorNumber, described.rarity, described.disabled, described.typeLine,
    described.borderColor, described.fullArt, described.frameEffects, optional_ofText?, effects]
  rfl

/-- The data of a card are read back as the card. -/
theorem ofData_toData (card : Card) : ofData card.toData = .ok card :=
  ofRecord_of_isDescribedBy ⟨rfl, rfl, rfl, rfl, rfl, rfl, rfl, rfl, rfl, rfl⟩

/-- The exported object of a card. -/
def toExport (card : Card) : Json :=
  .obj [
    ("id", .str card.id),
    ("name", .str card.name),
    ("set", .str card.setCode),
    ("collector_number", .ofText? card.collectorNumber),
    ("rarity", .str card.rarity),
    ("disabled", .bool card.disabled),
    ("type_line", .ofText? card.typeLine),
    ("border_color", .ofText? card.borderColor),
    ("full_art", .bool card.fullArt),
    ("frame_effects", .ofTexts card.frameEffects)]

/-- An exported object is read back as its card, whatever cards without a mark are taken for. -/
theorem ofExport_toExport (disabled : Bool) (card : Card) :
    ofExport disabled card.toExport = .ok card := by
  have effects : (if (Json.ofTexts card.frameEffects).truthy then Json.ofTexts card.frameEffects
      else .arr []) = .ofTexts card.frameEffects := by
    cases effects : card.frameEffects <;> simp [Json.ofTexts, Json.truthy]
  have described : card.IsDescribedBy
      (.obj (exportedMembers disabled (.str card.id) card.toExport)) :=
    ⟨rfl, rfl, rfl, rfl, rfl, rfl, rfl, rfl, rfl, congrArg some effects⟩
  have read := ofRecord_of_isDescribedBy described
  rw [toExport] at read ⊢
  rw [ofExport]
  split
  · next missing => cases missing
  · next id found =>
    cases found
    rw [read]

end Card

namespace Json

theorem depth_ofText? (value : Option Text) : depth (.ofText? value) = 0 := by
  cases value <;> rfl

theorem isBrief_ofText? (value : Option Text) : isBrief (.ofText? value) = true := by
  cases value <;> rfl

theorem isExact_ofText? {value : Option Text}
    (plain : value.toList.all Service.isEncodable = true) : isExact (.ofText? value) = true := by
  cases value with
  | none => rfl
  | some s => simpa [ofText?, isExact, Service.isEncodable_eq] using plain

theorem flat_map_str (texts : List Text) :
    depthOfItems (texts.map .str) = 0 ∧ areBrief (texts.map .str) = true := by
  induction texts with
  | nil => exact ⟨rfl, rfl⟩
  | cons first rest ih => simp [depthOfItems, areBrief, depth, isBrief, ih]

theorem areExact_map_str {texts : List Text} (plain : texts.all Service.isEncodable = true) :
    areExact (texts.map .str) = true := by
  induction texts with
  | nil => rfl
  | cons first rest ih =>
    rw [List.all_cons, Bool.and_eq_true, Service.isEncodable_eq] at plain
    simp [areExact, isExact, ih plain.2, plain.1]

end Json

namespace PoolFile

/-- The list of exported cards. -/
def exported (cards : List Card) : Json := .arr (cards.map Card.toExport)

theorem depth_toExport (card : Card) : depth card.toExport = 2 := by
  simp [Card.toExport, depth, depthOfMembers, depth_ofText?, Json.ofTexts, flat_map_str]

theorem isBrief_toExport (card : Card) : isBrief card.toExport = true := by
  simp [Card.toExport, isBrief, haveBrief, isBrief_ofText?, Json.ofTexts, flat_map_str]

theorem isExact_toExport {card : Card} (plain : Service.isEncodableCard card = true) :
    isExact card.toExport = true := by
  have names : ([ "id", "name", "set", "collector_number", "rarity", "disabled", "type_line",
      "border_color", "full_art", "frame_effects" ] : List Text).Nodup := by decide
  have literal (s : String) : (ofString s).any CodePoint.isSurrogate = false := by
    simp [ofString, ofChars, CodePoint.isSurrogate]
  simp only [Service.isEncodableCard, Service.cardTexts, List.all_append, List.all_cons,
    List.all_nil, Bool.and_eq_true, Bool.and_true] at plain
  obtain ⟨⟨⟨⟨⟨⟨id, name, set⟩, number⟩, rarity⟩, typeLine⟩, border⟩, effects⟩ := plain
  rw [Service.isEncodable_eq] at id name set rarity
  simp only [Card.toExport, isExact, haveExact, List.map_cons, List.map_nil, literal,
    Json.ofTexts, id, name, set, rarity, isExact_ofText? number, isExact_ofText? typeLine,
    isExact_ofText? border, areExact_map_str effects, Bool.not_false, Bool.and_true,
    decide_eq_true_eq]
  exact names

theorem flat_exported (cards : List Card) :
    depthOfItems (cards.map Card.toExport) ≤ 2 ∧ areBrief (cards.map Card.toExport) = true := by
  induction cards with
  | nil => exact ⟨Nat.zero_le 2, rfl⟩
  | cons first rest ih =>
    simp [depthOfItems, areBrief, depth_toExport, isBrief_toExport, ih]

theorem depth_exported (cards : List Card) : depth (exported cards) ≤ 3 :=
  Nat.succ_le_succ (flat_exported cards).1

theorem areExact_exported {cards : List Card}
    (plain : ∀ card ∈ cards, Service.isEncodableCard card = true) :
    areExact (cards.map Card.toExport) = true := by
  induction cards with
  | nil => rfl
  | cons first rest ih =>
    obtain ⟨here, there⟩ := List.forall_mem_cons.1 plain
    rw [List.map_cons, areExact, isExact_toExport here, ih there]
    rfl

theorem cardsFrom_exported (cards : List Card) (index : Nat) :
    cardsFrom index (cards.map Card.toExport) = .ok cards := by
  induction cards generalizing index with
  | nil => rfl
  | cons first rest ih => simp only [List.map_cons, cardsFrom, Card.ofExport_toExport, ih]

theorem ofData_exported (cards : List Card) : ofData (exported cards) = .ok cards :=
  cardsFrom_exported cards 0

theorem ofData_of_member {cards : List Card} {members : List (Text × Json)}
    (found : members.lookup ("data" : Text) = some (exported cards)) :
    ofData (.obj members) = .ok cards := by
  simp only [ofData, cardList?, found, exported, cardsFrom_exported]

section Bytes

/-- The bytes of characters in ASCII. -/
def asciiBytes (chars : List Char) : List UInt8 := chars.map fun c => UInt8.ofNat c.toNat

theorem codesFrom_asciiBytes {chars : List Char} (printed : IsPrinted chars) :
    Utf8.codesFrom false none (asciiBytes chars) = .ok (chars.map Char.toNat) := by
  induction chars with
  | nil => rfl
  | cons c rest ih =>
    obtain ⟨here, there⟩ := List.forall_mem_cons.1 printed
    have code : (UInt8.ofNat c.toNat).toNat = c.toNat := by
      rw [UInt8.toNat_ofNat']
      omega
    have ascii : UInt8.ofNat c.toNat < 0x80 := by
      rw [UInt8.lt_iff_toNat_lt, code]
      exact Nat.lt_of_le_of_lt here.2 (by decide)
    have shape : asciiBytes (c :: rest) = UInt8.ofNat c.toNat :: asciiBytes rest := rfl
    rw [shape, Utf8.codesFrom, if_pos ascii, ih there, code]
    rfl

theorem decode_asciiBytes {chars : List Char} (printed : IsPrinted chars) :
    Utf8.decode (asciiBytes chars) = .ok chars := by
  rw [Utf8.decode, codesFrom_asciiBytes printed]
  simp [Except.map, Function.comp_def]

theorem lineFeeds_of_printed {chars : List Char} (printed : IsPrinted chars) :
    lineFeeds chars = chars := by
  induction chars with
  | nil => rfl
  | cons c rest ih =>
    obtain ⟨here, there⟩ := List.forall_mem_cons.1 printed
    have other : c ≠ '\r' := by
      rintro rfl
      exact absurd here.1 (by decide)
    rw [lineFeeds]
    · simp [other, ih there]
    · simp [other]

/-- A file of printed data holds what its text is read as. -/
theorem ofBytes_render (room : Nat) (j : Json) :
    ofBytes room (asciiBytes (render j)) = ofText room (ofChars (render j)) := by
  have printed := isPrinted_render j
  simp only [ofBytes, decode_asciiBytes printed, lineFeeds_of_printed printed]

end Bytes

/-- A list of exported cards gives the cards. -/
theorem ofText_exported {cards : List Card} {room : Nat} (deep : depth (exported cards) ≤ room)
    (plain : ∀ card ∈ cards, Service.isEncodableCard card = true) :
    ofText room (ofChars (render (exported cards))) = .ok cards := by
  obtain ⟨j, read, same⟩ := read_render deep (flat_exported cards).2
  rw [same (areExact_exported plain)] at read
  simp only [ofText, read, ofData_exported]

/-- The members of a record that holds exported cards between other members. -/
def recordMembers (before : List (Text × Json)) (cards : List Card)
    (after : List (Text × Json)) : List (Text × Json) :=
  before ++ (("data" : Text), exported cards) :: after

/-- A record with a list of exported cards as its last member of that name gives the cards. -/
theorem ofText_record {cards : List Card} {before after : List (Text × Json)} {room : Nat}
    (plain : ∀ card ∈ cards, Service.isEncodableCard card = true)
    (other : ("data" : Text) ∉ after.map Prod.fst)
    (deep : depthOfMembers (recordMembers before cards after) ≤ room)
    (brief : haveBrief (recordMembers before cards after) = true) :
    ofText (room + 1) (ofChars (render (.obj (recordMembers before cards after)))) =
      .ok cards := by
  obtain ⟨member, others, nonempty⟩ : ∃ member others,
      recordMembers before cards after = member :: others := by
    cases before <;> exact ⟨_, _, rfl⟩
  rw [nonempty] at deep brief
  obtain ⟨members', read, same⟩ := read_record deep brief
  rw [← nonempty] at read same
  have found := lookup_reread same (by decide) (by decide) (areExact_exported plain) other
  simp only [ofText, read, ofData_of_member found]

theorem mem_recordMembers {before after : List (Text × Json)} {cards : List Card}
    {member : Text × Json} : member ∈ recordMembers before cards after ↔
      member ∈ before ++ after ∨ member = (("data" : Text), exported cards) := by
  simp only [recordMembers, List.mem_append, List.mem_cons]
  tauto

section Files

variable {cards : List Card} {before after : List (Text × Json)} {room : Nat} {root : Node}
  {path : Path}

theorem load_of_file {bytes : List UInt8} (there : root.find path = .ok (.file bytes)) :
    load room root path = ofBytes room bytes := by
  simp only [load, there, ofNode]

/-- Only what fits is loaded from a file of printed data. -/
theorem fits_of_load {j : Json} (there : root.find path = .ok (.file (asciiBytes (render j))))
    (loaded : load room root path = .ok cards) : Fits room j := by
  rw [load_of_file there, ofBytes_render] at loaded
  refine read_render_iff.1 ?_
  unfold ofText at loaded
  split at loaded
  · cases loaded
  · next data read => exact ⟨data, read⟩

/-- A file with a list of exported cards is loaded as the cards exactly if there is room for the
list. -/
theorem load_list_iff (plain : ∀ card ∈ cards, Service.isEncodableCard card = true)
    (there : root.find path = .ok (.file (asciiBytes (render (exported cards))))) :
    load room root path = .ok cards ↔ depth (exported cards) ≤ room := by
  constructor
  · intro loaded
    exact (fits_of_load there loaded).1
  · intro deep
    rw [load_of_file there, ofBytes_render]
    exact ofText_exported deep plain

/-- Exported cards are brief, so the integers of a record are those of its other members. -/
theorem isBrief_record_iff (cards : List Card) :
    isBrief (.obj (recordMembers before cards after)) = true ↔
      ∀ member ∈ before ++ after, isBrief member.2 = true := by
  rw [isBrief, haveBrief_iff]
  constructor
  · intro brief member there
    exact brief member (mem_recordMembers.2 (.inl there))
  · intro brief member there
    rcases mem_recordMembers.1 there with other | rfl
    · exact brief member other
    · exact (flat_exported cards).2

/-- A file with a record is loaded as its exported cards exactly if there is room for the record and
no integer of its other members is too long. -/
theorem load_record_iff (plain : ∀ card ∈ cards, Service.isEncodableCard card = true)
    (other : ("data" : Text) ∉ after.map Prod.fst)
    (there : root.find path =
      .ok (.file (asciiBytes (render (.obj (recordMembers before cards after)))))) :
    load room root path = .ok cards ↔
      depth (.obj (recordMembers before cards after)) ≤ room ∧
        ∀ member ∈ before ++ after, isBrief member.2 = true := by
  rw [← isBrief_record_iff cards]
  constructor
  · exact fits_of_load there
  · rintro ⟨deep, brief⟩
    obtain ⟨room, rfl⟩ := Nat.exists_eq_add_of_le' (Nat.le_trans (Nat.le_add_left 1 _) deep)
    rw [load_of_file there, ofBytes_render]
    exact ofText_record plain other (Nat.le_of_succ_le_succ deep) brief

end Files

/-- The cards of an answer can be sent again as a pool. -/
theorem ofData_sent_again (code : Text) (drawn : List DrawnCard) :
    Service.OpenBody.ofData (.obj [("set_code", .str code),
      ("cards", .arr (drawn.map fun one => one.card.toData))]) =
        .ok ⟨code, "play", none, drawn.map DrawnCard.card, none, [], none⟩ := by
  have cards : listOf Card.ofData (.arr (drawn.map fun one => one.card.toData)) =
      .ok (drawn.map DrawnCard.card) := by
    have back := itemsFrom_map Card.toData Card.ofData_toData (drawn.map DrawnCard.card) 0
    rwa [List.map_map] at back
  let whole : Json := .obj [(("set_code" : Text), .str code),
    ("cards", .arr (drawn.map fun one => one.card.toData))]
  have given : whole.member? "set_code" = some (.str code) := rfl
  have sent : whole.member? "cards" = some (.arr (drawn.map fun one => one.card.toData)) := rfl
  have absent : whole.member? "pack_type" = none ∧ whole.member? "release_date" = none ∧
      whole.member? "definition" = none ∧ whole.member? "extra_pools" = none ∧
      whole.member? "seed" = none := ⟨rfl, rfl, rfl, rfl, rfl⟩
  have read : Service.OpenBody.ofData whole = .ok ⟨code, "play", none, drawn.map DrawnCard.card,
      none, [], none⟩ := by
    unfold Service.OpenBody.ofData
    simp only [whole, record] at given sent absent ⊢
    simp only [required, withDefault, given, sent, absent, cards]
    rfl
  exact read

/-- Exported cards load back. A file with their list is loaded as the cards, in their order, exactly
if there is room for the list, which is nested three deep at most. A file with a record that has the
list as its member `data` is loaded as the cards exactly if there is room for the record and none of
its other members holds an integer that is too long. The data of any card in an answer are read as
the card, so the cards of an answer can be sent again. -/
theorem exported_pool_loads {cards : List Card}
    (plain : ∀ card ∈ cards, Service.isEncodableCard card = true)
    {before after : List (Text × Json)} (named : ∀ member ∈ before ++ after, member.1 ≠ "data")
    (room : Nat) (root : Node) (path : Path) :
    (root.find path = .ok (.file (asciiBytes (render (exported cards)))) →
      (load room root path = .ok cards ↔ depth (exported cards) ≤ room)) ∧
    depth (exported cards) ≤ 3 ∧
    (root.find path =
        .ok (.file (asciiBytes (render (.obj (recordMembers before cards after))))) →
      (load room root path = .ok cards ↔ depth (.obj (recordMembers before cards after)) ≤ room ∧
        ∀ member ∈ before ++ after, isBrief member.2 = true)) ∧
    (∀ one : DrawnCard, ∃ data, (Service.drawnData one).member? "card" = some data ∧
      Card.ofData data = .ok one.card) ∧
    ∀ (code : Text) (drawn : List DrawnCard), Service.OpenBody.ofData
        (.obj [("set_code", .str code), ("cards", .arr (drawn.map fun one => one.card.toData))]) =
      .ok ⟨code, "play", none, drawn.map DrawnCard.card, none, [], none⟩ := by
  have other : ("data" : Text) ∉ after.map Prod.fst := by
    intro member
    obtain ⟨found, there, name⟩ := List.mem_map.1 member
    exact named found (List.mem_append_right _ there) name
  exact ⟨load_list_iff plain, depth_exported cards, load_record_iff plain other,
    fun one => ⟨one.card.toData, rfl, Card.ofData_toData one.card⟩, ofData_sent_again⟩

/-- A card with quotes, a line feed and a character beyond the first plane in its texts, and a
record with other members on both sides. -/
theorem exported_pool_loads_escaped :
    let card : Card := ⟨"a\"\\b\n", [.ofCode 0x1F0A1], "s", none, "common", true, some "", none,
      true, ["x"]⟩
    let before : List (Text × Json) := [("object", .str "list"), ("n", .arr [.int (-5), .null])]
    let after : List (Text × Json) := [("has_more", .bool false)]
    let list : Path := ["list.json"]
    let record : Path := ["record.json"]
    let root : Node := .folder [("list.json", .file (asciiBytes (render (exported [card])))),
      ("record.json", .file (asciiBytes (render (.obj (recordMembers before [card] after)))))]
    (∀ member ∈ before ++ after, member.1 ≠ "data") ∧
    load 3 root list = .ok [card] ∧ load 4 root record = .ok [card] := by
  intro card before after list record root
  have plain : ∀ card' ∈ [card], Service.isEncodableCard card' = true :=
    List.forall_mem_singleton.2 (by decide)
  have named : ∀ member ∈ before ++ after, member.1 ≠ "data" := by
    simp only [before, after, List.cons_append, List.nil_append, List.forall_mem_cons]
    decide
  have brief : ∀ member ∈ before ++ after, isBrief member.2 = true := by
    simp only [before, after, List.cons_append, List.nil_append, List.forall_mem_cons]
    decide
  obtain ⟨listed, shallow, _⟩ := exported_pool_loads plain named 3 root list
  obtain ⟨_, _, recorded, _⟩ := exported_pool_loads plain named 4 root record
  exact ⟨named, (listed rfl).2 shallow, (recorded rfl).2 ⟨by decide, brief⟩⟩

/-- There is room for all that may stand beside an empty list of cards, and its integers are short.
-/
theorem fits_of_loads {room : Nat} {other : Json}
    (loads : ∀ (root : Node) (path : Path), root.find path =
      .ok (.file (asciiBytes (render (.obj (recordMembers [(("other" : Text), other)] [] []))))) →
      load room root path = .ok []) : Fits room other := by
  let bytes := asciiBytes (render (.obj (recordMembers [(("other" : Text), other)] [] [])))
  let root : Node := .folder [("f", .file bytes)]
  have there : root.find [("f" : Text)] = .ok (.file bytes) := rfl
  obtain ⟨deep, brief⟩ := (load_record_iff (by simp) (by simp) there).1 (loads root _ there)
  have members : depthOfMembers (recordMembers [(("other" : Text), other)] [] []) ≤ room :=
    Nat.le_of_succ_le deep
  exact ⟨depthOfMembers_le_iff.1 members (("other" : Text), other) List.mem_cons_self,
    brief (("other" : Text), other) List.mem_cons_self⟩

/-- No room for nesting lets every other member stand beside the cards: neither all those whose
integers are short, since some are nested too deep, nor all those that are not nested, since some
are integers that are too long. -/
theorem not_every_record_loads :
    (¬ ∃ room, ∀ (other : Json) (root : Node) (path : Path), isBrief other = true →
      root.find path = .ok (.file (asciiBytes
        (render (.obj (recordMembers [(("other" : Text), other)] [] []))))) →
      load room root path = .ok []) ∧
    ¬ ∃ room, ∀ (other : Json) (root : Node) (path : Path), depth other = 0 →
      root.find path = .ok (.file (asciiBytes
        (render (.obj (recordMembers [(("other" : Text), other)] [] []))))) →
      load room root path = .ok [] := by
  constructor
  · rintro ⟨room, claim⟩
    have fits : Fits room (nested room) :=
      fits_of_loads fun root path => claim _ root path (isBrief_nested _)
    have deep := fits.1
    rw [depth_nested] at deep
    omega
  · rintro ⟨room, claim⟩
    obtain ⟨n, long⟩ := exists_not_isBrief
    have fits : Fits room (.int n) := fits_of_loads fun root path => claim _ root path rfl
    exact absurd fits.2 (Bool.eq_false_iff.1 long)

end PoolFile
end PackOpening
