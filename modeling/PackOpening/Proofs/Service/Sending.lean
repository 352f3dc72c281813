import PackOpening.Service.Exchange

/-!
Which data can be sent.

Data are written out first and encoded then. Writing them out depends on the numbers and on the
nesting alone; encoding fails exactly when a surrogate is left in a text.
-/
namespace PackOpening.Service

open PackOpening.Json PackOpening.Text

theorem all_holds_ofChars (chars : List Char) :
    (ofChars chars).all Charset.utf8.holds = true := by
  simp [ofChars, Charset.holds, CodePoint.isSurrogate]

theorem all_holds_ofString (s : String) : (ofString s).all Charset.utf8.holds = true :=
  all_holds_ofChars s.toList

/-- Escapes are written in characters, and what is escaped is a character. -/
theorem all_holds_sentCode (c : CodePoint) :
    (sentCode c).all Charset.utf8.holds = Charset.utf8.holds c := by
  unfold sentCode
  split
  · next escaped =>
    have plain : Charset.utf8.holds c = true := by
      cases c with
      | char c => rfl
      | surrogate offset =>
        rcases escaped with low | quote | slash
        · simp only [CodePoint.code] at low
          omega
        · cases quote
        · cases slash
    rw [all_holds_ofChars, plain]
  · simp

theorem all_holds_sentText (text : Text) :
    (sentText text).all Charset.utf8.holds = text.all Charset.utf8.holds := by
  have codes : (text.flatMap sentCode).all Charset.utf8.holds =
      text.all Charset.utf8.holds := by
    induction text with
    | nil => rfl
    | cons c rest ih =>
      simp only [List.flatMap_cons, List.all_append, List.all_cons, all_holds_sentCode, ih]
  simp only [sentText, List.all_append, codes, all_holds_ofString, Bool.true_and, Bool.and_true]

theorem sendFault?_eq_none_iff (spare : Nat) (j : Json) :
    sendFault? spare j = none ↔
      writeFault? (sendRoom spare) j = none ∧ (sent j).all Charset.utf8.holds = true := by
  simp [sendFault?, Charset.fault?, Charset.faultFrom?_eq_none_iff]

/-- Whether every code point of a text has bytes. -/
def isEncodable (text : Text) : Bool := text.all Charset.utf8.holds

theorem isEncodable_eq (text : Text) :
    isEncodable text = !text.any CodePoint.isSurrogate := by
  simp [isEncodable, List.all_eq_not_any_not, Charset.holds]

theorem isEncodable_ofString (s : String) : isEncodable (ofString s) = true :=
  all_holds_ofString s

mutual

/-- The names and texts that are written out for a value. -/
def writtenTexts : Json → List Text
  | .str s => [s]
  | .arr items => textsOfItems items
  | .obj members => textsOfMembers members
  | _ => []

def textsOfItems : List Json → List Text
  | [] => []
  | item :: rest => writtenTexts item ++ textsOfItems rest

def textsOfMembers : List (Text × Json) → List Text
  | [] => []
  | (name, value) :: rest =>
    (if isSent name then name :: writtenTexts value else []) ++ textsOfMembers rest

end

theorem isEncodable_intercalate (mark : String) (parts : List Text) :
    isEncodable (List.intercalate (mark : Text) parts) = parts.all isEncodable := by
  induction parts with
  | nil => rfl
  | cons first rest ih =>
    cases rest with
    | nil => simp [List.intercalate, isEncodable]
    | cons second rest =>
      simp only [isEncodable, List.intercalate, List.intersperse_cons_cons, List.flatten_cons,
        List.all_append, all_holds_ofString, Bool.true_and] at ih ⊢
      rw [ih, List.all_cons (a := first)]
      rfl

mutual

/-- What is written out can be encoded if every name and text in it can. -/
theorem isEncodable_sent : ∀ j : Json, isEncodable (sent j) = (writtenTexts j).all isEncodable
  | .null | .bool _ | .int _ | .float _ => by
    simp [isEncodable, sent, writtenTexts, all_holds_ofChars]
  | .str s => by simp [isEncodable, sent, writtenTexts, all_holds_sentText]
  | .arr items => by
    have joined := isEncodable_intercalate "," (sentItems items)
    rw [isEncodable_sentItems items, isEncodable] at joined
    simp only [isEncodable, sent, writtenTexts, List.all_append, all_holds_ofString, joined,
      Bool.true_and, Bool.and_true]
  | .obj members => by
    have joined := isEncodable_intercalate "," (sentMembers members)
    rw [isEncodable_sentMembers members, isEncodable] at joined
    simp only [isEncodable, sent, writtenTexts, List.all_append, all_holds_ofString, joined,
      Bool.true_and, Bool.and_true]

theorem isEncodable_sentItems : ∀ items : List Json,
    (sentItems items).all isEncodable = (textsOfItems items).all isEncodable
  | [] => rfl
  | item :: rest => by
    simp only [sentItems, textsOfItems, List.all_cons, List.all_append, isEncodable_sent item,
      isEncodable_sentItems rest]

theorem isEncodable_sentMembers : ∀ members : List (Text × Json),
    (sentMembers members).all isEncodable = (textsOfMembers members).all isEncodable
  | [] => rfl
  | (name, value) :: rest => by
    have written : isEncodable (sentText name ++ ":" ++ sent value) =
        (isEncodable name && (writtenTexts value).all isEncodable) := by
      rw [← isEncodable_sent value]
      simp only [isEncodable, List.all_append, all_holds_sentText, all_holds_ofString,
        Bool.and_true]
    cases kept : isSent name with
    | true =>
      simp only [sentMembers, textsOfMembers, kept, if_true, List.all_cons, List.all_append,
        written, isEncodable_sentMembers rest]
    | false => simp [sentMembers, textsOfMembers, kept, isEncodable_sentMembers rest]

end

/-- Data that can be sent where lists and records may be opened inside each other as often as there
is room. -/
inductive IsSendable : (room : Nat) → Json → Prop where
  | null {room : Nat} : IsSendable room .null
  | bool {room : Nat} (b : Bool) : IsSendable room (.bool b)
  | int {room : Nat} (n : Int) : IsSendable room (.int n)
  | float {room : Nat} {x : Float} (finite : (Numeric.FloatParts.ofFloat x).isFinite = true) :
    IsSendable room (.float x)
  | str {room : Nat} {s : Text} (plain : isEncodable s = true) : IsSendable room (.str s)
  | arr {room : Nat} {items : List Json} (each : ∀ item ∈ items, IsSendable room item) :
    IsSendable (room + 1) (.arr items)
  | obj {room : Nat} {members : List (Text × Json)}
    (names : ∀ member ∈ members, isSent member.1 = true → isEncodable member.1 = true)
    (values : ∀ member ∈ members, isSent member.1 = true → IsSendable room member.2) :
    IsSendable (room + 1) (.obj members)

section Parts

variable {room : Nat}

theorem isSendable_float_iff {x : Float} :
    IsSendable room (.float x) ↔ (Numeric.FloatParts.ofFloat x).isFinite = true :=
  ⟨fun sendable => by cases sendable; assumption, .float⟩

theorem isSendable_str_iff {s : Text} : IsSendable room (.str s) ↔ isEncodable s = true :=
  ⟨fun sendable => by cases sendable; assumption, .str⟩

theorem isSendable_arr_iff {items : List Json} :
    IsSendable (room + 1) (.arr items) ↔ ∀ item ∈ items, IsSendable room item :=
  ⟨fun sendable => by cases sendable; assumption, .arr⟩

theorem isSendable_obj_iff {members : List (Text × Json)} :
    IsSendable (room + 1) (.obj members) ↔ ∀ member ∈ members, isSent member.1 = true →
      isEncodable member.1 = true ∧ IsSendable room member.2 := by
  constructor
  · intro sendable member there kept
    cases sendable with
    | obj names values => exact ⟨names member there kept, values member there kept⟩
  · intro each
    exact .obj (fun member there kept => (each member there kept).1)
      fun member there kept => (each member there kept).2

end Parts

mutual

/-- Data can be sent exactly if they can be written out and every text in them can be encoded. -/
theorem isSendable_iff : ∀ (room : Nat) (j : Json), IsSendable room j ↔
    writeFault? room j = none ∧ (writtenTexts j).all isEncodable = true
  | _, .null => by simp [writeFault?, writtenTexts, IsSendable.null]
  | _, .bool b => by simp [writeFault?, writtenTexts, IsSendable.bool]
  | _, .int n => by simp [writeFault?, writtenTexts, IsSendable.int]
  | _, .float x => by simp [writeFault?, writtenTexts, isSendable_float_iff]
  | _, .str s => by simp [writeFault?, writtenTexts, isSendable_str_iff]
  | 0, .arr items => iff_of_false nofun (by simp [writeFault?])
  | 0, .obj members => iff_of_false nofun (by simp [writeFault?])
  | room + 1, .arr items => by
    rw [isSendable_arr_iff, writeFault?, writtenTexts, areSendable_iff room items]
  | room + 1, .obj members => by
    rw [isSendable_obj_iff, writeFault?, writtenTexts, haveSendable_iff room members]

theorem areSendable_iff : ∀ (room : Nat) (items : List Json),
    (∀ item ∈ items, IsSendable room item) ↔
      writeFaultItems? room items = none ∧ (textsOfItems items).all isEncodable = true
  | _, [] => by simp [writeFaultItems?, textsOfItems]
  | room, item :: rest => by
    rw [List.forall_mem_cons, isSendable_iff room item, areSendable_iff room rest]
    simp only [writeFaultItems?, textsOfItems, List.all_append, Bool.and_eq_true,
      Option.or_eq_none_iff]
    exact and_and_and_comm

theorem haveSendable_iff : ∀ (room : Nat) (members : List (Text × Json)),
    (∀ member ∈ members, isSent member.1 = true →
        isEncodable member.1 = true ∧ IsSendable room member.2) ↔
      writeFaultMembers? room members = none ∧ (textsOfMembers members).all isEncodable = true
  | _, [] => by simp [writeFaultMembers?, textsOfMembers]
  | room, (name, value) :: rest => by
    rw [List.forall_mem_cons, haveSendable_iff room rest, isSendable_iff room value]
    cases kept : isSent name with
    | true =>
      simp only [writeFaultMembers?, textsOfMembers, kept, if_true, List.all_append, List.all_cons,
        Bool.and_eq_true, Option.or_eq_none_iff, forall_const]
      constructor
      · rintro ⟨⟨named, written, texts⟩, others, rest⟩
        exact ⟨⟨written, others⟩, ⟨named, texts⟩, rest⟩
      · rintro ⟨⟨written, others⟩, ⟨named, texts⟩, rest⟩
        exact ⟨⟨named, written, texts⟩, others, rest⟩
    | false => simp [writeFaultMembers?, textsOfMembers, kept]

end

theorem sendFault?_eq_none_iff_isSendable (spare : Nat) (j : Json) :
    sendFault? spare j = none ↔ IsSendable (sendRoom spare) j := by
  rw [sendFault?_eq_none_iff, isSendable_iff, ← isEncodable_sent, isEncodable]

/-- The texts of a card. -/
def cardTexts (card : Card) : List Text :=
  [card.id, card.name, card.setCode] ++ card.collectorNumber.toList ++ [card.rarity] ++
    card.typeLine.toList ++ card.borderColor.toList ++ card.frameEffects

/-- Whether the data of a card can be encoded: none of its texts holds a surrogate. -/
def isEncodableCard (card : Card) : Bool := (cardTexts card).all isEncodable

theorem all_isEncodable_ofText? (text : Option Text) :
    (writtenTexts (.ofText? text)).all isEncodable = text.toList.all isEncodable := by
  cases text <;> rfl

theorem textsOfItems_map_str (texts : List Text) : textsOfItems (texts.map .str) = texts := by
  induction texts with
  | nil => rfl
  | cons first rest ih => simp [textsOfItems, writtenTexts, ih]

theorem writeFaultItems?_map_str (room : Nat) (texts : List Text) :
    writeFaultItems? room (texts.map .str) = none := by
  induction texts with
  | nil => rfl
  | cons first rest ih => simp [writeFaultItems?, writeFault?, ih]

theorem writeFault?_ofText? (room : Nat) (text : Option Text) :
    writeFault? room (.ofText? text) = none := by
  cases text <;> simp [Json.ofText?, writeFault?]

/-- Every name of a member that the service gives to its data is sent. -/
theorem isSent_names :
    ∀ name ∈ ([ "id", "name", "set_code", "collector_number", "rarity", "disabled", "type_line",
      "border_color", "full_art", "frame_effects", "card", "is_foil", "is_alt_art", "cards" ] :
        List String), isSent name = true := by
  decide

theorem writeFault?_toData (room : Nat) (card : Card) :
    writeFault? (room + 2) card.toData = none := by
  simp [Card.toData, writeFault?, writeFaultMembers?, writeFault?_ofText?, Json.ofTexts,
    writeFaultItems?_map_str]

theorem writeFaultItems?_drawnData (room : Nat) (drawn : List DrawnCard) :
    writeFaultItems? (room + 3) (drawn.map drawnData) = none := by
  induction drawn with
  | nil => rfl
  | cons first rest ih =>
    simp [writeFaultItems?, ih, drawnData, writeFault?, writeFaultMembers?, writeFault?_toData]

theorem all_isEncodable_toData (card : Card) :
    (writtenTexts card.toData).all isEncodable = isEncodableCard card := by
  have kept (name : String) := isSent_names name
  simp only [List.mem_cons, List.not_mem_nil, or_false] at kept
  simp only [Card.toData, writtenTexts, textsOfMembers, kept, or_true, true_or, if_true,
    List.all_append, List.all_cons, List.all_nil, isEncodable_ofString, all_isEncodable_ofText?,
    Json.ofTexts, textsOfItems_map_str, isEncodableCard, cardTexts, Bool.true_and, Bool.and_true,
    Bool.and_assoc]

theorem all_isEncodable_drawnData (drawn : List DrawnCard) :
    (textsOfItems (drawn.map drawnData)).all isEncodable =
      drawn.all fun one => isEncodableCard one.card := by
  have kept (name : String) := isSent_names name
  simp only [List.mem_cons, List.not_mem_nil, or_false] at kept
  induction drawn with
  | nil => rfl
  | cons first rest ih =>
    simp only [List.map_cons, textsOfItems, drawnData, writtenTexts, textsOfMembers, kept, or_true,
      true_or, if_true, List.all_append, List.all_cons, List.all_nil, isEncodable_ofString,
      all_isEncodable_toData, ih, Bool.true_and, Bool.and_true]

/-- An error can be sent if its message can be encoded. -/
theorem sendFault?_errorData (spare : Nat) {message : Text} (plain : isEncodable message = true) :
    sendFault? spare (errorData message) = none := by
  have kept : isSent "error" = true := by decide
  have encoded := isEncodable_sent (errorData message)
  simp only [errorData, writtenTexts, textsOfMembers, kept, if_true, List.all_append,
    List.all_cons, List.all_nil, isEncodable_ofString, plain, Bool.and_true] at encoded
  refine (sendFault?_eq_none_iff spare _).2 ⟨?_, encoded⟩
  simp [errorData, sendRoom, writeFault?, writeFaultMembers?]

/-- A reply is sent if its data can be, and else the request fails. -/
def Reply.outcome (frame : Framework) (reply : Reply) : Outcome :=
  answer frame reply.status reply.body reply.log

section Replies

variable {frame : Framework} {reply : Reply}

theorem outcome_of_sendable (sendable : sendFault? frame.spareRoom reply.body = none) :
    reply.outcome frame = .answered ⟨reply.status, .data reply.body⟩ reply.log := by
  simp [Reply.outcome, answer, send, sendable]

theorem outcome_of_fault {fault : SendFault}
    (unsendable : sendFault? frame.spareRoom reply.body = some fault) :
    reply.outcome frame = .failed fault.message reply.log := by
  simp [Reply.outcome, answer, send, unsendable]

/-- Only a reply whose data can be sent is answered. -/
theorem eq_of_outcome_eq_answered {status : Nat} {content : Content} {log : List Record}
    (answered : reply.outcome frame = .answered ⟨status, content⟩ log) :
    sendFault? frame.spareRoom reply.body = none ∧ reply.status = status ∧
      content = .data reply.body := by
  cases sendable : sendFault? frame.spareRoom reply.body with
  | none =>
    rw [outcome_of_sendable sendable] at answered
    cases answered
    exact ⟨rfl, rfl, rfl⟩
  | some fault =>
    rw [outcome_of_fault sendable] at answered
    cases answered

end Replies

end PackOpening.Service
