import PackOpening.Proofs.Pack.Supply
import PackOpening.Proofs.Service.Sending
import PackOpening.Service.Announcement

/-!
Trying a definition out and opening a pack from it.

Both operations look the pools of a custom pack up by set. The trial keeps the enabled cards of each
pool and gives up when a set has none; the opening passes pools on as they are. With the same cards
and the same seed they draw one and the same pack.
-/
namespace PackOpening.Service

open PackOpening.Text

theorem mem_sorted {code : Text} {codes : List Text} : code ∈ sorted codes ↔ code ∈ codes :=
  List.mem_mergeSort

/-- A trial goes on with the enabled cards of every set that was asked for. -/
theorem of_stockedPools {registry : Registry} {supplied pools : SetPools} {codes : List Text}
    (stocked : stockedPools registry supplied codes = .ok pools) {code : Text}
    (asked : code ∈ codes) :
    pools.of code = Pool.enabled (registry.poolFor supplied code) := by
  induction codes generalizing pools with
  | nil => cases asked
  | cons first rest ih =>
    simp only [stockedPools] at stocked
    split at stocked
    · cases stocked
    · next cards _ =>
      cases later : stockedPools registry supplied rest with
      | error missing => rw [later] at stocked; cases stocked
      | ok others =>
        rw [later] at stocked
        cases stocked
        by_cases here : code = first
        · subst here
          simp [SetPools.of]
        · have onward : code ∈ rest := (List.mem_cons.1 asked).resolve_left here
          have distinct : (code == first) = false := by simpa using here
          simpa [SetPools.of, List.lookup_cons, distinct] using ih later onward

/-- When the cards sent for the pack's own set are those of its supplied pool, every set is looked
up among the supplied pools first and in the registry then. -/
theorem of_openPools {registry : Registry} {body : OpenBody} {slots : List Slot} {code : Text}
    (own : body.cards = body.extraPools.of body.setCode)
    (asked : code ∈ referencedSets slots body.setCode) :
    (openPools registry body slots).of code = registry.poolFor body.extraPools code := by
  have found := lookup_map_self (fun c => if c = body.setCode then ownCards registry body
    else registry.poolFor body.extraPools c) asked
  rw [openPools, SetPools.of, found, Option.getD_some]
  by_cases default : code = body.setCode
  · rw [if_pos default, default, ownCards, own]
    rfl
  · rw [if_neg default]

/-- The trial's pools and the opening's pools make the same pack of the same seed. -/
theorem openCustom_congr {registry : Registry} (body : OpenBody) {slots : List Slot}
    {pools : SetPools} (own : body.cards = body.extraPools.of body.setCode)
    (stocked : stockedPools registry body.extraPools
      (sorted (referencedSets slots body.setCode)) = .ok pools) (seed : Int) :
    openCustom pools slots body.setCode seed =
      openCustom (openPools registry body slots) slots body.setCode seed := by
  have same : CustomPack.assemble pools slots body.setCode =
      CustomPack.assemble (openPools registry body slots) slots body.setCode := by
    refine CustomPack.assemble_congr fun code asked => ?_
    -- the trial keeps enabled cards only, and assembling drops the others anyway
    rw [of_stockedPools stocked (mem_sorted.2 asked), of_openPools own asked]
    simp [Pool.enabled, List.filter_filter]
  rw [openCustom, openCustom, same]

/-- The data of an opened pack. -/
def openedData (packType : Text) (drawn : List DrawnCard) : Json :=
  .obj [("message", .str "Opened Pack Successfully"), ("pack_type", .str packType),
    ("cards", cardsData drawn)]

/-- An opened pack can be sent when its cards can be and its pack type holds no surrogate. -/
theorem sendFault?_openedData (spare : Nat) (packType : Text) (drawn : List DrawnCard) :
    sendFault? spare (openedData packType drawn) = none ↔
      sendFault? spare (.obj [("cards", cardsData drawn)]) = none ∧
        packType.all Charset.utf8.holds = true := by
  have kept : isSent "message" = true ∧ isSent "pack_type" = true ∧ isSent "cards" = true := by
    decide
  have written : writeFault? (sendRoom spare) (openedData packType drawn) =
      writeFault? (sendRoom spare) (.obj [("cards", cardsData drawn)]) := by
    simp [openedData, sendRoom, writeFault?, writeFaultMembers?, kept]
  have encoded : (sent (openedData packType drawn)).all Charset.utf8.holds =
      (packType.all Charset.utf8.holds &&
        (sent (.obj [("cards", cardsData drawn)])).all Charset.utf8.holds) := by
    simp only [openedData, sent, sentMembers, kept, if_true, List.intercalate,
      List.intersperse_cons_cons, List.intersperse_singleton, List.flatten_cons,
      List.flatten_nil, List.all_append, all_holds_sentText, all_holds_ofString, List.all_nil,
      Bool.true_and, Bool.and_true]
  rw [sendFault?_eq_none_iff, sendFault?_eq_none_iff, written, encoded, Bool.and_eq_true]
  constructor
  · rintro ⟨nested, plain, cards⟩
    exact ⟨⟨nested, cards⟩, plain⟩
  · rintro ⟨⟨nested, cards⟩, plain⟩
    exact ⟨nested, plain, cards⟩

theorem generate_of_invalid (registry : Registry) (fresh : Int) (body : GenerateBody)
    (invalid : (Definition.compile body.definition).isValid = false) :
    generate registry fresh body =
      ⟨400, errorData (List.intercalate "; " (Definition.compile body.definition).errors),
        [.service (.generateInvalidDefinition body.setCode
          (Definition.compile body.definition).errors)]⟩ := by
  simp [generate, invalid]

theorem openPack_of_invalid (registry : Registry) (fresh : Int) (body : OpenBody)
    {definition : Text} (custom : body.definition = some definition)
    (invalid : (Definition.compile definition).isValid = false) :
    (openPack registry fresh body).status = 500 ∧
      (openPack registry fresh body).body =
        errorData "Invalid booster template definition." := by
  simp [openPack, openNow, custom, invalid]

theorem openPack_of_valid (registry : Registry) (fresh : Int) {seed : Int} (body : OpenBody)
    {definition : Text} (custom : body.definition = some definition)
    (valid : (Definition.compile definition).isValid = true) (seeded : body.seed = some seed) :
    (openPack registry fresh body).status = 201 ∧
      (openPack registry fresh body).body = openedData body.packType
        (openCustom (openPools registry body (Definition.compile definition).slots)
          (Definition.compile definition).slots body.setCode seed).1 := by
  simp [openPack, openNow, custom, valid, seeded, opened, openedData]

/-- A trial is answered with a pack only if the definition is valid and every set is stocked. -/
theorem generate_eq_of_status {registry : Registry} {fresh seed : Int} {body : GenerateBody}
    (seeded : body.seed = some seed) (given : (generate registry fresh body).status = 200) :
    (Definition.compile body.definition).isValid = true ∧
    ∃ pools, stockedPools registry body.pools
        (sorted (referencedSets (Definition.compile body.definition).slots body.setCode)) =
          .ok pools ∧
      (generate registry fresh body).body = .obj [("cards", cardsData
        (openCustom pools (Definition.compile body.definition).slots body.setCode seed).1)] := by
  cases valid : (Definition.compile body.definition).isValid with
  | false =>
    rw [generate_of_invalid registry fresh body valid] at given
    cases given
  | true =>
    refine ⟨rfl, ?_⟩
    cases stocked : stockedPools registry body.pools
        (sorted (referencedSets (Definition.compile body.definition).slots body.setCode)) with
    | error missing => simp [generate, valid, stocked] at given
    | ok pools => exact ⟨pools, rfl, by simp [generate, valid, stocked, seeded]⟩

/-- A reply with an opened pack whose cards can be sent reaches the client unless the pack type
holds a surrogate. -/
theorem outcome_of_opened {frame : Framework} {reply : Reply} {packType : Text}
    {drawn : List DrawnCard} (status : reply.status = 201)
    (body : reply.body = openedData packType drawn)
    (sendable : sendFault? frame.spareRoom (.obj [("cards", cardsData drawn)]) = none) :
    (packType.any CodePoint.isSurrogate = false →
      reply.outcome frame = .answered ⟨201, .data (openedData packType drawn)⟩ reply.log) ∧
    (packType.any CodePoint.isSurrogate = true →
      ∃ error, reply.outcome frame = .failed error reply.log) := by
  have plain : packType.all Charset.utf8.holds = !packType.any CodePoint.isSurrogate := by
    simp [List.all_eq_not_any_not, Charset.holds]
  have whole := sendFault?_openedData frame.spareRoom packType drawn
  constructor
  · intro without
    have sent : sendFault? frame.spareRoom reply.body = none := by
      rw [body]
      exact whole.2 ⟨sendable, by rw [plain, without]; rfl⟩
    rw [outcome_of_sendable sent, status, body]
  · intro surrogate
    cases faulty : sendFault? frame.spareRoom reply.body with
    | none =>
      rw [body] at faulty
      have without := (whole.1 faulty).2
      rw [plain, surrogate] at without
      cases without
    | some fault => exact ⟨fault.message, outcome_of_fault faulty⟩

/-- A reply that refuses a definition can always be sent. -/
theorem outcome_of_refused {frame : Framework} {reply : Reply} (status : reply.status = 500)
    (body : reply.body = errorData "Invalid booster template definition.") :
    reply.outcome frame =
      .answered ⟨500, .data (errorData "Invalid booster template definition.")⟩ reply.log := by
  have sendable : sendFault? frame.spareRoom reply.body = none := by
    rw [body]
    exact sendFault?_errorData frame.spareRoom (isEncodable_ofString _)
  rw [outcome_of_sendable sendable, status, body]

/-- A pack of one slot with one entry that only one card fits holds that card. -/
theorem cards_of_lone_candidate {pools : SetPools} {default : Text} {entry : SlotEntry}
    {card : Card} (only : entry.candidates pools default = [card]) (seed : Int) :
    (openCustom pools [⟨[entry]⟩] default seed).1 = [⟨card, false, card.isAltArt⟩] := by
  have path := Chance.yields_run (CustomPack.assemble pools [⟨[entry]⟩] default)
    (Twister.seeded seed)
  rcases CustomPack.yields_fillAll_cons path with
    ⟨empty, _⟩ | ⟨_, chosen, _, result, _, others, _, found, draws, onward, assembled⟩
  · cases empty
  · have same : chosen = entry := List.mem_singleton.1 (Slot.mem_of_entryAt? found)
    subst same
    have sparing := CustomPack.fill_sparing draws
    rw [only] at sparing
    rw [openCustom, assembled, CustomPack.yields_fillAll_nil onward]
    cases taken : result.card with
    | none => cases sparing.none_iff.1 taken
    | some drawn =>
      have drawn_eq : drawn = card := List.mem_singleton.1 (sparing.mem drawn taken)
      simp [CustomPack.Assembly.cards, CustomPack.outcomeOf, taken, drawn_eq]

/-- A trial with one common card for one slot of commons is answered with that card. -/
theorem outcome_of_lone_common (card : Card) (common : card.rarity = "common")
    (enabled : card.disabled = false)
    {frame : Framework} (sendable : sendFault? frame.spareRoom
      (.obj [("cards", cardsData [⟨card, false, card.isAltArt⟩])]) = none) (fresh seed : Int) :
    ∃ log, (generate [] fresh ⟨"c,100", "s", [("s", [card])], some seed⟩).outcome frame = .answered
      ⟨200, .data (.obj [("cards", cardsData [⟨card, false, card.isAltArt⟩])])⟩ log := by
  have compiled : Definition.compile "c,100" = ⟨[⟨[⟨.common, 100, none⟩]⟩], []⟩ := by
    decide +kernel
  have only : SlotEntry.candidates [("s", [card])] "s" ⟨.common, 100, none⟩ = [card] := by
    simp [SlotEntry.candidates, SlotEntry.source, SetPools.of, common, enabled, Rarity.name]
  have asked : sorted (referencedSets [⟨[⟨.common, 100, none⟩]⟩] "s") =
      [("s" : Text)] := by
    decide +kernel
  have stocked : stockedPools [] [("s", [card])] [("s" : Text)] = .ok [("s", [card])] := by
    simp [stockedPools, Registry.poolFor, SetPools.of, Pool.enabled, enabled]
  have drawn := cards_of_lone_candidate only seed
  have body : (generate [] fresh ⟨"c,100", "s", [("s", [card])], some seed⟩).body =
      .obj [("cards", cardsData [⟨card, false, card.isAltArt⟩])] := by
    simp [generate, compiled, Definition.isValid, asked, stocked, drawn]
  have status : (generate [] fresh ⟨"c,100", "s", [("s", [card])], some seed⟩).status = 200 := by
    simp [generate, compiled, Definition.isValid, asked, stocked]
  rw [← body] at sendable
  exact ⟨_, by rw [outcome_of_sendable sendable, status, body]⟩

/-- A definition that is answered with a pack on trial opens the same pack: with the same set code,
pools, seed and registry, and with the pool of that set as the cards sent, the opening draws the
same cards in the same order. It is answered with them unless the pack type holds a surrogate, which
the answer would repeat and which cannot be sent. A definition that a trial refuses as invalid opens
no pack. -/
theorem trial_agrees_with_opening (frame : Framework) (registry : Registry)
    (fresh fresh' seed : Int) (definition setCode packType : Text) (date : Option Text)
    (pools : SetPools) :
    let trial := generate registry fresh ⟨definition, setCode, pools, some seed⟩
    let opening := openPack registry fresh'
      ⟨setCode, packType, date, pools.of setCode, some definition, pools, some seed⟩
    (∀ content log, trial.outcome frame = .answered ⟨200, content⟩ log →
      ∃ drawn, content = .data (.obj [("cards", cardsData drawn)]) ∧
        opening.status = 201 ∧ opening.body = openedData packType drawn ∧
        (packType.any CodePoint.isSurrogate = false →
          opening.outcome frame = .answered ⟨201, .data (openedData packType drawn)⟩ opening.log) ∧
        (packType.any CodePoint.isSurrogate = true →
          ∃ error, opening.outcome frame = .failed error opening.log)) ∧
    ((Definition.compile definition).isValid = false →
      trial.status = 400 ∧
      opening.outcome frame = .answered
        ⟨500, .data (errorData "Invalid booster template definition.")⟩ opening.log) := by
  intro trial opening
  let body : OpenBody :=
    ⟨setCode, packType, date, pools.of setCode, some definition, pools, some seed⟩
  constructor
  · intro content log answered
    obtain ⟨sendable, given, rfl⟩ := eq_of_outcome_eq_answered answered
    obtain ⟨valid, stocks, stocked, shown⟩ := generate_eq_of_status rfl given
    obtain ⟨status, data⟩ := openPack_of_valid registry fresh' body rfl valid rfl
    rw [← openCustom_congr body rfl stocked seed] at data
    rw [shown] at sendable
    exact ⟨_, congrArg Content.data shown, status, data, outcome_of_opened status data sendable⟩
  · intro invalid
    obtain ⟨status, data⟩ := openPack_of_invalid registry fresh' body rfl invalid
    have refused := generate_of_invalid registry fresh
      ⟨definition, setCode, pools, some seed⟩ invalid
    exact ⟨congrArg Reply.status refused, outcome_of_refused status data⟩

/-- A lone common is drawn by the trial and by the opening, and a slot of no rarity is refused by
both. -/
theorem trial_agrees_with_opening_lone_common :
    let card : Card := ⟨"a", "plain", "s", none, "common", false, none, none, false, []⟩
    let pools : SetPools := [("s", [card])]
    let request (definition : Text) : OpenBody :=
      ⟨"s", "play", none, [card], some definition, pools, some 1⟩
    let frame : Framework := .usual 1 0
    ((∃ content log, (generate [] 0 ⟨"c,100", "s", pools, some 1⟩).outcome frame =
        .answered ⟨200, content⟩ log) ∧
      ∃ drawn, (openPack [] 0 (request "c,100")).outcome frame =
        .answered ⟨201, .data (openedData "play" drawn)⟩ (openPack [] 0 (request "c,100")).log) ∧
    ((Definition.compile "x,100").isValid = false ∧
      (openPack [] 0 (request "x,100")).status = 500) := by
  intro card pools request frame
  obtain ⟨log, answered⟩ :=
    @outcome_of_lone_common card rfl rfl frame (by decide +kernel) 0 1
  have invalid : (Definition.compile "x,100").isValid = false := by decide +kernel
  have ⟨drawn, _, _, _, shown, _⟩ :=
    (trial_agrees_with_opening frame [] 0 0 1 "c,100" "s" "play" none pools).1 _ log answered
  have refused :=
    (trial_agrees_with_opening frame [] 0 0 1 "x,100" "s" "play" none pools).2 invalid
  exact ⟨⟨⟨_, log, answered⟩, drawn, shown rfl⟩, invalid,
    (eq_of_outcome_eq_answered refused.2).2.1⟩

/-- The pack type may not be any text: a trial can be answered with a pack although the opening with
a surrogate for its pack type is not answered at all. -/
theorem not_trial_agrees_with_every_opening :
    ¬ ∀ (registry : Registry) (fresh fresh' seed : Int) (definition setCode packType : Text)
      (date : Option Text) (pools : SetPools) (content : Content) (log : List Record),
      (generate registry fresh ⟨definition, setCode, pools, some seed⟩).outcome (.usual 1 0) =
        .answered ⟨200, content⟩ log →
      ∃ drawn log', content = .data (.obj [("cards", cardsData drawn)]) ∧
        (openPack registry fresh' ⟨setCode, packType, date, pools.of setCode, some definition,
          pools, some seed⟩).outcome (.usual 1 0) =
            .answered ⟨201, .data (openedData packType drawn)⟩ log' := by
  intro claim
  let card : Card := ⟨"a", "plain", "s", none, "common", false, none, none, false, []⟩
  obtain ⟨log, answered⟩ :=
    @outcome_of_lone_common card rfl rfl (.usual 1 0) (by decide +kernel) 0 1
  obtain ⟨drawn, log', _, opened⟩ :=
    claim [] 0 0 1 "c,100" "s" [.surrogate 0] none [("s", [card])] _ log answered
  obtain ⟨sendable, _, same⟩ := eq_of_outcome_eq_answered opened
  rw [← Content.data.inj same] at sendable
  have plain := ((sendFault?_openedData _ _ _).1 sendable).2
  cases plain

end PackOpening.Service
