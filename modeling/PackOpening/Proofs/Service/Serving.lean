import PackOpening.Proofs.Definition.Accepted
import PackOpening.Proofs.Pack.Filling
import PackOpening.Proofs.Pack.Placement
import PackOpening.Proofs.Service.Reference

/-!
What an opening serves.

An opening comes to one of three ends: its definition is refused, its own set has no enabled card,
or a pack is opened. Which of them it is depends on the definition and on the pool of its own set
alone. The cards of an opened pack come from the pools that the request is entitled to: its own set
has the cards sent with the request, any other set that a slot names has the cards sent for it, and
the registry stands in where none are sent. A pack that is opened reaches the client unless a
surrogate would have to be sent.
-/
namespace PackOpening

namespace Service

open PackOpening.Json PackOpening.Text

/-- A pack can be sent when no text of its cards and no part of its pack type is a surrogate. -/
theorem sendFault?_opened (spare : Nat) (packType : Text) (drawn : List DrawnCard) :
    sendFault? spare (openedData packType drawn) = none ↔
      isEncodable packType = true ∧ ∀ one ∈ drawn, isEncodableCard one.card = true := by
  have kept := isSent_names "cards" (by simp)
  have written : writeFault? (sendRoom spare) (.obj [("cards", cardsData drawn)]) = none := by
    simp [sendRoom, writeFault?, writeFaultMembers?, cardsData, writeFaultItems?_drawnData]
  have encoded : (sent (.obj [("cards", cardsData drawn)])).all Charset.utf8.holds =
      drawn.all fun one => isEncodableCard one.card := by
    have texts := isEncodable_sent (.obj [("cards", cardsData drawn)])
    simpa only [isEncodable, writtenTexts, textsOfMembers, cardsData, kept, if_true,
      List.all_append, List.all_cons, List.all_nil, all_holds_ofString, all_isEncodable_drawnData,
      Bool.true_and, Bool.and_true] using texts
  rw [sendFault?_openedData, sendFault?_eq_none_iff, written, encoded, List.all_eq_true]
  constructor
  · rintro ⟨⟨_, cards⟩, plain⟩
    exact ⟨plain, cards⟩
  · rintro ⟨plain, cards⟩
    exact ⟨⟨rfl, cards⟩, plain⟩

/-- The pool that an opening may serve a set from: the cards sent with the request, which for the
pack's own set are those of the pack and for any other set the extra ones, and the loaded cards if
none are sent. -/
def OpenBody.entitledPool (registry : Registry) (body : OpenBody) (code : Text) : List Card :=
  let sent := if code = body.setCode then body.cards else body.extraPools.of code
  if sent = [] then SetPools.of registry code else sent

/-- Whether an opening may serve a card: an enabled one of its own set or, if it has a definition,
of another set that a compiled slot names. -/
def OpenBody.MayServe (registry : Registry) (body : OpenBody) (card : Card) : Prop :=
  card.disabled = false ∧
    (card ∈ body.entitledPool registry body.setCode ∨
      ∃ definition code, body.definition = some definition ∧ OverridesBy definition code ∧
        code ≠ body.setCode ∧ card ∈ body.entitledPool registry code)

/-- Cards placed slot by slot: each slot has one of its entries chosen, and what it places is an
enabled card of the pool that the entry's set is served from. -/
def OpenBody.ServesSlots (registry : Registry) (body : OpenBody) (slots : List Slot)
    (drawn : List DrawnCard) : Prop :=
  ∃ outcomes : List CustomPack.Outcome,
    drawn = outcomes.filterMap CustomPack.Outcome.card ∧
    List.Forall₂ (fun slot outcome => outcome.entry ∈ slot.entries ∧
      ∀ one, outcome.card = some one → one.card.disabled = false ∧
        one.card ∈ body.entitledPool registry (outcome.entry.source body.setCode)) slots outcomes

/-- Whether validating a definition reports it as invalid. -/
def IsReportedInvalid (definition : Text) : Prop :=
  (validate ⟨definition⟩).body.member? "valid" = some (.bool false)

theorem isReportedInvalid_iff {definition : Text} :
    IsReportedInvalid definition ↔ (Definition.compile definition).isValid = false := by
  simp [IsReportedInvalid, validate, Json.member?]

section Openings

variable {registry : Registry} {body : OpenBody}

theorem ownCards_eq : ownCards registry body = body.entitledPool registry body.setCode := by
  unfold ownCards OpenBody.entitledPool
  cases body.cards <;> simp

theorem entitledPool_of_sent (sent : body.cards ≠ []) :
    body.entitledPool registry body.setCode = body.cards := by
  simp [OpenBody.entitledPool, sent]

theorem entitledPool_of_ne {code : Text} (other : code ≠ body.setCode) :
    body.entitledPool registry code = registry.poolFor body.extraPools code := by
  unfold Registry.poolFor OpenBody.entitledPool
  cases SetPools.of body.extraPools code <;> simp [other]

/-- An entry draws from the pack's own set unless it names another one. -/
theorem source_cases (entry : SlotEntry) (default : Text) :
    entry.source default = default ∨ entry.setCode = some (entry.source default) := by
  cases code : entry.setCode with
  | none => simp [SlotEntry.source, code]
  | some named =>
    by_cases empty : named.isEmpty = true
    · simp [SlotEntry.source, code, empty]
    · simp [SlotEntry.source, code, empty]

/-- A custom pack finds every set that it asks for as the request is entitled to it. -/
theorem of_openPools_eq {slots : List Slot} {code : Text}
    (asked : code ∈ referencedSets slots body.setCode) :
    (openPools registry body slots).of code = body.entitledPool registry code := by
  have found := lookup_map_self (fun c => if c = body.setCode then ownCards registry body
    else registry.poolFor body.extraPools c) asked
  rw [openPools, SetPools.of, found, Option.getD_some]
  by_cases own : code = body.setCode
  · rw [if_pos own, own, ownCards_eq]
  · rw [if_neg own, entitledPool_of_ne own]

theorem mem_candidates_openPools {slots : List Slot} {slot : Slot} {entry : SlotEntry}
    {card : Card} (there : slot ∈ slots) (member : entry ∈ slot.entries)
    (candidate : card ∈ entry.candidates (openPools registry body slots) body.setCode) :
    card.disabled = false ∧
      card ∈ body.entitledPool registry (entry.source body.setCode) := by
  have asked := source_mem_referencedSets body.setCode there member
  rw [CustomPack.candidates_eq_ofRarity, of_openPools_eq asked] at candidate
  obtain ⟨listed, _, enabled, _⟩ := Pool.mem_ofRarity.1 candidate
  exact ⟨enabled, listed⟩

theorem entries_ne_nil_of_mem_compile {definition : Text} {slot : Slot}
    (member : slot ∈ (Definition.compile definition).slots) : slot.entries ≠ [] :=
  (Definition.sharesHundred_of_mem_compile member).entries_ne_nil

/-- The cards of a custom pack are served slot by slot. -/
theorem openCustom_serves (definition : Text) (seed : Int) :
    let slots := (Definition.compile definition).slots
    body.ServesSlots registry slots
      (openCustom (openPools registry body slots) slots body.setCode seed).1 := by
  intro slots
  let pools := openPools registry body slots
  have stocked : ∀ slot ∈ slots, slot.entries ≠ [] := fun _ => entries_ne_nil_of_mem_compile
  have fills : List.Forall₂ (CustomPack.Fills pools body.setCode) slots _ :=
    CustomPack.assemble_fills (Twister.seeded seed) stocked
  have placed := (List.forall₂_and_left _ _).2 ⟨fun _ there => there, fills⟩
  refine ⟨_, rfl, placed.imp fun slot outcome ⟨there, fit⟩ => ⟨fit.entry, fun one drawn => ?_⟩⟩
  exact mem_candidates_openPools there fit.entry (fit.places one drawn).1

/-- A card that a slot placed is one that the opening may serve. -/
theorem mayServe_of_servesSlots {definition : Text} {drawn : List DrawnCard} {one : DrawnCard}
    (custom : body.definition = some definition)
    (serves : body.ServesSlots registry (Definition.compile definition).slots drawn)
    (member : one ∈ drawn) : body.MayServe registry one.card := by
  obtain ⟨outcomes, rfl, placed⟩ := serves
  obtain ⟨outcome, listed, given⟩ := List.mem_filterMap.1 member
  obtain ⟨slot, there, chosen, places⟩ := exists_of_mem_of_forall₂ placed listed
  obtain ⟨enabled, stocked⟩ := places one given
  refine ⟨enabled, ?_⟩
  rcases source_cases outcome.entry body.setCode with own | named
  · exact .inl (own ▸ stocked)
  · by_cases own : outcome.entry.source body.setCode = body.setCode
    · exact .inl (own ▸ stocked)
    · exact .inr ⟨definition, _, custom, ⟨slot, there, outcome.entry, chosen, named⟩, own, stocked⟩

/-- The cards of a built-in pack are enabled cards of its own set. -/
theorem mayServe_of_mem_builtin {policy : Policy} {seed : Int} {one : DrawnCard}
    (member : one ∈ BuiltinPack.cardsOf
      ((BuiltinPack.assemble (ownCards registry body) policy).run (Twister.seeded seed)).1) :
    body.MayServe registry one.card := by
  have outcomes : ((BuiltinPack.assemble (ownCards registry body) policy).run
      (Twister.seeded seed)).1 =
        ((BuiltinPack.pullPolicy (ownCards registry body) policy).run
          (Twister.seeded seed)).1.outcomes :=
    congrArg Prod.fst (Chance.run_bind _ _ _)
  rw [outcomes] at member
  obtain ⟨_, _, pull, _, places⟩ :=
    BuiltinPack.exists_places_of_mem (Chance.yields_run _ _) member
  obtain ⟨listed, usable⟩ := Pool.mem_usable.1 (Pull.mem_usable_of_mem_candidates places.candidate)
  rw [ownCards_eq] at listed
  have enabled : one.card.disabled = false := by
    simp only [Card.isUsable, Bool.and_eq_true, Bool.not_eq_true'] at usable
    exact usable.1
  exact ⟨enabled, .inl listed⟩

end Openings

/-- Whether an opening has a definition that validating reports as invalid. -/
def OpenBody.IsInvalid (body : OpenBody) : Prop :=
  ∃ definition, body.definition = some definition ∧ IsReportedInvalid definition

/-- Whether an opening without a definition finds no enabled card for its own set. -/
def OpenBody.IsUnstocked (registry : Registry) (body : OpenBody) : Prop :=
  body.definition = none ∧
    ∀ card ∈ body.entitledPool registry body.setCode, card.disabled = true

/-- Cards that an opening may serve, slot by slot if there is a definition. -/
def OpenBody.Serves (registry : Registry) (body : OpenBody) (drawn : List DrawnCard) : Prop :=
  (∀ one ∈ drawn, body.MayServe registry one.card) ∧
    ∀ definition, body.definition = some definition →
      body.ServesSlots registry (Definition.compile definition).slots drawn

def invalidTemplateMessage : Text := "Invalid booster template definition."

def emptySetMessage : Text := "Set data not found. Contact admin to sync set."

/-- The ends that an opening can come to. Its attempt is reported first, and its end last. -/
inductive OpenBody.Ends (registry : Registry) (body : OpenBody) : Reply → Prop where
  | invalidTemplate {errors : List Text} (invalid : body.IsInvalid) :
    Ends registry body ⟨500, errorData invalidTemplateMessage,
      [.service (.openAttempt body.setCode body.packType body.definition.isSome),
        .service (.openInvalidTemplate body.setCode errors)]⟩
  | emptySet (unstocked : body.IsUnstocked registry) :
    Ends registry body ⟨500, errorData emptySetMessage,
      [.service (.openAttempt body.setCode body.packType body.definition.isSome),
        .service (.openEmptySet body.setCode)]⟩
  | opened {drawn : List DrawnCard} {events : List PackEvent} (valid : ¬ body.IsInvalid)
    (stocked : ¬ body.IsUnstocked registry) (serves : body.Serves registry drawn) :
    Ends registry body ⟨201, openedData body.packType drawn,
      .service (.openAttempt body.setCode body.packType body.definition.isSome) ::
        (events.map .pack ++
          [.service (.openSuccess body.setCode body.packType drawn.length)])⟩

theorem OpenBody.isUnstocked_iff {registry : Registry} {body : OpenBody} :
    body.IsUnstocked registry ↔
      body.definition = none ∧ (Pool.enabled (ownCards registry body)).isEmpty = true := by
  simp [IsUnstocked, ownCards_eq, Pool.enabled, List.filter_eq_nil_iff]

theorem OpenBody.IsInvalid.not_isUnstocked {registry : Registry} {body : OpenBody}
    (invalid : body.IsInvalid) : ¬ body.IsUnstocked registry := by
  obtain ⟨definition, custom, _⟩ := invalid
  rintro ⟨absent, _⟩
  rw [absent] at custom
  cases custom

theorem OpenBody.isInvalid_iff {body : OpenBody} {definition : Text}
    (custom : body.definition = some definition) :
    body.IsInvalid ↔ (Definition.compile definition).isValid = false := by
  simp [IsInvalid, custom, isReportedInvalid_iff]

/-- An opening comes to one of its ends. -/
theorem openPack_ends (registry : Registry) (fresh : Int) (body : OpenBody) :
    body.Ends registry (openPack registry fresh body) := by
  let source := Twister.seeded (body.seed.getD fresh)
  cases custom : body.definition with
  | some definition =>
    have unstocked : ¬ body.IsUnstocked registry := by simp [OpenBody.IsUnstocked, custom]
    have invalid := OpenBody.isInvalid_iff custom
    cases valid : (Definition.compile definition).isValid with
    | false =>
      have reply := @OpenBody.Ends.invalidTemplate registry body
        (Definition.compile definition).errors (invalid.2 valid)
      simpa [openPack, openNow, custom, valid, invalidTemplateMessage] using reply
    | true =>
      let slots := (Definition.compile definition).slots
      let assembly := ((CustomPack.assemble (openPools registry body slots) slots
        body.setCode).run source).1
      have slotwise : body.ServesSlots registry slots assembly.cards :=
        openCustom_serves definition (body.seed.getD fresh)
      have serves : body.Serves registry assembly.cards := by
        refine ⟨fun _ => mayServe_of_servesSlots custom slotwise, fun _ given => ?_⟩
        obtain rfl := Option.some.inj (custom.symm.trans given)
        exact slotwise
      have reply := @OpenBody.Ends.opened registry body assembly.cards
        (assembly.events slots body.setCode) (by simp [invalid, valid]) unstocked serves
      simpa [openPack, openNow, custom, valid, opened, openCustom, openedData] using reply
  | none =>
    have valid : ¬ body.IsInvalid := by simp [OpenBody.IsInvalid, custom]
    have unstocked : body.IsUnstocked registry ↔ _ := OpenBody.isUnstocked_iff
    by_cases empty : (Pool.enabled (ownCards registry body)).isEmpty = true
    · have reply := OpenBody.Ends.emptySet (unstocked.2 ⟨custom, empty⟩)
      simpa [openPack, openNow, custom, empty, emptySetMessage] using reply
    · let policy := Policy.select body.packType body.releaseDate
      let outcomes := ((BuiltinPack.assemble (ownCards registry body) policy).run source).1
      have serves : body.Serves registry (BuiltinPack.cardsOf outcomes) :=
        ⟨fun _ => mayServe_of_mem_builtin, fun _ given => by simp [custom] at given⟩
      have reply := @OpenBody.Ends.opened registry body (BuiltinPack.cardsOf outcomes)
        (BuiltinPack.eventsOf policy body.packType outcomes) valid
        (fun none => empty (unstocked.1 none).2) serves
      simpa [openPack, openNow, custom, empty, opened, openedData] using reply

/-- An answer that refuses to open a pack. -/
def refusal (message : Text) (log : List Record) : Outcome :=
  .answered ⟨500, .data (errorData message)⟩ log

theorem refusal_injective {message message' : Text} {log log' : List Record}
    (same : refusal message log = refusal message' log') : message = message' := by
  simpa [refusal, errorData] using (Outcome.answered.inj same).1

theorem outcome_refusal (frame : Framework) (message : Text) (plain : isEncodable message = true)
    (log : List Record) :
    (⟨500, errorData message, log⟩ : Reply).outcome frame = refusal message log :=
  outcome_of_sendable (sendFault?_errorData frame.spareRoom plain)

/-- A reply with an opened pack is answered if nothing in it is a surrogate, and fails otherwise. -/
theorem outcome_opened (frame : Framework) (packType : Text) (drawn : List DrawnCard)
    (log : List Record) :
    if isEncodable packType = true ∧ ∀ one ∈ drawn, isEncodableCard one.card = true then
      (⟨201, openedData packType drawn, log⟩ : Reply).outcome frame =
        .answered ⟨201, .data (openedData packType drawn)⟩ log
    else ∃ error,
      (⟨201, openedData packType drawn, log⟩ : Reply).outcome frame = .failed error log := by
  have sendable := sendFault?_opened frame.spareRoom packType drawn
  split
  · next plain => exact outcome_of_sendable (sendable.2 plain)
  · next surrogate =>
    cases fault : sendFault? frame.spareRoom (openedData packType drawn) with
    | none => exact absurd (sendable.1 fault) surrogate
    | some fault' => exact ⟨fault'.message, outcome_of_fault fault⟩

theorem outcome_opened_ne_refusal (frame : Framework) (packType message : Text)
    (drawn : List DrawnCard) (log log' : List Record) :
    (⟨201, openedData packType drawn, log⟩ : Reply).outcome frame ≠ refusal message log' := by
  intro same
  have answered := outcome_opened frame packType drawn log
  rw [same] at answered
  split at answered
  · cases answered
  · obtain ⟨_, failed⟩ := answered
    cases failed

/-- An opening is refused for its definition exactly if validating reports that as invalid, and for
want of cards exactly if it has no definition and no enabled card of its own set is at hand. Every
other opening comes to a pack. Its cards are the enabled ones of the request's own pools, slot by
slot if there is a definition, and the last record counts them. The registry is not asked for the
pack's own set when cards of it were sent, and neither are the extra pools. The pack is sent unless
its type or one of its cards holds a surrogate; then the request fails. -/
theorem opening_follows_one_rule (frame : Framework) (registry : Registry) (fresh : Int)
    (body : OpenBody) :
    let reply := openPack registry fresh body
    (reply.outcome frame = refusal invalidTemplateMessage reply.log ↔ body.IsInvalid) ∧
    (reply.outcome frame = refusal emptySetMessage reply.log ↔ body.IsUnstocked registry) ∧
    (reply.status = 201 ↔ ¬ body.IsInvalid ∧ ¬ body.IsUnstocked registry) ∧
    (body.cards ≠ [] → body.entitledPool registry body.setCode = body.cards) ∧
    (reply.status = 201 → ∃ drawn earlier, reply.body = openedData body.packType drawn ∧
      reply.log = earlier ++
        [.service (.openSuccess body.setCode body.packType drawn.length)] ∧
      body.Serves registry drawn ∧
      if isEncodable body.packType = true ∧ ∀ one ∈ drawn, isEncodableCard one.card = true then
        reply.outcome frame = .answered ⟨201, .data (openedData body.packType drawn)⟩ reply.log
      else ∃ error, reply.outcome frame = .failed error reply.log) := by
  intro reply
  have ends : body.Ends registry reply := openPack_ends registry fresh body
  have own : body.cards ≠ [] → body.entitledPool registry body.setCode = body.cards :=
    entitledPool_of_sent
  have distinct : invalidTemplateMessage ≠ emptySetMessage := by decide
  generalize reply = reply at ends ⊢
  cases ends with
  | @invalidTemplate errors invalid =>
    have refused := outcome_refusal frame invalidTemplateMessage (by decide)
      [.service (.openAttempt body.setCode body.packType body.definition.isSome),
        .service (.openInvalidTemplate body.setCode errors)]
    refine ⟨iff_of_true refused invalid, ?_, ?_, own, ?_⟩
    · rw [refused]
      exact iff_of_false (fun same => distinct (refusal_injective same))
        invalid.not_isUnstocked
    · exact iff_of_false (by simp) fun valid => valid.1 invalid
    · intro status
      cases status
  | emptySet unstocked =>
    have refused := outcome_refusal frame emptySetMessage (by decide)
      [.service (.openAttempt body.setCode body.packType body.definition.isSome),
        .service (.openEmptySet body.setCode)]
    refine ⟨?_, iff_of_true refused unstocked, ?_, own, ?_⟩
    · rw [refused]
      exact iff_of_false (fun same => distinct (refusal_injective same).symm)
        fun invalid => invalid.not_isUnstocked unstocked
    · exact iff_of_false (by simp) fun stocked => stocked.2 unstocked
    · intro status
      cases status
  | @opened drawn events valid stocked serves =>
    have opened := outcome_opened frame body.packType drawn
    refine ⟨?_, ?_, iff_of_true rfl ⟨valid, stocked⟩, own, fun _ => ?_⟩
    · exact iff_of_false (outcome_opened_ne_refusal _ _ _ _ _ _) valid
    · exact iff_of_false (outcome_opened_ne_refusal _ _ _ _ _ _) stocked
    · exact ⟨drawn, _ :: events.map .pack, rfl, rfl, serves, opened _⟩

/-- Cards of both sets are sent along, and other cards of them are loaded, or sent as extra ones of
the pack's own set: each slot serves the one card that was sent for its set. -/
theorem opening_follows_one_rule_sent_cards :
    let card (id setCode : Text) : Card :=
      ⟨id, "plain", setCode, none, "common", false, none, none, false, []⟩
    let registry : Registry := [("s", [card "loaded" "s"]), ("t", [card "loaded" "t"])]
    let body : OpenBody := ⟨"s", "play", none, [card "own" "s"], some "c,100;t:c,100",
      [("s", [card "extra" "s"]), ("t", [card "other" "t"])], some 1⟩
    (body.cards ≠ [] ∧ (openPack registry 0 body).status = 201) ∧
    ∃ drawn, (openPack registry 0 body).outcome (.usual 1 0) =
        .answered ⟨201, .data (openedData "play" drawn)⟩ (openPack registry 0 body).log ∧
      ∀ one ∈ drawn, one.card = card "own" "s" ∨ one.card = card "other" "t" := by
  intro card registry body
  have sent : body.cards ≠ [] := by simp [body]
  have slots : (Definition.compile "c,100;t:c,100").slots =
      [⟨[⟨.common, 100, none⟩]⟩, ⟨[⟨.common, 100, some "t"⟩]⟩] := by decide +kernel
  have valid : (Definition.compile "c,100;t:c,100").isValid = true := by decide +kernel
  have follows := opening_follows_one_rule (.usual 1 0) registry 0 body
  have status : (openPack registry 0 body).status = 201 :=
    follows.2.2.1.2 ⟨by rw [OpenBody.isInvalid_iff rfl, valid]; simp,
      by simp [OpenBody.IsUnstocked, body]⟩
  obtain ⟨drawn, _, _, _, serves, answered⟩ := follows.2.2.2.2 status
  have own : body.entitledPool registry "s" = [card "own" "s"] := follows.2.2.2.1 sent
  have other : body.entitledPool registry "t" = [card "other" "t"] := by decide
  have cards (one : DrawnCard) (member : one ∈ drawn) :
      one.card = card "own" "s" ∨ one.card = card "other" "t" := by
    obtain ⟨_, stocked | ⟨definition, code, custom, overrides, _, stocked⟩⟩ := serves.1 one member
    · exact .inl (List.mem_singleton.1 (own ▸ stocked))
    · obtain rfl := Option.some.inj custom
      have named : code = ("t" : Text) := by
        simpa [OverridesBy, slots, eq_comm] using overrides
      rw [named] at stocked
      exact .inr (List.mem_singleton.1 (other ▸ stocked))
  have plain : isEncodable body.packType = true ∧
      ∀ one ∈ drawn, isEncodableCard one.card = true := by
    refine ⟨by decide, fun one member => ?_⟩
    rcases cards one member with given | given
    · rw [given]
      decide
    · rw [given]
      decide
  rw [if_pos plain] at answered
  exact ⟨⟨sent, status⟩, drawn, answered, cards⟩

/-- Not every opening is answered: a pack whose type is a surrogate cannot be sent. -/
theorem not_every_opening_answered :
    ¬ ∀ (registry : Registry) (fresh : Int) (body : OpenBody), ∃ answer log,
      (openPack registry fresh body).outcome (.usual 1 0) = .answered answer log := by
  intro claim
  let card : Card := ⟨"a", "plain", "s", none, "common", false, none, none, false, []⟩
  let body : OpenBody := ⟨"s", [.surrogate 0], none, [card], none, [], some 1⟩
  have ends : body.Ends [] (openPack [] 0 body) := openPack_ends [] 0 body
  obtain ⟨answer, log, answered⟩ := claim [] 0 body
  generalize openPack [] 0 body = reply at ends answered
  cases ends with
  | invalidTemplate invalid =>
    obtain ⟨_, custom, _⟩ := invalid
    cases custom
  | emptySet unstocked =>
    have disabled := unstocked.2 card (by decide)
    cases disabled
  | @opened drawn events valid stocked serves =>
    obtain ⟨sendable, _⟩ := eq_of_outcome_eq_answered answered
    have plain := ((sendFault?_opened _ _ _).1 sendable).1
    cases plain

end Service
end PackOpening
