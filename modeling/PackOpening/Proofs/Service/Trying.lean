import Mathlib.Order.Bounds.Basic
import PackOpening.Proofs.Definition.Canonical
import PackOpening.Proofs.Service.Serving
import PackOpening.Proofs.Text.Order

/-!
What a trial comes to.

A trial is refused for the errors of its definition first. Then it is refused for a set without an
enabled card: of all such sets that it refers to, for the one whose code comes first in the order of
texts, however the definition lists them. What is left opens a pack on the sets that it refers to.
The reply is sent unless a surrogate would have to be sent.
-/
namespace PackOpening

namespace Service

open PackOpening.Json PackOpening.Text

/-- The pool that a trial opens packs of a set from: the cards sent for the set, and the loaded ones
if none are sent. -/
def GenerateBody.effectivePool (registry : Registry) (body : GenerateBody) (code : Text) :
    List Card :=
  if body.pools.of code = [] then SetPools.of registry code else body.pools.of code

/-- Whether a trial refers to a set that has no enabled card. -/
def GenerateBody.Lacks (registry : Registry) (body : GenerateBody) (code : Text) : Prop :=
  (code = body.setCode ∨ OverridesBy body.definition code) ∧
    ∀ card ∈ body.effectivePool registry code, card.disabled = true

/-- The effective pools of the sets that a trial refers to. -/
def GenerateBody.effectivePools (registry : Registry) (body : GenerateBody) : SetPools :=
  (referencedSets (Definition.compile body.definition).slots body.setCode).map fun code =>
    (code, body.effectivePool registry code)

/-- The pack that a trial opens with a seed. -/
def GenerateBody.pack (registry : Registry) (body : GenerateBody) (seed : Int) :
    CustomPack.Assembly :=
  ((CustomPack.assemble (body.effectivePools registry)
    (Definition.compile body.definition).slots body.setCode).run (Twister.seeded seed)).1

def missingSetMessage (code : Text) : Text :=
  "Set \"" ++ code ++ "\" has no cards or doesn't exist."

def packData (drawn : List DrawnCard) : Json := .obj [("cards", cardsData drawn)]

/-- Whether a reply is sent under a condition and fails the request otherwise. -/
def Reply.IsSentIff (frame : Framework) (reply : Reply) (plain : Prop) : Prop :=
  (plain → reply.outcome frame = .answered ⟨reply.status, .data reply.body⟩ reply.log) ∧
    (¬ plain → ∃ error, reply.outcome frame = .failed error reply.log)

section Pools

variable {registry : Registry} {body : GenerateBody}

theorem poolFor_eq_effectivePool (code : Text) :
    registry.poolFor body.pools code = body.effectivePool registry code := by
  unfold Registry.poolFor GenerateBody.effectivePool
  cases SetPools.of body.pools code <;> simp

theorem of_effectivePools {code : Text}
    (asked : code ∈ referencedSets (Definition.compile body.definition).slots body.setCode) :
    (body.effectivePools registry).of code = body.effectivePool registry code := by
  rw [GenerateBody.effectivePools, SetPools.of, lookup_map_self _ asked, Option.getD_some]

theorem enabled_eq_nil_iff {cards : List Card} :
    Pool.enabled cards = [] ↔ ∀ card ∈ cards, card.disabled = true := by
  simp [Pool.enabled, List.filter_eq_nil_iff]

/-- No entry of a compiled slot has an empty set code. -/
theorem ne_nil_of_overridesBy {definition code : Text} (overrides : OverridesBy definition code) :
    code ≠ [] := by
  obtain ⟨slot, member, entry, listed, named⟩ := overrides
  exact ((Definition.isCanonical_of_mem_compile member).codes entry listed code named).present

/-- The sets that the slots refer to are the pack's own and those that an entry overrides it by. -/
theorem mem_referencedSets_compile {definition default code : Text} :
    code ∈ referencedSets (Definition.compile definition).slots default ↔
      code = default ∨ OverridesBy definition code := by
  constructor
  · exact mem_referencedSets
  · rintro (own | overrides)
    · simp [referencedSets, own]
    · have present := ne_nil_of_overridesBy overrides
      obtain ⟨slot, member, entry, listed, named⟩ := overrides
      rw [referencedSets, List.mem_eraseDups]
      refine List.mem_cons_of_mem _ (List.mem_filterMap.2 ⟨entry, ?_, ?_⟩)
      · exact List.mem_flatMap.2 ⟨slot, member, listed⟩
      · simp [named, present]

/-- A set that is missed is the first one in the list that has no enabled card. -/
theorem isLeast_of_stockedPools {supplied : SetPools} {codes : List Text} {code : Text}
    (ordered : codes.Pairwise (· ≤ ·))
    (missing : stockedPools registry supplied codes = .error code) :
    IsLeast {c | c ∈ codes ∧ Pool.enabled (registry.poolFor supplied c) = []} code := by
  induction codes with
  | nil => cases missing
  | cons first rest ih =>
    obtain ⟨before, ordered⟩ := List.pairwise_cons.1 ordered
    simp only [stockedPools] at missing
    split at missing
    · next empty =>
      cases missing
      refine ⟨⟨List.mem_cons_self, empty⟩, fun c lacking => ?_⟩
      obtain ⟨member, _⟩ := lacking
      rcases List.mem_cons.1 member with rfl | onward
      · exact List.le_refl c
      · exact before c onward
    · next stocked =>
      cases later : stockedPools registry supplied rest with
      | ok pools => rw [later] at missing; cases missing
      | error other =>
        rw [later] at missing
        cases missing
        obtain ⟨⟨member, empty⟩, least⟩ := ih ordered later
        refine ⟨⟨List.mem_cons_of_mem _ member, empty⟩, fun c lacking => ?_⟩
        obtain ⟨member, empty⟩ := lacking
        rcases List.mem_cons.1 member with rfl | onward
        · exact absurd empty stocked
        · exact least ⟨onward, empty⟩

/-- When no set is missed, all have enabled cards. -/
theorem stocked_of_stockedPools {supplied pools : SetPools} {codes : List Text}
    (stocked : stockedPools registry supplied codes = .ok pools) :
    ∀ code ∈ codes, Pool.enabled (registry.poolFor supplied code) ≠ [] := by
  induction codes generalizing pools with
  | nil => simp
  | cons first rest ih =>
    simp only [stockedPools] at stocked
    split at stocked
    · cases stocked
    · next present =>
      cases later : stockedPools registry supplied rest with
      | error missing => rw [later] at stocked; cases stocked
      | ok others => exact List.forall_mem_cons.2 ⟨present, ih later⟩

/-- A trial lacks the sets that it looks up in vain. -/
theorem lacks_iff {code : Text} :
    body.Lacks registry code ↔
      code ∈ referencedSets (Definition.compile body.definition).slots body.setCode ∧
        Pool.enabled (registry.poolFor body.pools code) = [] := by
  rw [mem_referencedSets_compile, enabled_eq_nil_iff, poolFor_eq_effectivePool]
  rfl

/-- Either there is a first set that a trial lacks, and looking the pools up ends there, or there is
no such set. -/
theorem stockedPools_cases (registry : Registry) (body : GenerateBody) :
    let codes := sorted (referencedSets (Definition.compile body.definition).slots body.setCode)
    (∃ code, stockedPools registry body.pools codes = .error code ∧
      IsLeast {code | body.Lacks registry code} code) ∨
    ∃ pools, stockedPools registry body.pools codes = .ok pools ∧
      ∀ code, ¬ body.Lacks registry code := by
  intro codes
  have ordered : codes.Pairwise (· ≤ ·) := by
    have named := pairwise_mergeSort_inOrder id
      (referencedSets (Definition.compile body.definition).slots body.setCode)
    rw [List.map_id] at named
    exact named
  cases looked : stockedPools registry body.pools codes with
  | error code =>
    refine .inl ⟨code, rfl, ?_⟩
    simpa only [codes, mem_sorted, ← lacks_iff] using isLeast_of_stockedPools ordered looked
  | ok pools =>
    refine .inr ⟨pools, rfl, fun code lacks => ?_⟩
    obtain ⟨asked, empty⟩ := lacks_iff.1 lacks
    exact stocked_of_stockedPools looked code (mem_sorted.2 asked) empty

theorem eq_of_isLeast {codes : Set Text} {code code' : Text} (least : IsLeast codes code)
    (least' : IsLeast codes code') : code = code' :=
  List.le_antisymm (least.2 least'.1) (least'.2 least.1)

end Pools

section Replies

variable {registry : Registry} {body : GenerateBody}

theorem isValid_iff {d : Definition} : d.isValid = true ↔ d.errors = [] := by
  simp [Definition.isValid, Definition.errors]

theorem generate_of_isLeast (fresh : Int) {code : Text}
    (sound : (Definition.compile body.definition).errors = [])
    (least : IsLeast {code | body.Lacks registry code} code) :
    generate registry fresh body = ⟨400, errorData (missingSetMessage code),
      [.service (.generateMissingSet code)]⟩ := by
  have valid := isValid_iff.2 sound
  rcases stockedPools_cases registry body with
    ⟨first, looked, least'⟩ | ⟨_, _, stocked⟩
  · obtain rfl := eq_of_isLeast least' least
    simp [generate, valid, looked, missingSetMessage]
  · exact absurd least.1 (stocked code)

/-- A trial assembles the effective pools, although it looks at their enabled cards only. -/
theorem generate_of_stocked (fresh : Int)
    (sound : (Definition.compile body.definition).errors = [])
    (stocked : ∀ code, ¬ body.Lacks registry code) :
    let slots := (Definition.compile body.definition).slots
    let pack := body.pack registry (body.seed.getD fresh)
    generate registry fresh body = ⟨200, packData pack.cards,
      (pack.events slots body.setCode).map .pack ++
        [.service (.generateSuccess body.setCode slots.length pack.cards.length)]⟩ := by
  intro slots pack
  have valid := isValid_iff.2 sound
  rcases stockedPools_cases registry body with
    ⟨code, _, least⟩ | ⟨pools, looked, _⟩
  · exact absurd least.1 (stocked code)
  · have same : CustomPack.assemble pools slots body.setCode =
        CustomPack.assemble (body.effectivePools registry) slots body.setCode := by
      refine CustomPack.assemble_congr fun code asked => ?_
      rw [of_stockedPools looked (mem_sorted.2 asked), poolFor_eq_effectivePool,
        of_effectivePools asked]
      simp [Pool.enabled, List.filter_filter]
    simp [generate, valid, looked, openCustom, packData, same, pack, slots, GenerateBody.pack]

/-- Data that are not nested too deep are sent if every text in them can be encoded. -/
theorem isSentIff_of_texts {frame : Framework} {reply : Reply} {plain : Prop}
    (shallow : writeFault? (sendRoom frame.spareRoom) reply.body = none)
    (texts : (writtenTexts reply.body).all isEncodable = true ↔ plain) :
    reply.IsSentIff frame plain := by
  have sendable : sendFault? frame.spareRoom reply.body = none ↔ plain := by
    rw [sendFault?_eq_none_iff, ← texts, ← isEncodable_sent]
    simp [shallow, isEncodable]
  refine ⟨fun given => outcome_of_sendable (sendable.2 given), fun surrogate => ?_⟩
  cases faulty : sendFault? frame.spareRoom reply.body with
  | none => exact absurd (sendable.1 faulty) surrogate
  | some fault => exact ⟨fault.message, outcome_of_fault faulty⟩

theorem isSentIff_errorData (frame : Framework) (status : Nat) (message : Text)
    (log : List Record) :
    (⟨status, errorData message, log⟩ : Reply).IsSentIff frame (isEncodable message = true) := by
  have kept : isSent "error" = true := by decide
  refine isSentIff_of_texts ?_ ?_
  · simp [errorData, sendRoom, writeFault?, writeFaultMembers?]
  · simp [errorData, writtenTexts, textsOfMembers, kept, isEncodable_ofString]

theorem isSentIff_packData (frame : Framework) (status : Nat) (drawn : List DrawnCard)
    (log : List Record) :
    (⟨status, packData drawn, log⟩ : Reply).IsSentIff frame
      (∀ one ∈ drawn, isEncodableCard one.card = true) := by
  have kept := isSent_names "cards" (by simp)
  refine isSentIff_of_texts ?_ ?_
  · simp [packData, cardsData, sendRoom, writeFault?, writeFaultMembers?,
      writeFaultItems?_drawnData]
  · simp [packData, cardsData, writtenTexts, textsOfMembers, kept, isEncodable_ofString,
      all_isEncodable_drawnData]

theorem isEncodable_missingSetMessage (code : Text) :
    isEncodable (missingSetMessage code) = isEncodable code := by
  simp only [missingSetMessage, isEncodable, List.all_append, all_holds_ofString, Bool.true_and,
    Bool.and_true]

end Replies

/-- A trial is refused for the errors of its definition if there are any, for the first set without
an enabled card among those that it refers to if there is one, and otherwise it is answered with the
pack that its slots make of the effective pools; the last record counts the slots and the cards. The
reply is sent unless a surrogate stands in one of the errors, in the set code or in a text of a
card; then the request fails. -/
theorem trial_refuses_in_order (frame : Framework) (registry : Registry) (fresh : Int)
    (body : GenerateBody) :
    let d := Definition.compile body.definition
    let pack := body.pack registry (body.seed.getD fresh)
    let reply := generate registry fresh body
    (d.errors ≠ [] →
      reply = ⟨400, errorData (List.intercalate "; " d.errors),
        [.service (.generateInvalidDefinition body.setCode d.errors)]⟩ ∧
      reply.IsSentIff frame (∀ error ∈ d.errors, isEncodable error = true)) ∧
    (d.errors = [] → ∀ code, IsLeast {code | body.Lacks registry code} code →
      reply = ⟨400, errorData (missingSetMessage code), [.service (.generateMissingSet code)]⟩ ∧
      reply.IsSentIff frame (isEncodable code = true)) ∧
    (d.errors = [] → (∀ code, ¬ body.Lacks registry code) →
      reply = ⟨200, packData pack.cards, (pack.events d.slots body.setCode).map .pack ++
        [.service (.generateSuccess body.setCode d.slots.length pack.cards.length)]⟩ ∧
      reply.IsSentIff frame (∀ one ∈ pack.cards, isEncodableCard one.card = true)) ∧
    ((∃ code, body.Lacks registry code) →
      ∃ code, IsLeast {code | body.Lacks registry code} code) := by
  intro d pack reply
  refine ⟨fun flawed => ?_, fun sound code least => ?_, fun sound stocked => ?_, ?_⟩
  · have invalid : d.isValid = false := Bool.eq_false_iff.2 (mt isValid_iff.1 flawed)
    have made : reply = _ := generate_of_invalid registry fresh body invalid
    refine ⟨made, ?_⟩
    have sent := isSentIff_errorData frame 400 (List.intercalate "; " d.errors)
      [.service (.generateInvalidDefinition body.setCode d.errors)]
    rwa [isEncodable_intercalate, List.all_eq_true, ← made] at sent
  · have made : reply = _ := generate_of_isLeast fresh sound least
    refine ⟨made, ?_⟩
    have sent := isSentIff_errorData frame 400 (missingSetMessage code)
      [.service (.generateMissingSet code)]
    rwa [isEncodable_missingSetMessage, ← made] at sent
  · have made : reply = _ := generate_of_stocked fresh sound stocked
    exact ⟨made, made ▸ isSentIff_packData frame 200 pack.cards _⟩
  · rintro ⟨code, lacks⟩
    rcases stockedPools_cases registry body with
      ⟨first, _, least⟩ | ⟨_, _, stocked⟩
    · exact ⟨first, least⟩
    · exact absurd lacks (stocked code)

/-- An unknown rarity, two sets without cards that the definition names in the other order, and a
set with a card. -/
theorem trial_refuses_in_order_two_missing :
    let card (code : Text) (disabled : Bool) : Card :=
      ⟨"a", "plain", code, none, "common", disabled, none, none, false, []⟩
    let registry : Registry := [("a", [card "a" true]), ("s", [card "s" false])]
    let body (definition : Text) : GenerateBody := ⟨definition, "s", [("s", [])], some 1⟩
    ((Definition.compile "x,100").errors ≠ [] ∧
      (generate registry 0 (body "x,100")).status = 400) ∧
    (((Definition.compile "c,50,b:c,25,a:c,25").errors = [] ∧
        IsLeast {code | (body "c,50,b:c,25,a:c,25").Lacks registry code} "a") ∧
      (generate registry 0 (body "c,50,b:c,25,a:c,25")).body =
        errorData "Set \"a\" has no cards or doesn't exist.") ∧
    ((∀ code, ¬ (body "c,100").Lacks registry code) ∧
      (generate registry 0 (body "c,100")).status = 200) := by
  intro card registry body
  have flawed : (Definition.compile "x,100").errors ≠ [] := by decide +kernel
  have sound : (Definition.compile "c,50,b:c,25,a:c,25").errors = [] := by decide +kernel
  have sound' : (Definition.compile "c,100").errors = [] := by decide +kernel
  have asked : referencedSets (Definition.compile "c,50,b:c,25,a:c,25").slots "s" =
      [("s" : Text), ("b" : Text), ("a" : Text)] := by decide +kernel
  have asked' : referencedSets (Definition.compile "c,100").slots "s" = [("s" : Text)] := by
    decide +kernel
  have least : IsLeast {code | (body "c,50,b:c,25,a:c,25").Lacks registry code} "a" := by
    refine ⟨lacks_iff.2 ⟨by decide +kernel, by decide +kernel⟩, fun code lacks => ?_⟩
    have there := (lacks_iff.1 lacks).1
    rw [asked] at there
    have ordered : ∀ code ∈ [("s" : Text), ("b" : Text), ("a" : Text)], ("a" : Text) ≤ code := by
      decide
    exact ordered code there
  have stocked : ∀ code, ¬ (body "c,100").Lacks registry code := by
    intro code lacks
    obtain ⟨there, empty⟩ := lacks_iff.1 lacks
    rw [asked', List.mem_singleton] at there
    subst there
    revert empty
    decide +kernel
  let frame : Framework := .usual 1 0
  have refused := (trial_refuses_in_order frame registry 0 (body "x,100")).1 flawed
  have missed :=
    (trial_refuses_in_order frame registry 0 (body "c,50,b:c,25,a:c,25")).2.1 sound "a" least
  have opened := (trial_refuses_in_order frame registry 0 (body "c,100")).2.2.1 sound' stocked
  exact ⟨⟨flawed, congrArg Reply.status refused.1⟩, ⟨⟨sound, least⟩, congrArg Reply.body missed.1⟩,
    stocked, congrArg Reply.status opened.1⟩

/-- Not every trial is answered: the code of a missing set may be a surrogate, and the answer would
name it. -/
theorem not_every_trial_answered :
    ¬ ∀ (registry : Registry) (fresh : Int) (body : GenerateBody), ∃ answer log,
      (generate registry fresh body).outcome (.usual 1 0) = .answered answer log := by
  intro claim
  let body : GenerateBody := ⟨"c,100", [.surrogate 0], [], some 1⟩
  obtain ⟨answer, log, answered⟩ := claim [] 0 body
  have sound : (Definition.compile body.definition).errors = [] := by decide +kernel
  have asked : referencedSets (Definition.compile body.definition).slots body.setCode =
      [[.surrogate 0]] := by decide +kernel
  have least : IsLeast {code | body.Lacks [] code} [.surrogate 0] := by
    refine ⟨lacks_iff.2 ⟨by decide +kernel, by decide +kernel⟩, fun code lacks => ?_⟩
    have there := (lacks_iff.1 lacks).1
    rw [asked, List.mem_singleton] at there
    exact there ▸ List.le_refl _
  rw [generate_of_isLeast 0 sound least] at answered
  have surrogate : ¬ isEncodable (missingSetMessage [.surrogate 0]) = true := by decide
  obtain ⟨error, failed⟩ := (isSentIff_errorData _ 400 _ _).2 surrogate
  rw [failed] at answered
  cases answered

end Service
end PackOpening
