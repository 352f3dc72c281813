import PackOpening.Chance.Script
import PackOpening.Proofs.Pack.Filling

/-!
What a custom pack takes from its pools.

An assembly looks at a pool only through the enabled cards of a rarity, and only at the pools that
its slots refer to. So two maps of pools that offer the same there make one and the same assembly,
with the same questions to the source on every path, and a map of the pools referred to is all that
has to be at hand.
-/
namespace PackOpening

open Chance

/-- Disabled cards are offered in no rarity. -/
theorem Pool.ofRarity_enabled (cards : List Card) (rarity : Text) (excluded : List Text) :
    Pool.ofRarity (Pool.enabled cards) rarity excluded = Pool.ofRarity cards rarity excluded := by
  simp only [Pool.ofRarity, Pool.enabled, List.filter_filter]
  refine List.filter_congr fun c _ => ?_
  cases c.disabled <;> simp

/-- The set of every entry is among those that the slots refer to. -/
theorem source_mem_referencedSets {slots : List Slot} {slot : Slot} {entry : SlotEntry}
    (default : Text) (there : slot ∈ slots) (member : entry ∈ slot.entries) :
    entry.source default ∈ referencedSets slots default := by
  unfold referencedSets
  rw [List.mem_eraseDups]
  cases code : entry.setCode with
  | none => simp [SlotEntry.source, code]
  | some named =>
    by_cases empty : named.isEmpty = true
    · simp [SlotEntry.source, code, empty]
    · refine List.mem_cons_of_mem _ (List.mem_filterMap.2 ⟨entry, ?_, ?_⟩)
      · exact List.mem_flatMap.2 ⟨slot, there, member⟩
      · simp [SlotEntry.source, code, empty]

theorem lookup_map_self {codes : List Text} {code : Text} (f : Text → List Card)
    (asked : code ∈ codes) : (codes.map fun c => (c, f c)).lookup code = some (f code) := by
  induction codes with
  | nil => cases asked
  | cons first rest ih =>
    by_cases here : code = first
    · subst here
      simp
    · have onward : code ∈ rest := (List.mem_cons.1 asked).resolve_left here
      have distinct : (code == first) = false := by simpa using here
      simpa [List.lookup_cons, distinct] using ih onward

/-- The pools of some sets alone. -/
def SetPools.only (pools : SetPools) (codes : List Text) : SetPools :=
  codes.map fun code => (code, pools.of code)

theorem SetPools.of_only {codes : List Text} {code : Text} (pools : SetPools)
    (asked : code ∈ codes) : (pools.only codes).of code = pools.of code := by
  have found : (pools.only codes).lookup code = some (pools.of code) :=
    lookup_map_self pools.of asked
  rw [SetPools.of, found, Option.getD_some]

namespace CustomPack

variable {p q : SetPools} {default : Text}

/-- Pools that offer the same cards of each rarity to the entries of the slots make the same
assembly. -/
theorem fillAll_congr {slots : List Slot}
    (same : ∀ slot ∈ slots, ∀ entry ∈ slot.entries, ∀ excluded,
      Pool.ofRarity (p.of (entry.source default)) entry.rarity.name excluded =
        Pool.ofRarity (q.of (entry.source default)) entry.rarity.name excluded)
    (used : List Text) : fillAll p default slots used = fillAll q default slots used := by
  induction slots generalizing used with
  | nil => rfl
  | cons slot rest ih =>
    have later := ih fun s there => same s (List.mem_cons_of_mem _ there)
    simp only [fillAll, bind_eq]
    refine bind_congr fun as choice path => ?_
    obtain ⟨roll, rfl, rfl⟩ := Slot.yields_resolve.1 path
    cases found : slot.entryAt? (roll * 100.0) with
    | none => rfl
    | some entry =>
      have offered := same slot List.mem_cons_self entry (Slot.mem_of_entryAt? found)
      simp only [fill, offered, later]

/-- It is enough that the pools of the sets referred to hold the same enabled cards. -/
theorem assemble_congr {slots : List Slot}
    (same : ∀ code ∈ referencedSets slots default,
      Pool.enabled (p.of code) = Pool.enabled (q.of code)) :
    assemble p slots default = assemble q slots default := by
  refine fillAll_congr (fun slot there entry member excluded => ?_) []
  have code := source_mem_referencedSets default there member
  rw [← Pool.ofRarity_enabled (p.of _), same _ code, Pool.ofRarity_enabled]

/-- Every card of a pack lies in the pool of a set that the slots refer to. -/
theorem exists_referenced_of_mem_cards {σ : Type} [Source σ] (source : σ) (pools : SetPools)
    {slots : List Slot} (default : Text) (filled : ∀ slot ∈ slots, slot.entries ≠ [])
    {drawn : DrawnCard} (member : drawn ∈ ((assemble pools slots default).run source).1.cards) :
    ∃ code ∈ referencedSets slots default, drawn.card ∈ pools.of code := by
  obtain ⟨outcome, listed, placed⟩ := List.mem_filterMap.1 member
  have pairs : List.Forall₂ (Fills pools default) slots _ := assemble_fills source filled
  obtain ⟨slot, there, fills⟩ := exists_of_mem_of_forall₂ pairs listed
  have candidate := (fills.places drawn placed).1
  rw [candidates_eq_ofRarity] at candidate
  exact ⟨_, source_mem_referencedSets default there fills.entry, (Pool.mem_ofRarity.1 candidate).1⟩

/-- A custom pack depends on nothing but the sets that its slots refer to. Two maps of pools that
hold the same cards under these codes, where a missing code holds none, make the same pack with the
same calls and the same events, whatever they hold elsewhere; so a map of these sets alone stands in
for any other. And every card of the pack lies in the pool of one of them. -/
theorem pack_takes_from_referenced_sets {σ : Type} [Source σ] (source : σ) (slots : List Slot)
    (default : Text) (filled : ∀ slot ∈ slots, slot.entries ≠ []) :
    (∀ p q : SetPools, (∀ code ∈ referencedSets slots default, p.of code = q.of code) →
      let pack := assemble p slots default
      let pack' := assemble q slots default
      pack.run source = pack'.run source ∧ pack.calls source = pack'.calls source ∧
      (pack.run source).1.events slots default = (pack'.run source).1.events slots default) ∧
    ∀ pools : SetPools,
      assemble (pools.only (referencedSets slots default)) slots default =
        assemble pools slots default ∧
      ∀ drawn ∈ ((assemble pools slots default).run source).1.cards,
        ∃ code ∈ referencedSets slots default, drawn.card ∈ pools.of code := by
  refine ⟨?_, ?_⟩
  · intro p q same pack pack'
    have one : pack = pack' := assemble_congr fun code asked => by rw [same code asked]
    rw [one]
    exact ⟨rfl, rfl, rfl⟩
  · intro pools
    refine ⟨assemble_congr fun code asked => ?_, ?_⟩
    · rw [SetPools.of_only pools asked]
    · intro drawn member
      exact exists_referenced_of_mem_cards source pools default filled member

/-- One entry without a set of its own, one with an empty code and one that names a second set: a
third set and a second pool under the same code shift nothing. -/
theorem pack_takes_from_referenced_sets_second_set :
    let card (id : Text) : Card := ⟨id, "", "s", none, "common", false, none, none, false, []⟩
    let slots : List Slot :=
      [⟨[⟨.common, 50, none⟩, ⟨.common, 50, some "t"⟩]⟩, ⟨[⟨.common, 100, some ""⟩]⟩]
    let p : SetPools := [("s", [card "a"]), ("t", [card "b"])]
    let q : SetPools := [("x", [card "c"]), ("t", [card "b"]), ("s", [card "a"]), ("t", [])]
    let source : Script := ⟨[0.75], 0.25, []⟩
    (∀ slot ∈ slots, slot.entries ≠ []) ∧
    (∀ code ∈ referencedSets slots "s", p.of code = q.of code) ∧
    (assemble p slots "s").calls source = (assemble q slots "s").calls source ∧
    ((assemble p slots "s").run source).1.cards.map (fun drawn => drawn.card.id) =
      [("b" : Text), ("a" : Text)] ∧
    ∀ drawn ∈ ((assemble p slots "s").run source).1.cards,
      ∃ code ∈ referencedSets slots "s", drawn.card ∈ p.of code := by
  intro card slots p q source
  have filled : ∀ slot ∈ slots, slot.entries ≠ [] := by decide
  have same : ∀ code ∈ referencedSets slots "s", p.of code = q.of code := by decide +kernel
  have settled := pack_takes_from_referenced_sets source slots "s" filled
  exact ⟨filled, same, (settled.1 p q same).2.1, by decide +kernel, (settled.2 p).2⟩

end CustomPack
end PackOpening
