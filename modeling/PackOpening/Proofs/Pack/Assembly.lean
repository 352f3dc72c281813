import PackOpening.Proofs.Pack.Draw

/-!
The steps of an assembly: what one pull of a policy and one slot of a definition add to the rest of
the pack, along any path of answers.
-/
namespace PackOpening

open Chance

namespace Slot

variable {slot : Slot} {x : Float} {entry : SlotEntry}

theorem mem_of_firstAbove {total : Int} {entries : List SlotEntry}
    (found : SlotEntry.firstAbove x total entries = some entry) : entry ∈ entries := by
  induction entries generalizing total with
  | nil => simp [SlotEntry.firstAbove] at found
  | cons first rest ih =>
    simp only [SlotEntry.firstAbove] at found
    split at found
    · cases found
      exact List.mem_cons_self
    · exact List.mem_cons_of_mem _ (ih found)

theorem mem_of_entryAt? (found : slot.entryAt? x = some entry) : entry ∈ slot.entries := by
  unfold entryAt? at found
  cases above : SlotEntry.firstAbove x 0 slot.entries with
  | some e =>
    rw [above] at found
    cases found
    exact mem_of_firstAbove above
  | none =>
    rw [above] at found
    exact List.mem_of_head? found

theorem entryAt?_eq_none_iff : slot.entryAt? x = none ↔ slot.entries = [] := by
  cases entries : slot.entries with
  | nil => simp [entryAt?, entries, SlotEntry.firstAbove]
  | cons first rest => simp [entryAt?, entries]

theorem yields_resolve {as : List Answer} {choice : Option SlotEntry} :
    slot.resolve.Yields as choice ↔
      ∃ roll, as = [.roll roll] ∧ choice = slot.entryAt? (roll * 100.0) := by
  constructor
  · intro path
    obtain ⟨_, roll, _, rfl, rolled, finish⟩ := yields_bind.1 path
    obtain ⟨rfl, rfl⟩ := yields_done.1 finish
    exact ⟨roll, by rw [yields_rolled.1 rolled, List.append_nil], rfl⟩
  · rintro ⟨roll, rfl, rfl⟩
    exact .roll roll (.done _)

theorem run_resolve {σ : Type} [Source σ] (slot : Slot) (source : σ) :
    slot.resolve.run source =
      (slot.entryAt? ((Source.roll source).1 * 100.0), (Source.roll source).2) :=
  rfl

end Slot

namespace BuiltinPack

variable {cards : List Card} {request : Request} {rest : List Request} {used : List Text}
  {as : List Answer} {assembly : Assembly}

/-- The pulls that a request can come to. -/
def IsPullOf (request : Request) (pull : Pull) : Prop :=
  pull = request.pull ∨ ∃ upgrade, request.upgrade = some upgrade ∧ pull = upgrade.pull

theorem isPullOf_of_yields {pull : Pull} (path : (choosePull request).Yields as pull) :
    IsPullOf request pull := by
  unfold choosePull at path
  split at path
  · exact Or.inl (yields_done.1 path).2
  · next upgrade upgraded =>
    obtain ⟨_, roll, _, _, _, finish⟩ := yields_bind.1 path
    obtain ⟨_, rfl⟩ := yields_done.1 finish
    by_cases below : roll < upgrade.chance
    · exact Or.inr ⟨upgrade, upgraded, if_pos below⟩
    · exact Or.inl (if_neg below)

/-- The outcome of a pull with its draw. -/
def outcomeOf (pull : Pull) (used : List Text) (result : Draw.Result) : Outcome :=
  ⟨pull, used, result.card.map fun card => ⟨card, pull.foil, card.isAltArt⟩⟩

theorem card_outcomeOf (pull : Pull) (used : List Text) (result : Draw.Result) :
    (outcomeOf pull used result).card.map DrawnCard.card = result.card := by
  simp [outcomeOf, Option.map_map, Function.comp_def]

theorem yields_pullAll_nil (path : (pullAll cards [] used).Yields as assembly) :
    assembly = ⟨[], used⟩ :=
  (yields_done.1 path).2

/-- A request is answered by one pull and its draw, and the others go on from the ids that are in
use then. -/
theorem yields_pullAll_cons
    (path : (pullAll cards (request :: rest) used).Yields as assembly) :
    ∃ chosen pull drawn result later others,
      as = chosen ++ (drawn ++ later) ∧ (choosePull request).Yields chosen pull ∧
      (draw cards pull used).Yields drawn result ∧
      (pullAll cards rest result.used).Yields later others ∧
      assembly = ⟨outcomeOf pull used result :: others.outcomes, others.used⟩ := by
  obtain ⟨chosen, pull, _, rfl, choice, path⟩ := yields_bind.1 path
  obtain ⟨drawn, result, _, rfl, draws, path⟩ := yields_bind.1 path
  obtain ⟨later, others, _, rfl, onward, finish⟩ := yields_bind.1 path
  obtain ⟨rfl, rfl⟩ := yields_done.1 finish
  exact ⟨chosen, pull, drawn, result, later, others, by rw [List.append_nil], choice, draws,
    onward, rfl⟩

end BuiltinPack

namespace CustomPack

variable {pools : SetPools} {default : Text} {slot : Slot} {rest : List Slot} {used : List Text}
  {as : List Answer} {assembly : Assembly}

/-- The outcome of a slot with its draw. -/
def outcomeOf (entry : SlotEntry) (used : List Text) (result : Draw.Result) : Outcome :=
  ⟨entry, used, result.card.map fun card => ⟨card, false, card.isAltArt⟩⟩

theorem card_outcomeOf (entry : SlotEntry) (used : List Text) (result : Draw.Result) :
    (outcomeOf entry used result).card.map DrawnCard.card = result.card := by
  simp [outcomeOf, Option.map_map, Function.comp_def]

theorem yields_fillAll_nil (path : (fillAll pools default [] used).Yields as assembly) :
    assembly = ⟨[], used, false⟩ :=
  (yields_done.1 path).2

/-- A slot without entries ends the assembly. Any other resolves to one of its entries, whose draw
the other slots go on from. -/
theorem yields_fillAll_cons
    (path : (fillAll pools default (slot :: rest) used).Yields as assembly) :
    (slot.entries = [] ∧ assembly = ⟨[], used, true⟩) ∨
    ∃ roll entry drawn result later others,
      as = .roll roll :: (drawn ++ later) ∧ slot.entryAt? (roll * 100.0) = some entry ∧
      (fill pools default used entry).Yields drawn result ∧
      (fillAll pools default rest result.used).Yields later others ∧
      assembly = { others with outcomes := outcomeOf entry used result :: others.outcomes } := by
  obtain ⟨_, choice, _, rfl, resolved, onward⟩ := yields_bind.1 path
  obtain ⟨roll, rfl, rfl⟩ := Slot.yields_resolve.1 resolved
  cases found : slot.entryAt? (roll * 100.0) with
  | none =>
    rw [found] at onward
    exact Or.inl ⟨Slot.entryAt?_eq_none_iff.1 found, (yields_done.1 onward).2⟩
  | some entry =>
    rw [found] at onward
    obtain ⟨drawn, result, _, rfl, draws, onward⟩ := yields_bind.1 onward
    obtain ⟨later, others, _, rfl, filled, finish⟩ := yields_bind.1 onward
    obtain ⟨rfl, rfl⟩ := yields_done.1 finish
    exact Or.inr ⟨roll, entry, drawn, result, later, others, by simp, found, draws, filled, rfl⟩

end CustomPack
end PackOpening
