import PackOpening.Proofs.Pack.Assembly
import PackOpening.Proofs.Pool.Chain

/-!
What the pulls of a built-in pack place, pull by pull.

The pull made for a request is settled by the roll that the source gives when the request is
reached. It places one of its candidates, with the finish of the pull and the card's own art, and it
places nothing only when it has no candidate. If every pull has one, the card at a place of the pack
is that of the pull at this place.
-/
namespace PackOpening

open Chance

/-- The pull that a request comes to when the source gives a roll. -/
def Request.chosen (request : Request) (roll : Float) : Pull :=
  match request.upgrade with
  | none => request.pull
  | some upgrade => if roll < upgrade.chance then upgrade.pull else request.pull

/-- Whether a card can come from a pull as it lies in the pack. -/
structure Pull.Places (cards : List Card) (pull : Pull) (drawn : DrawnCard) : Prop where
  candidate : drawn.card ∈ pull.candidates cards
  foil : drawn.foil = pull.foil
  altArt : drawn.altArt = drawn.card.isAltArt

theorem Pull.mem_usable_of_mem_candidates {cards : List Card} {pull : Pull} {card : Card}
    (candidate : card ∈ pull.candidates cards) : card ∈ Pool.usable cards := by
  unfold Pull.candidates at candidate
  split at candidate
  · rcases List.mem_append.1 candidate with rare | mythic
    · exact Pool.mem_usable_of_mem_firstStocked rare
    · exact Pool.mem_usable_of_mem_firstStocked mythic
  · exact Pool.mem_usable_of_mem_firstStocked candidate

namespace BuiltinPack

variable {cards : List Card} {request : Request} {requests rest : List Request}
  {used : List Text} {as : List Answer} {assembly : Assembly}

/-- An outcome that answers a request: its pull is one of the request's, and it placed a candidate
of the pull or had none. -/
structure Answers (cards : List Card) (request : Request) (outcome : Outcome) : Prop where
  chosen : IsPullOf request outcome.pull
  places : ∀ drawn, outcome.card = some drawn → outcome.pull.Places cards drawn
  skipped : outcome.card = none → outcome.pull.candidates cards = []

theorem outcomeOf_answers {pull : Pull} {result : Draw.Result} (chosen : IsPullOf request pull)
    (draws : Draw.Sparing (pull.candidates cards) used result) :
    Answers cards request (outcomeOf pull used result) := by
  refine ⟨chosen, ?_, ?_⟩
  · intro drawn placed
    obtain ⟨card, taken, rfl⟩ := Option.map_eq_some_iff.1 placed
    exact ⟨draws.mem card taken, rfl, rfl⟩
  · intro skipped
    exact draws.none_iff.1 (Option.map_eq_none_iff.1 skipped)

/-- Every outcome answers the request at its place. -/
theorem pullAll_answers (path : (pullAll cards requests used).Yields as assembly) {k : Nat}
    {outcome : Outcome} (there : assembly.outcomes[k]? = some outcome) :
    ∃ request, requests[k]? = some request ∧ Answers cards request outcome := by
  induction requests generalizing used as assembly k with
  | nil =>
    rw [yields_pullAll_nil path] at there
    simp at there
  | cons request rest ih =>
    obtain ⟨_, pull, _, result, _, others, _, choice, draws, onward, rfl⟩ :=
      yields_pullAll_cons path
    cases k with
    | zero =>
      cases there
      exact ⟨request, rfl, outcomeOf_answers (isPullOf_of_yields choice) (draw_sparing draws)⟩
    | succ k => exact ih onward there

/-- Every card of a pack was placed by a pull of one of the requests. -/
theorem exists_places_of_mem (path : (pullAll cards requests used).Yields as assembly)
    {drawn : DrawnCard} (member : drawn ∈ cardsOf assembly.outcomes) :
    ∃ request ∈ requests, ∃ pull, IsPullOf request pull ∧ pull.Places cards drawn := by
  obtain ⟨outcome, listed, placed⟩ := List.mem_filterMap.1 member
  obtain ⟨k, there⟩ := List.mem_iff_getElem?.1 listed
  obtain ⟨request, asked, answers⟩ := pullAll_answers path there
  exact ⟨request, List.mem_of_getElem? asked, outcome.pull, answers.chosen,
    answers.places drawn placed⟩

section Runs

variable {σ : Type} [Source σ]

theorem run_choosePull (request : Request) (source : σ) :
    ((choosePull request).run source).1 = request.chosen (Source.roll source).1 := by
  unfold choosePull Request.chosen
  cases request.upgrade <;> rfl

/-- The first request is answered from the source at hand, the others from the source that its draw
leaves. -/
theorem run_pullAll_cons (request : Request) (rest : List Request) (used : List Text)
    (source : σ) :
    let choice := (choosePull request).run source
    let result := (draw cards choice.1 used).run choice.2
    let others := (pullAll cards rest result.1.used).run result.2
    (pullAll cards (request :: rest) used).run source =
      (⟨outcomeOf choice.1 used result.1 :: others.1.outcomes, others.1.used⟩, others.2) := by
  intro choice result others
  simp only [pullAll, bind_eq, run_bind]
  rfl

/-- The roll that a source gives next when the first `k` requests are answered. -/
def rollAt (cards : List Card) (requests : List Request) (used : List Text) (source : σ)
    (k : Nat) : Float :=
  (Source.roll ((pullAll cards (requests.take k) used).run source).2).1

/-- The pull at a place is that which its request comes to with the roll at this place. -/
theorem pull_at {k : Nat} (cards : List Card) (used : List Text) (source : σ)
    (asked : requests[k]? = some request) :
    ∃ outcome, ((pullAll cards requests used).run source).1.outcomes[k]? = some outcome ∧
      outcome.pull = request.chosen (rollAt cards requests used source k) := by
  induction requests generalizing used source k with
  | nil => simp at asked
  | cons first rest ih =>
    unfold rollAt
    cases k with
    | zero =>
      cases asked
      rw [run_pullAll_cons]
      exact ⟨_, rfl, run_choosePull _ source⟩
    | succ k =>
      rw [List.take_succ_cons, run_pullAll_cons, run_pullAll_cons]
      exact ih _ _ asked

end Runs

/-- Where no pull is skipped, the places of the pack are those of the pulls. -/
theorem getElem?_cardsOf {outcomes : List Outcome}
    (placed : ∀ outcome ∈ outcomes, outcome.card ≠ none) (k : Nat) :
    (cardsOf outcomes)[k]? = outcomes[k]?.bind Outcome.card := by
  induction outcomes generalizing k with
  | nil => rfl
  | cons outcome rest ih =>
    have later := ih fun o member => placed o (List.mem_cons_of_mem _ member)
    cases here : outcome.card with
    | none => exact absurd here (placed outcome List.mem_cons_self)
    | some drawn =>
      have shape : cardsOf (outcome :: rest) = drawn :: cardsOf rest := by
        simp [cardsOf, here]
      rw [shape]
      cases k with
      | zero => exact here.symm
      | succ k => exact later k

end BuiltinPack
end PackOpening
