import Mathlib.Data.Finset.Card
import Mathlib.Data.Finset.Dedup
import Mathlib.Data.Finset.SDiff
import PackOpening.Chance.Script
import PackOpening.Proofs.Pack.Draw

/-!
Draws from the same candidates, one after another: every id is used up before one comes back.

What is left are the distinct ids of the candidates that are not in use. A sparing draw takes one of
them as long as there is one, so it leaves one less; when none is left, a draw brings a card back
and leaves the ids in use as they are. So a series of draws brings as many fresh ids as are left at
its beginning, each once, and repeats only then.
-/
namespace PackOpening.Draw

open Chance

/-- The distinct ids of some cards that are not in use. -/
def idsLeft (candidates : List Card) (used : List Text) : Finset Text :=
  (candidates.map Card.id).toFinset \ used.toFinset

/-- The ids of the cards that some draws brought. -/
def idsDrawn (results : List Result) : List Text := (results.filterMap Result.card).map Card.id

/-- The ids in use behind some draws that started from `used`. -/
def usedBehind (used : List Text) : List Result → List Text
  | [] => used
  | result :: later => usedBehind result.used later

/-- Makes draws one after another, each from the ids that the one before left in use. -/
def inSeries : List (List Text → Chance Result) → (used : List Text) → Chance (List Result)
  | [], _ => pure []
  | draw :: rest, used => do
    let result ← draw used
    let later ← inSeries rest result.used
    pure (result :: later)

variable {candidates pool : List Card} {used : List Text} {result : Result}
  {results later : List Result} {as : List Answer}

theorem mem_idsLeft {id : Text} :
    id ∈ idsLeft candidates used ↔ (∃ card ∈ candidates, card.id = id) ∧ id ∉ used := by
  simp [idsLeft]

/-- No id is left exactly when all candidates are in use. -/
theorem idsLeft_eq_empty_iff : idsLeft candidates used = ∅ ↔ ∀ c ∈ candidates, c.id ∈ used := by
  simp [Finset.eq_empty_iff_forall_notMem, mem_idsLeft]

theorem idsDrawn_cons_some {card : Card} (drawn : result.card = some card) :
    idsDrawn (result :: later) = card.id :: idsDrawn later := by
  simp [idsDrawn, drawn]

/-- As long as an id is left, a sparing draw brings one of those that are left. -/
theorem Sparing.exists_left (draws : Sparing candidates used result)
    (left : idsLeft candidates used ≠ ∅) :
    ∃ card, result.card = some card ∧ card.id ∈ idsLeft candidates used := by
  have some : result.card ≠ none := by
    intro nothing
    apply left
    simp [idsLeft, draws.none_iff.1 nothing]
  obtain ⟨card, drawn⟩ := Option.ne_none_iff_exists'.1 some
  have fresh : card.id ∉ used := by
    intro repeated
    exact left (idsLeft_eq_empty_iff.2 (draws.exhausted card drawn repeated))
  exact ⟨card, drawn, mem_idsLeft.2 ⟨⟨card, draws.mem card drawn, rfl⟩, fresh⟩⟩

/-- The id that a draw brings is left no more, and nothing else changes. -/
theorem Sparing.idsLeft_eq (draws : Sparing candidates used result) {card : Card}
    (drawn : result.card = some card) :
    idsLeft candidates result.used = (idsLeft candidates used).erase card.id := by
  ext id
  have after := draws.mem_used id
  simp only [drawn, Option.some.injEq, exists_eq_left'] at after
  simp only [mem_idsLeft, Finset.mem_erase, after, not_or]
  constructor
  · rintro ⟨there, fresh, other⟩
    exact ⟨fun same => other same.symm, there, fresh⟩
  · rintro ⟨other, there, fresh⟩
    exact ⟨there, fresh, fun same => other same.symm⟩

/-- A draw leaves one id less, as long as there is one. -/
theorem Sparing.card_idsLeft (draws : Sparing candidates used result) :
    (idsLeft candidates result.used).card = (idsLeft candidates used).card - 1 := by
  by_cases left : idsLeft candidates used = ∅
  · have inUse := idsLeft_eq_empty_iff.1 left
    have none : idsLeft candidates result.used = ∅ :=
      idsLeft_eq_empty_iff.2 fun c member => (draws.mem_used c.id).2 (Or.inl (inUse c member))
    simp [left, none]
  · obtain ⟨card, drawn, member⟩ := draws.exists_left left
    rw [draws.idsLeft_eq drawn, Finset.card_erase_of_mem member]

/-- When no id is left, a draw changes nothing. -/
theorem Sparing.mem_used_of_left_eq_empty (draws : Sparing candidates used result)
    (left : idsLeft candidates used = ∅) (id : Text) : id ∈ result.used ↔ id ∈ used := by
  rw [draws.mem_used]
  constructor
  · rintro (inUse | ⟨card, drawn, rfl⟩)
    · exact inUse
    · exact idsLeft_eq_empty_iff.1 left card (draws.mem card drawn)
  · exact Or.inl

/-- Results of sparing draws from the same candidates, each from the ids that the one before left in
use. -/
inductive SparingSeries (candidates : List Card) : List Text → List Result → Prop where
  | nil (used : List Text) : SparingSeries candidates used []
  | cons {used : List Text} {result : Result} {later : List Result}
      (first : Sparing candidates used result)
      (rest : SparingSeries candidates result.used later) :
      SparingSeries candidates used (result :: later)

namespace SparingSeries

/-- A series falls apart into two: the second starts from the ids that the first left in use. -/
theorem of_append {before after : List Result}
    (series : SparingSeries candidates used (before ++ after)) :
    SparingSeries candidates used before ∧
      SparingSeries candidates (usedBehind used before) after := by
  induction before generalizing used with
  | nil => exact ⟨.nil used, series⟩
  | cons result before ih =>
    cases series with
    | cons first rest =>
      obtain ⟨early, late⟩ := ih rest
      exact ⟨.cons first early, late⟩

/-- Every draw takes one off the ids that are left, until there are none. -/
theorem card_idsLeft (series : SparingSeries candidates used results) :
    (idsLeft candidates (usedBehind used results)).card =
      (idsLeft candidates used).card - results.length := by
  induction series with
  | nil used => simp [usedBehind]
  | cons first _ ih =>
    rw [usedBehind, ih, first.card_idsLeft, List.length_cons]
    omega

/-- As many draws as ids are left bring each a fresh id, and no id twice. -/
theorem drawn_of_length_le (series : SparingSeries candidates used results)
    (few : results.length ≤ (idsLeft candidates used).card) :
    (idsDrawn results).length = results.length ∧ (idsDrawn results).Nodup ∧
      ∀ id ∈ idsDrawn results, id ∈ idsLeft candidates used := by
  induction series with
  | nil used => simp [idsDrawn]
  | @cons used result later first rest ih =>
    have one := first.card_idsLeft
    simp only [List.length_cons] at few
    have left : idsLeft candidates used ≠ ∅ := by
      intro none
      simp [none] at few
    obtain ⟨card, drawn, member⟩ := first.exists_left left
    obtain ⟨length, nodup, fresh⟩ := ih (by omega)
    -- behind this draw its id is left no more, so no later draw brings it
    have fewer := first.idsLeft_eq drawn
    have once : card.id ∉ idsDrawn later := by
      intro again
      have left := fresh card.id again
      simp [fewer] at left
    rw [idsDrawn_cons_some drawn]
    refine ⟨by simp [length], List.nodup_cons.2 ⟨once, nodup⟩, ?_⟩
    intro id there
    rcases List.mem_cons.1 there with rfl | later
    · exact member
    · have left := fresh id later
      rw [fewer] at left
      exact Finset.mem_of_mem_erase left

end SparingSeries

/-- What draws from the same candidates come to, one after another: the first of them, as many as
ids are left, bring these ids, and the later ones change nothing. -/
structure Exhausts (candidates : List Card) (used : List Text) (results : List Result) :
    Prop where
  /-- A draw brings a candidate if there is any, and its id alone comes into use. -/
  sparing : ∀ before result after, results = before ++ result :: after →
    Sparing candidates (usedBehind used before) result
  /-- As long as an id is left, a draw brings a card. -/
  length_drawn : (idsDrawn (results.take (idsLeft candidates used).card)).length =
    min (idsLeft candidates used).card results.length
  /-- The ids that are brought so far are distinct. -/
  nodup : (idsDrawn (results.take (idsLeft candidates used).card)).Nodup
  /-- They are ids that were left at the beginning. -/
  fresh : ∀ id ∈ idsDrawn (results.take (idsLeft candidates used).card),
    id ∈ idsLeft candidates used
  /-- If there are enough draws, they are all of these. -/
  complete : (idsLeft candidates used).card ≤ results.length →
    ∀ id ∈ idsLeft candidates used,
      id ∈ idsDrawn (results.take (idsLeft candidates used).card)
  /-- A later draw leaves the ids in use as they are. -/
  unchanged : ∀ before result after, results = before ++ result :: after →
    (idsLeft candidates used).card ≤ before.length →
    ∀ id, id ∈ result.used ↔ id ∈ usedBehind used before

theorem SparingSeries.exhausts (series : SparingSeries candidates used results) :
    Exhausts candidates used results := by
  have parts := series
  rw [← List.take_append_drop (idsLeft candidates used).card results] at parts
  have early := parts.of_append.1
  have count : (results.take (idsLeft candidates used).card).length =
      min (idsLeft candidates used).card results.length := List.length_take
  obtain ⟨length, nodup, fresh⟩ := early.drawn_of_length_le (by omega)
  have sparing : ∀ before result after, results = before ++ result :: after →
      Sparing candidates (usedBehind used before) result := by
    intro before result after split
    subst split
    cases series.of_append.2 with
    | cons first _ => exact first
  refine ⟨sparing, length.trans count, nodup, fresh, ?_, ?_⟩
  · intro enough
    -- as many distinct ids as were left can only be all of them
    have drawn : (idsDrawn (results.take (idsLeft candidates used).card)).toFinset =
        idsLeft candidates used := by
      apply Finset.eq_of_subset_of_card_le
      · intro id there
        exact fresh id (List.mem_toFinset.1 there)
      · rw [List.toFinset_card_of_nodup nodup]
        omega
    intro id left
    rw [← drawn] at left
    exact List.mem_toFinset.1 left
  · intro before result after split enough
    apply (sparing before result after split).mem_used_of_left_eq_empty
    subst split
    apply Finset.card_eq_zero.1
    rw [series.of_append.1.card_idsLeft]
    omega

/-- Draws that are sparing one by one exhaust their candidates. -/
theorem exhausts_of_yields {draws : List (List Text → Chance Result)}
    (sparing : ∀ draw ∈ draws, ∀ used as result, (draw used).Yields as result →
      Sparing candidates used result)
    (path : (inSeries draws used).Yields as results) :
    results.length = draws.length ∧ Exhausts candidates used results := by
  suffices series : results.length = draws.length ∧ SparingSeries candidates used results from
    ⟨series.1, series.2.exhausts⟩
  induction draws generalizing used as results with
  | nil =>
    obtain ⟨_, rfl⟩ := yields_done.1 path
    exact ⟨rfl, .nil used⟩
  | cons draw rest ih =>
    obtain ⟨_, result, _, _, first, path⟩ := yields_bind.1 path
    obtain ⟨_, later, _, _, onward, finish⟩ := yields_bind.1 path
    obtain ⟨_, rfl⟩ := yields_done.1 finish
    obtain ⟨length, series⟩ :=
      ih (fun draw member => sparing draw (List.mem_cons_of_mem _ member)) onward
    exact ⟨by simp [length], .cons (sparing draw List.mem_cons_self _ _ _ first) series⟩

/-- Any number of draws from one pool, whatever ids are in use at the beginning, exhausts the pool
before an id comes back: the first draws, as many as the pool has distinct ids that are not in use,
bring exactly these, each once; a later draw brings some card of the pool, if it has any, and leaves
the ids in use as they are. No draw puts another id into use than that of its card, and only an
empty pool gives no card. -/
theorem unique_exhausts_pool {σ : Type} [Source σ] (source : σ) (pool : List Card)
    (used : List Text) (count : Nat) :
    let draws := List.replicate count (unique pool)
    let results := ((inSeries draws used).run source).1
    results.length = count ∧ Exhausts pool used results := by
  intro draws results
  have sparing : ∀ draw ∈ draws, ∀ used as result, (draw used).Yields as result →
      Sparing pool used result := by
    intro draw member used as result path
    rw [List.eq_of_mem_replicate member] at path
    exact unique_sparing path
  obtain ⟨length, exhausts⟩ := exhausts_of_yields sparing (yields_run _ source)
  exact ⟨length.trans List.length_replicate, exhausts⟩

/-- Two printings share an id and the third is in use: only one id is left, so the second and the
third draw repeat. -/
theorem unique_exhausts_pool_shared_id :
    let card (id name : Text) : Card :=
      ⟨id, name, "s", none, "common", false, none, none, false, []⟩
    let pool := [card "a" "plain", card "a" "other", card "b" "plain"]
    let draws := List.replicate 3 (unique pool)
    let source : Script := ⟨[], 0.5, [1, 2, 0]⟩
    let results := ((inSeries draws ["b"]).run source).1
    (idsLeft pool ["b"]).card = 1 ∧ idsDrawn results = ["a", "b", "a"] ∧
    results.length = 3 ∧ Exhausts pool ["b"] results := by
  intro card pool draws source results
  have one : (idsLeft pool ["b"]).card = 1 := by decide +kernel
  have drawn : idsDrawn results = ["a", "b", "a"] := by decide +kernel
  exact ⟨one, drawn, unique_exhausts_pool source pool ["b"] 3⟩

end PackOpening.Draw
