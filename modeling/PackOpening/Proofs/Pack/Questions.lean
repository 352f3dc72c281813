import PackOpening.Chance.Script
import PackOpening.Proofs.Pack.Openable
import PackOpening.Proofs.Pack.Repeats
import PackOpening.Proofs.Pack.SharedDraw

/-!
What the assembly of a pack asks its source.

A draw asks for one choice among cards that it may take, and for nothing when it has no candidate. A
slot of a definition asks for one roll in front of its draw. A pull of a policy asks for a roll if
its request has an upgrade, and for another if its mythics still have one that is not in use. The
steps of a pack ask in turn, so the calls of a whole assembly are counted step by step.
-/
namespace PackOpening

open Chance

/-- Whether a call asks to pick. -/
def Call.isPick : Call → Bool
  | roll => false
  | pick _ => true

/-- A roll that is asked for under a condition. -/
def Call.rollIf (asked : Bool) : List Call := if asked then [roll] else []

/-- Steps that make their calls one after another. -/
inductive InTurn {α β : Type} (asks : α → β → List Call → Prop) :
    List α → List β → List Call → Prop where
  | nil : InTurn asks [] [] []
  | cons {a : α} {b : β} {as : List α} {bs : List β} {first later : List Call}
      (step : asks a b first) (rest : InTurn asks as bs later) :
      InTurn asks (a :: as) (b :: bs) (first ++ later)

namespace InTurn

variable {α β : Type} {asks : α → β → List Call → Prop} {as : List α} {bs : List β}
  {calls : List Call}

/-- Where a step makes one call of a kind for each of two conditions on its parts, the steps make as
many as there are parts that meet them. -/
theorem countP_eq {kind : Call → Bool} {p : α → Bool} {q : β → Bool}
    (each : ∀ a b calls, asks a b calls → calls.countP kind = [a].countP p + [b].countP q)
    (turns : InTurn asks as bs calls) : calls.countP kind = as.countP p + bs.countP q := by
  induction turns with
  | nil => rfl
  | @cons a b as bs _ _ step _ ih =>
    have split : (a :: as).countP p = [a].countP p + as.countP p := by
      rw [← List.countP_append, List.singleton_append]
    have split' : (b :: bs).countP q = [b].countP q + bs.countP q := by
      rw [← List.countP_append, List.singleton_append]
    rw [List.countP_append, each a b _ step, ih, split, split']
    omega

/-- Every call is made by some step. -/
theorem exists_of_mem_calls (turns : InTurn asks as bs calls) {c : Call} (member : c ∈ calls) :
    ∃ a ∈ as, ∃ b ∈ bs, ∃ own, asks a b own ∧ c ∈ own := by
  induction turns with
  | nil => exact absurd member List.not_mem_nil
  | @cons a b as bs first _ step _ ih =>
    rcases List.mem_append.1 member with early | late
    · exact ⟨a, List.mem_cons_self, b, List.mem_cons_self, first, step, early⟩
    · obtain ⟨other, there, part, also, own, asked, made⟩ := ih late
      exact ⟨other, List.mem_cons_of_mem _ there, part, List.mem_cons_of_mem _ also, own, asked,
        made⟩

/-- Every second part takes its step with some first part. -/
theorem exists_of_mem (turns : InTurn asks as bs calls) {b : β} (member : b ∈ bs) :
    ∃ a ∈ as, ∃ own, asks a b own := by
  induction turns with
  | nil => exact absurd member List.not_mem_nil
  | @cons a _ as _ first _ step _ ih =>
    rcases List.mem_cons.1 member with rfl | later
    · exact ⟨a, List.mem_cons_self, first, step⟩
    · obtain ⟨other, there, own, asked⟩ := ih later
      exact ⟨other, List.mem_cons_of_mem _ there, own, asked⟩

end InTurn

namespace Draw

/-- The lists that a choice is made of when a draw favours some sides of its candidates: the cards
of one side that are not in use, or all candidates once every one is in use. -/
inductive Offers (sides : List (List Card)) (used : List Text) : List Card → Prop where
  | unused {side : List Card} (listed : side ∈ sides) : Offers sides used (Pool.unused side used)
  | every (exhausted : Pool.unused sides.flatten used = []) : Offers sides used sides.flatten

/-- The calls of a draw: none without a candidate, and else one choice of an offered list, of which
the card is one. -/
inductive Chooses (sides : List (List Card)) (used : List Text) :
    Option Card → List Call → Prop where
  | nothing (empty : sides.flatten = []) : Chooses sides used none []
  | one {card : Card} {offered : List Card} (offers : Offers sides used offered)
      (taken : card ∈ offered) : Chooses sides used (some card) [.pick offered.length]

/-- A choice among a number of cards is made of an offered list, and the card is one of them. -/
def IsChoice (sides : List (List Card)) (used : List Text) (card : Option Card) (count : Nat) :
    Prop :=
  ∃ taken offered, Offers sides used offered ∧ offered.length = count ∧ taken ∈ offered ∧
    card = some taken

variable {sides : List (List Card)} {pool rares mythics rest : List Card} {used : List Text}
  {first : Card} {as : List Answer} {result : Result}

theorem calls_of_yields_oneOf {card : Card} (path : (oneOf first rest).Yields as card) :
    as.map Answer.call = [.pick (first :: rest).length] := by
  obtain ⟨i, _, rfl, finish⟩ := yields_pick.1 path
  obtain ⟨rfl, _⟩ := yields_done.1 finish
  rfl

/-- A card taken of an offered list is one choice, whatever ids it leaves in use. -/
theorem oneOf_chooses {ids : Card → List Text} (offers : Offers sides used (first :: rest))
    (path : ((oneOf first rest).bind fun card => done ⟨some card, ids card⟩).Yields as result) :
    Chooses sides used result.card (as.map Answer.call) := by
  obtain ⟨_, card, _, rfl, drawn, finish⟩ := yields_bind.1 path
  obtain ⟨rfl, rfl⟩ := yields_done.1 finish
  rw [List.append_nil, calls_of_yields_oneOf drawn]
  exact .one offers (mem_of_yields_oneOf drawn)

theorem take_unused_chooses (listed : pool ∈ sides) (fresh : Pool.unused pool used = first :: rest)
    (path : (take used first rest).Yields as result) :
    Chooses sides used result.card (as.map Answer.call) := by
  have offers : Offers sides used (Pool.unused pool used) := .unused listed
  rw [fresh] at offers
  exact oneOf_chooses offers path

theorem repeat_chooses (exhausted : Pool.unused sides.flatten used = [])
    (path : (unique sides.flatten used).Yields as result) :
    Chooses sides used result.card (as.map Answer.call) := by
  unfold unique at path
  rw [exhausted] at path
  cases every : sides.flatten with
  | nil =>
    rw [every] at path
    obtain ⟨rfl, rfl⟩ := yields_done.1 path
    exact .nothing every
  | cons first rest =>
    rw [every] at path
    have offers : Offers sides used sides.flatten := .every exhausted
    rw [every] at offers
    exact oneOf_chooses offers path

theorem unique_chooses (path : (unique pool used).Yields as result) :
    Chooses [pool] used result.card (as.map Answer.call) := by
  cases fresh : Pool.unused pool used with
  | cons first rest =>
    unfold unique at path
    rw [fresh] at path
    exact take_unused_chooses List.mem_cons_self fresh path
  | nil =>
    have alone : [pool].flatten = pool := List.flatten_singleton
    rw [← alone] at path fresh
    exact repeat_chooses fresh path

/-- A roll is asked for in front of the choice where some mythic is not in use. -/
theorem rareOrMythic_chooses {chance : Float}
    (path : (rareOrMythic rares mythics chance used).Yields as result) :
    ∃ choice, Chooses [rares, mythics] used result.card choice ∧
      as.map Answer.call =
        Call.rollIf (!(Pool.unused mythics used).isEmpty) ++ choice := by
  have rareSide : rares ∈ [rares, mythics] := List.mem_cons_self
  have mythicSide : mythics ∈ [rares, mythics] := List.mem_cons_of_mem _ List.mem_cons_self
  unfold rareOrMythic at path
  split at path
  · next noRare noMythic =>
    -- nothing is left on either side, so any rare or mythic may come back
    have joined : [rares, mythics].flatten = rares ++ mythics := by simp
    have exhausted : Pool.unused (rares ++ mythics) used = [] := by
      rw [Pool.unused, List.filter_append]
      exact List.append_eq_nil_iff.2 ⟨noRare, noMythic⟩
    rw [← joined] at path exhausted
    rw [noMythic]
    exact ⟨_, repeat_chooses exhausted path, rfl⟩
  · next fresh noMythic =>
    rw [noMythic]
    exact ⟨_, take_unused_chooses rareSide fresh path, rfl⟩
  · next fresh =>
    obtain ⟨_, x, drawn, rfl, rolled, finish⟩ := yields_bind.1 path
    rw [fresh, yields_rolled.1 rolled]
    exact ⟨_, take_unused_chooses mythicSide fresh finish, rfl⟩
  · next rareFresh mythicFresh =>
    obtain ⟨_, x, drawn, rfl, rolled, finish⟩ := yields_bind.1 path
    rw [mythicFresh, yields_rolled.1 rolled]
    refine ⟨drawn.map Answer.call, ?_, rfl⟩
    by_cases below : x < chance
    · rw [if_pos below] at finish
      exact take_unused_chooses mythicSide mythicFresh finish
    · rw [if_neg below] at finish
      exact take_unused_chooses rareSide rareFresh finish

/-- A draw chooses once if it brings a card, and never rolls. -/
theorem Chooses.countP_isPick {card : Option Card} {calls : List Call}
    (chooses : Chooses sides used card calls) :
    calls.countP Call.isPick = [card].countP Option.isSome := by
  cases chooses <;> rfl

theorem Chooses.count_roll {card : Option Card} {calls : List Call}
    (chooses : Chooses sides used card calls) : calls.count .roll = 0 := by
  cases chooses <;> rfl

theorem Chooses.isChoice {card : Option Card} {calls : List Call} {count : Nat}
    (chooses : Chooses sides used card calls) (member : .pick count ∈ calls) :
    IsChoice sides used card count := by
  cases chooses with
  | nothing => exact absurd member List.not_mem_nil
  | one offers taken =>
    cases List.mem_singleton.1 member
    exact ⟨_, _, offers, rfl, taken, rfl⟩

end Draw

namespace CustomPack

variable {pools : SetPools} {default : Text} {slots : List Slot} {used : List Text}
  {as : List Answer} {assembly : Assembly}

/-- The calls of a slot that resolves to one of its entries: a roll and then the choice. -/
def Asks (pools : SetPools) (default : Text) (slot : Slot) (outcome : Outcome)
    (calls : List Call) : Prop :=
  outcome.entry ∈ slot.entries ∧ ∃ choice,
    Draw.Chooses [outcome.entry.candidates pools default] outcome.used
      (outcome.card.map DrawnCard.card) choice ∧
    calls = .roll :: choice

theorem fillAll_asks (filled : ∀ slot ∈ slots, slot.entries ≠ [])
    (path : (fillAll pools default slots used).Yields as assembly) :
    InTurn (Asks pools default) slots assembly.outcomes (as.map Answer.call) := by
  induction slots generalizing used as assembly with
  | nil =>
    obtain ⟨rfl, rfl⟩ := yields_done.1 path
    exact .nil
  | cons slot rest ih =>
    -- the path starts with the roll of the slot, and its draw is the draw of a pool
    rcases yields_fillAll_cons path with
      ⟨empty, _⟩ | ⟨roll, entry, drawn, result, later, others, rfl, found, draws, onward, rfl⟩
    · exact absurd empty (filled slot List.mem_cons_self)
    · have behind := ih (fun s member => filled s (List.mem_cons_of_mem _ member)) onward
      rw [fill_eq_unique, ← candidates_eq_ofRarity] at draws
      have chooses := Draw.unique_chooses draws
      rw [← card_outcomeOf entry used result] at chooses
      have step : Asks pools default slot (outcomeOf entry used result)
          (.roll :: drawn.map Answer.call) :=
        ⟨Slot.mem_of_entryAt? found, _, chooses, rfl⟩
      rw [List.map_cons, List.map_append, ← List.cons_append]
      exact .cons step behind

theorem assemble_asks {σ : Type} [Source σ] (source : σ) (pools : SetPools) (default : Text)
    (filled : ∀ slot ∈ slots, slot.entries ≠ []) :
    InTurn (Asks pools default) slots ((assemble pools slots default).run source).1.outcomes
      ((assemble pools slots default).calls source) := by
  rw [calls_eq_map_answers]
  exact fillAll_asks filled (yields_run _ source)

/-- A slot rolls once, whether or not it is filled. -/
theorem Asks.count_roll {slot : Slot} {outcome : Outcome} {calls : List Call}
    (asks : Asks pools default slot outcome calls) :
    calls.countP (· == .roll) =
      [slot].countP (fun _ => true) + [outcome].countP (fun _ => false) := by
  obtain ⟨_, choice, chooses, rfl⟩ := asks
  have none : choice.countP (· == .roll) = 0 := chooses.count_roll
  rw [List.countP_cons_of_pos rfl, none]
  rfl

theorem Asks.countP_isPick {slot : Slot} {outcome : Outcome} {calls : List Call}
    (asks : Asks pools default slot outcome calls) :
    calls.countP Call.isPick =
      [slot].countP (fun _ => false) + [outcome].countP (·.card.isSome) := by
  obtain ⟨_, choice, chooses, rfl⟩ := asks
  rw [List.countP_cons_of_neg (by simp [Call.isPick]), chooses.countP_isPick]
  cases drawn : outcome.card <;> simp [drawn]

theorem Asks.isChoice {slot : Slot} {outcome : Outcome} {calls : List Call} {count : Nat}
    (asks : Asks pools default slot outcome calls) (member : .pick count ∈ calls) :
    Draw.IsChoice [outcome.entry.candidates pools default] outcome.used
      (outcome.card.map DrawnCard.card) count := by
  obtain ⟨_, choice, chooses, rfl⟩ := asks
  rcases List.mem_cons.1 member with roll | chosen
  · cases roll
  · exact chooses.isChoice chosen

end CustomPack

/-- The sides of the cards that a pull may take: the first part of its chain that has any, and for a
rare or a mythic the first of each of its two chains. -/
def Pull.sides (cards : List Card) (pull : Pull) : List (List Card) :=
  if pull.isRareOrMythic then
    [Pool.firstStocked cards pull.pools, Pool.firstStocked cards pull.mythics]
  else [Pool.firstStocked cards pull.pools]

namespace BuiltinPack

variable {cards : List Card} {request : Request} {requests : List Request} {pull : Pull}
  {used : List Text} {as : List Answer} {assembly : Assembly}

/-- Whether a pull is of a rare or a mythic, and the first part of its mythic chain that has any
cards has one that is not in use. -/
def hasMythicLeft (cards : List Card) (pull : Pull) (used : List Text) : Bool :=
  pull.isRareOrMythic && !(Pool.unused (Pool.firstStocked cards pull.mythics) used).isEmpty

/-- The calls of a pull: a roll for the upgrade of its request, a roll for a mythic while one is
left, and then the choice. -/
def Asks (cards : List Card) (request : Request) (outcome : Outcome) (calls : List Call) : Prop :=
  IsPullOf request outcome.pull ∧ ∃ choice,
    Draw.Chooses (outcome.pull.sides cards) outcome.used (outcome.card.map DrawnCard.card)
      choice ∧
    calls = Call.rollIf request.upgrade.isSome ++
      (Call.rollIf (hasMythicLeft cards outcome.pull outcome.used) ++ choice)

theorem calls_of_yields_choosePull (path : (choosePull request).Yields as pull) :
    as.map Answer.call = Call.rollIf request.upgrade.isSome := by
  unfold choosePull at path
  cases upgraded : request.upgrade with
  | none =>
    rw [upgraded] at path
    obtain ⟨rfl, _⟩ := yields_done.1 path
    rfl
  | some upgrade =>
    rw [upgraded] at path
    obtain ⟨_, x, _, rfl, rolled, finish⟩ := yields_bind.1 path
    obtain ⟨rfl, _⟩ := yields_done.1 finish
    rw [yields_rolled.1 rolled]
    rfl

theorem draw_chooses {result : Draw.Result} (path : (draw cards pull used).Yields as result) :
    ∃ choice, Draw.Chooses (pull.sides cards) used result.card choice ∧
      as.map Answer.call = Call.rollIf (hasMythicLeft cards pull used) ++ choice := by
  unfold draw at path
  unfold Pull.sides hasMythicLeft
  by_cases joined : pull.isRareOrMythic = true
  · simp only [joined, if_true, Bool.true_and] at path ⊢
    exact Draw.rareOrMythic_chooses path
  · simp only [joined] at path ⊢
    exact ⟨_, Draw.unique_chooses path, rfl⟩

theorem pullAll_asks (path : (pullAll cards requests used).Yields as assembly) :
    InTurn (Asks cards) requests assembly.outcomes (as.map Answer.call) := by
  induction requests generalizing used as assembly with
  | nil =>
    obtain ⟨rfl, rfl⟩ := yields_done.1 path
    exact .nil
  | cons request rest ih =>
    obtain ⟨chosen, pull, drawn, result, later, others, rfl, choice, draws, onward, rfl⟩ :=
      yields_pullAll_cons path
    obtain ⟨picked, chooses, calls⟩ := draw_chooses draws
    rw [← card_outcomeOf pull used result] at chooses
    have step : Asks cards request (outcomeOf pull used result)
        (chosen.map Answer.call ++ drawn.map Answer.call) := by
      refine ⟨isPullOf_of_yields choice, picked, chooses, ?_⟩
      rw [calls_of_yields_choosePull choice, calls]
      rfl
    rw [List.map_append, List.map_append, ← List.append_assoc]
    exact .cons step (ih onward)

theorem assemble_asks {σ : Type} [Source σ] (source : σ) (cards : List Card) (policy : Policy) :
    InTurn (Asks cards) (singlePulls policy) ((assemble cards policy).run source).1
      ((assemble cards policy).calls source) := by
  have outcomes : ((assemble cards policy).run source).1 =
      ((pullPolicy cards policy).run source).1.outcomes :=
    congrArg Prod.fst (run_bind _ _ source)
  have calls : (assemble cards policy).calls source = (pullPolicy cards policy).calls source :=
    (calls_bind _ _ source).trans (List.append_nil _)
  rw [outcomes, calls, calls_eq_map_answers]
  exact pullAll_asks (yields_run _ source)

/-- A pull rolls for its upgrade and for a mythic, and for nothing else. -/
theorem Asks.count_roll {outcome : Outcome} {calls : List Call}
    (asks : Asks cards request outcome calls) :
    calls.countP (· == .roll) = [request].countP (·.upgrade.isSome) +
      [outcome].countP (fun o => hasMythicLeft cards o.pull o.used) := by
  obtain ⟨_, choice, chooses, rfl⟩ := asks
  have none : choice.countP (· == .roll) = 0 := chooses.count_roll
  rw [List.countP_append, List.countP_append, none]
  cases upgraded : request.upgrade.isSome <;>
    cases left : hasMythicLeft cards outcome.pull outcome.used <;>
    simp [Call.rollIf, upgraded, left]

theorem Asks.countP_isPick {outcome : Outcome} {calls : List Call}
    (asks : Asks cards request outcome calls) :
    calls.countP Call.isPick =
      [request].countP (fun _ => false) + [outcome].countP (·.card.isSome) := by
  obtain ⟨_, choice, chooses, rfl⟩ := asks
  have rolls (asked : Bool) : (Call.rollIf asked).countP Call.isPick = 0 := by
    cases asked <;> rfl
  rw [List.countP_append, List.countP_append, rolls, rolls, chooses.countP_isPick]
  cases drawn : outcome.card <;> simp [drawn]

theorem Asks.isChoice {outcome : Outcome} {calls : List Call} {count : Nat}
    (asks : Asks cards request outcome calls) (member : .pick count ∈ calls) :
    Draw.IsChoice (outcome.pull.sides cards) outcome.used (outcome.card.map DrawnCard.card)
      count := by
  obtain ⟨_, choice, chooses, rfl⟩ := asks
  have rolls (asked : Bool) : .pick count ∉ Call.rollIf asked := by
    cases asked <;> simp [Call.rollIf]
  rcases List.mem_append.1 member with upgrade | later
  · exact absurd upgrade (rolls _)
  · rcases List.mem_append.1 later with mythic | chosen
    · exact absurd mythic (rolls _)
    · exact chooses.isChoice chosen

/-- The number of pulls of a policy that may be upgraded. -/
def upgradeCount : Policy → Nat
  | .collector => 0
  | .play => 2
  | .legacy => 1

theorem countP_upgrade (policy : Policy) :
    (singlePulls policy).countP (·.upgrade.isSome) = upgradeCount policy := by
  cases policy <;> rfl

/-- Without a usable mythic no mythic is left for any pull of a policy. -/
theorem hasMythicLeft_eq_false (absent : ¬ Pool.Has cards (·.hasRarity .mythic))
    (mythics : pull.mythics.all Partition.isOfMythics = true) :
    hasMythicLeft cards pull used = false := by
  have empty : Pool.firstStocked cards pull.mythics = [] := by
    refine List.eq_nil_iff_forall_not_mem.2 fun card member => absent ?_
    obtain ⟨part, listed, admitted⟩ := Pool.exists_admits_of_mem_firstStocked member
    exact ⟨card, Pool.mem_usable_of_mem_firstStocked member,
      Partition.hasRarity_of_isOfMythics (List.all_eq_true.1 mythics part listed) admitted⟩
  simp [hasMythicLeft, empty, Pool.unused]

theorem countP_hasMythicLeft {policy : Policy} {outcomes : List Outcome} {calls : List Call}
    (turns : InTurn (Asks cards) (singlePulls policy) outcomes calls)
    (absent : ¬ Pool.Has cards (·.hasRarity .mythic)) :
    outcomes.countP (fun o => hasMythicLeft cards o.pull o.used) = 0 := by
  refine List.countP_eq_zero.2 fun outcome member => ?_
  obtain ⟨request, listed, _, chosen, _⟩ := turns.exists_of_mem member
  have mythics := (isOpen_of_mem (mem_requests_of_mem_singlePulls listed)).mythics _ chosen
  rw [hasMythicLeft_eq_false absent mythics]
  exact Bool.false_ne_true

end BuiltinPack

/-- What an assembly asks its source, step by step and in all.

The slots of a custom pack ask in turn, each for one roll and then, if it is filled, for one choice;
so there are as many rolls as slots and as many choices as cards. The pulls of a built-in pack ask
in turn, each for a roll if its request has an upgrade, for a roll if its mythic chain leads to a
card not in use, and then for one choice if it finds a card; without a usable mythic a collector, a
play and a legacy pack roll 0, 2 and 1 times. Every choice is made of a list that a slot or pull
offers and that holds the card it brings, so never of an empty one, and no assembly breaks off. -/
theorem assembly_asks_in_turn {σ : Type} [Source σ] (source : σ) :
    (∀ (pools : SetPools) (slots : List Slot) (default : Text),
      (∀ slot ∈ slots, slot.entries ≠ []) →
      let pack := CustomPack.assemble pools slots default
      let assembly := (pack.run source).1
      let calls := pack.calls source
      assembly.cutShort = false ∧
      InTurn (CustomPack.Asks pools default) slots assembly.outcomes calls ∧
      calls.count .roll = slots.length ∧
      calls.countP Call.isPick = assembly.cards.length ∧
      ∀ count, .pick count ∈ calls → ∃ outcome ∈ assembly.outcomes,
        Draw.IsChoice [outcome.entry.candidates pools default] outcome.used
          (outcome.card.map DrawnCard.card) count) ∧
    (∀ (cards : List Card) (name : Text) (date : Option Text),
      let policy := Policy.select name date
      let requests := BuiltinPack.singlePulls policy
      let pack := BuiltinPack.assemble cards policy
      let outcomes := (pack.run source).1
      let calls := pack.calls source
      InTurn (BuiltinPack.Asks cards) requests outcomes calls ∧
      calls.count .roll = requests.countP (·.upgrade.isSome) +
        outcomes.countP (fun o => BuiltinPack.hasMythicLeft cards o.pull o.used) ∧
      calls.countP Call.isPick = (BuiltinPack.cardsOf outcomes).length ∧
      (∀ count, .pick count ∈ calls → ∃ outcome ∈ outcomes,
        Draw.IsChoice (outcome.pull.sides cards) outcome.used (outcome.card.map DrawnCard.card)
          count) ∧
      (¬ Pool.Has cards (·.hasRarity .mythic) →
        calls.count .roll = BuiltinPack.upgradeCount policy)) := by
  refine ⟨?_, ?_⟩
  · intro pools slots default filled pack assembly calls
    have turns := CustomPack.assemble_asks source pools default filled
    have rolls := turns.countP_eq fun _ _ _ asks => asks.count_roll
    have picks := turns.countP_eq fun _ _ _ asks => asks.countP_isPick
    rw [List.countP_true, List.countP_false] at rolls
    rw [List.countP_false, Function.const_apply, Nat.zero_add,
      ← List.length_filterMap_eq_countP] at picks
    have ⟨reached, _⟩ := CustomPack.fillAll_complete pools default slots filled
      (yields_run pack source)
    refine ⟨reached, turns, rolls, picks, ?_⟩
    intro count member
    obtain ⟨_, _, outcome, there, _, asks, made⟩ := turns.exists_of_mem_calls member
    exact ⟨outcome, there, asks.isChoice made⟩
  · intro cards name date policy requests pack outcomes calls
    have turns := BuiltinPack.assemble_asks source cards policy
    have rolls := turns.countP_eq fun _ _ _ asks => asks.count_roll
    have picks := turns.countP_eq fun _ _ _ asks => asks.countP_isPick
    rw [List.countP_false, Function.const_apply, Nat.zero_add,
      ← List.length_filterMap_eq_countP] at picks
    refine ⟨turns, rolls, picks, ?_, ?_⟩
    · intro count member
      obtain ⟨_, _, outcome, there, _, asks, made⟩ := turns.exists_of_mem_calls member
      exact ⟨outcome, there, asks.isChoice made⟩
    · intro absent
      rw [BuiltinPack.countP_hasMythicLeft turns absent, BuiltinPack.countP_upgrade] at rolls
      exact rolls

/-- A slot without a candidate still rolls, and a legacy pack without mythics rolls for its last
card alone. -/
theorem assembly_asks_in_turn_skipped_slot :
    let card (id rarity : Text) : Card := ⟨id, "", "s", none, rarity, false, none, none, false, []⟩
    let cards := [card "a" "common", card "b" "rare"]
    let slots : List Slot := [⟨[⟨.mythic, 100, none⟩]⟩, ⟨[⟨.common, 100, some "s"⟩]⟩]
    let source : Script := ⟨[], 0.5, []⟩
    let pack := CustomPack.assemble [("s", cards)] slots "s"
    (∀ slot ∈ slots, slot.entries ≠ []) ∧ ¬ Pool.Has cards (·.hasRarity .mythic) ∧
    (pack.calls source).count .roll = 2 ∧ (pack.run source).1.cards.length = 1 ∧
    (pack.calls source).countP Call.isPick = (pack.run source).1.cards.length ∧
    ((BuiltinPack.assemble cards (Policy.select "draft" none)).calls source).count .roll = 1 := by
  intro card cards slots source pack
  have filled : ∀ slot ∈ slots, slot.entries ≠ [] := by decide
  have absent : ¬ Pool.Has cards (·.hasRarity .mythic) := by decide +kernel
  have legacy : BuiltinPack.upgradeCount (Policy.select "draft" none) = 1 := by decide +kernel
  have asked := assembly_asks_in_turn source
  obtain ⟨_, _, rolls, picks, _⟩ := asked.1 [("s", cards)] slots "s" filled
  obtain ⟨_, _, _, _, plain⟩ := asked.2 cards "draft" none
  exact ⟨filled, absent, rolls, by decide +kernel, picks, (plain absent).trans legacy⟩

end PackOpening
