import PackOpening.Chance.Basic

/-!
Paths through a computation: answers to its questions, one after another, and the value that they
lead to.

Every run with a source follows a path, so what holds of the values at the ends of all paths holds
with every source, and two continuations that agree on these values make equal computations. The
path of a joined computation falls apart into a path of each part.
-/
namespace PackOpening

/-- An answer to a question: a roll, or a position among `last + 1`. -/
inductive Answer where
  | roll (x : Float)
  | pick (last : Nat) (position : Fin (last + 1))

/-- The question that an answer answers. -/
def Answer.call : Answer → Call
  | roll _ => .roll
  | pick last _ => .pick (last + 1)

namespace Chance

variable {α β σ : Type}

/-- The answers, given to the questions of a computation in their order, lead to the value. -/
inductive Yields : Chance α → List Answer → α → Prop where
  | done (value : α) : Yields (done value) [] value
  | roll {next : Float → Chance α} {answers : List Answer} {value : α} (x : Float)
      (rest : Yields (next x) answers value) : Yields (roll next) (.roll x :: answers) value
  | pick {last : Nat} {next : Fin (last + 1) → Chance α} {answers : List Answer} {value : α}
      (i : Fin (last + 1)) (rest : Yields (next i) answers value) :
      Yields (pick last next) (.pick last i :: answers) value

/-- The answers of a source on the way through a computation. -/
def answers [Source σ] : Chance α → σ → List Answer
  | done _, _ => []
  | roll next, source =>
    let (x, source) := Source.roll source
    .roll x :: answers (next x) source
  | pick last next, source =>
    let (i, source) := Source.pick last source
    .pick last i :: answers (next i) source

theorem yields_run [Source σ] (c : Chance α) (source : σ) :
    c.Yields (c.answers source) (c.run source).1 := by
  induction c generalizing source with
  | done value => exact .done value
  | roll next ih => exact .roll _ (ih _ _)
  | pick last next ih => exact .pick _ (ih _ _)

/-- A source is asked what its answers answer. -/
theorem calls_eq_map_answers [Source σ] (c : Chance α) (source : σ) :
    c.calls source = (c.answers source).map Answer.call := by
  induction c generalizing source with
  | done value => rfl
  | roll next ih => exact congrArg (Call.roll :: ·) (ih _ _)
  | pick last next ih => exact congrArg (Call.pick (last + 1) :: ·) (ih _ _)

theorem bind_eq (c : Chance α) (f : α → Chance β) : (c >>= f) = c.bind f := rfl

theorem pure_eq (value : α) : (pure value : Chance α) = done value := rfl

theorem yields_done {value result : α} {as : List Answer} :
    (done value).Yields as result ↔ as = [] ∧ result = value := by
  constructor
  · intro path
    cases path
    exact ⟨rfl, rfl⟩
  · rintro ⟨rfl, rfl⟩
    exact .done _

theorem yields_roll {next : Float → Chance α} {as : List Answer} {result : α} :
    (roll next).Yields as result ↔
      ∃ x rest, as = .roll x :: rest ∧ (next x).Yields rest result := by
  constructor
  · intro path
    cases path with
    | roll x rest => exact ⟨x, _, rfl, rest⟩
  · rintro ⟨x, rest, rfl, path⟩
    exact .roll x path

theorem yields_pick {last : Nat} {next : Fin (last + 1) → Chance α} {as : List Answer}
    {result : α} :
    (pick last next).Yields as result ↔
      ∃ i rest, as = .pick last i :: rest ∧ (next i).Yields rest result := by
  constructor
  · intro path
    cases path with
    | pick i rest => exact ⟨i, _, rfl, rest⟩
  · rintro ⟨i, rest, rfl, path⟩
    exact .pick i path

/-- A path through a joined computation is a path through its first part and one through what
follows. -/
theorem yields_bind {c : Chance α} {f : α → Chance β} {as : List Answer} {result : β} :
    (c.bind f).Yields as result ↔
      ∃ first value second, as = first ++ second ∧ c.Yields first value ∧
        (f value).Yields second result := by
  induction c generalizing as with
  | done value =>
    constructor
    · intro path
      exact ⟨[], value, as, rfl, .done value, path⟩
    · rintro ⟨first, value', second, rfl, start, path⟩
      obtain ⟨rfl, rfl⟩ := yields_done.1 start
      exact path
  | roll next ih =>
    constructor
    · intro path
      obtain ⟨x, rest, rfl, onward⟩ := yields_roll.1 path
      obtain ⟨first, value, second, rfl, start, finish⟩ := (ih x).1 onward
      exact ⟨.roll x :: first, value, second, rfl, .roll x start, finish⟩
    · rintro ⟨first, value, second, rfl, start, finish⟩
      obtain ⟨x, rest, rfl, onward⟩ := yields_roll.1 start
      exact .roll x ((ih x).2 ⟨rest, value, second, rfl, onward, finish⟩)
  | pick last next ih =>
    constructor
    · intro path
      obtain ⟨i, rest, rfl, onward⟩ := yields_pick.1 path
      obtain ⟨first, value, second, rfl, start, finish⟩ := (ih i).1 onward
      exact ⟨.pick last i :: first, value, second, rfl, .pick i start, finish⟩
    · rintro ⟨first, value, second, rfl, start, finish⟩
      obtain ⟨i, rest, rfl, onward⟩ := yields_pick.1 start
      exact .pick i ((ih i).2 ⟨rest, value, second, rfl, onward, finish⟩)

theorem yields_rolled {as : List Answer} {x : Float} :
    rolled.Yields as x ↔ as = [.roll x] := by
  constructor
  · intro path
    obtain ⟨y, rest, rfl, finish⟩ := yields_roll.1 path
    obtain ⟨rfl, rfl⟩ := yields_done.1 finish
    rfl
  · rintro rfl
    exact .roll x (.done x)

/-- Only elements of the list are taken from it. -/
theorem mem_of_yields_oneOf {first value : α} {rest : List α} {as : List Answer}
    (path : (oneOf first rest).Yields as value) : value ∈ first :: rest := by
  obtain ⟨i, _, _, finish⟩ := yields_pick.1 path
  obtain ⟨_, rfl⟩ := yields_done.1 finish
  exact List.get_mem (first :: rest) i

/-- Continuations that agree on every value a computation can return make the same whole. -/
theorem bind_congr {c : Chance α} {f g : α → Chance β}
    (agree : ∀ as value, c.Yields as value → f value = g value) : c.bind f = c.bind g := by
  induction c with
  | done value => exact agree [] value (.done value)
  | roll next ih =>
    exact congrArg roll (funext fun x => ih x fun _ _ path => agree _ _ (.roll x path))
  | pick last next ih =>
    exact congrArg (pick last) (funext fun i => ih i fun _ _ path => agree _ _ (.pick i path))

end Chance
end PackOpening
