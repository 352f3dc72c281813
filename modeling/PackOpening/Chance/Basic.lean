/-!
Chance: computations that ask a source for rolls and picks, and the sources that answer.

A computation is a tree of questions. Running it follows one path through the tree, and the
questions on that path are its calls. So two computations that are equal make the same calls and
return the same result with every source.
-/
namespace PackOpening

/-- A computation that returns a value after asking for rolls and picks. A pick asks for a position
among `last + 1`, so nothing is ever picked from an empty list. -/
inductive Chance (α : Type) where
  | done (value : α)
  | roll (next : Float → Chance α)
  | pick (last : Nat) (next : Fin (last + 1) → Chance α)

/-- A source of chance: what it answers, and the source that is left. -/
class Source (σ : Type) where
  roll : σ → Float × σ
  pick : (last : Nat) → σ → Fin (last + 1) × σ

/-- One source or the other. -/
instance {σ τ : Type} [Source σ] [Source τ] : Source (σ ⊕ τ) where
  roll
    | .inl s => let (x, s) := Source.roll s; (x, .inl s)
    | .inr s => let (x, s) := Source.roll s; (x, .inr s)
  pick last
    | .inl s => let (i, s) := Source.pick last s; (i, .inl s)
    | .inr s => let (i, s) := Source.pick last s; (i, .inr s)

/-- A question to a source; a pick shows among how many it was. -/
inductive Call where
  | roll
  | pick (count : Nat)
  deriving DecidableEq, Repr

namespace Chance

variable {α β σ : Type}

def bind : Chance α → (α → Chance β) → Chance β
  | done value, f => f value
  | roll next, f => roll (fun x => bind (next x) f)
  | pick last next, f => pick last (fun i => bind (next i) f)

instance : Monad Chance where
  pure := done
  bind := bind

/-- Asks for a roll. -/
def rolled : Chance Float := roll done

/-- Asks for one element of a list that is not empty. -/
def oneOf (first : α) (rest : List α) : Chance α :=
  pick rest.length (fun i => done ((first :: rest).get i))

/-- The value returned with a source, and the source that is left. -/
def run [Source σ] : Chance α → σ → α × σ
  | done value, source => (value, source)
  | roll next, source =>
    let (x, source) := Source.roll source
    run (next x) source
  | pick last next, source =>
    let (i, source) := Source.pick last source
    run (next i) source

/-- The calls made on a source, in their order. -/
def calls [Source σ] : Chance α → σ → List Call
  | done _, _ => []
  | roll next, source =>
    let (x, source) := Source.roll source
    .roll :: calls (next x) source
  | pick last next, source =>
    let (i, source) := Source.pick last source
    .pick (last + 1) :: calls (next i) source

/-- The first call, which is the same with every source. -/
def firstCall? : Chance α → Option Call
  | done _ => none
  | roll _ => some .roll
  | pick last _ => some (.pick (last + 1))

/-- The value of a computation that asks nothing. -/
def certain? : Chance α → Option α
  | done value => some value
  | _ => none

theorem run_bind [Source σ] (c : Chance α) (f : α → Chance β) (source : σ) :
    (c.bind f).run source = (f (c.run source).1).run (c.run source).2 := by
  induction c generalizing source with
  | done value => rfl
  | roll next ih => exact ih _ _
  | pick last next ih => exact ih _ _

theorem calls_bind [Source σ] (c : Chance α) (f : α → Chance β) (source : σ) :
    (c.bind f).calls source =
      c.calls source ++ (f (c.run source).1).calls (c.run source).2 := by
  induction c generalizing source with
  | done value => rfl
  | roll next ih => exact congrArg (Call.roll :: ·) (ih _ _)
  | pick last next ih => exact congrArg (Call.pick (last + 1) :: ·) (ih _ _)

theorem bind_assoc {γ : Type} (c : Chance α) (f : α → Chance β) (g : β → Chance γ) :
    (c.bind f).bind g = c.bind (fun a => (f a).bind g) := by
  induction c with
  | done value => rfl
  | roll next ih => exact congrArg roll (funext fun x => ih x)
  | pick last next ih => exact congrArg (pick last) (funext fun i => ih i)

theorem bind_done (c : Chance α) : c.bind done = c := by
  induction c with
  | done value => rfl
  | roll next ih => exact congrArg roll (funext fun x => ih x)
  | pick last next ih => exact congrArg (pick last) (funext fun i => ih i)

end Chance
end PackOpening
