import PackOpening.Chance.Script
import PackOpening.Proofs.Chance.Path

/-!
What a computation can come to: the values at the ends of its paths, where every roll is at least
zero and below one.

What can be reached is put together part by part, and a source that answers from a script can follow
any such path. So to show that some source leads to a value it is enough to choose the answers one
after another.
-/
namespace PackOpening

/-- Rolls lie between zero and one; every position that a pick asks for may be picked. -/
def Answer.IsFair : Answer → Prop
  | .roll x => 0 ≤ x ∧ x < 1
  | .pick _ _ => True

/-- The roll in the middle, for rolls that do not matter. -/
theorem Answer.isFair_half : Answer.IsFair (.roll 0.5) := by
  unfold IsFair
  decide +kernel

theorem Answer.isFair_zero : Answer.IsFair (.roll 0) := by
  unfold IsFair
  decide +kernel

namespace Chance

variable {α β : Type} {goal : α → Prop}

/-- Some path of fair answers leads to a value of a kind. -/
def Reaches (c : Chance α) (goal : α → Prop) : Prop :=
  ∃ as value, c.Yields as value ∧ (∀ a ∈ as, a.IsFair) ∧ goal value

theorem reaches_done {value : α} (met : goal value) : (done value).Reaches goal :=
  ⟨[], value, .done value, fun _ none => absurd none List.not_mem_nil, met⟩

theorem reaches_bind {c : Chance α} {f : α → Chance β} {goal : β → Prop}
    (onward : c.Reaches fun value => (f value).Reaches goal) : (c.bind f).Reaches goal := by
  obtain ⟨first, value, start, fair, second, result, finish, fair', met⟩ := onward
  have joined := yields_bind.2 ⟨first, value, second, rfl, start, finish⟩
  refine ⟨first ++ second, result, joined, ?_, met⟩
  intro a member
  rcases List.mem_append.1 member with early | late
  · exact fair a early
  · exact fair' a late

theorem Reaches.mono {c : Chance α} {wider : α → Prop} (reached : c.Reaches goal)
    (within : ∀ value, goal value → wider value) : c.Reaches wider := by
  obtain ⟨as, value, path, fair, met⟩ := reached
  exact ⟨as, value, path, fair, within value met⟩

theorem reaches_rolled {x : Float} {goal : Float → Prop} (fair : Answer.IsFair (.roll x))
    (met : goal x) : rolled.Reaches goal := by
  refine ⟨[.roll x], x, yields_rolled.2 rfl, ?_, met⟩
  intro a member
  rw [List.mem_singleton.1 member]
  exact fair

/-- Every element of a list can be picked. -/
theorem reaches_oneOf {first value : α} {rest : List α} (member : value ∈ first :: rest)
    (met : goal value) : (oneOf first rest).Reaches goal := by
  obtain ⟨i, rfl⟩ := List.get_of_mem member
  refine ⟨[.pick rest.length i], _, .pick i (.done _), ?_, met⟩
  intro a member
  rw [List.mem_singleton.1 member]
  trivial

/-- Every computation has a path of fair answers. -/
theorem reaches_some (c : Chance α) : c.Reaches fun value => ∃ as, c.Yields as value := by
  suffices some : ∃ as value, c.Yields as value ∧ ∀ a ∈ as, a.IsFair by
    obtain ⟨as, value, path, fair⟩ := some
    exact ⟨as, value, path, fair, as, path⟩
  induction c with
  | done value => exact ⟨[], value, .done value, fun _ none => absurd none List.not_mem_nil⟩
  | roll next ih =>
    obtain ⟨as, value, path, fair⟩ := ih 0.5
    refine ⟨.roll 0.5 :: as, value, .roll 0.5 path, ?_⟩
    exact List.forall_mem_cons.2 ⟨Answer.isFair_half, fair⟩
  | pick last next ih =>
    obtain ⟨as, value, path, fair⟩ := ih 0
    refine ⟨.pick last 0 :: as, value, .pick 0 path, ?_⟩
    exact List.forall_mem_cons.2 ⟨trivial, fair⟩

end Chance

namespace Script

/-- A script whose rolls lie between zero and one. -/
structure IsFair (script : Script) : Prop where
  rolls : ∀ x ∈ script.rolls, 0 ≤ x ∧ x < 1
  laterRolls : 0 ≤ script.laterRolls ∧ script.laterRolls < 1

/-- A script that gives some answers, and then what `rest` gives. -/
def giving (rest : Script) : List Answer → Script
  | [] => rest
  | .roll x :: as => { giving rest as with rolls := x :: (giving rest as).rolls }
  | .pick _ i :: as => { giving rest as with picks := (i.val : Int) :: (giving rest as).picks }

theorem position_val {last : Nat} (i : Fin (last + 1)) : position last (i.val : Int) = i := by
  have bound := i.isLt
  have low : ((i.val : Int) % ((last : Int) + 1)).toNat = i.val := by
    rw [Int.emod_eq_of_lt (by omega) (by omega), Int.toNat_natCast]
  unfold position
  rw [low, Fin.ofNat_val_eq_self]

theorem pick_giving (rest : Script) {last : Nat} (i : Fin (last + 1)) (as : List Answer) :
    Source.pick last (giving rest (.pick last i :: as)) = (i, giving rest as) :=
  congrArg (fun j => (j, giving rest as)) (position_val i)

/-- A script that gives the answers of a path follows the path. -/
theorem run_giving {α : Type} {c : Chance α} {as : List Answer} {value : α}
    (path : c.Yields as value) (rest : Script) : c.run (giving rest as) = (value, rest) := by
  induction path with
  | done value => rfl
  | roll x _ ih => exact ih
  | pick i _ ih =>
    unfold Chance.run
    rw [pick_giving]
    exact ih

theorem isFair_giving {rest : Script} {as : List Answer} (fair : rest.IsFair)
    (answers : ∀ a ∈ as, a.IsFair) : (giving rest as).IsFair := by
  induction as with
  | nil => exact fair
  | cons a as ih =>
    obtain ⟨first, others⟩ := List.forall_mem_cons.1 answers
    have later := ih others
    cases a with
    | roll x => exact ⟨List.forall_mem_cons.2 ⟨first, later.rolls⟩, later.laterRolls⟩
    | pick last i => exact ⟨later.rolls, later.laterRolls⟩

/-- What a computation can come to is what some script leads it to. -/
theorem exists_run_of_reaches {α : Type} {c : Chance α} {goal : α → Prop}
    (reached : c.Reaches goal) : ∃ script : Script, script.IsFair ∧ goal (c.run script).1 := by
  obtain ⟨as, value, path, fair, met⟩ := reached
  have empty : IsFair ⟨[], 0.5, []⟩ :=
    ⟨fun _ none => absurd none List.not_mem_nil, Answer.isFair_half⟩
  refine ⟨giving ⟨[], 0.5, []⟩ as, isFair_giving empty fair, ?_⟩
  rw [run_giving path]
  exact met

end Script
end PackOpening
