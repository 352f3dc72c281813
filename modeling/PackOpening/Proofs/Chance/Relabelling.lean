import PackOpening.Chance.Script
import PackOpening.Proofs.Chance.Reach

/-!
Computations that differ only in the positions at which things are picked.

One computation relabels to another if both ask the same questions in the same order and every
position that may be picked in the one has a position in the other that leads on alike. Such pairs
are put together part by part, and a script for the one becomes a script for the other when its
picks alone are exchanged.
-/
namespace PackOpening

namespace Script

theorem roll_withPicks (script : Script) (picks : List Int) :
    Source.roll { script with picks } =
      ((Source.roll script).1, { (Source.roll script).2 with picks }) := by
  obtain ⟨rolls, _, _⟩ := script
  cases rolls <;> rfl

/-- A pick uses up a listed position and nothing else. -/
theorem withPicks_afterPick (last : Nat) (script : Script) (picks : List Int) :
    { (Source.pick last script).2 with picks } = { script with picks } := by
  obtain ⟨_, _, listed⟩ := script
  cases listed <;> rfl

theorem pick_withPicks (script : Script) {last : Nat} (i : Fin (last + 1)) (picks : List Int) :
    Source.pick last { script with picks := (i.val : Int) :: picks } =
      (i, { script with picks }) :=
  congrArg (fun j => (j, { script with picks })) (position_val i)

end Script

namespace Chance

variable {α β : Type}

/-- Rolls lead on alike, and each position in the first computation has a label: a position in the
second that leads on alike. -/
inductive Relabels : Chance α → Chance α → Prop where
  | done (value : α) : Relabels (done value) (done value)
  | roll {next next' : Float → Chance α} (onward : ∀ x, Relabels (next x) (next' x)) :
      Relabels (roll next) (roll next')
  | pick {last : Nat} {next next' : Fin (last + 1) → Chance α}
      (label : Fin (last + 1) → Fin (last + 1))
      (onward : ∀ i, Relabels (next i) (next' (label i))) :
      Relabels (pick last next) (pick last next')

theorem Relabels.bind {c c' : Chance α} {f f' : α → Chance β} (first : c.Relabels c')
    (onward : ∀ value, (f value).Relabels (f' value)) : (c.bind f).Relabels (c'.bind f') := by
  induction first with
  | done value => exact onward value
  | roll _ ih => exact .roll ih
  | pick label _ ih => exact .pick label ih

theorem Relabels.refl (c : Chance α) : c.Relabels c := by
  induction c with
  | done value => exact .done value
  | roll next ih => exact .roll ih
  | pick last next ih => exact .pick id ih

/-- Picks among equally many, where whatever stands at a position of the one stands somewhere in the
other. -/
theorem relabels_pick {last last' : Nat} (length : last = last') {taken : Fin (last + 1) → α}
    {taken' : Fin (last' + 1) → α} (found : ∀ i, ∃ j, taken' j = taken i) :
    (pick last fun i => done (taken i)).Relabels (pick last' fun j => done (taken' j)) := by
  subst length
  obtain ⟨label, position⟩ := Classical.axiomOfChoice found
  refine .pick label fun i => ?_
  rw [position]
  exact .done _

/-- The order of a list does not matter when one of its elements is picked. Elements that are equal
or occur several times may go by any of their places. -/
theorem relabels_oneOf {first first' : α} {rest rest' : List α}
    (same : (first :: rest).Perm (first' :: rest')) :
    (oneOf first rest).Relabels (oneOf first' rest') :=
  relabels_pick (Nat.succ.inj same.length_eq) fun i =>
    List.get_of_mem (same.subset (List.get_mem (first :: rest) i))

/-- Some script with the same rolls leads the second computation to where a script leads the first,
and is asked the same on the way. -/
theorem Relabels.exists_picks {c c' : Chance α} (relabels : c.Relabels c') (script : Script) :
    ∃ picks, (c'.run { script with picks }).1 = (c.run script).1 ∧
      c'.calls { script with picks } = c.calls script := by
  induction relabels generalizing script with
  | done value => exact ⟨script.picks, rfl, rfl⟩
  | roll _ ih =>
    obtain ⟨picks, value, calls⟩ := ih (Source.roll script).1 (Source.roll script).2
    refine ⟨picks, ?_, ?_⟩
    · rw [run, Script.roll_withPicks]
      exact value
    · rw [Chance.calls, Script.roll_withPicks]
      exact congrArg (Call.roll :: ·) calls
  | @pick last _ _ label _ ih =>
    obtain ⟨picks, value, calls⟩ := ih (Source.pick last script).1 (Source.pick last script).2
    rw [Script.withPicks_afterPick] at value calls
    refine ⟨((label (Source.pick last script).1).val : Int) :: picks, ?_, ?_⟩
    · rw [run, Script.pick_withPicks]
      exact value
    · rw [Chance.calls, Script.pick_withPicks]
      exact congrArg (Call.pick (last + 1) :: ·) calls

end Chance
end PackOpening
