import Mathlib
import PackOpening.Proofs.Definition.Accepted
import PackOpening.Proofs.Numeric.Value
import PackOpening.Proofs.Pack.Assembly

/-!
The weights of a slot: its entries own intervals of the numbers from 0 to 100, one behind the other,
and a roll that is resolved goes to the owner of the number that it comes to.

The walk over the entries compares with running totals that begin anywhere, so what it stops at is
said for every beginning. A compiled slot shares exactly a hundred, so its intervals leave no gap
and the walk always stops.
-/
namespace PackOpening

open Numeric

/-- The walk stops at the entry whose running total is the first to exceed the number. -/
theorem SlotEntry.firstAbove_eq_getElem? {x : Float} {value : ℚ} (stands : value? x = some value)
    {entries : List SlotEntry} (shares : ∀ entry ∈ entries, 0 ≤ entry.probability) {start : Int}
    {i : Nat} (inside : i < entries.length)
    (low : ((start + ((entries.map probability).take i).sum : Int) : ℚ) ≤ value)
    (high : value < ((start + ((entries.map probability).take (i + 1)).sum : Int) : ℚ)) :
    firstAbove x start entries = entries[i]? := by
  induction entries generalizing start i with
  | nil => simp at inside
  | cons first rest ih =>
    obtain ⟨_, others⟩ := List.forall_mem_cons.1 shares
    simp only [firstAbove]
    cases i with
    | zero =>
      have above : isBelow x (start + first.probability) = true :=
        (isBelow_iff stands _).2 (by simpa using high)
      rw [if_pos above]
      rfl
    | succ i =>
      simp only [List.map_cons, List.take_succ_cons, List.sum_cons, ← add_assoc] at low high
      have between : 0 ≤ ((rest.map probability).take i).sum :=
        List.sum_nonneg fun share member =>
          (List.forall_mem_map.2 others) share (List.mem_of_mem_take member)
      have notAbove : ¬ isBelow x (start + first.probability) = true := by
        rw [isBelow_iff stands, not_lt]
        exact le_trans (by exact_mod_cast Int.le_add_of_nonneg_right between) low
      rw [if_neg notAbove, List.getElem?_cons_succ]
      exact ih others (by simpa using inside) low high

/-- For every whole number below a hundred, some roll comes to it or to less than one more. -/
theorem exists_roll {n : Nat} (less : n < 100) : ∃ roll : Float, 0 ≤ roll ∧ roll < 1 ∧
    ∃ value : ℚ, value? (roll * 100.0) = some value ∧ n ≤ value ∧ value < (n + 1 : Nat) := by
  let roll (n : Nat) : Float := Float.ofNat ((128 * n + 99) / 100) / 128.0
  have all : ∀ n < 100, 0 ≤ roll n ∧ roll n < 1 ∧
      isBelow (roll n * 100.0) n = false ∧ isBelow (roll n * 100.0) (n + 1 : Nat) = true := by
    decide +kernel
  obtain ⟨nonneg, lessOne, above, below⟩ := all n less
  exact ⟨roll n, nonneg, lessOne, by exact_mod_cast exists_value_of_isBelow above below⟩

namespace Slot

variable {slot : Slot} {x : Float} {value : ℚ} {i j : Nat}

/-- The sum of the shares in front of a position. -/
def before (slot : Slot) (i : Nat) : Int := ((slot.entries.map SlotEntry.probability).take i).sum

/-- The numbers that the entry at a position owns. -/
def interval (slot : Slot) (i : Nat) : Set ℝ := Set.Ico (slot.before i : ℝ) (slot.before (i + 1))

/-- The intervals of the entries make up the numbers from 0 to below 100 without overlapping, and
each is as wide as the share of its entry. -/
structure DividesHundred (slot : Slot) : Prop where
  covers : ⋃ i ∈ Set.Iio slot.entries.length, slot.interval i = Set.Ico 0 100
  apart : Pairwise (Function.onFun Disjoint slot.interval)
  wide : ∀ i entry, slot.entries[i]? = some entry →
    slot.before (i + 1) = slot.before i + entry.probability ∧ 1 ≤ entry.probability

/-- A scaled roll goes to the entry at a position: it comes to a number in the interval of that
entry and in no other, the walk over the running totals stops there, and this is what the slot is
resolved to with every source that rolls it. -/
structure Selects (slot : Slot) (x : Float) (i : Nat) : Prop where
  owned : ∃ value, value? x = some value ∧ ∀ j, (value : ℝ) ∈ slot.interval j ↔ j = i
  stops : ∃ entry, slot.entries[i]? = some entry ∧
    SlotEntry.firstAbove x 0 slot.entries = some entry
  resolved : ∀ {σ : Type} [Source σ] (source : σ), (Source.roll source).1 * 100.0 = x →
    slot.resolve.run source = (slot.entries[i]?, (Source.roll source).2)

theorem before_zero (slot : Slot) : slot.before 0 = 0 := rfl

theorem before_of_length_le (behind : slot.entries.length ≤ i) : slot.before i = slot.total := by
  rw [before, List.take_of_length_le (by simpa using behind), List.sum, List.foldr_map]
  rfl

theorem before_succ {entry : SlotEntry} (there : slot.entries[i]? = some entry) :
    slot.before (i + 1) = slot.before i + entry.probability := by
  simp [before, List.take_add_one, there]

/-- Behind the last entry nothing is left to own. -/
theorem lt_length_of_mem_interval {point : ℝ} (owned : point ∈ slot.interval i) :
    i < slot.entries.length := by
  by_contra behind
  have behind := Nat.le_of_not_lt behind
  rw [interval, before_of_length_le behind, before_of_length_le (Nat.le_succ_of_le behind),
    Set.Ico_self] at owned
  exact owned

section Shares

variable (shares : Definition.SharesHundred slot)
include shares

theorem monotone_before : Monotone slot.before := by
  apply monotone_nat_of_le_succ
  intro i
  cases there : slot.entries[i]? with
  | none =>
    have behind : slot.entries.length ≤ i := List.getElem?_eq_none_iff.1 there
    rw [before_of_length_le behind, before_of_length_le (Nat.le_succ_of_le behind)]
  | some entry =>
    have share := (shares.bounds entry (List.mem_of_getElem? there)).1
    rw [before_succ there]
    omega

theorem pairwise_disjoint_interval : Pairwise (Function.onFun Disjoint slot.interval) :=
  (Int.cast_mono.comp (monotone_before shares)).pairwise_disjoint_on_Ico_succ

/-- The intervals of the first entries make up what lies in front of the next. -/
theorem iUnion_interval (n : Nat) :
    ⋃ i ∈ Set.Iio n, slot.interval i = Set.Ico (0 : ℝ) (slot.before n) := by
  induction n with
  | zero => simp [before_zero]
  | succ n ih =>
    have low : (0 : ℝ) ≤ slot.before n := by
      exact_mod_cast monotone_before shares (Nat.zero_le n)
    have high : (slot.before n : ℝ) ≤ slot.before (n + 1) := by
      exact_mod_cast monotone_before shares (Nat.le_succ n)
    have one : Set.Iio (n + 1) = insert n (Set.Iio n) := Order.Iio_succ_eq_insert n
    rw [one, Set.biUnion_insert, ih, Set.union_comm, interval, Set.Ico_union_Ico_eq_Ico low high]

theorem dividesHundred : slot.DividesHundred where
  covers := by
    rw [iUnion_interval shares, before_of_length_le le_rfl, shares.total]
    norm_num
  apart := pairwise_disjoint_interval shares
  wide i entry there := ⟨before_succ there, (shares.bounds entry (List.mem_of_getElem? there)).1⟩

/-- A number has no more than one owner. -/
theorem eq_of_mem_interval {point : ℝ} (here : point ∈ slot.interval i)
    (there : point ∈ slot.interval j) : i = j := by
  by_contra differ
  exact Set.disjoint_left.1 (pairwise_disjoint_interval shares differ) here there

/-- A greater number has no earlier owner. -/
theorem le_of_mem_interval {low high : ℝ} (ordered : low ≤ high) (here : low ∈ slot.interval i)
    (there : high ∈ slot.interval j) : i ≤ j := by
  by_contra earlier
  have between : (slot.before (j + 1) : ℝ) ≤ slot.before i := by
    exact_mod_cast monotone_before shares (Nat.lt_of_not_le earlier)
  exact absurd there.2 (not_lt.2 (between.trans (here.1.trans ordered)))

theorem selects_of_mem_interval (stands : value? x = some value)
    (owned : (value : ℝ) ∈ slot.interval i) : slot.Selects x i := by
  have inside := lt_length_of_mem_interval owned
  have found : SlotEntry.firstAbove x 0 slot.entries = slot.entries[i]? := by
    have low : (slot.before i : ℚ) ≤ value := by exact_mod_cast owned.1
    have high : value < slot.before (i + 1) := by exact_mod_cast owned.2
    apply SlotEntry.firstAbove_eq_getElem? stands _ inside
    · rw [zero_add]
      exact low
    · rw [zero_add]
      exact high
    · intro entry member
      have share := (shares.bounds entry member).1
      omega
  rw [List.getElem?_eq_getElem inside] at found
  refine ⟨⟨value, stands, fun j => ⟨fun also => eq_of_mem_interval shares also owned, ?_⟩⟩,
    ⟨slot.entries[i], List.getElem?_eq_getElem inside, found⟩, fun source rolled => ?_⟩
  · rintro rfl
    exact owned
  · rw [run_resolve, rolled, entryAt?, found, List.getElem?_eq_getElem inside]
    rfl

theorem exists_selects (stands : value? x = some value) (low : 0 ≤ value) (high : value < 100) :
    ∃ i, slot.Selects x i := by
  have between : (value : ℝ) ∈ Set.Ico (0 : ℝ) 100 :=
    ⟨by exact_mod_cast low, by exact_mod_cast high⟩
  rw [← (dividesHundred shares).covers] at between
  obtain ⟨i, _, owned⟩ := Set.mem_iUnion₂.1 between
  exact ⟨i, selects_of_mem_interval shares stands owned⟩

end Shares

theorem Selects.mem_interval (selects : slot.Selects x i) (stands : value? x = some value) :
    (value : ℝ) ∈ slot.interval i := by
  obtain ⟨same, stands', owned⟩ := selects.owned
  obtain rfl := Option.some.inj (stands.symm.trans stands')
  exact (owned i).2 rfl

theorem Selects.eq (here : slot.Selects x i) (there : slot.Selects x j) : i = j := by
  obtain ⟨value, stands, owned⟩ := there.owned
  exact (owned i).1 (here.mem_interval stands)

/-- The least number that an entry owns is whole, and the roll that comes close enough to it is
less than one. -/
theorem exists_roll_selects (shares : Definition.SharesHundred slot)
    (inside : i < slot.entries.length) :
    ∃ roll : Float, 0 ≤ roll ∧ roll < 1 ∧ slot.Selects (roll * 100.0) i := by
  have share := (shares.bounds _ (List.getElem_mem inside)).1
  have next := before_succ (List.getElem?_eq_getElem inside)
  have low : 0 ≤ slot.before i := monotone_before shares (Nat.zero_le i)
  have high : slot.before (i + 1) ≤ 100 := by
    rw [← shares.total, ← before_of_length_le le_rfl]
    exact monotone_before shares inside
  obtain ⟨n, whole⟩ := Int.eq_ofNat_of_zero_le low
  have below : n < 100 := by omega
  obtain ⟨roll, nonneg, lessOne, value, stands, atLeast, less⟩ := exists_roll below
  have beyond : ((n + 1 : Nat) : Int) ≤ slot.before (i + 1) := by omega
  refine ⟨roll, nonneg, lessOne, selects_of_mem_interval shares stands ⟨?_, ?_⟩⟩
  · rw [whole]
    exact_mod_cast atLeast
  · calc (value : ℝ) < (n + 1 : Nat) := by exact_mod_cast less
      _ ≤ slot.before (i + 1) := by exact_mod_cast beyond

/-- A compiled slot honours the weights of its entries. Their intervals divide the numbers from 0
to below 100, the roll that comes to one of these numbers selects exactly one entry, there is a roll
for every entry, and a greater roll selects no earlier entry. -/
theorem compiled_honours_weights (text : Text) {slot : Slot}
    (compiled : slot ∈ (Definition.compile text).slots) :
    slot.DividesHundred ∧
    (∀ (x : Float) (value : ℚ), value? x = some value → 0 ≤ value → value < 100 →
      ∃! i, slot.Selects x i) ∧
    (∀ i < slot.entries.length,
      ∃ roll : Float, 0 ≤ roll ∧ roll < 1 ∧ slot.Selects (roll * 100.0) i) ∧
    ∀ (x y : Float) (value other : ℚ) (i j : Nat), value? x = some value → value? y = some other →
      value ≤ other → slot.Selects x i → slot.Selects y j → i ≤ j := by
  have shares := Definition.sharesHundred_of_mem_compile compiled
  refine ⟨dividesHundred shares, fun x value stands low high => ?_,
    fun i inside => exists_roll_selects shares inside,
    fun x y value other i j stands stands' ordered first second => ?_⟩
  · obtain ⟨i, selects⟩ := exists_selects shares stands low high
    exact ⟨i, selects, fun j also => also.eq selects⟩
  · have ordered : (value : ℝ) ≤ other := by exact_mod_cast ordered
    exact le_of_mem_interval shares ordered (first.mem_interval stands)
      (second.mem_interval stands')

/-- Where the rare entry ends, the mythic one begins. -/
theorem compiled_honours_weights_boundary :
    let text : Text := "neo:r,75,m,25"
    let slot : Slot := ⟨[⟨.rare, 75, some "neo"⟩, ⟨.mythic, 25, none⟩]⟩
    slot ∈ (Definition.compile text).slots ∧ slot.DividesHundred ∧
      value? (0.75 * 100.0) = some 75 ∧ slot.Selects (0.75 * 100.0) 1 := by
  intro text slot
  have compiled : slot ∈ (Definition.compile text).slots := by decide +kernel
  have stands : value? (0.75 * 100.0) = some 75 := by decide +kernel
  obtain ⟨divides, decided, _⟩ := compiled_honours_weights text compiled
  have low : slot.before 1 = 75 := by decide
  have high : slot.before 2 = 100 := by decide
  have second : ((75 : ℚ) : ℝ) ∈ slot.interval 1 := by
    rw [interval, low, high]
    norm_num
  obtain ⟨i, selects, _⟩ := decided _ 75 stands (by norm_num) (by norm_num)
  obtain ⟨value, stands', owned⟩ := selects.owned
  obtain rfl := Option.some.inj (stands.symm.trans stands')
  rw [← (owned 1).1 second] at selects
  exact ⟨compiled, divides, stands, selects⟩

end Slot
end PackOpening
