import Mathlib
import PackOpening.Numeric.FloatParts

/-!
The numbers that floating-point numbers stand for.

A finite one stands for a whole significand times a power of two. The comparison with a whole
number, which is carried out on whole numbers, is that of these numbers.
-/
namespace PackOpening.Numeric

/-- The number that finite parts stand for. -/
def FloatParts.value? : FloatParts → Option ℚ
  | .finite negative significand exponent =>
    some ((if negative then -(significand : ℚ) else significand) * 2 ^ exponent)
  | _ => none

/-- The number that a floating-point number stands for, unless it is infinite or no number. -/
def value? (x : Float) : Option ℚ := (FloatParts.ofFloat x).value?

theorem cast_twoTo (n : Nat) : ((twoTo n : Nat) : ℚ) = 2 ^ n := by
  simp [twoTo]

/-- The side on which a power of two is whole takes it over from the other. -/
theorem two_zpow_mul_twoTo (exponent : Int) :
    (2 : ℚ) ^ exponent * (twoTo (-exponent).toNat : Nat) = (twoTo exponent.toNat : Nat) := by
  rw [cast_twoTo, cast_twoTo, ← zpow_natCast, ← zpow_natCast, ← zpow_add₀ two_ne_zero]
  congr 1
  omega

theorem FloatParts.below_iff {parts : FloatParts} {value : ℚ} (stands : parts.value? = some value)
    (n : Int) : parts.below n = true ↔ value < n := by
  cases parts with
  | nan => cases stands
  | infinite negative => cases stands
  | finite negative significand exponent =>
    obtain rfl := Option.some.inj stands
    have positive : (0 : ℚ) < (twoTo (-exponent).toNat : Nat) := by
      rw [cast_twoTo]
      positivity
    have scaled (signed : Int) : signed * twoTo exponent.toNat < n * twoTo (-exponent).toNat ↔
        (signed : ℚ) * 2 ^ exponent < n := by
      rw [← mul_lt_mul_iff_left₀ positive, mul_assoc, two_zpow_mul_twoTo]
      exact_mod_cast Iff.rfl
    cases negative with
    | true => simpa [below] using scaled (-(significand : Int))
    | false => simpa [below] using scaled significand

/-- A number lies below a whole number when what it stands for is less. -/
theorem isBelow_iff {x : Float} {value : ℚ} (stands : value? x = some value) (n : Int) :
    isBelow x n = true ↔ value < n :=
  FloatParts.below_iff stands n

/-- Only finite numbers lie between whole numbers. -/
theorem FloatParts.exists_value_of_below {parts : FloatParts} {low high : Int}
    (above : parts.below low = false) (below : parts.below high = true) :
    ∃ value, parts.value? = some value := by
  cases parts with
  | nan => cases below
  | infinite negative => exact absurd (above.symm.trans below) Bool.false_ne_true
  | finite negative significand exponent => exact ⟨_, rfl⟩

theorem exists_value_of_isBelow {x : Float} {low high : Int} (above : isBelow x low = false)
    (below : isBelow x high = true) :
    ∃ value : ℚ, value? x = some value ∧ low ≤ value ∧ value < high := by
  obtain ⟨value, stands⟩ := FloatParts.exists_value_of_below above below
  have atLeast : ¬ value < low := by
    rw [← isBelow_iff stands, above]
    exact Bool.false_ne_true
  exact ⟨value, stands, not_lt.1 atLeast, (isBelow_iff stands high).1 below⟩

end PackOpening.Numeric
