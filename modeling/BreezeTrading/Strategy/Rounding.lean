/-
This file proves what rounding half to even keeps: it is monotone, it leaves what is on the
grid where it is, and it moves a number by half a unit at most.
-/

import BreezeTrading.Strategy.RiskGates

namespace BreezeTrading

/-! ### Half to even -/

section HalfEven

theorem floor_le_roundHalfEven (number : ℚ) : number.floor ≤ roundHalfEven number := by
  unfold roundHalfEven
  dsimp only
  split_ifs <;> omega

theorem roundHalfEven_le_floor_add_one (number : ℚ) :
    roundHalfEven number ≤ number.floor + 1 := by
  unfold roundHalfEven
  dsimp only
  split_ifs <;> omega

theorem roundHalfEven_intCast (number : Int) : roundHalfEven number = number := by
  unfold roundHalfEven
  have exactly : ((number : ℚ)).floor = number := Rat.floor_intCast number
  simp [exactly]

theorem roundHalfEven_mono {first second : ℚ} (le : first ≤ second) :
    roundHalfEven first ≤ roundHalfEven second := by
  have floors : first.floor ≤ second.floor := Rat.floor_monotone le
  rcases floors.lt_or_eq with below | same
  · calc roundHalfEven first ≤ first.floor + 1 := roundHalfEven_le_floor_add_one first
      _ ≤ second.floor := below
      _ ≤ roundHalfEven second := floor_le_roundHalfEven second
  · unfold roundHalfEven
    dsimp only
    rw [← same]
    have remainders : first - first.floor ≤ second - first.floor := by linarith
    split_ifs <;> first | omega | (exfalso; linarith)

/-- An integer is the nearest one to a number, and even where another one is as near. -/
def Nearest (number : ℚ) (integer : Int) : Prop :=
  |number - integer| < 1 / 2 ∨ |number - integer| = 1 / 2 ∧ integer % 2 = 0

theorem nearest_roundHalfEven (number : ℚ) : Nearest number (roundHalfEven number) := by
  have below : (number.floor : ℚ) ≤ number := Rat.floor_le number
  have above : number < number.floor + 1 := by exact_mod_cast Rat.lt_floor_add_one number
  have distance : |number - number.floor| = number - number.floor :=
    abs_of_nonneg (by linarith)
  have distanceAbove : |number - ((number.floor + 1 : Int) : ℚ)| = number.floor + 1 - number := by
    push_cast
    rw [abs_sub_comm]
    exact abs_of_nonneg (by linarith)
  unfold roundHalfEven Nearest
  dsimp only
  split_ifs with near far even
  · exact .inl (by linarith)
  · exact .inl (by linarith)
  · exact .inr ⟨by linarith, even⟩
  · exact .inr ⟨by linarith, by omega⟩

theorem Nearest.le {number : ℚ} {first second : Int} (left : Nearest number first)
    (right : Nearest number second) : first ≤ second := by
  have leftBound : |number - first| ≤ 1 / 2 := left.elim le_of_lt fun tie => tie.1.le
  have rightBound : |number - second| ≤ 1 / 2 := right.elim le_of_lt fun tie => tie.1.le
  rw [abs_le] at leftBound rightBound
  by_contra above
  have next : (second : ℚ) + 1 ≤ first := by exact_mod_cast not_le.mp above
  -- both are half a unit away, and neighbours are not both even
  have firstIsHalf : |number - first| = 1 / 2 := by
    rw [abs_of_nonpos (by linarith)]
    linarith
  have secondIsHalf : |number - second| = 1 / 2 := by
    rw [abs_of_nonneg (by linarith)]
    linarith
  have neighbours : (first : ℚ) = second + 1 := by linarith
  have integers : first = second + 1 := by exact_mod_cast neighbours
  have firstEven : first % 2 = 0 := left.elim (fun less => absurd firstIsHalf less.ne) And.right
  have secondEven : second % 2 = 0 :=
    right.elim (fun less => absurd secondIsHalf less.ne) And.right
  omega

theorem roundHalfEven_eq_iff (number : ℚ) (integer : Int) :
    roundHalfEven number = integer ↔ Nearest number integer := by
  constructor
  · rintro rfl
    exact nearest_roundHalfEven number
  · intro nearest
    exact le_antisymm ((nearest_roundHalfEven number).le nearest)
      (nearest.le (nearest_roundHalfEven number))

end HalfEven

/-! ### Digits -/

section Digits

variable (digits : Nat)

theorem roundTo_mono : Monotone (roundTo digits) := by
  intro first second le
  have scaled : first * 10 ^ digits ≤ second * 10 ^ digits :=
    mul_le_mul_of_nonneg_right le (by positivity)
  exact div_le_div_of_nonneg_right (by exact_mod_cast roundHalfEven_mono scaled) (by positivity)

theorem roundTo_roundTo (number : ℚ) :
    roundTo digits (roundTo digits number) = roundTo digits number := by
  have scale : (10 : ℚ) ^ digits ≠ 0 := by positivity
  unfold roundTo
  rw [div_mul_cancel₀ _ scale, roundHalfEven_intCast]

end Digits

end BreezeTrading
