import ClusterOperator.Duration.Basic
import Mathlib

/-!
# Rounding to a whole number

The rounded quotient is the nearest whole number, and of two such numbers the even one. There is no
other number like that.
-/

namespace ClusterOperator

variable {numerator denominator whole : ℕ} {exact : ℚ}

/-- The rounded quotient differs from the quotient by less than one half, or by one half and is
even. -/
theorem roundDivEven_cases (positive : 0 < denominator) :
    2 * numerator < 2 * (roundDivEven numerator denominator * denominator) + denominator ∧
        2 * (roundDivEven numerator denominator * denominator) < 2 * numerator + denominator ∨
      roundDivEven numerator denominator % 2 = 0 ∧
        (2 * numerator = 2 * (roundDivEven numerator denominator * denominator) + denominator ∨
          2 * (roundDivEven numerator denominator * denominator) = 2 * numerator + denominator) := by
  have whole := Nat.div_add_mod numerator denominator
  have rest := Nat.mod_lt numerator positive
  rw [Nat.mul_comm] at whole
  unfold roundDivEven
  dsimp only
  split
  · omega
  · split
    · rw [Nat.add_mul]
      omega
    · rcases Nat.mod_two_eq_zero_or_one (numerator / denominator) with even | odd
      · rw [even, Nat.add_zero]
        omega
      · rw [odd, Nat.add_mul]
        omega

/-- The whole number is a nearest one, and even if there is another one. -/
structure IsRounded (exact : ℚ) (whole : ℕ) : Prop where
  near : |(whole : ℚ) - exact| ≤ 1 / 2
  even : |(whole : ℚ) - exact| = 1 / 2 → whole % 2 = 0

theorem IsRounded.unique {other : ℕ} (rounded : IsRounded exact whole)
    (same : IsRounded exact other) : whole = other := by
  by_contra apart
  wlog less : whole < other generalizing whole other
  · exact this same rounded (Ne.symm apart) (by omega)
  have near := abs_le.mp rounded.near
  have otherNear := abs_le.mp same.near
  have next : (whole : ℚ) + 1 ≤ other := by exact_mod_cast less
  -- both are one half away, on either side
  have below : (whole : ℚ) - exact = -(1 / 2) := by linarith
  have above : (other : ℚ) - exact = 1 / 2 := by linarith
  have even := rounded.even (by rw [below]; norm_num)
  have otherEven := same.even (by rw [above]; norm_num)
  have neighbours : (other : ℚ) = (whole + 1 : ℕ) := by
    push_cast
    linarith
  have neighbours : other = whole + 1 := by exact_mod_cast neighbours
  omega

theorem IsRounded.of_whole (whole : ℕ) : IsRounded whole whole := by
  have exact : |(whole : ℚ) - whole| = 0 := by rw [sub_self, abs_zero]
  refine ⟨by rw [exact]; norm_num, ?_⟩
  rw [exact]
  norm_num

/-- What is less than one half away is rounded. -/
theorem IsRounded.of_near (near : |(whole : ℚ) - exact| < 1 / 2) : IsRounded exact whole :=
  ⟨near.le, fun half => absurd half near.ne⟩

theorem roundDivEven_isRounded (positive : 0 < denominator) :
    IsRounded (numerator / denominator) (roundDivEven numerator denominator) := by
  have scale : (0 : ℚ) < denominator := by exact_mod_cast positive
  have difference : (roundDivEven numerator denominator : ℚ) - numerator / denominator =
      (roundDivEven numerator denominator * denominator - numerator) / denominator := by
    field_simp
  rcases @roundDivEven_cases numerator denominator positive with ⟨below, above⟩ | ⟨even, half⟩
  · apply IsRounded.of_near
    have below : (2 * numerator : ℚ) <
        2 * (roundDivEven numerator denominator * denominator) + denominator := by
      exact_mod_cast below
    have above : (2 * (roundDivEven numerator denominator * denominator) : ℚ) <
        2 * numerator + denominator := by exact_mod_cast above
    rw [difference, abs_div, abs_of_pos scale, div_lt_iff₀ scale, abs_lt]
    constructor
    · linarith
    · linarith
  · refine ⟨?_, fun _ => even⟩
    rw [difference, abs_div, abs_of_pos scale, div_le_iff₀ scale, abs_le]
    rcases half with half | half
    · have half : (2 * numerator : ℚ) =
          2 * (roundDivEven numerator denominator * denominator) + denominator := by
        exact_mod_cast half
      constructor
      · linarith
      · linarith
    · have half : (2 * (roundDivEven numerator denominator * denominator) : ℚ) =
          2 * numerator + denominator := by exact_mod_cast half
      constructor
      · linarith
      · linarith

end ClusterOperator
